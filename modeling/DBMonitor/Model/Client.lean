import DBMonitor.Library.WeakestPre
import DBMonitor.Model.DetailList
import DBMonitor.World.Operation

namespace DBMonitor

structure MysqlError where
  number : Nat
  text : String
  deriving DecidableEq, Repr

structure MysqlException where
  name : String := "MysqlException"
  reason : String
  connection : Option HostRef := none
  errorNumber : Nat := 0
  deriving DecidableEq, Repr

inductive Failure where
  | mysqlException (e : MysqlException)
  | nullDereference
  deriving DecidableEq, Repr

inductive SlaveResult where
  | empty (fields : List String)
  | row (columns : List (String × Option String))
  deriving DecidableEq, Repr

-- What the calls of the client library answer while one operation runs. Whether
-- mysql_fetch_row answers NULL for a NULL result or reads through it is left to the library.
structure Server where
  connect : Option MysqlError := none
  prepare : Option MysqlError := none
  unbound : Option Nat := none
  bind : Option MysqlError := none
  execute : Option MysqlError := none
  fetch : List (Except MysqlError (Time × QueryRow)) := []
  slaveQuery : Option MysqlError := none
  slaveResult : Option SlaveResult := none
  statusQuery : Option MysqlError := none
  statusResult : Option (List StatusRow) := none
  fetchesNull : Bool := false
  kill : Option MysqlError := none

structure Session where
  doc : Document
  detailList : DetailList
  issued : List (Option HostRef × String)
  mainQueue : List Block

abbrev Action (α : Type) : Type := Program Failure Session α

-- @catch (MysqlException *e): nothing catches a read through NULL.
def catching {α : Type} (body : Action α) (handler : MysqlException → Action α) : Action α :=
  tryCatch body fun failure =>
    match failure with
    | .mysqlException e => handler e
    | .nullDereference => throw .nullDereference

def issue (connection : Option HostRef) (statement : String) : Action PUnit :=
  modify fun s => { s with issued := s.issued ++ [(connection, statement)] }

def mysqlQuery (connection : Option HostRef) (statement : String) (outcome : Option MysqlError) :
    Action (Option MysqlError) := do
  issue connection statement
  match connection with
  | none => throw .nullDereference
  | some _ => pure outcome

def raiseConnection {α : Type} (connection : Option HostRef) (reason : String)
    (errorNumber : Nat) : Action α :=
  throw (.mysqlException
    { reason := reason
      connection := connection
      errorNumber := if connection.isSome then errorNumber else 0 })

def raiseFailed (connection : Option HostRef) (what : String) : Option MysqlError → Action PUnit
  | none => pure ⟨⟩
  | some error => raiseConnection connection
      ("Could not " ++ what ++ " Error #" ++ toString error.number ++ ":" ++ error.text)
      error.number

def MysqlConnection.connectToServer (server : Server) (aHost : HostRef) :
    Action (Option HostRef) :=
  match server.connect with
  | some error => raiseConnection (some aHost)
      ("Failed to connect: Error: " ++ error.text ++ "\n") error.number
  | none => pure (some aHost)

-- mysql_close issues no statement and reports nothing.
def MysqlConnection.forceDisconnect (_connection : Option HostRef) : Action PUnit := pure ⟨⟩

namespace MysqlFetch

def processList : String :=
  "select * from INFORMATION_SCHEMA.PROCESSLIST where Command!='Sleep' and " ++
    "Command!='Binlog Dump' and User!='system user'"

def fetchRows (connection : Option HostRef) :
    List (Except MysqlError (Time × QueryRow)) → Action (List (Time × QueryRow))
  | [] => pure []
  | .error error :: _ => do
    raiseFailed connection "perform mysql_stmt_fetch()" (some error)
    pure []
  | .ok row :: replies => do
    let rows ← fetchRows connection replies
    pure (row :: rows)

def bindFields : Option Nat → Action PUnit
  | none => pure ⟨⟩
  | some fieldType => throw (.mysqlException
      { name := "No Binding"
        reason := "No binding support for field type " ++ toString fieldType })

def fetchWithCommand (server : Server) (command : String) (connection : Option HostRef) :
    Action (List (Time × QueryRow)) :=
  match connection with
  | none => raiseConnection none "connection is nil" 0
  | some _ => do
    issue connection command
    raiseFailed connection "perform mysql_stmt_bind_result()" server.prepare
    bindFields server.unbound
    raiseFailed connection "perform mysql_stmt_bind_result()" server.bind
    raiseFailed connection "perform mysql_stmt_execute()" server.execute
    fetchRows connection server.fetch

end MysqlFetch

namespace MysqlSlaveStatus

def knownFields : List String :=
  ["Master_Server_Id", "Master_Host", "Master_User", "Master_Port", "Connect_Retry",
    "Master_Log_File", "Read_Master_Log_Pos", "Relay_Log_File", "Relay_Log_Pos", "Slave_IO_State",
    "Slave_IO_Running", "Slave_SQL_Running", "Exec_Master_Log_Pos", "Seconds_Behind_Master",
    "Last_SQL_Error", "Last_IO_Error"]

-- [NSString stringWithFormat:@"%s", row[i]] prints a NULL cell as (null).
def columnText (cell : Option String) : Option String := some (cell.getD "(null)")

def columnNumber (cell : Option String) : UInt64 :=
  cell.elim 0 (fun text => nsUInteger (atoi text))

def storeColumn (status : MysqlSlaveStatus) (column : String × Option String) : MysqlSlaveStatus :=
  if column.1 = "Master_Host" then { status with masterHost := columnText column.2 }
  else if column.1 = "Master_Log_File" then { status with masterLogFile := columnText column.2 }
  else if column.1 = "Read_Master_Log_Pos" then
    { status with masterLogPosition := columnNumber column.2 }
  else if column.1 = "Relay_Log_File" then { status with relayLogFile := columnText column.2 }
  else if column.1 = "Relay_Log_Pos" then
    { status with relayLogPosition := columnNumber column.2 }
  else if column.1 = "Slave_IO_State" then { status with slaveIOState := columnText column.2 }
  else if column.1 = "Slave_IO_Running" then
    { status with slaveIORunning := decide (column.2 = some "Yes") }
  else if column.1 = "Slave_SQL_Running" then
    { status with slaveSQLRunning := decide (column.2 = some "Yes") }
  else if column.1 = "Seconds_Behind_Master" then
    { status with secondsBehindMaster := column.2.elim (-1) atoi }
  else if column.1 = "Last_SQL_Error" then { status with slaveSQLError := columnText column.2 }
  else if column.1 = "Last_IO_Error" then { status with slaveIOError := columnText column.2 }
  else status

-- Without a row the first column it knows is read through a NULL row.
def fetchStatus : Option SlaveResult → Action MysqlSlaveStatus
  | none => throw .nullDereference
  | some (.empty fields) =>
    if fields.any knownFields.contains then throw .nullDereference else pure {}
  | some (.row columns) => pure (columns.foldl storeColumn {})

def statusForConnection (server : Server) (connection : Option HostRef) :
    Action MysqlSlaveStatus := do
  let outcome ← mysqlQuery connection "show slave status" server.slaveQuery
  raiseFailed connection "show slave status" outcome
  fetchStatus server.slaveResult

end MysqlSlaveStatus

namespace MysqlStatus

def showStatus : String :=
  "show status where Variable_name='Innodb_data_reads' or Variable_name='Threads_connected' or " ++
    "Variable_name='Innodb_data_writes' or Variable_name='Innodb_buffer_pool_pages_total' or " ++
    "Variable_name='Innodb_buffer_pool_pages_free' or Variable_name='Slow_queries';"

def fetchResult (server : Server) : Action MysqlStatus :=
  match server.statusResult with
  | some rows => pure (fetchStatus rows)
  | none => if server.fetchesNull then pure (fetchStatus []) else throw .nullDereference

def statusForConnection (server : Server) (connection : Option HostRef) : Action MysqlStatus := do
  let outcome ← mysqlQuery connection showStatus server.statusQuery
  raiseFailed connection "show status" outcome
  fetchResult server

end MysqlStatus

def MysqlKill.killProcess (server : Server) (connection : Option HostRef) (processID : String) :
    Action PUnit := do
  let outcome ← mysqlQuery connection ("kill " ++ processID) server.kill
  raiseFailed connection "show slave status" outcome

namespace Session

def begin (doc : Document) (detailList : DetailList) : Session := ⟨doc, detailList, [], []⟩

def connectToHost (server : Server) (aHost : HostRef) : Action (Option HostRef) :=
  catching (MysqlConnection.connectToServer server aHost) (fun _ => pure none)

def updateMySQLQueries (server : Server) (connection : Option HostRef) (aHost : HostRef) :
    Action PUnit := do
  let slowFetch ← catching
    (some <$> MysqlFetch.fetchWithCommand server MysqlFetch.processList connection)
    (fun _ => pure none)
  modify fun s => { s with
    detailList :=
      s.detailList.updateMySQLQueries s.doc.conf aHost (slowFetch.map (List.map Prod.snd))
    doc := s.doc.updateMySQLQueries aHost slowFetch }

def updateMySQLSlaveStatus (server : Server) (now : Time) (connection : Option HostRef)
    (aHost : HostRef) : Action PUnit := do
  let slaveStatus ← catching (some <$> MysqlSlaveStatus.statusForConnection server connection)
    (fun _ => pure none)
  modify fun s => { s with
    doc := s.doc.updateMySQLSlaveStatus now aHost slaveStatus
    detailList := s.detailList.updateMySQLSlaveStatus s.doc.conf aHost slaveStatus }

def updateMySQLStatistics (server : Server) (now : Time) (connection : Option HostRef)
    (aHost : HostRef) : Action PUnit := do
  let s ← get
  let myEntry := s.detailList.myEntry s.doc.conf aHost
  if s.detailList.isDue myEntry then
    let serverStatus ← catching (some <$> MysqlStatus.statusForConnection server connection)
      (fun _ => pure none)
    modify fun s => { s with
      detailList := serverStatus.elim s.detailList
        (fun status => s.detailList.write myEntry (DBMDetailEntry.recordStatus now status)) }
  else
    modify fun s => { s with detailList := s.detailList.write myEntry DBMDetailEntry.countDown }

structure PollRun where
  cancelledAtStart : Bool := false
  cancelledAtEnd : Bool := false
  replicatedAt : Time := 0
  sampledAt : Time := 0
  failedAt : Time := 0

def updateSlave (server : Server) (now : Time) (connection : Option HostRef) (aHost : HostRef) :
    Action PUnit := do
  let s ← get
  if s.doc.conf.isSlave aHost then updateMySQLSlaveStatus server now connection aHost else pure ⟨⟩

def updateHost (server : Server) (run : PollRun) (aHost : HostRef) : Option HostRef → Action PUnit
  | some connection => do
    updateMySQLQueries server (some connection) aHost
    updateSlave server run.replicatedAt (some connection) aHost
    updateMySQLStatistics server run.sampledAt (some connection) aHost
    MysqlConnection.forceDisconnect (some connection)
  | none => modify fun s => { s with doc := s.doc.updateMySQLFail run.failedAt aHost }

def poll (server : Server) (run : PollRun) (aHost : HostRef) : Action PUnit := do
  modify fun s => { s with doc := s.doc.clearUpdates aHost }
  let connection ← connectToHost server aHost
  updateHost server run aHost connection
  modify fun s => { s with doc := s.doc.discardMySQLDead aHost }

def generateMySQLOperation (server : Server) (run : PollRun) (aHost : HostRef) : Action PUnit :=
  if run.cancelledAtStart then pure ⟨⟩
  else do
    poll server run aHost
    if run.cancelledAtEnd then pure ⟨⟩
    else modify fun s => { s with mainQueue := s.mainQueue ++ [.reschedule aHost] }

def killEnded (server : Server) (accept : Bool) (entry : DBMLogEntry) : Action PUnit :=
  if accept then do
    let connection ← connectToHost server entry.eventHost
    MysqlKill.killProcess server connection entry.processID
  else pure ⟨⟩

end Session

end DBMonitor
