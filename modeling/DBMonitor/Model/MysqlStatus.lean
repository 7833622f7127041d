import DBMonitor.Model.LogEntry

namespace DBMonitor

structure StatusRow where
  name : String
  value : Option String
  deriving DecidableEq, Repr

structure MysqlStatus where
  threadsConnected : UInt64 := 0
  innodbDataReads : UInt64 := 0
  innodbDataWrites : UInt64 := 0
  innodbPagesTotal : UInt64 := 0
  innodbPagesFree : UInt64 := 0
  slowQueries : UInt64 := 0
  deriving DecidableEq, Repr

def isSpace (c : Char) : Bool := c = ' ' || ('\t' ≤ c && c ≤ '\r')

def digitsValue (cs : List Char) : Nat :=
  cs.foldl (fun n c => 10 * n + (c.toNat - '0'.toNat)) 0

def longMax : Int := 9223372036854775807

-- strtol stops at the first character that is no digit, and saturates.
def strtol (text : String) : Int :=
  match text.toList.dropWhile isSpace with
  | '-' :: cs => max (-(digitsValue (cs.takeWhile Char.isDigit) : Int)) (-longMax - 1)
  | '+' :: cs => min (digitsValue (cs.takeWhile Char.isDigit)) longMax
  | cs => min (digitsValue (cs.takeWhile Char.isDigit)) longMax

def atoi (text : String) : Int := intValue (strtol text)

def nsUInteger (n : Int) : UInt64 := UInt64.ofInt n

namespace MysqlStatus

def storeRow (status : MysqlStatus) (row : StatusRow) : MysqlStatus :=
  let value := row.value.elim 0 (fun text => nsUInteger (atoi text))
  if row.name = "Threads_connected" then { status with threadsConnected := value }
  else if row.name = "Innodb_data_reads" then { status with innodbDataReads := value }
  else if row.name = "Innodb_data_writes" then { status with innodbDataWrites := value }
  else if row.name = "Innodb_buffer_pool_pages_total" then { status with innodbPagesTotal := value }
  else if row.name = "Innodb_buffer_pool_pages_free" then { status with innodbPagesFree := value }
  else if row.name = "Slow_queries" then { status with slowQueries := value }
  else status

def fetchStatus (rows : List StatusRow) : MysqlStatus := rows.foldl storeRow {}

def fields (status : MysqlStatus) : List (String × UInt64) :=
  [("Threads_connected", status.threadsConnected), ("Innodb_data_reads", status.innodbDataReads),
    ("Innodb_data_writes", status.innodbDataWrites),
    ("Innodb_buffer_pool_pages_total", status.innodbPagesTotal),
    ("Innodb_buffer_pool_pages_free", status.innodbPagesFree),
    ("Slow_queries", status.slowQueries)]

end MysqlStatus

end DBMonitor
