import DBMonitor.Library.ObjectArray
import DBMonitor.Model.LogEntry

namespace DBMonitor

structure Document where
  dataList : ObjectArray DBMLogEntry
  conf : Configuration
  sliderValue : Int
  trackQuery : Int
  selectedRow : Int
  currentLogEntry : Option EntryRef

namespace Document

def initial (conf : Configuration) (sliderValue trackQuery : Int) : Document where
  dataList := ObjectArray.empty (DBMLogEntry.initWithHost 0 "" 0)
  conf := conf
  sliderValue := sliderValue
  trackQuery := trackQuery
  selectedRow := -1
  currentLogEntry := none

abbrev items (d : Document) : List EntryRef := d.dataList.items

abbrev entry (d : Document) (r : EntryRef) : DBMLogEntry := d.dataList.heap r

-- The row is signed and the count unsigned, so row -1 is not below any count.
def objectAtRow (d : Document) (row : Int) : Option EntryRef :=
  if 0 ≤ row then d.items[row.toNat]? else none

def tableViewSelectionDidChange (d : Document) : Document :=
  { d with currentLogEntry := d.objectAtRow d.selectedRow }

def selectRow (row : Int) (d : Document) : Document :=
  if row = d.selectedRow then d else tableViewSelectionDidChange { d with selectedRow := row }

def matchesKey (c : Configuration) (aHost : HostRef) (pid : String) (e : DBMLogEntry) : Bool :=
  c.sameHostname e.eventHost aHost && decide (e.processID = pid)

def find (d : Document) (aHost : HostRef) (pid : String) : Option EntryRef :=
  d.dataList.lastMatch (matchesKey d.conf aHost pid)

def fileEntry (now : Time) (aHost : HostRef) (pid : String)
    (create write : DBMLogEntry → DBMLogEntry) (d : Document) : Document :=
  { d with
    dataList := d.dataList.upsert (matchesKey d.conf aHost pid)
      (create (DBMLogEntry.initWithHost aHost pid now)) write }

def clearMark (c : Configuration) (aHost : HostRef) (e : DBMLogEntry) : DBMLogEntry :=
  if c.sameHostname e.eventHost aHost then { e with updated := false } else e

def clearUpdates (aHost : HostRef) (d : Document) : Document :=
  { d with dataList := d.dataList.mapObjects (clearMark d.conf aHost) }

def displayDeadline (d : Document) (now : Time) : Time := now + d.sliderValue * second

def qualifies (c : Configuration) (aHost : HostRef) (row : QueryRow) : Bool :=
  row.info.isSome && decide (intValue row.time > c.monitorTimer aHost)

def recordRow (d : Document) (now : Time) (aHost : HostRef) (row : QueryRow) (e : DBMLogEntry) :
    DBMLogEntry :=
  { e with
    updated := true
    eventString := some row.logString
    duration := row.recordedDuration
    displayTimeout :=
      if row.recordedDuration ≥ d.conf.triggerTimer aHost then some (d.displayDeadline now)
      else none
    query := some row }

def updateRow (now : Time) (aHost : HostRef) (row : QueryRow) (d : Document) : Document :=
  if qualifies d.conf aHost row then
    d.fileEntry now aHost (printID row.id) id (d.recordRow now aHost row)
  else d

def updateMySQLQueries (aHost : HostRef) (results : Option (List (Time × QueryRow)))
    (d : Document) : Document :=
  match results with
  | none => d
  | some rows => rows.foldl (fun d row => updateRow row.1 aHost row.2 d) d

def elapsed (now : Time) (e : DBMLogEntry) : Int := intValue ((now - e.eventTime).tdiv second)

def recordStatus (d : Document) (now : Time) (aHost : HostRef) (status : MysqlSlaveStatus)
    (e : DBMLogEntry) : DBMLogEntry :=
  let duration :=
    if status.secondsBehindMaster > 1 then intValue status.secondsBehindMaster else elapsed now e
  { e with
    updated := true
    slaveStatus := some status
    eventString :=
      if status.secondsBehindMaster > 1 then some "Replication has fallen behind"
      else some "Replication is Broken!"
    duration := duration
    displayTimeout :=
      if duration ≥ d.conf.triggerTimer aHost then some (d.displayDeadline now)
      else e.displayTimeout }

def updateMySQLSlaveStatus (now : Time) (aHost : HostRef) (slaveStatus : Option MysqlSlaveStatus)
    (d : Document) : Document :=
  match slaveStatus with
  | none => d
  | some status =>
    if status.unhealthy then d.fileEntry now aHost replicationID id (d.recordStatus now aHost status)
    else d

def nameFailure (e : DBMLogEntry) : DBMLogEntry :=
  { e with eventString := some "Could not connect to host!" }

def recordFailure (now : Time) (e : DBMLogEntry) : DBMLogEntry :=
  { e with updated := true, duration := elapsed now e }

def updateMySQLFail (now : Time) (aHost : HostRef) (d : Document) : Document :=
  d.fileEntry now aHost connectFailID nameFailure (recordFailure now)

def relabel (e : DBMLogEntry) : DBMLogEntry := { e with dead := true, processID := deadProcess }

def discardStep (d : Document) (aHost : HostRef) (r : EntryRef) (e : DBMLogEntry) :
    DBMLogEntry × List EntryRef :=
  if d.conf.sameHostname e.eventHost aHost then
    if e.updated = false then
      if e.displayTimeout = none then (e, [r])
      else if d.trackQuery = 0 then (e, [r])
      else (relabel e, [])
    else (e, [])
  else (e, [])

def discardMySQLDead (aHost : HostRef) (d : Document) : Document :=
  let (dataList, discards) := d.dataList.forEach (d.discardStep aHost)
  { d with dataList := dataList.removeObjects discards }

def markInactive (d : Document) (e : DBMLogEntry) : DBMLogEntry × List HostRef :=
  if d.conf.isActive e.eventHost then (e, [])
  else ({ e with dead := true, displayTimeout := none }, [e.eventHost])

def expireTimeout (d : Document) (now : Time) (e : DBMLogEntry) : DBMLogEntry :=
  match e.displayTimeout with
  | some timeout =>
    if 0 ≤ d.sliderValue ∧ timeout < now then { e with displayTimeout := none } else e
  | none => e

def purgeStep (d : Document) (now : Time) (e : DBMLogEntry) : DBMLogEntry × List HostRef :=
  (d.expireTimeout now (d.markInactive e).1, (d.markInactive e).2)

def discardAll (hosts : List HostRef) (d : Document) : Document :=
  hosts.foldl (fun d aHost => discardMySQLDead aHost d) d

def purge (now : Time) (d : Document) : Document :=
  let (dataList, deadHosts) := d.dataList.forEach (fun _ => d.purgeStep now)
  discardAll deadHosts { d with dataList := dataList }

def alignSelection (d : Document) : Document × Option EntryRef :=
  if d.objectAtRow d.selectedRow = d.currentLogEntry then (d, d.currentLogEntry)
  else
    match d.currentLogEntry with
    | some current =>
      if current ∈ d.items then (d.selectRow (d.items.idxOf current), some current)
      else (d.selectRow (-1), none)
    | none => (d.selectRow (-1), none)

def selectEntry (selected : EntryRef) (d : Document) : Document :=
  d.items.zipIdx.foldl (fun d p => if p.1 = selected then d.selectRow p.2 else d) d

def reselect (selected : Option EntryRef) (d : Document) : Document :=
  match selected with
  | none => d
  | some e => if e ∈ d.items then d.selectEntry e else d.selectRow (-1)

def sortDataList (order : List EntryRef) (d : Document) : Document :=
  { d with dataList := d.dataList.reorder order }

def refresh (now : Time) (order : List EntryRef) (d : Document) : Document :=
  (((d.alignSelection.1).purge now).sortDataList order).reselect d.alignSelection.2

-- A row that vanished clears the selection of the other table here, so logView keeps its own.
def sortDescriptorsDidChange (order : List EntryRef) (d : Document) : Document :=
  match d.objectAtRow d.selectedRow with
  | none => d.sortDataList order
  | some e => (d.sortDataList order).selectEntry e

def killProcess (d : Document) : Document :=
  match d.objectAtRow d.selectedRow with
  | none => d
  | some r =>
    if (d.entry r).processID = connectFailID ∨ (d.entry r).processID = deadProcess then
      { d with dataList := d.dataList.removeObjectAtIndex d.selectedRow.toNat }
    else d

def killTarget (d : Document) : Option EntryRef :=
  (d.objectAtRow d.selectedRow).filter fun r =>
    decide ((d.entry r).processID ≠ replicationID) && decide ((d.entry r).processID ≠ connectFailID)
      && decide ((d.entry r).processID ≠ deadProcess)

inductive Poll where
  | refused (now : Time)
  | connected (results : Option (List (Time × QueryRow))) (now : Time)
      (slaveStatus : Option MysqlSlaveStatus)

def generateMySQLOperation (aHost : HostRef) (poll : Poll) (d : Document) : Document :=
  let cleared := clearUpdates aHost d
  let updated :=
    match poll with
    | .refused now => updateMySQLFail now aHost cleared
    | .connected results now slaveStatus =>
      let filed := updateMySQLQueries aHost results cleared
      if d.conf.isSlave aHost then updateMySQLSlaveStatus now aHost slaveStatus filed else filed
  discardMySQLDead aHost updated

end Document

end DBMonitor
