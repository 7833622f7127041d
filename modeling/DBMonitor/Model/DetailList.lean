import DBMonitor.Library.ObjectArray
import DBMonitor.Model.DetailEntry

namespace DBMonitor

-- isEqualToString: answers NO to a nil receiver and to a nil argument.
def Configuration.equalHostname (c : Configuration) (a b : HostRef) : Bool :=
  match (c.host a).hostname, (c.host b).hostname with
  | some s, some t => decide (s.text = t.text)
  | _, _ => false

abbrev DetailList := ObjectArray DBMDetailEntry

namespace DetailList

def empty : DetailList := ObjectArray.empty { host := 0 }

def reloadDataWatchers (c : Configuration) (detailList : DetailList) : DetailList :=
  (c.hosts.filter c.isActive).foldl (fun detailList aHost => detailList.addObject { host := aHost })
    detailList.removeAllObjects

-- The count is unsigned, so no rows at all count as the largest number.
def setActiveQueries (count : Nat) (e : DBMDetailEntry) : DBMDetailEntry :=
  { e with activeQueries := UInt64.ofNat count - 1 }

def updateMySQLQueries (c : Configuration) (aHost : HostRef) (results : Option (List QueryRow))
    (detailList : DetailList) : DetailList :=
  match results with
  | none => detailList
  | some rows => detailList.mapObjects fun e =>
    if c.equalHostname e.host aHost then setActiveQueries rows.length e else e

def updateMySQLSlaveStatus (c : Configuration) (aHost : HostRef)
    (slaveStatus : Option MysqlSlaveStatus) (detailList : DetailList) : DetailList :=
  match slaveStatus with
  | none => detailList
  | some status => detailList.mapObjects fun e =>
    if c.sameHostname e.host aHost then { e with slaveStatus := some status } else e

def myEntry (c : Configuration) (aHost : HostRef) (detailList : DetailList) : Option Nat :=
  detailList.lastMatch (fun e => c.equalHostname e.host aHost)

-- A message to nil answers 0, so without an entry the status is due and is written nowhere.
def isDue (detailList : DetailList) (myEntry : Option Nat) : Bool :=
  myEntry.all (fun r => (detailList.heap r).isDue)

def write (myEntry : Option Nat) (f : DBMDetailEntry → DBMDetailEntry) (detailList : DetailList) :
    DetailList :=
  myEntry.elim detailList (fun r => detailList.modify r f)

def updateMySQLStatistics (c : Configuration) (aHost : HostRef) (now : Time)
    (serverStatus : Option MysqlStatus) (detailList : DetailList) : DetailList :=
  if detailList.isDue (detailList.myEntry c aHost) then
    match serverStatus with
    | none => detailList
    | some status =>
      detailList.write (detailList.myEntry c aHost) (DBMDetailEntry.recordStatus now status)
  else detailList.write (detailList.myEntry c aHost) DBMDetailEntry.countDown

end DetailList

end DBMonitor
