import DBMonitor.Model.MysqlStatus

namespace DBMonitor

-- A rate is kept as its two operands: the unsigned difference and the time it is divided by.
structure Rate where
  growth : UInt64 := 0
  elapsed : Time := second
  deriving DecidableEq, Repr

structure DBMDetailEntry where
  host : HostRef
  connections : UInt64 := 0
  activeQueries : UInt64 := 0
  lastReads : UInt64 := 0
  currentReads : UInt64 := 0
  readsPerSecond : Rate := {}
  lastWrites : UInt64 := 0
  currentWrites : UInt64 := 0
  writesPerSecond : Rate := {}
  freePages : UInt64 := 0
  totalPages : UInt64 := 0
  slowQueries : UInt64 := 0
  lastQueryTime : Option Time := none
  currentQueryTime : Option Time := none
  pollsLeftBeforeStatus : UInt64 := 0
  slaveStatus : Option MysqlSlaveStatus := none
  deriving DecidableEq, Repr

namespace DBMDetailEntry

def timeSinceLastUpdate (e : DBMDetailEntry) : Time :=
  match e.lastQueryTime, e.currentQueryTime with
  | some last, some current => current - last
  | _, _ => second / 4

def isDue (e : DBMDetailEntry) : Bool := decide (e.pollsLeftBeforeStatus < 1)

def shift (now : Time) (serverStatus : MysqlStatus) (e : DBMDetailEntry) : DBMDetailEntry :=
  { e with
    connections := serverStatus.threadsConnected
    freePages := serverStatus.innodbPagesFree
    totalPages := serverStatus.innodbPagesTotal
    slowQueries := serverStatus.slowQueries
    lastReads := e.currentReads
    lastWrites := e.currentWrites
    currentReads := serverStatus.innodbDataReads
    currentWrites := serverStatus.innodbDataWrites
    lastQueryTime := e.currentQueryTime
    currentQueryTime := some now
    pollsLeftBeforeStatus := 2 }

def rate (e : DBMDetailEntry) : DBMDetailEntry :=
  { e with
    readsPerSecond := { growth := e.currentReads - e.lastReads, elapsed := e.timeSinceLastUpdate }
    writesPerSecond :=
      { growth := e.currentWrites - e.lastWrites, elapsed := e.timeSinceLastUpdate } }

def recordStatus (now : Time) (serverStatus : MysqlStatus) (e : DBMDetailEntry) : DBMDetailEntry :=
  rate (shift now serverStatus e)

def countDown (e : DBMDetailEntry) : DBMDetailEntry :=
  { e with pollsLeftBeforeStatus := e.pollsLeftBeforeStatus - 1 }

end DBMDetailEntry

end DBMonitor
