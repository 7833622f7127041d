import DBMonitor.Model.Section

namespace DBMonitor

structure Input where
  now : Time := 0
  connects : Bool := true
  results : Option (List QueryRow) := some []
  slaveStatus : Option MysqlSlaveStatus := none
  order : List EntryRef := []
  deriving DecidableEq, Repr

-- From the fetch to the sweep a poll carries the rows of its process list that qualified.
inductive PollState where
  | queued
  | clearing
  | connecting
  | fetching
  | filing (qualified rest : List QueryRow)
  | replicating (qualified : Option (List QueryRow))
  | failing
  | sweeping (qualified : Option (List QueryRow))
  | checking
  | posting
  deriving DecidableEq, Repr

inductive RefreshState where
  | queued
  | log
  | detail
  | enqueue
  deriving DecidableEq, Repr

inductive Body where
  | poll (aHost : HostRef) (state : PollState)
  | refresh (state : RefreshState)
  deriving DecidableEq, Repr

structure Operation where
  body : Body
  isCancelled : Bool := false
  deriving DecidableEq, Repr

def generateMySQLOperation (aHost : HostRef) : Operation := { body := .poll aHost .queued }

def generateRefreshOperation : Operation := { body := .refresh .queued }

inductive Block where
  | reschedule (aHost : HostRef)
  | killDialog (entry : EntryRef)
  deriving DecidableEq, Repr

structure Advance where
  body : Option Body
  locked : Option Section := none
  posts : Option Block := none
  enqueues : Option Operation := none

def PollState.advance (c : Configuration) (aHost : HostRef) (isCancelled : Bool) (x : Input) :
    PollState → Advance
  | .queued => { body := if isCancelled then none else some (.poll aHost .clearing) }
  | .clearing => { body := some (.poll aHost .connecting), locked := some (.clearUpdates aHost) }
  | .connecting => { body := some (.poll aHost (if x.connects then .fetching else .failing)) }
  | .fetching =>
    match x.results with
    | some rows => { body := some (.poll aHost (.filing [] rows)) }
    | none => { body := some (.poll aHost (.replicating none)) }
  | .filing qualified (row :: rest) =>
    if Document.qualifies c aHost row then
      { body := some (.poll aHost (.filing (qualified ++ [row]) rest))
        locked := some (.updateRow x.now aHost row) }
    else { body := some (.poll aHost (.filing qualified rest)) }
  | .filing qualified [] => { body := some (.poll aHost (.replicating (some qualified))) }
  | .replicating qualified =>
    { body := some (.poll aHost (.sweeping qualified))
      locked := if c.isSlave aHost then x.slaveStatus.map (.updateMySQLSlaveStatus x.now aHost)
        else none }
  | .failing =>
    { body := some (.poll aHost (.sweeping none)), locked := some (.updateMySQLFail x.now aHost) }
  | .sweeping _ =>
    { body := some (.poll aHost .checking), locked := some (.discardMySQLDead aHost) }
  | .checking => { body := if isCancelled then none else some (.poll aHost .posting) }
  | .posting => { body := none, posts := some (.reschedule aHost) }

-- The successor is enqueued whether or not this operation was cancelled meanwhile.
def RefreshState.advance (isCancelled : Bool) (x : Input) : RefreshState → Advance
  | .queued => { body := if isCancelled then none else some (.refresh .log) }
  | .log => { body := some (.refresh .detail), locked := some (.refresh x.now x.order) }
  | .detail => { body := some (.refresh .enqueue) }
  | .enqueue => { body := none, enqueues := some generateRefreshOperation }

def Operation.advance (c : Configuration) (x : Input) (op : Operation) : Advance :=
  match op.body with
  | .poll aHost state => state.advance c aHost op.isCancelled x
  | .refresh state => state.advance op.isCancelled x

def cancelAllOperations (ops : List Operation) : List Operation :=
  ops.map (fun op => { op with isCancelled := true })

namespace Operation

def isPollOf (aHost : HostRef) (op : Operation) : Bool :=
  match op.body with
  | .poll g _ => decide (g = aHost)
  | .refresh _ => false

def isPosting (op : Operation) : Bool :=
  match op.body with
  | .poll _ .posting => true
  | _ => false

def isRefresh (op : Operation) : Bool :=
  match op.body with
  | .refresh _ => true
  | _ => false

def isRefreshing (op : Operation) : Bool :=
  match op.body with
  | .refresh .queued => false
  | .refresh _ => true
  | .poll _ _ => false

end Operation

end DBMonitor
