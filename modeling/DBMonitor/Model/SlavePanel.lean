import DBMonitor.Library.WeakestPre
import DBMonitor.Model.LogEntry

namespace DBMonitor

inductive Outlet where
  | replicationIOState
  | replicationMasterHost
  | replicationMasterLog
  | replicationMasterPosition
  | replicationRelayLog
  | replicationRelayPosition
  | replicationSlaveRunning
  | replicationSecondsBehindMaster
  | replicationError
  deriving DecidableEq, Repr

inductive MainDisplay where
  | logDisplay
  | detailDisplay
  deriving DecidableEq, Repr

inductive ContentView where
  | noView
  | queryView
  | replView
  deriving DecidableEq, Repr

structure SlavePanel where
  mainDisplay : MainDisplay := .logDisplay
  details : ContentView := .noView
  statusDetails : ContentView := .noView
  killEnabled : Bool := false
  string : Outlet → String := fun _ => ""

-- A nil string handed to a text field or a text view raises.
structure NilString where
  outlet : Outlet
  deriving DecidableEq, Repr

abbrev Display (α : Type) : Type := Program NilString SlavePanel α

namespace SlavePanel

def put (outlet : Outlet) (text : String) (panel : SlavePanel) : SlavePanel :=
  { panel with string := fun other => if other = outlet then text else panel.string other }

@[simp] theorem put_string (outlet other : Outlet) (text : String) (panel : SlavePanel) :
    (panel.put outlet text).string other = if other = outlet then text else panel.string other := rfl

def setContentView (panel : SlavePanel) : SlavePanel :=
  match panel.mainDisplay with
  | .logDisplay =>
    if panel.details = .replView then panel
    else { panel with details := .replView, killEnabled := false }
  | .detailDisplay => { panel with statusDetails := .replView }

def setStringValue (outlet : Outlet) : Option String → Display PUnit
  | some text => modify (put outlet text)
  | none => throw ⟨outlet⟩

-- isEqualToString: answers NO to a nil receiver.
def newError (status : MysqlSlaveStatus) : Option String :=
  if status.slaveSQLError ≠ some "" then status.slaveSQLError
  else if status.slaveIOError ≠ some "" then status.slaveIOError
  else some "No Last SQL or I/O Error"

def showStatus (status : MysqlSlaveStatus) : Display PUnit := do
  setStringValue .replicationIOState status.slaveIOState
  setStringValue .replicationMasterHost status.masterHost
  setStringValue .replicationMasterLog status.masterLogFile
  setStringValue .replicationMasterPosition (some (toString status.masterLogPosition.toNat))
  setStringValue .replicationRelayLog status.relayLogFile
  setStringValue .replicationRelayPosition (some (toString status.relayLogPosition.toNat))
  setStringValue .replicationRelayPosition (some (toString status.relayLogPosition.toNat))
  setStringValue .replicationSlaveRunning
    (some (if status.slaveSQLRunning && status.slaveIORunning then "Yes" else "No"))
  setStringValue .replicationSecondsBehindMaster
    (some (toString (intValue status.secondsBehindMaster)))
  let panel ← get
  if newError status = some (panel.string .replicationError) then pure ⟨⟩
  else setStringValue .replicationError (newError status)

def slaveUnconfigured : String := "Slave Unconfigured"

def showUnconfigured : Display PUnit := do
  setStringValue .replicationIOState (some slaveUnconfigured)
  setStringValue .replicationMasterHost (some slaveUnconfigured)
  setStringValue .replicationMasterLog (some slaveUnconfigured)
  setStringValue .replicationMasterPosition (some slaveUnconfigured)
  setStringValue .replicationRelayLog (some slaveUnconfigured)
  setStringValue .replicationRelayPosition (some slaveUnconfigured)
  setStringValue .replicationRelayPosition (some slaveUnconfigured)
  setStringValue .replicationSlaveRunning (some "No")
  setStringValue .replicationSecondsBehindMaster (some slaveUnconfigured)
  setStringValue .replicationError (some slaveUnconfigured)

-- A message to a nil status answers nil, so it has no master log file.
def refreshSlavePanel (status : Option MysqlSlaveStatus) : Display PUnit := do
  modify setContentView
  match status.filter (fun status => status.masterLogFile.isSome) with
  | some status => showStatus status
  | none => showUnconfigured

def showsUnconfigured (panel : SlavePanel) : Prop :=
  ∀ outlet, outlet ≠ .replicationSlaveRunning → panel.string outlet = slaveUnconfigured

end SlavePanel

end DBMonitor
