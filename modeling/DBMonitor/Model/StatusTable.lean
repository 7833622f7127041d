import DBMonitor.Model.Document
import DBMonitor.Model.DetailList
import DBMonitor.Model.SlavePanel

namespace DBMonitor

structure StatusTable where
  detailList : DetailList := DetailList.empty
  selectedRow : Int := -1

namespace StatusTable

def objectAtRow (t : StatusTable) (row : Int) : Option Nat :=
  if 0 ≤ row then t.detailList.items[row.toNat]? else none

def selectedEntry (t : StatusTable) : Option Nat := t.objectAtRow t.selectedRow

def selectEntry (selected : Nat) (t : StatusTable) : StatusTable :=
  t.detailList.items.zipIdx.foldl
    (fun t p => if p.1 = selected then { t with selectedRow := p.2 } else t) t

def reselect (selected : Option Nat) (t : StatusTable) : StatusTable :=
  match selected with
  | none => t
  | some r => if r ∈ t.detailList.items then t.selectEntry r else { t with selectedRow := -1 }

-- What a refresh and sortDescriptorsDidChange do to the table alike.
def resort (order : List Nat) (t : StatusTable) : StatusTable :=
  reselect t.selectedEntry { t with detailList := t.detailList.reorder order }

end StatusTable

-- The blocks that a refresh sends to the main queue, with the entry each has captured.
inductive PanelBlock where
  | noDetails
  | logSlave (entry : EntryRef)
  | logQuery (entry : EntryRef)
  | noStatusDetails
  | hostSlave (entry : Nat)
  deriving DecidableEq, Repr

namespace SlavePanel

def clearDetails (panel : SlavePanel) : SlavePanel :=
  if panel.details = .noView then panel else { panel with details := .noView, killEnabled := false }

def clearStatusDetails (panel : SlavePanel) : SlavePanel := { panel with statusDetails := .noView }

def showQueryView (panel : SlavePanel) : SlavePanel :=
  if panel.details = .queryView then panel
  else { panel with details := .queryView, killEnabled := true }

-- A text field that raises leaves the panel as far as it got.
def refreshed (status : Option MysqlSlaveStatus) (panel : SlavePanel) : SlavePanel :=
  ((refreshSlavePanel status).run.run panel).2

end SlavePanel

namespace PanelBlock

def run (d : Document) (detailList : DetailList) : PanelBlock → SlavePanel → SlavePanel
  | .noDetails, panel => panel.clearDetails
  | .logSlave e, panel => panel.refreshed (d.entry e).slaveStatus
  | .logQuery _, panel => panel.showQueryView
  | .noStatusDetails, panel => panel.clearStatusDetails
  | .hostSlave r, panel => panel.refreshed (detailList.heap r).slaveStatus

def ofLog (d : Document) (selected : Option EntryRef) : Option PanelBlock :=
  if d.selectedRow = -1 then some .noDetails
  else selected.map (fun e =>
    if (d.entry e).processID = replicationID then .logSlave e else .logQuery e)

def ofStatus (c : Configuration) (t : StatusTable) : Option PanelBlock :=
  if t.selectedRow = -1 then some .noStatusDetails
  else t.selectedEntry.map (fun r =>
    if c.isSlave (t.detailList.heap r).host then .hostSlave r else .noStatusDetails)

end PanelBlock

end DBMonitor
