import DBMonitor.Client.Failures
import DBMonitor.Detail.Rows
import DBMonitor.Model.SlavePanel

namespace DBMonitor

open Program

namespace SlaveResult

def cell (columns : List (String × Option String)) (name : String) : Option (Option String) :=
  (columns.reverse.find? (fun column => decide (column.1 = name))).map Prod.snd

def columns : SlaveResult → List (String × Option String)
  | .empty _ => []
  | .row columns => columns

def status (answer : SlaveResult) : MysqlSlaveStatus :=
  answer.columns.foldl MysqlSlaveStatus.storeColumn {}

def unconfigured (answer : SlaveResult) : Bool :=
  (cell answer.columns "Master_Log_File").isNone

-- The columns that the panel shows are there with the log file, and one of the errors has a text.
def presentable (columns : List (String × Option String)) : Bool :=
  (cell columns "Slave_IO_State").isSome && (cell columns "Master_Host").isSome &&
    (cell columns "Relay_Log_File").isSome && (cell columns "Last_SQL_Error").isSome &&
      ((cell columns "Last_IO_Error").isSome ||
        decide (cell columns "Last_SQL_Error" ≠ some (some "")))

def displayable : SlaveResult → Bool
  | .empty fields => !fields.any MysqlSlaveStatus.knownFields.contains
  | .row columns => (cell columns "Master_Log_File").isNone || presentable columns

end SlaveResult

namespace MysqlSlaveStatus

inductive TextField where
  | masterHost
  | masterLogFile
  | relayLogFile
  | slaveIOState
  | slaveSQLError
  | slaveIOError

def TextField.column : TextField → String
  | .masterHost => "Master_Host"
  | .masterLogFile => "Master_Log_File"
  | .relayLogFile => "Relay_Log_File"
  | .slaveIOState => "Slave_IO_State"
  | .slaveSQLError => "Last_SQL_Error"
  | .slaveIOError => "Last_IO_Error"

def text (status : MysqlSlaveStatus) : TextField → Option String
  | .masterHost => status.masterHost
  | .masterLogFile => status.masterLogFile
  | .relayLogFile => status.relayLogFile
  | .slaveIOState => status.slaveIOState
  | .slaveSQLError => status.slaveSQLError
  | .slaveIOError => status.slaveIOError

theorem storeColumn_text (status : MysqlSlaveStatus) (column : String × Option String)
    (field : TextField) :
    (storeColumn status column).text field =
      if column.1 = field.column then columnText column.2 else status.text field := by
  obtain ⟨name, value⟩ := column
  by_cases h : name = field.column
  · subst h
    cases field <;> rfl
  · rw [if_neg h]
    cases field <;> simp only [TextField.column] at h <;>
      simp only [storeColumn, text, apply_ite masterHost, apply_ite masterLogFile,
        apply_ite relayLogFile, apply_ite slaveIOState, apply_ite slaveSQLError,
        apply_ite slaveIOError, h, if_false, ite_self]

theorem stored_text (columns : List (String × Option String)) (field : TextField) :
    (columns.foldl storeColumn {}).text field =
      (SlaveResult.cell columns field.column).bind columnText := by
  induction columns using List.reverseRecOn with
  | nil => cases field <;> rfl
  | append_singleton columns column ih =>
    rw [List.foldl_append, List.foldl_cons, List.foldl_nil, storeColumn_text, SlaveResult.cell,
      List.reverse_append]
    by_cases h : column.1 = field.column
    · simp [h]
    · simp [h, ih, SlaveResult.cell]

end MysqlSlaveStatus

namespace SlavePanel

def complete (status : MysqlSlaveStatus) : Bool :=
  status.slaveIOState.isSome && status.masterHost.isSome && status.relayLogFile.isSome &&
    (newError status).isSome

def Presented (unconfigured : Bool) (result : Except NilString PUnit) (panel : SlavePanel) : Prop :=
  result = .ok ⟨⟩ ∧ (panel.showsUnconfigured ↔ unconfigured = true)

section Panel
variable {status : MysqlSlaveStatus} {panel : SlavePanel}

theorem wp_setStringValue (outlet : Outlet) (value : Option String) (rest : PUnit → Display PUnit)
    (Q : Except NilString PUnit → SlavePanel → Prop) :
    wp (setStringValue outlet value >>= rest) Q panel ↔
      match value with
      | some text => wp (rest ⟨⟩) Q (panel.put outlet text)
      | none => Q (.error ⟨outlet⟩) panel := by
  rw [wp_bind]
  cases value <;> rfl

theorem number_ne (n : Nat) : toString n ≠ slaveUnconfigured := by
  intro h
  have hdigits : (toString n).toList = Nat.toDigits 10 n := by
    change (Nat.repr n).toList = _
    simp [Nat.repr]
  have hletter : 'S' ∈ Nat.toDigits 10 n := by
    rw [← hdigits, h]
    decide
  exact absurd (Nat.isDigit_of_mem_toDigits (by decide) (by decide) hletter) (by decide)

theorem showUnconfigured_presents : wp showUnconfigured (Presented true) panel := by
  refine ⟨rfl, iff_of_true (fun outlet h => ?_) rfl⟩
  cases outlet <;> first | rfl | exact absurd rfl h

theorem not_showsUnconfigured {n : Nat} (h : panel.string .replicationMasterPosition = toString n) :
    ¬panel.showsUnconfigured :=
  fun hshown => number_ne n (h.symm.trans (hshown _ (by simp)))

theorem presented_numbered {n : Nat}
    (h : panel.string .replicationMasterPosition = toString n) :
    Presented false (.ok ⟨⟩) panel :=
  ⟨rfl, iff_of_false (not_showsUnconfigured h) Bool.false_ne_true⟩

theorem not_presented {outlet : Outlet} : ¬Presented false (.error ⟨outlet⟩) panel :=
  fun h => by simp [Presented] at h

theorem showError_presents_iff {n : Nat} (error : Option String)
    (h : panel.string .replicationMasterPosition = toString n) :
    wp (if error = some (panel.string .replicationError) then pure ⟨⟩
      else setStringValue .replicationError error) (Presented false) panel ↔
      error.isSome = true := by
  cases error with
  | none =>
    rw [if_neg (by simp)]
    exact iff_of_false not_presented (by simp)
  | some text =>
    refine iff_of_true ?_ rfl
    split
    · exact presented_numbered h
    · have hput : (panel.put .replicationError text).string .replicationMasterPosition =
          toString n := by
        simpa using h
      exact presented_numbered hput

theorem showStatus_presents_iff (hfile : status.masterLogFile.isSome = true) :
    wp (showStatus status) (Presented false) panel ↔ complete status = true := by
  obtain ⟨file, hfile⟩ := Option.isSome_iff_exists.mp hfile
  rw [showStatus, wp_setStringValue, complete]
  cases status.slaveIOState with
  | none => exact iff_of_false not_presented (by simp)
  | some ioState =>
    simp only [wp_setStringValue]
    cases status.masterHost with
    | none => exact iff_of_false not_presented (by simp)
    | some masterHost =>
      simp only [hfile]
      cases status.relayLogFile with
      | none => exact iff_of_false not_presented (by simp)
      | some relayLogFile =>
        simp only [wp_bind, wp_get]
        rw [showError_presents_iff (n := status.masterLogPosition.toNat) _ (by simp)]
        simp

theorem refreshSlavePanel_presents_iff :
    wp (refreshSlavePanel (some status)) (Presented status.masterLogFile.isNone) panel ↔
      (status.masterLogFile.isNone || complete status) = true := by
  rw [refreshSlavePanel, wp_bind, wp_modify, Option.filter_some]
  cases hfile : status.masterLogFile with
  | none => exact iff_of_true showUnconfigured_presents rfl
  | some file =>
    simp only [Option.isSome_some, if_true, Option.isNone_some, Bool.false_or]
    exact showStatus_presents_iff (by rw [hfile]; rfl)

theorem newError_isSome :
    (newError status).isSome = (status.slaveSQLError.isSome &&
      (status.slaveIOError.isSome || decide (status.slaveSQLError ≠ some ""))) := by
  unfold newError
  by_cases hsql : status.slaveSQLError = some ""
  · by_cases hio : status.slaveIOError = some ""
    · simp [hsql, hio]
    · simp [hsql, hio]
  · simp [hsql]

end Panel

end SlavePanel

namespace SlaveResult
variable {columns : List (String × Option String)}

theorem columnText_isSome (cell : Option (Option String)) :
    (cell.bind MysqlSlaveStatus.columnText).isSome = cell.isSome := by
  cases cell <;> rfl

theorem columnText_empty (cell : Option (Option String)) :
    cell.bind MysqlSlaveStatus.columnText = some "" ↔ cell = some (some "") := by
  rcases cell with _ | _ | text
  · simp
  · simp [MysqlSlaveStatus.columnText]
  · simp [MysqlSlaveStatus.columnText]

theorem status_text (field : MysqlSlaveStatus.TextField) :
    ((row columns).status.text field).isSome = (cell columns field.column).isSome := by
  rw [status, SlaveResult.columns, MysqlSlaveStatus.stored_text, columnText_isSome]

theorem complete_status : SlavePanel.complete (row columns).status = presentable columns := by
  have herror : (row columns).status.slaveSQLError = some "" ↔
      cell columns "Last_SQL_Error" = some (some "") := by
    rw [← columnText_empty]
    exact iff_of_eq (congrArg (· = some "") (MysqlSlaveStatus.stored_text columns .slaveSQLError))
  have hdecide : decide ((row columns).status.slaveSQLError ≠ some "") =
      decide (cell columns "Last_SQL_Error" ≠ some (some "")) := by
    rw [decide_eq_decide, Ne, Ne, herror]
  have hstate : (row columns).status.slaveIOState.isSome = _ := status_text .slaveIOState
  have hhost : (row columns).status.masterHost.isSome = _ := status_text .masterHost
  have hrelay : (row columns).status.relayLogFile.isSome = _ := status_text .relayLogFile
  have hsql : (row columns).status.slaveSQLError.isSome = _ := status_text .slaveSQLError
  have hio : (row columns).status.slaveIOError.isSome = _ := status_text .slaveIOError
  rw [SlavePanel.complete, SlavePanel.newError_isSome, presentable, hdecide, hstate, hhost, hrelay,
    hsql, hio]
  simp only [MysqlSlaveStatus.TextField.column, Bool.and_assoc]

theorem status_unconfigured : (row columns).status.masterLogFile.isNone =
    (row columns).unconfigured := by
  have hfile : (row columns).status.masterLogFile.isSome = _ := status_text .masterLogFile
  rw [← Option.not_isSome, hfile, unconfigured, ← Option.not_isSome]
  rfl

theorem empty_displays (fields : List String) (panel : SlavePanel) :
    wp (SlavePanel.refreshSlavePanel (some (empty fields).status))
      (SlavePanel.Presented (empty fields).unconfigured) panel := by
  have hnone : (empty fields).unconfigured = (empty fields).status.masterLogFile.isNone := rfl
  rw [hnone, SlavePanel.refreshSlavePanel_presents_iff]
  rfl

theorem displays_iff (panel : SlavePanel) :
    wp (SlavePanel.refreshSlavePanel (some (row columns).status))
        (SlavePanel.Presented (row columns).unconfigured) panel ↔
      (row columns).displayable = true := by
  rw [← status_unconfigured, SlavePanel.refreshSlavePanel_presents_iff, complete_status,
    status_unconfigured]
  rfl

end SlaveResult

def Server.answering (server : Server) (answer : SlaveResult) : Server :=
  { server with slaveQuery := none, slaveResult := some answer }

namespace Session

-- The poll ran through, every place the panel reads has the status, and the panel shows it.
structure Handled (answer : SlaveResult) (aHost : HostRef) (panel : SlavePanel)
    (result : Except Failure PUnit) (t : Session) : Prop where
  completed : result = .ok ⟨⟩
  listed : ∀ r ∈ t.detailList.items,
    t.doc.conf.sameHostname (t.detailList.heap r).host aHost = true →
      (t.detailList.heap r).slaveStatus = some answer.status
  filed : answer.status.unhealthy = true → ∃ r, t.doc.find aHost replicationID = some r ∧
    (t.doc.entry r).slaveStatus = some answer.status
  displayed : wp (SlavePanel.refreshSlavePanel (some answer.status))
    (SlavePanel.Presented answer.unconfigured) panel

section Answer
variable {server : Server} {answer : SlaveResult} {s : Session} {aHost : HostRef}

theorem answering_status (server : Server) (answer : SlaveResult) :
    (server.answering answer).slaveStatus = some answer.status := by
  cases answer <;> rfl

theorem replicated_listed (now : Time) :
    ∀ r ∈ (s.replicated (server.answering answer) now aHost).detailList.items,
      s.doc.conf.sameHostname
        ((s.replicated (server.answering answer) now aHost).detailList.heap r).host aHost = true →
      ((s.replicated (server.answering answer) now aHost).detailList.heap r).slaveStatus =
        some answer.status := by
  intro r hr hhost
  have hlist : (s.replicated (server.answering answer) now aHost).detailList =
      s.detailList.updateMySQLSlaveStatus s.doc.conf aHost (some answer.status) := by
    rw [replicated, answering_status]
  rw [hlist] at hr hhost ⊢
  rw [DetailList.updateMySQLSlaveStatus, ObjectArray.mapObjects_items] at hr
  rw [DetailList.updateMySQLSlaveStatus_heap aHost answer.status hr] at hhost ⊢
  split at hhost
  next h => rw [if_pos h]
  next h => exact absurd hhost h

theorem replicated_filed (now : Time) (hu : answer.status.unhealthy = true) :
    ∃ r, (s.replicated (server.answering answer) now aHost).doc.find aHost replicationID = some r ∧
      ((s.replicated (server.answering answer) now aHost).doc.entry r).slaveStatus =
        some answer.status := by
  have hdoc : (s.replicated (server.answering answer) now aHost).doc =
      s.doc.file aHost (s.doc.statusFiling aHost now answer.status) := by
    rw [replicated, answering_status, Document.updateMySQLSlaveStatus_eq, if_pos hu]
  refine ⟨s.doc.target aHost replicationID, ?_, ?_⟩
  · rw [hdoc, Document.find_file]
    exact if_pos rfl
  · rw [hdoc]
    exact congrArg DBMLogEntry.slaveStatus
      (s.doc.file_target aHost (s.doc.statusFiling aHost now answer.status))

theorem replicated_handled (now : Time) (panel : SlavePanel)
    (hdisplayed : wp (SlavePanel.refreshSlavePanel (some answer.status))
      (SlavePanel.Presented answer.unconfigured) panel) :
    Handled answer aHost panel (.ok ⟨⟩) (s.replicated (server.answering answer) now aHost) where
  completed := rfl
  listed := by
    rw [replicated_conf]
    exact replicated_listed now
  filed := replicated_filed now
  displayed := hdisplayed

end Answer

theorem slave_answer_handled_iff (server : Server) (answer : SlaveResult) (now : Time)
    (aHost : HostRef) (s : Session) (panel : SlavePanel) :
    wp (updateMySQLSlaveStatus (server.answering answer) now (some aHost) aHost)
        (Handled answer aHost panel) s ↔
      answer.displayable = true := by
  rw [wp_updateMySQLSlaveStatus]
  cases answer with
  | empty fields =>
    have hreadable : ((server.answering (.empty fields)).slaveQuery.isSome ||
        (server.answering (.empty fields)).slaveReadable) = (SlaveResult.empty fields).displayable :=
      rfl
    rw [hreadable]
    cases h : (SlaveResult.empty fields).displayable with
    | true =>
      rw [if_pos rfl]
      exact iff_of_true (replicated_handled now panel (SlaveResult.empty_displays fields panel)) rfl
    | false =>
      rw [if_neg Bool.false_ne_true]
      exact iff_of_false (fun hc => by simpa using hc.completed) Bool.false_ne_true
  | row columns =>
    have hreadable : ((server.answering (.row columns)).slaveQuery.isSome ||
        (server.answering (.row columns)).slaveReadable) = true := rfl
    rw [if_pos hreadable, ← SlaveResult.displays_iff panel]
    exact ⟨Handled.displayed, replicated_handled now panel⟩

theorem slave_answers_unhandled :
    let conf := Configuration.onePool { active := some 1 } [3] (by decide) (fun _ => 1) (fun _ => 1)
    let s := (Session.begin (Document.initial conf 60 1) DetailList.empty)
    let old : SlaveResult := .row [("Slave_IO_State", some ""), ("Master_Host", some "db0"),
      ("Master_Log_File", some "bin.7"), ("Relay_Log_File", some "relay.2"),
      ("Slave_IO_Running", some "No"), ("Slave_SQL_Running", some "Yes"), ("Last_Error", some "")]
    let poll := fun answer : SlaveResult =>
      updateMySQLSlaveStatus (Server.answering {} answer) 0 (some 3) 3
    ((poll (.empty ["Slave_IO_State", "Master_Host"])).run.run s).1 = .error .nullDereference ∧
      ((poll old).run.run s).1 = .ok ⟨⟩ ∧
      ((SlavePanel.refreshSlavePanel (some old.status)).run.run {}).1 =
        .error ⟨.replicationError⟩ ∧
      ¬∀ answer panel, wp (poll answer) (Handled answer 3 panel) s := by
  intro conf s old poll
  refine ⟨by decide +kernel, by decide +kernel, by decide +kernel, fun h => ?_⟩
  have hdisplayable := (SlaveResult.displays_iff {}).mp (Handled.displayed (h old {}))
  exact absurd hdisplayable (by decide +kernel)

end Session

end DBMonitor
