import DBMonitor.Log.Keys
import DBMonitor.World.Moves

namespace DBMonitor

namespace World

-- The dialog's context is the entry its text names, still owned and still a live process.
def confirmsNamed (w : World) : Act → Bool
  | .killEnded i true true _ =>
    w.dialogs[i]?.all (fun dialog => decide (dialog.context = dialog.entry) &&
      w.owns dialog.context && decide ((w.doc.entry dialog.context).processID ≠ deadProcess))
  | _ => true

def IsProcessID (pid : String) : Prop :=
  (∃ n : Int, pid = printID n) ∧ pid ≠ replicationID ∧ pid ≠ connectFailID ∧ pid ≠ deadProcess

def Labelled (d : Document) : Prop :=
  ∀ r ∈ d.items, (d.entry r).processID = deadProcess ∨ ∃ n, (d.entry r).processID = printID n

def Offered (d : Document) (e : EntryRef) : Prop :=
  e < d.dataList.next ∧
    ((d.entry e).processID = deadProcess ∨ IsProcessID (d.entry e).processID)

def Named (d : Document) (e : EntryRef) (host : HostRef) (processID : String) : Prop :=
  e < d.dataList.next ∧ host = (d.entry e).eventHost ∧
    ((d.entry e).processID = deadProcess ∨
      (processID = (d.entry e).processID ∧ IsProcessID processID))

def Faithful (d : Document) (k : Kill) : Prop :=
  k.dialog.entry < d.dataList.next ∧ k.host = k.dialog.host ∧
    k.host = (d.entry k.dialog.entry).eventHost ∧ k.processID = k.dialog.processID ∧
    IsProcessID k.processID

section Log
variable {d : Document} {s : Section}

theorem filing_pid {aHost : HostRef} {f : Document.Filing} (hf : d.filing s = some (aHost, f)) :
    ∃ n, f.pid = printID n := by
  rcases Document.filing_cases hf with ⟨_, row, _, rfl, _⟩ | ⟨_, _, _, rfl, _⟩ | ⟨_, _, rfl⟩
  · exact ⟨row.id, rfl⟩
  · exact ⟨-1, rfl⟩
  · exact ⟨-2, rfl⟩

theorem exec_pid {r : EntryRef} (hr : r < d.dataList.next) :
    ((d.exec s).entry r).processID = (d.entry r).processID ∨
      ((d.exec s).entry r).processID = deadProcess :=
  (Document.exec_evolves hr).2.2.imp_right And.left

theorem Labelled.exec (hi : Labelled d) : Labelled (d.exec s) := by
  intro r hr
  rcases Document.exec_mem hr with hm | ⟨g, f, hf, hn, rfl⟩
  · rcases exec_pid (s := s) (d.dataList.allocated r hm) with hp | hp
    · rw [hp]
      exact hi r hm
    · exact Or.inl hp
  · obtain ⟨n, hpid⟩ := filing_pid hf
    refine Or.inr ⟨n, ?_⟩
    rw [← d.target_of_find_none g hn, (Document.exec_filed hf).2.2.1, hpid]

theorem Offered.exec {e : EntryRef} (hi : Offered d e) : Offered (d.exec s) e := by
  obtain ⟨he, hpid⟩ := hi
  refine ⟨he.trans_le Document.exec_next_le, ?_⟩
  rcases exec_pid (s := s) he with hp | hp
  · rw [hp]
    exact hpid
  · exact Or.inl hp

theorem Named.exec {e : EntryRef} {host : HostRef} {processID : String}
    (hi : Named d e host processID) : Named (d.exec s) e host processID := by
  obtain ⟨he, hhost, hpid⟩ := hi
  refine ⟨he.trans_le Document.exec_next_le, ?_, ?_⟩
  · rw [(Document.exec_evolves he).1]
    exact hhost
  · rcases exec_pid (s := s) he with hp | hp
    · rw [hp]
      exact hpid
    · exact Or.inl hp

theorem Faithful.exec {k : Kill} (hi : Faithful d k) : Faithful (d.exec s) k := by
  obtain ⟨he, hdialog, hhost, hpid⟩ := hi
  refine ⟨he.trans_le Document.exec_next_le, hdialog, ?_, hpid⟩
  rw [(Document.exec_evolves he).1]
  exact hhost

theorem killTarget_offered (hi : Labelled d) {e : EntryRef} (he : d.killTarget = some e) :
    Offered d e := by
  obtain ⟨hrow, hlive⟩ := Option.filter_eq_some_iff.mp he
  simp only [Bool.and_eq_true, decide_eq_true_eq] at hlive
  obtain ⟨⟨hreplication, hfail⟩, hdead⟩ := hlive
  have hm := (Document.objectAtRow_mem hrow).1
  refine ⟨d.dataList.allocated e hm, Or.inr ⟨?_, hreplication, hfail, hdead⟩⟩
  exact (hi e hm).resolve_left hdead

theorem Offered.named {e : EntryRef} (hi : Offered d e) :
    Named d e (d.entry e).eventHost (d.entry e).processID :=
  ⟨hi.1, rfl, hi.2.imp_right (fun h => ⟨rfl, h⟩)⟩

end Log

structure KillSafe (w : World) : Prop where
  labelled : Labelled w.doc
  queued : ∀ e, Block.killDialog e ∈ w.mainQueue → Offered w.doc e
  alerting : ∀ e host processID, w.main = .alerting e host processID →
    Named w.doc e host processID
  asked : ∀ dialog ∈ w.dialogs, Named w.doc dialog.entry dialog.host dialog.processID
  sent : ∀ k ∈ w.sent, Faithful w.doc k

theorem initial_killSafe (conf : Configuration) (sliderValue trackQuery : Int) :
    (initial conf sliderValue trackQuery).KillSafe where
  labelled := fun _ hr => absurd hr List.not_mem_nil
  queued := fun _ he => absurd he List.not_mem_nil
  alerting := by simp [initial]
  asked := fun _ hd => absurd hd List.not_mem_nil
  sent := fun _ hk => absurd hk List.not_mem_nil

section Step
variable {w v w' : World} {a : Act}

theorem KillSafe.execute (hi : w.KillSafe) (s : Option Section) : (w.execute s).KillSafe := by
  cases s with
  | none => exact hi
  | some s =>
    exact {
      labelled := hi.labelled.exec
      queued := fun e he => (hi.queued e he).exec
      alerting := fun e host processID hm => (hi.alerting e host processID hm).exec
      asked := fun dialog hd => (hi.asked dialog hd).exec
      sent := fun k hk => (hi.sent k hk).exec }

theorem killed_faithful (hi : w.KillSafe) {dialog : Dialog} (hd : dialog ∈ w.dialogs)
    (hcontext : dialog.context = dialog.entry) (howns : w.owns dialog.context = true)
    (hlive : (w.doc.entry dialog.context).processID ≠ deadProcess) (junk : HostRef × String) :
    Faithful w.doc (w.killed junk dialog) := by
  obtain ⟨he, hhost, hpid⟩ := hi.asked dialog hd
  rw [hcontext] at hlive
  obtain ⟨htext, hprocess⟩ := hpid.resolve_left hlive
  have hkilled : w.killed junk dialog =
      { host := (w.doc.entry dialog.entry).eventHost
        processID := (w.doc.entry dialog.entry).processID
        dialog := dialog } := by
    rw [killed, if_pos howns, hcontext]
  rw [hkilled]
  exact ⟨he, hhost.symm, rfl, htext.symm, htext ▸ hprocess⟩

theorem advance_posts (c : Configuration) (x : Input) (op : Operation) (e : EntryRef) :
    (op.advance c x).posts ≠ some (.killDialog e) := by
  obtain ⟨body, isCancelled⟩ := op
  cases body with
  | refresh state => simp [Operation.advance, (RefreshState.advance_cases isCancelled x state).1]
  | poll g state =>
    obtain ⟨_, ⟨_, _, hposts⟩ | ⟨_, hposts, _⟩⟩ := PollState.advance_cases c g isCancelled x state <;>
      simp [Operation.advance, hposts]

theorem KillSafe.frame (hi : w.KillSafe) (hdoc : v.doc = w.doc)
    (hqueue : ∀ e, Block.killDialog e ∈ v.mainQueue → Block.killDialog e ∈ w.mainQueue)
    (hmain : ∀ e host processID, v.main = .alerting e host processID →
      w.main = .alerting e host processID)
    (hdialogs : v.dialogs = w.dialogs) (hsent : v.sent = w.sent) : v.KillSafe where
  labelled := hdoc ▸ hi.labelled
  queued := fun e he => hdoc ▸ hi.queued e (hqueue e he)
  alerting := fun e host processID hm => hdoc ▸ hi.alerting e host processID (hmain _ _ _ hm)
  asked := fun dialog hd => hdoc ▸ hi.asked dialog (hdialogs ▸ hd)
  sent := fun k hk => hdoc ▸ hi.sent k (hsent ▸ hk)

theorem KillSafe.block (hi : w.KillSafe) {b : Block} {rest : List Block}
    (hqueue : w.mainQueue = b :: rest) : (w.runBlock b rest).KillSafe := by
  have hrest : ∀ e, Block.killDialog e ∈ rest → Block.killDialog e ∈ w.mainQueue := by
    intro e he
    rw [hqueue]
    exact List.mem_cons_of_mem b he
  cases b with
  | reschedule g => exact hi.frame rfl hrest (fun _ _ _ hm => hm) rfl rfl
  | killDialog e =>
    exact {
      labelled := hi.labelled
      queued := fun e' he' => hi.queued e' (hrest e' he')
      alerting := by
        rintro e' host processID hm
        obtain ⟨rfl, rfl, rfl⟩ := MainThread.alerting.inj hm
        exact (hi.queued e (by rw [hqueue]; exact List.mem_cons_self)).named
      asked := hi.asked
      sent := hi.sent }

theorem KillSafe.sheet (hi : w.KillSafe) {e : EntryRef} {host : HostRef} {processID : String}
    (hmain : w.main = .alerting e host processID) : (w.beginSheet e host processID).KillSafe where
  labelled := hi.labelled
  queued := hi.queued
  alerting := by simp [beginSheet]
  asked := by
    intro dialog hd
    rcases List.mem_append.mp hd with hold | hnew
    · exact hi.asked dialog hold
    · obtain ⟨r, _, rfl⟩ := List.mem_map.mp hnew
      exact hi.alerting e host processID hmain
  sent := hi.sent

theorem KillSafe.quiet (hi : w.KillSafe) (hg : w.confirmsNamed a = true) {s : Option Section}
    (hq : Quiet w a s v) : v.KillSafe := by
  cases hq with
  | killProcess =>
    exact {
      labelled := hi.labelled
      queued := by
        intro e he
        rcases List.mem_append.mp he with hold | hnew
        · exact hi.queued e hold
        · obtain ⟨e', he', heq⟩ := List.mem_map.mp hnew
          obtain rfl := Block.killDialog.inj heq
          exact killTarget_offered hi.labelled (Option.mem_toList.mp he')
      alerting := hi.alerting
      asked := hi.asked
      sent := hi.sent }
  | @killEnded i dialog accept connected junk hd =>
    exact {
      labelled := hi.labelled
      queued := hi.queued
      alerting := hi.alerting
      asked := fun dialog' hd' => hi.asked dialog' (List.mem_of_mem_eraseIdx hd')
      sent := by
        intro k hk
        cases accept <;> cases connected <;> try exact hi.sent k hk
        rcases List.mem_append.mp hk with hold | hnew
        · exact hi.sent k hold
        · obtain rfl := List.mem_singleton.mp hnew
          simp only [confirmsNamed, hd, Option.all_some, Bool.and_eq_true, decide_eq_true_eq] at hg
          exact killed_faithful hi (List.mem_of_getElem? hd) hg.1.1 hg.1.2 hg.2 junk }
  | _ => exact hi

theorem KillSafe.moves (hi : w.KillSafe) (hg : w.confirmsNamed a = true) {s : Option Section}
    (hm : Moves w a s v) : v.KillSafe := by
  cases hm with
  | @operation l r op x hops =>
    refine hi.frame rfl ?_ (fun _ _ _ hm => hm) rfl rfl
    intro e he
    rcases List.mem_append.mp he with hold | hnew
    · exact hold
    · exact absurd (Option.mem_toList.mp hnew) (advance_posts _ _ _ e)
  | block hidle hqueue => exact hi.block hqueue
  | alert hmain => exact hi.sheet hmain
  | @reload item todo hmain =>
    obtain ⟨hdoc, hqueue, _, hdialogs, hsent, todo', hmain'⟩ := w.runReload_reloads item todo
    exact hi.frame hdoc (fun e he => hqueue ▸ he) (by simp [hmain']) hdialogs hsent
  | edit hidle hsheet => exact hi
  | quiet hidle hq => exact hi.quiet hg hq
  | opened hmain => exact hi.frame rfl (fun _ he => he) (by simp) rfl rfl
  | reloaded hmain => exact hi.frame rfl (fun _ he => he) (by simp) rfl rfl
  | openConfigSheet hidle => exact hi.frame rfl (fun _ he => he) (by simp) rfl rfl
  | endConfigSheet hidle hsheet =>
    exact hi.frame rfl (fun _ he => he) (by simp [beginReload]) rfl rfl
  | reloadDataWatchers hidle hsheet =>
    exact hi.frame rfl (fun _ he => he) (by simp [beginReload]) rfl rfl

theorem KillSafe.step (hi : w.KillSafe) (hg : w.confirmsNamed a = true)
    (h : w.step a = some w') : w'.KillSafe := by
  obtain ⟨v, hm, rfl⟩ := step_moves h
  exact (hi.moves hg hm).execute _

end Step

theorem kill_as_named {conf : Configuration} {sliderValue trackQuery : Int} {acts : List Act}
    {w : World}
    (hrun : Transition.run step confirmsNamed (initial conf sliderValue trackQuery) acts = some w) :
    ∀ k ∈ w.sent, k.host = k.dialog.host ∧ k.host = (w.doc.entry k.dialog.entry).eventHost ∧
      k.processID = k.dialog.processID ∧ IsProcessID k.processID := by
  have hi : w.KillSafe := Transition.run_invariant (I := KillSafe)
    (fun _ _ _ hi hg hs => hi.step hg hs) (initial_killSafe conf sliderValue trackQuery) hrun
  exact fun k hk => (hi.sent k hk).2

theorem kill_as_named_confirmed :
    let c := Configuration.onePool { active := some 1 } [3] (by decide) (fun _ => 1) (fun _ => 0)
    let row : QueryRow := { id := 8, host := "web", info := some [97], time := 9 }
    let acts : List Act := [.reloadDataWatchers, .mainThread, .mainThread, .mainThread] ++
      List.replicate 10 (.operation 1 { results := some [row] }) ++
      [.select 0, .killProcess, .mainThread, .mainThread, .mainThread,
        .killEnded 0 true true (0, "")]
    ∃ w, Transition.run step confirmsNamed (initial c 30 1) acts = some w ∧ w.sent ≠ [] ∧
      ∀ k ∈ w.sent, k.host = k.dialog.host ∧ k.host = (w.doc.entry k.dialog.entry).eventHost ∧
        k.processID = k.dialog.processID ∧ IsProcessID k.processID := by
  intro c row acts
  have hcheck : (Transition.run step confirmsNamed (initial c 30 1) acts).any (fun w =>
      decide (w.sent ≠ [])) = true := by
    decide +kernel
  obtain ⟨w, hrun, hw⟩ := (Option.any_eq_true _ _).mp hcheck
  exact ⟨w, hrun, by simpa using hw, kill_as_named hrun⟩

theorem dead_process_killed :
    let c := Configuration.onePool { active := some 1 } [3] (by decide) (fun _ => 1) (fun _ => 0)
    let row : QueryRow := { id := 8, host := "web", info := some [97], time := 9 }
    let acts : List Act := [.reloadDataWatchers, .mainThread, .mainThread, .mainThread] ++
      List.replicate 10 (.operation 1 { results := some [row] }) ++
      [.select 0, .killProcess, .mainThread, .mainThread, .mainThread] ++
      List.replicate 7 (.operation 1 {}) ++ [.killEnded 0 true true (0, "")]
    ∃ w, Transition.run step Transition.anyStep (initial c 30 1) acts = some w ∧
      ∃ k ∈ w.sent, k.dialog.processID = "8" ∧ k.processID = deadProcess := by
  intro c row acts
  have hcheck : (Transition.run step Transition.anyStep (initial c 30 1) acts).any (fun w =>
      w.sent.any (fun k => decide (k.dialog.processID = "8") &&
        decide (k.processID = deadProcess))) = true := by
    decide +kernel
  obtain ⟨w, hrun, hw⟩ := (Option.any_eq_true _ _).mp hcheck
  simp only [List.any_eq_true, Bool.and_eq_true, decide_eq_true_eq] at hw
  exact ⟨w, hrun, hw⟩

end World

end DBMonitor
