import DBMonitor.Log.Lifetime
import DBMonitor.World.KillRow

namespace DBMonitor

namespace Document

def Owns (d : Document) (r : EntryRef) : Prop := r ∈ d.items ∨ d.currentLogEntry = some r

def takesOut (d : Document) (r : EntryRef) : Change → Bool
  | .locked .killProcess => decide (d.objectAtRow d.selectedRow = some r) && d.dismisses r
  | .locked s => d.drops s (d.entry r)
  | _ => false

-- The changes after which currentLogEntry is whatever the table shows at its selected row.
def recomputes (d : Document) (r : EntryRef) : Change → Bool
  | .notified => true
  | .reloaded notifies => notifies && decide (d.items.length ≤ d.selectedRow)
  | .locked (.select row) => decide (row ≠ d.selectedRow)
  | .locked (.sortDescriptorsDidChange order) =>
    !(decide (d.objectAtRow d.selectedRow = d.currentLogEntry) ||
      decide ((d.sortDataList order).objectAtRow d.selectedRow = d.objectAtRow d.selectedRow))
  | .locked (.refresh _ _) => decide (d.selectedRow ≠ -1) || decide (r ∈ d.items)
  | _ => false

def retains (d : Document) (r : EntryRef) (c : Change) : Bool :=
  (decide (r ∈ d.items) && !d.takesOut r c) ||
    (decide (d.currentLogEntry = some r) && !d.recomputes r c)

section Owns
variable {d : Document} {r : EntryRef} {c : Change}

theorem kill_mem_iff (hn : d.items.Nodup) (hr : r ∈ d.items) :
    r ∈ d.killProcess.items ↔ d.takesOut r (.locked .killProcess) = false := by
  by_cases hrow : d.objectAtRow d.selectedRow = some r
  · rw [takesOut, decide_eq_true hrow, Bool.true_and]
    cases hd : d.dismisses r with
    | true => exact iff_of_false (killProcess_dismissed hn hrow (dismisses_iff.mp hd)) (by simp)
    | false =>
      refine iff_of_true ?_ rfl
      by_contra hgone
      rw [dismisses_iff.mpr ((killProcess_removed hr hgone).2)] at hd
      exact Bool.noConfusion hd
  · rw [takesOut, decide_eq_false hrow, Bool.false_and]
    exact iff_of_true (killProcess_spares hr hrow) rfl

theorem apply_mem_iff (hn : d.items.Nodup) (hr : r ∈ d.items) :
    r ∈ (d.apply c).items ↔ d.takesOut r c = false := by
  cases c with
  | nothing => exact iff_of_true hr rfl
  | notified => exact iff_of_true hr rfl
  | reloaded notifies =>
    refine iff_of_true ?_ rfl
    rw [apply, items, reloadData_dataList]
    exact hr
  | locked s =>
    by_cases hs : s = .killProcess
    · rw [hs]
      exact kill_mem_iff hn hr
    · have htakes : d.takesOut r (.locked s) = d.drops s (d.entry r) := by
        cases s <;> first | rfl | exact absurd rfl hs
      rw [htakes]
      exact exec_mem_iff hs hr

theorem refresh_current_iff (hn : d.items.Nodup) (now : Time) (order : List EntryRef)
    (hgone : r ∉ (d.refresh now order).items) :
    (d.refresh now order).currentLogEntry = some r ↔
      d.currentLogEntry = some r ∧ d.recomputes r (.locked (.refresh now order)) = false := by
  by_cases hcurrent : d.currentLogEntry = some r
  · by_cases hr : r ∈ d.items
    · refine iff_of_false (fun hkept => ?_) (by simp [recomputes, hr])
      exact absurd ((refresh_dropped hn hr hcurrent hgone).2.symm.trans hkept) (by simp)
    · have hcursor := congrArg Cursor.current (cursor_refresh hn now order)
      rw [(Cursor.refresh_lost (c := d.cursor) _ hr hcurrent).2] at hcursor
      rw [show (d.refresh now order).currentLogEntry = _ from hcursor]
      by_cases hrow : d.selectedRow = -1
      · simp [recomputes, hcurrent, hr, hrow, cursor]
      · simp [recomputes, hcurrent, hr, hrow, cursor]
  · refine iff_of_false (fun hkept => ?_) (fun h => hcurrent h.1)
    rcases refresh_current hn now order with hsame | hnone
    · exact hcurrent (hsame.symm.trans hkept)
    · exact absurd (hnone.symm.trans hkept) (by simp)

theorem sort_current_iff (hn : d.items.Nodup) (order : List EntryRef) (hgone : r ∉ d.items) :
    (d.sortDescriptorsDidChange order).currentLogEntry = some r ↔
      d.currentLogEntry = some r ∧
        d.recomputes r (.locked (.sortDescriptorsDidChange order)) = false := by
  have hkeeps : d.recomputes r (.locked (.sortDescriptorsDidChange order)) = false ↔
      (d.sortDescriptorsDidChange order).currentLogEntry = d.currentLogEntry := by
    rw [sort_current hn, recomputes, Bool.not_eq_false', Bool.or_eq_true, decide_eq_true_eq,
      decide_eq_true_eq]
  rw [hkeeps]
  constructor
  · intro hkept
    rcases sort_selects hn order with hsame | ⟨e, hrow, hselected⟩
    · exact ⟨hsame.symm.trans hkept, hsame⟩
    · obtain rfl := Option.some.inj (hselected.symm.trans hkept)
      exact absurd (objectAtRow_mem hrow).1 hgone
  · rintro ⟨hcurrent, hsame⟩
    exact hsame.trans hcurrent

theorem reloaded_current_iff (notifies : Bool) :
    (d.reloadData notifies).currentLogEntry = some r ↔
      d.currentLogEntry = some r ∧ d.recomputes r (.reloaded notifies) = false := by
  by_cases hrow : (d.items.length : Int) ≤ d.selectedRow
  · have hmoved : ¬-1 = d.selectedRow := by omega
    rw [recomputes, decide_eq_true hrow, Bool.and_true, reloadData, if_pos hrow]
    cases notifies with
    | false => exact (and_iff_left rfl).symm
    | true => simp [selectRow, hmoved, tableViewSelectionDidChange, objectAtRow]
  · rw [recomputes, decide_eq_false hrow, Bool.and_false, reloadData, if_neg hrow]
    exact (and_iff_left rfl).symm

theorem select_current_iff (row : Int) (hgone : r ∉ d.items) :
    (d.selectRow row).currentLogEntry = some r ↔
      d.currentLogEntry = some r ∧ d.recomputes r (.locked (.select row)) = false := by
  by_cases hrow : row = d.selectedRow
  · simp [selectRow, recomputes, hrow]
  · refine iff_of_false (fun hkept => ?_) (by simp [recomputes, hrow])
    rw [selectRow, if_neg hrow] at hkept
    exact hgone (objectAtRow_mem (d := { d with selectedRow := row }) hkept).1

theorem apply_current_iff (hn : d.items.Nodup) (hgone : r ∉ (d.apply c).items) :
    (d.apply c).currentLogEntry = some r ↔
      d.currentLogEntry = some r ∧ d.recomputes r c = false := by
  cases c with
  | nothing => exact (and_iff_left rfl).symm
  | notified =>
    exact iff_of_false (fun hkept => hgone (objectAtRow_mem hkept).1) (by simp [recomputes])
  | reloaded notifies => exact reloaded_current_iff notifies
  | locked s =>
    cases s with
    | refresh now order => exact refresh_current_iff hn now order hgone
    | sortDescriptorsDidChange order =>
      exact sort_current_iff hn order (fun hr => hgone ((d.sort_perm order).mem_iff.mpr hr))
    | select row =>
      refine select_current_iff row (fun hr => hgone ?_)
      rwa [apply, exec, items, selectRow_dataList]
    | _ =>
      rw [apply, (exec_selection (by rfl)).2]
      exact (and_iff_left rfl).symm

theorem apply_owns_iff (hn : d.items.Nodup) (hr : r < d.dataList.next) :
    (d.apply c).Owns r ↔ d.retains r c = true := by
  rw [retains, Bool.or_eq_true, Bool.and_eq_true, Bool.and_eq_true, decide_eq_true_eq,
    decide_eq_true_eq, Bool.not_eq_true', Bool.not_eq_true']
  by_cases hkept : r ∈ (d.apply c).items
  · have hm := apply_mem hr hkept
    exact iff_of_true (Or.inl hkept) (Or.inl ⟨hm, (apply_mem_iff hn hm).mp hkept⟩)
  · have hout : ¬(r ∈ d.items ∧ d.takesOut r c = false) :=
      fun h => hkept ((apply_mem_iff hn h.1).mpr h.2)
    rw [Owns, or_iff_right hkept, or_iff_right hout]
    exact apply_current_iff hn hkept

theorem Owns.allocated (ht : d.Tidy) (h : d.Owns r) : r < d.dataList.next :=
  h.elim (d.dataList.allocated r) (ht.2 r)

end Owns

end Document

namespace World

section Dialogs
variable {w v : World} {a : Act} {s : Option Section}

-- A new dialog carries the entry of the selected row, so the log has it.
theorem Moves.dialogs (h : Moves w a s v) :
    ∀ dialog ∈ v.dialogs, dialog ∈ w.dialogs ∨ dialog.context ∈ w.doc.items := by
  intro dialog hd
  cases h with
  | @block b rest hmain hqueue => cases b <;> exact Or.inl hd
  | @reload item todo hmain =>
    rw [(w.runReload_reloads item todo).dialogs] at hd
    exact Or.inl hd
  | alert hmain =>
    rcases List.mem_append.mp hd with hold | hnew
    · exact Or.inl hold
    · obtain ⟨r, hr, rfl⟩ := List.mem_map.mp hnew
      exact Or.inr (Document.objectAtRow_mem (Option.mem_toList.mp hr)).1
  | quiet hmain hq =>
    cases hq with
    | killEnded accept connected junk hget => exact Or.inl (List.mem_of_mem_eraseIdx hd)
    | _ => exact Or.inl hd
  | _ => exact Or.inl hd

end Dialogs

end World

namespace Window

def OwnsDialogs (k : Window) : Prop :=
  ∀ dialog ∈ k.world.dialogs, k.world.owns dialog.context = true

def retainsContexts (k : Window) (a : TableAct) : Bool :=
  k.world.dialogs.all (fun dialog => k.doc.retains dialog.context (k.change a))

section Step
variable {k k' : Window} {a : TableAct}

theorem owns_iff {r : EntryRef} : k.world.owns r = true ↔ k.doc.Owns r := by
  rw [World.owns, Bool.or_eq_true, decide_eq_true_eq, decide_eq_true_eq]
  rfl

theorem step_dialogs (h : k.step a = some k') :
    (k.change a = .nothing ∧ ∀ dialog ∈ k'.world.dialogs,
      dialog ∈ k.world.dialogs ∨ dialog.context ∈ k.doc.items) ∨
    k'.world.dialogs = k.world.dialogs := by
  have hworld := step_world h
  cases a with
  | world b =>
    obtain ⟨v, hm, hv⟩ := World.step_moves hworld
    rw [hv]
    cases hs : k.world.locked b with
    | some s =>
      rw [hs] at hm
      exact Or.inr hm.locked_frame.1
    | none =>
      refine Or.inl ⟨?_, hm.dialogs⟩
      rw [change, hs]
      rfl
  | tableViewSelectionDidChange =>
    rw [← Option.some.inj hworld]
    exact Or.inr rfl
  | reloadData notifies =>
    obtain ⟨_, heq⟩ := Option.ite_none_right_eq_some.mp hworld
    rw [← Option.some.inj heq]
    exact Or.inr rfl

theorem retainsContexts_nothing (hc : k.change a = .nothing) (ho : k.OwnsDialogs) :
    k.retainsContexts a = true := by
  rw [retainsContexts, List.all_eq_true, hc]
  intro dialog hd
  have howns := ho dialog hd
  rw [World.owns] at howns
  simpa [Document.retains, Document.takesOut, Document.recomputes] using howns

theorem step_owns_iff (h : k.step a = some k') (ht : k.doc.Tidy) (ho : k.OwnsDialogs) :
    k'.OwnsDialogs ↔ k.retainsContexts a = true := by
  rcases step_dialogs h with ⟨hc, hdialogs⟩ | hdialogs
  · refine iff_of_true (fun dialog hd => ?_) (retainsContexts_nothing hc ho)
    have hdoc : k'.doc = k.doc := by
      rw [step_doc h, hc]
      rfl
    rw [owns_iff, hdoc]
    rcases hdialogs dialog hd with hold | hnew
    · exact owns_iff.mp (ho dialog hold)
    · exact Or.inl hnew
  · rw [OwnsDialogs, hdialogs, retainsContexts, List.all_eq_true]
    refine forall₂_congr (fun dialog hd => ?_)
    rw [owns_iff, step_doc h]
    exact Document.apply_owns_iff ht.1 ((owns_iff.mp (ho dialog hd)).allocated ht)

end Step

theorem dialogs_stay_owned_iff (conf : Configuration) (sliderValue trackQuery : Int)
    (acts : List TableAct) :
    (∀ n k, Transition.run step Transition.anyStep (initial conf sliderValue trackQuery)
      (acts.take n) = some k → k.OwnsDialogs) ↔
    (∀ n k a, Transition.run step Transition.anyStep (initial conf sliderValue trackQuery)
      (acts.take n) = some k → acts[n]? = some a → k.retainsContexts a = true) := by
  refine Transition.prefixes_iff_of_mem (I := fun k : Window => k.doc.Tidy)
    (initial_tidy conf sliderValue trackQuery) ?_ (fun _ _ _ _ hi _ hs _ => step_tidy hs hi)
    (fun _ _ _ _ hi ho hs => step_owns_iff hs hi ho)
    (fun _ _ ho hs => retainsContexts_nothing (change_disabled hs) ho)
  exact fun _ hd => absurd hd List.not_mem_nil

theorem dialog_context_released :
    let c := Configuration.onePool { active := some 1 } [3] (by decide) (fun _ => 1) (fun _ => 0)
    let row : QueryRow := { id := 7, host := "web", info := some [97], time := 4 }
    let asked : List Act := [.reloadDataWatchers, .mainThread, .mainThread, .mainThread] ++
      List.replicate 10 (.operation 1 { results := some [row] }) ++
      [.mainThread, .select 0, .killProcess, .mainThread, .mainThread]
    let ended : List Act := List.replicate 7 (.operation 1 {}) ++ List.replicate 2 (.operation 0 {})
    let confirmed : Act := .killEnded 0 true true (5, "42")
    (∃ k, Transition.run step Transition.anyStep (initial c 30 1)
        ((asked ++ ended).map TableAct.world) = some k ∧ ¬k.OwnsDialogs) ∧
    ∃ k, Transition.run step Transition.anyStep (initial c 30 1)
        ((asked ++ ended ++ [confirmed]).map TableAct.world) = some k ∧
      ∃ kill ∈ k.world.sent, kill.host = 5 ∧ kill.processID = "42" ∧
        kill.dialog.host = 3 ∧ kill.dialog.processID = "7" := by
  intro c row asked ended confirmed
  have hreleased : (Transition.run step Transition.anyStep (initial c 30 1)
      ((asked ++ ended).map TableAct.world)).any (fun k =>
        k.world.dialogs.any (fun dialog => !k.world.owns dialog.context)) = true := by
    decide +kernel
  have hsent : (Transition.run step Transition.anyStep (initial c 30 1)
      ((asked ++ ended ++ [confirmed]).map TableAct.world)).any (fun k =>
        k.world.sent.any (fun kill => decide (kill.host = 5) && decide (kill.processID = "42") &&
          decide (kill.dialog.host = 3) && decide (kill.dialog.processID = "7"))) = true := by
    decide +kernel
  obtain ⟨k, hrun, hk⟩ := (Option.any_eq_true _ _).mp hreleased
  obtain ⟨k', hrun', hk'⟩ := (Option.any_eq_true _ _).mp hsent
  obtain ⟨dialog, hd, hjunk⟩ := List.any_eq_true.mp hk
  simp only [List.any_eq_true, Bool.and_eq_true, decide_eq_true_eq, and_assoc] at hk'
  refine ⟨⟨k, hrun, fun ho => ?_⟩, k', hrun', hk'⟩
  simp [ho dialog hd] at hjunk

end Window

end DBMonitor
