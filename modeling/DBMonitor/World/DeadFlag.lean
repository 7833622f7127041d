import DBMonitor.Log.DeadFlag
import DBMonitor.World.Moves

namespace DBMonitor

namespace World

def purgesClean (w : World) (a : Act) : Bool := (w.locked a).all w.doc.purgesClean

section Step
variable {w w' : World} {a : Act}

theorem step_wellKept (h : w.step a = some w') (hk : w.doc.WellKept) : w'.doc.WellKept := by
  rw [step_doc h]
  cases w.locked a with
  | none => exact hk
  | some s => exact Document.exec_wellKept s hk

theorem step_retired (h : w.step a = some w') (hi : w.doc.Retired) : w'.doc.Retired := by
  rw [step_doc h]
  cases w.locked a with
  | none => exact hi
  | some s => exact hi.exec

theorem step_agrees_iff (h : w.step a = some w') (hi : w.doc.Retired) (hf : w.doc.FlagAgrees) :
    w'.doc.FlagAgrees ↔ w.purgesClean a = true := by
  rw [step_doc h, purgesClean]
  cases w.locked a with
  | none => exact iff_of_true hf rfl
  | some s => exact Document.exec_agrees_iff hf hi

theorem disabled_purgesClean (h : w.step a = none) : w.purgesClean a = true := by
  rw [purgesClean, locked, Option.map_eq_none_iff.mp h]
  rfl

end Step

theorem dead_flag_agrees_iff (conf : Configuration) (sliderValue trackQuery : Int)
    (acts : List Act) :
    let start := initial conf sliderValue trackQuery
    (∀ k w, Transition.run step Transition.anyStep start (acts.take k) = some w →
      w.doc.DeadConsistent) ↔
    (∀ k w a, Transition.run step Transition.anyStep start (acts.take k) = some w →
      acts[k]? = some a → w.purgesClean a = true) := by
  intro start
  have hstart := Document.initial_flags conf sliderValue trackQuery
  have hwell := Document.initial_wellKept conf sliderValue trackQuery
  refine Transition.prefixes_iff (I := fun w => w.doc.WellKept ∧ w.doc.Retired) ⟨hwell, hstart.1⟩
    ((Document.deadConsistent_iff hwell hstart.1).mpr hstart.2) ?_ ?_ (fun _ _ => disabled_purgesClean)
  · rintro w a w' ⟨hk, hi⟩ hs
    exact ⟨step_wellKept hs hk, step_retired hs hi⟩
  · rintro w a w' ⟨hk, hi⟩ hp hs
    rw [Document.deadConsistent_iff (step_wellKept hs hk) (step_retired hs hi)]
    exact step_agrees_iff hs hi ((Document.deadConsistent_iff hk hi).mp hp)

theorem reactivated_host_dead_and_running :
    let c := Configuration.onePool { active := some 1 } [3] (by decide) (fun _ => 1) (fun _ => 0)
    let off := Configuration.onePool { active := some 1 } [3] (by decide) (fun _ => 0) (fun _ => 0)
    let row : QueryRow := { id := 8, host := "web", info := some [97], time := 9 }
    let acts : List Act := [.reloadDataWatchers, .mainThread, .mainThread, .mainThread] ++
      List.replicate 10 (.operation 1 { results := some [row] }) ++
      [.operation 0 {}, .openConfigSheet, .mainThread, .edit off, .operation 0 { now := second },
        .edit c, .endConfigSheet, .mainThread, .mainThread, .mainThread, .mainThread] ++
      List.replicate 8 (.operation 2 { now := 2 * second, results := some [row] })
    ∃ w, Transition.run step Transition.anyStep (initial c 30 1) acts = some w ∧
      ¬w.doc.DeadConsistent ∧
      ∃ r, w.doc.objectAtRow 0 = some r ∧ (w.doc.entry r).updated = true ∧
        (w.doc.entry r).dead = true ∧ (w.doc.entry r).processID = "8" ∧
        w.doc.willDisplayCell 0 = some .grayColor ∧
        (w.doc.selectRow 0).killTarget = some r := by
  intro c off row acts
  have hcheck : (Transition.run step Transition.anyStep (initial c 30 1) acts).any (fun w =>
      (w.doc.objectAtRow 0).any (fun r => decide ((w.doc.entry r).updated = true) &&
        decide ((w.doc.entry r).dead = true) && decide ((w.doc.entry r).processID = "8") &&
        decide (w.doc.willDisplayCell 0 = some .grayColor) &&
        decide ((w.doc.selectRow 0).killTarget = some r))) = true := by
    decide +kernel
  obtain ⟨w, hrun, hw⟩ := (Option.any_eq_true _ _).mp hcheck
  obtain ⟨r, hr, hw⟩ := (Option.any_eq_true _ _).mp hw
  simp only [Bool.and_eq_true, decide_eq_true_eq] at hw
  obtain ⟨⟨⟨⟨hu, hd⟩, hp⟩, hgray⟩, hkill⟩ := hw
  exact ⟨w, hrun, fun h => h.drawn 0 r hr hu hgray, r, hr, hu, hd, hp, hgray, hkill⟩

end World

end DBMonitor
