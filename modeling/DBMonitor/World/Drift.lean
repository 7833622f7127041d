import DBMonitor.World.Window

namespace DBMonitor

namespace Document

-- e stays the current entry while the log has it, and nothing takes its place afterwards.
def Held (d : Document) (e : EntryRef) : Prop :=
  (e ∈ d.items → d.currentLogEntry = some e) ∧
    (d.currentLogEntry = some e ∨ d.currentLogEntry = none)

def keepsCurrent (d : Document) : Change → Bool
  | .notified =>
    decide (d.objectAtRow d.selectedRow =
      d.currentLogEntry.filter (fun e => decide (e ∈ d.items)))
  | .reloaded notifies =>
    !notifies || decide (d.selectedRow < d.items.length) ||
      d.currentLogEntry.all (fun e => decide (e ∉ d.items))
  | .locked (.sortDescriptorsDidChange order) =>
    decide (d.objectAtRow d.selectedRow = d.currentLogEntry) ||
      decide ((d.sortDataList order).objectAtRow d.selectedRow = d.objectAtRow d.selectedRow)
  | _ => true

section Held
variable {d : Document} {e : EntryRef}

theorem Held.of_current {d' : Document} (hh : d.Held e)
    (hcurrent : d'.currentLogEntry = d.currentLogEntry) (hmem : e ∈ d'.items → e ∈ d.items) :
    d'.Held e := by
  rw [Held, hcurrent]
  exact ⟨fun hm => hh.1 (hmem hm), hh.2⟩

theorem notified_held_iff (hh : d.Held e) :
    (d.apply .notified).Held e ↔ d.keepsCurrent .notified = true := by
  have hcurrent : d.currentLogEntry.filter (fun x => decide (x ∈ d.items)) =
      if e ∈ d.items then some e else none := by
    rcases hh.2 with hc | hc
    · rw [hc, Option.filter_some]
      simp
    · rw [hc, if_neg (fun hm => by simpa [hc] using hh.1 hm)]
      rfl
  rw [keepsCurrent, decide_eq_true_eq, hcurrent]
  change (_ → d.objectAtRow d.selectedRow = some e) ∧
    (d.objectAtRow d.selectedRow = some e ∨ d.objectAtRow d.selectedRow = none) ↔ _
  constructor
  · rintro ⟨hin, hout⟩
    split
    next hm => exact hin hm
    next hm => exact hout.resolve_left (fun hx => hm (objectAtRow_mem hx).1)
  · intro h
    rw [h]
    split
    next hm => exact ⟨fun _ => rfl, Or.inl rfl⟩
    next hm => exact ⟨fun hx => absurd hx hm, Or.inr rfl⟩

theorem reloaded_held_iff (notifies : Bool) (hh : d.Held e) :
    (d.apply (.reloaded notifies)).Held e ↔ d.keepsCurrent (.reloaded notifies) = true := by
  rw [apply, reloadData, keepsCurrent]
  by_cases hrow : (d.items.length : Int) ≤ d.selectedRow
  · have hstale : ¬d.selectedRow < d.items.length := Int.not_lt.mpr hrow
    have hmoved : ¬-1 = d.selectedRow := by omega
    rw [if_pos hrow, decide_eq_false hstale, Bool.or_false]
    cases notifies with
    | false => exact iff_of_true (hh.of_current rfl (fun hm => hm)) rfl
    | true =>
      rw [if_pos rfl, selectRow, if_neg hmoved]
      rcases hh.2 with hc | hc
      · simp [Held, tableViewSelectionDidChange, objectAtRow, hc, items]
      · have hlost : e ∉ d.items := fun hm => by simpa [hc] using hh.1 hm
        simp [Held, tableViewSelectionDidChange, objectAtRow, hc, hlost]
  · rw [if_neg hrow, decide_eq_true (Int.not_le.mp hrow)]
    exact iff_of_true hh (by simp)

theorem sorted_held_iff (hn : d.items.Nodup) (order : List EntryRef) (hh : d.Held e) :
    (d.exec (.sortDescriptorsDidChange order)).Held e ↔
      d.keepsCurrent (.locked (.sortDescriptorsDidChange order)) = true := by
  have hmem : e ∈ (d.exec (.sortDescriptorsDidChange order)).items ↔ e ∈ d.items :=
    (d.sort_perm order).mem_iff
  rw [keepsCurrent, Bool.or_eq_true, decide_eq_true_eq, decide_eq_true_eq, ← sort_current hn]
  constructor
  · rintro ⟨hin, hout⟩
    rcases sort_selects hn order with hsame | ⟨x, hrow, hselected⟩
    · exact hsame
    · have hx : x = e := by
        rcases hout with hc | hc
        · exact Option.some.inj (hselected.symm.trans hc)
        · exact absurd (hselected.symm.trans hc) (by simp)
      subst hx
      exact hselected.trans (hh.1 (objectAtRow_mem hrow).1).symm
  · intro hsame
    exact hh.of_current hsame hmem.mp

theorem refresh_held (hn : d.items.Nodup) (now : Time) (order : List EntryRef) (hh : d.Held e) :
    (d.exec (.refresh now order)).Held e := by
  refine ⟨fun hm => ?_, ?_⟩
  · have he : e ∈ d.items := refresh_subset now order hm
    exact (refresh_points hn he (hh.1 he) hm).2
  · rcases refresh_current hn now order with hsame | hnone
    · exact hh.2.imp hsame.trans hsame.trans
    · exact Or.inr hnone

theorem apply_held_iff {c : Change} (hn : d.items.Nodup) (he : e < d.dataList.next)
    (hh : d.Held e) (hc : ∀ row, c ≠ .locked (.select row)) :
    (d.apply c).Held e ↔ d.keepsCurrent c = true := by
  cases c with
  | nothing => exact iff_of_true hh rfl
  | notified => exact notified_held_iff hh
  | reloaded notifies => exact reloaded_held_iff notifies hh
  | locked s =>
    cases s with
    | select row => exact absurd rfl (hc row)
    | refresh now order => exact iff_of_true (refresh_held hn now order hh) rfl
    | sortDescriptorsDidChange order => exact sorted_held_iff hn order hh
    | _ =>
      refine iff_of_true (hh.of_current ?_ (apply_mem he)) rfl
      exact (exec_selection (by rfl)).2

end Held

end Document

namespace Window

def keepsCurrent (k : Window) (a : TableAct) : Bool := k.doc.keepsCurrent (k.change a)

section Step
variable {k k' : Window} {a : TableAct} {e : EntryRef}

theorem step_held_iff (h : k.step a = some k') (ha : a.isClick = false) (hi : k.doc.Tidy)
    (he : e < k.doc.dataList.next) (hh : k.doc.Held e) :
    k'.doc.Held e ↔ k.keepsCurrent a = true := by
  rw [step_doc h]
  refine Document.apply_held_iff hi.1 he hh (fun row hc => ?_)
  obtain ⟨b, rfl, hb⟩ := change_issued h hc rfl
  cases b <;> simp [Act.issues] at hb
  simp [TableAct.isClick] at ha

theorem disabled_keepsCurrent (h : k.step a = none) : k.keepsCurrent a = true := by
  rw [keepsCurrent, change_disabled h]
  rfl

end Step

theorem selection_stays_iff {conf : Configuration} {sliderValue trackQuery : Int}
    {before acts : List TableAct} {start : Window} {e : EntryRef}
    (hbefore : Transition.run step Transition.anyStep (initial conf sliderValue trackQuery) before =
      some start)
    (he : start.doc.currentLogEntry = some e) (hclicks : ∀ a ∈ acts, a.isClick = false) :
    (∀ n k, Transition.run step Transition.anyStep start (acts.take n) = some k → k.doc.Held e) ↔
    (∀ n k a, Transition.run step Transition.anyStep start (acts.take n) = some k →
      acts[n]? = some a → k.keepsCurrent a = true) := by
  have hstart := run_tidy (initial_tidy conf sliderValue trackQuery) hbefore
  refine Transition.prefixes_iff_of_mem
    (I := fun k : Window => k.doc.Tidy ∧ e < k.doc.dataList.next) ⟨hstart, hstart.2 e he⟩
    ⟨fun _ => he, Or.inl he⟩ ?_ ?_ (fun _ _ _ => disabled_keepsCurrent)
  · rintro k a k' _ ⟨hi, hlt⟩ _ hs _
    refine ⟨step_tidy hs hi, hlt.trans_le ?_⟩
    rw [step_doc hs]
    exact Document.apply_next_le
  · rintro k a k' ha ⟨hi, hlt⟩ hh hs
    exact step_held_iff hs (hclicks a ha) hi hlt hh

theorem selection_stays_iff_aligned :
    let c := Configuration.onePool { active := some 1 } [3] (by decide) (fun _ => 1) (fun _ => 0)
    let row := fun n : Int =>
      ({ id := n, host := "web", info := some [97], time := 4 } : QueryRow)
    let opened : List Act := [.reloadDataWatchers, .mainThread, .mainThread, .mainThread] ++
      List.replicate 12 (.operation 1 { results := some [row 7, row 8, row 9] }) ++
      [.mainThread, .select 1]
    let acts : List TableAct := List.replicate 9
        (.world (.operation 1 { results := some [row 8, row 9] })) ++
      List.replicate 2 (.world (.operation 0 { order := [1, 2] })) ++
      [.world (.sort [2, 1]), .tableViewSelectionDidChange, .reloadData true]
    ∃ start, Transition.run step Transition.anyStep (initial c 30 1)
        (opened.map TableAct.world) = some start ∧
      start.doc.currentLogEntry = some 1 ∧
      ∀ n k, Transition.run step Transition.anyStep start (acts.take n) = some k →
        k.doc.Held 1 := by
  intro c row opened acts
  have hcheck : (Transition.run step Transition.anyStep (initial c 30 1)
      (opened.map TableAct.world)).any (fun start =>
        decide (start.doc.currentLogEntry = some 1) &&
          Transition.checks step keepsCurrent start acts) = true := by
    decide +kernel
  obtain ⟨start, hstart, hs⟩ := (Option.any_eq_true _ _).mp hcheck
  simp only [Bool.and_eq_true, decide_eq_true_eq] at hs
  refine ⟨start, hstart, hs.1, ?_⟩
  exact (selection_stays_iff hstart hs.1 (by decide)).mpr (Transition.checks_prefixes hs.2)

theorem status_table_moves_selection :
    let c := Configuration.onePool { active := some 1 } [3] (by decide) (fun _ => 1) (fun _ => 0)
    let row := fun n : Int =>
      ({ id := n, host := "web", info := some [97], time := 4 } : QueryRow)
    let opened : List Act := [.reloadDataWatchers, .mainThread, .mainThread, .mainThread] ++
      List.replicate 12 (.operation 1 { results := some [row 7, row 8, row 9] }) ++
      [.mainThread, .select 1]
    let poll : List TableAct := List.replicate 9
      (.world (.operation 1 { results := some [row 8, row 9] }))
    let refreshes : List TableAct := List.replicate 2 (.world (.operation 0 { order := [1, 2] }))
    ∃ start, Transition.run step Transition.anyStep (initial c 30 1)
        (opened.map TableAct.world) = some start ∧
      start.doc.currentLogEntry = some 1 ∧
      (∃ k, Transition.run step Transition.anyStep start
        (poll ++ [.tableViewSelectionDidChange] ++ refreshes) = some k ∧
        1 ∈ k.doc.items ∧ k.doc.currentLogEntry = some 2) ∧
      (∃ k, Transition.run step Transition.anyStep start
        (poll ++ [.world (.sort [2, 1])] ++ refreshes) = some k ∧
        1 ∈ k.doc.items ∧ k.doc.currentLogEntry = some 2) := by
  intro c row opened poll refreshes
  have hcheck : (Transition.run step Transition.anyStep (initial c 30 1)
      (opened.map TableAct.world)).any (fun start =>
        decide (start.doc.currentLogEntry = some 1) &&
        (Transition.run step Transition.anyStep start
          (poll ++ [.tableViewSelectionDidChange] ++ refreshes)).any (fun k =>
            decide (1 ∈ k.doc.items) && decide (k.doc.currentLogEntry = some 2)) &&
        (Transition.run step Transition.anyStep start
          (poll ++ [.world (.sort [2, 1])] ++ refreshes)).any (fun k =>
            decide (1 ∈ k.doc.items) && decide (k.doc.currentLogEntry = some 2))) = true := by
    decide +kernel
  obtain ⟨start, hstart, hs⟩ := (Option.any_eq_true _ _).mp hcheck
  simp only [Bool.and_eq_true, decide_eq_true_eq] at hs
  obtain ⟨⟨hcurrent, hnotified⟩, hsorted⟩ := hs
  obtain ⟨k, hrun, hk⟩ := (Option.any_eq_true _ _).mp hnotified
  obtain ⟨k', hrun', hk'⟩ := (Option.any_eq_true _ _).mp hsorted
  simp only [Bool.and_eq_true, decide_eq_true_eq] at hk hk'
  exact ⟨start, hstart, hcurrent, ⟨k, hrun, hk⟩, k', hrun', hk'⟩

end Window

end DBMonitor
