import DBMonitor.Library.Cursor
import DBMonitor.Log.Keys

namespace DBMonitor

namespace Document

def cursor (d : Document) : Cursor EntryRef where
  items := d.items
  row := d.selectedRow
  current := d.currentLogEntry

section Cursor
variable {d : Document}

theorem cursor_selectRow (row : Int) : (d.selectRow row).cursor = d.cursor.select row := by
  unfold selectRow Cursor.select
  by_cases h : row = d.selectedRow
  · rw [if_pos h, if_pos (c := row = d.cursor.row) h]
  · rw [if_neg h, if_neg (c := row = d.cursor.row) h]
    rfl

theorem cursor_alignSelection :
    d.alignSelection.1.cursor = d.cursor.align.1 ∧ d.alignSelection.2 = d.cursor.align.2 := by
  unfold alignSelection Cursor.align
  by_cases h : d.objectAtRow d.selectedRow = d.currentLogEntry
  · rw [if_pos h, if_pos (c := d.cursor.objectAt d.cursor.row = d.cursor.current) h]
    exact ⟨rfl, rfl⟩
  · rw [if_neg h, if_neg (c := d.cursor.objectAt d.cursor.row = d.cursor.current) h]
    obtain ⟨list, conf, slider, track, row, current⟩ := d
    cases current with
    | none => exact ⟨cursor_selectRow _, rfl⟩
    | some e =>
      by_cases he : e ∈ list.items
      · simp only [cursor, items, he, if_true]
        exact ⟨cursor_selectRow _, trivial⟩
      · simp only [cursor, items, he, if_false]
        exact ⟨cursor_selectRow _, trivial⟩

private theorem selectEntry_unmatched {e : EntryRef} (l : List EntryRef) (k : Nat) (d : Document)
    (h : e ∉ l) :
    (l.zipIdx k).foldl (fun d p => if p.1 = e then d.selectRow p.2 else d) d = d := by
  induction l generalizing k d with
  | nil => rfl
  | cons a l ih =>
    obtain ⟨hne, hl⟩ : e ≠ a ∧ e ∉ l := by simpa using h
    rw [List.zipIdx_cons, List.foldl_cons, if_neg (Ne.symm hne), ih _ _ hl]

theorem selectEntry_eq {e : EntryRef} (hn : d.items.Nodup) (he : e ∈ d.items) :
    d.selectEntry e = d.selectRow (d.items.idxOf e) := by
  obtain ⟨l, m, hi⟩ := List.append_of_mem he
  rw [hi, List.nodup_append] at hn
  have hl : e ∉ l := fun h => hn.2.2 e h e (by simp) rfl
  have hm : e ∉ m := (List.nodup_cons.mp hn.2.1).1
  have hidx : d.items.idxOf e = l.length := by
    rw [hi, List.idxOf_append, if_neg hl, List.idxOf_cons_self, Nat.zero_add]
  rw [selectEntry, hidx, hi, List.zipIdx_append, List.foldl_append, selectEntry_unmatched l _ d hl,
    List.zipIdx_cons, List.foldl_cons, if_pos rfl, selectEntry_unmatched m _ _ hm]
  simp

theorem cursor_reselect (hn : d.items.Nodup) (selected : Option EntryRef) :
    (d.reselect selected).cursor = d.cursor.restore selected := by
  unfold reselect Cursor.restore
  cases selected with
  | none => rfl
  | some e =>
    by_cases he : e ∈ d.items
    · simp only [cursor, he, if_true]
      rw [selectEntry_eq hn he]
      exact cursor_selectRow _
    · simp only [cursor, he, if_false]
      exact cursor_selectRow _

theorem discardAll_cursor (hosts : List HostRef) :
    (d.discardAll hosts).cursor = d.cursor.replace (d.discardAll hosts).items := by
  induction hosts generalizing d with
  | nil => rfl
  | cons h hosts ih => exact (ih (d := d.discardMySQLDead h)).trans rfl

theorem purge_cursor (now : Time) : (d.purge now).cursor = d.cursor.replace (d.purge now).items := by
  rw [purge_eq]
  exact (discardAll_cursor d.deadHosts).trans rfl

theorem cursor_refresh (hn : d.items.Nodup) (now : Time) (order : List EntryRef) :
    (d.refresh now order).cursor = d.cursor.refresh (d.refresh now order).items := by
  have hitems : (d.refresh now order).items =
      ((d.alignSelection.1.purge now).sortDataList order).items :=
    congrArg ObjectArray.items (d.refresh_sameLog now order).1
  have hn' : (d.refresh now order).items.Nodup := exec_nodup (.refresh now order) hn
  rw [hitems] at hn' ⊢
  obtain ⟨halign, hselected⟩ := cursor_alignSelection (d := d)
  have hpurged := purge_cursor (d := d.alignSelection.1) now
  rw [refresh, cursor_reselect hn', Cursor.refresh, ← hselected, ← halign]
  exact congrArg (fun c => (Cursor.replace _ c).restore d.alignSelection.2) hpurged

theorem cursor_sort (hn : d.items.Nodup) (order : List EntryRef) :
    (d.sortDescriptorsDidChange order).cursor =
      d.cursor.rearrange (d.sortDataList order).items := by
  have hp : (d.sortDataList order).items.Perm d.items := ObjectArray.reorder_perm _ _
  unfold sortDescriptorsDidChange
  cases h : d.objectAtRow d.selectedRow with
  | none => exact (Cursor.rearrange_none (c := d.cursor) h).symm
  | some e =>
    have he : e ∈ (d.sortDataList order).items := hp.mem_iff.mpr (objectAtRow_mem h).1
    have hc : d.cursor.objectAt d.cursor.row = some e := h
    simp only [Cursor.rearrange, hc]
    rw [selectEntry_eq (hp.nodup_iff.mpr hn) he]
    exact cursor_selectRow _

def movesSelection : Section → Bool
  | .refresh _ _ => true
  | .sortDescriptorsDidChange _ => true
  | .select _ => true
  | _ => false

theorem cursor_exec {s : Section} (h : movesSelection s = false) :
    (d.exec s).cursor = d.cursor.replace (d.exec s).items := by
  cases s with
  | updateRow now g row =>
    rw [exec, updateRow_eq]
    split <;> rfl
  | updateMySQLSlaveStatus now g status =>
    rw [exec, updateMySQLSlaveStatus_eq]
    split <;> rfl
  | killProcess =>
    rw [exec, killProcess]
    split
    · rfl
    · split <;> rfl
  | refresh now order => simp [movesSelection] at h
  | sortDescriptorsDidChange order => simp [movesSelection] at h
  | select row => simp [movesSelection] at h
  | _ => rfl

theorem exec_selection {s : Section} (h : movesSelection s = false) :
    (d.exec s).selectedRow = d.selectedRow ∧ (d.exec s).currentLogEntry = d.currentLogEntry :=
  ⟨congrArg Cursor.row (cursor_exec h), congrArg Cursor.current (cursor_exec h)⟩

theorem refresh_current (hn : d.items.Nodup) (now : Time) (order : List EntryRef) :
    (d.refresh now order).currentLogEntry = d.currentLogEntry ∨
      (d.refresh now order).currentLogEntry = none := by
  have hcurrent := Cursor.refresh_current (c := d.cursor) (d.refresh now order).items
  rw [← cursor_refresh hn now order] at hcurrent
  exact hcurrent

theorem refresh_points {e : EntryRef} {now : Time} {order : List EntryRef} (hn : d.items.Nodup)
    (he : e ∈ d.items) (hcurrent : d.currentLogEntry = some e)
    (hm : e ∈ (d.refresh now order).items) : (d.refresh now order).cursor.Points e := by
  rw [cursor_refresh hn now order]
  exact (Cursor.refresh_points (c := d.cursor) he hcurrent hm).1

theorem refresh_dropped {e : EntryRef} {now : Time} {order : List EntryRef} (hn : d.items.Nodup)
    (he : e ∈ d.items) (hcurrent : d.currentLogEntry = some e)
    (hm : e ∉ (d.refresh now order).items) :
    (d.refresh now order).selectedRow = -1 ∧ (d.refresh now order).currentLogEntry = none := by
  have hdropped := Cursor.refresh_dropped (c := d.cursor) he hcurrent hm
  rw [← cursor_refresh hn now order] at hdropped
  exact hdropped

theorem sort_current (hn : d.items.Nodup) (order : List EntryRef) :
    (d.sortDescriptorsDidChange order).currentLogEntry = d.currentLogEntry ↔
      d.objectAtRow d.selectedRow = d.currentLogEntry ∨
        (d.sortDataList order).objectAtRow d.selectedRow = d.objectAtRow d.selectedRow := by
  have hp : (d.sortDataList order).items.Perm d.items := ObjectArray.reorder_perm _ _
  have hcurrent := Cursor.rearrange_current (c := d.cursor) (hp.nodup_iff.mpr hn) hp
  rw [← cursor_sort hn order] at hcurrent
  refine hcurrent.trans ⟨?_, Or.inr⟩
  rintro (hnone | hrest)
  · refine Or.inr ?_
    have hlength : (d.sortDataList order).cursor.objectAt d.selectedRow = none := by
      rw [Cursor.objectAt_isNone] at hnone ⊢
      rw [show (d.sortDataList order).cursor.items.length = d.cursor.items.length from hp.length_eq]
      exact hnone
    exact hlength.trans hnone.symm
  · exact hrest

theorem sort_selects (hn : d.items.Nodup) (order : List EntryRef) :
    (d.sortDescriptorsDidChange order).currentLogEntry = d.currentLogEntry ∨
      ∃ e, d.objectAtRow d.selectedRow = some e ∧
        (d.sortDescriptorsDidChange order).currentLogEntry = some e := by
  have hp : (d.sortDataList order).items.Perm d.items := ObjectArray.reorder_perm _ _
  have hcursor := congrArg Cursor.current (cursor_sort hn order)
  cases hrow : d.objectAtRow d.selectedRow with
  | none =>
    rw [Cursor.rearrange_none (c := d.cursor) hrow] at hcursor
    exact Or.inl hcursor
  | some e =>
    have he : e ∈ (d.sortDataList order).items := hp.mem_iff.mpr (objectAtRow_mem hrow).1
    rw [(Cursor.rearrange_some (c := d.cursor) hrow).2] at hcursor
    split at hcursor
    · exact Or.inl hcursor
    · exact Or.inr ⟨e, rfl, hcursor.trans (Cursor.objectAt_idxOf (c := d.cursor.replace _) he)⟩

theorem refresh_subset (now : Time) (order : List EntryRef) :
    (d.refresh now order).items ⊆ d.items :=
  fun _ he => (exec_mem (s := .refresh now order) he).resolve_right (by simp [filing])

end Cursor

theorem refresh_restores_selection (d : Document) (hn : d.items.Nodup) (now : Time)
    (order : List EntryRef) :
    let refreshed := d.refresh now order
    (∀ e ∈ refreshed.items, d.currentLogEntry = some e →
      refreshed.selectedRow = refreshed.items.idxOf e ∧ refreshed.currentLogEntry = some e) ∧
    ((∀ e ∈ refreshed.items, d.currentLogEntry ≠ some e) →
      refreshed.objectAtRow refreshed.selectedRow = none ∧
        ∀ e ∈ refreshed.items, refreshed.currentLogEntry ≠ some e) := by
  intro refreshed
  have hn' : refreshed.items.Nodup := exec_nodup (.refresh now order) hn
  have hrestored := Cursor.refresh_restores (c := d.cursor) hn' (refresh_subset now order)
  rw [← cursor_refresh hn now order] at hrestored
  exact hrestored

theorem refresh_restores_selection_stale :
    let c := Configuration.onePool { active := some 1 } [3] (by decide) (fun _ => 1) (fun _ => 0)
    let row := fun n : Int =>
      ({ id := n, host := "web", info := some [97], time := 4 } : QueryRow)
    let d := (initial c 60 1).runSections [.updateRow 0 3 (row 7), .updateRow 0 3 (row 8),
      .updateRow 0 3 (row 9), .select 1, .clearUpdates 3, .updateRow second 3 (row 8),
      .updateRow second 3 (row 9), .discardMySQLDead 3]
    let refreshed := d.refresh second [2, 1]
    d.items = [1, 2] ∧ d.selectedRow = 1 ∧ d.currentLogEntry = some 1 ∧
      refreshed.items = [2, 1] ∧ refreshed.selectedRow = 1 ∧
      refreshed.currentLogEntry = some 1 := by
  intro c row d refreshed
  have hitems : refreshed.items = [2, 1] := by decide +kernel
  have hcurrent : d.currentLogEntry = some 1 := by decide +kernel
  have hrestored := (refresh_restores_selection d (by decide +kernel) second [2, 1]).1 1
    (by decide +kernel) hcurrent
  refine ⟨by decide +kernel, by decide +kernel, hcurrent, hitems, ?_, hrestored.2⟩
  exact hrestored.1.trans (by decide +kernel)

end Document

end DBMonitor
