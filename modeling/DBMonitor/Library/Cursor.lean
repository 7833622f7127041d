import Mathlib.Tactic
import Mathlib.Data.List.NodupEquivFin

-- A list shown in a table: the selected row, and the element remembered when it was selected.
structure Cursor (α : Type) where
  items : List α
  row : Int
  current : Option α

namespace Cursor
variable {α : Type}

def objectAt (c : Cursor α) (row : Int) : Option α :=
  if 0 ≤ row then c.items[row.toNat]? else none

def notify (c : Cursor α) : Cursor α := { c with current := c.objectAt c.row }

def select (row : Int) (c : Cursor α) : Cursor α :=
  if row = c.row then c else notify { c with row := row }

def replace (items : List α) (c : Cursor α) : Cursor α := { c with items := items }

def Points (c : Cursor α) (x : α) : Prop := c.objectAt c.row = some x ∧ c.current = some x

section Rows
variable {c : Cursor α} {x : α} {row : Int}

@[simp] theorem objectAt_none : c.objectAt (-1) = none := rfl

@[simp] theorem select_items : (c.select row).items = c.items := by
  unfold select; split <;> rfl

@[simp] theorem select_row : (c.select row).row = row := by
  unfold select
  split
  next h => exact h.symm
  next => rfl

theorem select_current :
    (c.select row).current = if row = c.row then c.current else c.objectAt row := by
  unfold select; split <;> rfl

theorem objectAt_congr {b : Cursor α} (h : b.items = c.items) : b.objectAt row = c.objectAt row := by
  simp only [objectAt, h]

theorem objectAt_some : c.objectAt row = some x ↔ 0 ≤ row ∧ c.items[row.toNat]? = some x := by
  unfold objectAt
  split
  next h => simp [h]
  next h => simp [h]

theorem objectAt_mem (h : c.objectAt row = some x) : x ∈ c.items :=
  List.mem_of_getElem? (objectAt_some.mp h).2

theorem objectAt_lt (h : c.objectAt row = some x) : 0 ≤ row ∧ row < c.items.length := by
  obtain ⟨hrow, hget⟩ := objectAt_some.mp h
  obtain ⟨hlt, _⟩ := List.getElem?_eq_some_iff.mp hget
  exact ⟨hrow, by omega⟩

theorem objectAt_isNone : c.objectAt row = none ↔ row < 0 ∨ c.items.length ≤ row := by
  unfold objectAt
  split
  next h =>
    rw [List.getElem?_eq_none_iff]
    omega
  next h => simp [Int.not_le.mp h]

theorem points_row (h : c.Points x) : c.row ≠ -1 := by
  have hrow := (objectAt_lt h.1).1
  omega

theorem select_points (h : c.objectAt row = some x) (hsame : row = c.row → c.current = some x) :
    (c.select row).Points x := by
  refine ⟨?_, ?_⟩
  · rw [select_row, objectAt_congr select_items, h]
  · rw [select_current]
    split
    next hrow => exact hsame hrow
    next => exact h

end Rows

section Lists
variable {l : List α} {x : α} {i : Nat}

theorem filter_getElem?_le {p : α → Bool} (hn : l.Nodup) (h : l[i]? = some x) {j : Nat}
    (hj : (l.filter p)[j]? = some x) : j ≤ i := by
  obtain ⟨f, hf⟩ := List.sublist_iff_exists_orderEmbedding_getElem?_eq.mp
    (List.filter_sublist (l := l) (p := p))
  obtain ⟨hlt, hget⟩ := List.getElem?_eq_some_iff.mp h
  obtain ⟨hlt', hget'⟩ := List.getElem?_eq_some_iff.mp ((hf j).symm.trans hj)
  have hij : f j = i := hn.getElem_inj_iff.mp (hget'.trans hget.symm)
  exact hij ▸ f.strictMono.le_apply

theorem filter_getElem?_iff (hn : l.Nodup) (h : l[i]? = some x) (p : α → Bool) :
    (l.filter p)[i]? = some x ↔ ∀ y ∈ l.take (i + 1), p y = true := by
  induction l generalizing i with
  | nil => simp at h
  | cons a l ih =>
    obtain ⟨ha, hn⟩ := List.nodup_cons.mp hn
    cases i with
    | zero =>
      obtain rfl : a = x := by simpa using h
      cases hp : p a with
      | true => simp [hp]
      | false =>
        refine iff_of_false (fun hget => ha ?_) (by simp [hp])
        rw [List.filter_cons_of_neg (by simp [hp])] at hget
        exact List.mem_of_mem_filter (List.mem_of_getElem? hget)
    | succ i =>
      have htail : l[i]? = some x := by simpa using h
      cases hp : p a with
      | true => simpa [hp] using ih hn htail
      | false =>
        refine iff_of_false (fun hget => ?_) (by simp [hp])
        rw [List.filter_cons_of_neg (by simp [hp])] at hget
        have hle := filter_getElem?_le hn htail hget
        omega

theorem foldl_zipIdx_ne {S : Type} {f : Nat → S → S} [DecidableEq α] (hx : x ∉ l) (k : Nat)
    (s : S) : (l.zipIdx k).foldl (fun s p => if p.1 = x then f p.2 s else s) s = s := by
  induction l generalizing k s with
  | nil => rfl
  | cons a l ih =>
    obtain ⟨hne, hl⟩ : x ≠ a ∧ x ∉ l := by simpa using hx
    rw [List.zipIdx_cons, List.foldl_cons, if_neg (Ne.symm hne), ih hl]

-- A loop over the rows that acts where it meets x acts once, at the row of x.
theorem foldl_zipIdx_eq {S : Type} {f : Nat → S → S} [DecidableEq α] (hn : l.Nodup) (hx : x ∈ l)
    (s : S) : l.zipIdx.foldl (fun s p => if p.1 = x then f p.2 s else s) s = f (l.idxOf x) s := by
  obtain ⟨m, k, rfl⟩ := List.append_of_mem hx
  rw [List.nodup_append] at hn
  have hm : x ∉ m := fun h => hn.2.2 x h x (by simp) rfl
  have hk : x ∉ k := (List.nodup_cons.mp hn.2.1).1
  rw [List.zipIdx_append, List.foldl_append, foldl_zipIdx_ne hm, List.zipIdx_cons, List.foldl_cons,
    if_pos rfl, foldl_zipIdx_ne hk, List.idxOf_append, if_neg hm, List.idxOf_cons_self]

theorem not_mem_eraseIdx (hn : l.Nodup) (h : l[i]? = some x) : x ∉ l.eraseIdx i := by
  intro hm
  obtain ⟨k, hk, hkx⟩ := List.mem_eraseIdx_iff_getElem?.mp hm
  obtain ⟨hlt, hget⟩ := List.getElem?_eq_some_iff.mp h
  obtain ⟨hlt', hget'⟩ := List.getElem?_eq_some_iff.mp hkx
  exact hk (hn.getElem_inj_iff.mp (hget'.trans hget.symm))

end Lists

section Tables
variable [DecidableEq α]

def align (c : Cursor α) : Cursor α × Option α :=
  if c.objectAt c.row = c.current then (c, c.current)
  else
    match c.current with
    | some x => if x ∈ c.items then (c.select (c.items.idxOf x), some x) else (c.select (-1), none)
    | none => (c.select (-1), none)

def restore (selected : Option α) (c : Cursor α) : Cursor α :=
  match selected with
  | none => c
  | some x => if x ∈ c.items then c.select (c.items.idxOf x) else c.select (-1)

def refresh (items : List α) (c : Cursor α) : Cursor α :=
  (c.align.1.replace items).restore c.align.2

def rearrange (items : List α) (c : Cursor α) : Cursor α :=
  match c.objectAt c.row with
  | none => c.replace items
  | some x => (c.replace items).select (items.idxOf x)

variable {c : Cursor α} {x : α} {row : Int} {items : List α}

theorem objectAt_idxOf (h : x ∈ c.items) : c.objectAt (c.items.idxOf x) = some x :=
  objectAt_some.mpr ⟨Int.natCast_nonneg _, by simpa using List.getElem?_idxOf h⟩

theorem objectAt_iff (hn : c.items.Nodup) :
    c.objectAt row = some x ↔ x ∈ c.items ∧ row = c.items.idxOf x := by
  constructor
  · intro h
    obtain ⟨hrow, hget⟩ := objectAt_some.mp h
    obtain ⟨hlt, hx⟩ := List.getElem?_eq_some_iff.mp hget
    have hidx := hn.idxOf_getElem row.toNat hlt
    rw [hx] at hidx
    exact ⟨objectAt_mem h, by omega⟩
  · rintro ⟨hx, rfl⟩
    exact objectAt_idxOf hx

theorem align_points (hx : x ∈ c.items) (hcurrent : c.current = some x) :
    c.align.1.Points x ∧ c.align.1.items = c.items ∧ c.align.2 = some x := by
  unfold align
  split
  next h => exact ⟨⟨h.trans hcurrent, hcurrent⟩, rfl, hcurrent⟩
  next =>
    simp only [hcurrent, hx, if_true]
    exact ⟨select_points (objectAt_idxOf hx) (fun _ => hcurrent), select_items, trivial⟩

theorem align_lost (hx : x ∉ c.items) (hcurrent : c.current = some x) :
    c.align = (c.select (-1), none) := by
  unfold align
  rw [if_neg]
  · simp only [hcurrent, hx, if_false]
  · intro h
    exact hx (objectAt_mem (h.trans hcurrent))

theorem align_none (hcurrent : c.current = none) :
    c.align = (if c.objectAt c.row = none then c else c.select (-1), none) := by
  unfold align
  rw [hcurrent]
  split <;> rfl

theorem refresh_items : (c.refresh items).items = items := by
  unfold refresh restore
  split
  · rfl
  · split <;> exact select_items

theorem refresh_points (hx : x ∈ c.items) (hcurrent : c.current = some x) (hm : x ∈ items) :
    (c.refresh items).Points x ∧ (c.refresh items).row = items.idxOf x := by
  obtain ⟨hp, _, hselected⟩ := align_points hx hcurrent
  have hsame : (c.refresh items) = (c.align.1.replace items).select (items.idxOf x) := by
    simp only [refresh, restore, hselected, replace, hm, if_true]
  rw [hsame]
  exact ⟨select_points (objectAt_idxOf (c := c.align.1.replace items) hm) (fun _ => hp.2), select_row⟩

theorem refresh_dropped (hx : x ∈ c.items) (hcurrent : c.current = some x) (hm : x ∉ items) :
    (c.refresh items).row = -1 ∧ (c.refresh items).current = none := by
  obtain ⟨hp, _, hselected⟩ := align_points hx hcurrent
  have hsame : (c.refresh items) = (c.align.1.replace items).select (-1) := by
    simp only [refresh, restore, hselected, replace, hm, if_false]
  have hrow : -1 ≠ (c.align.1.replace items).row := fun h => points_row hp h.symm
  rw [hsame, select_row, select_current, if_neg hrow]
  exact ⟨rfl, rfl⟩

theorem refresh_lost (items : List α) (hx : x ∉ c.items) (hcurrent : c.current = some x) :
    (c.refresh items).row = -1 ∧
      (c.refresh items).current = if c.row = -1 then some x else none := by
  have hsame : c.refresh items = (c.select (-1)).replace items := by
    rw [refresh, align_lost hx hcurrent]
    rfl
  rw [hsame]
  refine ⟨select_row, ?_⟩
  change (c.select (-1)).current = _
  rw [select_current, hcurrent, objectAt_none]
  simp only [eq_comm]

theorem refresh_none (items : List α) (hcurrent : c.current = none) :
    (c.refresh items).row = (if c.objectAt c.row = none then c.row else -1) ∧
      (c.refresh items).current = none := by
  have hsame : c.refresh items =
      (if c.objectAt c.row = none then c else c.select (-1)).replace items := by
    rw [refresh, align_none hcurrent]
    rfl
  rw [hsame]
  split
  · exact ⟨rfl, hcurrent⟩
  · refine ⟨select_row, ?_⟩
    change (c.select (-1)).current = none
    rw [select_current, hcurrent, objectAt_none, ite_self]

-- What a refresh leaves selected: the element that was current, if it is still there, or nothing.
theorem refresh_restores (hn : items.Nodup) (hsub : items ⊆ c.items) :
    (∀ x ∈ items, c.current = some x →
      (c.refresh items).row = items.idxOf x ∧ (c.refresh items).current = some x) ∧
    ((∀ x ∈ items, c.current ≠ some x) →
      (c.refresh items).objectAt (c.refresh items).row = none ∧
        ∀ x ∈ items, (c.refresh items).current ≠ some x) := by
  refine ⟨fun x hm hcurrent => ?_, fun hlost => ?_⟩
  · obtain ⟨hp, hrow⟩ := refresh_points (hsub hm) hcurrent hm
    exact ⟨hrow, hp.2⟩
  · cases hcurrent : c.current with
    | none =>
      obtain ⟨hrow, hnone⟩ := refresh_none items hcurrent
      refine ⟨?_, by simp [hnone]⟩
      rw [hrow]
      split
      next hstale =>
        have hlength := (hn.subperm hsub).length_le
        rw [objectAt_isNone] at hstale ⊢
        rw [refresh_items]
        omega
      next => rfl
    | some x =>
      have hm : x ∉ items := fun hm => hlost x hm hcurrent
      by_cases hx : x ∈ c.items
      · obtain ⟨hrow, hnone⟩ := refresh_dropped hx hcurrent hm
        rw [hrow, hnone]
        exact ⟨rfl, by simp⟩
      · obtain ⟨hrow, hnone⟩ := refresh_lost items hx hcurrent
        rw [hrow, hnone]
        refine ⟨rfl, fun y hy => ?_⟩
        split
        · rintro ⟨⟩
          exact hm hy
        · simp

theorem refresh_current (items : List α) :
    (c.refresh items).current = c.current ∨ (c.refresh items).current = none := by
  cases hcurrent : c.current with
  | none => exact Or.inr (refresh_none items hcurrent).2
  | some x =>
    by_cases hx : x ∈ c.items
    · by_cases hm : x ∈ items
      · exact Or.inl (refresh_points hx hcurrent hm).1.2
      · exact Or.inr (refresh_dropped hx hcurrent hm).2
    · rw [(refresh_lost items hx hcurrent).2]
      split
      · exact Or.inl rfl
      · exact Or.inr rfl

theorem rearrange_none (h : c.objectAt c.row = none) : c.rearrange items = c.replace items := by
  simp only [rearrange, h]

theorem rearrange_some (h : c.objectAt c.row = some x) :
    (c.rearrange items).row = items.idxOf x ∧
      (c.rearrange items).current =
        if (items.idxOf x : Int) = c.row then c.current
        else (c.replace items).objectAt (items.idxOf x) := by
  simp only [rearrange, h]
  exact ⟨select_row, select_current⟩

theorem rearrange_points (h : c.Points x) (hm : x ∈ items) : (c.rearrange items).Points x := by
  simp only [rearrange, h.1]
  exact select_points (objectAt_idxOf (c := c.replace items) hm) (fun _ => h.2)

-- The remembered element survives where the row was not stale or shows the same element again.
theorem rearrange_current (hn : items.Nodup) (hp : items.Perm c.items) :
    (c.rearrange items).current = c.current ↔
      c.objectAt c.row = none ∨ c.objectAt c.row = c.current ∨
        (c.replace items).objectAt c.row = c.objectAt c.row := by
  cases h : c.objectAt c.row with
  | none => simp [rearrange_none h, replace]
  | some x =>
    have hm : x ∈ items := hp.mem_iff.mpr (objectAt_mem h)
    have hobject : (c.replace items).objectAt (items.idxOf x) = some x :=
      objectAt_idxOf (c := c.replace items) hm
    have hsame : (c.replace items).objectAt c.row = some x ↔ (items.idxOf x : Int) = c.row := by
      rw [objectAt_iff (c := c.replace items) hn, eq_comm (a := c.row)]
      exact and_iff_right hm
    rw [(rearrange_some h).2, hobject, hsame]
    split
    next hrow => simp [hrow]
    next hrow => simp [hrow]

end Tables

end Cursor
