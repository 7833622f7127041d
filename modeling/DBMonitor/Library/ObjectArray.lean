import Mathlib.Tactic
import Mathlib.Logic.Function.Basic
import Mathlib.Data.List.Basic

structure ObjectArray (α : Type) where
  heap : Nat → α
  items : List Nat
  next : Nat
  allocated : ∀ r ∈ items, r < next

namespace ObjectArray
variable {α β : Type}

def empty (x : α) : ObjectArray α where
  heap := fun _ => x
  items := []
  next := 0
  allocated := by simp

def modify (a : ObjectArray α) (r : Nat) (f : α → α) : ObjectArray α :=
  { a with heap := Function.update a.heap r (f (a.heap r)) }

def addObject (a : ObjectArray α) (x : α) : ObjectArray α where
  heap := Function.update a.heap a.next x
  items := a.items ++ [a.next]
  next := a.next + 1
  allocated := by
    intro r hr
    rcases List.mem_append.mp hr with hr | hr
    · exact Nat.lt_succ_of_lt (a.allocated r hr)
    · simp only [List.mem_singleton] at hr
      omega

def removeObject (a : ObjectArray α) (r : Nat) : ObjectArray α where
  heap := a.heap
  items := a.items.filter (fun s => !decide (s = r))
  next := a.next
  allocated := fun s hs => a.allocated s (List.mem_of_mem_filter hs)

def removeObjects (a : ObjectArray α) (l : List Nat) : ObjectArray α :=
  l.foldl removeObject a

def removeObjectAtIndex (a : ObjectArray α) (i : Nat) : ObjectArray α where
  heap := a.heap
  items := a.items.eraseIdx i
  next := a.next
  allocated := fun r hr => a.allocated r (List.mem_of_mem_eraseIdx hr)

def removeAllObjects (a : ObjectArray α) : ObjectArray α where
  heap := a.heap
  items := []
  next := a.next
  allocated := by simp

def reorder (a : ObjectArray α) (order : List Nat) : ObjectArray α :=
  if h : order.Perm a.items then
    { a with items := order, allocated := fun r hr => a.allocated r (h.mem_iff.mp hr) }
  else a

def forEach (a : ObjectArray α) (body : Nat → α → α × List β) : ObjectArray α × List β :=
  a.items.foldl (fun s r => (s.1.modify r (fun x => (body r x).1), s.2 ++ (body r (s.1.heap r)).2))
    (a, [])

def mapObjects (a : ObjectArray α) (f : α → α) : ObjectArray α :=
  (a.forEach (fun _ x => (f x, ([] : List Unit)))).1

def lastMatch (a : ObjectArray α) (p : α → Bool) : Option Nat :=
  a.items.foldl (fun current r => if p (a.heap r) then some r else current) none

-- Find the last match or append a fresh object, then write to the object found or made.
def upsert (a : ObjectArray α) (p : α → Bool) (fresh : α) (f : α → α) : ObjectArray α :=
  match a.lastMatch p with
  | some r => a.modify r f
  | none => (a.addObject fresh).modify a.next f

def target (a : ObjectArray α) (p : α → Bool) : Nat := (a.lastMatch p).getD a.next

theorem modify_heap (a : ObjectArray α) (r s : Nat) (f : α → α) :
    (a.modify r f).heap s = if s = r then f (a.heap r) else a.heap s := by
  simp [modify, Function.update_apply]

@[simp] theorem removeObjects_heap (a : ObjectArray α) (l : List Nat) :
    (a.removeObjects l).heap = a.heap := by
  induction l generalizing a with
  | nil => rfl
  | cons r l ih => exact (ih (a.removeObject r)).trans rfl

@[simp] theorem removeObjects_next (a : ObjectArray α) (l : List Nat) :
    (a.removeObjects l).next = a.next := by
  induction l generalizing a with
  | nil => rfl
  | cons r l ih => exact (ih (a.removeObject r)).trans rfl

theorem removeObjects_items (a : ObjectArray α) (l : List Nat) :
    (a.removeObjects l).items = a.items.filter (fun s => !l.contains s) := by
  induction l generalizing a with
  | nil => simp [removeObjects]
  | cons r l ih =>
    have h : (a.removeObjects (r :: l)).items = ((a.removeObject r).removeObjects l).items := rfl
    rw [h, ih]
    simp only [removeObject, List.filter_filter]
    apply List.filter_congr
    intro s _
    by_cases hs : s = r <;> simp [hs]

@[simp] theorem reorder_heap (a : ObjectArray α) (order : List Nat) :
    (a.reorder order).heap = a.heap := by
  unfold reorder; split <;> rfl

@[simp] theorem reorder_next (a : ObjectArray α) (order : List Nat) :
    (a.reorder order).next = a.next := by
  unfold reorder; split <;> rfl

theorem reorder_perm (a : ObjectArray α) (order : List Nat) :
    (a.reorder order).items.Perm a.items := by
  unfold reorder
  split
  next h => exact h
  next => exact List.Perm.refl _

section Loops

def Stable (body : Nat → α → α × List β) : Prop := ∀ r x, body r (body r x).1 = body r x

private def pass (body : Nat → α → α × List β) (s : ObjectArray α × List β) (r : Nat) :
    ObjectArray α × List β :=
  (s.1.modify r (fun x => (body r x).1), s.2 ++ (body r (s.1.heap r)).2)

private theorem pass_frame (body : Nat → α → α × List β) (l : List Nat)
    (s : ObjectArray α × List β) :
    (l.foldl (pass body) s).1.items = s.1.items ∧ (l.foldl (pass body) s).1.next = s.1.next := by
  induction l generalizing s with
  | nil => exact ⟨rfl, rfl⟩
  | cons r l ih => exact ih (pass body s r)

private theorem pass_heap {body : Nat → α → α × List β} (hb : Stable body) (l : List Nat)
    (s : ObjectArray α × List β) (t : Nat) :
    (l.foldl (pass body) s).1.heap t = if t ∈ l then (body t (s.1.heap t)).1 else s.1.heap t := by
  induction l generalizing s with
  | nil => simp
  | cons r l ih =>
    rw [List.foldl_cons, ih]
    by_cases htr : t = r
    · subst htr
      simp [pass, modify_heap, hb t]
    · simp [pass, modify_heap, htr]

private theorem pass_out {body : Nat → α → α × List β} (hb : Stable body) (l : List Nat)
    (s : ObjectArray α × List β) :
    (l.foldl (pass body) s).2 = s.2 ++ l.flatMap (fun r => (body r (s.1.heap r)).2) := by
  induction l generalizing s with
  | nil => simp
  | cons r l ih =>
    rw [List.foldl_cons, ih]
    have hl : l.flatMap (fun t => (body t ((pass body s r).1.heap t)).2) =
        l.flatMap (fun t => (body t (s.1.heap t)).2) := by
      congr 1
      funext t
      by_cases htr : t = r
      · subst htr
        simp [pass, modify_heap, hb t]
      · simp [pass, modify_heap, htr]
    rw [hl]
    simp [pass]

@[simp] theorem forEach_items (a : ObjectArray α) (body : Nat → α → α × List β) :
    (a.forEach body).1.items = a.items := (pass_frame body a.items (a, [])).1

@[simp] theorem forEach_next (a : ObjectArray α) (body : Nat → α → α × List β) :
    (a.forEach body).1.next = a.next := (pass_frame body a.items (a, [])).2

theorem forEach_heap {body : Nat → α → α × List β} (hb : Stable body) (a : ObjectArray α)
    (r : Nat) :
    (a.forEach body).1.heap r = if r ∈ a.items then (body r (a.heap r)).1 else a.heap r :=
  pass_heap hb a.items (a, []) r

theorem forEach_out {body : Nat → α → α × List β} (hb : Stable body) (a : ObjectArray α) :
    (a.forEach body).2 = a.items.flatMap (fun r => (body r (a.heap r)).2) := by
  have h : (a.forEach body).2 = [] ++ a.items.flatMap (fun r => (body r (a.heap r)).2) :=
    pass_out hb a.items (a, [])
  simpa using h

@[simp] theorem mapObjects_items (a : ObjectArray α) (f : α → α) :
    (a.mapObjects f).items = a.items := forEach_items a _

@[simp] theorem mapObjects_next (a : ObjectArray α) (f : α → α) :
    (a.mapObjects f).next = a.next := forEach_next a _

theorem mapObjects_heap {f : α → α} (hf : ∀ x, f (f x) = f x) (a : ObjectArray α) (r : Nat) :
    (a.mapObjects f).heap r = if r ∈ a.items then f (a.heap r) else a.heap r :=
  forEach_heap (fun _ x => by simp [hf x]) a r

theorem mapObjects_keeps {γ : Type} {f : α → α} {g : α → γ} (hg : ∀ x, g (f x) = g x)
    (a : ObjectArray α) (r : Nat) : g ((a.mapObjects f).heap r) = g (a.heap r) := by
  refine List.foldlRecOn a.items _
    (motive := fun s : ObjectArray α × List Unit => g (s.1.heap r) = g (a.heap r)) rfl
    (fun s hs t _ => ?_)
  rw [modify_heap]
  split
  next h => rw [hg, ← h, hs]
  next => exact hs

end Loops

section Lookup

private theorem lastMatch_fold (a : ObjectArray α) (p : α → Bool) (l : List Nat)
    (current : Option Nat) :
    l.foldl (fun current r => if p (a.heap r) then some r else current) current =
      (l.findRev? (fun r => p (a.heap r))).or current := by
  induction l generalizing current with
  | nil => rfl
  | cons r l ih =>
    rw [List.foldl_cons, ih, List.findRev?]
    cases l.findRev? (fun r => p (a.heap r)) <;> cases p (a.heap r) <;> rfl

theorem lastMatch_eq (a : ObjectArray α) (p : α → Bool) :
    a.lastMatch p = a.items.reverse.find? (fun r => p (a.heap r)) := by
  unfold lastMatch
  rw [lastMatch_fold]
  simp [List.findRev?_eq_find?_reverse]

theorem lastMatch_mem {a : ObjectArray α} {p : α → Bool} {r : Nat} (h : a.lastMatch p = some r) :
    r ∈ a.items ∧ p (a.heap r) = true := by
  rw [lastMatch_eq] at h
  exact ⟨List.mem_reverse.mp (List.mem_of_find?_eq_some h), by simpa using List.find?_some h⟩

theorem lastMatch_none {a : ObjectArray α} {p : α → Bool} :
    a.lastMatch p = none ↔ ∀ r ∈ a.items, p (a.heap r) = false := by
  simp [lastMatch_eq, List.find?_eq_none]

theorem lastMatch_unique {a : ObjectArray α} {p : α → Bool} {r : Nat} (hr : r ∈ a.items)
    (hp : p (a.heap r) = true) (hu : ∀ s ∈ a.items, p (a.heap s) = true → s = r) :
    a.lastMatch p = some r := by
  cases h : a.lastMatch p with
  | none => simp [lastMatch_none.mp h r hr] at hp
  | some s =>
    obtain ⟨hs, hps⟩ := lastMatch_mem h
    rw [hu s hs hps]

theorem lastMatch_congr {a b : ObjectArray α} {p q : α → Bool} (hi : b.items = a.items)
    (h : ∀ r ∈ a.items, q (b.heap r) = p (a.heap r)) : b.lastMatch q = a.lastMatch p := by
  rw [lastMatch_eq, lastMatch_eq, hi]
  have hr : ∀ r ∈ a.items.reverse, q (b.heap r) = p (a.heap r) :=
    fun r hr => h r (List.mem_reverse.mp hr)
  generalize a.items.reverse = l at hr
  induction l with
  | nil => rfl
  | cons r l ih =>
    simp only [List.find?_cons, hr r (by simp), ih (fun s hs => hr s (by simp [hs]))]

theorem lastMatch_append {a b : ObjectArray α} {p : α → Bool} {r : Nat}
    (hi : b.items = a.items ++ [r]) (h : ∀ s ∈ a.items, b.heap s = a.heap s) :
    b.lastMatch p = if p (b.heap r) then some r else a.lastMatch p := by
  rw [lastMatch_eq, hi, List.reverse_append, List.reverse_singleton, List.singleton_append,
    List.find?_cons]
  cases p (b.heap r) with
  | true => rfl
  | false =>
    have hc : a.lastMatch p = ({ a with heap := b.heap } : ObjectArray α).lastMatch p :=
      lastMatch_congr rfl (fun s hs => by rw [h s hs])
    simp [hc, lastMatch_eq]

end Lookup

section Upsert

theorem target_of_some {a : ObjectArray α} {p : α → Bool} {r : Nat} (h : a.lastMatch p = some r) :
    a.target p = r := by simp [target, h]

theorem target_of_none {a : ObjectArray α} {p : α → Bool} (h : a.lastMatch p = none) :
    a.target p = a.next := by simp [target, h]

theorem upsert_items (a : ObjectArray α) (p : α → Bool) (fresh : α) (f : α → α) :
    (a.upsert p fresh f).items =
      if (a.lastMatch p).isSome then a.items else a.items ++ [a.next] := by
  unfold upsert
  cases a.lastMatch p <;> rfl

theorem upsert_next_le (a : ObjectArray α) (p : α → Bool) (fresh : α) (f : α → α) :
    a.next ≤ (a.upsert p fresh f).next := by
  unfold upsert
  cases a.lastMatch p with
  | none => exact Nat.le_succ _
  | some r => exact Nat.le_refl _

theorem upsert_heap (a : ObjectArray α) (p : α → Bool) (fresh : α) (f : α → α) (r : Nat) :
    (a.upsert p fresh f).heap r =
      if r = a.target p then f (if (a.lastMatch p).isSome then a.heap r else fresh)
      else a.heap r := by
  unfold upsert target
  cases a.lastMatch p with
  | some s =>
    by_cases hrs : r = s
    · simp [modify_heap, hrs]
    · simp [modify_heap, hrs]
  | none =>
    by_cases hr : r = a.next
    · simp [modify_heap, addObject, hr]
    · simp [modify_heap, addObject, hr]

theorem mem_upsert (a : ObjectArray α) (p : α → Bool) (fresh : α) (f : α → α) (r : Nat) :
    r ∈ (a.upsert p fresh f).items ↔ r ∈ a.items ∨ r = a.target p := by
  rw [upsert_items]
  cases h : a.lastMatch p with
  | none => simp [target_of_none h]
  | some s =>
    have hs := (lastMatch_mem h).1
    simp only [Option.isSome_some, if_true, target_of_some h]
    constructor
    · exact Or.inl
    · rintro (hr | rfl)
      · exact hr
      · exact hs

end Upsert

end ObjectArray
