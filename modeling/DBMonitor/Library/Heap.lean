import DBMonitor.Library.WeakestPre

namespace DBMonitor

-- Blocks of memory by their pointers. A pointer from next on has never been given out.
structure Heap (β : Type) where
  block : Nat → Option β
  next : Nat
  fresh : ∀ p, next ≤ p → block p = none

namespace Heap

open Program

variable {β ε : Type}

def empty : Heap β := ⟨fun _ => none, 0, fun _ _ => rfl⟩

def write (p : Nat) (b : Option β) (h : Heap β) : Heap β where
  block := fun q => if q = p then b else h.block q
  next := max h.next (p + 1)
  fresh := by
    intro q hq
    rw [if_neg (by omega)]
    exact h.fresh q (by omega)

def alloc (b : β) : Program ε (Heap β) Nat := do
  let h ← get
  modify (write h.next (some b))
  pure h.next

def load (fault : ε) (p : Nat) : Program ε (Heap β) β := do
  let h ← get
  match h.block p with
  | some b => pure b
  | none => throw fault

def store (fault : ε) (p : Nat) (b : β) : Program ε (Heap β) PUnit := do
  let _ ← load fault p
  modify (write p (some b))

def free (fault : ε) (p : Nat) : Program ε (Heap β) PUnit := do
  let _ ← load fault p
  modify (write p none)

-- The heap is these cells and, apart from them, the rest.
structure Holds (cells : List (Nat × β)) (rest : Nat → Option β) (h : Heap β) : Prop where
  nodup : (cells.map Prod.fst).Nodup
  cell : ∀ c ∈ cells, h.block c.1 = some c.2
  apart : ∀ c ∈ cells, rest c.1 = none
  others : ∀ p, p ∉ cells.map Prod.fst → h.block p = rest p

section Holds
variable {h h' : Heap β} {cells cells' l r : List (Nat × β)} {rest : Nat → Option β} {p : Nat}
  {b b' : β}

-- What a later stretch leaves over the heap of an earlier one.
theorem Holds.trans (hh : Holds cells rest h) (hh' : Holds cells' h.block h') :
    Holds (cells' ++ cells) rest h' := by
  have hapart : ∀ c ∈ cells', c.1 ∉ cells.map Prod.fst := by
    intro c hc hmem
    obtain ⟨d, hd, heq⟩ := List.mem_map.mp hmem
    have hnone := hh'.apart c hc
    rw [← heq, hh.cell d hd] at hnone
    cases hnone
  refine ⟨?_, fun c hc => ?_, fun c hc => ?_, fun q hq => ?_⟩
  · rw [List.map_append, List.nodup_append']
    refine ⟨hh'.nodup, hh.nodup, fun q hq hmem => ?_⟩
    obtain ⟨c, hc, rfl⟩ := List.mem_map.mp hq
    exact hapart c hc hmem
  · rcases List.mem_append.mp hc with hc | hc
    · exact hh'.cell c hc
    · have hnot : c.1 ∉ cells'.map Prod.fst := by
        intro hmem
        obtain ⟨d, hd, heq⟩ := List.mem_map.mp hmem
        exact hapart d hd (heq ▸ List.mem_map_of_mem hc)
      rw [hh'.others _ hnot]
      exact hh.cell c hc
  · rcases List.mem_append.mp hc with hc | hc
    · rw [← hh.others _ (hapart c hc)]
      exact hh'.apart c hc
    · exact hh.apart c hc
  · rw [List.map_append, List.mem_append, not_or] at hq
    rw [hh'.others q hq.1, hh.others q hq.2]

end Holds

section Rules
variable {h : Heap β} {cells l r : List (Nat × β)} {rest : Nat → Option β} {p : Nat} {b b' : β}
  {fault : ε}

end Rules

end Heap

end DBMonitor
