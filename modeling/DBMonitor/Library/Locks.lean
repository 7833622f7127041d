import Mathlib.Tactic
import Mathlib.Order.WellFounded

-- What a method does to locks and shared objects; a loop runs any number of rounds.
inductive Code (L V : Type) where
  | skip
  | access (x : V)
  | seq (a b : Code L V)
  | choose (a b : Code L V)
  | loop (a : Code L V)
  | sync (l : L) (a : Code L V)

namespace Code
variable {L V W : Type}

def block : List (Code L V) → Code L V
  | [] => skip
  | c :: cs => seq c (block cs)

def maybe (c : Code L V) : Code L V := choose skip c

def size : Code L V → Nat
  | skip => 1
  | access _ => 1
  | seq a b => a.size + b.size + 1
  | choose a b => a.size + b.size + 1
  | loop a => a.size + 1
  | sync _ a => a.size + 2

-- A lock is taken when it is held already or comes after every lock held.
def ordered [DecidableEq L] [LT W] [DecidableLT W] (rank : L → W) : List L → Code L V → Bool
  | held, seq a b => a.ordered rank held && b.ordered rank held
  | held, choose a b => a.ordered rank held && b.ordered rank held
  | held, loop a => a.ordered rank held
  | held, sync l a =>
    (held.all (fun m => decide (rank m < rank l)) || held.contains l) && a.ordered rank (l :: held)
  | _, skip => true
  | _, access _ => true

def guarded [DecidableEq L] [DecidableEq V] (x : V) (guard : L) : List L → Code L V → Bool
  | held, access y => !decide (y = x) || held.contains guard
  | held, seq a b => a.guarded x guard held && b.guarded x guard held
  | held, choose a b => a.guarded x guard held && b.guarded x guard held
  | held, loop a => a.guarded x guard held
  | held, sync l a => a.guarded x guard (l :: held)
  | _, skip => true

def mentions [DecidableEq V] (x : V) : Code L V → Bool
  | access y => decide (y = x)
  | seq a b => a.mentions x || b.mentions x
  | choose a b => a.mentions x || b.mentions x
  | loop a => a.mentions x
  | sync _ a => a.mentions x
  | skip => false

def bare [DecidableEq V] (x : V) : Code L V → Bool
  | access y => decide (y = x)
  | seq a b => a.bare x || b.bare x
  | choose a b => a.bare x || b.bare x
  | loop a => a.bare x
  | sync _ _ => false
  | skip => false

end Code

namespace Locks

inductive Item (L V : Type) where
  | run (c : Code L V)
  | unlock (l : L)

structure Thread (P L V : Type) where
  name : P
  stack : List (Item L V)

section Semantics
variable {P L V : Type}

def held : List (Item L V) → List L
  | [] => []
  | .run _ :: k => held k
  | .unlock l :: k => l :: held k

def Thread.holds (t : Thread P L V) (l : L) : Prop := l ∈ held t.stack

inductive Works (free : L → Prop) : List (Item L V) → List (Item L V) → Prop where
  | skip {k : List (Item L V)} : Works free (.run .skip :: k) k
  | access {x : V} {k : List (Item L V)} : Works free (.run (.access x) :: k) k
  | seq {a b : Code L V} {k : List (Item L V)} :
    Works free (.run (.seq a b) :: k) (.run a :: .run b :: k)
  | left {a b : Code L V} {k : List (Item L V)} : Works free (.run (.choose a b) :: k) (.run a :: k)
  | right {a b : Code L V} {k : List (Item L V)} : Works free (.run (.choose a b) :: k) (.run b :: k)
  | exit {a : Code L V} {k : List (Item L V)} : Works free (.run (.loop a) :: k) k
  | again {a : Code L V} {k : List (Item L V)} :
    Works free (.run (.loop a) :: k) (.run a :: .run (.loop a) :: k)
  | enter {l : L} {a : Code L V} {k : List (Item L V)} (hfree : free l) :
    Works free (.run (.sync l a) :: k) (.run a :: .unlock l :: k)
  | leave {l : L} {k : List (Item L V)} : Works free (.unlock l :: k) k

-- A lock is free for a thread when no other thread holds it, so a thread may take it again.
inductive Turn : List (Thread P L V) → List (Thread P L V) → Prop where
  | work {l r : List (Thread P L V)} {t : Thread P L V} {k : List (Item L V)}
    (h : Works (fun m => ∀ u ∈ l ++ r, ¬u.holds m) t.stack k) :
    Turn (l ++ t :: r) (l ++ { t with stack := k } :: r)

-- The main thread runs one method at a time.
inductive Step (program : P → Code L V) (main : P → Prop) :
    List (Thread P L V) → List (Thread P L V) → Prop where
  | spawn {ts : List (Thread P L V)} (p : P)
    (hmain : main p → ∀ t ∈ ts, main t.name → t.stack = []) :
    Step program main ts (ts ++ [{ name := p, stack := [.run (program p)] }])
  | turn {ts us : List (Thread P L V)} (h : Turn ts us) : Step program main ts us

def Reachable (program : P → Code L V) (main : P → Prop) (ts : List (Thread P L V)) : Prop :=
  Relation.ReflTransGen (Step program main) [] ts

def Finished (ts : List (Thread P L V)) : Prop := ∀ t ∈ ts, t.stack = []

def Touches (t : Thread P L V) (x : V) : Prop := ∃ k, t.stack = .run (.access x) :: k

def Race (ts : List (Thread P L V)) (p q : P) (x y : V) : Prop :=
  ∃ (i j : Nat) (t u : Thread P L V), i ≠ j ∧ ts[i]? = some t ∧ ts[j]? = some u ∧
    t.name = p ∧ u.name = q ∧ Touches t x ∧ Touches u y

end Semantics

section Exclusive
variable {P L V : Type} {free : L → Prop} {k k' : List (Item L V)} {l : L}

theorem works_held (h : Works free k k') : ∀ m ∈ held k', m ∈ held k ∨ free m := by
  cases h with
  | @enter l a k hfree =>
    intro m hm
    rcases List.mem_cons.mp hm with rfl | hm
    · exact Or.inr hfree
    · exact Or.inl hm
  | leave => exact fun m hm => Or.inl (List.mem_cons_of_mem _ hm)
  | _ => exact fun m hm => Or.inl hm

def Exclusive (ts : List (Thread P L V)) : Prop :=
  ts.Pairwise (fun t u => ∀ m, t.holds m → ¬u.holds m)

theorem exclusive_turn {ts us : List (Thread P L V)} (hi : Exclusive ts) (h : Turn ts us) :
    Exclusive us := by
  obtain @⟨l, r, t, k, h⟩ := h
  have hheld := works_held h
  simp only [Exclusive, List.pairwise_append, List.pairwise_cons, List.mem_cons] at hi ⊢
  obtain ⟨hl, ⟨htr, hr⟩, hlt⟩ := hi
  refine ⟨hl, ⟨fun u hu m hm => ?_, hr⟩, fun u hu v hv m hm => ?_⟩
  · rcases hheld m hm with hold | hfree
    · exact htr u hu m hold
    · exact hfree u (List.mem_append_right l hu)
  · rcases hv with rfl | hv
    · intro hk
      rcases hheld m hk with hold | hfree
      · exact hlt u hu t (Or.inl rfl) m hm hold
      · exact hfree u (List.mem_append_left r hu) hm
    · exact hlt u hu v (Or.inr hv) m hm

theorem exclusive_reachable {program : P → Code L V} {main : P → Prop}
    {ts : List (Thread P L V)} (h : Reachable program main ts) : Exclusive ts := by
  induction h with
  | refl => exact List.Pairwise.nil
  | tail _ hstep ih =>
    cases hstep with
    | turn h => exact exclusive_turn ih h
    | spawn p hmain =>
      refine List.pairwise_append.mpr ⟨ih, List.pairwise_singleton _ _, ?_⟩
      intro t _ u hu m _ hm
      obtain rfl := List.mem_singleton.mp hu
      exact absurd hm List.not_mem_nil

theorem exclusive_index {ts : List (Thread P L V)} (h : Exclusive ts) {i j : Nat} (hij : i ≠ j)
    {t u : Thread P L V} (ht : ts[i]? = some t) (hu : ts[j]? = some u) (hm : t.holds l) :
    ¬u.holds l := by
  obtain ⟨hi, rfl⟩ := List.getElem?_eq_some_iff.mp ht
  obtain ⟨hj, rfl⟩ := List.getElem?_eq_some_iff.mp hu
  rw [Exclusive, List.pairwise_iff_getElem] at h
  rcases Nat.lt_or_gt_of_ne hij with hlt | hlt
  · exact h i j hi hj hlt l hm
  · exact fun hu => h j i hj hi hlt l hu hm

end Exclusive

section Stacks
variable {P L V : Type}

-- What is checked of code against the locks held below it, of a whole stack.
def Stacked (check : List L → Code L V → Bool) : List (Item L V) → Prop
  | [] => True
  | .run c :: k => check (held k) c = true ∧ Stacked check k
  | .unlock _ :: k => Stacked check k

structure Inward (check : List L → Code L V → Bool) : Prop where
  seq : ∀ held a b, check held (.seq a b) = true → check held a = true ∧ check held b = true
  choose : ∀ held a b, check held (.choose a b) = true → check held a = true ∧ check held b = true
  loop : ∀ held a, check held (.loop a) = true → check held a = true
  sync : ∀ held l a, check held (.sync l a) = true → check (l :: held) a = true

variable {check : List L → Code L V → Bool} {free : L → Prop} {k k' : List (Item L V)}

theorem stacked_works (hc : Inward check) (hs : Stacked check k) (h : Works free k k') :
    Stacked check k' := by
  cases h with
  | skip => exact hs.2
  | access => exact hs.2
  | seq =>
    obtain ⟨ha, hb⟩ := hc.seq _ _ _ hs.1
    exact ⟨ha, hb, hs.2⟩
  | left => exact ⟨(hc.choose _ _ _ hs.1).1, hs.2⟩
  | right => exact ⟨(hc.choose _ _ _ hs.1).2, hs.2⟩
  | exit => exact hs.2
  | again => exact ⟨hc.loop _ _ hs.1, hs⟩
  | enter hfree => exact ⟨hc.sync _ _ _ hs.1, hs.2⟩
  | leave => exact hs

theorem stacked_turn (hc : Inward check) {ts us : List (Thread P L V)}
    (hs : ∀ t ∈ ts, Stacked check t.stack) (h : Turn ts us) : ∀ t ∈ us, Stacked check t.stack := by
  obtain @⟨l, r, t, k, h⟩ := h
  intro u hu
  rcases List.mem_append.mp hu with hu | hu
  · exact hs u (List.mem_append_left _ hu)
  · rcases List.mem_cons.mp hu with rfl | hu
    · exact stacked_works hc (hs t (by simp)) h
    · exact hs u (by simp [hu])

theorem stacked_reachable (hc : Inward check) {program : P → Code L V} {main : P → Prop}
    {ts : List (Thread P L V)} (h : Reachable program main ts) :
    ∀ t ∈ ts, check [] (program t.name) = true → Stacked check t.stack := by
  induction h with
  | refl => exact fun t ht => absurd ht List.not_mem_nil
  | tail _ hstep ih =>
    cases hstep with
    | spawn p hmain =>
      intro t ht hp
      rcases List.mem_append.mp ht with ht | ht
      · exact ih t ht hp
      · obtain rfl := List.mem_singleton.mp ht
        exact ⟨hp, trivial⟩
    | turn hturn =>
      obtain @⟨l, r, t, k, h⟩ := hturn
      intro u hu hp
      rcases List.mem_append.mp hu with hu | hu
      · exact ih u (List.mem_append_left _ hu) hp
      · rcases List.mem_cons.mp hu with rfl | hu
        · exact stacked_works hc (ih t (by simp) hp) h
        · exact ih u (by simp [hu]) hp

end Stacks

section Main
variable {P L V : Type}

def OneMain (main : P → Prop) (ts : List (Thread P L V)) : Prop :=
  ts.Pairwise (fun t u => main t.name → main u.name → t.stack = [] ∨ u.stack = [])

theorem works_busy {free : L → Prop} {k k' : List (Item L V)} (h : Works free k k') : k ≠ [] := by
  cases h <;> exact List.cons_ne_nil _ _

theorem one_main_turn {main : P → Prop} {ts us : List (Thread P L V)} (hi : OneMain main ts)
    (h : Turn ts us) : OneMain main us := by
  obtain @⟨l, r, t, k, h⟩ := h
  have hbusy := works_busy h
  simp only [OneMain, List.pairwise_append, List.pairwise_cons, List.mem_cons] at hi ⊢
  obtain ⟨hl, ⟨htr, hr⟩, hlt⟩ := hi
  refine ⟨hl, ⟨fun u hu ht hm => ?_, hr⟩, fun u hu v hv hm hv' => ?_⟩
  · exact Or.inr ((htr u hu ht hm).resolve_left hbusy)
  · rcases hv with rfl | hv
    · exact Or.inl ((hlt u hu t (Or.inl rfl) hm hv').resolve_right hbusy)
    · exact hlt u hu v (Or.inr hv) hm hv'

theorem one_main_reachable {program : P → Code L V} {main : P → Prop} {ts : List (Thread P L V)}
    (h : Reachable program main ts) : OneMain main ts := by
  induction h with
  | refl => exact List.Pairwise.nil
  | tail _ hstep ih =>
    cases hstep with
    | turn h => exact one_main_turn ih h
    | spawn p hmain =>
      refine List.pairwise_append.mpr ⟨ih, List.pairwise_singleton _ _, ?_⟩
      intro t ht u hu hm hp
      obtain rfl := List.mem_singleton.mp hu
      exact Or.inl (hmain hp t ht hm)

theorem one_main_index {main : P → Prop} {ts : List (Thread P L V)} (h : OneMain main ts)
    {i j : Nat} (hij : i ≠ j) {t u : Thread P L V} (ht : ts[i]? = some t) (hu : ts[j]? = some u)
    (hbusy : t.stack ≠ []) (hbusy' : u.stack ≠ []) : ¬(main t.name ∧ main u.name) := by
  obtain ⟨hi, rfl⟩ := List.getElem?_eq_some_iff.mp ht
  obtain ⟨hj, rfl⟩ := List.getElem?_eq_some_iff.mp hu
  rintro ⟨hm, hm'⟩
  rw [OneMain, List.pairwise_iff_getElem] at h
  rcases Nat.lt_or_gt_of_ne hij with hlt | hlt
  · exact (h i j hi hj hlt hm hm').elim hbusy hbusy'
  · exact (h j i hj hi hlt hm' hm).elim hbusy' hbusy

end Main

section Paths
variable {P L V : Type} {x : V}

theorem works_through (c : Code L V) :
    ∀ k, Relation.ReflTransGen (Works (fun _ => True)) (.run c :: k) k := by
  induction c with
  | skip => exact fun k => .single .skip
  | access y => exact fun k => .single .access
  | seq a b iha ihb => exact fun k => .head .seq ((iha _).trans (ihb k))
  | choose a b iha ihb => exact fun k => .head .left (iha k)
  | loop a iha => exact fun k => .single .exit
  | sync l a iha => exact fun k => .head (.enter trivial) ((iha _).tail .leave)

theorem works_mono {free more : L → Prop} (hmore : ∀ l, free l → more l) {k k' : List (Item L V)}
    (h : Works free k k') : Works more k k' := by
  cases h with
  | skip => exact .skip
  | access => exact .access
  | seq => exact .seq
  | left => exact .left
  | right => exact .right
  | exit => exact .exit
  | again => exact .again
  | enter hfree => exact .enter (hmore _ hfree)
  | leave => exact .leave

theorem turns_work {l r : List (Thread P L V)} {t : Thread P L V} {k : List (Item L V)}
    (hothers : ∀ u ∈ l ++ r, held u.stack = [])
    (h : Relation.ReflTransGen (Works (fun _ => True)) t.stack k) :
    Relation.ReflTransGen Turn (l ++ t :: r) (l ++ { t with stack := k } :: r) := by
  induction h with
  | refl => exact .refl
  | @tail k k' _ hworks ih =>
    refine ih.tail ?_
    refine Turn.work (t := { t with stack := k }) (works_mono (fun m _ u hu hm => ?_) hworks)
    rw [Thread.holds, hothers u hu] at hm
    exact absurd hm List.not_mem_nil

variable [DecidableEq V]

theorem works_bare (c : Code L V) (h : c.bare x = true) :
    ∀ k, ∃ k', Relation.ReflTransGen (Works (fun _ => True)) (.run c :: k)
      (.run (.access x) :: k') ∧ held k' = held k := by
  induction c with
  | skip => cases h
  | sync l a iha => cases h
  | access y =>
    intro k
    obtain rfl : y = x := by simpa [Code.bare] using h
    exact ⟨k, .refl, rfl⟩
  | seq a b iha ihb =>
    intro k
    rcases (Bool.or_eq_true _ _).mp h with ha | hb
    · obtain ⟨k', hpath, hheld⟩ := iha ha (.run b :: k)
      exact ⟨k', .head .seq hpath, hheld⟩
    · obtain ⟨k', hpath, hheld⟩ := ihb hb k
      exact ⟨k', .head .seq ((works_through a _).trans hpath), hheld⟩
  | choose a b iha ihb =>
    intro k
    rcases (Bool.or_eq_true _ _).mp h with ha | hb
    · obtain ⟨k', hpath, hheld⟩ := iha ha k
      exact ⟨k', .head .left hpath, hheld⟩
    · obtain ⟨k', hpath, hheld⟩ := ihb hb k
      exact ⟨k', .head .right hpath, hheld⟩
  | loop a iha =>
    intro k
    obtain ⟨k', hpath, hheld⟩ := iha h (.run (.loop a) :: k)
    exact ⟨k', .head .again hpath, hheld⟩

theorem works_mentions (c : Code L V) (h : c.mentions x = true) :
    ∀ k, ∃ k', Relation.ReflTransGen (Works (fun _ => True)) (.run c :: k)
      (.run (.access x) :: k') := by
  induction c with
  | skip => cases h
  | access y =>
    intro k
    obtain rfl : y = x := by simpa [Code.mentions] using h
    exact ⟨k, .refl⟩
  | seq a b iha ihb =>
    intro k
    rcases (Bool.or_eq_true _ _).mp h with ha | hb
    · obtain ⟨k', hpath⟩ := iha ha (.run b :: k)
      exact ⟨k', .head .seq hpath⟩
    · obtain ⟨k', hpath⟩ := ihb hb k
      exact ⟨k', .head .seq ((works_through a _).trans hpath)⟩
  | choose a b iha ihb =>
    intro k
    rcases (Bool.or_eq_true _ _).mp h with ha | hb
    · obtain ⟨k', hpath⟩ := iha ha k
      exact ⟨k', .head .left hpath⟩
    · obtain ⟨k', hpath⟩ := ihb hb k
      exact ⟨k', .head .right hpath⟩
  | loop a iha =>
    intro k
    obtain ⟨k', hpath⟩ := iha h (.run (.loop a) :: k)
    exact ⟨k', .head .again hpath⟩
  | sync l a iha =>
    intro k
    obtain ⟨k', hpath⟩ := iha h (.unlock l :: k)
    exact ⟨k', .head (.enter trivial) hpath⟩

theorem silent_inward (x : V) : Inward (fun (_ : List L) c => !Code.mentions x c) where
  seq held a b h := by simpa [Code.mentions] using h
  choose held a b h := by simpa [Code.mentions] using h
  loop held a h := h
  sync held l a h := h

end Paths

section Races
variable {P L V : Type} {program : P → Code L V} {main : P → Prop}
  {ts us : List (Thread P L V)} {p q : P} {x y : V}

theorem turns_step (h : Relation.ReflTransGen Turn ts us) :
    Relation.ReflTransGen (Step program main) ts us :=
  h.lift id (fun _ _ h => .turn h)

variable [DecidableEq V]

theorem race_bare (hp : (program p).bare x = true) (hq : (program q).mentions y = true)
    (hmain : ¬(main p ∧ main q)) : ∃ ts, Reachable program main ts ∧
      ∃ t u, ts = [t, u] ∧ t.name = p ∧ u.name = q ∧ Touches t x ∧ Touches u y := by
  obtain ⟨k, hpath, hheld⟩ := works_bare (program p) hp []
  obtain ⟨k', hpath'⟩ := works_mentions (program q) hq []
  have hfirst : Reachable program main [{ name := p, stack := .run (.access x) :: k }] := by
    have hspawn : Reachable program main [{ name := p, stack := [.run (program p)] }] :=
      .single (Step.spawn p (fun _ t ht => absurd ht List.not_mem_nil))
    have hturns := turns_work (l := []) (r := []) (t := ⟨p, [.run (program p)]⟩) (by simp) hpath
    exact hspawn.trans (turns_step hturns)
  refine ⟨[⟨p, .run (.access x) :: k⟩, ⟨q, .run (.access y) :: k'⟩], ?_, _, _, rfl, rfl, rfl,
    ⟨k, rfl⟩, ⟨k', rfl⟩⟩
  have hspawn := hfirst.tail (.spawn q (fun hm t ht hmp => by
    obtain rfl := List.mem_singleton.mp ht
    exact absurd ⟨hmp, hm⟩ hmain))
  have hturns := turns_work (l := [⟨p, .run (.access x) :: k⟩]) (r := [])
    (t := ⟨q, [.run (program q)]⟩) (by simpa [held] using hheld) hpath'
  exact hspawn.trans (turns_step hturns)

theorem touches_mentions (h : Reachable program main ts) {t : Thread P L V} (ht : t ∈ ts)
    (htouch : Touches t x) : (program t.name).mentions x = true := by
  by_contra hsilent
  have hs := stacked_reachable (silent_inward x) h t ht (by simpa using hsilent)
  obtain ⟨k, hk⟩ := htouch
  rw [hk] at hs
  simpa [Code.mentions] using hs.1

variable [DecidableEq L]

theorem guarded_inward (x : V) (guard : L) : Inward (Code.guarded x guard) where
  seq held a b h := by simpa [Code.guarded] using h
  choose held a b h := by simpa [Code.guarded] using h
  loop held a h := h
  sync held l a h := h

theorem touches_holds (h : Reachable program main ts) {guard : L} {t : Thread P L V} (ht : t ∈ ts)
    (htouch : Touches t x) (hguarded : (program t.name).guarded x guard [] = true) :
    t.holds guard := by
  obtain ⟨k, hk⟩ := htouch
  have hs := stacked_reachable (guarded_inward x guard) h t ht hguarded
  rw [hk] at hs
  have hheld : guard ∈ held k := by simpa [Code.guarded] using hs.1
  rw [Thread.holds, hk]
  exact hheld

-- Of two threads about to touch what one lock guards, one does so without the lock.
theorem race_unguarded (h : Reachable program main ts) (guard : L) (hrace : Race ts p q x y) :
    (program p).mentions x = true ∧ (program q).mentions y = true ∧ ¬(main p ∧ main q) ∧
      ((program p).guarded x guard [] = false ∨ (program q).guarded y guard [] = false) := by
  obtain ⟨i, j, t, u, hij, ht, hu, rfl, rfl, htouch, hutouch⟩ := hrace
  have htm := List.mem_of_getElem? ht
  have hum := List.mem_of_getElem? hu
  refine ⟨touches_mentions h htm htouch, touches_mentions h hum hutouch, ?_, ?_⟩
  · obtain ⟨k, hk⟩ := htouch
    obtain ⟨k', hk'⟩ := hutouch
    exact one_main_index (one_main_reachable h) hij ht hu (by simp [hk]) (by simp [hk'])
  · by_contra hboth
    simp only [not_or, Bool.not_eq_false] at hboth
    have hleft := touches_holds h htm htouch hboth.1
    have hright := touches_holds h hum hutouch hboth.2
    exact exclusive_index (exclusive_reachable h) hij ht hu hleft hright

theorem race_iff (guard : L)
    (hp : (program p).guarded x guard [] = !(program p).bare x)
    (hq : (program q).guarded y guard [] = !(program q).bare y) :
    (∃ ts, Reachable program main ts ∧ Race ts p q x y) ↔
      (program p).mentions x = true ∧ (program q).mentions y = true ∧ ¬(main p ∧ main q) ∧
        ((program p).bare x = true ∨ (program q).bare y = true) := by
  constructor
  · rintro ⟨ts, h, hrace⟩
    simpa [hp, hq] using race_unguarded h guard hrace
  · rintro ⟨hmp, hmq, hmain, hbare | hbare⟩
    · obtain ⟨ts, h, t, u, rfl, ht, hu, htouch, hutouch⟩ := race_bare hbare hmq hmain
      exact ⟨_, h, 0, 1, t, u, Nat.zero_ne_one, rfl, rfl, ht, hu, htouch, hutouch⟩
    · obtain ⟨ts, h, t, u, rfl, ht, hu, htouch, hutouch⟩ :=
        race_bare hbare hmp (fun hm => hmain hm.symm)
      exact ⟨_, h, 1, 0, u, t, Nat.one_ne_zero, rfl, rfl, hu, ht, hutouch, htouch⟩

end Races

section Progress
variable {P L V : Type}

def stackSize : List (Item L V) → Nat
  | [] => 0
  | .run c :: k => c.size + stackSize k
  | .unlock _ :: k => 1 + stackSize k

def totalSize (ts : List (Thread P L V)) : Nat := (ts.map (fun t => stackSize t.stack)).sum

-- A stack that is neither finished nor waiting for a lock can get on.
theorem works_smaller (free : L → Prop) {k : List (Item L V)} (hk : k ≠ [])
    (hwait : ∀ l a k', k = .run (.sync l a) :: k' → free l) :
    ∃ k', Works free k k' ∧ stackSize k' < stackSize k := by
  cases k with
  | nil => exact absurd rfl hk
  | cons item k =>
    cases item with
    | unlock l => exact ⟨k, .leave, by simp [stackSize]⟩
    | run c =>
      cases c with
      | skip => exact ⟨k, .skip, by simp [stackSize, Code.size]⟩
      | access x => exact ⟨k, .access, by simp [stackSize, Code.size]⟩
      | seq a b =>
        refine ⟨.run a :: .run b :: k, .seq, ?_⟩
        simp only [stackSize, Code.size]
        omega
      | choose a b =>
        refine ⟨.run a :: k, .left, ?_⟩
        simp only [stackSize, Code.size]
        omega
      | loop a =>
        refine ⟨k, .exit, ?_⟩
        simp only [stackSize, Code.size]
        omega
      | sync l a =>
        refine ⟨.run a :: .unlock l :: k, .enter (hwait l a k rfl), ?_⟩
        simp only [stackSize, Code.size]
        omega

theorem turn_smaller {ts : List (Thread P L V)} {i : Nat} {t : Thread P L V}
    (ht : ts[i]? = some t) (hbusy : t.stack ≠ [])
    (hwait : ∀ l a k, t.stack = .run (.sync l a) :: k →
      ∀ (j : Nat) (u : Thread P L V), j ≠ i → ts[j]? = some u → ¬u.holds l) :
    ∃ us, Turn ts us ∧ totalSize us < totalSize ts := by
  obtain ⟨hi, hget⟩ := List.getElem?_eq_some_iff.mp ht
  have hsplit : ts = ts.take i ++ t :: ts.drop (i + 1) := by
    rw [← hget, List.getElem_cons_drop, List.take_append_drop]
  obtain ⟨k', hworks, hsize⟩ := works_smaller
    (fun m => ∀ u ∈ ts.take i ++ ts.drop (i + 1), ¬u.holds m) hbusy (by
      intro l a k hk u hu
      rcases List.mem_append.mp hu with hu | hu
      · obtain ⟨j, hj⟩ := List.mem_iff_getElem?.mp hu
        rw [List.getElem?_take] at hj
        split at hj
        case isTrue hlt => exact hwait l a k hk j u (by omega) hj
        case isFalse => cases hj
      · obtain ⟨j, hj⟩ := List.mem_iff_getElem?.mp hu
        rw [List.getElem?_drop] at hj
        exact hwait l a k hk _ u (by omega) hj)
  refine ⟨ts.take i ++ { t with stack := k' } :: ts.drop (i + 1), ?_, ?_⟩
  · have hturn := Turn.work (l := ts.take i) (r := ts.drop (i + 1)) hworks
    rwa [← hsplit] at hturn
  · conv_rhs => rw [hsplit]
    simp only [totalSize, List.map_append, List.map_cons, List.sum_append, List.sum_cons]
    omega

end Progress

section Deadlock
variable {P L V W : Type} [DecidableEq L] [Preorder W] [DecidableLT W] {rank : L → W}

theorem ordered_inward (rank : L → W) : Inward (Code.ordered (V := V) rank) where
  seq held a b h := by simpa [Code.ordered] using h
  choose held a b h := by simpa [Code.ordered] using h
  loop held a h := h
  sync held l a h := by
    simp only [Code.ordered, Bool.and_eq_true] at h
    exact h.2

-- Who waits for a lock is let through, or its holder waits for a later one; ranks run out.
theorem waiting_moves [WellFoundedGT W] {ts : List (Thread P L V)} (hexclusive : Exclusive ts)
    (hordered : ∀ t ∈ ts, Stacked (Code.ordered rank) t.stack) (w : W) :
    ∀ (i : Nat) (t : Thread P L V) (l : L) (a : Code L V) (k : List (Item L V)),
      ts[i]? = some t → t.stack = .run (.sync l a) :: k → rank l = w →
      ∃ us, Turn ts us ∧ totalSize us < totalSize ts := by
  induction w using WellFoundedGT.induction with
  | ind w ih =>
    intro i t l a k ht hk hrank
    by_cases hfree : ∀ (j : Nat) (u : Thread P L V), j ≠ i → ts[j]? = some u → ¬u.holds l
    · refine turn_smaller ht (by simp [hk]) (fun l' a' k' hk' => ?_)
      rw [hk] at hk'
      obtain ⟨rfl, rfl⟩ : l = l' ∧ a = a' := by simpa using (List.cons.inj hk').1
      exact hfree
    · push Not at hfree
      obtain ⟨j, u, hji, hu, hholds⟩ := hfree
      have hbusy : u.stack ≠ [] := by
        intro hempty
        rw [Thread.holds, hempty] at hholds
        exact absurd hholds List.not_mem_nil
      by_cases hnext : ∃ l' a' k', u.stack = .run (.sync l' a') :: k' ∧ rank l < rank l'
      · obtain ⟨l', a', k', hk', hlt⟩ := hnext
        exact ih (rank l') (hrank ▸ hlt) j u l' a' k' hu hk' rfl
      · refine turn_smaller hu hbusy (fun l' a' k' hk' => ?_)
        have hs := hordered u (List.mem_of_getElem? hu)
        rw [hk'] at hs
        rw [Thread.holds, hk'] at hholds
        have hown : l' ∈ held k' := by
          have hcheck := hs.1
          simp only [Code.ordered, Bool.and_eq_true, Bool.or_eq_true, List.all_eq_true,
            decide_eq_true_eq, List.contains_iff_mem] at hcheck
          exact hcheck.1.resolve_left (fun hall => hnext ⟨l', a', k', hk', hall l hholds⟩)
        intro j' v hj' hv
        refine exclusive_index hexclusive (Ne.symm hj') hu hv ?_
        rw [Thread.holds, hk']
        exact hown

theorem turn_exists [WellFoundedGT W] {ts : List (Thread P L V)} (hexclusive : Exclusive ts)
    (hordered : ∀ t ∈ ts, Stacked (Code.ordered rank) t.stack) (hbusy : ¬Finished ts) :
    ∃ us, Turn ts us ∧ totalSize us < totalSize ts := by
  simp only [Finished, not_forall] at hbusy
  obtain ⟨t, hm, hstack⟩ := hbusy
  obtain ⟨i, ht⟩ := List.mem_iff_getElem?.mp hm
  by_cases hwait : ∃ l a k, t.stack = .run (.sync l a) :: k
  · obtain ⟨l, a, k, hk⟩ := hwait
    exact waiting_moves hexclusive hordered (rank l) i t l a k ht hk rfl
  · exact turn_smaller ht hstack (fun l a k hk => absurd ⟨l, a, k, hk⟩ hwait)

theorem drains [WellFoundedGT W] {ts : List (Thread P L V)} (hexclusive : Exclusive ts)
    (hordered : ∀ t ∈ ts, Stacked (Code.ordered rank) t.stack) :
    ∃ us, Relation.ReflTransGen Turn ts us ∧ Finished us := by
  induction hn : totalSize ts using Nat.strong_induction_on generalizing ts with
  | _ n ih =>
    by_cases hdone : Finished ts
    · exact ⟨ts, .refl, hdone⟩
    · obtain ⟨us, hturn, hlt⟩ := turn_exists hexclusive hordered hdone
      obtain ⟨vs, hrest, hfinished⟩ := ih (totalSize us) (hn ▸ hlt) (exclusive_turn hexclusive hturn)
        (stacked_turn (ordered_inward rank) hordered hturn) rfl
      exact ⟨vs, .head hturn hrest, hfinished⟩

end Deadlock

end Locks
