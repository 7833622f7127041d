import DBMonitor.Library.Transition

namespace Transition
variable {S A W : Type}

structure InfiniteRun (step : S → A → Option S) where
  state : Nat → S
  act : Nat → A
  steps : ∀ n, step (state n) (act n) = some (state (n + 1))

def Enabled (step : S → A → Option S) (serves : S → A → Prop) (s : S) : Prop :=
  ∃ a t, serves s a ∧ step s a = some t

def WeaklyFair {step : S → A → Option S} (r : InfiniteRun step) (serves : S → A → Prop) : Prop :=
  ∀ n, (∀ m, n ≤ m → Enabled step serves (r.state m)) → ∃ m, n ≤ m ∧ serves (r.state m) (r.act m)

section Progress
variable {step : S → A → Option S} {r : InfiniteRun step}

theorem InfiniteRun.invariant {I : S → Prop} {K : S → A → Prop} {n : Nat}
    (hok : ∀ m, n ≤ m → K (r.state m) (r.act m)) (hs : I (r.state n))
    (hstep : ∀ s a t, I s → K s a → step s a = some t → I t) :
    ∀ m, n ≤ m → I (r.state m) := by
  intro m hm
  induction m, hm using Nat.le_induction with
  | base => exact hs
  | succ m hm ih => exact hstep _ _ _ ih (hok m hm) (r.steps m)

-- Every step either reaches the goal, or lowers the rank, or leaves rank and helper alone; a
-- step of the helper does one of the first two, and the helper can always act.
structure Helps (step : S → A → Option S) {H : Type} [LT W] (serves : H → S → A → Prop)
    (ok : S → A → Prop) (I : S → Prop) (goal : S → A → Prop) (rank : S → W) (helper : S → H) :
    Prop where
  enabled : ∀ s, I s → Enabled step (serves (helper s)) s
  keeps : ∀ s a t, I s → ok s a → step s a = some t → ¬goal s a → I t
  progress : ∀ s a t, I s → ok s a → step s a = some t → ¬goal s a →
    rank t < rank s ∨ (rank t = rank s ∧ helper t = helper s ∧ ¬serves (helper s) s a)

theorem Helps.reaches {H : Type} [Preorder W] [WellFoundedLT W] {serves : H → S → A → Prop}
    {ok : S → A → Prop} {I : S → Prop} {goal : S → A → Prop} {rank : S → W} {helper : S → H}
    (h : Helps step serves ok I goal rank helper) (hfair : ∀ k, WeaklyFair r (serves k))
    (hok : ∀ n, ok (r.state n) (r.act n)) {n : Nat} (hs : I (r.state n)) :
    ∃ m, n ≤ m ∧ goal (r.state m) (r.act m) := by
  suffices hrank : ∀ (w : W) (n : Nat), rank (r.state n) = w → I (r.state n) →
      ∃ m, n ≤ m ∧ goal (r.state m) (r.act m) from hrank _ n rfl hs
  intro w
  induction w using WellFoundedLT.induction with
  | ind w ih =>
    intro n hw hs
    by_contra hnever
    push Not at hnever
    have hI := r.invariant (K := fun s a => ok s a ∧ ¬goal s a)
      (fun m hm => And.intro (hok m) (hnever m hm)) hs
      (fun s a t hi hsa hstep => h.keeps s a t hi hsa.1 hstep hsa.2)
    -- The rank never falls, or the induction would reach the goal; so the helper never acts.
    have hstill : ∀ m, n ≤ m → rank (r.state m) = w ∧ helper (r.state m) = helper (r.state n) := by
      intro m hm
      induction m, hm using Nat.le_induction with
      | base => exact ⟨hw, rfl⟩
      | succ m hm hsame =>
        rcases h.progress _ _ _ (hI m hm) (hok m) (r.steps m) (hnever m hm) with
          hlt | ⟨heq, hhelper, _⟩
        · obtain ⟨k, hk, hgoal⟩ := ih _ (hsame.1 ▸ hlt) (m + 1) rfl (hI (m + 1) (by omega))
          exact absurd hgoal (hnever k (by omega))
        · exact ⟨heq.trans hsame.1, hhelper.trans hsame.2⟩
    obtain ⟨m, hm, hserves⟩ := hfair (helper (r.state n)) n (fun m hm => by
      have henabled := h.enabled _ (hI m hm)
      rwa [(hstill m hm).2] at henabled)
    rcases h.progress _ _ _ (hI m hm) (hok m) (r.steps m) (hnever m hm) with
      hlt | ⟨_, _, hidle⟩
    · rw [(hstill m hm).1, (hstill (m + 1) (by omega)).1] at hlt
      exact lt_irrefl w hlt
    · rw [(hstill m hm).2] at hidle
      exact hidle hserves

-- A rank that never rises, and falls at every busy step, leaves only finitely many of them.
theorem InfiniteRun.eventually_still [Preorder W] [WellFoundedLT W] {I : S → Prop}
    {K : S → A → Prop} (busy : S → A → Prop) (rank : S → W) {n : Nat}
    (hok : ∀ m, n ≤ m → K (r.state m) (r.act m))
    (hkeep : ∀ s a t, I s → K s a → step s a = some t → I t)
    (hrank : ∀ s a t, I s → K s a → step s a = some t →
      rank t < rank s ∨ (rank t = rank s ∧ ¬busy s a)) (hs : I (r.state n)) :
    ∃ m, n ≤ m ∧ ∀ k, m ≤ k → ¬busy (r.state k) (r.act k) := by
  suffices hfall : ∀ (w : W) (n : Nat), (∀ m, n ≤ m → K (r.state m) (r.act m)) →
      rank (r.state n) = w → I (r.state n) →
      ∃ m, n ≤ m ∧ ∀ k, m ≤ k → ¬busy (r.state k) (r.act k) from hfall _ n hok rfl hs
  intro w
  induction w using WellFoundedLT.induction with
  | ind w ih =>
    intro n hok hw hs
    have hI := r.invariant hok hs hkeep
    by_cases hlower : ∃ m, n ≤ m ∧ rank (r.state m) < w
    · obtain ⟨m, hm, hlt⟩ := hlower
      obtain ⟨k, hk, hstill⟩ := ih _ hlt m (fun i hi => hok i (hm.trans hi)) rfl (hI m hm)
      exact ⟨k, hm.trans hk, hstill⟩
    · push Not at hlower
      have hsame : ∀ m, n ≤ m → rank (r.state m) = w ∧ ¬busy (r.state m) (r.act m) := by
        intro m hm
        have hstep : ∀ k, n ≤ k → rank (r.state k) = w → rank (r.state (k + 1)) = w ∧
            ¬busy (r.state k) (r.act k) := by
          intro k hk hkw
          rcases hrank _ _ _ (hI k hk) (hok k hk) (r.steps k) with hlt | ⟨heq, hidle⟩
          · exact absurd (hkw ▸ hlt) (hlower (k + 1) (by omega))
          · exact ⟨heq.trans hkw, hidle⟩
        have heq : rank (r.state m) = w := by
          induction m, hm using Nat.le_induction with
          | base => exact hw
          | succ m hm ih => exact (hstep m hm ih).1
        exact ⟨heq, (hstep m hm heq).2⟩
      exact ⟨n, Nat.le_refl n, fun k hk => (hsame k hk).2⟩

end Progress

section Cycle
variable {step : S → A → Option S} {s : S} {acts : List A}

theorem run_take_isSome {ok : S → A → Bool} {u : S} (h : run step ok s acts = some u) (n : Nat) :
    (run step ok s (acts.take n)).isSome = true := by
  rw [← List.take_append_drop n acts] at h
  obtain ⟨t, ht, _⟩ := run_append.mp h
  simp [ht]

section Rounds
variable {loops : Nat → List A} {len : Nat}

theorem run_take_round {ok : S → A → Bool} (hloop : ∀ k, run step ok s (loops k) = some s)
    (hlen : ∀ k, (loops k).length = len) (hn : 0 < len) (n : Nat) :
    run step ok s ((loops (n / len)).take (n % len + 1)) =
      run step ok s ((loops ((n + 1) / len)).take ((n + 1) % len)) := by
  have hlt : n % len < len := Nat.mod_lt n hn
  have hsplit : n + 1 = n % len + 1 + len * (n / len) := by
    have hdiv := Nat.mod_add_div n len
    omega
  rcases Nat.lt_or_ge (n % len + 1) len with hnext | hlast
  · rw [hsplit, Nat.add_mul_div_left _ _ hn, Nat.add_mul_mod_self_left,
      Nat.div_eq_of_lt hnext, Nat.mod_eq_of_lt hnext, Nat.zero_add]
  · have hround : n % len + 1 = len := by omega
    have hzero : (n + 1) % len = 0 := by
      rw [hsplit, Nat.add_mul_mod_self_left, hround, Nat.mod_self]
    rw [List.take_of_length_le (by rw [hlen]; omega), hzero, hloop]
    rfl

-- A run that comes back to where it started at the end of each round, for ever.
def InfiniteRun.rounds (hloop : ∀ k, run step anyStep s (loops k) = some s)
    (hlen : ∀ k, (loops k).length = len) (hn : 0 < len) : InfiniteRun step where
  state n := (run step anyStep s ((loops (n / len)).take (n % len))).get
    (run_take_isSome (hloop _) _)
  act n := (loops (n / len)).get ⟨n % len, (Nat.mod_lt n hn).trans_eq (hlen _).symm⟩
  steps n := by
    have hlt : n % len < (loops (n / len)).length := (Nat.mod_lt n hn).trans_eq (hlen _).symm
    have hact : (loops (n / len))[n % len]? = some ((loops (n / len)).get ⟨n % len, hlt⟩) :=
      List.getElem?_eq_getElem hlt
    have hnext := run_take_round hloop hlen hn n
    obtain ⟨t, ht, _, hstep⟩ := (run_take_succ hact).mp (hnext.trans (Option.some_get _).symm)
    rw [← hstep]
    simp only [ht, Option.get_some]

theorem InfiniteRun.rounds_acts {P : Nat → A → Prop}
    (hloop : ∀ k, run step anyStep s (loops k) = some s)
    (hlen : ∀ k, (loops k).length = len) (hn : 0 < len) (h : ∀ k, ∀ a ∈ loops k, P k a)
    (n : Nat) : P (n / len) ((InfiniteRun.rounds hloop hlen hn).act n) :=
  h _ _ (List.get_mem _ _)

theorem InfiniteRun.rounds_fair {serves : S → A → Prop}
    (hloop : ∀ k, run step anyStep s (loops k) = some s)
    (hlen : ∀ k, (loops k).length = len) (hn : 0 < len) {k : Nat} (hk : k < len)
    (h : ∀ i t a, run step anyStep s ((loops i).take k) = some t → (loops i)[k]? = some a →
      serves t a) : WeaklyFair (InfiniteRun.rounds hloop hlen hn) serves := by
  intro n _
  have hmod : (k + len * n) % len = k := by
    rw [Nat.add_mul_mod_self_left, Nat.mod_eq_of_lt hk]
  refine ⟨k + len * n, ?_, h ((k + len * n) / len) _ _ ?_ ?_⟩
  · exact (Nat.le_mul_of_pos_left n hn).trans (Nat.le_add_left _ _)
  · simp only [InfiniteRun.rounds, hmod, Option.some_get]
  · simp [InfiniteRun.rounds, hmod]

end Rounds

def InfiniteRun.cycle (hloop : run step anyStep s acts = some s) (hn : 0 < acts.length) :
    InfiniteRun step :=
  .rounds (fun _ => hloop) (fun _ => rfl) hn

theorem InfiniteRun.cycle_fair {serves : S → A → Prop}
    (hloop : run step anyStep s acts = some s) (hn : 0 < acts.length) {k : Nat}
    (hk : k < acts.length) (h : serves ((InfiniteRun.cycle hloop hn).state k)
      ((InfiniteRun.cycle hloop hn).act k)) :
    WeaklyFair (InfiniteRun.cycle hloop hn) serves := by
  refine InfiniteRun.rounds_fair _ _ hn hk (fun _ t a ht ha => ?_)
  have hk' := Nat.mod_eq_of_lt hk
  rw [List.getElem?_eq_getElem hk, Option.some.injEq] at ha
  simp only [InfiniteRun.cycle, InfiniteRun.rounds, hk', ht, Option.get_some] at h
  rw [← ha]
  exact h

-- Finitely many steps, then the run they lead to.
def InfiniteRun.prepend (r : InfiniteRun step) (h : run step anyStep s acts = some (r.state 0)) :
    InfiniteRun step where
  state n :=
    if n < acts.length then (run step anyStep s (acts.take n)).get (run_take_isSome h n)
    else r.state (n - acts.length)
  act n := acts[n]?.getD (r.act (n - acts.length))
  steps n := by
    rcases Nat.lt_or_ge n acts.length with hlt | hge
    · have hact : acts[n]? = some acts[n] := List.getElem?_eq_getElem hlt
      have hnext : run step anyStep s (acts.take (n + 1)) =
          some (if n + 1 < acts.length then
            (run step anyStep s (acts.take (n + 1))).get (run_take_isSome h (n + 1))
            else r.state (n + 1 - acts.length)) := by
        split
        next => exact (Option.some_get _).symm
        next hlast =>
          have hall : acts.length = n + 1 := by omega
          rw [← hall, List.take_length, Nat.sub_self, h]
      obtain ⟨t, ht, _, hstep⟩ := (run_take_succ hact).mp hnext
      simp only [hlt, if_true, hact, Option.getD_some, ht, Option.get_some]
      exact hstep
    · have hnone : acts[n]? = none := List.getElem?_eq_none hge
      have hsub : n + 1 - acts.length = n - acts.length + 1 := by omega
      simp only [Nat.not_lt.mpr hge, if_false, hnone, Option.getD_none, hsub,
        Nat.not_lt.mpr (Nat.le_succ_of_le hge)]
      exact r.steps _

theorem InfiniteRun.prepend_shift (r : InfiniteRun step)
    (h : run step anyStep s acts = some (r.state 0)) (n : Nat) :
    (r.prepend h).state (n + acts.length) = r.state n ∧
      (r.prepend h).act (n + acts.length) = r.act n := by
  simp [prepend]

theorem InfiniteRun.prepend_fair {serves : S → A → Prop} (r : InfiniteRun step)
    (h : run step anyStep s acts = some (r.state 0)) (hfair : WeaklyFair r serves) :
    WeaklyFair (r.prepend h) serves := by
  intro n henabled
  obtain ⟨m, hm, hserves⟩ := hfair n (fun m hm => by
    have hlater := henabled (m + acts.length) (by omega)
    rwa [(r.prepend_shift h m).1] at hlater)
  refine ⟨m + acts.length, by omega, ?_⟩
  rwa [(r.prepend_shift h m).1, (r.prepend_shift h m).2]

theorem InfiniteRun.prepend_acts {P : A → Prop} (r : InfiniteRun step)
    (h : run step anyStep s acts = some (r.state 0)) (hacts : ∀ a ∈ acts, P a)
    (hr : ∀ n, P (r.act n)) (n : Nat) : P ((r.prepend h).act n) := by
  simp only [prepend]
  cases hact : acts[n]? with
  | none => exact hr _
  | some a => exact hacts a (List.mem_of_getElem? hact)

end Cycle

end Transition
