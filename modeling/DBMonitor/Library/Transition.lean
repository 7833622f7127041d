import Mathlib.Tactic

namespace Transition
variable {S A B T : Type}

def run (step : S → A → Option S) (ok : S → A → Bool) : S → List A → Option S
  | s, [] => some s
  | s, a :: as => if ok s a then (step s a).bind (fun t => run step ok t as) else none

def anyStep : S → A → Bool := fun _ _ => true

theorem run_cons {step : S → A → Option S} {ok : S → A → Bool} {s u : S} {a : A} {as : List A} :
    run step ok s (a :: as) = some u ↔
      ok s a = true ∧ ∃ t, step s a = some t ∧ run step ok t as = some u := by
  simp only [run]
  split
  next h => simp [h, Option.bind_eq_some_iff]
  next h => simp [h]

theorem run_append {step : S → A → Option S} {ok : S → A → Bool} {s u : S} {as bs : List A} :
    run step ok s (as ++ bs) = some u ↔
      ∃ t, run step ok s as = some t ∧ run step ok t bs = some u := by
  induction as generalizing s with
  | nil => simp [run]
  | cons a as ih =>
    rw [List.cons_append, run_cons]
    constructor
    · rintro ⟨hok, t, ht, hr⟩
      obtain ⟨v, hv, hu⟩ := ih.mp hr
      exact ⟨v, run_cons.mpr ⟨hok, t, ht, hv⟩, hu⟩
    · rintro ⟨v, hv, hu⟩
      obtain ⟨hok, t, ht, hr⟩ := run_cons.mp hv
      exact ⟨hok, t, ht, ih.mpr ⟨v, hr, hu⟩⟩

theorem run_anyStep {step : S → A → Option S} {ok : S → A → Bool} {s u : S} {as : List A}
    (h : run step ok s as = some u) : run step anyStep s as = some u := by
  induction as generalizing s with
  | nil => exact h
  | cons a as ih =>
    obtain ⟨_, t, ht, hr⟩ := run_cons.mp h
    exact run_cons.mpr ⟨rfl, t, ht, ih hr⟩

theorem run_invariant {step : S → A → Option S} {ok : S → A → Bool} {I : S → Prop}
    (hstep : ∀ s a t, I s → ok s a = true → step s a = some t → I t)
    {s u : S} {as : List A} (hs : I s) (h : run step ok s as = some u) : I u := by
  induction as generalizing s with
  | nil =>
    simp only [run, Option.some.injEq] at h
    exact h ▸ hs
  | cons a as ih =>
    obtain ⟨hok, t, ht, hr⟩ := run_cons.mp h
    exact ih (hstep s a t hs hok ht) hr

def outputs (step : S → A → Option S) (out : S → A → Option B) : S → List A → List B
  | _, [] => []
  | s, a :: as => (out s a).toList ++ (step s a).elim [] (fun t => outputs step out t as)

theorem run_outputs {step : S → A → Option S} {ok : S → A → Bool} {out : S → A → Option B}
    {I : S → List B → Prop}
    (hstep : ∀ s bs a t, I s bs → ok s a = true → step s a = some t → I t (bs ++ (out s a).toList))
    {s u : S} {bs : List B} {as : List A} (hs : I s bs) (h : run step ok s as = some u) :
    I u (bs ++ outputs step out s as) := by
  induction as generalizing s bs with
  | nil =>
    obtain rfl := Option.some.inj h
    simpa [outputs] using hs
  | cons a as ih =>
    obtain ⟨hok, t, ht, hr⟩ := run_cons.mp h
    have hrest := ih (hstep s bs a t hs hok ht) hr
    simpa [outputs, ht] using hrest

theorem foldl_project {f : S → A → S} {g : T → B → T} {proj : A → Option B} {abs : S → T}
    {I : S → Prop} {as : List A} {s : S} (hs : I s)
    (hinv : ∀ s, I s → ∀ a ∈ as, I (f s a))
    (hkeep : ∀ s, I s → ∀ a ∈ as, ∀ b, proj a = some b → abs (f s a) = g (abs s) b)
    (hdrop : ∀ s, I s → ∀ a ∈ as, proj a = none → abs (f s a) = abs s) :
    abs (as.foldl f s) = (as.filterMap proj).foldl g (abs s) := by
  induction as generalizing s with
  | nil => rfl
  | cons a as ih =>
    have hrest := ih (hinv s hs a (by simp)) (fun s hs b hb => hinv s hs b (by simp [hb]))
      (fun s hs b hb => hkeep s hs b (by simp [hb])) (fun s hs b hb => hdrop s hs b (by simp [hb]))
    rw [List.foldl_cons, hrest]
    cases hp : proj a with
    | none => simp [hp, hdrop s hs a (by simp) hp]
    | some b => simp [hp, hkeep s hs a (by simp) b hp]

theorem foldl_invariant {f : S → A → S} {I : S → Prop} {as : List A} {s : S} (hs : I s)
    (hinv : ∀ s, I s → ∀ a ∈ as, I (f s a)) : I (as.foldl f s) :=
  List.foldlRecOn as f hs (fun s hs a ha => hinv s hs a ha)

def along (f : S → A → S) (ok : S → A → Bool) : S → List A → Bool
  | _, [] => true
  | s, a :: as => ok s a && along f ok (f s a) as

theorem along_invariant {f : S → A → S} {ok : S → A → Bool} {I : S → Prop}
    (hstep : ∀ s a, I s → ok s a = true → I (f s a)) {s : S} {as : List A} (hs : I s)
    (h : along f ok s as = true) : I (as.foldl f s) := by
  induction as generalizing s with
  | nil => exact hs
  | cons a as ih =>
    simp only [along, Bool.and_eq_true] at h
    exact ih (hstep s a hs h.1) h.2

section Prefixes
variable {step : S → A → Option S} {ok : S → A → Bool} {s t u : S} {a : A} {as : List A} {k : Nat}

theorem run_take_succ (ha : as[k]? = some a) :
    run step ok s (as.take (k + 1)) = some u ↔
      ∃ t, run step ok s (as.take k) = some t ∧ ok t a = true ∧ step t a = some u := by
  rw [List.take_add_one, ha, Option.toList_some, run_append]
  refine exists_congr fun t => and_congr_right fun _ => ?_
  rw [run_cons]
  simp [run]

theorem run_take_past (ha : as[k]? = none) :
    run step ok s (as.take (k + 1)) = run step ok s (as.take k) := by
  simp [List.take_add_one, ha]

theorem prefixes_hold {Q : S → Prop} (hs : Q s)
    (hstep : ∀ k t a u, run step anyStep s (as.take k) = some t → as[k]? = some a →
      step t a = some u → run step anyStep s (as.take (k + 1)) = some u → Q t → Q u) :
    ∀ k t, run step anyStep s (as.take k) = some t → Q t := by
  intro k
  induction k with
  | zero =>
    intro t hrun
    obtain rfl := Option.some.inj hrun
    exact hs
  | succ k ih =>
    intro u hrun
    cases ha : as[k]? with
    | none => exact ih u (run_take_past ha ▸ hrun)
    | some a =>
      obtain ⟨t, ht, _, hu⟩ := (run_take_succ ha).mp hrun
      exact hstep k t a u ht ha hu hrun (ih t ht)

-- Where a step keeps P exactly when G holds of it, P holds all along a run exactly when G does.
theorem prefixes_iff_of_mem {I P : S → Prop} {G : S → A → Prop} (hs : I s) (hP : P s)
    (hI : ∀ t a u, a ∈ as → I t → P t → step t a = some u → P u → I u)
    (hstep : ∀ t a u, a ∈ as → I t → P t → step t a = some u → (P u ↔ G t a))
    (hdisabled : ∀ t a, P t → step t a = none → G t a) :
    (∀ k t, run step anyStep s (as.take k) = some t → P t) ↔
      (∀ k t a, run step anyStep s (as.take k) = some t → as[k]? = some a → G t a) := by
  constructor
  · intro h k t a hrun ha
    have hinv := prefixes_hold (Q := I) hs (fun k t a u ht ha hu hrun hi =>
      hI t a u (List.mem_of_getElem? ha) hi (h k t ht) hu (h (k + 1) u hrun))
    cases ht : step t a with
    | none => exact hdisabled t a (h k t hrun) ht
    | some u =>
      have hnext := h (k + 1) u ((run_take_succ ha).mpr ⟨t, hrun, rfl, ht⟩)
      exact (hstep t a u (List.mem_of_getElem? ha) (hinv k t hrun) (h k t hrun) ht).mp hnext
  · intro h k t hrun
    refine (prefixes_hold (Q := fun t => I t ∧ P t) ⟨hs, hP⟩ ?_ k t hrun).2
    rintro k t a u ht ha hu _ ⟨hi, hp⟩
    have hmem := List.mem_of_getElem? ha
    have hnext := (hstep t a u hmem hi hp hu).mpr (h k t a ht ha)
    exact ⟨hI t a u hmem hi hp hu hnext, hnext⟩

theorem prefixes_iff {I P : S → Prop} {G : S → A → Prop} (hs : I s) (hP : P s)
    (hI : ∀ t a u, I t → step t a = some u → I u)
    (hstep : ∀ t a u, I t → P t → step t a = some u → (P u ↔ G t a))
    (hdisabled : ∀ t a, step t a = none → G t a) :
    (∀ k t, run step anyStep s (as.take k) = some t → P t) ↔
      (∀ k t a, run step anyStep s (as.take k) = some t → as[k]? = some a → G t a) :=
  prefixes_iff_of_mem hs hP (fun t a u _ hi _ hu _ => hI t a u hi hu)
    (fun t a u _ => hstep t a u) (fun t a _ => hdisabled t a)

def checks (step : S → A → Option S) (g : S → A → Bool) : S → List A → Bool
  | _, [] => true
  | s, a :: as => g s a && (step s a).all (fun t => checks step g t as)

theorem checks_prefixes {g : S → A → Bool} (h : checks step g s as = true) :
    ∀ k t a, run step anyStep s (as.take k) = some t → as[k]? = some a → g t a = true := by
  induction as generalizing s with
  | nil => simp
  | cons b as ih =>
    simp only [checks, Bool.and_eq_true] at h
    intro k t a hrun ha
    cases k with
    | zero =>
      obtain rfl := Option.some.inj hrun
      obtain rfl : b = a := by simpa using ha
      exact h.1
    | succ k =>
      obtain ⟨_, u, hu, hrest⟩ := run_cons.mp hrun
      rw [hu] at h
      exact ih h.2 k t a hrest (by simpa using ha)

end Prefixes

end Transition
