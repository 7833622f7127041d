import Mathlib.Tactic

abbrev Program (ε σ α : Type) : Type := ExceptT ε (StateM σ) α

namespace Program
variable {ε σ α β : Type} {s : σ}

def wp (m : Program ε σ α) (Q : Except ε α → σ → Prop) (s : σ) : Prop :=
  Q (m.run.run s).1 (m.run.run s).2

theorem wp_mono {m : Program ε σ α} {Q R : Except ε α → σ → Prop} (hQR : ∀ r t, Q r t → R r t)
    (h : wp m Q s) : wp m R s := hQR _ _ h

theorem wp_iff {m : Program ε σ α} {P Q : Except ε α → σ → Prop} {R : Prop} (h : wp m P s)
    (hQR : ∀ r t, P r t → (Q r t ↔ R)) : wp m Q s ↔ R := hQR _ _ h

@[simp] theorem wp_pure (a : α) (Q : Except ε α → σ → Prop) :
    wp (pure a) Q s ↔ Q (.ok a) s := Iff.rfl

@[simp] theorem wp_throw (e : ε) (Q : Except ε α → σ → Prop) :
    wp (throw e) Q s ↔ Q (.error e) s := Iff.rfl

@[simp] theorem wp_get (Q : Except ε σ → σ → Prop) : wp get Q s ↔ Q (.ok s) s := Iff.rfl

@[simp] theorem wp_modify (f : σ → σ) (Q : Except ε PUnit → σ → Prop) :
    wp (modify f) Q s ↔ Q (.ok ⟨⟩) (f s) := Iff.rfl

theorem wp_bind (m : Program ε σ α) (f : α → Program ε σ β) (Q : Except ε β → σ → Prop) :
    wp (m >>= f) Q s ↔ wp m (fun r t => match r with
      | .ok a => wp (f a) Q t
      | .error e => Q (.error e) t) s := by
  unfold wp
  rw [ExceptT.run_bind]
  simp only [StateT.run_bind]
  rcases h : m.run.run s with ⟨r, t⟩
  cases r with
  | ok a => rfl
  | error e => rfl

theorem wp_map (m : Program ε σ α) (f : α → β) (Q : Except ε β → σ → Prop) :
    wp (f <$> m) Q s ↔ wp m (fun r t => Q (r.map f) t) s := by
  unfold wp
  rw [ExceptT.run_map]
  simp only [StateT.run_map]
  rcases h : m.run.run s with ⟨r, t⟩
  cases r with
  | ok a => rfl
  | error e => rfl

theorem wp_tryCatch (m : Program ε σ α) (handler : ε → Program ε σ α)
    (Q : Except ε α → σ → Prop) :
    wp (tryCatch m handler) Q s ↔ wp m (fun r t => match r with
      | .ok a => Q (.ok a) t
      | .error e => wp (handler e) Q t) s := by
  unfold wp
  rw [ExceptT.run_tryCatch]
  simp only [StateT.run_bind]
  rcases h : m.run.run s with ⟨r, t⟩
  cases r with
  | ok a => rfl
  | error e => rfl

end Program
