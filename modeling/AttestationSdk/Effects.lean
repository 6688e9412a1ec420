import Mathlib.Tactic.Common

/-! Programs over a world that may fail, with the equations and the inversion
rule their proofs use. -/
namespace Effects
variable {ε σ α β : Type}

/-- A run maps the world before to the outcome and the world after; the world
outlives a failure. -/
def Prog (ε σ α : Type) : Type := σ → Except ε α × σ

namespace Prog

def fail (e : ε) : Prog ε σ α := fun s => (.error e, s)

def lift (x : Except ε α) : Prog ε σ α := fun s => (x, s)

instance : Monad (Prog ε σ) where
  pure a := fun s => (.ok a, s)
  bind x f := fun s => match x s with
    | (.ok a, s') => f a s'
    | (.error e, s') => (.error e, s')

@[simp] theorem pure_run (a : α) (s : σ) : (pure a : Prog ε σ α) s = (.ok a, s) := rfl

@[simp] theorem fail_run (e : ε) (s : σ) : (fail e : Prog ε σ α) s = (.error e, s) := rfl

@[simp] theorem lift_run (x : Except ε α) (s : σ) : (lift x : Prog ε σ α) s = (x, s) := rfl

theorem bind_of_ok {x : Prog ε σ α} {s s' : σ} {a : α} (h : x s = (.ok a, s'))
    (f : α → Prog ε σ β) : (x >>= f) s = f a s' := by
  simp only [bind, h]

theorem bind_of_error {x : Prog ε σ α} {s s' : σ} {e : ε} (h : x s = (.error e, s'))
    (f : α → Prog ε σ β) : (x >>= f) s = (.error e, s') := by
  simp only [bind, h]

theorem lift_ok {x : Except ε α} {s s' : σ} {a : α} (h : (lift x : Prog ε σ α) s = (.ok a, s')) :
    x = .ok a :=
  congrArg Prod.fst h

theorem lift_iff {x : Except ε α} {s s' : σ} {a : α} :
    (lift x : Prog ε σ α) s = (.ok a, s') ↔ x = .ok a ∧ s' = s := by
  rw [lift_run, Prod.mk.injEq]
  exact and_congr_right fun _ => eq_comm

theorem pure_iff {s s' : σ} {a b : α} :
    (pure a : Prog ε σ α) s = (.ok b, s') ↔ b = a ∧ s' = s := by
  rw [pure_run, Prod.mk.injEq, Except.ok.injEq]
  exact and_congr eq_comm eq_comm

theorem bind_eq_ok {x : Prog ε σ α} {f : α → Prog ε σ β} {s s'' : σ} {b : β} :
    (x >>= f) s = (.ok b, s'') ↔ ∃ a s', x s = (.ok a, s') ∧ f a s' = (.ok b, s'') := by
  cases hx : x s with
  | mk r s' =>
    cases r with
    | error e => simp [bind_of_error hx]
    | ok a => simp [bind_of_ok hx]

theorem bind_assoc {γ : Type} (x : Prog ε σ α) (f : α → Prog ε σ β) (g : β → Prog ε σ γ) :
    ((x >>= f) >>= g) = (x >>= fun a => f a >>= g) := by
  funext s
  cases hx : x s with
  | mk r s' =>
    cases r with
    | error e => rw [bind_of_error (bind_of_error hx f), bind_of_error hx]
    | ok a =>
      rw [bind_of_ok hx]
      simp only [bind, hx]

theorem bind_congr_run {x y : Prog ε σ α} {s : σ} (h : x s = y s) (f : α → Prog ε σ β) :
    (x >>= f) s = (y >>= f) s := by
  simp only [bind, h]

/-- A change of the world that cannot fail. -/
def update (f : σ → σ) : Prog ε σ Unit := fun s => (.ok (), f s)

/-- However a run ends, it leaves a view of the world as it was. -/
def Leaves {γ : Type} (view : σ → γ) (x : Prog ε σ α) : Prop := ∀ s, view (x s).2 = view s

namespace Leaves
variable {γ : Type} {view : σ → γ}

theorem lift (x : Except ε α) : Leaves view (Prog.lift x : Prog ε σ α) := fun _ => rfl

theorem pure (a : α) : Leaves view (Pure.pure a : Prog ε σ α) := fun _ => rfl

theorem update {f : σ → σ} (h : ∀ s, view (f s) = view s) :
    Leaves view (Prog.update f : Prog ε σ Unit) := h

theorem bind {x : Prog ε σ α} {f : α → Prog ε σ β} (hx : Leaves view x)
    (hf : ∀ a, Leaves view (f a)) : Leaves view (x >>= f) := by
  intro s
  have hfirst := hx s
  cases h : x s with
  | mk r s' =>
    rw [h] at hfirst
    cases r with
    | error e => rw [bind_of_error h, hfirst]
    | ok a => rw [bind_of_ok h, hf a, hfirst]

end Leaves

/-- Every run that succeeds returns a value of this kind. -/
def Yields (P : α → Prop) (x : Prog ε σ α) : Prop := ∀ s a s', x s = (.ok a, s') → P a

namespace Yields
variable {P : α → Prop}

theorem pure {a : α} (h : P a) : Yields P (Pure.pure a : Prog ε σ α) := by
  intro s b s' hrun
  obtain ⟨rfl, -⟩ := pure_iff.mp hrun
  exact h

theorem fail (e : ε) : Yields P (Prog.fail e : Prog ε σ α) := by
  intro s a s' hrun
  cases hrun

theorem bind {Q : β → Prop} {x : Prog ε σ α} {f : α → Prog ε σ β} (hx : Yields P x)
    (hf : ∀ a, P a → Yields Q (f a)) : Yields Q (x >>= f) := by
  intro s b s'' hrun
  obtain ⟨a, s', ha, hb⟩ := bind_eq_ok.mp hrun
  exact hf a (hx s a s' ha) s' b s'' hb

theorem ite {p : Prop} [Decidable p] {x y : Prog ε σ α} (hpos : p → Yields P x)
    (hneg : ¬ p → Yields P y) : Yields P (if p then x else y) := by
  by_cases h : p
  · rw [if_pos h]
    exact hpos h
  · rw [if_neg h]
    exact hneg h

/-- Nothing is known of the value. -/
theorem any (x : Prog ε σ α) : Yields (fun _ => True) x := fun _ _ _ _ => trivial

end Yields

/-- From a world the program does what a function does: the values are related, the failures are
the same. -/
def Simulates {γ : Type} (x : Prog ε σ α) (y : Except ε γ) (s : σ) (R : γ → α → σ → Prop) : Prop :=
  match y with
  | .ok c => ∃ a s', x s = (.ok a, s') ∧ R c a s'
  | .error e => ∃ s', x s = (.error e, s')

namespace Simulates
variable {γ δ : Type} {s : σ}

theorem pure {R : γ → α → σ → Prop} {a : α} {c : γ} (h : R c a s) :
    Simulates (Pure.pure a : Prog ε σ α) (Pure.pure c : Except ε γ) s R := ⟨a, s, rfl, h⟩

theorem bind {x : Prog ε σ α} {y : Except ε γ} {f : α → Prog ε σ β} {g : γ → Except ε δ}
    {R : γ → α → σ → Prop} {T : δ → β → σ → Prop} (hx : Simulates x y s R)
    (hf : ∀ c a s', R c a s' → Simulates (f a) (g c) s' T) :
    Simulates (x >>= f) (y >>= g) s T := by
  cases y with
  | ok c =>
    obtain ⟨a, s', hrun, hrel⟩ := hx
    have hrest := hf c a s' hrel
    change Simulates (x >>= f) (g c) s T
    unfold Simulates at hrest ⊢
    rw [bind_of_ok hrun]
    exact hrest
  | error e =>
    obtain ⟨s', hrun⟩ := hx
    exact ⟨s', bind_of_error hrun f⟩

/-- A line that reads. -/
theorem lift {x : Except ε α} {f : α → Prog ε σ β} {g : α → Except ε δ} {T : δ → β → σ → Prop}
    (h : ∀ a, Simulates (f a) (g a) s T) : Simulates (Prog.lift x >>= f) (x >>= g) s T := by
  cases x with
  | ok a => exact h a
  | error e => exact ⟨s, rfl⟩

/-- A last line that reads. -/
theorem last {x : Except ε α} {g : α → γ} {R : γ → α → σ → Prop} (h : ∀ a, R (g a) a s) :
    Simulates (Prog.lift x) (x >>= fun a => Pure.pure (g a)) s R := by
  cases x with
  | ok a => exact ⟨a, s, rfl, h a⟩
  | error e => exact ⟨s, rfl⟩

/-- A line that assigns. -/
theorem update {u : σ → σ} {f : Unit → Prog ε σ β} {y : Except ε δ} {T : δ → β → σ → Prop}
    (h : Simulates (f ()) y (u s) T) : Simulates (Prog.update u >>= f) y s T := h

/-- A run that succeeds is a value of the function. -/
theorem ok {x : Prog ε σ α} {y : Except ε γ} {s' : σ} {R : γ → α → σ → Prop} {a : α}
    (h : Simulates x y s R) (hrun : x s = (.ok a, s')) : ∃ c, y = .ok c ∧ R c a s' := by
  cases y with
  | error e =>
    obtain ⟨s₁, hfail⟩ := h
    cases hfail.symm.trans hrun
  | ok c =>
    obtain ⟨a', s₁, hrun', hrel⟩ := h
    cases hrun'.symm.trans hrun
    exact ⟨c, rfl, hrel⟩

end Simulates

/-- A program over the first half of a world of two parts. -/
def liftFirst {τ : Type} (x : Prog ε τ α) : Prog ε (τ × σ) α := fun w =>
  ((x w.1).1, ((x w.1).2, w.2))

/-- A program over the second half of a world of two parts. -/
def onSecond {τ : Type} (x : Prog ε σ α) : Prog ε (τ × σ) α := fun w =>
  ((x w.2).1, (w.1, (x w.2).2))

theorem onSecond_ok {τ : Type} {x : Prog ε σ α} {w w' : τ × σ} {a : α}
    (h : onSecond x w = (.ok a, w')) : x w.2 = (.ok a, w'.2) := by
  have hresult : (x w.2).1 = .ok a := congrArg Prod.fst h
  have hworld : (x w.2).2 = w'.2 := congrArg (fun r => r.2.2) h
  exact Prod.ext hresult hworld

/-- A partial step on the first half; a step that fails changes nothing. -/
def onFirst {τ : Type} (f : τ → Except ε (α × τ)) : Prog ε (τ × σ) α := fun w =>
  match f w.1 with
  | .ok (a, t) => (.ok a, (t, w.2))
  | .error e => (.error e, w)

end Prog

end Effects
