import AttestationSdk.Effects

/-! Two programs that run in step: neither changes its world, and they fail alike. -/
namespace Effects
variable {ε σ τ α β γ δ : Type}

/-- Both runs fail with the same error, one of those in `E`, or both return and the results are
related. -/
def InStep (E : ε → Prop) (R : α → β → Prop) (x : Prog ε σ α) (y : Prog ε τ β) : Prop :=
  ∀ s t, (∃ e, E e ∧ x s = (.error e, s) ∧ y t = (.error e, t)) ∨
    ∃ a b, x s = (.ok a, s) ∧ y t = (.ok b, t) ∧ R a b

variable {E : ε → Prop} {R : α → β → Prop} {S : γ → δ → Prop}

theorem inStep_pure {a : α} {b : β} (h : R a b) :
    InStep E R (pure a : Prog ε σ α) (pure b : Prog ε τ β) :=
  fun _ _ => .inr ⟨a, b, rfl, rfl, h⟩

theorem inStep_fail {e : ε} (h : E e) :
    InStep E R (Prog.fail e : Prog ε σ α) (Prog.fail e : Prog ε τ β) :=
  fun _ _ => .inl ⟨e, h, rfl, rfl⟩

/-- The same outcome on both sides. -/
theorem inStep_liftSame {r : Except ε α} (herror : ∀ e, r = .error e → E e) :
    InStep E (fun a b => r = .ok a ∧ b = a) (Prog.lift r : Prog ε σ α) (Prog.lift r : Prog ε τ α) := by
  cases r with
  | error e => exact fun _ _ => .inl ⟨e, herror e rfl, rfl, rfl⟩
  | ok a => exact fun _ _ => .inr ⟨a, a, rfl, rfl, rfl, rfl⟩

/-- What follows a pair of runs in step may use that their results are related. -/
theorem inStep_bind {x : Prog ε σ α} {y : Prog ε τ β} {f : α → Prog ε σ γ} {g : β → Prog ε τ δ}
    (hxy : InStep E R x y) (hfg : ∀ a b, R a b → InStep E S (f a) (g b)) :
    InStep E S (x >>= f) (y >>= g) := by
  intro s t
  cases hxy s t with
  | inl hfail =>
    obtain ⟨e, he, hx, hy⟩ := hfail
    exact .inl ⟨e, he, Prog.bind_of_error hx f, Prog.bind_of_error hy g⟩
  | inr hok =>
    obtain ⟨a, b, hx, hy, hab⟩ := hok
    rw [Prog.bind_of_ok hx, Prog.bind_of_ok hy]
    exact hfg a b hab s t

theorem inStep_ite {p : Prop} [Decidable p] {x x' : Prog ε σ α} {y y' : Prog ε τ β}
    (hpos : p → InStep E R x y) (hneg : ¬ p → InStep E R x' y') :
    InStep E R (if p then x else x') (if p then y else y') := by
  by_cases h : p
  · rw [if_pos h, if_pos h]
    exact hpos h
  · rw [if_neg h, if_neg h]
    exact hneg h

end Effects
