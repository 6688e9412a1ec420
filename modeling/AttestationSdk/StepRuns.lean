import Mathlib.Tactic.Common

/-! Runs of a machine whose steps may be impossible, and the invariants of runs whose steps all
meet a condition. -/
namespace StepRuns
variable {S A : Type} (step : S → A → Option S)

/-- The state after a list of actions; an action that is not possible ends the run. -/
def run : List A → S → Option S
  | [], s => some s
  | a :: as, s => (step s a).bind (run as)

/-- Every action of a run meets the condition in the state it is taken in. -/
def AllMeet (cond : S → A → Prop) : List A → S → Prop
  | [], _ => True
  | a :: as, s => cond s a ∧ ∀ s', step s a = some s' → AllMeet cond as s'

variable {step}

theorem run_cons {a : A} {as : List A} {s s'' : S} :
    run step (a :: as) s = some s'' ↔ ∃ s', step s a = some s' ∧ run step as s' = some s'' := by
  rw [run, Option.bind_eq_some_iff]

theorem allMeet_cons {cond : S → A → Prop} {a : A} {as : List A} {s s₁ : S}
    (hstep : step s a = some s₁) (hcond : cond s a) (hrest : AllMeet step cond as s₁) :
    AllMeet step cond (a :: as) s := by
  refine ⟨hcond, fun s' h => ?_⟩
  cases hstep.symm.trans h
  exact hrest

theorem allMeet_cons_iff {cond : S → A → Prop} {a : A} {as : List A} {s s₁ : S}
    (hstep : step s a = some s₁) :
    AllMeet step cond (a :: as) s ↔ cond s a ∧ AllMeet step cond as s₁ :=
  ⟨fun h => ⟨h.1, h.2 s₁ hstep⟩, fun h => allMeet_cons hstep h.1 h.2⟩

theorem allMeet_cons_none_iff {cond : S → A → Prop} {a : A} {as : List A} {s : S}
    (hstep : step s a = none) : AllMeet step cond (a :: as) s ↔ cond s a :=
  ⟨fun h => h.1, fun h => ⟨h, fun s' hs' => by cases hstep.symm.trans hs'⟩⟩

theorem allMeet_of_forall {cond : S → A → Prop} (h : ∀ s a, cond s a) (as : List A) (s : S) :
    AllMeet step cond as s := by
  induction as generalizing s with
  | nil => trivial
  | cons a as ih => exact ⟨h s a, fun s' _ => ih s'⟩

/-- An invariant of the steps that meet the condition holds after a run of such steps. -/
theorem run_inv {cond : S → A → Prop} {Inv : S → Prop}
    (hstep : ∀ s a s', Inv s → cond s a → step s a = some s' → Inv s') {as : List A} {s s' : S}
    (hrun : run step as s = some s') (hmeet : AllMeet step cond as s) (hinv : Inv s) : Inv s' := by
  induction as generalizing s with
  | nil => exact Option.some.inj hrun ▸ hinv
  | cons a as ih =>
    cases run_cons.mp hrun with
    | intro s₁ h => exact ih h.2 (hmeet.2 s₁ h.1) (hstep s a s₁ hinv hmeet.1 h.1)

/-- Whether a run meets a condition is found by running it. -/
instance decidableAllMeet {cond : S → A → Prop} [∀ s a, Decidable (cond s a)] :
    ∀ (as : List A) (s : S), Decidable (AllMeet step cond as s)
  | [], _ => isTrue trivial
  | a :: as, s =>
    match hstep : step s a with
    | none => decidable_of_iff (cond s a) (allMeet_cons_none_iff hstep).symm
    | some s₁ =>
      have : Decidable (AllMeet step cond as s₁) := decidableAllMeet as s₁
      decidable_of_iff (cond s a ∧ AllMeet step cond as s₁) (allMeet_cons_iff hstep).symm

end StepRuns
