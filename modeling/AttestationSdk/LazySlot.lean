import AttestationSdk.Effects

/-! A component that is given, or built on first use and then kept: what is held is what would be
built now. -/
namespace LazySlot
open Effects
variable {ε σ α : Type}

/-- The outcome of a program is the same in every world. -/
def Steady (x : Prog ε σ α) : Prop := ∀ s s', (x s).1 = (x s').1

/-- The component that the next use gets. -/
def planOf (given : Option α) (build : Except ε α) : Except ε α :=
  match given with
  | some a => .ok a
  | none => build

@[simp] theorem planOf_some (a : α) (build : Except ε α) : planOf (some a) build = .ok a := rfl

@[simp] theorem planOf_none (build : Except ε α) : planOf none build = build := rfl

/-- What is held is what was given or would be built now. -/
structure Slot (held given : Option α) (build : Except ε α) : Prop where
  planned : ∀ a, held = some a → planOf given build = .ok a
  given_held : held = none → given = none

theorem Slot.refl (given : Option α) (build : Except ε α) : Slot given given build := by
  refine ⟨fun a h => ?_, id⟩
  rw [h, planOf_some]

theorem Slot.fill {build : Except ε α} {a : α} (h : build = .ok a) : Slot (some a) none build := by
  refine ⟨fun b hb => ?_, nofun⟩
  cases hb
  exact h

/-- A component that was given does not depend on how it would be built. -/
theorem Slot.rebuild {held given : Option α} {build build' : Except ε α} (h : Slot held given build)
    (hgiven : held.isSome → given.isSome) : Slot held given build' := by
  refine ⟨fun a ha => ?_, h.given_held⟩
  cases given with
  | none =>
    rw [ha] at hgiven
    cases hgiven rfl
  | some b => exact h.planned a ha

theorem Slot.eq_of_held {held held' given : Option α} {build : Except ε α}
    (h : Slot held given build) (h' : Slot held' given build) (hsome : held.isSome)
    (hsome' : held'.isSome) : held = held' := by
  cases held with
  | none => cases hsome
  | some a =>
    cases held' with
    | none => cases hsome'
    | some b => rw [Except.ok.inj ((h.planned a rfl).symm.trans (h'.planned b rfl))]

end LazySlot
