import AttestationSdk.Effects

/-! A program run on each item of a list, in the world the item before left. -/
namespace Effects.Prog
variable {ε σ α β : Type}

def each (f : α → Prog ε σ β) : List α → Prog ε σ (List β)
  | [] => pure []
  | a :: rest => do
    let b ← f a
    let bs ← each f rest
    return b :: bs

/-- The runs of a list that all succeed. -/
inductive Each (f : α → Prog ε σ β) : List α → σ → List β → σ → Prop where
  | nil (s : σ) : Each f [] s [] s
  | cons {a : α} {rest : List α} {b : β} {bs : List β} {s s₁ s₂ : σ} :
    f a s = (.ok b, s₁) → Each f rest s₁ bs s₂ → Each f (a :: rest) s (b :: bs) s₂

variable {f : α → Prog ε σ β} {as : List α} {bs : List β} {s s' : σ}

theorem each_iff : each f as s = (.ok bs, s') ↔ Each f as s bs s' := by
  constructor
  · intro h
    induction as generalizing bs s with
    | nil =>
      cases h
      exact .nil _
    | cons a rest ih =>
      obtain ⟨b, s₁, hb, h⟩ := bind_eq_ok.mp h
      obtain ⟨bs', s₂, hbs, h⟩ := bind_eq_ok.mp h
      cases h
      exact .cons hb (ih hbs)
  · intro h
    induction h with
    | nil s => rfl
    | cons hb _ ih => rw [each, bind_of_ok hb, bind_of_ok ih, pure_run]

/-- What holds of every run that succeeds holds of the items and the values in their order. -/
theorem Each.forall₂ {R : α → β → Prop} (hitem : ∀ a s b s', f a s = (.ok b, s') → R a b)
    (h : Each f as s bs s') : List.Forall₂ R as bs := by
  induction h with
  | nil s => exact .nil
  | cons hb _ ih => exact .cons (hitem _ _ _ _ hb) ih

/-- Two relations between lists in a row. -/
theorem forall₂_through {γ : Type} {R : α → β → Prop} {S : β → γ → Prop} {cs : List γ}
    (h : List.Forall₂ R as bs) (h' : List.Forall₂ S bs cs) :
    List.Forall₂ (fun a c => ∃ b, R a b ∧ S b c) as cs := by
  induction h generalizing cs with
  | nil =>
    cases h'
    exact .nil
  | cons hab _ ih =>
    cases h' with
    | cons hbc hrest => exact .cons ⟨_, hab, hbc⟩ (ih hrest)

end Effects.Prog
