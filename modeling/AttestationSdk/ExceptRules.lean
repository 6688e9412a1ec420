import Mathlib.Tactic.Common

/-! Equations and inversion for programs in the exception monad. -/
namespace ExceptRules

@[simp] theorem ok_bind {ε α β : Type _} (a : α) (f : α → Except ε β) :
    (Except.ok a >>= f) = f a := rfl

@[simp] theorem error_bind {ε α β : Type _} (e : ε) (f : α → Except ε β) :
    (Except.error e >>= f) = Except.error e := rfl

@[simp] theorem pure_eq_ok {ε α : Type _} (a : α) : (pure a : Except ε α) = Except.ok a := rfl

theorem bind_eq_ok {ε α β : Type _} {x : Except ε α} {f : α → Except ε β} {b : β} :
    (x >>= f) = Except.ok b ↔ ∃ a, x = Except.ok a ∧ f a = Except.ok b := by
  cases x with
  | error e => simp
  | ok a => simp

/-- What the step of every element of a list keeps, the fold over the list keeps. -/
theorem foldlM_keeps_of_mem {ε α β : Type _} {f : β → α → Except ε β} {P : β → Prop} {l : List α}
    (hkeep : ∀ a ∈ l, ∀ b b', P b → f b a = .ok b' → P b') {b b' : β}
    (hb : P b) (h : l.foldlM f b = .ok b') : P b' := by
  induction l generalizing b with
  | nil =>
    cases h
    exact hb
  | cons a rest ih =>
    rw [List.foldlM_cons] at h
    obtain ⟨b₁, hstep, h⟩ := bind_eq_ok.mp h
    exact ih (fun x hx => hkeep x (List.mem_cons_of_mem a hx)) (hkeep a (by simp) b b₁ hb hstep) h

/-- What every step of a fold keeps, the fold keeps. -/
theorem foldlM_keeps {ε α β : Type _} {f : β → α → Except ε β} {P : β → Prop}
    (hkeep : ∀ b a b', P b → f b a = .ok b' → P b') {l : List α} {b b' : β}
    (hb : P b) (h : l.foldlM f b = .ok b') : P b' :=
  foldlM_keeps_of_mem (fun a _ b b' => hkeep b a b') hb h

/-- What a step establishes about its element and later steps keep holds at the end
of every element. -/
theorem foldlM_each {ε α β : Type _} {f : β → α → Except ε β} {Q : α → β → Prop}
    (hstep : ∀ b a b', f b a = .ok b' → Q a b')
    (hkeep : ∀ a b x b', Q a b → f b x = .ok b' → Q a b') {l : List α} {b b' : β}
    (h : l.foldlM f b = .ok b') : ∀ a ∈ l, Q a b' := by
  induction l generalizing b with
  | nil => simp
  | cons x rest ih =>
    rw [List.foldlM_cons] at h
    obtain ⟨b₁, hx, h⟩ := bind_eq_ok.mp h
    intro a ha
    cases List.mem_cons.mp ha with
    | inl heq => exact foldlM_keeps (fun b y b' => hkeep a b y b') (heq ▸ hstep b x b₁ hx) h
    | inr hin => exact ih h a hin

/-- A traversal succeeds exactly when every step does. -/
theorem forM_eq_ok {ε α : Type _} {f : α → Except ε PUnit} {l : List α} :
    l.forM f = .ok ⟨⟩ ↔ ∀ a ∈ l, f a = .ok ⟨⟩ := by
  induction l with
  | nil => simp [List.forM]
  | cons a rest ih =>
    change (f a >>= fun _ => rest.forM f) = _ ↔ _
    rw [bind_eq_ok]
    simp only [ih, List.mem_cons, forall_eq_or_imp]
    exact ⟨fun h => ⟨h.choose_spec.1, h.choose_spec.2⟩, fun h => ⟨_, h.1, h.2⟩⟩

theorem mapM_eq_ok {ε α β : Type _} {f : α → Except ε β} {l : List α} {results : List β} :
    l.mapM f = .ok results ↔ List.Forall₂ (fun a b => f a = .ok b) l results := by
  induction l generalizing results with
  | nil =>
    constructor
    · rintro ⟨⟩
      exact .nil
    · rintro ⟨⟩
      rfl
  | cons a rest ih =>
    rw [List.mapM_cons, bind_eq_ok]
    constructor
    · rintro ⟨b, hb, h⟩
      obtain ⟨bs, hbs, h⟩ := bind_eq_ok.mp h
      obtain rfl := Except.ok.inj h
      exact .cons hb (ih.mp hbs)
    · intro h
      cases h with
      | cons hb hbs => exact ⟨_, hb, bind_eq_ok.mpr ⟨_, ih.mpr hbs, rfl⟩⟩

theorem exists_forall₂ {α β : Type _} {R : α → β → Prop} {xs : List α} (h : ∀ a ∈ xs, ∃ b, R a b) :
    ∃ ys, List.Forall₂ R xs ys := by
  induction xs with
  | nil => exact ⟨[], .nil⟩
  | cons a rest ih =>
    obtain ⟨b, hb⟩ := h a (by simp)
    obtain ⟨ys, hys⟩ := ih fun x hx => h x (List.mem_cons_of_mem a hx)
    exact ⟨b :: ys, .cons hb hys⟩

theorem mapM_succeeds {ε α β : Type _} {f : α → Except ε β} {l : List α}
    (h : ∀ a ∈ l, ∃ b, f a = .ok b) : ∃ results, l.mapM f = .ok results := by
  simp only [mapM_eq_ok]
  exact exists_forall₂ h

theorem mem_of_forall₂ {α β : Type _} {R : α → β → Prop} {xs : List α} {ys : List β}
    (h : List.Forall₂ R xs ys) : (∀ a ∈ xs, ∃ b ∈ ys, R a b) ∧ ∀ b ∈ ys, ∃ a ∈ xs, R a b := by
  induction h with
  | nil => simp
  | @cons a b xs ys hab _ ih =>
    constructor
    · intro x hx
      cases List.mem_cons.mp hx with
      | inl heq => exact ⟨b, by simp, heq ▸ hab⟩
      | inr hrest =>
        obtain ⟨y, hy, hxy⟩ := ih.1 x hrest
        exact ⟨y, List.mem_cons_of_mem b hy, hxy⟩
    · intro y hy
      cases List.mem_cons.mp hy with
      | inl heq => exact ⟨a, by simp, heq ▸ hab⟩
      | inr hrest =>
        obtain ⟨x, hx, hxy⟩ := ih.2 y hrest
        exact ⟨x, List.mem_cons_of_mem a hx, hxy⟩

/-- The results of a traversal are those of the elements. -/
theorem mem_mapM {ε α β : Type _} {f : α → Except ε β} {l : List α} {results : List β}
    (h : l.mapM f = .ok results) :
    (∀ a ∈ l, ∃ b ∈ results, f a = .ok b) ∧ ∀ b ∈ results, ∃ a ∈ l, f a = .ok b :=
  mem_of_forall₂ (mapM_eq_ok.mp h)

/-- Every failure is one that `P` allows. -/
def FailsOnly {ε α : Type} (P : ε → Prop) (x : Except ε α) : Prop :=
  ∀ e, x = .error e → P e

theorem failsOnly_ok {ε α : Type} (P : ε → Prop) (a : α) : FailsOnly P (.ok a : Except ε α) := by
  intro e h
  cases h

theorem failsOnly_ite {ε α : Type} {P : ε → Prop} {p : Prop} [Decidable p] {x y : Except ε α}
    (hx : p → FailsOnly P x) (hy : ¬ p → FailsOnly P y) : FailsOnly P (if p then x else y) := by
  by_cases h : p
  · rw [if_pos h]
    exact hx h
  · rw [if_neg h]
    exact hy h

theorem FailsOnly.bind {ε α β : Type} {P : ε → Prop} {x : Except ε α} {f : α → Except ε β}
    (hx : FailsOnly P x) (hf : ∀ a, x = .ok a → FailsOnly P (f a)) : FailsOnly P (x >>= f) := by
  cases x with
  | error e =>
    intro e' h
    cases h
    exact hx e rfl
  | ok a => exact hf a rfl

/-- Where the first part fails only so, the second decides. -/
theorem failsOnly_bind_iff {ε α β : Type} {P : ε → Prop} {x : Except ε α} {f : α → Except ε β}
    (hx : FailsOnly P x) : FailsOnly P (x >>= f) ↔ ∀ a, x = .ok a → FailsOnly P (f a) := by
  refine ⟨fun h a ha => ?_, hx.bind⟩
  rw [ha] at h
  exact h

theorem failsOnly_foldlM {ε α β : Type} {P : ε → Prop} {f : β → α → Except ε β} {l : List α}
    (hf : ∀ b, ∀ a ∈ l, FailsOnly P (f b a)) (b : β) : FailsOnly P (l.foldlM f b) := by
  induction l generalizing b with
  | nil => exact failsOnly_ok P b
  | cons a rest ih =>
    rw [List.foldlM_cons]
    refine (hf b a (by simp)).bind fun b₁ _ => ih (fun b' a' ha' => hf b' a' ?_) b₁
    exact List.mem_cons_of_mem a ha'

theorem failsOnly_mapM {ε α β : Type} {P : ε → Prop} {f : α → Except ε β} {l : List α}
    (hf : ∀ a ∈ l, FailsOnly P (f a)) : FailsOnly P (l.mapM f) := by
  induction l with
  | nil => exact failsOnly_ok P []
  | cons a rest ih =>
    rw [List.mapM_cons]
    refine (hf a (by simp)).bind fun b _ => ?_
    exact (ih fun a' ha' => hf a' (List.mem_cons_of_mem a ha')).bind fun bs _ => failsOnly_ok P _

end ExceptRules
