import Mathlib.Data.List.Forall2
import AttestationSdk.ExceptRules

/-! Folds in the exception monad: when they succeed, and which step a part of the
result comes from. -/
namespace FoldRules
open ExceptRules
variable {ε α β γ : Type}

/-- Where the state never decides whether a step succeeds, the elements alone do. -/
theorem foldlM_succeeds_iff {f : β → α → Except ε β} {Q : α → Prop} {l : List α}
    (hstep : ∀ a ∈ l, ∀ b, (∃ b', f b a = .ok b') ↔ Q a) (b : β) :
    (∃ b', l.foldlM f b = .ok b') ↔ ∀ a ∈ l, Q a := by
  induction l generalizing b with
  | nil => simp
  | cons a rest ih =>
    have hfirst := hstep a List.mem_cons_self
    have hrest := ih fun x hx => hstep x (List.mem_cons_of_mem a hx)
    simp only [List.foldlM_cons, bind_eq_ok, List.forall_mem_cons]
    constructor
    · intro h
      obtain ⟨b', b₁, hone, hmany⟩ := h
      exact ⟨(hfirst b).mp ⟨b₁, hone⟩, (hrest b₁).mp ⟨b', hmany⟩⟩
    · intro h
      obtain ⟨b₁, hone⟩ := (hfirst b).mpr h.1
      obtain ⟨b', hmany⟩ := (hrest b₁).mpr h.2
      exact ⟨b', b₁, hone, hmany⟩

/-- Two folds whose steps give the same results give the same result. -/
theorem foldlM_ok_congr {f g : β → α → Except ε β} {l : List α}
    (h : ∀ a ∈ l, ∀ b b', f b a = .ok b' ↔ g b a = .ok b') {b b' : β} :
    l.foldlM f b = .ok b' ↔ l.foldlM g b = .ok b' := by
  induction l generalizing b with
  | nil => exact Iff.rfl
  | cons a rest ih =>
    rw [List.foldlM_cons, List.foldlM_cons, bind_eq_ok, bind_eq_ok]
    refine exists_congr fun b₁ => and_congr (h a List.mem_cons_self b b₁) ?_
    exact ih fun x hx => h x (List.mem_cons_of_mem a hx)

theorem findRev?_cons_of_none {p : α → Bool} {a : α} {rest : List α}
    (h : rest.findRev? p = none) :
    (a :: rest).findRev? p = if p a = true then some a else none := by
  rw [List.findRev?, h]

theorem findRev?_cons_of_some {p : α → Bool} {a x : α} {rest : List α}
    (h : rest.findRev? p = some x) : (a :: rest).findRev? p = some x := by
  rw [List.findRev?, h]

/-- A view of the state that only some elements write to is left by the last of them. -/
theorem foldlM_last {f : β → α → Except ε β} {p : α → Bool} {v : β → γ} {R : α → γ → Prop}
    (hwrite : ∀ b a b', p a = true → f b a = .ok b' → R a (v b'))
    (hskip : ∀ b a b', p a = false → f b a = .ok b' → v b' = v b)
    {l : List α} {b b' : β} (h : l.foldlM f b = .ok b') :
    (∀ a, l.findRev? p = some a → R a (v b')) ∧ (l.findRev? p = none → v b' = v b) := by
  induction l generalizing b with
  | nil =>
    cases h
    exact ⟨fun a ha => by simp [List.findRev?] at ha, fun _ => rfl⟩
  | cons x rest ih =>
    rw [List.foldlM_cons] at h
    obtain ⟨b₁, hstep, hrest⟩ := bind_eq_ok.mp h
    obtain ⟨hlast, hnone⟩ := ih hrest
    cases hfound : rest.findRev? p with
    | some a =>
      rw [findRev?_cons_of_some hfound]
      refine ⟨fun a' ha' => ?_, fun hno => by cases hno⟩
      exact Option.some.inj ha' ▸ hlast a hfound
    | none =>
      -- nothing later writes, so the view is the one after this step
      rw [findRev?_cons_of_none hfound, hnone hfound]
      cases hp : p x with
      | true =>
        refine ⟨fun a ha => ?_, fun hno => by simp at hno⟩
        rw [if_pos rfl, Option.some.injEq] at ha
        exact ha ▸ hwrite b x b₁ hp hstep
      | false => exact ⟨fun a ha => by simp at ha, fun _ => hskip b x b₁ hp hstep⟩

/-- Where a step writes what its element stands for, the view of a state that showed nothing is
what the last writer stands for. -/
theorem foldlM_last_map {f : β → α → Except ε β} {p : α → Bool} {v : β → Option γ} {g : α → γ}
    (hwrite : ∀ b a b', p a = true → f b a = .ok b' → v b' = some (g a))
    (hskip : ∀ b a b', p a = false → f b a = .ok b' → v b' = v b)
    {l : List α} {b b' : β} (hstart : v b = none) (h : l.foldlM f b = .ok b') :
    v b' = (l.findRev? p).map g := by
  have hlast := foldlM_last (R := fun a found => found = some (g a)) hwrite hskip h
  cases hfound : l.findRev? p with
  | some a => exact hlast.1 a hfound
  | none => exact (hlast.2 hfound).trans hstart

/-- A traversal whose steps all succeed returns what they return. -/
theorem mapM_of_each {f : α → Except ε β} {g : α → β} {l : List α} (h : ∀ a ∈ l, f a = .ok (g a)) :
    l.mapM f = .ok (l.map g) := by
  rw [mapM_eq_ok, List.forall₂_map_right_iff, List.forall₂_same]
  exact h

theorem mapM_eq_map {f : α → Except ε β} {g : α → β} {l : List α} {results : List β}
    (hg : ∀ a ∈ l, ∀ b, f a = .ok b → b = g a) (h : l.mapM f = .ok results) :
    results = l.map g := by
  induction l generalizing results with
  | nil =>
    cases h
    rfl
  | cons a rest ih =>
    rw [List.mapM_cons] at h
    obtain ⟨b, hb, h⟩ := bind_eq_ok.mp h
    obtain ⟨bs, hbs, h⟩ := bind_eq_ok.mp h
    rw [← Except.ok.inj h, hg a List.mem_cons_self b hb,
      ih (fun x hx => hg x (List.mem_cons_of_mem a hx)) hbs, List.map_cons]

/-- A list comes back from a traversal there and one back where each of its elements does. -/
theorem mapM_roundtrip_iff {f : α → Except ε β} {g : β → Except ε α} {l : List α} :
    (∃ written, l.mapM f = .ok written ∧ written.mapM g = .ok l) ↔
      ∀ a ∈ l, ∃ b, f a = .ok b ∧ g b = .ok a := by
  simp only [mapM_eq_ok]
  constructor
  · intro h
    obtain ⟨written, hto, hback⟩ := h
    induction hto with
    | nil => simp
    | cons hab _ ih =>
      cases hback with
      | cons hba hrest => exact List.forall_mem_cons.mpr ⟨⟨_, hab, hba⟩, ih hrest⟩
  · intro h
    obtain ⟨written, hboth⟩ := exists_forall₂ h
    exact ⟨written, hboth.imp fun _ _ hab => hab.1, (hboth.imp fun _ _ hab => hab.2).flip⟩

/-- The last element that satisfies a condition is one of the list and satisfies it. -/
theorem of_findRev? {p : α → Bool} {l : List α} {a : α} (h : l.findRev? p = some a) :
    a ∈ l ∧ p a = true := by
  rw [List.findRev?_eq_find?_reverse] at h
  exact ⟨List.mem_reverse.mp (List.mem_of_find?_eq_some h), List.find?_some h⟩

theorem findRev?_eq_none {p : α → Bool} {l : List α} :
    l.findRev? p = none ↔ ∀ a ∈ l, p a = false := by
  rw [List.findRev?_eq_find?_reverse, List.find?_eq_none]
  simp only [List.mem_reverse, Bool.not_eq_true]

/-- The last element of a wider kind is the last of a narrower kind it is also of. -/
theorem findRev?_of_imp {p q : α → Bool} (himp : ∀ a, p a = true → q a = true) {l : List α} {a : α}
    (h : l.findRev? q = some a) (hp : p a = true) : l.findRev? p = some a := by
  induction l with
  | nil => simp [List.findRev?] at h
  | cons x rest ih =>
    cases hq : rest.findRev? q with
    | some b =>
      rw [findRev?_cons_of_some hq] at h
      exact findRev?_cons_of_some (ih (hq.trans h))
    | none =>
      have hrest : rest.findRev? p = none := by
        rw [findRev?_eq_none] at hq ⊢
        exact fun y hy => Bool.eq_false_iff.mpr fun hpy =>
          Bool.eq_false_iff.mp (hq y hy) (himp y hpy)
      rw [findRev?_cons_of_none hq] at h
      rw [findRev?_cons_of_none hrest]
      split at h
      · obtain rfl := Option.some.inj h
        rw [if_pos hp]
      · cases h

/-- Items that are each related to one of a list of references are added at the end of a list. -/
def Adds {ι κ : Type} (N : ι → κ → Prop) (refs : List ι) (before after : List κ) : Prop :=
  ∃ new, List.Forall₂ N refs new ∧ after = before ++ new

namespace Adds
variable {ι κ : Type} {N : ι → κ → Prop} {refs refs' : List ι} {a b c : List κ}

theorem none : Adds N [] a a := ⟨[], .nil, (List.append_nil a).symm⟩

theorem one {ref : ι} {item : κ} (h : N ref item) : Adds N [ref] a (a ++ [item]) :=
  ⟨[item], .cons h .nil, rfl⟩

theorem trans (h : Adds N refs a b) (h' : Adds N refs' b c) : Adds N (refs ++ refs') a c := by
  obtain ⟨new, hnew, rfl⟩ := h
  obtain ⟨new', hnew', rfl⟩ := h'
  exact ⟨new ++ new', List.rel_append hnew hnew', List.append_assoc a new new'⟩

/-- What is added to an empty list is all of the list. -/
theorem all (h : Adds N refs [] a) : List.Forall₂ N refs a := by
  obtain ⟨new, hnew, rfl⟩ := h
  exact hnew

end Adds

/-- Where every step adds items to a view of the state, the fold adds those of all steps in
order. -/
theorem foldlM_adds {ι κ : Type} {N : ι → κ → Prop} {R : α → List ι → Prop} {f : β → α → Except ε β}
    {v : β → List κ} {l : List α}
    (hstep : ∀ a ∈ l, ∀ b b', f b a = .ok b' → ∃ refs, R a refs ∧ Adds N refs (v b) (v b'))
    {b b' : β} (h : l.foldlM f b = .ok b') :
    ∃ refss, List.Forall₂ R l refss ∧ Adds N refss.flatten (v b) (v b') := by
  induction l generalizing b with
  | nil =>
    cases h
    exact ⟨[], .nil, .none⟩
  | cons a rest ih =>
    rw [List.foldlM_cons] at h
    obtain ⟨b₁, hfirst, hrest⟩ := bind_eq_ok.mp h
    obtain ⟨refs, hrefs, hadds⟩ := hstep a List.mem_cons_self b b₁ hfirst
    obtain ⟨refss, hrefss, hadds'⟩ :=
      ih (fun x hx => hstep x (List.mem_cons_of_mem a hx)) hrest
    exact ⟨refs :: refss, .cons hrefs hrefss, hadds.trans hadds'⟩

/-- Items that a function of each element tells. -/
theorem flatten_of_forall₂_eq {ι : Type} {g : α → List ι} {l : List α} {refss : List (List ι)}
    (h : List.Forall₂ (fun a refs => refs = g a) l refss) : refss.flatten = l.flatMap g := by
  induction h with
  | nil => rfl
  | cons hfirst _ ih => rw [List.flatten_cons, List.flatMap_cons, hfirst, ih]

end FoldRules
