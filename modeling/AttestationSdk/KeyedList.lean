import Mathlib.Data.List.Forall2
import Mathlib.Data.List.Nodup
import Mathlib.Data.List.Perm.Subperm

/-! Lists of pairs with distinct keys: finite maps in the order they are walked. -/
namespace KeyedList
variable {α β γ : Type}

def keys (entries : List (α × β)) : List α := entries.map Prod.fst

@[simp] theorem keys_nil : keys ([] : List (α × β)) = [] := rfl

@[simp] theorem keys_cons (p : α × β) (rest : List (α × β)) :
    keys (p :: rest) = p.1 :: keys rest := rfl

@[simp] theorem keys_append (xs ys : List (α × β)) : keys (xs ++ ys) = keys xs ++ keys ys :=
  List.map_append

@[simp] theorem length_keys (entries : List (α × β)) : (keys entries).length = entries.length :=
  List.length_map _

theorem mem_keys {entries : List (α × β)} {key : α} :
    key ∈ keys entries ↔ ∃ b, (key, b) ∈ entries := by
  simp [keys]

theorem mem_keys_of_mem {entries : List (α × β)} {p : α × β} (h : p ∈ entries) :
    p.1 ∈ keys entries :=
  List.mem_map_of_mem h

/-- Every key stands once. -/
def Distinct (entries : List (α × β)) : Prop := (keys entries).Nodup

theorem distinct_nil : Distinct ([] : List (α × β)) := List.nodup_nil

theorem distinct_cons {p : α × β} {rest : List (α × β)} :
    Distinct (p :: rest) ↔ p.1 ∉ keys rest ∧ Distinct rest :=
  List.nodup_cons

theorem keys_perm {xs ys : List (α × β)} (h : xs.Perm ys) : (keys xs).Perm (keys ys) :=
  h.map Prod.fst

theorem Distinct.perm {xs ys : List (α × β)} (hxs : Distinct xs) (h : xs.Perm ys) : Distinct ys :=
  (keys_perm h).nodup_iff.mp hxs

theorem Distinct.nodup {entries : List (α × β)} (h : Distinct entries) : entries.Nodup :=
  List.Nodup.of_map Prod.fst h

section Lookup
variable [DecidableEq α]

theorem lookup_cons_of_ne {p : α × β} {rest : List (α × β)} {key : α} (h : key ≠ p.1) :
    (p :: rest).lookup key = rest.lookup key := by
  rw [List.lookup_cons, beq_eq_false_iff_ne.mpr h]

theorem lookup_filter_ne {key other : α} (h : other ≠ key) (entries : List (α × β)) :
    (entries.filter fun p => p.1 ≠ key).lookup other = entries.lookup other := by
  induction entries with
  | nil => rfl
  | cons p rest ih =>
    by_cases hp : p.1 = key
    · rw [List.filter_cons_of_neg (by simpa using hp), ih, lookup_cons_of_ne (hp ▸ h)]
    · rw [List.filter_cons_of_pos (by simpa using hp), List.lookup_cons, List.lookup_cons, ih]

theorem mem_of_lookup {entries : List (α × β)} {key : α} {b : β}
    (h : entries.lookup key = some b) : (key, b) ∈ entries := by
  obtain ⟨before, after, hentries, -⟩ := List.lookup_eq_some_iff.mp h
  rw [hentries]
  simp

theorem lookup_eq_some_iff {entries : List (α × β)} (h : Distinct entries) {key : α} {b : β} :
    entries.lookup key = some b ↔ (key, b) ∈ entries := by
  refine ⟨mem_of_lookup, fun hin => ?_⟩
  induction entries with
  | nil => cases hin
  | cons p rest ih =>
    cases List.mem_cons.mp hin with
    | inl heq => rw [← heq, List.lookup_cons_self]
    | inr hrest =>
      have hne : key ≠ p.1 := by
        intro heq
        exact (distinct_cons.mp h).1 (heq ▸ mem_keys_of_mem hrest)
      rw [lookup_cons_of_ne hne]
      exact ih (distinct_cons.mp h).2 hrest

theorem lookup_eq_none_iff {entries : List (α × β)} {key : α} :
    entries.lookup key = none ↔ key ∉ keys entries := by
  rw [List.lookup_eq_none_iff, mem_keys]
  constructor
  · intro h hin
    cases hin with
    | intro b hmem => simpa using h (key, b) hmem
  · intro h p hp
    simp only [bne_iff_ne, ne_eq]
    intro heq
    exact h ⟨p.2, heq ▸ hp⟩

theorem lookup_perm {xs ys : List (α × β)} (hxs : Distinct xs) (h : xs.Perm ys) (key : α) :
    xs.lookup key = ys.lookup key := by
  ext b
  rw [lookup_eq_some_iff hxs, lookup_eq_some_iff (hxs.perm h), h.mem_iff]

/-- Two maps with the same entries are the same map. -/
theorem perm_of_lookup_eq {xs ys : List (α × β)} (hxs : Distinct xs) (hys : Distinct ys)
    (h : ∀ key, xs.lookup key = ys.lookup key) : xs.Perm ys := by
  refine (List.perm_ext_iff_of_nodup hxs.nodup hys.nodup).mpr fun p => ?_
  have hxs' : xs.lookup p.1 = some p.2 ↔ (p.1, p.2) ∈ xs := lookup_eq_some_iff hxs
  have hys' : ys.lookup p.1 = some p.2 ↔ (p.1, p.2) ∈ ys := lookup_eq_some_iff hys
  rw [h p.1] at hxs'
  exact hxs'.symm.trans hys'

/-- What relates two lists entry by entry relates what is found under a key. -/
theorem lookup_of_forall₂ {R : α → β → γ → Prop} {xs : List (α × β)} {ys : List (α × γ)}
    (h : List.Forall₂ (fun p q => q.1 = p.1 ∧ R p.1 p.2 q.2) xs ys) {key : α} {b : β}
    (hb : xs.lookup key = some b) : ∃ c, ys.lookup key = some c ∧ R key b c := by
  induction h with
  | nil => cases hb
  | @cons p q xs ys hpq _ ih =>
    by_cases hkey : key = p.1
    · subst hkey
      rw [List.lookup_cons_self, Option.some.injEq] at hb
      refine ⟨q.2, ?_, hb ▸ hpq.2⟩
      rw [← hpq.1, List.lookup_cons_self]
    · rw [lookup_cons_of_ne hkey] at hb
      rw [lookup_cons_of_ne (hpq.1 ▸ hkey)]
      exact ih hb

/-- A list made from its keys holds something under each of them. -/
theorem lookup_of_forall₂_keys {R : α → β → Prop} {ks : List α} {ys : List (α × β)}
    (h : List.Forall₂ (fun k q => q.1 = k ∧ R k q.2) ks ys) {key : α} (hkey : key ∈ ks) :
    ∃ b, ys.lookup key = some b ∧ R key b := by
  induction h with
  | nil => cases hkey
  | @cons k q ks ys hkq _ ih =>
    by_cases heq : key = k
    · subst heq
      refine ⟨q.2, ?_, hkq.2⟩
      rw [← hkq.1, List.lookup_cons_self]
    · rw [lookup_cons_of_ne (hkq.1 ▸ heq)]
      exact ih ((List.mem_cons.mp hkey).resolve_left heq)

end Lookup

/-- Keys that all stand in a map of the same length are all its keys. -/
theorem keys_eq_of_length {xs : List (α × β)} {ys : List (α × γ)} (hxs : Distinct xs)
    (hsub : ∀ key ∈ keys xs, key ∈ keys ys) (hlength : xs.length = ys.length) :
    (keys xs).Perm (keys ys) := by
  refine (List.subperm_of_subset hxs hsub).perm_of_length_le ?_
  rw [length_keys, length_keys]
  exact Nat.le_of_eq hlength.symm

theorem length_eq_of_keys {xs : List (α × β)} {ys : List (α × γ)} (hxs : Distinct xs)
    (hys : Distinct ys) (h : ∀ key, key ∈ keys xs ↔ key ∈ keys ys) : xs.length = ys.length := by
  have hperm : (keys xs).Perm (keys ys) := (List.perm_ext_iff_of_nodup hxs hys).mpr h
  rw [← length_keys xs, ← length_keys ys, hperm.length_eq]

/-- A rearrangement of an image is the image of a rearrangement. -/
theorem perm_map_lift {f : α → β} {xs : List α} {ys : List β}
    (h : ys.Perm (xs.map f)) : ∃ zs : List α, zs.Perm xs ∧ ys = zs.map f := by
  generalize hmap : xs.map f = image at h
  induction h generalizing xs with
  | nil =>
    rw [List.map_eq_nil_iff] at hmap
    exact ⟨[], hmap ▸ List.Perm.nil, rfl⟩
  | cons b _ ih =>
    cases xs with
    | nil => cases hmap
    | cons a rest =>
      obtain ⟨hhead, htail⟩ := List.cons.inj hmap
      obtain ⟨zs, hperm, hzs⟩ := ih htail
      exact ⟨a :: zs, hperm.cons a, by rw [List.map_cons, hhead, hzs]⟩
  | swap b c rest =>
    cases xs with
    | nil => cases hmap
    | cons x xs =>
      cases xs with
      | nil => cases (List.cons.inj hmap).2
      | cons y xs =>
        obtain ⟨hx, hrest⟩ := List.cons.inj hmap
        obtain ⟨hy, hrest⟩ := List.cons.inj hrest
        exact ⟨y :: x :: xs, List.Perm.swap x y xs, by simp [hx, hy, hrest]⟩
  | trans _ _ ih₁ ih₂ =>
    obtain ⟨zs, hperm, hzs⟩ := ih₂ hmap
    obtain ⟨ws, hperm', hws⟩ := ih₁ hzs.symm
    exact ⟨ws, hperm'.trans hperm, hws⟩

section SetKey
variable [DecidableEq α] {entries : List (α × β)} {key : α} {b : β}

/-- `entries[key] = b` of a dictionary: a key that stands there keeps its place. -/
def setKey (key : α) (b : β) (entries : List (α × β)) : List (α × β) :=
  if key ∈ keys entries then entries.map fun p => if p.1 = key then (key, b) else p
  else entries ++ [(key, b)]

theorem distinct_setKey (h : Distinct entries) : Distinct (setKey key b entries) := by
  rw [setKey]
  by_cases hin : key ∈ keys entries
  · rw [if_pos hin, Distinct, keys, List.map_map]
    have hsame : (Prod.fst ∘ fun p : α × β => if p.1 = key then (key, b) else p) = Prod.fst := by
      funext p
      by_cases hp : p.1 = key
      · simp [hp]
      · simp [hp]
    rw [hsame]
    exact h
  · rw [if_neg hin, Distinct, keys_append, List.nodup_append]
    refine ⟨h, List.nodup_singleton key, fun x hx y hy heq => hin ?_⟩
    obtain rfl := List.mem_singleton.mp hy
    exact heq ▸ hx

/-- What stands in a dictionary behind an assignment. -/
theorem mem_setKey {p : α × β} :
    p ∈ setKey key b entries ↔ p = (key, b) ∨ p ∈ entries ∧ p.1 ≠ key := by
  rw [setKey]
  by_cases hin : key ∈ keys entries
  · rw [if_pos hin, List.mem_map]
    constructor
    · intro h
      obtain ⟨q, hq, hp⟩ := h
      by_cases hkey : q.1 = key
      · rw [if_pos hkey] at hp
        exact .inl hp.symm
      · rw [if_neg hkey] at hp
        exact .inr (hp ▸ ⟨hq, hkey⟩)
    · intro h
      cases h with
      | inl hp =>
        obtain ⟨old, hold⟩ := mem_keys.mp hin
        exact ⟨(key, old), hold, by rw [if_pos rfl, hp]⟩
      | inr hp => exact ⟨p, hp.1, if_neg hp.2⟩
  · rw [if_neg hin, List.mem_append, List.mem_singleton]
    constructor
    · intro h
      cases h with
      | inl hp => exact .inr ⟨hp, fun heq => hin (heq ▸ mem_keys_of_mem hp)⟩
      | inr hp => exact .inl hp
    · intro h
      cases h with
      | inl hp => exact .inr hp
      | inr hp => exact .inl hp.1

end SetKey

end KeyedList
