import Mathlib.Data.List.Basic

/-! Handles numbered in the order of their creation, with what each of them points to. -/
namespace HandleTable
variable {α : Type}

/-- The place of a freed handle stays empty. -/
abbrev Table (α : Type) := List (Option α)

def get (table : Table α) (h : Nat) : Option α := table[h]?.join

def alloc (table : Table α) (a : α) : Table α := table ++ [some a]

def put (table : Table α) (h : Nat) (a : α) : Table α := table.set h (some a)

def release (table : Table α) (h : Nat) : Table α := table.set h none

variable {table : Table α} {h k : Nat} {a b : α}

theorem get_lt (hget : get table h = some a) : h < table.length := by
  by_contra hout
  rw [get, List.getElem?_eq_none (Nat.le_of_not_lt hout)] at hget
  cases hget

theorem get_alloc_self : get (alloc table a) table.length = some a := by
  rw [get, alloc, List.getElem?_concat_length]
  rfl

/-- A new handle is none of those there were. -/
theorem get_alloc (hget : get (alloc table a) h = some b) :
    get table h = some b ∨ (h = table.length ∧ b = a) := by
  cases Nat.lt_trichotomy h table.length with
  | inl hlt =>
    rw [get, alloc, List.getElem?_append_left hlt] at hget
    exact .inl hget
  | inr hge =>
    cases hge with
    | inl heq =>
      rw [heq, get_alloc_self] at hget
      exact .inr ⟨heq, (Option.some.inj hget).symm⟩
    | inr hgt =>
      have hlt := get_lt hget
      rw [alloc, List.length_append, List.length_singleton] at hlt
      omega

theorem get_put_self (hget : get table h = some b) : get (put table h a) h = some a := by
  rw [get, put, List.getElem?_set_self (get_lt hget)]
  rfl

theorem get_put_of_ne (hne : k ≠ h) : get (put table h a) k = get table k := by
  rw [get, put, List.getElem?_set_ne hne.symm, get]

/-- What is left after a release was there before. -/
theorem get_release (hget : get (release table h) k = some b) : get table k = some b := by
  by_cases heq : h = k
  · rw [get, release, heq] at hget
    by_cases hlt : k < table.length
    · rw [List.getElem?_set_self hlt] at hget
      cases hget
    · rw [List.getElem?_eq_none (by simpa using hlt)] at hget
      cases hget
  · rw [get, release, List.getElem?_set_ne heq] at hget
    exact hget

theorem length_put : (put table h a).length = table.length := List.length_set

theorem length_release : (release table h).length = table.length := List.length_set

end HandleTable
