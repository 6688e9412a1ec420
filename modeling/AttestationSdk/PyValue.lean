import AttestationSdk.KeyedList
import Mathlib.Data.List.Forall2
import Mathlib.Data.Rat.Defs

/-! Values of a dynamically typed language as its JSON and TOML readers return them, and their
equality: numbers of different types are compared by value, dictionaries without regard to order,
and a NaN equals nothing but, inside a list or a dictionary, itself. -/
namespace PyValue
open KeyedList

inductive Float
  | finite (q : ℚ)
  | infinite (negative : Bool)
  /-- One of the NaN objects. -/
  | nan (object : Nat)
  deriving DecidableEq

inductive Value
  | none
  | bool (b : Bool)
  | int (n : Int)
  | float (x : Float)
  | str (s : String)
  /-- A date or a time, by its text. -/
  | datetime (text : String)
  | list (items : List Value)
  /-- The members stand in the order in which they were inserted. -/
  | dict (members : List (String × Value))

namespace Float

def equals : Float → Float → Bool
  | finite q, finite r => q = r
  | infinite a, infinite b => a = b
  | _, _ => false

end Float

namespace Value

/-- Truth values are numbers. -/
def number? : Value → Option Float
  | bool b => some (.finite (if b then 1 else 0))
  | int n => some (.finite n)
  | float x => some x
  | _ => Option.none

/-- A number beside any value. -/
def equalNumbers (x : Float) (w : Value) : Bool :=
  match w.number? with
  | some y => x.equals y
  | Option.none => false

/-- Containers take an object for equal to itself and do not compare it; only a NaN shows that. -/
def isSame : Value → Value → Bool
  | .float (.nan i), .float (.nan j) => i = j
  | _, _ => false

mutual

/-- `==`. -/
def equals : Value → Value → Bool
  | .none, .none => true
  | .str s, .str t => s = t
  | .datetime s, .datetime t => s = t
  | .list xs, .list ys => equalItems xs ys
  | .dict xs, .dict ys => xs.length = ys.length && equalMembers xs ys
  | .bool b, w => equalNumbers (.finite (if b then 1 else 0)) w
  | .int n, w => equalNumbers (.finite n) w
  | .float x, w => equalNumbers x w
  | _, _ => false

def equalItems : List Value → List Value → Bool
  | [], [] => true
  | x :: xs, y :: ys => (x.isSame y || x.equals y) && equalItems xs ys
  | _, _ => false

/-- Every member of the first list is found, with an equal value, in the second. -/
def equalMembers : List (String × Value) → List (String × Value) → Bool
  | [], _ => true
  | (key, v) :: rest, ys =>
    (match ys.lookup key with
      | some w => v.isSame w || v.equals w
      | Option.none => false) && equalMembers rest ys

end

/-- What `if` takes for true. -/
def truthy : Value → Bool
  | .none => false
  | .bool b => b
  | .int n => n ≠ 0
  | .float x => x ≠ .finite 0
  | .str s => s ≠ ""
  | .datetime _ => true
  | .list items => !items.isEmpty
  | .dict members => !members.isEmpty

/-- `dict.get`. -/
def get? (v : Value) (key : String) : Option Value :=
  match v with
  | .dict members => members.lookup key
  | _ => Option.none

@[simp] theorem get?_dict (members : List (String × Value)) (key : String) :
    (dict members).get? key = members.lookup key := rfl

mutual

/-- No NaN occurs, and no key of a dictionary occurs twice. -/
def Plain : Value → Prop
  | .float x => ∀ object, x ≠ .nan object
  | .list items => PlainItems items
  | .dict members => Distinct members ∧ PlainMembers members
  | _ => True

def PlainItems : List Value → Prop
  | [] => True
  | v :: rest => v.Plain ∧ PlainItems rest

def PlainMembers : List (String × Value) → Prop
  | [] => True
  | (_, v) :: rest => v.Plain ∧ PlainMembers rest

end

@[simp] theorem str_isSame (s : String) (w : Value) : (str s).isSame w = false := rfl

@[simp] theorem none_isSame (w : Value) : none.isSame w = false := rfl

theorem dict_equals_dict (xs ys : List (String × Value)) :
    (dict xs).equals (.dict ys) = (decide (xs.length = ys.length) && equalMembers xs ys) := by
  rw [equals]

theorem list_equals_list (xs ys : List Value) :
    (list xs).equals (.list ys) = equalItems xs ys := by
  rw [equals]

theorem equalItems_iff {xs ys : List Value} :
    equalItems xs ys = true ↔
      List.Forall₂ (fun x y => (x.isSame y || x.equals y) = true) xs ys := by
  induction xs generalizing ys with
  | nil => cases ys <;> simp [equalItems]
  | cons x xs ih => cases ys <;> simp [equalItems, ih]

theorem equals_str_iff {v : Value} {s : String} : v.equals (.str s) = true ↔ v = .str s := by
  cases v <;> simp [equals, equalNumbers, number?]

theorem str_equals_iff {v : Value} {s : String} : (str s).equals v = true ↔ v = .str s := by
  cases v <;> simp [equals, eq_comm]

theorem none_equals_iff {v : Value} : none.equals v = true ↔ v = .none := by
  cases v <;> simp [equals]

@[simp] theorem int_equals_int (m n : Int) : (int m).equals (.int n) = true ↔ m = n := by
  simp [equals, equalNumbers, number?, Float.equals]

theorem equalNumbers_self {x : Float} {w : Value} (hw : w.number? = some x)
    (hx : ∀ object, x ≠ .nan object) : equalNumbers x w = true := by
  rw [equalNumbers, hw]
  cases x with
  | nan object => exact absurd rfl (hx object)
  | _ => simp [Float.equals]

mutual

/-- Without NaN a value equals itself. -/
theorem equals_self : ∀ v : Value, v.Plain → v.equals v = true
  | .none, _ => rfl
  | .bool b, _ => by
    rw [equals]
    exact equalNumbers_self rfl (by simp)
  | .int n, _ => by
    rw [equals]
    exact equalNumbers_self rfl (by simp)
  | .float x, h => by
    rw [Plain] at h
    rw [equals]
    exact equalNumbers_self rfl h
  | .str _, _ => by simp [equals]
  | .datetime _, _ => by simp [equals]
  | .list items, h => by
    rw [Plain] at h
    rw [equals]
    exact equalItems_self items h
  | .dict members, h => by
    rw [Plain] at h
    have hmembers := equalMembers_of_sublist members members h.1 (fun _ hm => hm) h.2
    simp [equals, hmembers]

theorem equalItems_self : ∀ items : List Value, PlainItems items → equalItems items items = true
  | [], _ => rfl
  | v :: rest, h => by
    rw [PlainItems] at h
    rw [equalItems, equals_self v h.1, equalItems_self rest h.2]
    simp

theorem equalMembers_of_sublist : ∀ part members : List (String × Value), Distinct members →
    (∀ m ∈ part, m ∈ members) → PlainMembers part → equalMembers part members = true
  | [], _, _, _, _ => rfl
  | (key, v) :: rest, members, hdistinct, hmem, h => by
    rw [PlainMembers] at h
    have hlookup : members.lookup key = some v :=
      (lookup_eq_some_iff hdistinct).mpr (hmem (key, v) (by simp))
    rw [equalMembers, hlookup, equalMembers_of_sublist rest members hdistinct
      (fun m hm => hmem m (by simp [hm])) h.2]
    simp [equals_self v h.1]

end

theorem PlainMembers.lookup {members : List (String × Value)} (h : PlainMembers members)
    {key : String} {v : Value} (hv : members.lookup key = some v) : v.Plain := by
  induction members with
  | nil => cases hv
  | cons m rest ih =>
    obtain ⟨k, w⟩ := m
    rw [PlainMembers] at h
    by_cases hkey : key = k
    · rw [hkey, List.lookup_cons_self] at hv
      exact Option.some.inj hv ▸ h.1
    · rw [lookup_cons_of_ne hkey] at hv
      exact ih h.2 hv

/-- What a plain value holds is plain. -/
theorem Plain.get? {v w : Value} (h : v.Plain) {key : String} (hw : v.get? key = some w) :
    w.Plain := by
  cases v with
  | dict members =>
    rw [Plain] at h
    exact h.2.lookup hw
  | _ => cases hw

end Value
end PyValue
