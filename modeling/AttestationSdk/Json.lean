import AttestationSdk.KeyedList

/-! JSON values, objects built by assignment, and typed reading. -/
namespace Json

/-- A number keeps whether it was written as an integer; the members of an
object stand in key order. -/
inductive Value where
  | null
  | bool (b : Bool)
  | int (n : Int)
  | float (q : Rat)
  | str (s : String)
  | arr (elems : List Value)
  | obj (members : List (String × Value))
  deriving Repr

/-- A read throws, or converts a number in a way the language leaves undefined. -/
inductive ReadFault where
  | thrown
  | undefined
  deriving Repr, DecidableEq

/-- Insert or overwrite a member. -/
def insertMember (key : String) (v : Value) : List (String × Value) → List (String × Value)
  | [] => [(key, v)]
  | (k, w) :: rest =>
    if key = k then (key, v) :: rest
    else if key < k then (key, v) :: (k, w) :: rest
    else (k, w) :: insertMember key v rest

def assignAll (assigned : List (String × Value)) (members : List (String × Value)) :
    List (String × Value) :=
  assigned.foldl (fun ms p => insertMember p.1 p.2 ms) members

/-- The object a sequence of `js[key] = value` leaves. -/
def object (assigned : List (String × Value)) : Value := .obj (assignAll assigned [])

namespace Value

/-- The member of a key, where the value is an object that has one. -/
def member? (key : String) : Value → Option Value
  | .obj members => members.lookup key
  | _ => none

def contains (js : Value) (key : String) : Bool := (js.member? key).isSome

/-- `at(key)`. -/
def atKey (js : Value) (key : String) : Except ReadFault Value :=
  match js.member? key with
  | some v => .ok v
  | none => .error .thrown

/-- `at(index)`. -/
def atIndex (js : Value) (i : Nat) : Except ReadFault Value :=
  match js with
  | .arr elems => match elems[i]? with
    | some v => .ok v
    | none => .error .thrown
  | _ => .error .thrown

/-- The elements a range-based loop visits. -/
def elements : Value → List Value
  | .null => []
  | .arr elems => elems
  | .obj members => members.map (·.2)
  | v => [v]

/-- `items()`: an element of an array has its index as key. -/
def items : Value → List (String × Value)
  | .null => []
  | .arr elems => elems.zipIdx.map fun p => (toString p.2, p.1)
  | .obj members => members
  | v => [("", v)]

def isNull : Value → Bool
  | .null => true
  | _ => false

def getBool : Value → Except ReadFault Bool
  | .bool b => .ok b
  | _ => .error .thrown

def getString : Value → Except ReadFault String
  | .str s => .ok s
  | _ => .error .thrown

def getArray {α : Type} (read : Value → Except ReadFault α) : Value → Except ReadFault (List α)
  | .arr elems => elems.mapM read
  | _ => .error .thrown

/-- The representative of `n` modulo `size` that is at least `lo`. -/
def wrap (lo size n : Int) : Int := (n - lo) % size + lo

/-- Conversion to an integer type of `size` values from `lo` on. Integers and
booleans wrap; a float outside the type is undefined. -/
def getInteger (lo size : Int) : Value → Except ReadFault Int
  | .int n => .ok (wrap lo size n)
  | .bool b => .ok (if b then 1 else 0)
  | .float q =>
    let n := q.num.tdiv q.den
    if lo ≤ n ∧ n < lo + size then .ok n else .error .undefined
  | _ => .error .thrown

end Value

/-- A value outside the table reads as the table's first entry. -/
def enumOfJson {α : Type} (first : α × String) (rest : List (α × String)) (js : Value) : α :=
  match js with
  | .str s => (((first :: rest).find? fun p => p.2 = s).getD first).1
  | _ => first.1

def enumToJson {α : Type} [DecidableEq α] (first : α × String) (rest : List (α × String))
    (a : α) : Value :=
  .str (((first :: rest).find? fun p => p.1 = a).getD first).2

theorem lookup_cons_ite (k key : String) (v : Value) (rest : List (String × Value)) :
    List.lookup k ((key, v) :: rest) = if k = key then some v else rest.lookup k := by
  by_cases h : k = key
  · simp [h]
  · simp [List.lookup_cons, h, beq_eq_false_iff_ne.mpr h]

theorem lookup_insertMember (k key : String) (v : Value) (members : List (String × Value)) :
    (insertMember key v members).lookup k = if k = key then some v else members.lookup k := by
  induction members with
  | nil => rw [insertMember, lookup_cons_ite]
  | cons p rest ih =>
    obtain ⟨k', w⟩ := p
    by_cases hk : key = k'
    · subst hk
      by_cases h : k = key <;> simp [insertMember, lookup_cons_ite, h]
    · by_cases hlt : key < k'
      · simp [insertMember, hk, hlt, lookup_cons_ite]
      · by_cases h : k = key
        · subst h
          simp [insertMember, hk, hlt, lookup_cons_ite, ih]
        · simp [insertMember, hk, hlt, lookup_cons_ite, ih, h]

/-- The last assignment to a key is the one that stays. -/
theorem lookup_assignAll (k : String) (assigned members : List (String × Value)) :
    (assignAll assigned members).lookup k =
      (assigned.reverse.lookup k).or (members.lookup k) := by
  induction assigned generalizing members with
  | nil => simp [assignAll]
  | cons p rest ih =>
    obtain ⟨key, v⟩ := p
    have hstep : assignAll ((key, v) :: rest) members =
        assignAll rest (insertMember key v members) := rfl
    rw [hstep, ih, lookup_insertMember, List.reverse_cons, List.lookup_append, lookup_cons_ite]
    cases rest.reverse.lookup k with
    | some w => simp
    | none => by_cases h : k = key <;> simp [h]

theorem member?_object (assigned : List (String × Value)) (k : String) :
    (object assigned).member? k = assigned.reverse.lookup k := by
  simp [object, Value.member?, lookup_assignAll]

/-- The members of an object stand under increasing keys. -/
def Increasing (members : List (String × Value)) : Prop :=
  members.Pairwise fun p q => p.1 < q.1

theorem Increasing.distinct {members : List (String × Value)} (h : Increasing members) :
    KeyedList.Distinct members := by
  refine List.pairwise_map.mpr (h.imp fun hlt heq => ?_)
  rw [heq] at hlt
  exact String.lt_irrefl _ hlt

theorem mem_insertMember {key : String} {v : Value} {members : List (String × Value)}
    {p : String × Value} (h : p ∈ insertMember key v members) : p = (key, v) ∨ p ∈ members := by
  induction members with
  | nil => exact .inl (List.mem_singleton.mp h)
  | cons q rest ih =>
    rw [insertMember] at h
    split at h
    · cases List.mem_cons.mp h with
      | inl heq => exact .inl heq
      | inr hin => exact .inr (List.mem_cons_of_mem q hin)
    · split at h
      · exact List.mem_cons.mp h
      · cases List.mem_cons.mp h with
        | inl heq => exact .inr (heq ▸ List.mem_cons_self)
        | inr hin =>
          cases ih hin with
          | inl heq => exact .inl heq
          | inr hrest => exact .inr (List.mem_cons_of_mem q hrest)

theorem insertMember_increasing {key : String} {v : Value} {members : List (String × Value)}
    (h : Increasing members) : Increasing (insertMember key v members) := by
  induction members with
  | nil => exact List.pairwise_singleton _ _
  | cons q rest ih =>
    obtain ⟨hfirst, hrest⟩ := List.pairwise_cons.mp h
    rw [insertMember]
    split
    · next heq => exact List.pairwise_cons.mpr ⟨heq ▸ hfirst, hrest⟩
    · next hne =>
      split
      · next hlt =>
        refine List.pairwise_cons.mpr ⟨fun p hp => ?_, h⟩
        cases List.mem_cons.mp hp with
        | inl heq => exact heq ▸ hlt
        | inr hin => exact String.lt_trans hlt (hfirst p hin)
      · next hge =>
        have hgt : q.1 < key := by
          refine String.not_le.mp fun hle => ?_
          exact hne (String.le_antisymm hle (String.not_lt.mp hge))
        refine List.pairwise_cons.mpr ⟨fun p hp => ?_, ih hrest⟩
        cases mem_insertMember hp with
        | inl heq => exact heq ▸ hgt
        | inr hin => exact hfirst p hin

theorem assignAll_increasing {assigned members : List (String × Value)} (h : Increasing members) :
    Increasing (assignAll assigned members) := by
  induction assigned generalizing members with
  | nil => exact h
  | cons p rest ih => exact ih (insertMember_increasing h)

theorem insertMember_perm {key : String} {v : Value} {members : List (String × Value)}
    (h : key ∉ KeyedList.keys members) :
    (insertMember key v members).Perm ((key, v) :: members) := by
  induction members with
  | nil => exact .refl _
  | cons q rest ih =>
    rw [KeyedList.keys_cons, List.mem_cons, not_or] at h
    rw [insertMember, if_neg h.1]
    split
    · exact .refl _
    · exact ((ih h.2).cons q).trans (.swap (key, v) q rest)

/-- Members assigned under distinct keys all stay. -/
theorem assignAll_perm {assigned members : List (String × Value)}
    (h : KeyedList.Distinct (assigned ++ members)) :
    (assignAll assigned members).Perm (assigned ++ members) := by
  induction assigned generalizing members with
  | nil => exact .refl _
  | cons p rest ih =>
    rw [List.cons_append, KeyedList.distinct_cons, KeyedList.keys_append, List.mem_append,
      not_or] at h
    have hinsert := insertMember_perm (v := p.2) h.1.2
    have hrest : (rest ++ insertMember p.1 p.2 members).Perm (p :: (rest ++ members)) :=
      (hinsert.append_left rest).trans List.perm_middle
    have hdistinct : KeyedList.Distinct (p :: (rest ++ members)) := by
      rw [KeyedList.distinct_cons, KeyedList.keys_append, List.mem_append, not_or]
      exact h
    exact (ih (hdistinct.perm hrest.symm)).trans hrest

/-- Among increasing members the last one of a key is the only one. -/
theorem Increasing.lookup_reverse {members : List (String × Value)} (h : Increasing members)
    (key : String) : members.reverse.lookup key = members.lookup key :=
  (KeyedList.lookup_perm h.distinct (List.reverse_perm members).symm key).symm

/-- Of members assigned under distinct keys each one is read back. -/
theorem member?_of_mem {assigned : List (String × Value)} (h : KeyedList.Distinct assigned)
    {key : String} {v : Value} (hmem : (key, v) ∈ assigned) :
    (object assigned).member? key = some v := by
  rw [member?_object]
  refine (KeyedList.lookup_eq_some_iff (h.perm (List.reverse_perm assigned).symm)).mpr ?_
  exact List.mem_reverse.mpr hmem

theorem member?_of_not_mem {assigned : List (String × Value)} {key : String}
    (h : key ∉ KeyedList.keys assigned) : (object assigned).member? key = none := by
  rw [member?_object]
  refine KeyedList.lookup_eq_none_iff.mpr fun hmem => h ?_
  exact (KeyedList.keys_perm (List.reverse_perm assigned)).mem_iff.mp hmem

/-- An integer that its type holds is read as it is. -/
theorem getInteger_of_fits {lo size n : Int} (hlo : lo ≤ n) (hhi : n < lo + size) :
    Value.getInteger lo size (.int n) = .ok n := by
  rw [Value.getInteger, Value.wrap, Int.emod_eq_of_lt (by omega) (by omega), Int.sub_add_cancel]

end Json
