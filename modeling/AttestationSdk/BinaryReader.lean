import AttestationSdk.Buffer
import AttestationSdk.ByteLayout
import AttestationSdk.ExceptRules

/-! What the readers of binary formats share: numbers and texts at offsets of a file, and the check
that a part of a file is there. -/
namespace AttestationSdk.BinaryReader
open Buffer ByteLayout ExceptRules

/-- An exception of a reader: its own, by offset and message, or one that it does not catch. -/
inductive ReaderFault
  | parseError (offset : Nat) (message : String)
  | structError
  | outOfFuel
  deriving Repr, DecidableEq

/-- The reader's own exception. -/
inductive ReaderFault.IsParseError : ReaderFault → Prop
  | intro (offset : Nat) (message : String) : IsParseError (.parseError offset message)

def parseError {α : Type} (offset : Nat) (message : String) : Except ReaderFault α :=
  .error (.parseError offset message)

/-- A condition that a file has to meet, with the error where it does not. -/
def check (condition : Bool) (offset : Nat) (message : String) : Except ReaderFault Unit :=
  if condition then .ok () else parseError offset message

def numberAt (width : Nat) (data : Bytes) (offset : Nat) : Nat :=
  littleEndian ((data.drop offset).take width)

def u16 : Bytes → Nat → Nat := numberAt 2
def u32 : Bytes → Nat → Nat := numberAt 4
def u64 : Bytes → Nat → Nat := numberAt 8

/-- `struct.unpack_from` with a format of so many bytes raises unless they are there. -/
def unpackFrom (data : Bytes) (offset size : Nat) : Except ReaderFault Unit :=
  if offset + size ≤ data.length then .ok () else .error .structError

/-- `_require` of both readers. -/
def requireBytes (data : Bytes) (offset size : Nat) (what : String) : Except ReaderFault Unit :=
  if data.length < offset ∨ data.length - offset < size then
    parseError offset ("truncated " ++ what)
  else .ok ()

/-- `data.find(b"\0", start, limit)`. -/
def findNul (data : Bytes) (start limit : Nat) : Option Nat :=
  (((data.drop start).take (limit - start)).findIdx? (· = 0)).map (start + ·)

/-- `decode("utf-8")`; `none` is a `UnicodeDecodeError`. -/
def decodeUtf8 (data : Bytes) : Option String := String.fromUTF8? ⟨data.toArray⟩

/-- The text from an offset to the first NUL before a limit. -/
def textUntilNul (data : Bytes) (start limit : Nat) (unterminated undecodable : String) :
    Except ReaderFault String :=
  match findNul data start limit with
  | none => parseError start unterminated
  | some stop => match decodeUtf8 ((data.drop start).take (stop - start)) with
    | some text => .ok text
    | none => parseError start undecodable

/-- A text at an offset with its NUL before a limit. -/
def NulText (data : Bytes) (start limit : Nat) (text : String) : Prop :=
  ∃ bytes, decodeUtf8 bytes = some text ∧ 0 ∉ bytes ∧ FieldAt data start (bytes ++ [0]) ∧
    start + bytes.length < limit

section Checks
variable {data : Bytes} {offset size : Nat} {what : String}

theorem requireBytes_iff {u : Unit} :
    requireBytes data offset size what = .ok u ↔ offset + size ≤ data.length := by
  rw [requireBytes]
  by_cases hshort : data.length < offset ∨ data.length - offset < size
  · rw [if_pos hshort]
    exact iff_of_false nofun (by omega)
  · rw [if_neg hshort]
    exact iff_of_true rfl (by omega)

theorem parseError_fails {α : Type} {message : String} : FailsOnly ReaderFault.IsParseError
    (parseError offset message : Except ReaderFault α) := by
  intro f h
  rw [← Except.error.inj h]
  exact .intro _ _

theorem check_iff {condition : Bool} {message : String} {u : Unit} :
    check condition offset message = .ok u ↔ condition = true := by
  cases condition with
  | false => exact iff_of_false nofun nofun
  | true => exact iff_of_true rfl rfl

theorem check_fails {condition : Bool} {message : String} :
    FailsOnly ReaderFault.IsParseError (check condition offset message) :=
  failsOnly_ite (fun _ => failsOnly_ok _ ()) fun _ => parseError_fails

theorem requireBytes_fails : FailsOnly ReaderFault.IsParseError
    (requireBytes data offset size what) :=
  failsOnly_ite (fun _ => parseError_fails) fun _ => failsOnly_ok _ ()

theorem unpackFrom_iff {u : Unit} : unpackFrom data offset size = .ok u ↔
    offset + size ≤ data.length := by
  rw [unpackFrom]
  by_cases hfits : offset + size ≤ data.length
  · rw [if_pos hfits]
    exact iff_of_true rfl hfits
  · rw [if_neg hfits]
    exact iff_of_false nofun hfits

/-- Bytes that are there can be unpacked. -/
theorem unpackFrom_fails {P : ReaderFault → Prop} (h : offset + size ≤ data.length) :
    FailsOnly P (unpackFrom data offset size) := by
  rw [unpackFrom_iff (u := ()).mpr h]
  exact failsOnly_ok P ()

end Checks

section Texts
variable {data : Bytes} {start limit stop : Nat}

/-- A NUL that is found is the first one, and it stands before the limit. -/
theorem findNul_ok (hlimit : limit ≤ data.length) (h : findNul data start limit = some stop) :
    start ≤ stop ∧ stop < limit ∧ ((data.drop start).take (stop - start)).length = stop - start ∧
      0 ∉ (data.drop start).take (stop - start) ∧
      FieldAt data start ((data.drop start).take (stop - start) ++ [0]) := by
  rw [findNul, Option.map_eq_some_iff] at h
  obtain ⟨k, hfound, rfl⟩ := h
  obtain ⟨hk, hzero, hbefore⟩ := List.findIdx?_eq_some_iff_getElem.mp hfound
  rw [List.length_take, List.length_drop] at hk
  rw [List.getElem_take, List.getElem_drop, decide_eq_true_eq] at hzero
  have hlength : ((data.drop start).take k).length = k := by
    rw [List.length_take, List.length_drop]
    omega
  rw [Nat.add_sub_cancel_left]
  refine ⟨Nat.le_add_right start k, by omega, hlength, fun hmem => ?_, ?_⟩
  · obtain ⟨j, hj, hsame⟩ := List.getElem_of_mem hmem
    rw [hlength] at hj
    have hother := hbefore j hj
    rw [List.getElem_take, List.getElem_drop, decide_eq_true_eq] at hother
    rw [List.getElem_take, List.getElem_drop] at hsame
    exact hother hsame
  · refine fieldAt_append.mpr ⟨fieldAt_slice (by omega), fieldAt_singleton.mpr ?_⟩
    rw [hlength, ← hzero]
    exact List.getElem?_eq_getElem _

/-- What is read up to a NUL is a text with its NUL before the limit. -/
theorem textUntilNul_ok {unterminated undecodable text : String} (hlimit : limit ≤ data.length)
    (h : textUntilNul data start limit unterminated undecodable = .ok text) :
    NulText data start limit text := by
  rw [textUntilNul] at h
  cases hfind : findNul data start limit with
  | none =>
    rw [hfind] at h
    cases h
  | some stop =>
    rw [hfind] at h
    dsimp only at h
    cases htext : decodeUtf8 ((data.drop start).take (stop - start)) with
    | none =>
      rw [htext] at h
      cases h
    | some found =>
      rw [htext] at h
      cases h
      obtain ⟨hle, hlt, hlength, hnone, hat⟩ := findNul_ok hlimit hfind
      exact ⟨_, htext, hnone, hat, by omega⟩

theorem textUntilNul_fails {unterminated undecodable : String} :
    FailsOnly ReaderFault.IsParseError
      (textUntilNul data start limit unterminated undecodable) := by
  rw [textUntilNul]
  cases findNul data start limit with
  | none => exact parseError_fails
  | some stop =>
    dsimp only
    cases decodeUtf8 ((data.drop start).take (stop - start)) with
    | none => exact parseError_fails
    | some text => exact failsOnly_ok _ text

end Texts

end AttestationSdk.BinaryReader
