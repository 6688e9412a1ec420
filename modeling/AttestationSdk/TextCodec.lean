import AttestationSdk.Error

/-! The text helpers of `utils.h` and the C conversions they call. A
`std::string` is a `String` whose characters are its bytes. -/
namespace AttestationSdk.Text

def ofBytes (data : Bytes) : String := String.ofList (data.map fun b => Char.ofNat b.toNat)

def toBytes (s : String) : Bytes := s.toList.map fun c => UInt8.ofNat c.toNat

/-- A byte is the number of its character. -/
theorem toNat_charOf (b : UInt8) : (Char.ofNat b.toNat).toNat = b.toNat := by
  have hbyte : b.toNat < 256 := b.toNat_lt
  rw [Char.ofNat, dif_pos (.inl (by omega))]
  rfl

def hexDigit (n : Nat) : Char := if n < 10 then Char.ofNat (48 + n) else Char.ofNat (87 + n)

/-- `to_hex_string`. -/
def toHexString (data : Bytes) : String :=
  String.ofList (data.flatMap fun b => [hexDigit (b.toNat / 16), hexDigit (b.toNat % 16)])

theorem hexDigit_injective : ∀ m n : Fin 16, hexDigit m = hexDigit n → m = n := by
  decide

theorem hexPair_injective {a b : UInt8} (hhigh : hexDigit (a.toNat / 16) = hexDigit (b.toNat / 16))
    (hlow : hexDigit (a.toNat % 16) = hexDigit (b.toNat % 16)) : a = b := by
  have ha : a.toNat < 256 := a.toNat_lt
  have hb : b.toNat < 256 := b.toNat_lt
  have high := hexDigit_injective ⟨a.toNat / 16, by omega⟩ ⟨b.toNat / 16, by omega⟩ hhigh
  have low := hexDigit_injective ⟨a.toNat % 16, by omega⟩ ⟨b.toNat % 16, by omega⟩ hlow
  simp only [Fin.mk.injEq] at high low
  exact UInt8.toNat_inj.mp (by omega)

theorem toHexString_injective {a b : Bytes} (h : toHexString a = toHexString b) : a = b := by
  have hchars := String.ofList_injective h
  clear h
  induction a generalizing b with
  | nil =>
    cases b with
    | nil => rfl
    | cons y ys => simp at hchars
  | cons x xs ih =>
    cases b with
    | nil => simp at hchars
    | cons y ys =>
      simp only [List.flatMap_cons, List.cons_append, List.nil_append, List.cons.injEq] at hchars
      rw [hexPair_injective hchars.1 hchars.2.1, ih hchars.2.2]

theorem toHexString_length (data : Bytes) :
    (toHexString data).toList.length = 2 * data.length := by
  rw [toHexString, String.toList_ofList, List.length_flatMap]
  simp [Nat.mul_comm]

def toUpper (s : String) : String := s.map Char.toUpper

/-- `remove_null_terminators`. -/
def removeNullTerminators (s : String) : String :=
  String.ofList (s.toList.takeWhile (· ≠ Char.ofNat 0))

def digitValue (c : Char) : Option Nat :=
  if '0' ≤ c ∧ c ≤ '9' then some (c.toNat - 48)
  else if 'a' ≤ c ∧ c ≤ 'z' then some (c.toNat - 87)
  else if 'A' ≤ c ∧ c ≤ 'Z' then some (c.toNat - 55)
  else none

def isDigitIn (base : Nat) (c : Char) : Bool :=
  match digitValue c with
  | some d => d < base
  | none => false

/-- `isspace` in the C locale. -/
def isSpace (c : Char) : Bool := c = ' ' ∨ (9 ≤ c.toNat ∧ c.toNat ≤ 13)

def unsignedValue (base : Nat) (digits : List Char) : Nat :=
  digits.foldl (fun n c => n * base + (digitValue c).getD 0) 0

/-- A sign is one character at most. -/
def takeSign : List Char → Bool × List Char
  | '-' :: rest => (true, rest)
  | '+' :: rest => (false, rest)
  | cs => (false, cs)

/-- In base 16 the marker `0x` is skipped where a digit follows it. -/
def dropHexMarker (base : Nat) : List Char → List Char
  | '0' :: x :: c :: rest =>
    if base = 16 ∧ (x = 'x' ∨ x = 'X') ∧ isDigitIn 16 c then c :: rest else '0' :: x :: c :: rest
  | cs => cs

/-- `strtol` before it clamps: `none` where no digit is found. -/
def strtol (base : Nat) (s : String) : Option Int :=
  let (negative, cs) := takeSign ((removeNullTerminators s).toList.dropWhile isSpace)
  let digits := (dropHexMarker base cs).takeWhile (isDigitIn base)
  if digits = [] then none
  else some (if negative then -(unsignedValue base digits : Int) else unsignedValue base digits)

/-- The characters of a string two at a time. -/
def pairsOf : List Char → List String
  | [] => []
  | [c] => [String.ofList [c]]
  | c :: d :: rest => String.ofList [c, d] :: pairsOf rest

/-- `hex_string_to_bytes`: a pair that is no number reads as zero. -/
def hexStringToBytes (hex : String) : Bytes :=
  (pairsOf hex.toList).map fun pair => UInt8.ofNat (((strtol 16 pair).getD 0) % 256).toNat

/-- `std::stoi`: throws where there is no number or it does not fit an `int`. -/
def stoi (s : String) : Except Fault Int :=
  match strtol 10 s with
  | none => .error .exception
  | some n => if -2147483648 ≤ n ∧ n ≤ 2147483647 then .ok n else .error .exception

example : hexStringToBytes "0aFf" = [10, 255] := by decide

def lowerHexDigits : List Char :=
  ['0', '1', '2', '3', '4', '5', '6', '7', '8', '9', 'a', 'b', 'c', 'd', 'e', 'f']

/-- The byte of one pair of digits. -/
def pairByte (pair : String) : UInt8 := UInt8.ofNat (((strtol 16 pair).getD 0) % 256).toNat

/-- A digit that `strtol` takes for itself and that is written back in lower case. -/
def readsBack (c : Char) : Bool :=
  c ≠ Char.ofNat 0 && !isSpace c && c ≠ '-' && c ≠ '+' && isDigitIn 16 c &&
    (digitValue c).getD 0 < 16 && hexDigit ((digitValue c).getD 0) = c.toLower

theorem strtol_pair {c d : Char} (hc : readsBack c = true) (hd : readsBack d = true) :
    strtol 16 (String.ofList [c, d]) =
      some (((digitValue c).getD 0 * 16 + (digitValue d).getD 0 : Nat) : Int) := by
  simp only [readsBack, ne_eq, Bool.and_eq_true, decide_eq_true_eq, Bool.not_eq_true'] at hc hd
  obtain ⟨⟨⟨⟨⟨⟨hcnul, hcspace⟩, hminus⟩, hplus⟩, hcdigit⟩, -⟩, -⟩ := hc
  obtain ⟨⟨⟨⟨⟨⟨hdnul, -⟩, -⟩, -⟩, hddigit⟩, -⟩, -⟩ := hd
  have htext : (removeNullTerminators (String.ofList [c, d])).toList = [c, d] := by
    rw [removeNullTerminators, String.toList_ofList, String.toList_ofList]
    simp [hcnul, hdnul]
  have hspace : [c, d].dropWhile isSpace = [c, d] := by
    rw [List.dropWhile_cons_of_neg (by simp [hcspace])]
  have hsign : takeSign [c, d] = (false, [c, d]) := by
    rw [takeSign]
    · exact fun _ heq => hminus (List.cons.inj heq).1
    · exact fun _ heq => hplus (List.cons.inj heq).1
  have hmarker : dropHexMarker 16 [c, d] = [c, d] := by
    rw [dropHexMarker]
    exact fun _ _ _ heq => by cases heq
  have hdigits : [c, d].takeWhile (isDigitIn 16) = [c, d] := by
    simp [hcdigit, hddigit]
  rw [strtol, htext, hspace, hsign]
  simp [hmarker, hdigits, unsignedValue]

theorem pairByte_back {c d : Char} (hc : readsBack c = true) (hd : readsBack d = true) :
    hexDigit ((pairByte (String.ofList [c, d])).toNat / 16) = c.toLower ∧
      hexDigit ((pairByte (String.ofList [c, d])).toNat % 16) = d.toLower := by
  have hread := strtol_pair hc hd
  simp only [readsBack, Bool.and_eq_true, decide_eq_true_eq] at hc hd
  obtain ⟨⟨-, hcsmall⟩, hcback⟩ := hc
  obtain ⟨⟨-, hdsmall⟩, hdback⟩ := hd
  have hbyte : (pairByte (String.ofList [c, d])).toNat =
      (digitValue c).getD 0 * 16 + (digitValue d).getD 0 := by
    rw [pairByte, hread, Option.getD_some, UInt8.toNat_ofNat']
    omega
  have hhigh : (pairByte (String.ofList [c, d])).toNat / 16 = (digitValue c).getD 0 := by omega
  have hlow : (pairByte (String.ofList [c, d])).toNat % 16 = (digitValue d).getD 0 := by omega
  rw [hhigh, hlow]
  exact ⟨hcback, hdback⟩

/-- Digits in pairs are read and written back in lower case. -/
theorem toHexString_pairs {hex : String} (heven : hex.length % 2 = 0)
    (hchars : ∀ c ∈ hex.toList, readsBack c = true) :
    toHexString (hexStringToBytes hex) = hex.map Char.toLower := by
  have hlist (cs : List Char) (hlen : cs.length % 2 = 0) (hcs : ∀ c ∈ cs, readsBack c = true) :
      ((pairsOf cs).map pairByte).flatMap
        (fun b => [hexDigit (b.toNat / 16), hexDigit (b.toNat % 16)]) = cs.map Char.toLower := by
    induction cs using pairsOf.induct with
    | case1 => rfl
    | case2 c => simp at hlen
    | case3 c d rest ih =>
      simp only [List.forall_mem_cons] at hcs
      have hpair := pairByte_back hcs.1 hcs.2.1
      have heven' : rest.length % 2 = 0 := by
        rw [List.length_cons, List.length_cons] at hlen
        omega
      rw [pairsOf, List.map_cons, List.flatMap_cons, hpair.1, hpair.2, ih heven' hcs.2.2]
      rfl
  rw [← String.toList_inj, toHexString, String.toList_ofList, String.toList_map]
  exact hlist hex.toList (by rwa [String.length_toList]) hchars

theorem lowerHexDigits_back : ∀ c ∈ lowerHexDigits, readsBack c = true ∧ c.toLower = c := by
  have hall : (lowerHexDigits.all fun c => readsBack c && c.toLower == c) = true := by decide
  simpa only [List.all_eq_true, Bool.and_eq_true, beq_iff_eq] using hall

/-- Lower-case digits in pairs are read and written back unchanged. -/
theorem hexStringToBytes_lower {hex : String} (heven : hex.length % 2 = 0)
    (hchars : ∀ c ∈ hex.toList, c ∈ lowerHexDigits) : toHexString (hexStringToBytes hex) = hex := by
  rw [toHexString_pairs heven fun c hc => (lowerHexDigits_back c (hchars c hc)).1,
    ← String.toList_inj, String.toList_map]
  calc hex.toList.map Char.toLower
      = hex.toList.map id :=
        List.map_congr_left fun c hc => (lowerHexDigits_back c (hchars c hc)).2
    _ = hex.toList := List.map_id hex.toList

theorem hexDigit_mem : ∀ n : Fin 16, hexDigit n ∈ lowerHexDigits := by
  decide

theorem toHexString_chars (data : Bytes) : ∀ c ∈ (toHexString data).toList, c ∈ lowerHexDigits := by
  intro c hc
  rw [toHexString, String.toList_ofList] at hc
  obtain ⟨b, -, hb⟩ := List.mem_flatMap.mp hc
  have hlt : b.toNat < 256 := b.toNat_lt
  cases List.mem_cons.mp hb with
  | inl hhigh => exact hhigh ▸ hexDigit_mem ⟨b.toNat / 16, by omega⟩
  | inr hlow => exact List.mem_singleton.mp hlow ▸ hexDigit_mem ⟨b.toNat % 16, by omega⟩

theorem hexStringToBytes_toHexString (data : Bytes) :
    hexStringToBytes (toHexString data) = data := by
  refine toHexString_injective (hexStringToBytes_lower ?_ (toHexString_chars data))
  rw [← String.length_toList, toHexString_length]
  omega

def base64Char (n : Nat) : Char :=
  if n < 26 then Char.ofNat (65 + n)
  else if n < 52 then Char.ofNat (71 + n)
  else if n < 62 then Char.ofNat (n - 4)
  else if n = 62 then '+' else '/'

/-- The characters `EVP_EncodeBlock` writes, without the terminating NUL. -/
def encodeBlock : Bytes → List Char
  | [] => []
  | [a] => [base64Char (a.toNat / 4), base64Char (a.toNat % 4 * 16), '=', '=']
  | [a, b] => [base64Char (a.toNat / 4), base64Char (a.toNat % 4 * 16 + b.toNat / 16),
      base64Char (b.toNat % 16 * 4), '=']
  | a :: b :: c :: rest =>
    base64Char (a.toNat / 4) :: base64Char (a.toNat % 4 * 16 + b.toNat / 16) ::
      base64Char (b.toNat % 16 * 4 + c.toNat / 64) :: base64Char (c.toNat % 64) :: encodeBlock rest

/-- `encode_base64`. The length is held in an `int`, and the buffer has twice that length: doubling
it may overflow, and a negative size is none. `EVP_EncodeBlock` also writes a NUL. -/
def encodeBase64 (data : Bytes) : Except Fault String :=
  let len := data.length % 4294967296
  if 1073741824 ≤ len ∧ len < 3221225472 then .error .undefined
  else if 3221225472 ≤ len then .error .exception
  else if 2 * len < 4 * ((len + 2) / 3) + 1 then .error .undefined
  else .ok (String.ofList (encodeBlock (data.take len)))

end AttestationSdk.Text
