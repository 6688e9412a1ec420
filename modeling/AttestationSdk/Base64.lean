import Mathlib.Data.List.Basic
import Mathlib.Tactic.Common

/-! Base64 over characters: encoding, decoding by RFC 4648, and decoding that reads padding
as zero bits. -/
namespace Base64

/-- The character of six bits. -/
def char (n : Nat) : Char :=
  if n < 26 then Char.ofNat (65 + n)
  else if n < 52 then Char.ofNat (71 + n)
  else if n < 62 then Char.ofNat (n - 4)
  else if n = 62 then '+' else '/'

/-- The six bits of a character of the alphabet. -/
def value (c : Char) : Option Nat :=
  if 'A' ≤ c ∧ c ≤ 'Z' then some (c.toNat - 65)
  else if 'a' ≤ c ∧ c ≤ 'z' then some (c.toNat - 71)
  else if '0' ≤ c ∧ c ≤ '9' then some (c.toNat + 4)
  else if c = '+' then some 62
  else if c = '/' then some 63
  else none

theorem value_char : ∀ n : Fin 64, value (char n) = some n.val := by
  decide

theorem char_ne_pad : ∀ n : Fin 64, char n ≠ '=' := by
  decide

theorem value_pad : value '=' = none := by
  decide

/-- Three bytes of four times six bits. -/
def quad (a b c d : Nat) : List UInt8 :=
  [UInt8.ofNat (a * 4 + b / 16), UInt8.ofNat (b % 16 * 16 + c / 4), UInt8.ofNat (c % 4 * 64 + d)]

def encode : List UInt8 → List Char
  | [] => []
  | [a] => [char (a.toNat / 4), char (a.toNat % 4 * 16), '=', '=']
  | [a, b] => [char (a.toNat / 4), char (a.toNat % 4 * 16 + b.toNat / 16),
      char (b.toNat % 16 * 4), '=']
  | a :: b :: c :: rest =>
    char (a.toNat / 4) :: char (a.toNat % 4 * 16 + b.toNat / 16) ::
      char (b.toNat % 16 * 4 + c.toNat / 64) :: char (c.toNat % 64) :: encode rest

/-- Padding stands only at the end of the last group; the bits it cuts off are not looked at. -/
def decode : List Char → Option (List UInt8)
  | [] => some []
  | a :: b :: c :: d :: rest => do
    let x ← value a
    let y ← value b
    if rest = [] ∧ d = '=' then
      if c = '=' then return (quad x y 0 0).take 1
      else do
        let z ← value c
        return (quad x y z 0).take 2
    else do
      let z ← value c
      let w ← value d
      return quad x y z w ++ (← decode rest)
  | _ => none

/-- A pad character reads as zero bits wherever it stands. -/
def zeroValue (c : Char) : Option Nat := if c = '=' then some 0 else value c

/-- Every group gives three bytes. -/
def decodeZero : List Char → Option (List UInt8)
  | [] => some []
  | a :: b :: c :: d :: rest => do
    let x ← zeroValue a
    let y ← zeroValue b
    let z ← zeroValue c
    let w ← zeroValue d
    return quad x y z w ++ (← decodeZero rest)
  | _ => none

example : decode "TWFu".toList = some [77, 97, 110] := by decide

example : decodeZero "TWE=".toList = some [77, 97, 0] := by decide

/-- The text ends in so many pad characters and has no other. -/
def PaddedBy (p : Nat) (text : List Char) : Prop :=
  ∃ body, text = body ++ List.replicate p '=' ∧ '=' ∉ body

theorem paddedBy_nil {p : Nat} : PaddedBy p [] ↔ p = 0 := by
  constructor
  · intro h
    obtain ⟨body, heq, -⟩ := h
    have hlength := congrArg List.length heq
    rw [List.length_nil, List.length_append, List.length_replicate] at hlength
    omega
  · intro h
    exact ⟨[], by rw [h]; rfl, by simp⟩

/-- A character before the padding is none of it. -/
theorem paddedBy_cons {p : Nat} {c : Char} {rest : List Char} (h : p ≤ rest.length) :
    PaddedBy p (c :: rest) ↔ c ≠ '=' ∧ PaddedBy p rest := by
  constructor
  · intro hpadded
    obtain ⟨body, heq, hbody⟩ := hpadded
    cases body with
    | nil =>
      have hlength := congrArg List.length heq
      rw [List.nil_append, List.length_cons, List.length_replicate] at hlength
      omega
    | cons b body =>
      obtain ⟨rfl, hrest⟩ := List.cons.inj heq
      rw [List.mem_cons, not_or] at hbody
      exact ⟨Ne.symm hbody.1, body, hrest, hbody.2⟩
  · intro hpadded
    obtain ⟨hc, body, heq, hbody⟩ := hpadded
    refine ⟨c :: body, congrArg (c :: ·) heq, ?_⟩
    rw [List.mem_cons, not_or]
    exact ⟨Ne.symm hc, hbody⟩

theorem paddedBy_all {text : List Char} :
    PaddedBy text.length text ↔ text = List.replicate text.length '=' := by
  constructor
  · intro h
    obtain ⟨body, heq, -⟩ := h
    have hlength := congrArg List.length heq
    rw [List.length_append, List.length_replicate] at hlength
    have hnil : body = [] := List.length_eq_zero_iff.mp (by omega)
    rwa [hnil, List.nil_append] at heq
  · intro h
    exact ⟨[], h, by simp⟩

theorem value_of_zeroValue {c : Char} {v : Nat} (h : zeroValue c = some v) :
    value c = if c = '=' then none else some v := by
  rw [zeroValue] at h
  split at h
  · next hpad => rw [if_pos hpad, hpad, value_pad]
  · next hpad => rw [if_neg hpad, h]

theorem zeroValue_of_value {c : Char} {v : Nat} (h : value c = some v) : zeroValue c = some v := by
  rw [zeroValue, if_neg, h]
  rintro rfl
  rw [value_pad] at h
  cases h

theorem decodeZero_cons {a b c d : Char} {rest : List Char} {out : List UInt8} :
    decodeZero (a :: b :: c :: d :: rest) = some out ↔ ∃ x y z w tail, zeroValue a = some x ∧
      zeroValue b = some y ∧ zeroValue c = some z ∧ zeroValue d = some w ∧
      decodeZero rest = some tail ∧ out = quad x y z w ++ tail := by
  constructor
  · intro h
    obtain ⟨x, hx, h⟩ := Option.bind_eq_some_iff.mp h
    obtain ⟨y, hy, h⟩ := Option.bind_eq_some_iff.mp h
    obtain ⟨z, hz, h⟩ := Option.bind_eq_some_iff.mp h
    obtain ⟨w, hw, h⟩ := Option.bind_eq_some_iff.mp h
    obtain ⟨tail, htail, h⟩ := Option.bind_eq_some_iff.mp h
    exact ⟨x, y, z, w, tail, hx, hy, hz, hw, htail, (Option.some.inj h).symm⟩
  · intro h
    obtain ⟨x, y, z, w, tail, hx, hy, hz, hw, htail, rfl⟩ := h
    rw [decodeZero, hx, hy, hz, hw, htail]
    rfl

theorem decodeZero_length {text : List Char} {out : List UInt8} (h : decodeZero text = some out) :
    4 * out.length = 3 * text.length := by
  induction text using decodeZero.induct generalizing out with
  | case1 =>
    cases h
    rfl
  | case2 a b c d rest ih =>
    obtain ⟨x, y, z, w, tail, -, -, -, -, htail, rfl⟩ := decodeZero_cons.mp h
    have hrest := ih htail
    simp only [quad, List.length_append, List.length_cons, List.length_nil]
    omega
  | case3 text hnil hcons =>
    rw [decodeZero] at h
    · cases h
    · exact hnil
    · exact hcons

theorem paddedBy_two {p : Nat} {c d : Char} (h : p ≤ 2) : PaddedBy p [c, d] ↔
    (p = 2 ∧ c = '=' ∧ d = '=') ∨ (p = 1 ∧ c ≠ '=' ∧ d = '=') ∨ (p = 0 ∧ c ≠ '=' ∧ d ≠ '=') := by
  have hone : PaddedBy 1 [d] ↔ d = '=' := paddedBy_all.trans (by simp)
  have htwo : PaddedBy 2 [c, d] ↔ c = '=' ∧ d = '=' := paddedBy_all.trans (by simp)
  obtain rfl | rfl | rfl : p = 0 ∨ p = 1 ∨ p = 2 := by omega
  · simp [paddedBy_cons, paddedBy_nil]
  · simp [paddedBy_cons, hone]
  · simp [htwo]

theorem value_eq_some {c : Char} {v v' : Nat} (h : zeroValue c = some v) :
    value c = some v' ↔ c ≠ '=' ∧ v' = v := by
  rw [value_of_zeroValue h]
  by_cases hpad : c = '='
  · simp [hpad]
  · simp [hpad, eq_comm]

/-- The last group, whose padding tells how many of its bytes count. -/
theorem decode_last {a b c d : Char} {x y z w : Nat} {result : List UInt8}
    (ha : zeroValue a = some x) (hb : zeroValue b = some y) (hc : zeroValue c = some z)
    (hd : zeroValue d = some w) : decode [a, b, c, d] = some result ↔
      ∃ p, p ≤ 2 ∧ PaddedBy p [a, b, c, d] ∧ result = (quad x y z w).take (3 - p) := by
  have hpadded {p : Nat} (hp : p ≤ 2) : PaddedBy p [a, b, c, d] ↔ a ≠ '=' ∧ b ≠ '=' ∧
      ((p = 2 ∧ c = '=' ∧ d = '=') ∨ (p = 1 ∧ c ≠ '=' ∧ d = '=') ∨
        (p = 0 ∧ c ≠ '=' ∧ d ≠ '=')) := by
    rw [paddedBy_cons (by simp; omega), paddedBy_cons (by simpa using hp), paddedBy_two hp]
  have hnone (hno : a = '=' ∨ b = '=') :
      ¬ ∃ p, p ≤ 2 ∧ PaddedBy p [a, b, c, d] ∧ result = (quad x y z w).take (3 - p) := by
    intro hsome
    obtain ⟨p, hp, hpad, -⟩ := hsome
    obtain ⟨hnoa, hnob, -⟩ := (hpadded hp).mp hpad
    exact hno.elim hnoa hnob
  have hsome {q : Nat} (hq : q ≤ 2) (hpad : PaddedBy q [a, b, c, d]) :
      (∃ p, p ≤ 2 ∧ PaddedBy p [a, b, c, d] ∧ result = (quad x y z w).take (3 - p)) ↔
        (quad x y z w).take (3 - q) = result := by
    constructor
    · intro h
      obtain ⟨p, hp, hpad', rfl⟩ := h
      have hsame : p = q := by
        have := (hpadded hp).mp hpad'
        have := (hpadded hq).mp hpad
        grind
      rw [hsame]
    · exact fun h => ⟨q, hq, hpad, h.symm⟩
  rw [decode, value_of_zeroValue ha, value_of_zeroValue hb]
  by_cases hpada : a = '='
  · rw [if_pos hpada]
    exact iff_of_false (fun h => by cases h) (hnone (.inl hpada))
  by_cases hpadb : b = '='
  · rw [if_neg hpada, if_pos hpadb]
    exact iff_of_false (fun h => by cases h) (hnone (.inr hpadb))
  rw [if_neg hpada, if_neg hpadb, value_of_zeroValue hc, value_of_zeroValue hd]
  by_cases hpadd : d = '='
  · obtain rfl : w = 0 := by
      rw [hpadd] at hd
      exact (Option.some.inj hd).symm
    by_cases hpadc : c = '='
    · obtain rfl : z = 0 := by
        rw [hpadc] at hc
        exact (Option.some.inj hc).symm
      rw [hsome (q := 2) (Nat.le_refl 2)
        ((hpadded (Nat.le_refl 2)).mpr ⟨hpada, hpadb, .inl ⟨rfl, hpadc, hpadd⟩⟩)]
      simp [hpadc, hpadd]
    · rw [hsome (q := 1) (by decide)
        ((hpadded (by decide)).mpr ⟨hpada, hpadb, .inr (.inl ⟨rfl, hpadc, hpadd⟩)⟩)]
      simp [hpadc, hpadd]
  · by_cases hpadc : c = '='
    · refine iff_of_false (fun h => ?_) fun hex => ?_
      · simp [hpadc, hpadd] at h
      · obtain ⟨p, hp, hpad, -⟩ := hex
        obtain ⟨-, -, hcases⟩ := (hpadded hp).mp hpad
        simp [hpadc, hpadd] at hcases
    · rw [hsome (q := 0) (by decide)
        ((hpadded (by decide)).mpr ⟨hpada, hpadb, .inr (.inr ⟨rfl, hpadc, hpadd⟩)⟩)]
      simp [hpadc, hpadd, decode, quad]

@[simp] theorem quad_length (x y z w : Nat) : (quad x y z w).length = 3 := rfl

/-- A group that others follow has no padding. -/
theorem decode_step {a b c d e : Char} {rest : List Char} {x y z w : Nat} {result : List UInt8}
    (ha : zeroValue a = some x) (hb : zeroValue b = some y) (hc : zeroValue c = some z)
    (hd : zeroValue d = some w) : decode (a :: b :: c :: d :: e :: rest) = some result ↔
      a ≠ '=' ∧ b ≠ '=' ∧ c ≠ '=' ∧ d ≠ '=' ∧
        ∃ more, decode (e :: rest) = some more ∧ result = quad x y z w ++ more := by
  have hnot : ¬ (e :: rest = [] ∧ d = '=') := fun h => by cases h.1
  constructor
  · intro h
    obtain ⟨x', hx, h⟩ := Option.bind_eq_some_iff.mp h
    obtain ⟨y', hy, h⟩ := Option.bind_eq_some_iff.mp h
    rw [if_neg hnot] at h
    obtain ⟨z', hz, h⟩ := Option.bind_eq_some_iff.mp h
    obtain ⟨w', hw, h⟩ := Option.bind_eq_some_iff.mp h
    obtain ⟨more, hmore, h⟩ := Option.bind_eq_some_iff.mp h
    obtain ⟨hpada, rfl⟩ := (value_eq_some ha).mp hx
    obtain ⟨hpadb, rfl⟩ := (value_eq_some hb).mp hy
    obtain ⟨hpadc, rfl⟩ := (value_eq_some hc).mp hz
    obtain ⟨hpadd, rfl⟩ := (value_eq_some hd).mp hw
    exact ⟨hpada, hpadb, hpadc, hpadd, more, hmore, (Option.some.inj h).symm⟩
  · intro h
    obtain ⟨hpada, hpadb, hpadc, hpadd, more, hmore, rfl⟩ := h
    refine Option.bind_eq_some_iff.mpr ⟨x, (value_eq_some ha).mpr ⟨hpada, rfl⟩, ?_⟩
    refine Option.bind_eq_some_iff.mpr ⟨y, (value_eq_some hb).mpr ⟨hpadb, rfl⟩, ?_⟩
    rw [if_neg hnot]
    refine Option.bind_eq_some_iff.mpr ⟨z, (value_eq_some hc).mpr ⟨hpadc, rfl⟩, ?_⟩
    refine Option.bind_eq_some_iff.mpr ⟨w, (value_eq_some hd).mpr ⟨hpadd, rfl⟩, ?_⟩
    exact Option.bind_eq_some_iff.mpr ⟨more, hmore, rfl⟩

/-- Where padding is read as zero bits, the decoding is the same bytes less as many as there
are pad characters, two at most and all at the end. -/
theorem decode_iff {text : List Char} {out result : List UInt8} (h : decodeZero text = some out) :
    decode text = some result ↔
      ∃ p, p ≤ 2 ∧ PaddedBy p text ∧ result = out.take (out.length - p) := by
  induction text using decodeZero.induct generalizing out result with
  | case1 =>
    cases h
    simp [decode, paddedBy_nil, eq_comm]
  | case2 a b c d rest ih =>
    obtain ⟨x, y, z, w, tail, ha, hb, hc, hd, htail, rfl⟩ := decodeZero_cons.mp h
    cases rest with
    | nil =>
      cases htail
      exact decode_last ha hb hc hd
    | cons e rest =>
      have hlength := decodeZero_length htail
      rw [List.length_cons] at hlength
      have hstep : decode (a :: b :: c :: d :: e :: rest) = some result ↔
          a ≠ '=' ∧ b ≠ '=' ∧ c ≠ '=' ∧ d ≠ '=' ∧
            ∃ more, decode (e :: rest) = some more ∧ result = quad x y z w ++ more :=
        decode_step ha hb hc hd
      rw [hstep]
      simp only [ih htail]
      have hlong : 2 ≤ rest.length := by omega
      constructor
      · intro hsome
        obtain ⟨hpada, hpadb, hpadc, hpadd, more, ⟨p, hp, hpad, rfl⟩, rfl⟩ := hsome
        refine ⟨p, hp, ?_, ?_⟩
        · rw [paddedBy_cons (by simp; omega), paddedBy_cons (by simp; omega),
            paddedBy_cons (by simp; omega), paddedBy_cons (by simp; omega)]
          exact ⟨hpada, hpadb, hpadc, hpadd, hpad⟩
        · rw [List.length_append, quad_length, Nat.add_sub_assoc (by omega), ← quad_length x y z w,
            List.take_length_add_append]
      · intro hsome
        obtain ⟨p, hp, hpad, rfl⟩ := hsome
        rw [paddedBy_cons (by simp; omega), paddedBy_cons (by simp; omega),
          paddedBy_cons (by simp; omega), paddedBy_cons (by simp; omega)] at hpad
        obtain ⟨hpada, hpadb, hpadc, hpadd, hpad⟩ := hpad
        refine ⟨hpada, hpadb, hpadc, hpadd, _, ⟨p, hp, hpad, rfl⟩, ?_⟩
        rw [List.length_append, quad_length, Nat.add_sub_assoc (by omega), ← quad_length x y z w,
          List.take_length_add_append]
  | case3 text hnil hcons =>
    rw [decodeZero] at h
    · cases h
    · exact hnil
    · exact hcons

/-- A character of the alphabet or of the padding. -/
def IsCode (c : Char) : Prop := (zeroValue c).isSome = true

instance (c : Char) : Decidable (IsCode c) := inferInstanceAs (Decidable (_ = true))

theorem isCode_char {n : Nat} (h : n < 64) : IsCode (char n) := by
  rw [IsCode, zeroValue, if_neg (char_ne_pad ⟨n, h⟩), value_char ⟨n, h⟩]
  rfl

theorem isCode_pad : IsCode '=' := rfl

/-- Text of these characters in groups of four can be read. -/
theorem decodeZero_succeeds {text : List Char} (hcodes : ∀ c ∈ text, IsCode c)
    (hlength : text.length % 4 = 0) : ∃ out, decodeZero text = some out := by
  induction text using decodeZero.induct with
  | case1 => exact ⟨[], rfl⟩
  | case2 a b c d rest ih =>
    simp only [List.forall_mem_cons] at hcodes
    obtain ⟨ha, hb, hc, hd, hrest⟩ := hcodes
    simp only [List.length_cons] at hlength
    obtain ⟨tail, htail⟩ := ih hrest (by omega)
    exact ⟨_, decodeZero_cons.mpr ⟨_, _, _, _, tail, (Option.some_get ha).symm,
      (Option.some_get hb).symm, (Option.some_get hc).symm, (Option.some_get hd).symm, htail, rfl⟩⟩
  | case3 text hnil hcons =>
    match text, hnil, hcons with
    | [], hnil, _ => exact absurd rfl hnil
    | [_], _, _ | [_, _], _, _ | [_, _, _], _, _ =>
      simp only [List.length_cons, List.length_nil] at hlength
      omega
    | a :: b :: c :: d :: rest, _, hcons => exact absurd rfl (hcons a b c d rest)

theorem decodeZero_codes {text : List Char} {out : List UInt8} (h : decodeZero text = some out) :
    ∀ c ∈ text, IsCode c := by
  induction text using decodeZero.induct generalizing out with
  | case1 => simp
  | case2 a b c d rest ih =>
    obtain ⟨x, y, z, w, tail, ha, hb, hc, hd, htail, -⟩ := decodeZero_cons.mp h
    simp only [List.forall_mem_cons, IsCode, ha, hb, hc, hd]
    exact ⟨rfl, rfl, rfl, rfl, ih htail⟩
  | case3 text hnil hcons =>
    rw [decodeZero] at h
    · cases h
    · exact hnil
    · exact hcons

theorem encode_codes (data : List UInt8) :
    (∀ c ∈ encode data, IsCode c) ∧ (encode data).length = 4 * ((data.length + 2) / 3) := by
  induction data using encode.induct with
  | case1 => simp [encode]
  | case2 a =>
    have ha := a.toNat_lt
    simp only [encode, List.forall_mem_cons, List.length_cons, List.length_nil]
    exact ⟨⟨isCode_char (by omega), isCode_char (by omega), isCode_pad, isCode_pad, by simp⟩,
      by simp⟩
  | case3 a b =>
    have ha := a.toNat_lt
    have hb := b.toNat_lt
    simp only [encode, List.forall_mem_cons, List.length_cons, List.length_nil]
    exact ⟨⟨isCode_char (by omega), isCode_char (by omega), isCode_char (by omega), isCode_pad,
      by simp⟩, by simp⟩
  | case4 a b c rest ih =>
    have ha := a.toNat_lt
    have hb := b.toNat_lt
    have hc := c.toNat_lt
    simp only [encode, List.forall_mem_cons, List.length_cons]
    refine ⟨⟨isCode_char (by omega), isCode_char (by omega), isCode_char (by omega),
      isCode_char (by omega), ih.1⟩, ?_⟩
    rw [ih.2]
    omega

theorem value_char_lt {n : Nat} (h : n < 64) : value (char n) = some n := value_char ⟨n, h⟩

section Bytes
variable {x y z w : Nat} {a b c : UInt8}

theorem quad_take_one (ha : x * 4 + y / 16 = a.toNat) : (quad x y z w).take 1 = [a] := by
  rw [quad, ha, UInt8.ofNat_toNat]
  rfl

theorem quad_take_two (ha : x * 4 + y / 16 = a.toNat) (hb : y % 16 * 16 + z / 4 = b.toNat) :
    (quad x y z w).take 2 = [a, b] := by
  rw [quad, ha, hb, UInt8.ofNat_toNat, UInt8.ofNat_toNat]
  rfl

theorem quad_eq (ha : x * 4 + y / 16 = a.toNat) (hb : y % 16 * 16 + z / 4 = b.toNat)
    (hc : z % 4 * 64 + w = c.toNat) : quad x y z w = [a, b, c] := by
  rw [quad, ha, hb, hc, UInt8.ofNat_toNat, UInt8.ofNat_toNat, UInt8.ofNat_toNat]

end Bytes

/-- What is encoded is decoded to the same bytes. -/
theorem decode_encode (data : List UInt8) : decode (encode data) = some data := by
  induction data using encode.induct with
  | case1 => rfl
  | case2 a =>
    have ha := a.toNat_lt
    refine Option.bind_eq_some_iff.mpr ⟨_, value_char_lt (by omega), ?_⟩
    refine Option.bind_eq_some_iff.mpr ⟨_, value_char_lt (by omega), ?_⟩
    exact congrArg some (quad_take_one (by omega))
  | case3 a b =>
    have ha := a.toNat_lt
    have hb := b.toNat_lt
    have hpad : char (b.toNat % 16 * 4) ≠ '=' := char_ne_pad ⟨b.toNat % 16 * 4, by omega⟩
    refine Option.bind_eq_some_iff.mpr ⟨_, value_char_lt (by omega), ?_⟩
    refine Option.bind_eq_some_iff.mpr ⟨_, value_char_lt (by omega), ?_⟩
    rw [if_pos ⟨rfl, rfl⟩, if_neg hpad]
    refine Option.bind_eq_some_iff.mpr ⟨_, value_char_lt (by omega), ?_⟩
    exact congrArg some (quad_take_two (by omega) (by omega))
  | case4 a b c rest ih =>
    have ha := a.toNat_lt
    have hb := b.toNat_lt
    have hc := c.toNat_lt
    have hpad : char (c.toNat % 64) ≠ '=' := char_ne_pad ⟨c.toNat % 64, by omega⟩
    refine Option.bind_eq_some_iff.mpr ⟨_, value_char_lt (by omega), ?_⟩
    refine Option.bind_eq_some_iff.mpr ⟨_, value_char_lt (by omega), ?_⟩
    rw [if_neg fun h => hpad h.2]
    refine Option.bind_eq_some_iff.mpr ⟨_, value_char_lt (by omega), ?_⟩
    refine Option.bind_eq_some_iff.mpr ⟨_, value_char_lt (by omega), ?_⟩
    refine Option.bind_eq_some_iff.mpr ⟨rest, ih, ?_⟩
    exact congrArg (fun group => some (group ++ rest))
      (quad_eq (a := a) (b := b) (c := c) (by omega) (by omega) (by omega))

end Base64
