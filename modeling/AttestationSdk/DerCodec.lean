import Mathlib.Data.Nat.Digits.Lemmas

/-! Distinguished encoding of tag-length-value items over byte lists: lengths
below 128 take one octet, longer ones a count octet and the minimal big-endian
digits. Nothing here knows which items a format nests. -/
namespace DerCodec

/-- Big-endian base-256 digits, none for zero. -/
def bigEndian (n : Nat) : List UInt8 :=
  ((Nat.digits 256 n).map UInt8.ofNat).reverse

def lengthOctets (n : Nat) : List UInt8 :=
  if n < 128 then [UInt8.ofNat n]
  else UInt8.ofNat (128 + (bigEndian n).length) :: bigEndian n

def tlv (tag : UInt8) (value : List UInt8) : List UInt8 :=
  tag :: (lengthOctets value.length ++ value)

def tlvs (tag : UInt8) (values : List (List UInt8)) : List UInt8 :=
  values.flatMap (tlv tag)

theorem lengthOctets_short {n : Nat} (h : n < 128) : lengthOctets n = [UInt8.ofNat n] := by
  simp [lengthOctets, h]

theorem lengthOctets_one {n : Nat} (h : 128 ≤ n) (h' : n < 256) :
    lengthOctets n = [0x81, UInt8.ofNat n] := by
  have hd : Nat.digits 256 n = [n] := Nat.digits_of_lt 256 n (by omega) h'
  simp [lengthOctets, bigEndian, hd, Nat.not_lt.mpr h]

theorem lengthOctets_two {n : Nat} (h : 256 ≤ n) (h' : n < 65536) :
    lengthOctets n = [0x82, UInt8.ofNat (n / 256), UInt8.ofNat (n % 256)] := by
  have hq : 0 < n / 256 := Nat.div_pos h (by omega)
  have hd : Nat.digits 256 n = [n % 256, n / 256] := by
    rw [Nat.digits_def' (by omega) (by omega),
      Nat.digits_of_lt 256 (n / 256) (by omega) (by omega)]
  have hs : ¬ n < 128 := by omega
  simp [lengthOctets, bigEndian, hd, hs]

theorem tlv_length (tag : UInt8) (v : List UInt8) :
    (tlv tag v).length = 1 + (lengthOctets v.length).length + v.length := by
  simp [tlv]; omega

theorem length_le_tlvs (tag : UInt8) (vs : List (List UInt8)) : vs.length ≤ (tlvs tag vs).length := by
  induction vs with
  | nil => simp
  | cons v vs ih =>
    have hv := tlv_length tag v
    simp only [tlvs, List.flatMap_cons, List.length_append, List.length_cons] at ih ⊢
    omega

end DerCodec
