import AttestationSdk.Error
import AttestationSdk.DerCodec
import AttestationSdk.ExceptRules

/-! The strict DER reader of `nv_ocsp.cpp`, with every buffer access checked. -/
namespace AttestationSdk.DerReader
open DerCodec ExceptRules

def byteAt (data : Bytes) (i : Nat) : Except Fault UInt8 :=
  match data[i]? with
  | some b => .ok b
  | none => .error .undefined

/-- `std::string::substr`: throws past the end, otherwise cuts what is there. -/
def substr (data : Bytes) (pos len : Nat) : Except Fault Bytes :=
  if data.length < pos then .error .exception else .ok ((data.drop pos).take len)

/-- The value of the first `i` length octets, most significant first. -/
def lengthValue (data : Bytes) (offset : Nat) : Nat → Except Fault Nat
  | 0 => .ok 0
  | i + 1 => do
    let value ← lengthValue data offset i
    let b ← byteAt data (offset + i)
    return (value <<< 8) ||| b.toNat

/-- `none` is the reader returning false; otherwise the new offset and the length. -/
def readDerLength (data : Bytes) (offset : Nat) : Except Fault (Option (Nat × Nat)) :=
  if data.length ≤ offset then .ok none else do
    let first ← byteAt data offset
    if first < 0x80 then return some (offset + 1, first.toNat) else
      let count := (first &&& 0x7f).toNat
      if count = 0 ∨ 2 < count ∨ data.length < offset + 1 + count then return none else do
        let value ← lengthValue data (offset + 1) count
        let lead ← byteAt data (offset + 1)
        if lead = 0 ∨ value < 0x80 then return none
        else return some (offset + 1 + count, value)

/-- New offset, start and length of the value of one item inside `limit`. -/
def readDerTlv (data : Bytes) (offset limit : Nat) (tag : UInt8) :
    Except Fault (Option (Nat × Nat × Nat)) :=
  if limit ≤ offset then .ok none else do
    let b ← byteAt data offset
    if b ≠ tag then return none else
      match ← readDerLength data (offset + 1) with
      | none => return none
      | some (start, length) =>
        if limit < start ∨ limit - start < length then return none
        else return some (start + length, start, length)

theorem byteAt_drop (data : Bytes) (offset i : Nat) (b : UInt8)
    (h : (data.drop offset)[i]? = some b) : byteAt data (offset + i) = .ok b := by
  rw [List.getElem?_drop] at h
  simp [byteAt, h]

theorem byteAt_cons (data : Bytes) (offset : Nat) (b : UInt8) (rest : Bytes)
    (h : data.drop offset = b :: rest) : byteAt data offset = .ok b :=
  byteAt_drop data offset 0 b (by simp [h])

theorem lengthValue_one (data : Bytes) (offset : Nat) (a : UInt8) (rest : Bytes)
    (h : data.drop offset = a :: rest) : lengthValue data offset 1 = .ok a.toNat := by
  simp [lengthValue, byteAt_cons data offset a rest h]

theorem lengthValue_two (data : Bytes) (offset : Nat) (a b : UInt8) (rest : Bytes)
    (h : data.drop offset = a :: b :: rest) :
    lengthValue data offset 2 = .ok (a.toNat * 256 + b.toNat) := by
  have hb : byteAt data (offset + 1) = .ok b := byteAt_drop data offset 1 b (by simp [h])
  have hor : a.toNat <<< 8 + b.toNat = a.toNat <<< 8 ||| b.toNat :=
    Nat.shiftLeft_add_eq_or_of_lt b.toNat_lt a.toNat
  rw [lengthValue, lengthValue_one data offset a (b :: rest) h]
  simp only [hb, ok_bind, pure_eq_ok]
  rw [← hor, Nat.shiftLeft_eq]

theorem longForm_count (first : UInt8) (h : ¬ first < 0x80) :
    (first &&& 0x7f).toNat = first.toNat - 128 := by
  have hm := Nat.and_two_pow_sub_one_eq_mod first.toNat 7
  have hlt := first.toNat_lt
  have hge : 128 ≤ first.toNat := by simpa [UInt8.lt_iff_toNat_lt] using h
  rw [UInt8.toNat_and]
  change first.toNat &&& (2 ^ 7 - 1) = _
  omega

/-- What the reader accepts at the head of a byte list: the length and how many
octets spell it. -/
def lengthForm : Bytes → Option (Nat × Nat)
  | [] => none
  | first :: rest =>
    if first.toNat < 128 then some (first.toNat, 1)
    else if first.toNat = 129 then match rest with
      | a :: _ => if a.toNat < 128 then none else some (a.toNat, 2)
      | [] => none
    else if first.toNat = 130 then match rest with
      | a :: b :: _ => if a.toNat = 0 then none else some (a.toNat * 256 + b.toNat, 3)
      | _ => none
    else none

theorem readDerLength_eq (data : Bytes) (offset : Nat) :
    readDerLength data offset =
      .ok ((lengthForm (data.drop offset)).map fun (n, k) => (offset + k, n)) := by
  by_cases hlen : data.length ≤ offset
  · simp [readDerLength, hlen, List.drop_eq_nil_of_le hlen, lengthForm]
  · obtain ⟨first, rest, hd⟩ : ∃ first rest, data.drop offset = first :: rest :=
      List.exists_cons_of_ne_nil (by simpa using hlen)
    have hr : data.drop (offset + 1) = rest := by
      rw [← List.drop_drop, hd]; rfl
    have hsize : data.length = offset + 1 + rest.length := by
      have := congrArg List.length hd
      simp at this; omega
    have hiff : first < 0x80 ↔ first.toNat < 128 := UInt8.lt_iff_toNat_lt
    simp only [readDerLength, if_neg hlen, byteAt_cons data offset first rest hd, hd, lengthForm,
      ok_bind, pure_eq_ok, hiff]
    by_cases hs : first.toNat < 128
    · simp [hs]
    · rw [if_neg hs, if_neg hs, longForm_count first (by rwa [hiff])]
      by_cases h1 : first.toNat = 129
      · cases rest with
        | nil => simp [h1, hsize]
        | cons a rest =>
          have hlt : ¬ data.length < offset + 1 + 1 := by simp at hsize; omega
          have ha0 : a = 0 → a.toNat < 128 := by rintro rfl; simp
          simp only [h1, byteAt_cons data (offset + 1) a rest hr, hlt,
            lengthValue_one data (offset + 1) a rest hr, Nat.reduceSub, ok_bind]
          by_cases hm : a.toNat < 128 <;> simp [hm]
          exact fun h => hm (ha0 h)
      · by_cases h2 : first.toNat = 130
        · match rest with
          | [] => simp [h2, hsize]
          | [a] => simp [h2, hsize]
          | a :: b :: rest =>
            have hlt : ¬ data.length < offset + 1 + 2 := by simp at hsize; omega
            have ha0 : a = 0 ↔ a.toNat = 0 := by simp [← UInt8.toNat_inj]
            simp only [h2, byteAt_cons data (offset + 1) a (b :: rest) hr, hlt, ha0,
              lengthValue_two data (offset + 1) a b rest hr, Nat.reduceSub, ok_bind]
            by_cases hz : a.toNat = 0
            · simp [hz]
            · have hv : ¬ a.toNat * 256 + b.toNat < 128 := by omega
              simp [hz, hv]
        · have hc : first.toNat - 128 = 0 ∨ 2 < first.toNat - 128 := by omega
          simp [h1, h2]
          omega

theorem lengthForm_octets (n : Nat) (hn : n < 65536) (rest : Bytes) :
    lengthForm (lengthOctets n ++ rest) = some (n, (lengthOctets n).length) := by
  by_cases h1 : n < 128
  · have hm : n % 256 = n := by omega
    simp [lengthOctets_short h1, lengthForm, hm, h1]
  · by_cases h2 : n < 256
    · have hm : n % 256 = n := by omega
      simp [lengthOctets_one (by omega) h2, lengthForm, hm, h1]
    · have hd : n / 256 % 256 = n / 256 := by omega
      have hz : ¬ n / 256 = 0 := by omega
      have hs : n / 256 * 256 + n % 256 = n := by omega
      simp [lengthOctets_two (by omega) hn, lengthForm, hd, hz, hs]

theorem octets_of_lengthForm (s : Bytes) (n k : Nat) (h : lengthForm s = some (n, k)) :
    n < 65536 ∧ k = (lengthOctets n).length ∧ ∃ rest, s = lengthOctets n ++ rest := by
  cases s with
  | nil => simp [lengthForm] at h
  | cons first rest =>
    have hf := first.toNat_lt
    simp only [lengthForm] at h
    split at h
    · rename_i hs
      obtain ⟨rfl, rfl⟩ : first.toNat = n ∧ 1 = k := by simpa using h
      rw [lengthOctets_short hs]
      exact ⟨by omega, rfl, rest, by simp⟩
    · split at h
      · rename_i h1
        have hfirst : first = 0x81 := UInt8.toNat_inj.mp h1
        cases rest with
        | nil => simp at h
        | cons a rest =>
          have ha := a.toNat_lt
          simp only at h
          split at h
          · simp at h
          · obtain ⟨rfl, rfl⟩ : a.toNat = n ∧ 2 = k := by simpa using h
            rw [lengthOctets_one (by omega) ha]
            exact ⟨by omega, rfl, rest, by simp [hfirst]⟩
      · split at h
        · rename_i h2
          have hfirst : first = 0x82 := UInt8.toNat_inj.mp h2
          match rest with
          | [] => simp at h
          | [a] => simp at h
          | a :: b :: rest =>
            have ha := a.toNat_lt
            have hb := b.toNat_lt
            simp only at h
            split at h
            · simp at h
            · obtain ⟨rfl, rfl⟩ : a.toNat * 256 + b.toNat = n ∧ 3 = k := by simpa using h
              have hdiv : (a.toNat * 256 + b.toNat) / 256 = a.toNat := by omega
              have hmod : (a.toNat * 256 + b.toNat) % 256 = b.toNat := by omega
              rw [lengthOctets_two (by omega) (by omega), hdiv, hmod]
              exact ⟨by omega, rfl, rest, by simp [hfirst]⟩
        · simp at h

/-- `v` stands as one whole item at the offset and ends inside the limit. -/
def ItemAt (data : Bytes) (offset limit : Nat) (tag : UInt8) (v : Bytes) : Prop :=
  v.length < 65536 ∧ offset + (tlv tag v).length ≤ limit ∧
    ∃ rest, data.drop offset = tlv tag v ++ rest

theorem readDerTlv_eq (data : Bytes) (offset limit : Nat) (tag : UInt8)
    (hl : limit ≤ data.length) (ho : offset < limit) :
    ∃ b rest, data.drop offset = b :: rest ∧ readDerTlv data offset limit tag =
      .ok (if b ≠ tag then none else (lengthForm rest).bind fun (n, k) =>
        if limit < offset + 1 + k ∨ limit - (offset + 1 + k) < n then none
        else some (offset + 1 + k + n, offset + 1 + k, n)) := by
  obtain ⟨b, rest, hd⟩ : ∃ b rest, data.drop offset = b :: rest :=
    List.exists_cons_of_ne_nil (by simp; omega)
  have hr : data.drop (offset + 1) = rest := by
    rw [← List.drop_drop, hd]; rfl
  refine ⟨b, rest, hd, ?_⟩
  simp only [readDerTlv, if_neg (Nat.not_le.mpr ho), byteAt_cons data offset b rest hd,
    readDerLength_eq, hr, ok_bind, pure_eq_ok]
  by_cases hb : b ≠ tag
  · simp [hb]
  · cases hf : lengthForm rest with
    | none => simp [hb]
    | some p => simp only [if_neg hb, Option.map_some, Option.bind_some]; split <;> rfl

theorem readDerTlv_item {data : Bytes} {offset limit : Nat} {tag : UInt8} {v : Bytes}
    (hl : limit ≤ data.length) (h : ItemAt data offset limit tag v) :
    readDerTlv data offset limit tag = .ok (some (offset + (tlv tag v).length,
      offset + 1 + (lengthOctets v.length).length, v.length)) := by
  obtain ⟨hv, hend, rest, hd⟩ := h
  have hlen := tlv_length tag v
  obtain ⟨b, tail, hd', he⟩ := readDerTlv_eq data offset limit tag hl (by omega)
  rw [hd] at hd'
  simp only [tlv, List.cons_append, List.cons.injEq, List.append_assoc] at hd'
  obtain ⟨rfl, rfl⟩ := hd'
  have hin : ¬ (limit < offset + 1 + (lengthOctets v.length).length ∨
      limit - (offset + 1 + (lengthOctets v.length).length) < v.length) := by omega
  rw [he, lengthForm_octets v.length hv]
  simp only [Option.bind_some, ne_eq, not_true_eq_false, if_false, if_neg hin, hlen]
  simp; omega

theorem item_of_readDerTlv {data : Bytes} {offset limit : Nat} {tag : UInt8}
    {next start length : Nat} (hl : limit ≤ data.length)
    (h : readDerTlv data offset limit tag = .ok (some (next, start, length))) :
    ∃ v, ItemAt data offset limit tag v ∧ next = offset + (tlv tag v).length ∧
      start = offset + 1 + (lengthOctets v.length).length ∧ length = v.length := by
  have ho : offset < limit := by
    by_contra hc
    simp [readDerTlv, Nat.not_lt.mp hc] at h
  obtain ⟨b, tail, hd, he⟩ := readDerTlv_eq data offset limit tag hl ho
  rw [he] at h
  by_cases hb : b ≠ tag
  · simp [hb] at h
  obtain rfl : b = tag := by simpa using hb
  cases hf : lengthForm tail with
  | none => simp [hf] at h
  | some p =>
    obtain ⟨n, k⟩ := p
    obtain ⟨hn, rfl, rest, rfl⟩ := octets_of_lengthForm tail n k hf
    simp only [hf, Option.bind_some, ne_eq, not_true_eq_false, if_false] at h
    split at h
    · simp at h
    · rename_i hin
      simp only [Except.ok.injEq, Option.some.injEq, Prod.mk.injEq] at h
      obtain ⟨rfl, rfl, rfl⟩ := h
      have hdl := congrArg List.length hd
      simp only [List.length_drop, List.length_cons, List.length_append] at hdl
      have hv : (rest.take n).length = n := by simp; omega
      have hlen := tlv_length b (rest.take n)
      rw [hv] at hlen
      refine ⟨rest.take n, ⟨by omega, by omega, rest.drop n, ?_⟩, by omega, by rw [hv], hv.symm⟩
      rw [hd, tlv, hv]
      simp

theorem readDerTlv_safe (data : Bytes) (offset limit : Nat) (tag : UInt8)
    (hl : limit ≤ data.length) : ∃ r, readDerTlv data offset limit tag = .ok r := by
  by_cases ho : offset < limit
  · obtain ⟨_, _, _, he⟩ := readDerTlv_eq data offset limit tag hl ho
    exact ⟨_, he⟩
  · exact ⟨none, by simp [readDerTlv, Nat.not_lt.mp ho]⟩

theorem ItemAt.value {data : Bytes} {offset limit : Nat} {tag : UInt8} {v : Bytes}
    (h : ItemAt data offset limit tag v) :
    data.drop offset = tlv tag v ++ data.drop (offset + (tlv tag v).length) ∧
      (data.drop (offset + 1 + (lengthOctets v.length).length)).take v.length = v := by
  obtain ⟨_, _, rest, hd⟩ := h
  constructor
  · rw [← List.drop_drop, hd]
    simp
  · have hs : data.drop (offset + 1 + (lengthOctets v.length).length) = v ++ rest := by
      rw [Nat.add_assoc, ← List.drop_drop, hd]
      have hk : 1 + (lengthOctets v.length).length = (tag :: lengthOctets v.length).length := by
        simp; omega
      rw [hk, tlv, ← List.cons_append, List.append_assoc, List.drop_left]
    rw [hs, List.take_left]

theorem substr_item {data : Bytes} {offset limit : Nat} {tag : UInt8} {v : Bytes}
    (hl : limit ≤ data.length) (h : ItemAt data offset limit tag v) :
    substr data (offset + 1 + (lengthOctets v.length).length) v.length = .ok v := by
  have hlen := tlv_length tag v
  have hend := h.2.1
  rw [substr, if_neg (by omega), h.value.2]

/-- Where an item ends, the bytes after it begin. -/
theorem ItemAt.drop_start {data : Bytes} {offset limit : Nat} {tag : UInt8} {v : Bytes}
    (h : ItemAt data offset limit tag v) :
    data.drop (offset + 1 + (lengthOctets v.length).length) =
      v ++ data.drop (offset + (tlv tag v).length) := by
  have hlen := tlv_length tag v
  have hsplit := (List.take_append_drop v.length
    (data.drop (offset + 1 + (lengthOctets v.length).length))).symm
  rw [h.value.2, List.drop_drop] at hsplit
  rw [hsplit, hlen]
  congr 2; omega

end AttestationSdk.DerReader
