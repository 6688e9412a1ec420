import AttestationSdk.CertChain
import AttestationSdk.SpdmLayout

/-! The firmware identifiers of a DICE TcbInfo: which encodings the list walker reads, and that
it stays inside its buffer. -/
namespace AttestationSdk.CertChain
open DerCodec DerReader Buffer ByteLayout ExceptRules

/-- An element `d2i_ASN1_SEQUENCE_ANY` returns, by the member of `ASN1_TYPE`'s union that holds
its value. -/
inductive Asn1Type where
  | boolean (value : UInt8)
  | null
  | object (content : Bytes)
  /-- Every other type is held in an `ASN1_STRING`. -/
  | string (bytes : Bytes)
  deriving Repr, DecidableEq

/-- `value.sequence`, read as a string whatever the element holds: a false boolean and a null
are null pointers, any other boolean and an object are not strings. -/
def Asn1Type.sequence : Asn1Type → Except Fault (Option Bytes)
  | .boolean value => if value = 0 then .ok none else .error .undefined
  | .null => .ok none
  | .object _ => .error .undefined
  | .string bytes => .ok (some bytes)

/-- A sum of `int`s. -/
def intAdd (a b : Nat) : Except Fault Nat :=
  if a + b ≤ 2147483647 then .ok (a + b) else .error .undefined

/-- The loop of `get_fwid_2_23_133_5_4_1_1`, one addition for each of the source. -/
def fwidWalk (data : Bytes) : Nat → Nat → List Bytes → Except Fault (List Bytes × Nat)
  | 0, _, _ => .error .outOfFuel
  | fuel + 1, offset, fwids =>
    if data.length ≤ offset then .ok (fwids, offset) else do
      let offset ← intAdd offset 2
      let offset ← intAdd offset 1
      if !canReadBuffer data offset 1 then internalError else do
        let hashAlgLen ← byteAt data offset
        let offset ← intAdd offset 1
        let offset ← intAdd offset hashAlgLen.toNat
        let offset ← intAdd offset 1
        if !canReadBuffer data offset 1 then internalError else do
          let fwidLen ← byteAt data offset
          let offset ← intAdd offset 1
          if !canReadBuffer data offset fwidLen.toNat then internalError else do
            let fwid ← slice data offset fwidLen.toNat
            let offset ← intAdd offset fwidLen.toNat
            fwidWalk data fuel offset (fwids ++ [fwid])

/-- `get_fwid_2_23_133_5_4_1_1`. -/
def getFwid_2_23_133_5_4_1_1 (d2iSequenceAny : Bytes → Option (List Asn1Type))
    (extensionData : Bytes) : Except Fault Bytes :=
  match d2iSequenceAny extensionData with
  | none => internalError
  | some seq =>
    match seq[6]? with
    | none => internalError
    | some fwidListAsn => do
      match ← fwidListAsn.sequence with
      | none => internalError
      | some fwidListData => do
        let (fwidList, offset) ← fwidWalk fwidListData (fwidListData.length + 1) 2 []
        if offset ≠ fwidListData.length then internalError else
          match fwidList with
          | [] => internalError
          | first :: _ => return first

/-- No sum of the walk over a shorter list leaves the range of `int`. -/
def listBound : Nat := 2147483391

theorem intAdd_of_le {a b : Nat} (h : a + b ≤ 2147483647) : intAdd a b = .ok (a + b) :=
  if_pos h

/-- What one turn reads: the identifier of an entry, if all lengths before it have one octet. -/
structure EntryAt (data : Bytes) (offset : Nat) (fwid : Bytes) (next : Nat) : Prop where
  reads : ∃ hashAlgLen fwidLen : UInt8, data[offset + 3]? = some hashAlgLen ∧
    data[offset + 4 + hashAlgLen.toNat + 1]? = some fwidLen ∧
    FieldAt data (offset + 4 + hashAlgLen.toNat + 1 + 1) fwid ∧ fwid.length = fwidLen.toNat ∧
    next = offset + 4 + hashAlgLen.toNat + 1 + 1 + fwidLen.toNat

theorem byteAt_of_getElem? {data : Bytes} {i : Nat} {b : UInt8} (h : data[i]? = some b) :
    byteAt data i = .ok b := by
  rw [byteAt, h]

theorem lt_of_getElem? {data : Bytes} {i : Nat} {b : UInt8} (h : data[i]? = some b) :
    i < data.length :=
  (List.getElem?_eq_some_iff.mp h).1

theorem EntryAt.bounds {data fwid : Bytes} {offset next : Nat} (h : EntryAt data offset fwid next) :
    offset + 6 ≤ next ∧ next ≤ data.length := by
  obtain ⟨hashAlgLen, fwidLen, -, -, hat, hlength, rfl⟩ := h.reads
  have := hat.le
  omega

theorem fwidLoop_turn {data fwid : Bytes} {offset next : Nat} (h : EntryAt data offset fwid next)
    (fuel : Nat) (fwids : List Bytes) :
    fwidLoop data (fuel + 1) offset fwids = fwidLoop data fuel next (fwids ++ [fwid]) := by
  have hbounds := h.bounds
  obtain ⟨hashAlgLen, fwidLen, halg, hlen, hat, hlength, rfl⟩ := h.reads
  have halgIn := lt_of_getElem? halg
  have hlenIn := lt_of_getElem? hlen
  have hin := hat.le
  have hslice : slice data (offset + 4 + hashAlgLen.toNat + 1 + 1) fwidLen.toNat = .ok fwid :=
    slice_iff.mpr ⟨hat, hlength⟩
  rw [fwidLoop, if_neg (by omega), canReadBuffer_of_le (by omega)]
  simp only [Bool.not_true, Bool.false_eq_true, if_false, byteAt_of_getElem? halg, ok_bind]
  rw [canReadBuffer_of_le (by omega)]
  simp only [Bool.not_true, Bool.false_eq_true, if_false, byteAt_of_getElem? hlen, ok_bind]
  rw [canReadBuffer_of_le (by omega)]
  simp only [Bool.not_true, Bool.false_eq_true, if_false, hslice, ok_bind]

theorem entryAt_of_lengths {data : Bytes} {offset : Nat} {hashAlgLen fwidLen : UInt8}
    (halg : data[offset + 3]? = some hashAlgLen)
    (hlen : data[offset + 4 + hashAlgLen.toNat + 1]? = some fwidLen)
    (hin : offset + 4 + hashAlgLen.toNat + 1 + 1 + fwidLen.toNat ≤ data.length) :
    ∃ fwid next, EntryAt data offset fwid next ∧ fwid.length = fwidLen.toNat := by
  have hlength : ((data.drop (offset + 4 + hashAlgLen.toNat + 1 + 1)).take
      fwidLen.toNat).length = fwidLen.toNat := by
    rw [List.length_take, List.length_drop]
    omega
  exact ⟨_, _, ⟨_, _, halg, hlen, fieldAt_slice hin, hlength, rfl⟩, hlength⟩

/-- A turn reads an entry, or one of its three checks ends the walk. -/
theorem entry_or_error {data : Bytes} {offset : Nat} (hsize : data.length ≤ listBound)
    (hin : offset < data.length) : (∃ fwid next, EntryAt data offset fwid next) ∨
      ∀ fuel fwids, fwidLoop data (fuel + 1) offset fwids = internalError := by
  rw [listBound] at hsize
  by_cases halgIn : offset + 3 < data.length
  · have halg := List.getElem?_eq_getElem halgIn
    have halgLt := data[offset + 3].toNat_lt
    by_cases hlenIn : offset + 4 + data[offset + 3].toNat + 1 < data.length
    · have hlen := List.getElem?_eq_getElem hlenIn
      have hlenLt := data[offset + 4 + data[offset + 3].toNat + 1].toNat_lt
      by_cases hfwid : offset + 4 + data[offset + 3].toNat + 1 + 1 +
          data[offset + 4 + data[offset + 3].toNat + 1].toNat ≤ data.length
      · obtain ⟨fwid, next, hentry, -⟩ := entryAt_of_lengths halg hlen hfwid
        exact .inl ⟨fwid, next, hentry⟩
      · refine .inr fun fuel fwids => ?_
        have hrefuse : canReadBuffer data (offset + 4 + data[offset + 3].toNat + 1 + 1)
            data[offset + 4 + data[offset + 3].toNat + 1].toNat = false := by
          rw [Bool.eq_false_iff]
          exact fun h => hfwid (le_of_canReadBuffer (by rw [sizeModulus]; omega) h)
        rw [fwidLoop, if_neg (by omega), canReadBuffer_of_le (by omega)]
        simp only [Bool.not_true, Bool.false_eq_true, if_false, byteAt_of_getElem? halg, ok_bind]
        rw [canReadBuffer_of_le (by omega)]
        simp only [Bool.not_true, Bool.false_eq_true, if_false, byteAt_of_getElem? hlen, ok_bind,
          hrefuse, Bool.not_false, if_true]
    · refine .inr fun fuel fwids => ?_
      have hrefuse : canReadBuffer data (offset + 4 + data[offset + 3].toNat + 1) 1 = false := by
        rw [Bool.eq_false_iff]
        exact fun h => hlenIn (le_of_canReadBuffer (by rw [sizeModulus]; omega) h)
      rw [fwidLoop, if_neg (by omega), canReadBuffer_of_le (by omega)]
      simp only [Bool.not_true, Bool.false_eq_true, if_false, byteAt_of_getElem? halg, ok_bind,
        hrefuse, Bool.not_false, if_true]
  · refine .inr fun fuel fwids => ?_
    have hrefuse : canReadBuffer data (offset + 3) 1 = false := by
      rw [Bool.eq_false_iff]
      exact fun h => halgIn (le_of_canReadBuffer (by rw [sizeModulus]; omega) h)
    rw [fwidLoop, if_neg (by omega)]
    simp only [hrefuse, Bool.not_false, if_true]

/-- On a list within the bound the walk of the source is the loop without overflow. -/
theorem fwidWalk_eq {data : Bytes} (hsize : data.length ≤ listBound) (fuel offset : Nat)
    (fwids : List Bytes) : fwidWalk data fuel offset fwids = fwidLoop data fuel offset fwids := by
  rw [listBound] at hsize
  induction fuel generalizing offset fwids with
  | zero => rfl
  | succ fuel ih =>
    rw [fwidWalk, fwidLoop]
    by_cases hend : data.length ≤ offset
    · rw [if_pos hend, if_pos hend]
    · rw [if_neg hend, if_neg hend, intAdd_of_le (by omega), ok_bind, intAdd_of_le (by omega),
        ok_bind]
      cases hread : canReadBuffer data (offset + 2 + 1) 1 with
      | false => rfl
      | true =>
        have halgIn := le_of_canReadBuffer (by rw [sizeModulus]; omega) hread
        cases byteAt data (offset + 2 + 1) with
        | error f => rfl
        | ok hashAlgLen =>
          have halgLt := hashAlgLen.toNat_lt
          simp only [ok_bind, Bool.not_true, Bool.false_eq_true, if_false]
          rw [intAdd_of_le (by omega), ok_bind, intAdd_of_le (by omega), ok_bind,
            intAdd_of_le (by omega), ok_bind]
          cases hread' : canReadBuffer data (offset + 4 + hashAlgLen.toNat + 1) 1 with
          | false => rfl
          | true =>
            have hlenIn := le_of_canReadBuffer (by rw [sizeModulus]; omega) hread'
            cases byteAt data (offset + 4 + hashAlgLen.toNat + 1) with
            | error f => rfl
            | ok fwidLen =>
              have hlenLt := fwidLen.toNat_lt
              simp only [ok_bind, Bool.not_true, Bool.false_eq_true, if_false]
              rw [intAdd_of_le (by omega), ok_bind]
              cases slice data (offset + 4 + hashAlgLen.toNat + 1 + 1)
                  fwidLen.toNat with
              | error f => rfl
              | ok fwid =>
                simp only [ok_bind]
                rw [intAdd_of_le (by omega), ok_bind, ih]

/-- The loop ends with what it has read or with an error code. -/
theorem fwidLoop_returns {data : Bytes} (hsize : data.length ≤ listBound) {fuel offset : Nat}
    (hpos : 0 < fuel) (hfuel : data.length < fuel + offset) (fwids : List Bytes) :
    (∃ r, fwidLoop data fuel offset fwids = .ok r) ∨
      fwidLoop data fuel offset fwids = internalError := by
  induction fuel generalizing offset fwids with
  | zero => omega
  | succ fuel ih =>
    by_cases hend : data.length ≤ offset
    · exact .inl ⟨(fwids, offset), by rw [fwidLoop, if_pos hend]⟩
    · cases entry_or_error hsize (Nat.lt_of_not_le hend) with
      | inl hentry =>
        obtain ⟨fwid, next, hentry⟩ := hentry
        have hbounds := hentry.bounds
        rw [fwidLoop_turn hentry]
        exact ih (by omega) (by omega) _
      | inr herror => exact .inr (herror fuel fwids)

/-- What is made of the bytes of the list. -/
def firstFwid (list : Bytes) : Except Fault Bytes := do
  let (fwids, offset) ← fwidLoop list (list.length + 1) 2 []
  if offset ≠ list.length then internalError else
    match fwids with
    | [] => internalError
    | first :: _ => return first

section Extension
variable {d2iSequenceAny : Bytes → Option (List Asn1Type)} {extensionData : Bytes}
  {seq : List Asn1Type}

theorem getFwid_string {list : Bytes} (hseq : d2iSequenceAny extensionData = some seq)
    (hlist : seq[6]? = some (.string list)) (hsize : list.length ≤ listBound) :
    getFwid_2_23_133_5_4_1_1 d2iSequenceAny extensionData = firstFwid list := by
  simp only [getFwid_2_23_133_5_4_1_1, hseq, hlist, Asn1Type.sequence, ok_bind, fwidWalk_eq hsize]
  rfl

/-- The model's function, where the elements are as it takes them to be. -/
theorem getFwidFromTcbInfo_eq {lib : X509Lib} {list : Bytes}
    (hseq : d2iSequenceAny extensionData = some seq) (hlist : seq[6]? = some (.string list))
    (hsize : list.length ≤ listBound) {elements : List (Option Bytes)}
    (hlib : lib.sequenceAny extensionData = some elements)
    (helement : elements[6]? = some (some list)) :
    getFwidFromTcbInfo lib extensionData =
      getFwid_2_23_133_5_4_1_1 d2iSequenceAny extensionData := by
  rw [getFwid_string hseq hlist hsize, getFwidFromTcbInfo, hlib]
  simp only [helement]
  rfl

/-- The element's value is what the union's string member says it is. -/
def Asn1Type.Readable : Asn1Type → Prop
  | .boolean value => value = 0
  | .object _ => False
  | _ => True

/-- The function returns an identifier or its error code. -/
def Returns (x : Except Fault Bytes) : Prop := (∃ fwid, x = .ok fwid) ∨ x = internalError

theorem firstFwid_returns {list : Bytes} (hsize : list.length ≤ listBound) :
    Returns (firstFwid list) := by
  have hloop : (∃ r, fwidLoop list (list.length + 1) 2 [] = .ok r) ∨
      fwidLoop list (list.length + 1) 2 [] = internalError :=
    fwidLoop_returns hsize (by omega) (by omega) []
  rw [firstFwid]
  cases hloop with
  | inr herror => exact .inr (by rw [herror]; rfl)
  | inl hread =>
    obtain ⟨⟨fwids, offset⟩, hread⟩ := hread
    simp only [hread, ok_bind]
    split
    · exact .inr rfl
    · cases fwids with
      | nil => exact .inr rfl
      | cons first fwids => exact .inl ⟨first, rfl⟩

/-- Whatever stands in place of the list, the function stays inside its buffer and ends, unless it
reads a true boolean or an object as a string. -/
theorem getFwid_returns_iff {element : Asn1Type} (hseq : d2iSequenceAny extensionData = some seq)
    (helement : seq[6]? = some element)
    (hsize : ∀ list, element = .string list → list.length ≤ listBound) :
    Returns (getFwid_2_23_133_5_4_1_1 d2iSequenceAny extensionData) ↔ element.Readable := by
  cases element with
  | string list =>
    rw [getFwid_string hseq helement (hsize list rfl)]
    exact iff_of_true (firstFwid_returns (hsize list rfl)) trivial
  | null =>
    refine iff_of_true (.inr ?_) trivial
    simp [getFwid_2_23_133_5_4_1_1, hseq, helement, Asn1Type.sequence]
  | object content =>
    simp [getFwid_2_23_133_5_4_1_1, hseq, helement, Asn1Type.sequence, Returns, Asn1Type.Readable,
      internalError]
  | boolean value =>
    by_cases hvalue : value = 0
    · refine iff_of_true (.inr ?_) hvalue
      simp [getFwid_2_23_133_5_4_1_1, hseq, helement, Asn1Type.sequence, hvalue]
    · simp [getFwid_2_23_133_5_4_1_1, hseq, helement, Asn1Type.sequence, Returns,
        Asn1Type.Readable, internalError, hvalue]

end Extension

/-- An entry of a FWIDLIST: the contents of its object identifier and of its octet string. -/
structure Fwid where
  hashAlg : Bytes
  digest : Bytes
  deriving Repr, DecidableEq

def Fwid.encode (fwid : Fwid) : Bytes := tlv 0x30 (tlv 0x06 fwid.hashAlg ++ tlv 0x04 fwid.digest)

/-- A DICE TcbInfo with its elements [0] to [6] and whatever context-tagged elements follow. -/
structure TcbInfo where
  vendor : Bytes
  model : Bytes
  version : Bytes
  svn : Bytes
  layer : Bytes
  index : Bytes
  firstFwid : Fwid
  moreFwids : List Fwid
  others : List (UInt8 × Bytes)
  deriving Repr, DecidableEq

namespace TcbInfo
variable (info : TcbInfo)

def fwids : List Fwid := info.firstFwid :: info.moreFwids

/-- The contents of the FWIDLIST. -/
def fwidList : Bytes := info.fwids.flatMap Fwid.encode

def elements : List Bytes :=
  [tlv 0x80 info.vendor, tlv 0x81 info.model, tlv 0x82 info.version, tlv 0x83 info.svn,
    tlv 0x84 info.layer, tlv 0x85 info.index, tlv 0xa6 info.fwidList] ++
    info.others.map fun (tag, value) => tlv tag value

def encode : Bytes := tlv 0x30 info.elements.flatten

end TcbInfo

theorem tlv_short {tag : UInt8} {value : Bytes} (h : value.length < 128) :
    tlv tag value = [tag, UInt8.ofNat value.length] ++ value := by
  rw [tlv, lengthOctets_short h]
  rfl

theorem length_lt_tlv (tag : UInt8) (value : Bytes) : value.length + 2 ≤ (tlv tag value).length := by
  have hoctets : 0 < (lengthOctets value.length).length := by
    rw [lengthOctets]
    split <;> simp
  rw [tlv_length]
  omega

theorem toNat_ofNat_of_lt {n : Nat} (h : n < 256) : (UInt8.ofNat n).toNat = n := by
  rw [UInt8.toNat_ofNat']
  omega

/-- An entry is short when all its lengths have one octet. -/
theorem Fwid.encode_short {fwid : Fwid} (h : fwid.encode.length < 128) :
    fwid.hashAlg.length < 128 ∧ fwid.digest.length < 128 ∧ ∃ length : UInt8, fwid.encode =
      [0x30, length, 0x06] ++ ([UInt8.ofNat fwid.hashAlg.length] ++ (fwid.hashAlg ++
        ([0x04] ++ ([UInt8.ofNat fwid.digest.length] ++ fwid.digest)))) := by
  have hseq := length_lt_tlv 0x30 (tlv 0x06 fwid.hashAlg ++ tlv 0x04 fwid.digest)
  have halg := length_lt_tlv 0x06 fwid.hashAlg
  have hdigest := length_lt_tlv 0x04 fwid.digest
  rw [Fwid.encode] at h ⊢
  rw [List.length_append] at hseq
  refine ⟨by omega, by omega,
    UInt8.ofNat (tlv 0x06 fwid.hashAlg ++ tlv 0x04 fwid.digest).length, ?_⟩
  rw [tlv_short (by rw [List.length_append]; omega), tlv_short (by omega), tlv_short (by omega)]
  simp

/-- A short entry is read as it was written. -/
theorem entryAt_encode {data : Bytes} {offset : Nat} {fwid : Fwid}
    (hshort : fwid.encode.length < 128) (hat : FieldAt data offset fwid.encode) :
    EntryAt data offset fwid.digest (offset + fwid.encode.length) := by
  obtain ⟨halg, hdigest, length, hencode⟩ := Fwid.encode_short hshort
  have hlength := congrArg List.length hencode
  rw [hencode, fieldAt_append, fieldAt_append, fieldAt_append, fieldAt_append, fieldAt_append,
    fieldAt_singleton, fieldAt_singleton, fieldAt_singleton] at hat
  obtain ⟨-, halgLen, -, -, hlen, hat⟩ := hat
  simp only [List.length_cons, List.length_nil, List.length_append] at halgLen hlen hat hlength
  have halgNat := toNat_ofNat_of_lt (by omega : fwid.hashAlg.length < 256)
  have hdigestNat := toNat_ofNat_of_lt (by omega : fwid.digest.length < 256)
  refine ⟨_, _, halgLen, ?_, ?_, hdigestNat.symm, ?_⟩
  · rw [halgNat, ← hlen]
  · rw [halgNat]
    exact hat
  · rw [halgNat, hdigestNat, hlength]
    omega

/-- Short entries up to the end are all read. -/
theorem fwidLoop_entries {data : Bytes} (fwids : List Fwid)
    (hshort : ∀ fwid ∈ fwids, fwid.encode.length < 128) :
    ∀ {offset fuel : Nat} (done : List Bytes), fwids.length < fuel →
      FieldAt data offset (fwids.flatMap Fwid.encode) →
      offset + (fwids.flatMap Fwid.encode).length = data.length →
      fwidLoop data fuel offset done = .ok (done ++ fwids.map Fwid.digest, data.length) := by
  induction fwids with
  | nil =>
    intro offset fuel done hfuel _ hend
    obtain ⟨fuel, rfl⟩ := Nat.exists_eq_succ_of_ne_zero (by omega : fuel ≠ 0)
    have hoffset : offset = data.length := by simpa using hend
    rw [fwidLoop, if_pos hoffset.ge, hoffset, List.map_nil, List.append_nil]
  | cons fwid fwids ih =>
    intro offset fuel done hfuel hat hend
    obtain ⟨fuel, rfl⟩ := Nat.exists_eq_succ_of_ne_zero (by omega : fuel ≠ 0)
    rw [List.flatMap_cons, fieldAt_append] at hat
    rw [List.flatMap_cons, List.length_append] at hend
    rw [List.length_cons] at hfuel
    rw [fwidLoop_turn (entryAt_encode (hshort fwid (by simp)) hat.1),
      ih (fun fwid hfwid => hshort fwid (by simp [hfwid])) _ (by omega) hat.2 (by omega)]
    simp

theorem length_le_flatMap (fwids : List Fwid) :
    fwids.length ≤ (fwids.flatMap Fwid.encode).length := by
  induction fwids with
  | nil => simp
  | cons fwid fwids ih =>
    have := length_lt_tlv 0x30 (tlv 0x06 fwid.hashAlg ++ tlv 0x04 fwid.digest)
    rw [List.flatMap_cons, List.length_append, List.length_cons, Fwid.encode]
    omega

/-- A list whose own length has one octet yields its first identifier. -/
theorem firstFwid_short {info : TcbInfo} (h : info.fwidList.length < 128) :
    firstFwid (tlv 0xa6 info.fwidList) = .ok info.firstFwid.digest := by
  have hshort : ∀ fwid ∈ info.fwids, fwid.encode.length < 128 := by
    intro fwid hfwid
    have := (List.sublist_flatten_of_mem (List.mem_map_of_mem (f := Fwid.encode) hfwid)).length_le
    rw [TcbInfo.fwidList, List.flatMap] at h
    omega
  have hdata : tlv 0xa6 info.fwidList =
      [0xa6, UInt8.ofNat info.fwidList.length] ++ info.fwidList := tlv_short h
  have hat : FieldAt (tlv 0xa6 info.fwidList) 2 (info.fwids.flatMap Fwid.encode) :=
    ⟨_, [], by rw [hdata, List.append_nil]; rfl, rfl⟩
  have hlength : (tlv 0xa6 info.fwidList).length = 2 + (info.fwids.flatMap Fwid.encode).length := by
    rw [hdata, List.length_append]
    rfl
  have hfuel := length_le_flatMap info.fwids
  rw [firstFwid, fwidLoop_entries info.fwids hshort [] (by omega) hat hlength.symm, ok_bind]
  simp [TcbInfo.fwids]

/-- What has been read stays in front. -/
theorem fwidLoop_head {data : Bytes} (hsize : data.length ≤ listBound) {first : Bytes}
    {fuel offset : Nat} {done fwids : List Bytes} {offset' : Nat}
    (h : fwidLoop data fuel offset (first :: done) = .ok (fwids, offset')) :
    ∃ rest, fwids = first :: rest := by
  induction fuel generalizing offset done with
  | zero => cases h
  | succ fuel ih =>
    by_cases hend : data.length ≤ offset
    · rw [fwidLoop, if_pos hend] at h
      cases h
      exact ⟨done, rfl⟩
    · cases entry_or_error hsize (Nat.lt_of_not_le hend) with
      | inl hentry =>
        obtain ⟨fwid, next, hentry⟩ := hentry
        rw [fwidLoop_turn hentry] at h
        exact ih h
      | inr herror =>
        rw [herror] at h
        cases h

/-- The identifier returned is the one the first turn reads. -/
theorem firstFwid_eq {list fwid result : Bytes} {next : Nat} (hsize : list.length ≤ listBound)
    (hentry : EntryAt list 2 fwid next) (h : firstFwid list = .ok result) : result = fwid := by
  rw [firstFwid, fwidLoop_turn hentry] at h
  obtain ⟨⟨fwids, offset⟩, hloop, h⟩ := bind_eq_ok.mp h
  obtain ⟨rest, rfl⟩ := fwidLoop_head hsize hloop
  by_cases hend : offset = list.length
  · simp only [hend, ne_eq, not_true_eq_false, if_false] at h
    exact (Except.ok.inj h).symm
  · simp only [ne_eq, hend, not_false_eq_true, if_true] at h
    cases h

/-- An entry with one of the SHA-2 or SHA-3 functions: their object identifiers differ in the
last octet. -/
structure Fwid.IsSha (fwid : Fwid) : Prop where
  hashAlg : ∃ function, fwid.hashAlg =
    [0x60, 0x86, 0x48, 0x01, 0x65, 0x03, 0x04, 0x02, function]
  digest : fwid.digest.length ∈ [28, 32, 48, 64]

theorem Fwid.IsSha.encode_eq {fwid : Fwid} (h : fwid.IsSha) : ∃ function, fwid.encode =
    [0x30, UInt8.ofNat (13 + fwid.digest.length), 0x06, 9, 0x60, 0x86, 0x48, 0x01, 0x65, 0x03,
      0x04, 0x02, function, 0x04, UInt8.ofNat fwid.digest.length] ++ fwid.digest := by
  obtain ⟨function, halg⟩ := h.hashAlg
  have hlength : fwid.digest.length ≤ 64 := by
    have := h.digest
    simp at this
    omega
  have hcontents : tlv 0x06 fwid.hashAlg ++ tlv 0x04 fwid.digest =
      [0x06, 9, 0x60, 0x86, 0x48, 0x01, 0x65, 0x03, 0x04, 0x02, function, 0x04,
        UInt8.ofNat fwid.digest.length] ++ fwid.digest := by
    rw [halg, tlv_short (by simp), tlv_short (by omega)]
    rfl
  have hsum : 13 + fwid.digest.length < 128 := by omega
  refine ⟨function, ?_⟩
  have hnested : (tlv 0x06 fwid.hashAlg ++ tlv 0x04 fwid.digest).length =
      13 + fwid.digest.length := by
    rw [hcontents, List.length_append]
    rfl
  rw [Fwid.encode, tlv_short (by omega), hnested, hcontents]
  rfl

/-- Behind a header of three octets the walk takes the octet 4 of the object identifier for the
length of the digest. -/
theorem entryAt_threeOctets {header length : UInt8} {fwid : Fwid} (h : fwid.IsSha) (rest : Bytes) :
    ∃ read next, EntryAt ([0xa6, header, length] ++ (fwid.encode ++ rest)) 2 read next ∧
      read.length = 4 := by
  obtain ⟨function, hencode⟩ := h.encode_eq
  have hlength : 18 ≤ ([0xa6, header, length] ++ (fwid.encode ++ rest)).length := by
    rw [hencode]
    simp
  have halg : ([0xa6, header, length] ++ (fwid.encode ++ rest))[2 + 3]? = some 6 := by
    rw [hencode]
    rfl
  have hlen : ([0xa6, header, length] ++ (fwid.encode ++ rest))[2 + 4 + 6 + 1]? = some 4 := by
    rw [hencode]
    rfl
  exact entryAt_of_lengths halg hlen hlength

/-- Behind a header of four octets the walk skips the first entry and takes the contents of the
second one for the digest. -/
theorem entryAt_fourOctets {header high low : UInt8} {fwid second : Fwid} (h : fwid.IsSha)
    (hsecond : second.IsSha) (rest : Bytes) :
    ∃ read next,
      EntryAt ([0xa6, header, high, low] ++ (fwid.encode ++ (second.encode ++ rest))) 2 read next ∧
      read.length = 13 + second.digest.length := by
  obtain ⟨function, hencode⟩ := h.encode_eq
  obtain ⟨function', hencode'⟩ := hsecond.encode_eq
  have hfirstLength : fwid.digest.length ≤ 64 := by
    have := h.digest
    simp at this
    omega
  have hsecondLength : second.digest.length ≤ 64 := by
    have := hsecond.digest
    simp at this
    omega
  have halgNat := toNat_ofNat_of_lt (by omega : 13 + fwid.digest.length < 256)
  have hlenNat := toNat_ofNat_of_lt (by omega : 13 + second.digest.length < 256)
  have hfront : fwid.encode.length = 15 + fwid.digest.length := by
    rw [hencode, List.length_append]
    rfl
  have hback : second.encode.length = 15 + second.digest.length := by
    rw [hencode', List.length_append]
    rfl
  have hlength : 2 + 4 + (13 + fwid.digest.length) + 1 + 1 + (13 + second.digest.length) ≤
      ([0xa6, header, high, low] ++ (fwid.encode ++ (second.encode ++ rest))).length := by
    simp only [List.length_append, hfront, hback, List.length_cons, List.length_nil]
    omega
  have halg : ([0xa6, header, high, low] ++ (fwid.encode ++ (second.encode ++ rest)))[2 + 3]? =
      some (UInt8.ofNat (13 + fwid.digest.length)) := by
    rw [hencode]
    rfl
  have hlen : ([0xa6, header, high, low] ++ (fwid.encode ++ (second.encode ++ rest)))[
      2 + 4 + (13 + fwid.digest.length) + 1]? = some (UInt8.ofNat (13 + second.digest.length)) := by
    have hoffset : 2 + 4 + (13 + fwid.digest.length) + 1 = 4 + (fwid.encode.length + 1) := by
      omega
    rw [hoffset, List.getElem?_append_right (by simp), List.getElem?_append_right (by simp),
      hencode']
    simp
  rw [← halgNat] at hlen hlength
  rw [← hlenNat] at hlength ⊢
  exact entryAt_of_lengths halg hlen hlength

theorem Fwid.IsSha.length_ge {fwid : Fwid} (h : fwid.IsSha) : 28 ≤ fwid.digest.length := by
  have := h.digest
  simp at this
  omega

theorem TcbInfo.fwidList_eq (info : TcbInfo) :
    info.fwidList = info.firstFwid.encode ++ info.moreFwids.flatMap Fwid.encode := by
  rw [TcbInfo.fwidList, TcbInfo.fwids, List.flatMap_cons]

theorem Fwid.IsSha.encode_le {fwid : Fwid} (h : fwid.IsSha) : fwid.encode.length ≤ 79 := by
  obtain ⟨function, hencode⟩ := h.encode_eq
  have := h.digest
  rw [hencode]
  simp at this ⊢
  omega

/-- With a length in two octets the walk starts one octet early. -/
theorem firstFwid_twoOctets {info : TcbInfo} (hfirst : info.firstFwid.IsSha)
    (hlong : 128 ≤ info.fwidList.length) (hbound : info.fwidList.length < 256) :
    firstFwid (tlv 0xa6 info.fwidList) ≠ .ok info.firstFwid.digest := by
  intro h
  have hdata : tlv 0xa6 info.fwidList = [0xa6, 0x81, UInt8.ofNat info.fwidList.length] ++
      (info.firstFwid.encode ++ info.moreFwids.flatMap Fwid.encode) := by
    rw [tlv, lengthOctets_one hlong hbound, ← info.fwidList_eq]
    rfl
  have hsize : (tlv 0xa6 info.fwidList).length ≤ listBound := by
    rw [hdata, ← info.fwidList_eq, List.length_append, listBound]
    simp
    omega
  obtain ⟨read, next, hentry, hlength⟩ := entryAt_threeOctets hfirst
    (info.moreFwids.flatMap Fwid.encode)
  rw [← hdata] at hentry
  have hsame := congrArg List.length (firstFwid_eq hsize hentry h)
  have := hfirst.length_ge
  omega

/-- With a length in three octets it starts two octets early. -/
theorem firstFwid_threeOctets {info : TcbInfo} (hsha : ∀ fwid ∈ info.fwids, fwid.IsSha)
    (hlong : 256 ≤ info.fwidList.length) (hbound : info.fwidList.length < 65536) :
    firstFwid (tlv 0xa6 info.fwidList) ≠ .ok info.firstFwid.digest := by
  intro h
  have hfirst := hsha info.firstFwid (by simp [TcbInfo.fwids])
  have hdata : tlv 0xa6 info.fwidList = [0xa6, 0x82, UInt8.ofNat (info.fwidList.length / 256),
      UInt8.ofNat (info.fwidList.length % 256)] ++
      (info.firstFwid.encode ++ info.moreFwids.flatMap Fwid.encode) := by
    rw [tlv, lengthOctets_two hlong hbound, ← info.fwidList_eq]
    rfl
  have hsize : (tlv 0xa6 info.fwidList).length ≤ listBound := by
    rw [hdata, ← info.fwidList_eq, List.length_append, listBound]
    simp
    omega
  have hfirstEncode := hfirst.encode_le
  -- a list of 256 octets has a second entry
  cases hmore : info.moreFwids with
  | nil =>
    have hlength := congrArg List.length info.fwidList_eq
    rw [hmore, List.flatMap_nil, List.append_nil] at hlength
    omega
  | cons second more =>
    have hsecond := hsha second (by simp [TcbInfo.fwids, hmore])
    obtain ⟨read, next, hentry, hlength⟩ := entryAt_fourOctets hfirst hsecond
      (more.flatMap Fwid.encode)
    rw [← List.flatMap_cons, ← hmore, ← hdata] at hentry
    have hsame := congrArg List.length (firstFwid_eq hsize hentry h)
    have hfirstDigest := hfirst.digest
    have hsecondDigest := hsecond.digest
    simp at hfirstDigest hsecondDigest
    omega

/-- A list whose length takes more than one octet does not yield its first identifier. -/
theorem firstFwid_long {info : TcbInfo} (hsha : ∀ fwid ∈ info.fwids, fwid.IsSha)
    (hlong : 128 ≤ info.fwidList.length) (hbound : info.fwidList.length < 65536) :
    firstFwid (tlv 0xa6 info.fwidList) ≠ .ok info.firstFwid.digest := by
  by_cases hone : info.fwidList.length < 256
  · exact firstFwid_twoOctets (hsha info.firstFwid (by simp [TcbInfo.fwids])) hlong hone
  · exact firstFwid_threeOctets hsha (not_lt.mp hone) hbound

/-- The walk is given the seventh element of an encoded TcbInfo. -/
theorem getFwid_encode {d2iSequenceAny : Bytes → Option (List Asn1Type)} {info : TcbInfo}
    (h : d2iSequenceAny info.encode = some (info.elements.map .string))
    (hbound : info.fwidList.length < 65536) :
    getFwid_2_23_133_5_4_1_1 d2iSequenceAny info.encode = firstFwid (tlv 0xa6 info.fwidList) := by
  have hlist : (info.elements.map Asn1Type.string)[6]? =
      some (.string (tlv 0xa6 info.fwidList)) := rfl
  refine getFwid_string h hlist ?_
  have hoctets : (lengthOctets info.fwidList.length).length ≤ 3 := by
    by_cases hshort : info.fwidList.length < 128
    · simp [lengthOctets_short hshort]
    · by_cases hone : info.fwidList.length < 256
      · simp [lengthOctets_one (Nat.le_of_not_lt hshort) hone]
      · simp [lengthOctets_two (Nat.le_of_not_lt hone) hbound]
  rw [tlv_length, listBound]
  omega

/-- Extraction from a DICE TcbInfo, with `d2i_ASN1_SEQUENCE_ANY` returning the full encoding of
its context-tagged elements. The first identifier is returned where the FWIDLIST has fewer than
128 octets; a longer list of SHA-2 or SHA-3 entries does not yield it. Whatever the seventh
element of a sequence is, the walk ends inside its buffer, unless the element is a true boolean
or an object identifier. -/
theorem fwid_of_tcbInfo (d2iSequenceAny : Bytes → Option (List Asn1Type)) (info : TcbInfo)
    (h : d2iSequenceAny info.encode = some (info.elements.map .string)) :
    (info.fwidList.length < 128 →
      getFwid_2_23_133_5_4_1_1 d2iSequenceAny info.encode = .ok info.firstFwid.digest) ∧
    ((∀ fwid ∈ info.fwids, fwid.IsSha) → info.fwidList.length < 65536 →
      (getFwid_2_23_133_5_4_1_1 d2iSequenceAny info.encode = .ok info.firstFwid.digest ↔
        info.fwidList.length < 128)) ∧
    ∀ extensionData seq element, d2iSequenceAny extensionData = some seq →
      seq[6]? = some element → (∀ list, element = .string list → list.length ≤ listBound) →
      (Returns (getFwid_2_23_133_5_4_1_1 d2iSequenceAny extensionData) ↔ element.Readable) := by
  have hshort : info.fwidList.length < 128 →
      getFwid_2_23_133_5_4_1_1 d2iSequenceAny info.encode = .ok info.firstFwid.digest := by
    intro hlength
    rw [getFwid_encode h (by omega), firstFwid_short hlength]
  refine ⟨hshort, fun hsha hbound => ⟨fun hok => ?_, hshort⟩,
    fun extensionData seq element hseq helement hsize => getFwid_returns_iff hseq helement hsize⟩
  rw [getFwid_encode h hbound] at hok
  by_contra hlong
  exact firstFwid_long hsha (Nat.le_of_not_lt hlong) hbound hok

def sha384Entry (octet : UInt8) : Fwid :=
  ⟨[0x60, 0x86, 0x48, 0x01, 0x65, 0x03, 0x04, 0x02, 0x02], List.replicate 48 octet⟩

/-- A TcbInfo with some more entries beside its first. -/
def sampleInfo (more : List Fwid) : TcbInfo :=
  ⟨[0x4e], [0x47], [0x30], [1], [0], [0], sha384Entry 0xd0, more, [(0x87, [0, 0x80, 0, 0, 1])]⟩

def readElements (info : TcbInfo) (extensionData : Bytes) : Option (List Asn1Type) :=
  if extensionData = info.encode then some (info.elements.map .string) else none

theorem readElements_encode (info : TcbInfo) :
    readElements info info.encode = some (info.elements.map .string) :=
  if_pos rfl

theorem fwid_of_tcbInfo_sample :
    getFwid_2_23_133_5_4_1_1 (readElements (sampleInfo [sha384Entry 0]))
      (sampleInfo [sha384Entry 0]).encode = .ok (List.replicate 48 0xd0) :=
  (fwid_of_tcbInfo (readElements (sampleInfo [sha384Entry 0])) (sampleInfo [sha384Entry 0])
    (readElements_encode _)).1 (by decide +kernel)

/-- The walk over three entries, whose list has 189 octets. -/
theorem three_entries_unread : ¬ ∀ (d2iSequenceAny : Bytes → Option (List Asn1Type))
    (info : TcbInfo), d2iSequenceAny info.encode = some (info.elements.map .string) →
    getFwid_2_23_133_5_4_1_1 d2iSequenceAny info.encode = .ok info.firstFwid.digest := by
  intro h
  have hread := h (readElements (sampleInfo [sha384Entry 0, sha384Entry 0]))
    (sampleInfo [sha384Entry 0, sha384Entry 0]) (readElements_encode _)
  rw [getFwid_encode (readElements_encode _) (by decide +kernel)] at hread
  exact absurd hread (by decide +kernel)

end AttestationSdk.CertChain
