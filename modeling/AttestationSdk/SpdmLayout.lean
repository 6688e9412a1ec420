import AttestationSdk.Spdm
import AttestationSdk.ByteLayout

/-! The wire layout of SPDM messages, and that parsing accepts exactly what is laid out so. -/
namespace AttestationSdk.Buffer
open ByteLayout DerReader ExceptRules

/-- The failures of code that stays inside its buffers. -/
abbrev OnlyCodes {α : Type} (x : Except Fault α) : Prop := FailsOnly (fun f => ∃ e, f = .code e) x

theorem onlyCodes_require (cond : Bool) (e : Error) : OnlyCodes (require cond e) := by
  intro f h
  cases cond with
  | true => simp [require] at h
  | false => exact ⟨e, by simpa [require] using h.symm⟩

/-- The `width` lowest bytes of a number, the lowest first. -/
def leBytes : Nat → Nat → Bytes
  | 0, _ => []
  | width + 1, n => UInt8.ofNat n :: leBytes width (n / 256)

@[simp] theorem leBytes_length (width n : Nat) : (leBytes width n).length = width := by
  induction width generalizing n with
  | zero => rfl
  | succ width ih => simp [leBytes, ih]

theorem leBytes_littleEndian (data : Bytes) : leBytes data.length (littleEndian data) = data := by
  induction data with
  | nil => rfl
  | cons b rest ih =>
    have hb := b.toNat_lt
    have hlow : UInt8.ofNat (b.toNat + 256 * littleEndian rest) = b := by
      apply UInt8.toNat_inj.mp
      simp only [UInt8.toNat_ofNat']
      omega
    have hrest : (b.toNat + 256 * littleEndian rest) / 256 = littleEndian rest := by omega
    simp only [List.length_cons, littleEndian, leBytes, hlow, hrest, ih]

theorem littleEndian_leBytes (width : Nat) {n : Nat} (h : n < 256 ^ width) :
    littleEndian (leBytes width n) = n := by
  induction width generalizing n with
  | zero =>
    rw [Nat.pow_zero] at h
    simp only [leBytes, littleEndian]
    omega
  | succ width ih =>
    have hrest : n / 256 < 256 ^ width := by
      rw [Nat.pow_succ] at h
      omega
    simp only [leBytes, littleEndian, ih hrest, UInt8.toNat_ofNat']
    omega

theorem littleEndian_lt (data : Bytes) : littleEndian data < 256 ^ data.length := by
  induction data with
  | nil => simp [littleEndian]
  | cons b rest ih =>
    have hb := b.toNat_lt
    rw [List.length_cons, Nat.pow_succ, littleEndian]
    omega

theorem slice_iff {data field : Bytes} {offset length : Nat} :
    slice data offset length = .ok field ↔ FieldAt data offset field ∧ field.length = length := by
  constructor
  · intro h
    rw [slice] at h
    split at h
    · next hin =>
      cases h
      refine ⟨fieldAt_slice hin, ?_⟩
      rw [List.length_take, List.length_drop]
      omega
    · cases h
  · rintro ⟨hat, rfl⟩
    rw [slice, if_pos hat.le, ← hat.eq_slice]

theorem canReadBuffer_of_le {data : Bytes} {offset length : Nat}
    (h : offset + length ≤ data.length) : canReadBuffer data offset length = true :=
  decide_eq_true (le_trans (Nat.mod_le _ _) h)

theorem le_of_canReadBuffer {data : Bytes} {offset length : Nat}
    (hsum : offset + length < sizeModulus) (h : canReadBuffer data offset length = true) :
    offset + length ≤ data.length := by
  have hle := of_decide_eq_true h
  rwa [Nat.mod_eq_of_lt hsum] at hle

/-- The fixed bound of `checked_assign` on its offset and its length. -/
def differenceBound : Nat := 9223372036854775808

theorem checkedAssign_iff {data field : Bytes} {offset length : Nat} :
    checkedAssign data offset length = .ok (some field) ↔
      FieldAt data offset field ∧ field.length = length ∧ offset < differenceBound ∧
        length < differenceBound := by
  rw [checkedAssign, differenceBound]
  by_cases hbound : 9223372036854775808 ≤ offset ∨ 9223372036854775808 ≤ length
  · have hno : ¬ (offset < 9223372036854775808 ∧ length < 9223372036854775808) := by omega
    simp only [hbound, if_true]
    constructor
    · intro h
      split at h <;> cases h
    · exact fun h => absurd h.2.2 hno
  · have hyes : offset < 9223372036854775808 ∧ length < 9223372036854775808 := by omega
    simp only [hbound, if_false, hyes, and_true]
    constructor
    · intro h
      split at h
      · cases h
      · cases hslice : slice data offset length with
        | error f =>
          rw [hslice] at h
          cases h
        | ok bytes =>
          rw [hslice] at h
          cases h
          exact slice_iff.mp hslice
    · intro h
      have hread := canReadBuffer_of_le (h.2 ▸ h.1.le)
      rw [hread, slice_iff.mpr h]
      rfl

/-- The range that is read is inside the data. -/
theorem checkedAssign_total (data : Bytes) (offset length : Nat) :
    ∃ found, checkedAssign data offset length = .ok found := by
  rw [checkedAssign]
  split
  · exact ⟨none, rfl⟩
  · next hread =>
    split
    · exact ⟨none, rfl⟩
    · next hbound =>
      have hle : offset + length ≤ data.length :=
        le_of_canReadBuffer (by rw [sizeModulus]; omega) (by simpa using hread)
      rw [slice, if_pos hle]
      exact ⟨some _, rfl⟩

theorem checkedAssign_onlyCodes (data : Bytes) (offset length : Nat) :
    OnlyCodes (checkedAssign data offset length) := by
  obtain ⟨found, hfound⟩ := checkedAssign_total data offset length
  rw [hfound]
  exact failsOnly_ok _ found

theorem checkedCopyN_iff {n offset : Nat} {data field : Bytes} :
    checkedCopyN n data offset n = .ok (some field) ↔
      FieldAt data offset field ∧ field.length = n ∧ offset < differenceBound ∧
        n < differenceBound := by
  rw [← checkedAssign_iff, checkedCopyN, if_neg (Nat.lt_irrefl n)]
  cases checkedAssign data offset n with
  | error f => simp [Except.map]
  | ok found =>
    cases found with
    | none => simp [Except.map]
    | some bytes => simp [Except.map]

theorem checkedCopyN_onlyCodes (n offset length : Nat) (data : Bytes) :
    OnlyCodes (checkedCopyN n data offset length) := by
  rw [checkedCopyN]
  split
  · exact failsOnly_ok _ _
  · have hassign := checkedAssign_onlyCodes data offset length
    cases hrun : checkedAssign data offset length with
    | error f =>
      intro f' h
      cases h
      exact hassign f hrun
    | ok found => exact failsOnly_ok _ _

/-- A number of at most four bytes, into a type it fits. -/
theorem readLittleEndian_iff {size width : Nat} (hwidth : width ≤ 4) (hsize : 256 ^ width ≤ size)
    {data : Bytes} {offset n : Nat} :
    readLittleEndian size data offset width = .ok (some n) ↔
      n < 256 ^ width ∧ FieldAt data offset (leBytes width n) := by
  have hshift : ¬ (if size = sizeModulus then 8 else 4) < width := by
    split <;> omega
  rw [readLittleEndian, if_neg hshift]
  constructor
  · intro h
    split at h
    · cases h
    · obtain ⟨bytes, hslice, h⟩ := bind_eq_ok.mp h
      obtain ⟨hat, hlength⟩ := slice_iff.mp hslice
      have hlt := littleEndian_lt bytes
      rw [hlength] at hlt
      have hn : littleEndian bytes = n := by
        simpa [Nat.mod_eq_of_lt (by omega : littleEndian bytes < size)] using h
      rw [← hn, ← hlength, leBytes_littleEndian, hlength]
      exact ⟨hlt, hat⟩
  · rintro ⟨hlt, hat⟩
    have hle := hat.le
    rw [leBytes_length] at hle
    have hslice := slice_iff.mpr ⟨hat, leBytes_length width n⟩
    simp only [canReadBuffer_of_le hle, Bool.not_true, Bool.false_eq_true, if_false, hslice,
      ok_bind, littleEndian_leBytes width hlt, Nat.mod_eq_of_lt (by omega : n < size)]
    rfl

/-- A read that is in range if it is allowed. -/
theorem readLittleEndian_total {size width : Nat}
    (hshift : width ≤ if size = sizeModulus then 8 else 4) {data : Bytes} {offset : Nat}
    (hle : canReadBuffer data offset width = true → offset + width ≤ data.length) :
    ∃ found, readLittleEndian size data offset width = .ok found := by
  rw [readLittleEndian, if_neg (Nat.not_lt.mpr hshift)]
  split
  · exact ⟨none, rfl⟩
  · next hread =>
    rw [slice, if_pos (hle (by simpa using hread))]
    exact ⟨some _, rfl⟩

theorem readLittleEndian_inRange {size width : Nat}
    (hshift : width ≤ if size = sizeModulus then 8 else 4) {data : Bytes} {offset : Nat}
    (hle : canReadBuffer data offset width = true → offset + width ≤ data.length) :
    OnlyCodes (readLittleEndian size data offset width) := by
  obtain ⟨found, hfound⟩ := readLittleEndian_total hshift hle
  rw [hfound]
  exact failsOnly_ok _ found

theorem readLittleEndian_onlyCodes {size width : Nat} (hwidth : width ≤ 4) {data : Bytes}
    {offset : Nat} (hoffset : offset + width < sizeModulus) :
    OnlyCodes (readLittleEndian size data offset width) := by
  have hshift : width ≤ if size = sizeModulus then 8 else 4 := by
    split <;> omega
  exact readLittleEndian_inRange hshift (le_of_canReadBuffer hoffset)

end AttestationSdk.Buffer

namespace AttestationSdk.Spdm
open ByteLayout Buffer DerReader ExceptRules

theorem orCode_iff {α : Type} {e : Error} {x : Except Fault (Option α)} {a : α} :
    orCode e x = .ok a ↔ x = .ok (some a) := by
  cases x with
  | error f => simp [orCode]
  | ok found =>
    cases found with
    | none => simp [orCode]
    | some b => simp [orCode]

theorem orCode_onlyCodes {α : Type} {e : Error} {x : Except Fault (Option α)}
    (h : OnlyCodes x) : OnlyCodes (orCode e x) := by
  refine h.bind fun found _ => ?_
  cases found with
  | some a => exact failsOnly_ok _ a
  | none => exact fun f hf => ⟨e, by simpa using hf.symm⟩

theorem readByte_iff {e : Error} {data : Bytes} {offset : Nat} {b : UInt8} :
    readByte e data offset = .ok b ↔ FieldAt data offset [b] := by
  rw [fieldAt_singleton]
  constructor
  · intro h
    obtain ⟨_, _, h⟩ := bind_eq_ok.mp h
    rw [byteAt] at h
    split at h
    · next hb =>
      cases h
      exact hb
    · cases h
  · intro h
    have hlt := (List.getElem?_eq_some_iff.mp h).1
    refine bind_eq_ok.mpr ⟨(), require_iff.mpr (canReadBuffer_of_le (by omega)), ?_⟩
    rw [byteAt, h]

theorem readByte_onlyCodes {e : Error} {data : Bytes} {offset : Nat}
    (h : offset + 1 < sizeModulus) : OnlyCodes (readByte e data offset) := by
  refine (onlyCodes_require _ e).bind fun _ hread => ?_
  have hle := le_of_canReadBuffer h (require_iff.mp hread)
  rw [byteAt, List.getElem?_eq_getElem (by omega : offset < data.length)]
  exact failsOnly_ok _ _

/-- A two-byte number. -/
theorem readUint16_iff {e : Error} {data : Bytes} {offset n : Nat} :
    orCode e (readLittleEndian 65536 data offset 2) = .ok n ↔
      n < 65536 ∧ FieldAt data offset (leBytes 2 n) :=
  orCode_iff.trans (readLittleEndian_iff (by decide) (by decide))

/-- A three-byte number. -/
theorem readUint24_iff {e : Error} {data : Bytes} {offset n : Nat} :
    orCode e (readLittleEndian 4294967296 data offset 3) = .ok n ↔
      n < 16777216 ∧ FieldAt data offset (leBytes 3 n) :=
  orCode_iff.trans (readLittleEndian_iff (by decide) (by decide))

theorem assign_iff {e : Error} {data field : Bytes} {offset length : Nat} :
    orCode e (checkedAssign data offset length) = .ok field ↔
      FieldAt data offset field ∧ field.length = length ∧ offset < differenceBound ∧
        length < differenceBound :=
  orCode_iff.trans checkedAssign_iff

/-- The bytes of a request. -/
def SpdmMeasurementRequestMessage11.encode (m : SpdmMeasurementRequestMessage11) : Bytes :=
  [m.spdmVersion] ++ ([m.requestResponseCode] ++ ([m.param1] ++ ([m.param2] ++
    (m.nonce ++ [m.slotIdParam]))))

structure SpdmMeasurementRequestMessage11.WellFormed (m : SpdmMeasurementRequestMessage11) :
    Prop where
  spdmVersion : m.spdmVersion = spdmVersion11
  requestResponseCode : m.requestResponseCode = spdmReqCodeGetMeasurements
  nonce : m.nonce.length = kNonceSize

theorem SpdmMeasurementRequestMessage11.WellFormed.length {m : SpdmMeasurementRequestMessage11}
    (h : m.WellFormed) : m.encode.length = kRequestLength := by
  simp [SpdmMeasurementRequestMessage11.encode, h.nonce, kNonceSize, kRequestLength]

/-- Where the fields of a request stand. -/
theorem request_fieldAt {data : Bytes} {m : SpdmMeasurementRequestMessage11}
    (h : m.nonce.length = kNonceSize) :
    FieldAt data 0 m.encode ↔
      FieldAt data 0 [m.spdmVersion] ∧ FieldAt data 1 [m.requestResponseCode] ∧
      FieldAt data 2 [m.param1] ∧ FieldAt data 3 [m.param2] ∧ FieldAt data 4 m.nonce ∧
      FieldAt data 36 [m.slotIdParam] := by
  simp only [SpdmMeasurementRequestMessage11.encode, fieldAt_append, List.length_singleton, h,
    kNonceSize, Nat.reduceAdd]

theorem request_parse_iff {data : Bytes} {m : SpdmMeasurementRequestMessage11} :
    SpdmMeasurementRequestMessage11.parse data = .ok m ↔ m.WellFormed ∧ data = m.encode := by
  constructor
  · intro h
    obtain ⟨_, hlength, h⟩ := bind_eq_ok.mp h
    obtain ⟨version, hversion, h⟩ := bind_eq_ok.mp h
    obtain ⟨_, hversionIs, h⟩ := bind_eq_ok.mp h
    obtain ⟨code, hcode, h⟩ := bind_eq_ok.mp h
    obtain ⟨_, hcodeIs, h⟩ := bind_eq_ok.mp h
    obtain ⟨param1, hparam1, h⟩ := bind_eq_ok.mp h
    obtain ⟨param2, hparam2, h⟩ := bind_eq_ok.mp h
    obtain ⟨nonce, hnonce, h⟩ := bind_eq_ok.mp h
    obtain ⟨slot, hslot, h⟩ := bind_eq_ok.mp h
    cases h
    obtain ⟨hnonceAt, hnonceLength, -⟩ := checkedCopyN_iff.mp (orCode_iff.mp hnonce)
    have hlen : data.length = kRequestLength := of_decide_eq_true (require_ok hlength)
    have hwell : SpdmMeasurementRequestMessage11.WellFormed
        ⟨version, code, param1, param2, nonce, slot⟩ :=
      ⟨of_decide_eq_true (require_ok hversionIs), of_decide_eq_true (require_ok hcodeIs),
        hnonceLength⟩
    refine ⟨hwell, (fieldAt_all (hwell.length.trans hlen.symm)).mp ?_⟩
    exact (request_fieldAt hnonceLength).mpr ⟨readByte_iff.mp hversion, readByte_iff.mp hcode,
      readByte_iff.mp hparam1, readByte_iff.mp hparam2, hnonceAt, readByte_iff.mp hslot⟩
  · rintro ⟨hwell, rfl⟩
    obtain ⟨hversion, hcode, hparam1, hparam2, hnonce, hslot⟩ :=
      (request_fieldAt hwell.nonce).mp ((fieldAt_all rfl).mpr rfl)
    have hcopy := checkedCopyN_iff.mpr ⟨hnonce, hwell.nonce, by decide, by decide⟩
    refine bind_eq_ok.mpr ⟨(), require_iff.mpr (decide_eq_true hwell.length), ?_⟩
    refine bind_eq_ok.mpr ⟨_, readByte_iff.mpr hversion, ?_⟩
    refine bind_eq_ok.mpr ⟨(), require_iff.mpr (decide_eq_true hwell.spdmVersion), ?_⟩
    refine bind_eq_ok.mpr ⟨_, readByte_iff.mpr hcode, ?_⟩
    refine bind_eq_ok.mpr ⟨(), require_iff.mpr (decide_eq_true hwell.requestResponseCode), ?_⟩
    refine bind_eq_ok.mpr ⟨_, readByte_iff.mpr hparam1, ?_⟩
    refine bind_eq_ok.mpr ⟨_, readByte_iff.mpr hparam2, ?_⟩
    refine bind_eq_ok.mpr ⟨_, orCode_iff.mpr hcopy, ?_⟩
    exact bind_eq_ok.mpr ⟨_, readByte_iff.mpr hslot, rfl⟩

theorem request_onlyCodes (data : Bytes) :
    OnlyCodes (SpdmMeasurementRequestMessage11.parse data) := by
  refine (onlyCodes_require _ _).bind fun _ _ => ?_
  refine (readByte_onlyCodes (by decide)).bind fun _ _ => ?_
  refine (onlyCodes_require _ _).bind fun _ _ => ?_
  refine (readByte_onlyCodes (by decide)).bind fun _ _ => ?_
  refine (onlyCodes_require _ _).bind fun _ _ => ?_
  refine (readByte_onlyCodes (by decide)).bind fun _ _ => ?_
  refine (readByte_onlyCodes (by decide)).bind fun _ _ => ?_
  refine (orCode_onlyCodes (checkedCopyN_onlyCodes _ _ _ _)).bind fun _ _ => ?_
  exact (readByte_onlyCodes (by decide)).bind fun _ _ => failsOnly_ok _ _

/-- The bytes of an opaque field: type, size and data. -/
def ParsedOpaqueFieldData.encode (f : ParsedOpaqueFieldData) : Bytes :=
  leBytes 2 f.type ++ (leBytes 2 f.data.length ++ f.data)

def ParsedOpaqueFieldData.Fits (f : ParsedOpaqueFieldData) : Prop :=
  f.type < 65536 ∧ f.data.length < 65536

def encodeFields (fields : List ParsedOpaqueFieldData) : Bytes :=
  fields.flatMap ParsedOpaqueFieldData.encode

@[simp] theorem encodeFields_nil : encodeFields [] = [] := rfl

@[simp] theorem encodeFields_cons (f : ParsedOpaqueFieldData) (rest : List ParsedOpaqueFieldData) :
    encodeFields (f :: rest) = f.encode ++ encodeFields rest := rfl

@[simp] theorem encodeField_length (f : ParsedOpaqueFieldData) :
    f.encode.length = 4 + f.data.length := by
  simp only [ParsedOpaqueFieldData.encode, List.length_append, leBytes_length]
  omega

/-- Where the parts of an opaque field stand. -/
theorem field_fieldAt {data : Bytes} {offset : Nat} {f : ParsedOpaqueFieldData} :
    FieldAt data offset f.encode ↔ FieldAt data offset (leBytes 2 f.type) ∧
      FieldAt data (offset + 2) (leBytes 2 f.data.length) ∧ FieldAt data (offset + 4) f.data := by
  simp only [ParsedOpaqueFieldData.encode, fieldAt_append, leBytes_length]

/-- What the loop adds to its list stands in the data from its offset to their end. -/
theorem opaqueLoop_ok {e : Error} {raw : Bytes} {fuel offset last : Nat}
    {fields fields' : List ParsedOpaqueFieldData} (hoffset : offset ≤ raw.length)
    (h : opaqueLoop e raw fuel offset fields = .ok (fields', last)) :
    ∃ new, fields' = fields ++ new ∧ FieldAt raw offset (encodeFields new) ∧
      (∀ f ∈ new, f.Fits) ∧ last = offset + (encodeFields new).length ∧ last = raw.length := by
  induction fuel generalizing offset fields with
  | zero => cases h
  | succ fuel ih =>
    rw [opaqueLoop] at h
    split at h
    · next hend =>
      have hwhole : raw.length = offset := by omega
      cases h
      exact ⟨[], by simp, ⟨raw, [], by simp, hwhole⟩, by simp, by simp, hwhole.symm⟩
    · obtain ⟨type, htype, h⟩ := bind_eq_ok.mp h
      obtain ⟨size, hsize, h⟩ := bind_eq_ok.mp h
      obtain ⟨data, hdata, h⟩ := bind_eq_ok.mp h
      obtain ⟨htypeFits, htypeAt⟩ := readUint16_iff.mp htype
      obtain ⟨hsizeFits, hsizeAt⟩ := readUint16_iff.mp hsize
      obtain ⟨hdataAt, hlength, -⟩ := assign_iff.mp hdata
      subst hlength
      have hnext := hdataAt.le
      obtain ⟨new, hfields, hat, hfits, hlast, hend⟩ := ih hnext h
      refine ⟨⟨type, data⟩ :: new, ?_, ?_, ?_, ?_, hend⟩
      · rw [hfields, List.append_assoc, List.singleton_append]
      · rw [encodeFields_cons]
        refine fieldAt_append.mpr ⟨field_fieldAt.mpr ⟨htypeAt, hsizeAt, hdataAt⟩, ?_⟩
        rw [encodeField_length, ← Nat.add_assoc]
        exact hat
      · exact List.forall_mem_cons.mpr ⟨⟨htypeFits, hsizeFits⟩, hfits⟩
      · rw [hlast, encodeFields_cons, List.length_append, encodeField_length]
        dsimp only
        omega

/-- Fields that stand in the data up to its end are read one after another. -/
theorem opaqueLoop_fields {e : Error} {raw : Bytes} (hraw : raw.length < differenceBound)
    {fuel offset : Nat} (hfuel : raw.length < offset + fuel)
    {fields new : List ParsedOpaqueFieldData} (hfits : ∀ f ∈ new, f.Fits)
    (hat : FieldAt raw offset (encodeFields new))
    (hend : offset + (encodeFields new).length = raw.length) :
    opaqueLoop e raw fuel offset fields = .ok (fields ++ new, raw.length) := by
  induction new generalizing fuel offset fields with
  | nil =>
    rw [encodeFields_nil, List.length_nil, Nat.add_zero] at hend
    cases fuel with
    | zero => omega
    | succ fuel => rw [opaqueLoop, if_pos hend.ge, hend, List.append_nil]
  | cons f rest ih =>
    rw [encodeFields_cons, List.length_append, encodeField_length] at hend
    obtain ⟨hfield, hrest⟩ := fieldAt_append.mp hat
    obtain ⟨htypeAt, hsizeAt, hdataAt⟩ := field_fieldAt.mp hfield
    obtain ⟨⟨htype, hsize⟩, hfits⟩ := List.forall_mem_cons.mp hfits
    have hnext := hdataAt.le
    cases fuel with
    | zero => omega
    | succ fuel =>
      rw [encodeField_length, ← Nat.add_assoc] at hrest
      have hloop : opaqueLoop e raw fuel (offset + 4 + f.data.length) (fields ++ [f]) =
          .ok (fields ++ [f] ++ rest, raw.length) := ih (by omega) hfits hrest (by omega)
      rw [opaqueLoop, if_neg (by omega)]
      refine bind_eq_ok.mpr ⟨_, readUint16_iff.mpr ⟨htype, htypeAt⟩, ?_⟩
      refine bind_eq_ok.mpr ⟨_, readUint16_iff.mpr ⟨hsize, hsizeAt⟩, ?_⟩
      refine bind_eq_ok.mpr ⟨_, assign_iff.mpr ⟨hdataAt, rfl, by omega, by omega⟩, ?_⟩
      rw [hloop, List.append_assoc, List.singleton_append]

theorem opaqueLoop_onlyCodes {e : Error} {raw : Bytes} (hraw : raw.length < differenceBound)
    {fuel offset : Nat} (hfuel : raw.length < offset + fuel) (hoffset : offset ≤ raw.length)
    {fields : List ParsedOpaqueFieldData} : OnlyCodes (opaqueLoop e raw fuel offset fields) := by
  rw [differenceBound] at hraw
  induction fuel generalizing offset fields with
  | zero => omega
  | succ fuel ih =>
    rw [opaqueLoop]
    split
    · exact failsOnly_ok _ _
    · refine (orCode_onlyCodes (readLittleEndian_onlyCodes (by decide) ?_)).bind fun _ _ => ?_
      · rw [sizeModulus]
        omega
      refine (orCode_onlyCodes (readLittleEndian_onlyCodes (by decide) ?_)).bind fun _ _ => ?_
      · rw [sizeModulus]
        omega
      refine (orCode_onlyCodes (checkedAssign_onlyCodes _ _ _)).bind fun data hdata => ?_
      obtain ⟨hat, rfl, -⟩ := assign_iff.mp hdata
      exact ih (by omega) hat.le

/-- Accepted opaque data are their fields, one after another. -/
theorem parseOpaqueData_ok {raw : Bytes} {fields : List ParsedOpaqueFieldData}
    (h : parseOpaqueData raw = .ok fields) :
    raw = encodeFields fields ∧ ∀ f ∈ fields, f.Fits := by
  obtain ⟨⟨fields', last⟩, hloop, h⟩ := bind_eq_ok.mp h
  obtain ⟨_, _, h⟩ := bind_eq_ok.mp h
  cases h
  obtain ⟨new, hfields, hat, hfits, hlast, hend⟩ := opaqueLoop_ok (Nat.zero_le _) hloop
  rw [List.nil_append] at hfields
  subst hfields
  exact ⟨(fieldAt_all (by omega)).mp hat, hfits⟩

theorem parseOpaqueData_encode {fields : List ParsedOpaqueFieldData} (hfits : ∀ f ∈ fields, f.Fits)
    (hlength : (encodeFields fields).length < differenceBound) :
    parseOpaqueData (encodeFields fields) = .ok fields := by
  have hloop : opaqueLoop .SpdmOpaqueDataParseError (encodeFields fields)
      ((encodeFields fields).length + 1) 0 [] = .ok ([] ++ fields, (encodeFields fields).length) :=
    opaqueLoop_fields hlength (by omega) hfits ((fieldAt_all rfl).mpr rfl) (Nat.zero_add _)
  refine bind_eq_ok.mpr ⟨_, hloop, ?_⟩
  exact bind_eq_ok.mpr ⟨(), require_iff.mpr (decide_eq_true rfl), rfl⟩

theorem parseOpaqueData_onlyCodes {raw : Bytes} (hraw : raw.length < differenceBound) :
    OnlyCodes (parseOpaqueData raw) := by
  refine (opaqueLoop_onlyCodes hraw (by omega) (Nat.zero_le _)).bind fun _ _ => ?_
  exact (onlyCodes_require _ _).bind fun _ _ => failsOnly_ok _ _

/-- The bytes of a response. -/
def SpdmMeasurementResponseMessage11.encode (m : SpdmMeasurementResponseMessage11) : Bytes :=
  [m.spdmVersion] ++ ([m.requestResponseCode] ++ ([m.param1] ++ ([m.param2] ++
    ([m.numberOfBlocks] ++ (leBytes 3 m.measurementRecord.length ++ (m.measurementRecord ++
      (m.nonce ++ (leBytes 2 m.opaqueData.length ++ (m.opaqueData ++ m.signature)))))))))

structure SpdmMeasurementResponseMessage11.WellFormed (m : SpdmMeasurementResponseMessage11)
    (signatureLength : Nat) : Prop where
  spdmVersion : m.spdmVersion = spdmVersion11
  requestResponseCode : m.requestResponseCode = spdmResCodeMeasurements
  numberOfBlocks : m.numberOfBlocks ≠ 0
  recordLength : m.measurementRecordLength = m.measurementRecord.length
  recordFits : m.measurementRecord.length < 16777216
  blocks : parseRecord m.measurementRecord m.numberOfBlocks.toNat = .ok m.measurementBlocks
  nonce : m.nonce.length = kNonceSize
  opaqueLength : m.opaqueDataLength = m.opaqueData.length
  opaqueFits : m.opaqueData.length < 65536
  opaqueSome : m.opaqueData ≠ []
  fields : parseOpaqueData m.opaqueData = .ok m.opaqueFields
  signature : m.signature.length = signatureLength
  signatureFits : signatureLength < differenceBound

/-- Where the fields of a response stand. -/
theorem response_fieldAt {data : Bytes} {m : SpdmMeasurementResponseMessage11}
    (h : m.nonce.length = kNonceSize) :
    FieldAt data 0 m.encode ↔
      FieldAt data 0 [m.spdmVersion] ∧ FieldAt data 1 [m.requestResponseCode] ∧
      FieldAt data 2 [m.param1] ∧ FieldAt data 3 [m.param2] ∧ FieldAt data 4 [m.numberOfBlocks] ∧
      FieldAt data 5 (leBytes 3 m.measurementRecord.length) ∧
      FieldAt data 8 m.measurementRecord ∧
      FieldAt data (8 + m.measurementRecord.length) m.nonce ∧
      FieldAt data (8 + m.measurementRecord.length + 32) (leBytes 2 m.opaqueData.length) ∧
      FieldAt data (8 + m.measurementRecord.length + 34) m.opaqueData ∧
      FieldAt data (8 + m.measurementRecord.length + 34 + m.opaqueData.length) m.signature := by
  simp only [SpdmMeasurementResponseMessage11.encode, fieldAt_append, List.length_singleton,
    leBytes_length, h, kNonceSize, Nat.reduceAdd, Nat.add_assoc]

theorem SpdmMeasurementResponseMessage11.encode_length {m : SpdmMeasurementResponseMessage11}
    (h : m.nonce.length = kNonceSize) :
    m.encode.length =
      8 + m.measurementRecord.length + 34 + m.opaqueData.length + m.signature.length := by
  simp only [SpdmMeasurementResponseMessage11.encode, List.length_append, List.length_singleton,
    leBytes_length, h, kNonceSize]
  omega

/-- An accepted response is its fields, one after another. -/
theorem response_parse_ok {data : Bytes} {signatureLength : Nat}
    {m : SpdmMeasurementResponseMessage11}
    (h : SpdmMeasurementResponseMessage11.parse data signatureLength = .ok m) :
    m.WellFormed signatureLength ∧ data = m.encode := by
  obtain ⟨version, hversion, h⟩ := bind_eq_ok.mp h
  obtain ⟨_, hversionIs, h⟩ := bind_eq_ok.mp h
  obtain ⟨code, hcode, h⟩ := bind_eq_ok.mp h
  obtain ⟨_, hcodeIs, h⟩ := bind_eq_ok.mp h
  obtain ⟨param1, hparam1, h⟩ := bind_eq_ok.mp h
  obtain ⟨param2, hparam2, h⟩ := bind_eq_ok.mp h
  obtain ⟨count, hcount, h⟩ := bind_eq_ok.mp h
  obtain ⟨_, hcountIs, h⟩ := bind_eq_ok.mp h
  obtain ⟨recordLength, hrecordLength, h⟩ := bind_eq_ok.mp h
  obtain ⟨record, hrecord, h⟩ := bind_eq_ok.mp h
  obtain ⟨blocks, hblocks, h⟩ := bind_eq_ok.mp h
  obtain ⟨nonce, hnonce, h⟩ := bind_eq_ok.mp h
  obtain ⟨opaqueLength, hopaqueLength, h⟩ := bind_eq_ok.mp h
  obtain ⟨opaqueData, hopaqueRead, h⟩ := bind_eq_ok.mp h
  obtain ⟨_, hopaqueSome, h⟩ := bind_eq_ok.mp h
  obtain ⟨fields, hfields, h⟩ := bind_eq_ok.mp h
  obtain ⟨signature, hsignature, h⟩ := bind_eq_ok.mp h
  obtain ⟨_, hend, h⟩ := bind_eq_ok.mp h
  cases h
  obtain ⟨hrecordFits, hrecordLengthAt⟩ := readUint24_iff.mp hrecordLength
  obtain ⟨hrecordAt, rfl, -⟩ := assign_iff.mp hrecord
  obtain ⟨hnonceAt, hnonceLength, -⟩ := checkedCopyN_iff.mp (orCode_iff.mp hnonce)
  obtain ⟨hopaqueFits, hopaqueLengthAt⟩ := readUint16_iff.mp hopaqueLength
  obtain ⟨hopaqueAt, rfl, -⟩ := assign_iff.mp hopaqueRead
  obtain ⟨hsignatureAt, rfl, -, hsignatureFits⟩ := assign_iff.mp hsignature
  refine ⟨⟨of_decide_eq_true (require_ok hversionIs), of_decide_eq_true (require_ok hcodeIs),
    of_decide_eq_true (require_ok hcountIs), rfl, hrecordFits, hblocks, hnonceLength, rfl,
    hopaqueFits, by simpa using require_ok hopaqueSome, hfields, rfl, hsignatureFits⟩, ?_⟩
  have hlength := of_decide_eq_true (require_ok hend)
  refine (fieldAt_all ?_).mp ((response_fieldAt hnonceLength).mpr ⟨readByte_iff.mp hversion,
    readByte_iff.mp hcode, readByte_iff.mp hparam1, readByte_iff.mp hparam2, readByte_iff.mp hcount,
    hrecordLengthAt, hrecordAt, hnonceAt, hopaqueLengthAt, hopaqueAt, hsignatureAt⟩)
  rw [SpdmMeasurementResponseMessage11.encode_length hnonceLength]
  exact hlength

/-- The bytes of a well-formed response are accepted as that response. -/
theorem response_parse_encode {signatureLength : Nat} {m : SpdmMeasurementResponseMessage11}
    (h : m.WellFormed signatureLength) :
    SpdmMeasurementResponseMessage11.parse m.encode signatureLength = .ok m := by
  obtain ⟨hversion, hcode, hparam1, hparam2, hcount, hrecordLength, hrecord, hnonce, hopaqueLength,
    hopaqueRead, hsignature⟩ := (response_fieldAt h.nonce).mp ((fieldAt_all rfl).mpr rfl)
  have hrecordFits := h.recordFits
  have hopaqueFits := h.opaqueFits
  have hlength := SpdmMeasurementResponseMessage11.encode_length h.nonce
  refine bind_eq_ok.mpr ⟨_, readByte_iff.mpr hversion, ?_⟩
  refine bind_eq_ok.mpr ⟨(), require_iff.mpr (decide_eq_true h.spdmVersion), ?_⟩
  refine bind_eq_ok.mpr ⟨_, readByte_iff.mpr hcode, ?_⟩
  refine bind_eq_ok.mpr ⟨(), require_iff.mpr (decide_eq_true h.requestResponseCode), ?_⟩
  refine bind_eq_ok.mpr ⟨_, readByte_iff.mpr hparam1, ?_⟩
  refine bind_eq_ok.mpr ⟨_, readByte_iff.mpr hparam2, ?_⟩
  refine bind_eq_ok.mpr ⟨_, readByte_iff.mpr hcount, ?_⟩
  refine bind_eq_ok.mpr ⟨(), require_iff.mpr (decide_eq_true h.numberOfBlocks), ?_⟩
  refine bind_eq_ok.mpr ⟨_, readUint24_iff.mpr ⟨hrecordFits, hrecordLength⟩, ?_⟩
  refine bind_eq_ok.mpr ⟨_, assign_iff.mpr ⟨hrecord, rfl, ?_, ?_⟩, ?_⟩
  · decide
  · rw [differenceBound]
    omega
  refine bind_eq_ok.mpr ⟨_, h.blocks, ?_⟩
  refine bind_eq_ok.mpr ⟨_, orCode_iff.mpr (checkedCopyN_iff.mpr ⟨hnonce, h.nonce, ?_, ?_⟩), ?_⟩
  · rw [differenceBound]
    omega
  · decide
  refine bind_eq_ok.mpr ⟨_, readUint16_iff.mpr ⟨hopaqueFits, hopaqueLength⟩, ?_⟩
  refine bind_eq_ok.mpr ⟨_, assign_iff.mpr ⟨hopaqueRead, rfl, ?_, ?_⟩, ?_⟩
  · rw [differenceBound]
    omega
  · rw [differenceBound]
    omega
  refine bind_eq_ok.mpr ⟨(), require_iff.mpr (by simpa using h.opaqueSome), ?_⟩
  refine bind_eq_ok.mpr ⟨_, h.fields, ?_⟩
  refine bind_eq_ok.mpr ⟨_, assign_iff.mpr ⟨hsignature, h.signature, ?_, h.signatureFits⟩, ?_⟩
  · rw [differenceBound]
    omega
  rw [h.signature] at hlength
  refine bind_eq_ok.mpr ⟨(), require_iff.mpr (decide_eq_true hlength.symm), ?_⟩
  rw [← h.recordLength, ← h.opaqueLength]
  rfl

end AttestationSdk.Spdm
