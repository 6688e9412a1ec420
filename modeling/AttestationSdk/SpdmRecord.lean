import AttestationSdk.SpdmLayout

/-! Measurement records as sequences of blocks on the wire. -/
namespace AttestationSdk.Spdm
open ByteLayout Buffer ExceptRules

/-- A block as it stands in a record. The parser does not read the bytes of the measurement
after the value. -/
structure WireBlock where
  index : UInt8
  type : UInt8
  value : Bytes
  hidden : Bytes
  deriving Repr, DecidableEq

namespace WireBlock

def measurementSize (w : WireBlock) : Nat := 3 + w.value.length + w.hidden.length

def block (w : WireBlock) : DmtfMeasurementBlock := ⟨w.type, w.value.length, w.value⟩

/-- Type, size and value. -/
def measurement (w : WireBlock) : Bytes :=
  [w.type] ++ (leBytes 2 w.value.length ++ w.value)

def encode (w : WireBlock) : Bytes :=
  [w.index] ++ ([1] ++ (leBytes 2 w.measurementSize ++ (w.measurement ++ w.hidden)))

structure WellFormed (w : WireBlock) : Prop where
  index : 1 ≤ w.index
  fits : w.measurementSize < 65536

theorem measurement_length (w : WireBlock) : w.measurement.length = 3 + w.value.length := by
  simp only [measurement, List.length_append, List.length_singleton, leBytes_length]
  omega

theorem encode_length (w : WireBlock) : w.encode.length = 4 + w.measurementSize := by
  simp only [encode, List.length_append, List.length_singleton, leBytes_length, measurement_length,
    measurementSize]
  omega

end WireBlock

def encodeWire (ws : List WireBlock) : Bytes := ws.flatMap WireBlock.encode

@[simp] theorem encodeWire_nil : encodeWire [] = [] := rfl

@[simp] theorem encodeWire_cons (w : WireBlock) (rest : List WireBlock) :
    encodeWire (w :: rest) = w.encode ++ encodeWire rest := rfl

/-- The largest record of so many blocks. -/
theorem encodeWire_length_le {ws : List WireBlock} (hwell : ∀ w ∈ ws, w.WellFormed) :
    (encodeWire ws).length ≤ ws.length * 65539 := by
  induction ws with
  | nil => simp
  | cons w rest ih =>
    obtain ⟨hw, hwell⟩ := List.forall_mem_cons.mp hwell
    have hfits := hw.fits
    have hrest := ih hwell
    rw [encodeWire_cons, List.length_append, WireBlock.encode_length, List.length_cons]
    omega

/-- The parser reads a measurement from its start. -/
theorem dmtf_parse_iff {e : Error} {data : Bytes} {b : DmtfMeasurementBlock} :
    DmtfMeasurementBlock.parse e data = .ok b ↔
      b.valueSize = b.value.length ∧ b.value.length < 65536 ∧
        FieldAt data 0 ([b.type] ++ (leBytes 2 b.value.length ++ b.value)) := by
  simp only [fieldAt_append, List.length_singleton, leBytes_length]
  constructor
  · intro h
    obtain ⟨type, htype, h⟩ := bind_eq_ok.mp h
    obtain ⟨size, hsize, h⟩ := bind_eq_ok.mp h
    obtain ⟨value, hvalue, h⟩ := bind_eq_ok.mp h
    cases h
    obtain ⟨hfits, hsizeAt⟩ := readUint16_iff.mp hsize
    obtain ⟨hvalueAt, rfl, -⟩ := assign_iff.mp hvalue
    exact ⟨rfl, hfits, readByte_iff.mp htype, hsizeAt, hvalueAt⟩
  · rintro ⟨hsize, hfits, htypeAt, hsizeAt, hvalueAt⟩
    have hbound : b.value.length < differenceBound := lt_trans hfits (by decide)
    refine bind_eq_ok.mpr ⟨_, readByte_iff.mpr htypeAt, ?_⟩
    refine bind_eq_ok.mpr ⟨_, readUint16_iff.mpr ⟨hfits, hsizeAt⟩, ?_⟩
    refine bind_eq_ok.mpr ⟨_, assign_iff.mpr ⟨hvalueAt, rfl, by decide, hbound⟩, ?_⟩
    rw [← hsize]
    rfl

/-- What the parser reads as a block is a block that stands there. -/
theorem parseMeasurementBlock_ok {e : Error} {record : Bytes} {offset next : Nat} {index : UInt8}
    {b : DmtfMeasurementBlock} (h : parseMeasurementBlock e record offset = .ok (index, b, next)) :
    ∃ w : WireBlock, w.WellFormed ∧ FieldAt record offset w.encode ∧ w.index = index ∧
      w.block = b ∧ next = offset + w.encode.length := by
  obtain ⟨index', hindex, h⟩ := bind_eq_ok.mp h
  obtain ⟨_, hindexIs, h⟩ := bind_eq_ok.mp h
  obtain ⟨specification, hspecification, h⟩ := bind_eq_ok.mp h
  obtain ⟨_, hspecificationIs, h⟩ := bind_eq_ok.mp h
  obtain ⟨size, hsize, h⟩ := bind_eq_ok.mp h
  obtain ⟨measurement, hmeasurement, h⟩ := bind_eq_ok.mp h
  obtain ⟨block, hblock, h⟩ := bind_eq_ok.mp h
  cases h
  obtain rfl : specification = 1 := of_decide_eq_true (require_ok hspecificationIs)
  obtain ⟨hfits, hsizeAt⟩ := readUint16_iff.mp hsize
  obtain ⟨hmeasurementAt, rfl, -⟩ := assign_iff.mp hmeasurement
  obtain ⟨hvalueSize, -, before, hidden, hsplit, hbefore⟩ := dmtf_parse_iff.mp hblock
  obtain rfl := List.length_eq_zero_iff.mp hbefore
  rw [List.nil_append] at hsplit
  let w : WireBlock := ⟨index, b.type, b.value, hidden⟩
  have hmeasurementIs : measurement = w.measurement ++ w.hidden := hsplit
  have hlength : measurement.length = w.measurementSize := by
    rw [hmeasurementIs, List.length_append, WireBlock.measurement_length]
    rfl
  refine ⟨w, ⟨of_decide_eq_true (require_ok hindexIs), ?_⟩, ?_, rfl, ?_, ?_⟩
  · exact hlength ▸ hfits
  · refine fieldAt_append.mpr ⟨readByte_iff.mp hindex, ?_⟩
    refine fieldAt_append.mpr ⟨readByte_iff.mp hspecification, ?_⟩
    refine fieldAt_append.mpr ⟨hlength ▸ hsizeAt, ?_⟩
    rw [leBytes_length, ← hmeasurementIs]
    exact hmeasurementAt
  · rw [WireBlock.block, ← hvalueSize]
  · rw [WireBlock.encode_length, ← hlength, Nat.add_assoc]

/-- A block that stands in the record is read. -/
theorem parseMeasurementBlock_encode {e : Error} {record : Bytes}
    (hrecord : record.length < differenceBound) {offset : Nat} {w : WireBlock} (hw : w.WellFormed)
    (hat : FieldAt record offset w.encode) :
    parseMeasurementBlock e record offset = .ok (w.index, w.block, offset + w.encode.length) := by
  have hle := hat.le
  rw [WireBlock.encode_length] at hle
  have hfits := hw.fits
  obtain ⟨hindex, hat⟩ := fieldAt_append.mp hat
  obtain ⟨hspecification, hat⟩ := fieldAt_append.mp hat
  obtain ⟨hsize, hmeasurement⟩ := fieldAt_append.mp hat
  rw [leBytes_length] at hmeasurement
  have hlength : (w.measurement ++ w.hidden).length = w.measurementSize := by
    rw [List.length_append, WireBlock.measurement_length, WireBlock.measurementSize]
  have hblock : DmtfMeasurementBlock.parse e (w.measurement ++ w.hidden) = .ok w.block := by
    have hvalue : w.value.length < 65536 := by
      rw [WireBlock.measurementSize] at hfits
      omega
    exact dmtf_parse_iff.mpr ⟨rfl, hvalue, [], w.hidden, rfl, rfl⟩
  refine bind_eq_ok.mpr ⟨_, readByte_iff.mpr hindex, ?_⟩
  refine bind_eq_ok.mpr ⟨(), require_iff.mpr (decide_eq_true hw.index), ?_⟩
  refine bind_eq_ok.mpr ⟨_, readByte_iff.mpr hspecification, ?_⟩
  refine bind_eq_ok.mpr ⟨(), require_iff.mpr (by decide), ?_⟩
  refine bind_eq_ok.mpr ⟨_, readUint16_iff.mpr ⟨hfits, hsize⟩, ?_⟩
  refine bind_eq_ok.mpr ⟨_, assign_iff.mpr ⟨hmeasurement, hlength, by omega, by omega⟩, ?_⟩
  refine bind_eq_ok.mpr ⟨_, hblock, ?_⟩
  rw [WireBlock.encode_length, Nat.add_assoc]
  rfl

/-- The blocks of a record in the order in which `parse` meets them, and the offset it ends at. -/
def wireBlocks (e : Error) (record : Bytes) : Nat → Nat → Except Fault (List WireBlock × Nat)
  | 0, offset => .ok ([], offset)
  | n + 1, offset => do
    let (index, block, next) ← parseMeasurementBlock e record offset
    let (rest, last) ← wireBlocks e record n next
    let hiddenAt := offset + 7 + block.value.length
    let hidden := (record.drop hiddenAt).take (next - hiddenAt)
    return (⟨index, block.type, block.value, hidden⟩ :: rest, last)

/-- The map with a block added. -/
def insertBlock (blocks : Blocks) (w : WireBlock) : Blocks :=
  (w.index, w.block) :: blocks.filter (·.1 ≠ w.index)

theorem hidden_fieldAt {record : Bytes} {offset : Nat} {w : WireBlock}
    (h : FieldAt record offset w.encode) :
    FieldAt record (offset + 7 + w.value.length) w.hidden := by
  obtain ⟨_, h⟩ := fieldAt_append.mp h
  obtain ⟨_, h⟩ := fieldAt_append.mp h
  obtain ⟨_, h⟩ := fieldAt_append.mp h
  obtain ⟨_, h⟩ := fieldAt_append.mp h
  simp only [List.length_singleton, leBytes_length, WireBlock.measurement_length] at h
  have hoffset : offset + 7 + w.value.length = offset + 1 + 1 + 2 + (3 + w.value.length) := by omega
  rw [hoffset]
  exact h

/-- The hidden bytes of a block, cut from the record. -/
theorem hidden_eq {record : Bytes} {offset : Nat} {w : WireBlock}
    (h : FieldAt record offset w.encode) :
    (record.drop (offset + 7 + w.value.length)).take
      (offset + w.encode.length - (offset + 7 + w.value.length)) = w.hidden := by
  have hlength : offset + w.encode.length - (offset + 7 + w.value.length) = w.hidden.length := by
    rw [WireBlock.encode_length, WireBlock.measurementSize]
    omega
  rw [hlength]
  exact (hidden_fieldAt h).eq_slice.symm

/-- The walk meets blocks that stand one after another. -/
theorem wireBlocks_ok {e : Error} {record : Bytes} {n offset last : Nat}
    (hoffset : offset ≤ record.length) {ws : List WireBlock}
    (h : wireBlocks e record n offset = .ok (ws, last)) :
    ws.length = n ∧ (∀ w ∈ ws, w.WellFormed) ∧ FieldAt record offset (encodeWire ws) ∧
      last = offset + (encodeWire ws).length := by
  induction n generalizing offset ws with
  | zero =>
    cases h
    exact ⟨rfl, by simp, fieldAt_slice (n := 0) hoffset, rfl⟩
  | succ n ih =>
    obtain ⟨⟨index, block, next⟩, hblock, h⟩ := bind_eq_ok.mp h
    obtain ⟨⟨rest, last'⟩, hrest, h⟩ := bind_eq_ok.mp h
    obtain ⟨w, hw, hat, rfl, rfl, rfl⟩ := parseMeasurementBlock_ok hblock
    simp only [WireBlock.block, hidden_eq hat] at h
    cases h
    obtain ⟨hlength, hwell, hrestAt, hlast⟩ := ih hat.le hrest
    refine ⟨by simp [hlength], List.forall_mem_cons.mpr ⟨hw, hwell⟩, ?_, ?_⟩
    · exact fieldAt_append.mpr ⟨hat, hrestAt⟩
    · rw [hlast, encodeWire_cons, List.length_append, Nat.add_assoc]

/-- The walk meets the blocks that stand in the record. -/
theorem wireBlocks_encode {e : Error} {record : Bytes} (hrecord : record.length < differenceBound)
    {offset : Nat} {ws : List WireBlock} (hwell : ∀ w ∈ ws, w.WellFormed)
    (hat : FieldAt record offset (encodeWire ws)) :
    wireBlocks e record ws.length offset = .ok (ws, offset + (encodeWire ws).length) := by
  induction ws generalizing offset with
  | nil => rfl
  | cons w rest ih =>
    obtain ⟨hw, hwell⟩ := List.forall_mem_cons.mp hwell
    obtain ⟨hwAt, hrestAt⟩ := fieldAt_append.mp hat
    have hblock := parseMeasurementBlock_encode (e := e) hrecord hw hwAt
    refine bind_eq_ok.mpr ⟨_, hblock, bind_eq_ok.mpr ⟨_, ih hwell hrestAt, ?_⟩⟩
    simp only [WireBlock.block, hidden_eq hwAt]
    rw [encodeWire_cons, List.length_append, Nat.add_assoc]
    rfl

/-- The parser's loop is the walk with a map. -/
theorem parseBlocks_iff {e : Error} {record : Bytes} {n offset last : Nat}
    {blocks blocks' : Blocks} :
    parseBlocks e record n offset blocks = .ok (blocks', last) ↔
      ∃ ws, wireBlocks e record n offset = .ok (ws, last) ∧ blocks' = ws.foldl insertBlock blocks := by
  induction n generalizing offset blocks with
  | zero =>
    constructor
    · intro h
      cases h
      exact ⟨[], rfl, rfl⟩
    · rintro ⟨ws, h, rfl⟩
      cases h
      rfl
  | succ n ih =>
    constructor
    · intro h
      obtain ⟨⟨index, block, next⟩, hblock, h⟩ := bind_eq_ok.mp h
      obtain ⟨w, hw, hat, rfl, rfl, rfl⟩ := parseMeasurementBlock_ok hblock
      obtain ⟨rest, hrest, hblocks⟩ := ih.mp h
      refine ⟨w :: rest, bind_eq_ok.mpr ⟨_, hblock, bind_eq_ok.mpr ⟨_, hrest, ?_⟩⟩, hblocks⟩
      simp only [WireBlock.block, hidden_eq hat]
      rfl
    · rintro ⟨ws, h, rfl⟩
      obtain ⟨⟨index, block, next⟩, hblock, h⟩ := bind_eq_ok.mp h
      obtain ⟨⟨rest, last'⟩, hrest, h⟩ := bind_eq_ok.mp h
      obtain ⟨w, hw, hat, rfl, rfl, rfl⟩ := parseMeasurementBlock_ok hblock
      simp only [WireBlock.block, hidden_eq hat] at h
      cases h
      exact bind_eq_ok.mpr ⟨_, hblock, ih.mpr ⟨rest, hrest, rfl⟩⟩

/-- The blocks stand on the wire: one after another they are the record. -/
structure OnWire (record : Bytes) (n : Nat) (ws : List WireBlock) : Prop where
  count : ws.length = n
  wellFormed : ∀ w ∈ ws, w.WellFormed
  record : record = encodeWire ws

/-- The error of `SpdmMeasurementRecordParser`. -/
abbrev recordError : Error := .SpdmMeasurementRecordParseError

/-- An accepted record is its blocks, one after another, and the map is theirs. -/
theorem parseRecord_ok {record : Bytes} {n : Nat} {blocks : Blocks}
    (h : parseRecord record n = .ok blocks) :
    ∃ ws, wireBlocks recordError record n 0 = .ok (ws, record.length) ∧ OnWire record n ws ∧
      blocks = ws.foldl insertBlock [] := by
  obtain ⟨_, _, h⟩ := bind_eq_ok.mp h
  obtain ⟨_, _, h⟩ := bind_eq_ok.mp h
  split at h
  · next hempty =>
    cases h
    obtain ⟨rfl, hnil⟩ := hempty
    obtain rfl := List.isEmpty_iff.mp hnil
    exact ⟨[], rfl, ⟨rfl, by simp, rfl⟩, rfl⟩
  · obtain ⟨⟨blocks', last⟩, hloop, h⟩ := bind_eq_ok.mp h
    obtain ⟨_, hend, h⟩ := bind_eq_ok.mp h
    cases h
    obtain ⟨ws, hwalk, hblocks⟩ := parseBlocks_iff.mp hloop
    obtain rfl : last = record.length := of_decide_eq_true (require_ok hend)
    obtain ⟨hcount, hwell, hat, hlast⟩ := wireBlocks_ok (Nat.zero_le _) hwalk
    exact ⟨ws, hwalk, ⟨hcount, hwell, (fieldAt_all (by omega)).mp hat⟩, hblocks⟩

/-- Blocks, one after another, are accepted. -/
theorem parseRecord_encode {ws : List WireBlock} (hwell : ∀ w ∈ ws, w.WellFormed)
    (hlength : (encodeWire ws).length < differenceBound) :
    parseRecord (encodeWire ws) ws.length = .ok (ws.foldl insertBlock []) := by
  have hwalk : wireBlocks recordError (encodeWire ws) ws.length 0 =
      .ok (ws, 0 + (encodeWire ws).length) :=
    wireBlocks_encode hlength hwell ((fieldAt_all rfl).mpr rfl)
  rw [Nat.zero_add] at hwalk
  have hloop : parseBlocks recordError (encodeWire ws) ws.length 0 [] =
      .ok (ws.foldl insertBlock [], (encodeWire ws).length) :=
    parseBlocks_iff.mpr ⟨ws, hwalk, rfl⟩
  cases ws with
  | nil => rfl
  | cons w rest =>
    refine bind_eq_ok.mpr ⟨(), rfl, bind_eq_ok.mpr ⟨(), rfl, ?_⟩⟩
    rw [if_neg (by simp)]
    refine bind_eq_ok.mpr ⟨_, hloop, ?_⟩
    exact bind_eq_ok.mpr ⟨(), require_iff.mpr (decide_eq_true rfl), rfl⟩

theorem dmtf_onlyCodes (e : Error) (data : Bytes) :
    OnlyCodes (DmtfMeasurementBlock.parse e data) := by
  refine (readByte_onlyCodes (by decide)).bind fun _ _ => ?_
  refine (orCode_onlyCodes (readLittleEndian_onlyCodes (by decide) (by decide))).bind fun _ _ => ?_
  exact (orCode_onlyCodes (checkedAssign_onlyCodes _ _ _)).bind fun _ _ => failsOnly_ok _ _

theorem parseMeasurementBlock_onlyCodes (e : Error) (record : Bytes) {offset : Nat}
    (h : offset + 4 < sizeModulus) : OnlyCodes (parseMeasurementBlock e record offset) := by
  refine (readByte_onlyCodes (by omega)).bind fun _ _ => ?_
  refine (onlyCodes_require _ _).bind fun _ _ => ?_
  refine (readByte_onlyCodes (by omega)).bind fun _ _ => ?_
  refine (onlyCodes_require _ _).bind fun _ _ => ?_
  refine (orCode_onlyCodes (readLittleEndian_onlyCodes (by decide) (by omega))).bind fun _ _ => ?_
  refine (orCode_onlyCodes (checkedAssign_onlyCodes _ _ _)).bind fun _ _ => ?_
  exact (dmtf_onlyCodes _ _).bind fun _ _ => failsOnly_ok _ _

theorem parseBlocks_onlyCodes (e : Error) {record : Bytes}
    (hrecord : record.length < differenceBound) (n : Nat) {offset : Nat}
    (hoffset : offset ≤ record.length) (blocks : Blocks) :
    OnlyCodes (parseBlocks e record n offset blocks) := by
  induction n generalizing offset blocks with
  | zero => exact failsOnly_ok _ _
  | succ n ih =>
    have hsum : offset + 4 < sizeModulus := by
      rw [differenceBound] at hrecord
      rw [sizeModulus]
      omega
    refine (parseMeasurementBlock_onlyCodes e record hsum).bind fun result h => ?_
    obtain ⟨index, block, next⟩ := result
    obtain ⟨w, -, hat, -, -, rfl⟩ := parseMeasurementBlock_ok h
    exact ih hat.le _

theorem parseRecord_onlyCodes {record : Bytes} (hrecord : record.length < differenceBound)
    (n : Nat) : OnlyCodes (parseRecord record n) := by
  refine (onlyCodes_require _ _).bind fun _ _ => (onlyCodes_require _ _).bind fun _ _ => ?_
  split
  · exact failsOnly_ok _ _
  · refine (parseBlocks_onlyCodes _ hrecord n (Nat.zero_le _) []).bind fun _ _ => ?_
    exact (onlyCodes_require _ _).bind fun _ _ => failsOnly_ok _ _

/-- No response makes the parser read outside its buffers. -/
theorem response_onlyCodes (data : Bytes) (signatureLength : Nat) :
    OnlyCodes (SpdmMeasurementResponseMessage11.parse data signatureLength) := by
  refine (readByte_onlyCodes (by decide)).bind fun _ _ => ?_
  refine (onlyCodes_require _ _).bind fun _ _ => ?_
  refine (readByte_onlyCodes (by decide)).bind fun _ _ => ?_
  refine (onlyCodes_require _ _).bind fun _ _ => ?_
  refine (readByte_onlyCodes (by decide)).bind fun _ _ => ?_
  refine (readByte_onlyCodes (by decide)).bind fun _ _ => ?_
  refine (readByte_onlyCodes (by decide)).bind fun _ _ => ?_
  refine (onlyCodes_require _ _).bind fun _ _ => ?_
  refine (orCode_onlyCodes (readLittleEndian_onlyCodes (by decide) (by decide))).bind
    fun recordLength hrecordLength => ?_
  obtain ⟨hrecordFits, -⟩ := readUint24_iff.mp hrecordLength
  refine (orCode_onlyCodes (checkedAssign_onlyCodes _ _ _)).bind fun record hrecord => ?_
  obtain ⟨-, rfl, -, hrecordBound⟩ := assign_iff.mp hrecord
  refine (parseRecord_onlyCodes hrecordBound _).bind fun _ _ => ?_
  refine (orCode_onlyCodes (checkedCopyN_onlyCodes _ _ _ _)).bind fun _ _ => ?_
  refine (orCode_onlyCodes (readLittleEndian_onlyCodes (by decide) ?_)).bind fun _ _ => ?_
  · rw [sizeModulus]
    omega
  refine (orCode_onlyCodes (checkedAssign_onlyCodes _ _ _)).bind fun opaqueData hopaqueRead => ?_
  obtain ⟨-, -, -, hopaqueBound⟩ := assign_iff.mp hopaqueRead
  refine (onlyCodes_require _ _).bind fun _ _ => ?_
  refine (parseOpaqueData_onlyCodes ?_).bind fun _ _ => ?_
  · exact (assign_iff.mp hopaqueRead).2.1 ▸ hopaqueBound
  refine (orCode_onlyCodes (checkedAssign_onlyCodes _ _ _)).bind fun _ _ => ?_
  exact (onlyCodes_require _ _).bind fun _ _ => failsOnly_ok _ _

theorem leBytes_inj (width : Nat) {n n' : Nat} (hn : n < 256 ^ width) (hn' : n' < 256 ^ width)
    (h : leBytes width n = leBytes width n') : n = n' := by
  rw [← littleEndian_leBytes width hn, h, littleEndian_leBytes width hn']

/-- A block ends where its own sizes say. -/
theorem WireBlock.encode_append_inj {w w' : WireBlock} {rest rest' : Bytes} (hw : w.WellFormed)
    (hw' : w'.WellFormed) (h : w.encode ++ rest = w'.encode ++ rest') : w = w' ∧ rest = rest' := by
  have hfits := hw.fits
  have hfits' := hw'.fits
  simp only [encode, List.append_assoc] at h
  obtain ⟨hindex, h⟩ := List.append_inj h rfl
  obtain ⟨-, h⟩ := List.append_inj h rfl
  obtain ⟨hsize, h⟩ := List.append_inj h (by simp)
  have hsizes := leBytes_inj 2 hfits hfits' hsize
  simp only [measurement, List.append_assoc] at h
  obtain ⟨htype, h⟩ := List.append_inj h rfl
  obtain ⟨hvalueSize, h⟩ := List.append_inj h (by simp)
  rw [measurementSize] at hfits hfits' hsizes
  have hvalueSizes := leBytes_inj 2 (by omega) (by omega) hvalueSize
  rw [measurementSize] at hsizes
  obtain ⟨hvalue, h⟩ := List.append_inj h hvalueSizes
  obtain ⟨hhidden, hrest⟩ := List.append_inj h (by omega)
  cases w
  cases w'
  simp_all

/-- A record is made of blocks in one way. -/
theorem encodeWire_inj {ws ws' : List WireBlock} (hlength : ws.length = ws'.length)
    (hwell : ∀ w ∈ ws, w.WellFormed) (hwell' : ∀ w ∈ ws', w.WellFormed)
    (h : encodeWire ws = encodeWire ws') : ws = ws' := by
  induction ws generalizing ws' with
  | nil => exact (List.length_eq_zero_iff.mp hlength.symm).symm
  | cons w rest ih =>
    cases ws' with
    | nil => cases hlength
    | cons w' rest' =>
      obtain ⟨hw, hrestWell⟩ := List.forall_mem_cons.mp hwell
      obtain ⟨hw', hrestWell'⟩ := List.forall_mem_cons.mp hwell'
      obtain ⟨rfl, hrest⟩ := WireBlock.encode_append_inj hw hw' h
      rw [ih (Nat.succ_inj.mp hlength) hrestWell hrestWell' hrest]

theorem OnWire.unique {record : Bytes} {n : Nat} {ws ws' : List WireBlock}
    (h : OnWire record n ws) (h' : OnWire record n ws') : ws = ws' :=
  encodeWire_inj (h.count.trans h'.count.symm) h.wellFormed h'.wellFormed
    (h.record.symm.trans h'.record)

/-- A measurement block whose measurement ends with its value. -/
structure MeasurementBlock where
  index : UInt8
  type : UInt8
  value : Bytes
  index_pos : 1 ≤ index
  fits : 3 + value.length < 65536

namespace MeasurementBlock

def toWire (b : MeasurementBlock) : WireBlock := ⟨b.index, b.type, b.value, []⟩

theorem toWire_wellFormed (b : MeasurementBlock) : b.toWire.WellFormed := ⟨b.index_pos, b.fits⟩

end MeasurementBlock

def encodeBlocks (bs : List MeasurementBlock) : Bytes :=
  encodeWire (bs.map MeasurementBlock.toWire)

theorem map_toWire_wellFormed (bs : List MeasurementBlock) :
    ∀ w ∈ bs.map MeasurementBlock.toWire, w.WellFormed := by
  intro w hw
  obtain ⟨b, -, rfl⟩ := List.mem_map.mp hw
  exact b.toWire_wellFormed

theorem exists_map_toWire {ws : List WireBlock} (hwell : ∀ w ∈ ws, w.WellFormed)
    (hhidden : ∀ w ∈ ws, w.hidden = []) :
    ∃ bs : List MeasurementBlock, bs.map MeasurementBlock.toWire = ws := by
  induction ws with
  | nil => exact ⟨[], rfl⟩
  | cons w rest ih =>
    obtain ⟨hw, hwell⟩ := List.forall_mem_cons.mp hwell
    obtain ⟨hnone, hhidden⟩ := List.forall_mem_cons.mp hhidden
    obtain ⟨bs, hbs⟩ := ih hwell hhidden
    have hfits := hw.fits
    rw [WireBlock.measurementSize, hnone] at hfits
    refine ⟨⟨w.index, w.type, w.value, hw.index, hfits⟩ :: bs, ?_⟩
    rw [List.map_cons, hbs, MeasurementBlock.toWire]
    rw [← hnone]

/-- The bytes of a block, from what the parser keeps of it. -/
def WireBlock.reencode (w : WireBlock) : Bytes := WireBlock.encode { w with hidden := [] }

/-- In every block the two sizes agree, and the blocks' parsed fields give back the record. -/
def NoHiddenBytes (record : Bytes) (n : Nat) : Prop :=
  ∃ ws, wireBlocks recordError record n 0 = .ok (ws, record.length) ∧
    (∀ w ∈ ws, w.measurementSize = 3 + w.value.length) ∧ ws.flatMap WireBlock.reencode = record

/-- An accepted record has no hidden bytes exactly when it is the encoding of as many blocks
whose measurements end with their values. -/
theorem noHiddenBytes_iff {record : Bytes} {n : Nat} {blocks : Blocks}
    (h : parseRecord record n = .ok blocks) :
    NoHiddenBytes record n ↔
      ∃ bs : List MeasurementBlock, bs.length = n ∧ record = encodeBlocks bs := by
  obtain ⟨ws, hwalk, hwire, -⟩ := parseRecord_ok h
  constructor
  · rintro ⟨ws', hwalk', hsizes, -⟩
    obtain rfl : ws = ws' := by
      rw [hwalk] at hwalk'
      cases hwalk'
      rfl
    have hhidden : ∀ w ∈ ws, w.hidden = [] := by
      intro w hw
      have hsize := hsizes w hw
      rw [WireBlock.measurementSize] at hsize
      exact List.length_eq_zero_iff.mp (by omega)
    obtain ⟨bs, hbs⟩ := exists_map_toWire hwire.wellFormed hhidden
    refine ⟨bs, ?_, ?_⟩
    · rw [← hwire.count, ← hbs, List.length_map]
    · rw [encodeBlocks, hbs]
      exact hwire.record
  · rintro ⟨bs, hcount, hrecord⟩
    have hwire' : OnWire record n (bs.map MeasurementBlock.toWire) :=
      ⟨by rw [List.length_map, hcount], map_toWire_wellFormed bs, hrecord⟩
    obtain rfl := hwire.unique hwire'
    refine ⟨_, hwalk, ?_, ?_⟩
    · intro w hw
      obtain ⟨b, -, rfl⟩ := List.mem_map.mp hw
      rfl
    · rw [hrecord, encodeBlocks, encodeWire, List.flatMap_map, List.flatMap_map]
      rfl

/-- One block of index 1 with an empty value, which the condition allows. -/
theorem noHiddenBytes_plain : NoHiddenBytes [1, 1, 3, 0, 1, 0, 0] 1 :=
  (noHiddenBytes_iff (show parseRecord [1, 1, 3, 0, 1, 0, 0] 1 = .ok [(1, ⟨1, 0, []⟩)] from rfl)).mpr
    ⟨[⟨1, 1, [], by decide, by decide⟩], rfl, rfl⟩

/-- A block whose measurement goes on for a byte after its value. -/
theorem accepted_record_with_hidden_byte :
    ¬ ∀ (record : Bytes) (n : Nat) (blocks : Blocks), parseRecord record n = .ok blocks →
      NoHiddenBytes record n := by
  intro h
  obtain ⟨ws, hwalk, hsizes, -⟩ := h [1, 1, 4, 0, 1, 0, 0, 0xff] 1 [(1, ⟨1, 0, []⟩)] rfl
  have hws : wireBlocks recordError [1, 1, 4, 0, 1, 0, 0, 0xff] 1 0 =
      .ok ([⟨1, 1, [], [0xff]⟩], 8) := rfl
  rw [hws] at hwalk
  cases hwalk
  exact absurd (hsizes _ (List.mem_singleton_self _)) (by decide)

end AttestationSdk.Spdm
