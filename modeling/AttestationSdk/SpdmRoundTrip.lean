import AttestationSdk.SpdmRecord
import Mathlib.Data.List.Perm.Subperm

/-! Encoding a measurements response or request and parsing it back, and the map from index to
block that parsing builds. -/
namespace AttestationSdk.Spdm
open ByteLayout Buffer ExceptRules

/-- What the map holds of a block. -/
def WireBlock.entry (w : WireBlock) : UInt8 × DmtfMeasurementBlock := (w.index, w.block)

theorem insertBlock_new {blocks : Blocks} {w : WireBlock} (h : ∀ b ∈ blocks, b.1 ≠ w.index) :
    insertBlock blocks w = w.entry :: blocks := by
  rw [insertBlock, List.filter_eq_self.mpr fun b hb => decide_eq_true (h b hb)]
  rfl

/-- Blocks of different indices all stay in the map. -/
theorem foldl_insertBlock {ws : List WireBlock} (hnodup : (ws.map WireBlock.index).Nodup)
    {blocks : Blocks} (hnew : ∀ w ∈ ws, ∀ b ∈ blocks, b.1 ≠ w.index) :
    ws.foldl insertBlock blocks = (ws.map WireBlock.entry).reverse ++ blocks := by
  induction ws generalizing blocks with
  | nil => rfl
  | cons w rest ih =>
    obtain ⟨hnot, hnodup⟩ := List.nodup_cons.mp hnodup
    obtain ⟨hw, hrest⟩ := List.forall_mem_cons.mp hnew
    rw [List.foldl_cons, insertBlock_new hw, ih hnodup]
    · simp
    · intro w' hw' b hb
      cases List.mem_cons.mp hb with
      | inl heq =>
        rw [heq]
        exact fun hsame => hnot (List.mem_map.mpr ⟨w', hw', hsame.symm⟩)
      | inr hin => exact hrest w' hw' b hin

theorem foldl_insertBlock_nil {ws : List WireBlock} (hnodup : (ws.map WireBlock.index).Nodup) :
    ws.foldl insertBlock [] = (ws.map WireBlock.entry).reverse := by
  rw [foldl_insertBlock hnodup (by simp), List.append_nil]

/-- The map keeps one entry for each index it has met. -/
theorem foldl_insertBlock_keys (ws : List WireBlock) {blocks : Blocks}
    (hblocks : (blocks.map Prod.fst).Nodup) :
    ((ws.foldl insertBlock blocks).map Prod.fst).Nodup ∧
      ∀ i ∈ (ws.foldl insertBlock blocks).map Prod.fst,
        i ∈ ws.map WireBlock.index ∨ i ∈ blocks.map Prod.fst := by
  induction ws generalizing blocks with
  | nil => exact ⟨hblocks, fun i hi => .inr hi⟩
  | cons w rest ih =>
    have hkeys : ((insertBlock blocks w).map Prod.fst).Nodup := by
      refine List.nodup_cons.mpr ⟨?_, hblocks.sublist (List.filter_sublist.map _)⟩
      intro hin
      obtain ⟨b, hb, hsame⟩ := List.mem_map.mp hin
      exact of_decide_eq_true (List.mem_filter.mp hb).2 hsame
    obtain ⟨hnodup, hmem⟩ := ih hkeys
    refine ⟨hnodup, fun i hi => ?_⟩
    cases hmem i hi with
    | inl hin => exact .inl (List.mem_cons_of_mem _ hin)
    | inr hin =>
      cases List.mem_cons.mp hin with
      | inl heq => exact .inl (List.mem_cons.mpr (.inl heq))
      | inr hold => exact .inr ((List.filter_sublist.map Prod.fst).subset hold)

/-- The map is as large as the number of blocks exactly when no index comes twice. -/
theorem foldl_insertBlock_length_iff (ws : List WireBlock) :
    (ws.foldl insertBlock []).length = ws.length ↔ (ws.map WireBlock.index).Nodup := by
  constructor
  · intro hlength
    have hempty : (([] : Blocks).map Prod.fst).Nodup := List.nodup_nil
    obtain ⟨hnodup, hmem⟩ := foldl_insertBlock_keys ws hempty
    have hsub : (ws.foldl insertBlock []).map Prod.fst ⊆ ws.map WireBlock.index := by
      intro i hi
      cases hmem i hi with
      | inl hin => exact hin
      | inr hin => cases hin
    have hperm := (List.subperm_of_subset hnodup hsub).perm_of_length_le (by simp [hlength])
    exact hperm.nodup_iff.mp hnodup
  · intro hnodup
    rw [foldl_insertBlock_nil hnodup]
    simp

/-- The blocks that a response carries, in the order in which it carries them. -/
structure SentBlocks (data : Bytes) (ws : List WireBlock) : Prop where
  count : ws.length < 256
  countAt : FieldAt data 4 [UInt8.ofNat ws.length]
  lengthAt : FieldAt data 5 (leBytes 3 (encodeWire ws).length)
  recordAt : FieldAt data 8 (encodeWire ws)
  wellFormed : ∀ w ∈ ws, w.WellFormed

/-- The blocks of an accepted response are those of its record. -/
theorem sentBlocks_iff {data : Bytes} {signatureLength : Nat}
    {m : SpdmMeasurementResponseMessage11}
    (h : SpdmMeasurementResponseMessage11.parse data signatureLength = .ok m)
    {ws : List WireBlock} :
    SentBlocks data ws ↔ OnWire m.measurementRecord m.numberOfBlocks.toNat ws := by
  obtain ⟨hwell, hdata⟩ := response_parse_ok h
  have hall : FieldAt data 0 m.encode := (fieldAt_all (by rw [hdata])).mpr hdata
  obtain ⟨-, -, -, -, hcountAt, hlengthAt, hrecordAt, -⟩ := (response_fieldAt hwell.nonce).mp hall
  constructor
  · intro hsent
    have hcount : [UInt8.ofNat ws.length] = [m.numberOfBlocks] := hsent.countAt.unique hcountAt rfl
    have hlt := hsent.count
    have hle := encodeWire_length_le hsent.wellFormed
    have hlength : (encodeWire ws).length = m.measurementRecord.length :=
      leBytes_inj 3 (show _ < 16777216 by omega) hwell.recordFits
        (hsent.lengthAt.unique hlengthAt (by simp))
    refine ⟨?_, hsent.wellFormed, (hsent.recordAt.unique hrecordAt hlength).symm⟩
    rw [← List.singleton_inj.mp hcount, UInt8.toNat_ofNat']
    omega
  · rintro ⟨hcount, hwellFormed, hrecord⟩
    refine ⟨?_, ?_, hrecord ▸ hlengthAt, hrecord ▸ hrecordAt, hwellFormed⟩
    · rw [hcount]
      exact m.numberOfBlocks.toNat_lt
    · rw [hcount, UInt8.ofNat_toNat]
      exact hcountAt

/-- A measurements response as a device may send it. -/
structure MeasurementsResponse where
  param1 : UInt8
  param2 : UInt8
  blocks : List MeasurementBlock
  nonce : Bytes
  fields : List ParsedOpaqueFieldData
  signature : Bytes
  blocks_some : blocks ≠ []
  blocks_count : blocks.length ≤ 255
  blocks_distinct : (blocks.map MeasurementBlock.index).Nodup
  nonce_length : nonce.length = kNonceSize
  fields_some : fields ≠ []
  fields_types : ∀ f ∈ fields, f.type < 65536
  fields_fit : (encodeFields fields).length < 65536
  /-- The most bytes a vector holds. -/
  signature_fits : signature.length < differenceBound

namespace MeasurementsResponse
variable (v : MeasurementsResponse)

def record : Bytes := encodeBlocks v.blocks

def opaqueData : Bytes := encodeFields v.fields

/-- The wire layout. -/
def encode : Bytes :=
  [0x11, 0x60, v.param1, v.param2, UInt8.ofNat v.blocks.length] ++ leBytes 3 v.record.length ++
    v.record ++ v.nonce ++ leBytes 2 v.opaqueData.length ++ v.opaqueData ++ v.signature

/-- The message with these fields and a map of its blocks. -/
def message (blocks : Blocks) : SpdmMeasurementResponseMessage11 where
  spdmVersion := 0x11
  requestResponseCode := 0x60
  param1 := v.param1
  param2 := v.param2
  numberOfBlocks := UInt8.ofNat v.blocks.length
  measurementRecordLength := v.record.length
  measurementRecord := v.record
  measurementBlocks := blocks
  nonce := v.nonce
  opaqueDataLength := v.opaqueData.length
  opaqueData := v.opaqueData
  opaqueFields := v.fields
  signature := v.signature

theorem message_encode (blocks : Blocks) : (v.message blocks).encode = v.encode := by
  simp [SpdmMeasurementResponseMessage11.encode, message, encode]

theorem fields_fit_each : ∀ f ∈ v.fields, f.Fits := by
  intro f hf
  have hfit := v.fields_fit
  obtain ⟨before, after, hsplit⟩ := List.append_of_mem hf
  rw [hsplit, encodeFields, List.flatMap_append, List.flatMap_cons, List.length_append,
    List.length_append, encodeField_length] at hfit
  exact ⟨v.fields_types f hf, by omega⟩

/-- 255 blocks of the largest size fit a record. -/
theorem record_fits : v.record.length < 16777216 := by
  have hcount := v.blocks_count
  have hle := encodeWire_length_le (map_toWire_wellFormed v.blocks)
  rw [List.length_map] at hle
  rw [record, encodeBlocks]
  omega

theorem opaqueData_some : v.opaqueData ≠ [] := by
  rw [opaqueData]
  cases hfields : v.fields with
  | nil => exact absurd hfields v.fields_some
  | cons f rest =>
    intro hempty
    have hlength := congrArg List.length hempty
    rw [encodeFields_cons, List.length_append, encodeField_length, List.length_nil] at hlength
    omega

theorem count_toNat : (UInt8.ofNat v.blocks.length).toNat = v.blocks.length := by
  have hcount := v.blocks_count
  rw [UInt8.toNat_ofNat']
  omega

/-- The entries the blocks leave in the map. -/
def entries : Blocks := v.blocks.map fun b => (b.index, ⟨b.type, b.value.length, b.value⟩)

theorem record_parses : parseRecord v.record v.blocks.length = .ok v.entries.reverse := by
  have hfits : (encodeWire (v.blocks.map MeasurementBlock.toWire)).length < differenceBound :=
    lt_trans v.record_fits (by decide)
  have hparse := parseRecord_encode (map_toWire_wellFormed v.blocks) hfits
  rw [List.length_map, foldl_insertBlock_nil] at hparse
  · rw [List.map_map] at hparse
    exact hparse
  · rw [List.map_map]
    exact v.blocks_distinct

theorem message_wellFormed : (v.message v.entries.reverse).WellFormed v.signature.length where
  spdmVersion := rfl
  requestResponseCode := rfl
  numberOfBlocks := by
    intro hzero
    have hcount := v.count_toNat
    have hlength : v.blocks.length = 0 := by
      rw [← hcount]
      exact congrArg UInt8.toNat hzero
    exact v.blocks_some (List.length_eq_zero_iff.mp hlength)
  recordLength := rfl
  recordFits := v.record_fits
  blocks := by
    rw [message, v.count_toNat]
    exact v.record_parses
  nonce := v.nonce_length
  opaqueLength := rfl
  opaqueFits := v.fields_fit
  opaqueSome := v.opaqueData_some
  fields := parseOpaqueData_encode v.fields_fit_each (lt_trans v.fields_fit (by decide))
  signature := rfl
  signatureFits := v.signature_fits

end MeasurementsResponse

/-- A measurements request as the verifier may send it. -/
structure MeasurementsRequest where
  param1 : UInt8
  param2 : UInt8
  nonce : Bytes
  slotIdParam : UInt8
  nonce_length : nonce.length = kNonceSize

namespace MeasurementsRequest
variable (r : MeasurementsRequest)

def encode : Bytes := [0x11, 0xe0, r.param1, r.param2] ++ r.nonce ++ [r.slotIdParam]

def message : SpdmMeasurementRequestMessage11 :=
  ⟨0x11, 0xe0, r.param1, r.param2, r.nonce, r.slotIdParam⟩

end MeasurementsRequest

/-- Parsing undoes encoding: every response comes back with its fields, a map with its blocks
under their indices and its opaque fields in order, and every request, of 37 bytes, with its
fields. -/
theorem spdm_parse_encode :
    (∀ v : MeasurementsResponse, ∃ blocks, blocks.Perm v.entries ∧
      SpdmMeasurementResponseMessage11.parse v.encode v.signature.length =
        .ok (v.message blocks)) ∧
    (∀ r : MeasurementsRequest, r.encode.length = kRequestLength ∧
      SpdmMeasurementRequestMessage11.parse r.encode = .ok r.message) := by
  constructor
  · intro v
    refine ⟨v.entries.reverse, List.reverse_perm _, ?_⟩
    rw [← v.message_encode v.entries.reverse]
    exact response_parse_encode v.message_wellFormed
  · intro r
    have hwell : r.message.WellFormed := ⟨rfl, rfl, r.nonce_length⟩
    have hencode : r.message.encode = r.encode := by
      simp [SpdmMeasurementRequestMessage11.encode, MeasurementsRequest.message,
        MeasurementsRequest.encode]
    rw [← hencode]
    exact ⟨hwell.length, request_parse_iff.mpr ⟨hwell, rfl⟩⟩

/-- A response with one empty measurement and one opaque field. -/
example : Nonempty MeasurementsResponse :=
  ⟨{ param1 := 0, param2 := 0, blocks := [⟨1, 1, [], by decide, by decide⟩],
     nonce := List.replicate 32 0, fields := [⟨3, [53]⟩], signature := [],
     blocks_some := by simp, blocks_count := by decide, blocks_distinct := by simp,
     nonce_length := rfl, fields_some := by simp, fields_types := by simp,
     fields_fit := by decide, signature_fits := by decide }⟩

end AttestationSdk.Spdm
