import AttestationSdk.GpuSoundness
import AttestationSdk.SwitchEvidence
import AttestationSdk.SpdmRoundTrip

/-! Every byte of an accepted report: which field it belongs to and that the signature covers it. -/
namespace AttestationSdk.Spdm

/-- The bytes of a response before its signature. -/
def SpdmMeasurementResponseMessage11.signedPart (m : SpdmMeasurementResponseMessage11) : Bytes :=
  [m.spdmVersion, m.requestResponseCode, m.param1, m.param2, m.numberOfBlocks] ++
    Buffer.leBytes 3 m.measurementRecord.length ++ m.measurementRecord ++ m.nonce ++
    Buffer.leBytes 2 m.opaqueData.length ++ m.opaqueData

theorem response_encode_eq (m : SpdmMeasurementResponseMessage11) :
    m.encode = m.signedPart ++ m.signature := by
  simp [SpdmMeasurementResponseMessage11.encode, SpdmMeasurementResponseMessage11.signedPart]

end AttestationSdk.Spdm

namespace AttestationSdk.OpaqueData
open AttestationSdk.Spdm Buffer ExceptRules

theorem parseMsrCount_onlyCodes (data : Bytes) : OnlyCodes (parseMsrCount data) := by
  refine (onlyCodes_require _ _).bind fun _ _ => failsOnly_mapM fun i hi => ?_
  have hlt := List.mem_range.mp hi
  refine orCode_onlyCodes (readLittleEndian_inRange (by decide) fun _ => ?_)
  rw [msrCountElementSize] at hlt ⊢
  omega

theorem copyElements_onlyCodes (size count : Nat) (data : Bytes) :
    OnlyCodes (copyElements size count data) :=
  failsOnly_mapM fun _ _ => orCode_onlyCodes (checkedCopyN_onlyCodes _ _ _ _)

namespace Gpu

theorem parseOpaqueDataVersion_onlyCodes (data : Bytes) :
    OnlyCodes (parseOpaqueDataVersion data) := by
  refine (onlyCodes_require _ _).bind fun _ hlength => orCode_onlyCodes ?_
  have hle : data.length ≤ 8 := of_decide_eq_true (require_ok hlength)
  exact readLittleEndian_inRange hle fun _ => (Nat.zero_add _).le

theorem parseField_onlyCodes (field : ParsedOpaqueFieldData) : OnlyCodes (parseField field) := by
  rw [parseField]
  split
  · exact (parseMsrCount_onlyCodes _).bind fun _ _ => failsOnly_ok _ _
  · split
    · refine FailsOnly.bind ?_ fun _ _ => failsOnly_ok _ _
      exact (onlyCodes_require _ _).bind fun _ _ => copyElements_onlyCodes _ _ _
    · exact failsOnly_ok _ _

theorem create_onlyCodes (fields : List ParsedOpaqueFieldData) : OnlyCodes (create fields) := by
  refine (failsOnly_foldlM (fun version field _ => ?_) 0).bind fun _ _ => ?_
  · rw [readVersion]
    split
    · exact failsOnly_ok _ _
    · exact parseOpaqueDataVersion_onlyCodes _
  refine (onlyCodes_require _ _).bind fun _ _ => ?_
  refine (failsOnly_foldlM (fun fields field _ => ?_) []).bind fun _ _ => failsOnly_ok _ _
  refine (onlyCodes_require _ _).bind fun _ _ => ?_
  exact (parseField_onlyCodes field).bind fun _ _ => failsOnly_ok _ _

end Gpu

namespace Switch

theorem create_onlyCodes (fields : List ParsedOpaqueFieldData) : OnlyCodes (create fields) := by
  refine failsOnly_foldlM (fun fields field _ => ?_) []
  refine (onlyCodes_require _ _).bind fun _ _ => ?_
  split
  · exact (parseMsrCount_onlyCodes _).bind fun _ _ => failsOnly_ok _ _
  · split
    · exact (copyElements_onlyCodes _ _ _).bind fun _ _ => failsOnly_ok _ _
    · split
      · exact failsOnly_ok _ _
      · exact failsOnly_ok _ _

end Switch

end AttestationSdk.OpaqueData

namespace AttestationSdk.CertChain
open AttestationSdk.ChainStatus Buffer ExceptRules

theorem internalError_onlyCodes {α : Type} : OnlyCodes (internalError : Except Fault α) := by
  intro f h
  cases h
  exact ⟨_, rfl⟩

theorem mapCode_onlyCodes {α : Type} {e : Error} {x : Except Fault α} (h : OnlyCodes x) :
    OnlyCodes (mapCode e x) := by
  cases x with
  | ok a => exact failsOnly_ok _ a
  | error f =>
    obtain ⟨code, rfl⟩ := h f rfl
    intro f' hf
    cases hf
    exact ⟨e, rfl⟩

theorem createFromCertChainStr_onlyCodes (lib : X509Lib) (type : CertificateChainType)
    (rootCert certChain : String) :
    OnlyCodes (createFromCertChainStr lib type rootCert certChain) := by
  rw [createFromCertChainStr]
  split
  · exact internalError_onlyCodes
  · refine FailsOnly.bind ?_ fun chain _ => ?_
    · rw [X509Lib.create]
      split
      · exact internalError_onlyCodes
      · exact failsOnly_ok _ _
    refine (failsOnly_foldlM (fun chain piece _ => mapCode_onlyCodes ?_) chain).bind fun _ _ => ?_
    · rw [X509Lib.pushBack]
      split
      · exact internalError_onlyCodes
      · exact failsOnly_ok _ _
    split
    · exact internalError_onlyCodes
    · exact failsOnly_ok _ _

theorem verifySignaturePkcs11_onlyCodes (lib : X509Lib) (chain : X509CertChain)
    (data signature : Bytes) (md : HashAlgorithm) :
    OnlyCodes (verifySignaturePkcs11 lib chain data signature md) := by
  rw [verifySignaturePkcs11]
  split
  · exact internalError_onlyCodes
  · dsimp only
    split
    · exact internalError_onlyCodes
    · split
      · exact failsOnly_ok _ _
      · exact internalError_onlyCodes

end AttestationSdk.CertChain

namespace AttestationSdk.Report
open AttestationSdk.Spdm AttestationSdk.CertChain AttestationSdk.ChainStatus
open Buffer ByteLayout ExceptRules

/-- The report is a request and a response without a gap; its signature is the end of the report
and was checked over all the bytes before it, in which every other field stands. -/
structure LaidOut (lib : X509Lib) (arch : ArchitectureData) (data : Bytes) (m : SignedMessages) :
    Prop where
  layout : data = m.request.encode ++ m.response.signedPart ++ m.response.signature
  request : m.request.encode.length = kRequestLength
  nonce : m.response.nonce.length = kNonceSize
  recordLength : m.response.measurementRecord.length < 16777216
  opaqueLength : m.response.opaqueData.length < 65536
  signatureLength : m.response.signature.length = arch.signatureLength
  signature : m.response.signature = reportSignature arch data
  signed : signedPrefix arch data = m.request.encode ++ m.response.signedPart
  verified : SignedBy lib m.certChain.certs arch.hashAlgorithm (signedPrefix arch data)
    m.response.signature
  requestNonceAt : FieldAt (signedPrefix arch data) 4 m.request.nonce
  recordAt : FieldAt (signedPrefix arch data) 45 m.response.measurementRecord
  nonceAt : FieldAt (signedPrefix arch data) (45 + m.response.measurementRecord.length)
    m.response.nonce
  opaqueDataAt : FieldAt (signedPrefix arch data) (79 + m.response.measurementRecord.length)
    m.response.opaqueData

/-- Where the fields stand in the signed bytes. -/
theorem fields_signed {request : SpdmMeasurementRequestMessage11}
    {response : SpdmMeasurementResponseMessage11} (hrequest : request.WellFormed)
    (hnonce : response.nonce.length = kNonceSize) :
    FieldAt (request.encode ++ response.signedPart) 4 request.nonce ∧
      FieldAt (request.encode ++ response.signedPart) 45 response.measurementRecord ∧
      FieldAt (request.encode ++ response.signedPart) (45 + response.measurementRecord.length)
        response.nonce ∧
      FieldAt (request.encode ++ response.signedPart) (79 + response.measurementRecord.length)
        response.opaqueData := by
  have hall : FieldAt (request.encode ++ response.signedPart) 0
      (request.encode ++ response.signedPart) := (fieldAt_all rfl).mpr rfl
  obtain ⟨hrequestAt, hresponseAt⟩ := fieldAt_append.mp hall
  obtain ⟨-, -, -, -, hnonceAt, -⟩ := (request_fieldAt hrequest.nonce).mp hrequestAt
  rw [hrequest.length, kRequestLength, SpdmMeasurementResponseMessage11.signedPart] at hresponseAt
  simp only [fieldAt_append, List.length_append, List.length_cons, List.length_nil, leBytes_length,
    hnonce, kNonceSize] at hresponseAt
  obtain ⟨⟨⟨⟨⟨-, -⟩, hrecordAt⟩, hresponseNonceAt⟩, -⟩, hopaqueAt⟩ := hresponseAt
  refine ⟨hnonceAt, hrecordAt, ?_, ?_⟩
  · have hoffset : 45 + response.measurementRecord.length =
        0 + 37 + (0 + 1 + 1 + 1 + 1 + 1 + 3 + response.measurementRecord.length) := by omega
    rw [hoffset]
    exact hresponseNonceAt
  · have hoffset : 79 + response.measurementRecord.length =
        0 + 37 + (0 + 1 + 1 + 1 + 1 + 1 + 3 + response.measurementRecord.length + 32 + 2) := by omega
    rw [hoffset]
    exact hopaqueAt

theorem readMessages_laidOut {lib : X509Lib} {type : CertificateChainType} {codes : ReportCodes}
    {arch : Except Fault ArchitectureData} {data : Bytes} {certChain : String}
    {m : SignedMessages} (h : readMessages lib type codes arch data certChain = .ok m) :
    ∃ a, arch = .ok a ∧ LaidOut lib a data m := by
  obtain ⟨a, requestBytes, harch, -, hsigned, hslice, hrequest, hresponse⟩ := readMessages_calls h
  obtain ⟨hrequestWell, rfl⟩ := request_parse_iff.mp hrequest
  obtain ⟨hresponseWell, hrest⟩ := response_parse_ok hresponse
  obtain ⟨hrequestAt, -⟩ := slice_iff.mp hslice
  have hlayout : data = m.request.encode ++ m.response.signedPart ++ m.response.signature := by
    have htake : m.request.encode = data.take kRequestLength := by
      rw [hrequestAt.eq_slice, List.drop_zero, hrequestWell.length]
    rw [List.append_assoc, ← response_encode_eq, ← hrest, htake, List.take_append_drop]
  have hcut : data.length - a.signatureLength =
      (m.request.encode ++ m.response.signedPart).length := by
    rw [hlayout, List.length_append, hresponseWell.signature, Nat.add_sub_cancel]
  have hprefix : signedPrefix a data = m.request.encode ++ m.response.signedPart := by
    rw [signedPrefix, hcut, hlayout, List.take_left]
  have hsignature : m.response.signature = reportSignature a data := by
    rw [reportSignature, hcut, hlayout, List.drop_left]
  obtain ⟨hat1, hat2, hat3, hat4⟩ := fields_signed hrequestWell hresponseWell.nonce
  refine ⟨a, harch, ?_⟩
  exact {
    layout := hlayout
    request := hrequestWell.length
    nonce := hresponseWell.nonce
    recordLength := hresponseWell.recordFits
    opaqueLength := hresponseWell.opaqueFits
    signatureLength := hresponseWell.signature
    signature := hsignature
    signed := hprefix
    verified := by
      rw [hsignature]
      exact hsigned
    requestNonceAt := hprefix ▸ hat1
    recordAt := hprefix ▸ hat2
    nonceAt := hprefix ▸ hat3
    opaqueDataAt := hprefix ▸ hat4 }

/-- Reading a report ends in a code at worst, where a signature is no shorter than a request. -/
theorem readMessages_onlyCodes {lib : X509Lib} {type : CertificateChainType} {codes : ReportCodes}
    {arch : Except Fault ArchitectureData} (harch : OnlyCodes arch)
    (hlength : ∀ a, arch = .ok a → kRequestLength ≤ a.signatureLength) {data : Bytes}
    {certChain : String} : OnlyCodes (readMessages lib type codes arch data certChain) := by
  refine (mapCode_onlyCodes (createFromCertChainStr_onlyCodes _ _ _ _)).bind fun _ _ => ?_
  refine harch.bind fun a ha => (onlyCodes_require _ _).bind fun _ hlong => ?_
  refine (mapCode_onlyCodes (verifySignaturePkcs11_onlyCodes _ _ _ _ _)).bind fun _ _ => ?_
  have hlt : a.signatureLength < data.length := of_decide_eq_true (require_ok hlong)
  have hmin := hlength a ha
  refine FailsOnly.bind ?_ fun requestBytes _ => ?_
  · rw [slice, if_pos (by omega)]
    exact failsOnly_ok _ _
  refine (mapCode_onlyCodes (request_onlyCodes _)).bind fun _ _ => ?_
  exact (mapCode_onlyCodes (response_onlyCodes _ _)).bind fun _ _ => failsOnly_ok _ _

/-- A report that is accepted, of a GPU or of a switch, is laid out without a gap and signed but
for its signature, and no report, chain or architecture makes the reader leave its buffers. -/
theorem accepted_reports_laidOut (lib : X509Lib) :
    (∀ e : Gpu.GpuEvidence, OnlyCodes (Gpu.getParsedAttestationReport lib e) ∧
      ∀ report, Gpu.getParsedAttestationReport lib e = .ok report →
        ∃ arch, Gpu.architectureData e.architecture = .ok arch ∧
          LaidOut lib arch e.attestationReport report.toSignedMessages) ∧
    (∀ e : Switch.SwitchEvidence, OnlyCodes (Switch.getParsedAttestationReport lib e) ∧
      ∀ report, Switch.getParsedAttestationReport lib e = .ok report →
        ∃ arch, Switch.architectureData e.architecture = .ok arch ∧
          LaidOut lib arch.toArchitectureData e.attestationReport report.toSignedMessages) := by
  refine ⟨fun e => ⟨?_, fun report h => ?_⟩, fun e => ⟨?_, fun report h => ?_⟩⟩
  · have harch : OnlyCodes (Gpu.architectureData e.architecture) := by
      intro f hf
      cases ha : e.architecture <;> rw [ha] at hf <;> cases hf <;> exact ⟨_, rfl⟩
    refine (readMessages_onlyCodes harch fun a ha => ?_).bind fun messages _ => ?_
    · rw [(Gpu.architectureData_ok ha).2]
      decide
    exact (OpaqueData.Gpu.create_onlyCodes _).bind fun _ _ => failsOnly_ok _ _
  · obtain ⟨messages, hmessages, h⟩ := bind_eq_ok.mp h
    obtain ⟨opaqueData, _, h⟩ := bind_eq_ok.mp h
    cases h
    exact readMessages_laidOut hmessages
  · have harch : OnlyCodes ((Switch.architectureData e.architecture).map
        (·.toArchitectureData)) := by
      intro f hf
      cases ha : e.architecture <;> rw [ha] at hf <;> cases hf <;> exact ⟨_, rfl⟩
    refine (readMessages_onlyCodes harch fun a ha => ?_).bind fun messages _ => ?_
    · cases harchitecture : e.architecture <;> rw [harchitecture] at ha <;> cases ha
      decide
    refine (mapCode_onlyCodes (OpaqueData.Switch.create_onlyCodes _)).bind fun _ _ => ?_
    exact failsOnly_ok _ _
  · obtain ⟨messages, hmessages, h⟩ := bind_eq_ok.mp h
    obtain ⟨fields, _, h⟩ := bind_eq_ok.mp h
    cases h
    obtain ⟨a, ha, hlaid⟩ := readMessages_laidOut hmessages
    cases harchitecture : Switch.architectureData e.architecture with
    | error f =>
      rw [harchitecture] at ha
      cases ha
    | ok arch =>
      rw [harchitecture] at ha
      cases ha
      exact ⟨arch, rfl, hlaid⟩

theorem gpuSample_laidOut :
    LaidOut GpuSample.env.x509 ⟨.sha384, 96, .FWID_2_23_133_5_4_1⟩
      GpuSample.evidence.attestationReport GpuSample.report.toSignedMessages := by
  obtain ⟨arch, harch, h⟩ := ((accepted_reports_laidOut GpuSample.env.x509).1
    GpuSample.evidence).2 GpuSample.report GpuSample.reads.parsed
  cases harch
  exact h

/-- As many measurements as the response announces; every block it carries is among them and
is the only one of its index. -/
structure Unshadowed (data : Bytes) (m : SignedMessages) : Prop where
  count : m.response.measurementBlocks.length = m.response.numberOfBlocks.toNat
  visible : ∀ ws, SentBlocks data ws → ∀ w ∈ ws,
    ((w.index.toNat : Int) - 1, w.value) ∈ m.getMeasurements
  only : ∀ ws, SentBlocks data ws → ∀ w ∈ ws, ∀ value,
    ((w.index.toNat : Int) - 1, value) ∈ m.getMeasurements → value = w.value

/-- No block of an accepted response shadows another exactly when the blocks that it carries
have different indices. -/
theorem unshadowed_iff {data : Bytes} {signatureLength : Nat}
    {response : SpdmMeasurementResponseMessage11}
    (h : SpdmMeasurementResponseMessage11.parse data signatureLength = .ok response)
    (chain : X509CertChain) (request : SpdmMeasurementRequestMessage11) :
    Unshadowed data ⟨chain, request, response⟩ ↔
      ∃ ws, SentBlocks data ws ∧ (ws.map WireBlock.index).Nodup := by
  obtain ⟨hwell, -⟩ := response_parse_ok h
  obtain ⟨ws, -, hwire, hblocks⟩ := parseRecord_ok hwell.blocks
  have hsent := (sentBlocks_iff h).mpr hwire
  constructor
  · intro hall
    refine ⟨ws, hsent, (foldl_insertBlock_length_iff ws).mp ?_⟩
    rw [← hblocks, hwire.count]
    exact hall.count
  · rintro ⟨ws', hsent', hnodup⟩
    obtain rfl := hwire.unique ((sentBlocks_iff h).mp hsent')
    rw [foldl_insertBlock_nil hnodup] at hblocks
    have hmem : ∀ index value, ((index, value) : Int × Bytes) ∈
        SignedMessages.getMeasurements ⟨chain, request, response⟩ ↔
          ∃ w ∈ ws, (w.index.toNat : Int) - 1 = index ∧ w.value = value := by
      intro index value
      simp only [SignedMessages.getMeasurements, hblocks, List.map_reverse, List.mem_reverse,
        List.map_map, List.mem_map, Function.comp, WireBlock.entry, WireBlock.block, Prod.mk.injEq]
    refine ⟨?_, ?_, ?_⟩
    · rw [hblocks, List.length_reverse, List.length_map, hwire.count]
    · intro ws' hsent' w hw
      obtain rfl := hwire.unique ((sentBlocks_iff h).mp hsent')
      exact (hmem _ _).mpr ⟨w, hw, rfl, rfl⟩
    · intro ws' hsent' w hw value hvalue
      obtain rfl := hwire.unique ((sentBlocks_iff h).mp hsent')
      obtain ⟨w', hw', hindex, rfl⟩ := (hmem _ _).mp hvalue
      have hsame : w'.index = w.index := UInt8.toNat_inj.mp (by omega)
      rw [List.inj_on_of_nodup_map hnodup hw' hw hsame]

/-- A response with the given blocks, one opaque field and a signature of 96 bytes. -/
def responseWith (ws : List WireBlock) : SpdmMeasurementResponseMessage11 where
  spdmVersion := 0x11
  requestResponseCode := 0x60
  param1 := 0
  param2 := 0
  numberOfBlocks := UInt8.ofNat ws.length
  measurementRecordLength := (encodeWire ws).length
  measurementRecord := encodeWire ws
  measurementBlocks := ws.foldl insertBlock []
  nonce := List.replicate 32 0xcd
  opaqueDataLength := 5
  opaqueData := [3, 0, 1, 0, 53]
  opaqueFields := [⟨3, [53]⟩]
  signature := List.replicate 96 0x11

theorem responseWith_parses {ws : List WireBlock} (hsome : ws ≠ []) (hcount : ws.length < 256)
    (hwell : ∀ w ∈ ws, w.WellFormed) :
    SpdmMeasurementResponseMessage11.parse (responseWith ws).encode 96 =
      .ok (responseWith ws) := by
  have hle := encodeWire_length_le hwell
  have hnat : (UInt8.ofNat ws.length).toNat = ws.length := by
    rw [UInt8.toNat_ofNat']
    omega
  refine response_parse_encode ?_
  exact {
    spdmVersion := rfl
    requestResponseCode := rfl
    numberOfBlocks := by
      intro hzero
      have hlength : (UInt8.ofNat ws.length).toNat = 0 := congrArg UInt8.toNat hzero
      exact hsome (List.length_eq_zero_iff.mp (hnat ▸ hlength))
    recordLength := rfl
    recordFits := (by omega : (encodeWire ws).length < 16777216)
    blocks := by
      rw [responseWith, hnat]
      exact parseRecord_encode hwell (by rw [differenceBound]; omega)
    nonce := rfl
    opaqueLength := rfl
    opaqueFits := (by decide : [3, 0, 1, 0, 53].length < 65536)
    opaqueSome := List.cons_ne_nil _ _
    fields := rfl
    signature := rfl
    signatureFits := by decide }

theorem wellFormed_small {index : UInt8} (type : UInt8) {value hidden : Bytes} (hindex : 1 ≤ index)
    (hlength : value.length + hidden.length < 1000) :
    (⟨index, type, value, hidden⟩ : WireBlock).WellFormed := by
  refine ⟨hindex, ?_⟩
  rw [WireBlock.measurementSize]
  dsimp only
  omega

/-- Two blocks of different indices. -/
theorem unshadowed_two_indices :
    Unshadowed (responseWith [⟨1, 1, [0xaa], []⟩, ⟨2, 1, [0xbb], []⟩]).encode
      ⟨GpuSample.deviceChain, GpuSample.report.request,
        responseWith [⟨1, 1, [0xaa], []⟩, ⟨2, 1, [0xbb], []⟩]⟩ := by
  have hwell : ∀ w ∈ ([⟨1, 1, [0xaa], []⟩, ⟨2, 1, [0xbb], []⟩] : List WireBlock),
      w.WellFormed := by
    refine List.forall_mem_cons.mpr ⟨wellFormed_small 1 (by decide) (by decide), ?_⟩
    exact List.forall_mem_singleton.mpr (wellFormed_small 1 (by decide) (by decide))
  have hparse := responseWith_parses (List.cons_ne_nil _ _) (by decide) hwell
  refine (unshadowed_iff hparse _ _).mpr ⟨_, (sentBlocks_iff hparse).mpr ⟨rfl, hwell, rfl⟩, ?_⟩
  decide

/-- Two blocks of index 1: the second takes the place of the first. -/
theorem shadowed_block :
    ¬ ∀ (data : Bytes) (signatureLength : Nat) (response : SpdmMeasurementResponseMessage11)
      (chain : X509CertChain) (request : SpdmMeasurementRequestMessage11),
      SpdmMeasurementResponseMessage11.parse data signatureLength = .ok response →
      Unshadowed data ⟨chain, request, response⟩ := by
  intro h
  have hwell : ∀ w ∈ ([⟨1, 1, [0xaa], []⟩, ⟨1, 1, [0xbb], []⟩] : List WireBlock),
      w.WellFormed := by
    refine List.forall_mem_cons.mpr ⟨wellFormed_small 1 (by decide) (by decide), ?_⟩
    exact List.forall_mem_singleton.mpr (wellFormed_small 1 (by decide) (by decide))
  have hparse := responseWith_parses (List.cons_ne_nil _ _) (by decide) hwell
  have hcount := (h _ _ _ GpuSample.deviceChain GpuSample.report.request hparse).count
  exact absurd hcount (by decide)

end AttestationSdk.Report
