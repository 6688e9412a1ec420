import AttestationSdk.GpuSoundness
import AttestationSdk.OpaqueAcceptance

/-! Which accepted GPU reports every accessor reads without an exception or an undefined shift. -/
namespace AttestationSdk.OpaqueData
open AttestationSdk.Spdm Buffer ExceptRules

theorem getField_onlyCodes (fields : Fields) (type : Nat) : OnlyCodes (getField fields type) := by
  rw [getField]
  split
  · exact failsOnly_ok _ _
  · intro f h
    exact ⟨_, (Except.error.inj h).symm⟩

theorem getByteVector_onlyCodes (field : ParsedField) : OnlyCodes field.getByteVector := by
  intro f h
  cases field <;> cases h <;> exact ⟨_, rfl⟩

theorem getPdiVector_onlyCodes (field : ParsedField) : OnlyCodes field.getPdiVector := by
  intro f h
  cases field <;> cases h <;> exact ⟨_, rfl⟩

theorem getBytes_onlyCodes (fields : Fields) (type : Nat) : OnlyCodes (getBytes fields type) :=
  (getField_onlyCodes fields type).bind fun field _ => getByteVector_onlyCodes field

/-- A type that no decoder takes apart is read as the bytes of its last field. -/
theorem Gpu.getBytes_iff {fields : List ParsedOpaqueFieldData} {parser : Gpu.GpuOpaqueDataParser}
    (h : Gpu.create fields = .ok parser) {type : Nat} (hmsr : type ≠ Gpu.MSRSCNT)
    (hpdi : type ≠ Gpu.SWITCH_PDI) {data : Bytes} :
    getBytes parser.fields type = .ok data ↔ ∃ field ∈ lastOf type fields, field.data = data := by
  rw [getBytes, getField, (Gpu.create_stored h).2 type]
  cases hlast : lastOf type fields with
  | none => simp
  | some field =>
    have htype := (of_lastOf hlast).2
    have hdecoded : Gpu.decoded field = .byteVector field.data := by
      rw [Gpu.decoded, htype, if_neg hmsr, if_neg hpdi]
    simp [hdecoded, ParsedField.getByteVector]

end AttestationSdk.OpaqueData

namespace AttestationSdk.Gpu.AttestationReport
open AttestationSdk.Spdm AttestationSdk.OpaqueData AttestationSdk.OpaqueData.Gpu
open AttestationSdk.Text AttestationSdk.Report Buffer ExceptRules
variable (report : AttestationReport)

/-- Every accessor returns its value or an error code. -/
structure AccessorsTotal : Prop where
  driverVersion : OnlyCodes report.getDriverVersion
  vbiosVersion : OnlyCodes report.getVbiosVersion
  gpuSwitchPdis : OnlyCodes report.getGpuSwitchPdis
  driverRimId : ∀ architecture, OnlyCodes (report.getDriverRimId architecture)
  vbiosRimId : OnlyCodes report.getVbiosRimId
  nvdec0Status : OnlyCodes report.getNvdec0Status
  featureFlag : OnlyCodes report.getFeatureFlag

theorem getText_onlyCodes (type : Nat) : OnlyCodes (report.getText type) :=
  (getBytes_onlyCodes _ _).bind fun _ _ => failsOnly_ok _ _

theorem getGpuSwitchPdis_onlyCodes : OnlyCodes report.getGpuSwitchPdis := by
  refine (getField_onlyCodes _ _).bind fun field _ => ?_
  exact (getPdiVector_onlyCodes field).bind fun _ _ => failsOnly_ok _ _

theorem getDriverRimId_onlyCodes (architecture : GpuArchitecture) :
    OnlyCodes (report.getDriverRimId architecture) := by
  refine (getText_onlyCodes report DRIVER_VERSION).bind fun driverVersion _ => ?_
  have hchip := getField_onlyCodes report.opaqueData.fields CHIP_INFO
  cases architecture with
  | Hopper => exact failsOnly_ok _ _
  | Blackwell =>
    cases hfield : getField report.opaqueData.fields CHIP_INFO with
    | ok field => exact (getByteVector_onlyCodes field).bind fun _ _ => failsOnly_ok _ _
    | error f =>
      obtain ⟨e, rfl⟩ := hchip f hfield
      cases e <;> first
        | exact failsOnly_ok _ _
        | exact fun f h => ⟨_, (Except.error.inj h).symm⟩
  | Unknown => exact fun f h => ⟨_, (Except.error.inj h).symm⟩
  | Ampere => exact fun f h => ⟨_, (Except.error.inj h).symm⟩

theorem substr_ok {cs : List Char} {pos len : Nat} (h : pos ≤ cs.length) :
    substr cs pos len = .ok ((cs.drop pos).take len) := if_neg (Nat.not_lt.mpr h)

/-- A failure that is no error code. -/
theorem not_onlyCodes {α : Type} {f : Fault} (h : ∀ e, f ≠ .code e) :
    ¬ OnlyCodes (.error f : Except Fault α) := by
  intro hcodes
  obtain ⟨e, he⟩ := hcodes f rfl
  exact h e he

/-- The position before the middle of the digits of `n` bytes: it wraps to the end of the address
space where there are less than two. -/
theorem beforeMiddle_le_iff (n : Nat) : (n + (sizeModulus - 2)) % sizeModulus ≤ 2 * n ↔ 2 ≤ n := by
  rw [sizeModulus]
  constructor
  · intro h
    by_contra hless
    omega
  · intro h
    rw [show n + (18446744073709551616 - 2) = n - 2 + 18446744073709551616 by omega,
      Nat.add_mod_right]
    exact (Nat.mod_le _ _).trans (by omega)

theorem half_toHexString (data : Bytes) :
    (toHexString data.reverse).toList.length = 2 * data.length ∧
      (toHexString data.reverse).toList.length / 2 = data.length := by
  have hlength := toHexString_length data.reverse
  rw [List.length_reverse] at hlength
  omega

/-- The two digits before the middle are there from two bytes on. -/
theorem getVbiosVersion_onlyCodes_iff : OnlyCodes report.getVbiosVersion ↔
    ∀ data, getBytes report.opaqueData.fields VBIOS_VERSION = .ok data → 2 ≤ data.length := by
  refine (failsOnly_bind_iff (getBytes_onlyCodes _ _)).trans (forall₂_congr fun data _ => ?_)
  obtain ⟨hlength, hhalf⟩ := half_toHexString data
  have hpos := beforeMiddle_le_iff data.length
  dsimp only
  rw [hhalf, substr_ok (by omega), ok_bind]
  by_cases htwo : 2 ≤ data.length
  · rw [substr_ok (hlength ▸ hpos.mpr htwo), ok_bind]
    exact iff_of_true (failsOnly_ok _ _) htwo
  · rw [substr, if_pos (hlength ▸ Nat.lt_of_not_le (mt hpos.mp htwo)), error_bind]
    exact iff_of_false (not_onlyCodes fun e h => by cases h) htwo

theorem getVbiosRimId_onlyCodes (h : OnlyCodes report.getVbiosVersion) :
    OnlyCodes report.getVbiosRimId := by
  refine (getText_onlyCodes report _).bind fun _ _ => ?_
  refine (getText_onlyCodes report _).bind fun _ _ => ?_
  refine (getText_onlyCodes report _).bind fun _ _ => ?_
  exact h.bind fun _ _ => failsOnly_ok _ _

theorem getNvdec0Status_onlyCodes_iff : OnlyCodes report.getNvdec0Status ↔
    ∀ data, getBytes report.opaqueData.fields NVDEC0_STATUS = .ok data → 1 ≤ data.length := by
  refine (failsOnly_bind_iff (getBytes_onlyCodes _ _)).trans (forall₂_congr fun data _ => ?_)
  cases data with
  | nil => exact iff_of_false (not_onlyCodes fun e h => by cases h) (by decide)
  | cons b rest => exact iff_of_true (failsOnly_ok _ _) (Nat.succ_le_succ (Nat.zero_le _))

theorem getFeatureFlag_onlyCodes_iff : OnlyCodes report.getFeatureFlag ↔
    ∀ data, getBytes report.opaqueData.fields FEATURE_FLAG = .ok data → data.length ≤ 8 := by
  refine (failsOnly_bind_iff (getBytes_onlyCodes _ _)).trans (forall₂_congr fun data _ => ?_)
  by_cases height : data.length ≤ 8
  · refine iff_of_true ((orCode_onlyCodes ?_).bind fun _ _ => failsOnly_ok _ _) height
    exact readLittleEndian_inRange height fun _ => (Nat.zero_add _).le
  · have hread : readLittleEndian sizeModulus data 0 data.length = .error .undefined := by
      rw [readLittleEndian, canReadBuffer_of_le (Nat.zero_add _).le, if_neg (by decide), if_pos rfl,
        if_pos (by omega)]
    rw [hread]
    exact iff_of_false (not_onlyCodes fun e h => by cases h) height

/-- Two of the accessors take bytes that may not be there, one shifts by as many as there are. -/
theorem accessorsTotal_iff : report.AccessorsTotal ↔
    (∀ data, getBytes report.opaqueData.fields VBIOS_VERSION = .ok data → 2 ≤ data.length) ∧
    (∀ data, getBytes report.opaqueData.fields NVDEC0_STATUS = .ok data → 1 ≤ data.length) ∧
    ∀ data, getBytes report.opaqueData.fields FEATURE_FLAG = .ok data → data.length ≤ 8 := by
  rw [← getVbiosVersion_onlyCodes_iff, ← getNvdec0Status_onlyCodes_iff,
    ← getFeatureFlag_onlyCodes_iff]
  exact ⟨fun h => ⟨h.vbiosVersion, h.nvdec0Status, h.featureFlag⟩, fun h => {
    driverVersion := getText_onlyCodes report _
    vbiosVersion := h.1
    gpuSwitchPdis := getGpuSwitchPdis_onlyCodes report
    driverRimId := getDriverRimId_onlyCodes report
    vbiosRimId := getVbiosRimId_onlyCodes report h.1
    nvdec0Status := h.2.1
    featureFlag := h.2.2 }⟩

end AttestationSdk.Gpu.AttestationReport

namespace AttestationSdk.Gpu
open AttestationSdk.Spdm AttestationSdk.OpaqueData AttestationSdk.OpaqueData.Gpu
open AttestationSdk.CertChain Buffer ExceptRules

/-- The lengths of the last fields that the accessors rely on. -/
structure ReadableLengths (fields : List ParsedOpaqueFieldData) : Prop where
  vbiosVersion : ∀ field ∈ lastOf VBIOS_VERSION fields, 2 ≤ field.data.length
  nvdec0Status : ∀ field ∈ lastOf NVDEC0_STATUS fields, 1 ≤ field.data.length
  featureFlag : ∀ field ∈ lastOf FEATURE_FLAG fields, field.data.length ≤ 8

theorem parsed_create {lib : X509Lib} {e : GpuEvidence} {report : AttestationReport}
    (h : getParsedAttestationReport lib e = .ok report) :
    create report.response.opaqueFields = .ok report.opaqueData := by
  obtain ⟨messages, -, h⟩ := bind_eq_ok.mp h
  obtain ⟨opaqueData, hcreate, h⟩ := bind_eq_ok.mp h
  obtain rfl := Except.ok.inj h
  exact hcreate

/-- The accessors of an accepted report are total exactly where its last VBIOS version, NVDEC0
status and feature flag have the lengths they take for granted. -/
theorem accepted_report_total_iff {lib : X509Lib} {e : GpuEvidence} {report : AttestationReport}
    (h : getParsedAttestationReport lib e = .ok report) :
    report.AccessorsTotal ↔ ReadableLengths report.response.opaqueFields := by
  have hbytes {type : Nat} (hmsr : type ≠ MSRSCNT) (hpdi : type ≠ SWITCH_PDI) (P : Nat → Prop) :
      (∀ data, getBytes report.opaqueData.fields type = .ok data → P data.length) ↔
        ∀ field ∈ lastOf type report.response.opaqueFields, P field.data.length := by
    simp only [getBytes_iff (parsed_create h) hmsr hpdi]
    constructor
    · exact fun hall field hfield => hall field.data ⟨field, hfield, rfl⟩
    · intro hall data hdata
      obtain ⟨field, hfield, rfl⟩ := hdata
      exact hall field hfield
  rw [AttestationReport.accessorsTotal_iff, hbytes (by decide) (by decide) (2 ≤ ·),
    hbytes (by decide) (by decide) (1 ≤ ·), hbytes (by decide) (by decide) (· ≤ 8)]
  exact ⟨fun h => ⟨h.1, h.2.1, h.2.2⟩, fun h => ⟨h.vbiosVersion, h.nvdec0Status, h.featureFlag⟩⟩

end AttestationSdk.Gpu

namespace AttestationSdk.GpuSample
open AttestationSdk.Gpu AttestationSdk.CertChain AttestationSdk.Report AttestationSdk.Spdm
open AttestationSdk.OpaqueData AttestationSdk.Ocsp AttestationSdk.ChainStatus

theorem accepted_report_total_sample : report.AccessorsTotal :=
  (accepted_report_total_iff reads.parsed).mpr
    ⟨by decide, by decide, by decide⟩

/-- One byte of VBIOS version, no byte of NVDEC0 status and nine of a feature flag. -/
def shortFields : Bytes := field 6 [1] ++ field 11 [] ++ field 36 (List.replicate 9 1)

def shortEvidence : GpuEvidence :=
  ⟨.Hopper, nonce, [0x11, 0xe0, 0, 0xff] ++ nonce ++ [0] ++
    [0x11, 0x60, 0, 0, 2, UInt8.ofNat record.length, 0, 0] ++ record ++ List.replicate 32 0xcd ++
    [UInt8.ofNat shortFields.length, 0] ++ shortFields ++ List.replicate 96 0x11, certChainText⟩

def shortReport : AttestationReport where
  certChain := deviceChain
  request := report.request
  response := { report.response with
    opaqueDataLength := shortFields.length
    opaqueData := shortFields
    opaqueFields := [⟨6, [1]⟩, ⟨11, []⟩, ⟨36, List.replicate 9 1⟩] }
  opaqueData :=
    ⟨[(36, .byteVector (List.replicate 9 1)), (11, .byteVector []), (6, .byteVector [1])], 0⟩

/-- Reading a chain checks no signature with it. -/
theorem createFromCertChainStr_digest (lib : X509Lib)
    (check : X509 → HashAlgorithm → Bytes → Nat → Nat → Bool) (type : CertificateChainType)
    (root text : String) :
    createFromCertChainStr { lib with digestVerify := check } type root text =
      createFromCertChainStr lib type root text := rfl

/-- A report that is accepted and that three accessors cannot read. -/
theorem accepted_report_throws :
    getParsedAttestationReport { x509 with digestVerify := fun _ _ _ _ _ => true } shortEvidence =
      .ok shortReport ∧
    shortReport.getVbiosVersion = .error .exception ∧
    shortReport.getNvdec0Status = .error .exception ∧
    shortReport.getFeatureFlag = .error .undefined ∧ ¬ shortReport.AccessorsTotal := by
  have hchain : createFromCertChainStr { x509 with digestVerify := fun _ _ _ _ _ => true }
      .GPU_DEVICE_IDENTITY deviceRootCert shortEvidence.attestationCertChain = .ok deviceChain :=
    (createFromCertChainStr_digest _ _ _ _ _).trans createFromCertChainStr_chain
  have hnvdec : shortReport.getNvdec0Status = .error .exception := rfl
  refine ⟨?_, ?_, hnvdec, rfl, fun h => ?_⟩
  · rw [getParsedAttestationReport, readMessages, hchain]
    exact ok_of_toOption (by decide +kernel)
  · decide +kernel
  · obtain ⟨e, he⟩ := h.nvdec0Status _ hnvdec
    cases he

end AttestationSdk.GpuSample
