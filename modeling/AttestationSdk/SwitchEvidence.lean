import AttestationSdk.AttestationReport

/-! NVSwitch evidence: `switch/evidence.cpp`. -/
namespace AttestationSdk.Switch
open AttestationSdk.Spdm AttestationSdk.OpaqueData AttestationSdk.OpaqueData.Switch
open AttestationSdk.CertChain AttestationSdk.Text AttestationSdk.Report
open AttestationSdk.Ocsp AttestationSdk.ChainStatus Buffer Effects

inductive SwitchArchitecture where
  | Unknown | LS10 | SV10 | LR10
  deriving Repr, DecidableEq

def SwitchArchitecture.toString : SwitchArchitecture → String
  | .LS10 => "LS10"
  | .SV10 => "SV10"
  | .LR10 => "LR10"
  | .Unknown => "UNKNOWN"

structure SwitchArchitectureData extends ArchitectureData where
  project : String
  projectSku : String
  chipSku : String
  deriving Repr, DecidableEq

/-- `SwitchArchitectureData::create`. -/
def architectureData : SwitchArchitecture → Except Fault SwitchArchitectureData
  | .LS10 => .ok ⟨⟨.sha384, 96, .FWID_2_23_133_5_4_1⟩, "5612", "0002", "890"⟩
  | _ => .error (.code .SwitchArchitectureNotSupported)

structure SwitchEvidence where
  architecture : SwitchArchitecture
  nonce : Bytes
  attestationReport : Bytes
  attestationCertChain : String
  deriving Repr, DecidableEq

structure AttestationReport extends SignedMessages where
  fields : Fields
  deriving Repr, DecidableEq

def reportCodes : ReportCodes := ⟨.SwitchEvidenceInvalidSignature, .InternalError⟩

/-- `SwitchEvidence::get_parsed_attestation_report`, by `AttestationReport::create`. -/
def getParsedAttestationReport (lib : X509Lib) (e : SwitchEvidence) :
    Except Fault AttestationReport := do
  let messages ← readMessages lib .NVSWITCH_DEVICE_IDENTITY reportCodes
    ((architectureData e.architecture).map (·.toArchitectureData)) e.attestationReport
    e.attestationCertChain
  let fields ← mapCode .InternalError (create messages.response.opaqueFields)
  return ⟨messages, fields⟩

namespace AttestationReport
variable (report : AttestationReport)

def getFwid : Except Fault Bytes := getBytes report.fields FWID

def getVbiosVersion : Except Fault String := do
  return removeNullTerminators (ofBytes (← getBytes report.fields VBIOS_VERSION))

def getSwitchPdi : Except Fault String := do
  return toUpper (toHexString (← getBytes report.fields DEVICE_PDI))

def getSwitchGpuPdis : Except Fault (List String) := do
  let pdis ← (← getField report.fields SWITCH_GPU_PDIS).getPdiVector
  return sortedSet (pdis.map fun pdi => toUpper (toHexString pdi))

/-- `get_vbios_rim_id`. -/
def getVbiosRimId (architecture : SwitchArchitecture) : Except Fault String := do
  let version ← report.getVbiosVersion
  let version := toUpper (String.ofList (version.toList.filter (· ≠ '.')))
  let arch ← architectureData architecture
  return "NV_SWITCH_BIOS_" ++ arch.project ++ "_" ++ arch.projectSku ++ "_" ++ arch.chipSku ++ "_"
    ++ version

end AttestationReport

structure SwitchEvidenceClaims where
  switchArchMatch : Bool
  switchArNonceMatch : Bool
  switchBiosVersion : String
  switchPdi : String
  switchGpuPdis : List String
  attestationReportClaims : AttestationReportClaims
  deriving Repr, DecidableEq

/-- `generate_switch_evidence_claims`. -/
def generateSwitchEvidenceClaims {σ : Type} (lib : X509Lib) (ocsp : OcspLib)
    (client : OcspClient σ) (now : Prog Fault σ Int) (e : SwitchEvidence)
    (report : AttestationReport) : Prog Fault σ SwitchEvidenceClaims := do
  let arch ← Prog.lift (architectureData e.architecture)
  Prog.lift (require (report.request.nonce = e.nonce) .SwitchEvidenceNonceMismatch)
  let switchBiosVersion ← Prog.lift report.getVbiosVersion
  let switchPdi ← Prog.lift (orMissing "" report.getSwitchPdi)
  let switchGpuPdis ← Prog.lift (orMissing [] report.getSwitchGpuPdis)
  let attestationReportClaims ← generateAttestationReportClaims lib ocsp client now
    .SwitchEvidenceFwidMismatch arch.fwidType report.certChain report.getFwid
  return {
    switchArchMatch := true, switchArNonceMatch := true, switchBiosVersion, switchPdi,
    switchGpuPdis, attestationReportClaims }

end AttestationSdk.Switch
