import AttestationSdk.AttestationReport

/-! GPU evidence: `gpu/evidence.cpp`. -/
namespace AttestationSdk.Gpu
open AttestationSdk.Spdm AttestationSdk.OpaqueData AttestationSdk.OpaqueData.Gpu
open AttestationSdk.CertChain AttestationSdk.Text AttestationSdk.Report
open AttestationSdk.Ocsp AttestationSdk.ChainStatus Buffer Effects

inductive GpuArchitecture where
  | Unknown | Ampere | Hopper | Blackwell
  deriving Repr, DecidableEq

def GpuArchitecture.toString : GpuArchitecture → String
  | .Hopper => "HOPPER"
  | .Blackwell => "BLACKWELL"
  | _ => "UNKNOWN"

/-- `GpuArchitectureData::create`. -/
def architectureData : GpuArchitecture → Except Fault ArchitectureData
  | .Hopper => .ok ⟨.sha384, 96, .FWID_2_23_133_5_4_1⟩
  | .Blackwell => .ok ⟨.sha384, 96, .FWID_2_23_133_5_4_1_1⟩
  | _ => .error (.code .GpuArchitectureNotSupported)

structure GpuEvidence where
  architecture : GpuArchitecture
  nonce : Bytes
  attestationReport : Bytes
  attestationCertChain : String
  deriving Repr, DecidableEq

structure AttestationReport extends SignedMessages where
  opaqueData : GpuOpaqueDataParser
  deriving Repr, DecidableEq

def reportCodes : ReportCodes := ⟨.GpuEvidenceInvalidSignature, .GpuEvidenceInvalid⟩

/-- `GpuEvidence::get_parsed_attestation_report`, by `AttestationReport::create`. -/
def getParsedAttestationReport (lib : X509Lib) (e : GpuEvidence) :
    Except Fault AttestationReport := do
  let messages ← readMessages lib .GPU_DEVICE_IDENTITY reportCodes
    (architectureData e.architecture) e.attestationReport e.attestationCertChain
  let opaqueData ← create messages.response.opaqueFields
  return ⟨messages, opaqueData⟩

namespace AttestationReport
variable (report : AttestationReport)

/-- A byte field as text up to its first NUL. -/
def getText (type : Nat) : Except Fault String := do
  return removeNullTerminators (ofBytes (← getBytes report.opaqueData.fields type))

def getDriverVersion : Except Fault String := report.getText DRIVER_VERSION

/-- `std::string::substr` on characters. -/
def substr (cs : List Char) (pos len : Nat) : Except Fault (List Char) :=
  if cs.length < pos then .error .exception else .ok ((cs.drop pos).take len)

/-- `get_vbios_version`: the second half of the reversed bytes in hex, then the pair
before the middle, pairs separated by dots. The position before the middle wraps
where there is none. -/
def getVbiosVersion : Except Fault String := do
  let data ← getBytes report.opaqueData.fields VBIOS_VERSION
  let hex := (toHexString data.reverse).toList
  let half := hex.length / 2
  let secondHalf ← substr hex half hex.length
  let beforeMiddle ← substr hex ((half + (sizeModulus - 2)) % sizeModulus) 2
  let pairs := pairsOf (secondHalf ++ beforeMiddle)
  return removeNullTerminators (toUpper (".".intercalate pairs))

/-- `get_gpu_switch_pdis`. -/
def getGpuSwitchPdis : Except Fault (List String) := do
  let pdis ← (← getField report.opaqueData.fields SWITCH_PDI).getPdiVector
  return sortedSet (pdis.map fun pdi => toUpper (toHexString pdi.reverse))

def getFwid : Except Fault Bytes := getBytes report.opaqueData.fields FWID

/-- `get_driver_rim_id`. -/
def getDriverRimId (architecture : GpuArchitecture) : Except Fault String := do
  let driverVersion ← report.getDriverVersion
  match architecture with
  | .Hopper => return "NV_GPU_DRIVER_GH100_" ++ driverVersion
  | .Blackwell => match getField report.opaqueData.fields CHIP_INFO with
    | .error (.code .SpdmFieldNotFound) => return "NV_GPU_CC_DRIVER_GB100_" ++ driverVersion
    | .error f => .error f
    | .ok field => do
      let chip := removeNullTerminators (ofBytes (← field.getByteVector))
      return "NV_GPU_CC_DRIVER_" ++ chip ++ "_" ++ driverVersion
  | _ => .error (.code .InternalError)

/-- `get_vbios_rim_id`. -/
def getVbiosRimId : Except Fault String := do
  let project ← report.getText PROJECT
  let projectSku ← report.getText PROJECT_SKU
  let chipSku ← report.getText CHIP_SKU
  let version ← report.getVbiosVersion
  let version := String.ofList (version.toList.filter (· ≠ '.'))
  return "NV_GPU_VBIOS_" ++ project ++ "_" ++ projectSku ++ "_" ++ chipSku ++ "_" ++ version

/-- `get_nvdec0_status`: `at(0)` throws on an empty field. -/
def getNvdec0Status : Except Fault UInt8 := do
  match ← getBytes report.opaqueData.fields NVDEC0_STATUS with
  | [] => .error .exception
  | b :: _ => return b

/-- `get_feature_flag` and `to_string` of the flag, which is cast to an `int`. A field
of more than eight bytes is logged and read all the same. -/
def getFeatureFlag : Except Fault String := do
  let data ← getBytes report.opaqueData.fields FEATURE_FLAG
  let flag ← orCode .InternalError (readLittleEndian sizeModulus data 0 data.length)
  return match flag % 4294967296 with
    | 0 => "mpt"
    | 1 => "spt"
    | 2 => "ppcie"
    | _ => "invalid"

end AttestationReport

structure GpuEvidenceClaims where
  gpuArArchMatch : Bool
  driverVersion : String
  vbiosVersion : String
  gpuSwitchPdis : List String
  attestationReportClaims : AttestationReportClaims
  gpuArNonceMatch : Bool
  deriving Repr, DecidableEq

/-- `generate_gpu_evidence_claims`. -/
def generateGpuEvidenceClaims {σ : Type} (lib : X509Lib) (ocsp : OcspLib) (client : OcspClient σ)
    (now : Prog Fault σ Int) (e : GpuEvidence) (report : AttestationReport) :
    Prog Fault σ GpuEvidenceClaims := do
  let driverVersion ← Prog.lift report.getDriverVersion
  let vbiosVersion ← Prog.lift report.getVbiosVersion
  let gpuSwitchPdis ← Prog.lift (orMissing [] report.getGpuSwitchPdis)
  let arch ← Prog.lift (architectureData e.architecture)
  Prog.lift (require (report.request.nonce = e.nonce) .GpuEvidenceNonceMismatch)
  let attestationReportClaims ← generateAttestationReportClaims lib ocsp client now
    .GpuEvidenceFwidMismatch arch.fwidType report.certChain report.getFwid
  return {
    gpuArArchMatch := true, driverVersion, vbiosVersion, gpuSwitchPdis, attestationReportClaims,
    gpuArNonceMatch := true }

end AttestationSdk.Gpu
