import AttestationSdk.OfflineMode
import AttestationSdk.RecordedEvidence

/-! The processes of the command line tool: `main.cpp`, `collect_evidence.cpp` and the end of
`attest.cpp`. -/
namespace AttestationSdk.Cli
open AttestationSdk.Claims AttestationSdk.Attestation AttestationSdk.ChainStatus AttestationSdk.Rim
open AttestationSdk.Eat AttestationSdk.Gpu AttestationSdk.Switch AttestationSdk.Http
open AttestationSdk.Collect AttestationSdk.LocalVerifier AttestationSdk.OverallPolicy Json Effects
open Prog

/-- `nvat_rc_from_cpp`: the codes of `nvat.h`. -/
def nvatRcFromCpp : Error → Nat
  | .Ok => 0
  | .Unknown => 1
  | .InternalError => 2
  | .NotInitialized => 3
  | .BadArgument => 4
  | .AllocFailed => 5
  | .FeatureNotEnabled => 6
  | .XmlInitFailed => 7
  | .LibXml2Error => 10
  | .RelyingPartyPolicyMismatch => 11
  | .OverallResultFalse => 12
  | .JsonSerializationError => 13
  | .CacheObjectNotFound => 14
  | .RimForbidden => 101
  | .RimInternalError => 102
  | .RimConnectionError => 103
  | .RimNotFound => 104
  | .RimInvalidSignature => 105
  | .RimInvalidSchema => 106
  | .RimMeasurementNotFound => 107
  | .RimMeasurementConflict => 108
  | .OcspInvalidResponse => 201
  | .OcspServerError => 202
  | .OcspInvalidRequest => 203
  | .OcspStatusNotGood => 204
  | .OcspForbidden => 205
  | .PolicyEvaluationError => 301
  | .SpdmParseError => 401
  | .SpdmOpaqueDataParseError => 402
  | .SpdmMeasurementRecordParseError => 403
  | .SpdmRequestParseError => 404
  | .SpdmFieldNotFound => 405
  | .NvmlInitFailed => 500
  | .NvmlError => 501
  | .GpuArchitectureNotSupported => 502
  | .GpuEvidenceInvalid => 503
  | .GpuEvidenceNonceMismatch => 504
  | .GpuEvidenceDriverRimVersionMismatch => 505
  | .GpuEvidenceVbiosRimVersionMismatch => 506
  | .GpuEvidenceFwidMismatch => 507
  | .GpuEvidenceInvalidSignature => 508
  | .GpuModeNotSupported => 509
  | .GpuFwNotSupported => 510
  | .NscqInitFailed => 600
  | .NscqError => 601
  | .SwitchArchitectureNotSupported => 602
  | .SwitchEvidenceNonceMismatch => 603
  | .SwitchEvidenceVbiosRimVersionMismatch => 604
  | .SwitchEvidenceFwidMismatch => 605
  | .SwitchEvidenceInvalidSignature => 606
  | .CorelibInitFailed => 607
  | .CorelibError => 608
  | .NrasAttestationError => 700
  | .NrasTokenInvalid => 701
  | .NrasForbidden => 702
  | .CertFwidNotFound => 800
  | .CertNotFound => 801
  | .CertChainVerificationFailure => 802

/-- `to_string` of an error, and so `nvat_rc_to_string`. -/
def nvatRcToString : Error → String
  | .Ok => "Ok"
  | .Unknown => "Unknown"
  | .InternalError => "Internal Error"
  | .NotInitialized => "Not initialized"
  | .BadArgument => "Bad Argument"
  | .AllocFailed => "Allocation Failed"
  | .FeatureNotEnabled => "Feature is not enabled"
  | .XmlInitFailed => "XML Initialization Failed"
  | .RelyingPartyPolicyMismatch => "Relying Party Policy Mismatch"
  | .OverallResultFalse => "Overall Attestation Result is False"
  | .RimForbidden => "RIM Forbidden"
  | .RimInternalError => "RIM Internal Error"
  | .RimConnectionError => "RIM Connection Error"
  | .RimNotFound => "RIM Not Found"
  | .RimInvalidSignature => "RIM Invalid Signature"
  | .RimInvalidSchema => "RIM Invalid Schema"
  | .RimMeasurementNotFound => "RIM Measurement Not Found"
  | .RimMeasurementConflict => "RIM Measurement Conflict"
  | .OcspInvalidResponse => "OCSP Invalid Response"
  | .OcspServerError => "OCSP Server Error"
  | .OcspInvalidRequest => "OCSP Invalid Request"
  | .OcspStatusNotGood => "OCSP Status Not Good"
  | .OcspForbidden => "OCSP Forbidden"
  | .PolicyEvaluationError => "Policy Evaluation Error"
  | .SpdmParseError => "SPDM Parse Error"
  | .SpdmOpaqueDataParseError => "SPDM Opaque Data Parse Error"
  | .SpdmMeasurementRecordParseError => "SPDM Measurement Record Parse Error"
  | .SpdmRequestParseError => "SPDM Request Parse Error"
  | .SpdmFieldNotFound => "SPDM Field Not Found"
  | .NvmlInitFailed => "NVML Initialization Failed"
  | .NvmlError => "NVML Error"
  | .GpuArchitectureNotSupported => "GPU Architecture Not Supported"
  | .GpuEvidenceInvalid => "GPU Evidence Invalid"
  | .GpuEvidenceNonceMismatch => "GPU Evidence Nonce Mismatch"
  | .GpuEvidenceDriverRimVersionMismatch => "GPU Evidence Driver RIM Version Mismatch"
  | .GpuEvidenceVbiosRimVersionMismatch => "GPU Evidence VBios RIM Version Mismatch"
  | .GpuEvidenceFwidMismatch => "GPU Evidence FWID Mismatch"
  | .GpuEvidenceInvalidSignature => "GPU Evidence Invalid Signature"
  | .GpuModeNotSupported => "GPU is neither in CC nor in PPCIe mode"
  | .GpuFwNotSupported => "GPU FW version exceeds SDK support"
  | .CertFwidNotFound => "Certificate FWID Not Found"
  | .CertNotFound => "Certificate Not Found"
  | .CertChainVerificationFailure => "Certificate Chain Verification Failure"
  | .NscqInitFailed => "NSCQ Initialization Failed"
  | .NscqError => "NSCQ Error"
  | .CorelibInitFailed => "Corelib Initialization Failed"
  | .CorelibError => "Corelib Error"
  | .SwitchArchitectureNotSupported => "NVSwitch Architecture Not Supported"
  | .SwitchEvidenceNonceMismatch => "NVSwitch Evidence Nonce Mismatch"
  | .SwitchEvidenceVbiosRimVersionMismatch => "NVSwitch Evidence VBIOS RIM Version Mismatch"
  | .SwitchEvidenceFwidMismatch => "NVSwitch Evidence FWID Mismatch"
  | .SwitchEvidenceInvalidSignature => "NVSwitch Evidence Invalid Signature"
  | .JsonSerializationError => "JSON Serialization Error"
  | .LibXml2Error => "LibXml2 Error"
  | .NrasAttestationError => "NRAS Attestation Error"
  | .NrasTokenInvalid => "NRAS Token Invalid"
  | .NrasForbidden => "NRAS Forbidden"
  | .CacheObjectNotFound => "Cache Object Not Found"

/-- The bits of a status that a parent process sees. -/
def statusBits : Nat := 256

/-- The two members that start every result. -/
def resultMembers (rc : Error) : List (String × Value) :=
  [("result_code", .int (nvatRcFromCpp rc)), ("result_message", .str (nvatRcToString rc))]

/-- The codes of an attestation that came to a verdict. -/
def hasVerdict (rc : Error) : Bool :=
  rc = .Ok || rc = .RelyingPartyPolicyMismatch || rc = .OverallResultFalse

/-- `AttestOutput::to_json`; a text that cannot be parsed is shown as an empty object. -/
def AttestOutput.toJson (parse : String → Option Value) (output : AttestOutput) : Value :=
  let shown (text : String) : Value :=
    if hasVerdict output.resultCode then (parse text).getD (.obj []) else .obj []
  object (resultMembers output.resultCode ++
    [("claims", shown output.claims), ("detached_eat", shown output.detachedEat)])

structure CollectEvidenceOutput where
  resultCode : Error
  evidences : String := ""
  deriving Repr

/-- `CollectEvidenceOutput::to_json`. -/
def CollectEvidenceOutput.toJson (parse : String → Option Value) (output : CollectEvidenceOutput) :
    Value :=
  object (resultMembers output.resultCode ++ [("evidences",
    if output.resultCode = .Ok then (parse output.evidences).getD .null else .null)])

/-- All the options of the collection. -/
structure CollectionOptions extends EvidenceCollectionOptions where
  gpuArchitecture : String

structure CommonOptions where
  format : String

/-- The subcommands that were parsed. -/
structure Subcommands where
  version : Bool
  attest : Bool
  collectEvidence : Bool

structure CommandOptions where
  parsed : Subcommands
  collection : CollectionOptions
  verification : EvidenceVerificationOptions
  policy : EvidencePolicyOptions := {}
  common : CommonOptions

/-- The macros `NVAT_VERIFICATION_ONLY` and `_WIN32`. -/
structure Build where
  verificationOnly : Bool
  windows : Bool

/-- Where a process runs. -/
structure Host (σ : Type) where
  machine : Machine σ
  network : Network σ
  env : Platform σ
  corelibEvidenceCollector : GpuArchitecture → EvidenceSource σ GpuEvidence
  help : String
  /-- `nlohmann::json::dump(4)`. -/
  dump4 : Value → Option String

/-- What is written to standard output, and the status that `main` returns. -/
structure ProcessEnd where
  stdout : String
  status : Nat
  deriving Repr, DecidableEq

/-- `requests_hardware_collection`. -/
def requestsHardwareCollection (options : CommandOptions) : Bool :=
  if options.parsed.collectEvidence then true
  else if !options.parsed.attest then false
  else if options.verification.verifier ≠ "local" then true
  else if options.collection.device = "gpu" then options.collection.gpuEvidenceSource ≠ "file"
  else if options.collection.device = "nvswitch" then
    options.collection.switchEvidenceSource ≠ "file"
  else true

def refusal : ProcessEnd where
  stdout := "\x7b\"result_code\":" ++ toString (nvatRcFromCpp .FeatureNotEnabled) ++
    ",\"result_message\":\"this build verifies evidence files locally; " ++
    "hardware evidence collection and remote verification are not available\"\x7d\n"
  status := nvatRcFromCpp .FeatureNotEnabled

section Process
variable {σ : Type} (host : Host σ) (options : CommandOptions)

/-- A call of the C API, which catches exceptions. -/
def cApi {α : Type} (x : Prog Fault σ α) : Prog Fault σ α := fun s =>
  let (r, s) := x s
  (nvatRc r, s)

/-- `nvat_gpu_evidence_source_corelib_create`. -/
def nvatGpuEvidenceSourceCorelibCreate (gpuArchitecture : String) :
    Except Error (EvidenceSource σ GpuEvidence) :=
  match GpuArchitecture.fromString gpuArchitecture with
  | .Unknown => .error .BadArgument
  | .Blackwell => .ok (host.corelibEvidenceCollector .Blackwell)
  | _ => .error .GpuArchitectureNotSupported

/-- The source of `collect-evidence` for GPUs. -/
def collectGpuSource (collection : CollectionOptions) :
    Except Error (EvidenceSource σ GpuEvidence) :=
  if collection.gpuEvidenceSource = "corelib" && collection.gpuArchitecture.isEmpty then
    .error .BadArgument
  else if collection.gpuEvidenceSource = "file" then
    host.machine.gpuEvidenceSourceFromJsonFile collection.gpuEvidenceFile
  else if collection.gpuEvidenceSource = "corelib" then
    nvatGpuEvidenceSourceCorelibCreate host collection.gpuArchitecture
  else .ok host.network.factories.nvmlEvidenceCollector

def collectSwitchSource (collection : CollectionOptions) :
    Except Error (EvidenceSource σ SwitchEvidence) :=
  if collection.switchEvidenceSource = "file" then
    host.machine.switchEvidenceSourceFromJsonFile collection.switchEvidenceFile
  else .ok host.network.factories.nscqEvidenceCollector

/-- The collection from a source; the code of a failed serialisation is not kept. -/
def collectFrom {ι : Type} (serialize : List ι → Except Fault String)
    (created : Except Error (EvidenceSource σ ι)) (nonce : Option Bytes) :
    Prog Fault σ String := do
  let source ← check created
  let evidence ← cApi (evidenceCollect host.env source nonce)
  match nvatRc (serialize evidence) with
  | .ok text => return text
  | .error (.code _) => Prog.fail (.code .InternalError)
  | .error f => Prog.fail f

def givenNonce (nonce : String) : Except Error (Option Bytes) :=
  if nonce.isEmpty then .ok none else (nvatNonceFromHex nonce).map some

/-- `collect_evidence` up to its output. -/
def collectedEvidence : Prog Fault σ String := do
  checkRc host.machine.initSdk
  let nonce ← check (givenNonce options.collection.nonce)
  if options.collection.device = "gpu" then
    collectFrom host (GpuEvidence.collectionToJson host.env.dump)
      (collectGpuSource host options.collection) nonce
  else if options.collection.device = "nvswitch" then
    collectFrom host (SwitchEvidence.collectionToJson host.env.dump)
      (collectSwitchSource host options.collection) nonce
  -- No text was made, which `nvat_str_get_data` refuses.
  else Prog.fail (.code .BadArgument)

/-- `collect_evidence`. -/
def collectEvidence : Prog Fault σ CollectEvidenceOutput := fun s =>
  match collectedEvidence host options s with
  | (.ok text, s) => (.ok ⟨.Ok, text⟩, s)
  | (.error (.code e), s) => (.ok ⟨e, ""⟩, s)
  | (.error f, s) => (.error f, s)

/-- The end of both handlers; a text result goes to the log. -/
def report (format : String) (rc : Error) (js : Value) : Except Fault ProcessEnd :=
  if format = "json" then
    match host.dump4 js with
    | none => .error .exception
    | some text => .ok ⟨text ++ "\n", nvatRcFromCpp rc⟩
  else .ok ⟨"", nvatRcFromCpp rc⟩

/-- `handle_attest_subcommand`. -/
def handleAttestSubcommand : Prog Fault σ ProcessEnd := do
  let output ← attest host.machine host.network options.collection.toEvidenceCollectionOptions
    options.policy options.verification host.env
  lift (report host options.common.format output.resultCode (output.toJson host.env.parse))

/-- `handle_collect_evidence_subcommand`. -/
def handleCollectEvidenceSubcommand : Prog Fault σ ProcessEnd := do
  let output ← collectEvidence host options
  lift (report host options.common.format output.resultCode (output.toJson host.env.parse))

/-- `main`, after the command line was parsed. -/
def main (build : Build) : Prog Fault σ ProcessEnd :=
  if build.verificationOnly && requestsHardwareCollection options then return refusal
  else if options.parsed.version then return ⟨"", 0⟩
  else if options.parsed.attest then do
    let ended ← handleAttestSubcommand host options
    if build.windows then return { ended with status := ended.status % statusBits }
    else return ended
  else if options.parsed.collectEvidence then handleCollectEvidenceSubcommand host options
  else return ⟨host.help ++ "\n", 0⟩

end Process

end AttestationSdk.Cli
