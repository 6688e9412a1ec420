import AttestationSdk.CorelibCollector
import AttestationSdk.EvidenceJson
import AttestationSdk.FilesystemRimStore

/-! The sources of evidence that was written down before, and what every source keeps: the nonce
that it is asked for. -/
namespace AttestationSdk.Collect
open AttestationSdk.Text AttestationSdk.Gpu AttestationSdk.Switch AttestationSdk.Attestation
open AttestationSdk.Rim AttestationSdk.Evidence Json Effects Prog
variable {σ ι : Type}

/-- `get_evidence` of the sources over JSON: all that was read, where each item is for the nonce. -/
def storedSource (getNonce : ι → Bytes) (mismatch : Error) (evidence : List ι) :
    EvidenceSource σ ι where
  getEvidence nonceInput := do
    lift (require (evidence.all fun e => getNonce e = nonceInput) mismatch)
    return evidence

section Create
variable (decodeBlock : List Char → Option Bytes) (parse : String → Option Value)
  (files : FileSystem σ)

/-- `GpuEvidenceSourceFromJsonString`. -/
def gpuEvidenceSourceFromJsonString (jsonString : String) :
    Except Fault (EvidenceSource σ GpuEvidence) := do
  let evidence ← GpuEvidence.collectionFromJson decodeBlock parse jsonString
  return storedSource (·.nonce) .GpuEvidenceNonceMismatch evidence

/-- `SwitchEvidenceSourceFromJsonString`. -/
def switchEvidenceSourceFromJsonString (jsonString : String) :
    Except Fault (EvidenceSource σ SwitchEvidence) := do
  let evidence ← SwitchEvidence.collectionFromJson decodeBlock parse jsonString
  return storedSource (·.nonce) .SwitchEvidenceNonceMismatch evidence

/-- The files of `GpuEvidenceSourceFromJsonFile` and `SwitchEvidenceSourceFromJsonFile`. -/
def sourceFromJsonFile (fromJsonString : String → Except Fault (EvidenceSource σ ι))
    (filePath : String) : Prog Fault σ (EvidenceSource σ ι) :=
  if filePath.isEmpty then Prog.fail (.code .BadArgument)
  else do
    match ← files.readFileIntoString filePath with
    | none => Prog.fail (.code .InternalError)
    | some fileContents => lift (fromJsonString fileContents)

/-- `GpuEvidenceSourceFromJsonFile`. -/
def gpuEvidenceSourceFromJsonFile : String → Prog Fault σ (EvidenceSource σ GpuEvidence) :=
  sourceFromJsonFile files (gpuEvidenceSourceFromJsonString decodeBlock parse)

/-- `SwitchEvidenceSourceFromJsonFile`. -/
def switchEvidenceSourceFromJsonFile : String → Prog Fault σ (EvidenceSource σ SwitchEvidence) :=
  sourceFromJsonFile files (switchEvidenceSourceFromJsonString decodeBlock parse)

end Create

/-- The sources of GPU evidence that the SDK makes. -/
inductive GpuSource (decodeBlock : List Char → Option Bytes) (parse : String → Option Value)
    (files : FileSystem σ) : EvidenceSource σ GpuEvidence → Prop where
  | nvml (nvml : Nvml σ) : GpuSource decodeBlock parse files nvml.evidenceSource
  | corelib (corelib : Corelib σ) (architecture : GpuArchitecture) :
    GpuSource decodeBlock parse files (corelib.evidenceSource architecture)
  | jsonString {jsonString : String} {source : EvidenceSource σ GpuEvidence} :
    gpuEvidenceSourceFromJsonString decodeBlock parse jsonString = .ok source →
    GpuSource decodeBlock parse files source
  | jsonFile {filePath : String} {source : EvidenceSource σ GpuEvidence} {s s' : σ} :
    gpuEvidenceSourceFromJsonFile decodeBlock parse files filePath s = (.ok source, s') →
    GpuSource decodeBlock parse files source

/-- The sources of NVSwitch evidence that the SDK makes. -/
inductive SwitchSource (decodeBlock : List Char → Option Bytes) (parse : String → Option Value)
    (files : FileSystem σ) : EvidenceSource σ SwitchEvidence → Prop where
  | nscq (nscq : Nscq σ) : SwitchSource decodeBlock parse files nscq.evidenceSource
  | jsonString {jsonString : String} {source : EvidenceSource σ SwitchEvidence} :
    switchEvidenceSourceFromJsonString decodeBlock parse jsonString = .ok source →
    SwitchSource decodeBlock parse files source
  | jsonFile {filePath : String} {source : EvidenceSource σ SwitchEvidence} {s s' : σ} :
    switchEvidenceSourceFromJsonFile decodeBlock parse files filePath s = (.ok source, s') →
    SwitchSource decodeBlock parse files source

section Stored
variable {getNonce : ι → Bytes} {mismatch : Error} {evidence : List ι} {nonce : Bytes}

end Stored

section Sources
variable {decodeBlock : List Char → Option Bytes} {parse : String → Option Value}
  {files : FileSystem σ}

end Sources

end AttestationSdk.Collect
