import AttestationSdk.ChainSplitting
import AttestationSdk.EvidenceCollectors

/-! `corelib_client.cpp`: evidence over SPDM, and the certificate chain that is turned from DER in
the order of the device into PEM in the order of a chain. -/
namespace AttestationSdk.Collect
open AttestationSdk.Text AttestationSdk.Gpu AttestationSdk.Attestation AttestationSdk.CertChain
open AttestationSdk.Ocsp AttestationSdk.ChainStatus Effects Prog
variable {σ : Type}

def SPDM_NONCE_SIZE : Nat := 32
def SPDM_CERT_DIGEST_SIZE : Nat := 52
def descBufferSize : Nat := 256
def ALL_MEASUREMENTS_INDEX : UInt8 := 0xff

/-- `vector::resize`. -/
def resize (data : Bytes) (n : Nat) : Bytes := data.take n ++ List.replicate (n - data.length) 0

def Filled.resized {capacity : Nat} (f : Filled capacity) : Bytes := resize f.data f.size

/-- The devices that an array of so many places was filled with, and the count that is stated. -/
structure Discovered (places : Nat) where
  count : Nat
  devices : List Nat
  devices_length : devices.length = places

/-- The OpenSSL calls of the conversion. -/
structure CertCodec where
  /-- `d2i_X509`: the certificate at the front and what follows it. -/
  d2iX509 : Bytes → Option (X509 × Bytes)
  shorter : ∀ data cert rest, d2iX509 data = some (cert, rest) → rest.length < data.length
  /-- `PEM_write_bio_X509`. -/
  pemWriteX509 : X509 → Option String

section Convert
variable (codec : CertCodec)

/-- The loop over the DER bytes; each turn takes a certificate away, so their number bounds the
turns. -/
def pemCerts : Nat → Bytes → Except Fault (List String)
  | 0, data => if data.isEmpty then .ok [] else .error .outOfFuel
  | fuel + 1, data =>
    if data.isEmpty then .ok []
    else match codec.d2iX509 data with
      | none => internalError
      | some (cert, rest) => match codec.pemWriteX509 cert with
        | none => internalError
        | some pem =>
          if pem.isEmpty then internalError
          else do return pem :: (← pemCerts fuel rest)

/-- `convert_der_cert_chain_to_pem`. -/
def convertDerCertChainToPem (derChain : Bytes) : Except Fault String :=
  if derChain.isEmpty then internalError
  else do
    let certs ← pemCerts codec derChain.length derChain
    if certs.isEmpty then internalError else return String.join certs.reverse

end Convert

/-- The calls of `corelib_client.cpp`. -/
structure Corelib (σ : Type) extends CertCodec where
  initCorelib : Prog Fault σ Unit
  deviceManagerCreate : DriverCall σ Nat
  /-- `discover_inband_gpus` without an array. -/
  countInbandGpus : Nat → DriverCall σ Nat
  discoverInbandGpus : Nat → (places : Nat) → DriverCall σ (Discovered places)
  deviceGetDescription : Nat → DriverCall σ (Filled descBufferSize)
  spdmClientCreate : Nat → DriverCall σ Nat
  spdmCountDigests : Nat → DriverCall σ Nat
  /-- The slot of the first digest. -/
  spdmGetDigests : Nat → Nat → DriverCall σ UInt8
  spdmResetSession : Nat → DriverCall σ Unit
  spdmGetCertificateSize : Nat → UInt8 → DriverCall σ Nat
  spdmGetCertificate : Nat → UInt8 → (size : Nat) → DriverCall σ (Filled size)
  spdmGetTranscriptSize : Nat → UInt8 → Bytes → DriverCall σ Nat
  spdmGetMeasurementTranscript : Nat → UInt8 → Bytes → (size : Nat) → DriverCall σ (Filled size)

namespace Corelib
variable (corelib : Corelib σ)

/-- The description stands in for the UUID, and no failure of the call is reported. -/
def readDescription (device : Nat) : Prog Fault σ Unit := fun s =>
  match corelib.deviceGetDescription device s with
  | (.ok desc, s') => (desc.read.map fun _ => (), s')
  | (.error _, s') => (.ok (), s')

/-- The size of an answer, which must not be empty. -/
def sizeOf (call : DriverCall σ Nat) : Prog Fault σ Nat := do
  let size ← reported .CorelibError call
  lift (require (size ≠ 0) .CorelibError)
  return size

def getCertChain (client : Nat) (certSlot : UInt8) : Prog Fault σ Bytes := do
  reported .CorelibError (corelib.spdmResetSession client)
  let certSize ← sizeOf (corelib.spdmGetCertificateSize client certSlot)
  let cert ← reported .CorelibError (corelib.spdmGetCertificate client certSlot certSize)
  lift (require (SPDM_CERT_DIGEST_SIZE < cert.size) .CorelibError)
  return cert.resized.drop SPDM_CERT_DIGEST_SIZE

def getTranscript (client : Nat) (nonceInput : Bytes) : Prog Fault σ Bytes := do
  reported .CorelibError (corelib.spdmResetSession client)
  let transcriptSize ←
    sizeOf (corelib.spdmGetTranscriptSize client ALL_MEASUREMENTS_INDEX nonceInput)
  let transcript ← reported .CorelibError
    (corelib.spdmGetMeasurementTranscript client ALL_MEASUREMENTS_INDEX nonceInput transcriptSize)
  return transcript.resized

/-- One turn of the loop of `collect_evidence_corelib`. -/
def collectDevice (architecture : GpuArchitecture) (nonceInput : Bytes) (device : Nat) :
    Prog Fault σ GpuEvidence := do
  corelib.readDescription device
  let client ← reported .CorelibError (corelib.spdmClientCreate device)
  let digestCount ← sizeOf (corelib.spdmCountDigests client)
  let certSlot ← reported .CorelibError (corelib.spdmGetDigests client digestCount)
  let certChain ← corelib.getCertChain client certSlot
  let attestationReport ← corelib.getTranscript client nonceInput
  let attestationCertChain ←
    lift (mapCode .CorelibError (convertDerCertChainToPem corelib.toCertCodec certChain))
  return { architecture, nonce := nonceInput, attestationReport, attestationCertChain }

/-- The loop; a stated count past the array reads outside it. -/
def collectDevices (architecture : GpuArchitecture) (nonceInput : Bytes) {places : Nat}
    (found : Discovered places) : Prog Fault σ (List GpuEvidence) := do
  let evidence ← each (corelib.collectDevice architecture nonceInput)
    (found.devices.take found.count)
  if places < found.count then Prog.fail .undefined else return evidence

/-- `collect_evidence_corelib`. -/
def collectEvidence (nonceInput : Bytes) (architecture : GpuArchitecture) :
    Prog Fault σ (List GpuEvidence) := do
  lift (require (nonceInput.length = SPDM_NONCE_SIZE) .BadArgument)
  let manager ← reported .CorelibError corelib.deviceManagerCreate
  let deviceCount ← sizeOf (corelib.countInbandGpus manager)
  let found ← reported .CorelibError (corelib.discoverInbandGpus manager deviceCount)
  corelib.collectDevices architecture nonceInput found

/-- `CorelibEvidenceCollector`. -/
def evidenceSource (architecture : GpuArchitecture) : EvidenceSource σ GpuEvidence where
  getEvidence nonceInput := do
    lift (require (!nonceInput.isEmpty) .BadArgument)
    corelib.initCorelib
    corelib.collectEvidence nonceInput architecture

end Corelib

section Chain
variable {codec : CertCodec}

variable {lib : X509Lib}

theorem length_le_flatMap {α β : Type} {f : α → List β} (as : List α) (h : ∀ a ∈ as, f a ≠ []) :
    as.length ≤ (as.flatMap f).length := by
  induction as with
  | nil => exact le_refl _
  | cons a as ih =>
    have hpos := List.length_pos_iff.mpr (h a List.mem_cons_self)
    have hrest := ih fun b hb => h b (List.mem_cons_of_mem a hb)
    rw [List.flatMap_cons, List.length_append, List.length_cons]
    omega

end Chain

namespace Corelib
variable {corelib : Corelib σ} {lib : X509Lib}

/-- What one device gave: a certificate answer and a transcript for the nonce, each read in a
session of its own. -/
structure Gave (corelib : Corelib σ) (architecture : GpuArchitecture) (nonceInput : Bytes)
    (client : Nat) (e : GpuEvidence) : Prop where
  architecture : e.architecture = architecture
  nonce : e.nonce = nonceInput
  transcript : ∃ size s s', ∃ transcript : Filled size,
    corelib.spdmGetMeasurementTranscript client ALL_MEASUREMENTS_INDEX nonceInput size s =
      (.ok transcript, s') ∧ e.attestationReport = transcript.resized
  chain : ∃ certSlot size s s', ∃ cert : Filled size,
    corelib.spdmGetCertificate client certSlot size s = (.ok cert, s') ∧
    SPDM_CERT_DIGEST_SIZE < cert.size ∧
    convertDerCertChainToPem corelib.toCertCodec (cert.resized.drop SPDM_CERT_DIGEST_SIZE) =
      .ok e.attestationCertChain

end Corelib

section Sample

end Sample

end AttestationSdk.Collect
