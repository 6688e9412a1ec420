import AttestationSdk.OpaqueData
import AttestationSdk.CertChain

/-! Attestation reports of GPUs and NVSwitches: the parts of `gpu/evidence.cpp` and
`switch/evidence.cpp` that read a report. -/
namespace AttestationSdk.Report
open AttestationSdk.Spdm AttestationSdk.OpaqueData AttestationSdk.CertChain AttestationSdk.Text
open AttestationSdk.Ocsp AttestationSdk.ChainStatus Buffer DerReader Effects

def deviceRootCert : String :=
  "-----BEGIN CERTIFICATE-----
MIICCzCCAZCgAwIBAgIQLTZwscoQBBHB/sDoKgZbVDAKBggqhkjOPQQDAzA1MSIw
IAYDVQQDDBlOVklESUEgRGV2aWNlIElkZW50aXR5IENBMQ8wDQYDVQQKDAZOVklE
SUEwIBcNMjExMTA1MDAwMDAwWhgPOTk5OTEyMzEyMzU5NTlaMDUxIjAgBgNVBAMM
GU5WSURJQSBEZXZpY2UgSWRlbnRpdHkgQ0ExDzANBgNVBAoMBk5WSURJQTB2MBAG
ByqGSM49AgEGBSuBBAAiA2IABA5MFKM7+KViZljbQSlgfky/RRnEQScW9NDZF8SX
gAW96r6u/Ve8ZggtcYpPi2BS4VFu6KfEIrhN6FcHG7WP05W+oM+hxj7nyA1r1jkB
2Ry70YfThX3Ba1zOryOP+MJ9vaNjMGEwDwYDVR0TAQH/BAUwAwEB/zAOBgNVHQ8B
Af8EBAMCAQYwHQYDVR0OBBYEFFeF/4PyY8xlfWi3Olv0jUrL+0lfMB8GA1UdIwQY
MBaAFFeF/4PyY8xlfWi3Olv0jUrL+0lfMAoGCCqGSM49BAMDA2kAMGYCMQCPeFM3
TASsKQVaT+8S0sO9u97PVGCpE9d/I42IT7k3UUOLSR/qvJynVOD1vQKVXf0CMQC+
EY55WYoDBvs2wPAH1Gw4LbcwUN8QCff8bFmV4ZxjCRr4WXTLFHBKjbfneGSBWwA=
-----END CERTIFICATE-----"

/-- The part of the architecture data that reading a report uses. -/
structure ArchitectureData where
  hashAlgorithm : HashAlgorithm
  signatureLength : Nat
  fwidType : FWIDType
  deriving Repr, DecidableEq

/-- The codes by which the two kinds of report differ. -/
structure ReportCodes where
  invalidSignature : Error
  invalidMessage : Error

/-- The chain and the two messages of a report. -/
structure SignedMessages where
  certChain : X509CertChain
  request : SpdmMeasurementRequestMessage11
  response : SpdmMeasurementResponseMessage11
  deriving Repr, DecidableEq

/-- What both `AttestationReport::create` do before they read the opaque fields: the
last bytes are a signature over all the bytes before them. -/
def readMessages (lib : X509Lib) (type : CertificateChainType) (codes : ReportCodes)
    (arch : Except Fault ArchitectureData) (data : Bytes) (certChain : String) :
    Except Fault SignedMessages := do
  let chain ← mapCode .InternalError (createFromCertChainStr lib type deviceRootCert certChain)
  let arch ← arch
  require (arch.signatureLength < data.length) .InternalError
  let signed := data.take (data.length - arch.signatureLength)
  let signature := data.drop (data.length - arch.signatureLength)
  mapCode codes.invalidSignature (verifySignaturePkcs11 lib chain signed signature arch.hashAlgorithm)
  let requestBytes ← slice data 0 kRequestLength
  let request ← mapCode codes.invalidMessage (SpdmMeasurementRequestMessage11.parse requestBytes)
  let response ← mapCode codes.invalidMessage
    (SpdmMeasurementResponseMessage11.parse (data.drop kRequestLength) arch.signatureLength)
  return ⟨chain, request, response⟩

/-- `get_measurements` of both reports: the runtime index is the block's index less one. -/
def SignedMessages.getMeasurements (m : SignedMessages) : List (Int × Bytes) :=
  m.response.measurementBlocks.map fun (index, block) => ((index.toNat : Int) - 1, block.value)

structure AttestationReportClaims where
  certChainClaims : CertChainClaims
  fwidMatch : Bool
  hwmodel : String
  ueid : String
  parsed : Bool
  signatureVerified : Bool
  deriving Repr, DecidableEq

/-- The firmware id check: a report without the field passes. -/
def checkFwid (lib : X509Lib) (mismatch : Error) (chain : X509CertChain) (fwidType : FWIDType) :
    Except Fault Bytes → Except Fault Unit
  | .error (.code .SpdmFieldNotFound) => .ok ()
  | .error f => .error f
  | .ok fwid => do
    let certFwid ← getFwid lib chain 0 fwidType
    require (fwid = certFwid) mismatch

/-- `generate_attestation_report_claims` of both reports. -/
def generateAttestationReportClaims {σ : Type} (lib : X509Lib) (ocsp : OcspLib)
    (client : OcspClient σ) (now : Prog Fault σ Int) (mismatch : Error) (fwidType : FWIDType)
    (chain : X509CertChain) (fwid : Except Fault Bytes) :
    Prog Fault σ AttestationReportClaims := do
  Prog.lift (checkFwid lib mismatch chain fwidType fwid)
  let certChainClaims ← generateCertChainClaims lib ocsp client now chain
  let hwmodel ← Prog.lift (getHwmodel lib chain)
  let ueid ← Prog.lift (getUeid lib chain)
  return {
    certChainClaims, fwidMatch := true, hwmodel, ueid, parsed := true, signatureVerified := true }

/-- An optional field: what is not there leaves the default. -/
def orMissing {α : Type} (default : α) : Except Fault α → Except Fault α
  | .error (.code .SpdmFieldNotFound) => .ok default
  | x => x

/-- Insertion into a `std::set`. -/
def insertSet (s : String) : List String → List String
  | [] => [s]
  | t :: rest =>
    if s = t then t :: rest else if s < t then s :: t :: rest else t :: insertSet s rest

def sortedSet (strings : List String) : List String :=
  strings.foldl (fun set s => insertSet s set) []

end AttestationSdk.Report
