import AttestationSdk.LocalVerifier
import AttestationSdk.GpuEvidence

/-! The local GPU verifier: `LocalGpuVerifier` of `gpu/verify.cpp`. -/
namespace AttestationSdk.Gpu
open AttestationSdk.Claims AttestationSdk.Text AttestationSdk.ChainStatus AttestationSdk.Spdm
open AttestationSdk.Rim AttestationSdk.Eat AttestationSdk.LocalVerifier Effects

def nvdecStatusEnabled : UInt8 := 0xAA
def nvdecStatusDisabled : UInt8 := 0x55
def minOpaqueDataVersionForFeatureFlag : Nat := 1

/-- `set_gpu_evidence_claims`. -/
def setGpuEvidenceClaims (evidence : GpuEvidenceClaims) (claims : SerializableGpuClaimsV3) :
    SerializableGpuClaimsV3 :=
  { claims with
    gpuArchMatch := evidence.gpuArArchMatch
    driverVersion := evidence.driverVersion
    vbiosVersion := evidence.vbiosVersion
    gpuSwitchPdis := evidence.gpuSwitchPdis
    arCertChain := serializableChain evidence.attestationReportClaims.certChainClaims
    arCertChainFwidMatch := evidence.attestationReportClaims.fwidMatch
    arParsed := evidence.attestationReportClaims.parsed
    arSignatureVerified := evidence.attestationReportClaims.signatureVerified
    gpuArNonceMatch := evidence.gpuArNonceMatch
    hwmodel := evidence.attestationReportClaims.hwmodel
    ueid := evidence.attestationReportClaims.ueid }

/-- `add_gpu_mode_claim`. -/
def addGpuModeClaim (report : AttestationReport) (claims : SerializableGpuClaimsV3) :
    Except Fault SerializableGpuClaimsV3 :=
  if report.opaqueData.opaqueDataVersion < minOpaqueDataVersionForFeatureFlag then .ok claims
  else do return { claims with mode := ← report.getFeatureFlag }

/-- Whether measurement 35 is compared, by the NVDEC0 status. -/
def isMsr35Valid (nvdec0Status : UInt8) : Except Fault Bool :=
  if nvdec0Status = nvdecStatusDisabled then .ok false
  else if nvdec0Status = nvdecStatusEnabled then .ok true
  else .error (.code .InternalError)

/-- An index that both documents have. -/
def indexConflict (driver vbios : Measurements) : Bool :=
  (driver.getAllIndices ++ vbios.getAllIndices).any fun index =>
    driver.hasMeasurementAtIndex index && vbios.hasMeasurementAtIndex index

/-- `generate_set_measurement_claims`. -/
def generateSetMeasurementClaims (driver vbios : Measurements) (report : AttestationReport)
    (claims : SerializableGpuClaimsV3) : Except Fault SerializableGpuClaimsV3 := do
  require (!indexConflict driver vbios) .RimMeasurementConflict
  let nvdec0Status ← report.getNvdec0Status
  let msr35Valid ← isMsr35Valid nvdec0Status
  let skips := fun index => index = 35 && !msr35Valid
  let runtime := report.getMeasurements
  let records ← compareAll runtime .DRIVER skips driver driver.getAllIndices []
  let records ← compareAll runtime .VBIOS skips vbios vbios.getAllIndices records
  let result := measurementClaims records
  return { claims with
    vbiosIndexNoConflict := true
    measurementsMatching := result.measurementsMatching
    secureBoot := result.secureBoot
    debugStatus := result.debugStatus
    mismatchedMeasurements := result.mismatchedMeasurements }

structure LocalGpuVerifier (σ : Type) where
  rimStore : RimStore σ
  ocspHttpClient : OcspClient σ
  detachedEatOptions : DetachedEATOptions

namespace LocalGpuVerifier
variable {σ : Type} (env : Platform σ) (verifier : LocalGpuVerifier σ)

def generateRimClaims (policy : EvidencePolicy) (rim : RimDocument) : Prog Fault σ RimClaims :=
  rim.generateRimClaims env.x509 env.ocsp env.xml verifier.ocspHttpClient env.now env.unsetStatus
    policy

/-- `set_driver_rim_claims`. -/
def setDriverRimClaims (rim : RimDocument) (policy : EvidencePolicy)
    (claims : SerializableGpuClaimsV3) : Prog Fault σ SerializableGpuClaimsV3 := do
  let rimClaims ← verifier.generateRimClaims env policy rim
  let oemId ← Prog.lift rim.getManufacturerId
  return { claims with
    driverRimFetched := true
    driverRimCertChain := serializableChain rimClaims.certChainClaims
    driverRimSignatureVerified := rimClaims.signatureVerified
    oemId }

/-- `set_vbios_rim_claims`. -/
def setVbiosRimClaims (rim : RimDocument) (policy : EvidencePolicy)
    (claims : SerializableGpuClaimsV3) : Prog Fault σ SerializableGpuClaimsV3 := do
  let rimClaims ← verifier.generateRimClaims env policy rim
  return { claims with
    vbiosRimFetched := true
    vbiosRimCertChain := serializableChain rimClaims.certChainClaims
    vbiosRimSignatureVerified := rimClaims.signatureVerified }

/-- One turn of the loop of `generate_claims_v3`. -/
def verifyItem (policy : EvidencePolicy) (e : GpuEvidence) :
    Prog Fault σ SerializableGpuClaimsV3 := do
  let report ← Prog.lift (getParsedAttestationReport env.x509 e)
  let evidenceClaims ← generateGpuEvidenceClaims env.x509 env.ocsp verifier.ocspHttpClient env.now
    e report
  let claims := setGpuEvidenceClaims evidenceClaims { nonce := toHexString e.nonce }
  let claims ← Prog.lift (addGpuModeClaim report claims)
  let driverRimId ← Prog.lift (report.getDriverRimId e.architecture)
  let driverRim ← fetchRim verifier.rimStore driverRimId
  let driverVersion ← Prog.lift driverRim.getVersion
  Prog.lift (require (driverVersion = evidenceClaims.driverVersion)
    .GpuEvidenceDriverRimVersionMismatch)
  let claims ← verifier.setDriverRimClaims env driverRim policy
    { claims with gpuDriverRimVersionMatch := true }
  let vbiosRimId ← Prog.lift report.getVbiosRimId
  let vbiosRim ← fetchRim verifier.rimStore vbiosRimId
  let vbiosVersion ← Prog.lift vbiosRim.getVersion
  Prog.lift (require (vbiosVersion = evidenceClaims.vbiosVersion)
    .GpuEvidenceVbiosRimVersionMismatch)
  let claims ← verifier.setVbiosRimClaims env vbiosRim policy
    { claims with gpuVbiosRimVersionMatch := true }
  let driverMeasurements ← Prog.lift driverRim.getMeasurements
  let vbiosMeasurements ← Prog.lift vbiosRim.getMeasurements
  Prog.lift (generateSetMeasurementClaims driverMeasurements vbiosMeasurements report
    { claims with driverRimMeasurementsAvailable := true, vbiosRimMeasurementsAvailable := true })

/-- `generate_claims_v3`. -/
def generateClaimsV3 (evidence : List GpuEvidence) (policy : EvidencePolicy) (wantEat : Bool)
    (outClaims : List DeviceClaims) : Prog Fault σ Verification :=
  generateClaims env verifier.detachedEatOptions
    (fun e => do return .gpu (← verifier.verifyItem env policy e)) evidence wantEat outClaims

/-- `verify_evidence`: another claims version is accepted and does nothing. -/
def verifyEvidence (evidence : List GpuEvidence) (policy : EvidencePolicy) (wantEat : Bool)
    (outClaims : List DeviceClaims) : Prog Fault σ Verification :=
  if policy.gpuClaimsVersion = .V3 then
    verifier.generateClaimsV3 env evidence policy wantEat outClaims
  else pure ⟨outClaims, none, true⟩

end LocalGpuVerifier

end AttestationSdk.Gpu
