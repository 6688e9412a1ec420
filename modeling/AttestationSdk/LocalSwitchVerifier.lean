import AttestationSdk.LocalVerifier
import AttestationSdk.SwitchEvidence

/-! The local NVSwitch verifier: `LocalSwitchVerifier` of `switch/verify.cpp`. -/
namespace AttestationSdk.Switch
open AttestationSdk.Claims AttestationSdk.Text AttestationSdk.ChainStatus AttestationSdk.Spdm
open AttestationSdk.Rim AttestationSdk.Eat AttestationSdk.LocalVerifier Effects

/-- `set_switch_evidence_claims`. -/
def setSwitchEvidenceClaims (evidence : SwitchEvidenceClaims)
    (claims : SerializableSwitchClaimsV3) : SerializableSwitchClaimsV3 :=
  { claims with
    switchArchMatch := evidence.switchArchMatch
    switchArNonceMatch := evidence.switchArNonceMatch
    switchBiosVersion := evidence.switchBiosVersion
    switchPdi := evidence.switchPdi
    switchGpuPdis := evidence.switchGpuPdis
    arCertChainClaims := serializableChain evidence.attestationReportClaims.certChainClaims
    arCertChainFwidMatch := evidence.attestationReportClaims.fwidMatch
    arParsed := evidence.attestationReportClaims.parsed
    arSignatureVerified := evidence.attestationReportClaims.signatureVerified
    hwmodel := evidence.attestationReportClaims.hwmodel
    ueid := evidence.attestationReportClaims.ueid }

/-- `generate_set_measurement_claims`: no index is skipped. -/
def generateSetMeasurementClaims (golden : Measurements) (report : AttestationReport)
    (claims : SerializableSwitchClaimsV3) : Except Fault SerializableSwitchClaimsV3 := do
  let records ← compareAll report.getMeasurements .VBIOS (fun _ => false) golden
    golden.getAllIndices []
  let result := measurementClaims records
  return { claims with
    measurementsMatching := result.measurementsMatching
    secureBoot := result.secureBoot
    debugStatus := result.debugStatus
    mismatchedMeasurements := result.mismatchedMeasurements }

structure LocalSwitchVerifier (σ : Type) where
  rimStore : RimStore σ
  ocspHttpClient : OcspClient σ
  detachedEatOptions : DetachedEATOptions

namespace LocalSwitchVerifier
variable {σ : Type} (env : Platform σ) (verifier : LocalSwitchVerifier σ)

/-- `set_vbios_rim_claims`. -/
def setVbiosRimClaims (rim : RimDocument) (policy : EvidencePolicy)
    (claims : SerializableSwitchClaimsV3) : Prog Fault σ SerializableSwitchClaimsV3 := do
  let rimClaims ← rim.generateRimClaims env.x509 env.ocsp env.xml verifier.ocspHttpClient env.now
    env.unsetStatus policy
  return { claims with
    biosRimFetched := true
    biosRimCertChain := serializableChain rimClaims.certChainClaims
    biosRimSignatureVerified := rimClaims.signatureVerified }

/-- One turn of the loop of `generate_claims_v3`. -/
def verifyItem (policy : EvidencePolicy) (e : SwitchEvidence) :
    Prog Fault σ SerializableSwitchClaimsV3 := do
  let report ← Prog.lift (getParsedAttestationReport env.x509 e)
  let evidenceClaims ← generateSwitchEvidenceClaims env.x509 env.ocsp verifier.ocspHttpClient
    env.now e report
  let claims := { setSwitchEvidenceClaims evidenceClaims {} with nonce := toHexString e.nonce }
  let vbiosRimId ← Prog.lift (report.getVbiosRimId e.architecture)
  let vbiosRim ← fetchRim verifier.rimStore vbiosRimId
  let vbiosVersion ← Prog.lift vbiosRim.getVersion
  Prog.lift (require (vbiosVersion = evidenceClaims.switchBiosVersion)
    .SwitchEvidenceVbiosRimVersionMismatch)
  let claims ← verifier.setVbiosRimClaims env vbiosRim policy
    { claims with switchBiosRimVersionMatch := true }
  let measurements ← Prog.lift vbiosRim.getMeasurements
  Prog.lift (generateSetMeasurementClaims measurements report
    { claims with biosRimMeasurementsAvailable := true })

/-- `generate_claims_v3`. -/
def generateClaimsV3 (evidence : List SwitchEvidence) (policy : EvidencePolicy) (wantEat : Bool)
    (outClaims : List DeviceClaims) : Prog Fault σ Verification :=
  generateClaims env verifier.detachedEatOptions
    (fun e => do return .switch (← verifier.verifyItem env policy e)) evidence wantEat outClaims

/-- `verify_evidence`. -/
def verifyEvidence (evidence : List SwitchEvidence) (policy : EvidencePolicy) (wantEat : Bool)
    (outClaims : List DeviceClaims) : Prog Fault σ Verification :=
  if policy.switchClaimsVersion = .V3 then
    verifier.generateClaimsV3 env evidence policy wantEat outClaims
  else Prog.fail (.code .BadArgument)

end LocalSwitchVerifier

end AttestationSdk.Switch
