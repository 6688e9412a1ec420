import AttestationSdk.LocalGpuVerifier
import AttestationSdk.LocalSwitchVerifier

/-! What one accepted turn of the local verifiers' loops has read and checked. -/
namespace AttestationSdk.Gpu
open AttestationSdk.Claims AttestationSdk.Text AttestationSdk.ChainStatus AttestationSdk.Spdm
open AttestationSdk.Rim AttestationSdk.Eat AttestationSdk.LocalVerifier Effects Prog ExceptRules
variable {σ : Type} {env : Platform σ} {verifier : LocalGpuVerifier σ} {policy : EvidencePolicy}
  {e : GpuEvidence}

/-- The values one turn goes through. -/
structure ItemTrace where
  report : AttestationReport
  evidenceClaims : GpuEvidenceClaims
  driverRim : RimDocument
  driverRimClaims : RimClaims
  driverMeasurements : Measurements
  vbiosRim : RimDocument
  vbiosRimClaims : RimClaims
  vbiosMeasurements : Measurements

/-- The records of both comparisons, after the checks before them. -/
def mismatchRecords (driver vbios : Measurements) (report : AttestationReport) :
    Except Fault (List SerializableMismatchedMeasurements) := do
  require (!indexConflict driver vbios) .RimMeasurementConflict
  let msr35Valid ← isMsr35Valid (← report.getNvdec0Status)
  let skips := fun index => index = 35 && !msr35Valid
  let records ← compareAll report.getMeasurements .DRIVER skips driver driver.getAllIndices []
  compareAll report.getMeasurements .VBIOS skips vbios vbios.getAllIndices records

/-- A turn that went through `t` and produced `claims`. -/
structure ItemTrace.Gives (env : Platform σ) (verifier : LocalGpuVerifier σ)
    (policy : EvidencePolicy) (e : GpuEvidence) (t : ItemTrace)
    (claims : SerializableGpuClaimsV3) : Prop where
  report : getParsedAttestationReport env.x509 e = .ok t.report
  evidence : ∃ s s', generateGpuEvidenceClaims env.x509 env.ocsp verifier.ocspHttpClient env.now e
    t.report s = (.ok t.evidenceClaims, s')
  driverRimFetched : ∃ id s s', t.report.getDriverRimId e.architecture = .ok id ∧
    fetchRim verifier.rimStore id s = (.ok t.driverRim, s')
  driverRim : ∃ s s', verifier.generateRimClaims env policy t.driverRim s =
    (.ok t.driverRimClaims, s')
  driverMeasurements : t.driverRim.getMeasurements = .ok t.driverMeasurements
  vbiosRimFetched : ∃ id s s', t.report.getVbiosRimId = .ok id ∧
    fetchRim verifier.rimStore id s = (.ok t.vbiosRim, s')
  vbiosRim : ∃ s s', verifier.generateRimClaims env policy t.vbiosRim s =
    (.ok t.vbiosRimClaims, s')
  vbiosMeasurements : t.vbiosRim.getMeasurements = .ok t.vbiosMeasurements
  measured : ∃ records, mismatchRecords t.driverMeasurements t.vbiosMeasurements t.report =
    .ok records ∧ claims.measurementsMatching = (measurementClaims records).measurementsMatching
  nonce : claims.nonce = toHexString e.nonce
  arCertChain : claims.arCertChain =
    serializableChain t.evidenceClaims.attestationReportClaims.certChainClaims
  driverRimCertChain : claims.driverRimCertChain = serializableChain t.driverRimClaims.certChainClaims
  vbiosRimCertChain : claims.vbiosRimCertChain = serializableChain t.vbiosRimClaims.certChainClaims

theorem addGpuModeClaim_ok {report : AttestationReport} {claims claims' : SerializableGpuClaimsV3}
    (h : addGpuModeClaim report claims = .ok claims') : ∃ mode, claims' = { claims with mode } := by
  rw [addGpuModeClaim] at h
  split at h
  · cases h
    exact ⟨claims.mode, rfl⟩
  · obtain ⟨mode, _, h⟩ := ExceptRules.bind_eq_ok.mp h
    cases h
    exact ⟨mode, rfl⟩

theorem generateSetMeasurementClaims_eq (driver vbios : Measurements) (report : AttestationReport)
    (claims : SerializableGpuClaimsV3) :
    generateSetMeasurementClaims driver vbios report claims = (do
      let records ← mismatchRecords driver vbios report
      let result := measurementClaims records
      return { claims with
        vbiosIndexNoConflict := true
        measurementsMatching := result.measurementsMatching
        secureBoot := result.secureBoot
        debugStatus := result.debugStatus
        mismatchedMeasurements := result.mismatchedMeasurements }) := by
  simp only [generateSetMeasurementClaims, mismatchRecords, LawfulMonad.bind_assoc]

theorem generateSetMeasurementClaims_ok {driver vbios : Measurements} {report : AttestationReport}
    {claims claims' : SerializableGpuClaimsV3}
    (h : generateSetMeasurementClaims driver vbios report claims = .ok claims') :
    ∃ records, mismatchRecords driver vbios report = .ok records ∧
      claims' = { claims with
        vbiosIndexNoConflict := true
        measurementsMatching := (measurementClaims records).measurementsMatching
        secureBoot := (measurementClaims records).secureBoot
        debugStatus := (measurementClaims records).debugStatus
        mismatchedMeasurements := (measurementClaims records).mismatchedMeasurements } := by
  rw [generateSetMeasurementClaims_eq] at h
  obtain ⟨records, hrecords, h⟩ := ExceptRules.bind_eq_ok.mp h
  cases h
  exact ⟨records, hrecords, rfl⟩

namespace LocalGpuVerifier

theorem setDriverRimClaims_ok {rim : RimDocument} {claims claims' : SerializableGpuClaimsV3}
    {s s' : σ} (h : verifier.setDriverRimClaims env rim policy claims s = (.ok claims', s')) :
    ∃ rimClaims s₁ oemId, verifier.generateRimClaims env policy rim s = (.ok rimClaims, s₁) ∧
      claims' = { claims with
        driverRimFetched := true
        driverRimCertChain := serializableChain rimClaims.certChainClaims
        driverRimSignatureVerified := rimClaims.signatureVerified
        oemId } := by
  obtain ⟨rimClaims, s₁, hrim, h⟩ := bind_eq_ok.mp h
  obtain ⟨oemId, _, _, h⟩ := bind_eq_ok.mp h
  cases h
  exact ⟨rimClaims, s₁, oemId, hrim, rfl⟩

theorem setVbiosRimClaims_ok {rim : RimDocument} {claims claims' : SerializableGpuClaimsV3}
    {s s' : σ} (h : verifier.setVbiosRimClaims env rim policy claims s = (.ok claims', s')) :
    ∃ rimClaims s₁, verifier.generateRimClaims env policy rim s = (.ok rimClaims, s₁) ∧
      claims' = { claims with
        vbiosRimFetched := true
        vbiosRimCertChain := serializableChain rimClaims.certChainClaims
        vbiosRimSignatureVerified := rimClaims.signatureVerified } := by
  obtain ⟨rimClaims, s₁, hrim, h⟩ := bind_eq_ok.mp h
  cases h
  exact ⟨rimClaims, _, hrim, rfl⟩

/-- Inversion of one turn. -/
theorem verifyItem_ok {claims : SerializableGpuClaimsV3} {s s' : σ}
    (h : verifier.verifyItem env policy e s = (.ok claims, s')) :
    ∃ t : ItemTrace, t.Gives env verifier policy e claims := by
  obtain ⟨report, s₁, hreport, h⟩ := bind_eq_ok.mp h
  obtain ⟨evidenceClaims, s₂, hevidence, h⟩ := bind_eq_ok.mp h
  obtain ⟨claims₁, s₃, hmode, h⟩ := bind_eq_ok.mp h
  obtain ⟨driverRimId, s₄, hdriverId, h⟩ := bind_eq_ok.mp h
  obtain ⟨driverRim, s₅, hdriverFetched, h⟩ := bind_eq_ok.mp h
  obtain ⟨driverVersion, s₆, _, h⟩ := bind_eq_ok.mp h
  obtain ⟨_, s₇, _, h⟩ := bind_eq_ok.mp h
  obtain ⟨claims₂, s₈, hdriver, h⟩ := bind_eq_ok.mp h
  obtain ⟨vbiosRimId, s₉, hvbiosId, h⟩ := bind_eq_ok.mp h
  obtain ⟨vbiosRim, s₁₀, hvbiosFetched, h⟩ := bind_eq_ok.mp h
  obtain ⟨vbiosVersion, s₁₁, _, h⟩ := bind_eq_ok.mp h
  obtain ⟨_, s₁₂, _, h⟩ := bind_eq_ok.mp h
  obtain ⟨claims₃, s₁₃, hvbios, h⟩ := bind_eq_ok.mp h
  obtain ⟨driverMeasurements, s₁₄, hdriverMeasurements, h⟩ := bind_eq_ok.mp h
  obtain ⟨vbiosMeasurements, s₁₅, hvbiosMeasurements, h⟩ := bind_eq_ok.mp h
  obtain ⟨mode, rfl⟩ := addGpuModeClaim_ok (lift_ok hmode)
  obtain ⟨driverRimClaims, _, oemId, hdriverRim, rfl⟩ := setDriverRimClaims_ok hdriver
  obtain ⟨vbiosRimClaims, _, hvbiosRim, rfl⟩ := setVbiosRimClaims_ok hvbios
  obtain ⟨records, hrecords, rfl⟩ := generateSetMeasurementClaims_ok (lift_ok h)
  exact ⟨⟨report, evidenceClaims, driverRim, driverRimClaims, driverMeasurements, vbiosRim,
    vbiosRimClaims, vbiosMeasurements⟩, {
      report := lift_ok hreport
      evidence := ⟨_, _, hevidence⟩
      driverRimFetched := ⟨driverRimId, _, _, lift_ok hdriverId, hdriverFetched⟩
      driverRim := ⟨_, _, hdriverRim⟩
      driverMeasurements := lift_ok hdriverMeasurements
      vbiosRimFetched := ⟨vbiosRimId, _, _, lift_ok hvbiosId, hvbiosFetched⟩
      vbiosRim := ⟨_, _, hvbiosRim⟩
      vbiosMeasurements := lift_ok hvbiosMeasurements
      measured := ⟨records, hrecords, rfl⟩
      nonce := rfl
      arCertChain := rfl
      driverRimCertChain := rfl
      vbiosRimCertChain := rfl }⟩

end LocalGpuVerifier

end AttestationSdk.Gpu

namespace AttestationSdk.Switch
open AttestationSdk.Claims AttestationSdk.Text AttestationSdk.Rim AttestationSdk.Eat
open AttestationSdk.LocalVerifier Effects Prog
variable {σ : Type} {env : Platform σ} {verifier : LocalSwitchVerifier σ} {policy : EvidencePolicy}
  {e : SwitchEvidence}

theorem generateSetMeasurementClaims_nonce {golden : Measurements} {report : AttestationReport}
    {claims claims' : SerializableSwitchClaimsV3}
    (h : generateSetMeasurementClaims golden report claims = .ok claims') :
    claims'.nonce = claims.nonce := by
  obtain ⟨_, _, h⟩ := ExceptRules.bind_eq_ok.mp h
  cases h
  rfl

namespace LocalSwitchVerifier

theorem setVbiosRimClaims_nonce {rim : RimDocument} {claims claims' : SerializableSwitchClaimsV3}
    {s s' : σ} (h : verifier.setVbiosRimClaims env rim policy claims s = (.ok claims', s')) :
    claims'.nonce = claims.nonce := by
  obtain ⟨_, _, _, h⟩ := bind_eq_ok.mp h
  cases h
  rfl

theorem verifyItem_nonce {claims : SerializableSwitchClaimsV3} {s s' : σ}
    (h : verifier.verifyItem env policy e s = (.ok claims, s')) :
    claims.nonce = toHexString e.nonce := by
  obtain ⟨report, _, _, h⟩ := bind_eq_ok.mp h
  obtain ⟨evidenceClaims, _, _, h⟩ := bind_eq_ok.mp h
  obtain ⟨vbiosRimId, _, _, h⟩ := bind_eq_ok.mp h
  obtain ⟨vbiosRim, _, _, h⟩ := bind_eq_ok.mp h
  obtain ⟨vbiosVersion, _, _, h⟩ := bind_eq_ok.mp h
  obtain ⟨_, _, _, h⟩ := bind_eq_ok.mp h
  obtain ⟨claims₁, _, hrim, h⟩ := bind_eq_ok.mp h
  obtain ⟨measurements, _, _, h⟩ := bind_eq_ok.mp h
  have hmeasured := generateSetMeasurementClaims_nonce (lift_ok h)
  have hclaims := setVbiosRimClaims_nonce hrim
  exact hmeasured.trans hclaims

end LocalSwitchVerifier

end AttestationSdk.Switch
