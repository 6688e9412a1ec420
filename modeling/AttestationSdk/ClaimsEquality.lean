import AttestationSdk.ClaimsRoundTrip

/-! `operator==` of the device claims, against equality of what they publish. -/
namespace AttestationSdk.Claims

/-- `compare_shared_ptr`. -/
def compareSharedPtr {α : Type} (eq : α → α → Bool) : Option α → Option α → Bool
  | none, none => true
  | some lhs, some rhs => eq lhs rhs
  | _, _ => false

theorem compareSharedPtr_iff {α : Type} {eq : α → α → Bool} (heq : ∀ a b, eq a b = true ↔ a = b)
    {lhs rhs : Option α} : compareSharedPtr eq lhs rhs = true ↔ lhs = rhs := by
  cases lhs with
  | none => cases rhs with
    | none => simp [compareSharedPtr]
    | some b => simp [compareSharedPtr]
  | some a => cases rhs with
    | none => simp [compareSharedPtr]
    | some b => rw [compareSharedPtr, heq, Option.some.injEq]

theorem isEqv_iff {α : Type} {eq : α → α → Bool} (heq : ∀ a b, eq a b = true ↔ a = b)
    {lhs rhs : List α} : lhs.isEqv rhs eq = true ↔ lhs = rhs := by
  induction lhs generalizing rhs with
  | nil => cases rhs with
    | nil => simp [List.isEqv]
    | cons b bs => simp [List.isEqv]
  | cons a as ih => cases rhs with
    | nil => simp [List.isEqv]
    | cons b bs => rw [List.isEqv, Bool.and_eq_true, heq, ih, List.cons.injEq]

/-- Values whose published part is what is written and what is read back. -/
theorem written_eq_iff {α : Type} {write : α → Json.Value}
    {read : Json.Value → Except Json.ReadFault α} {published : α → α}
    (hwritten : ∀ a, write (published a) = write a) {lhs rhs : α}
    (hlhs : read (write lhs) = .ok (published lhs))
    (hrhs : read (write rhs) = .ok (published rhs)) :
    write lhs = write rhs ↔ published lhs = published rhs := by
  constructor
  · intro h
    rw [h, hrhs] at hlhs
    exact (Except.ok.inj hlhs).symm
  · intro h
    rw [← hwritten lhs, ← hwritten rhs, h]

namespace SerializableMismatchedMeasurements

def opEq (lhs rhs : SerializableMismatchedMeasurements) : Bool :=
  lhs.index == rhs.index && lhs.goldenSize == rhs.goldenSize &&
    lhs.goldenValue == rhs.goldenValue && lhs.runtimeSize == rhs.runtimeSize &&
    lhs.runtimeValue == rhs.runtimeValue && lhs.source == rhs.source

/-- All members of a record are compared. -/
theorem opEq_iff (lhs rhs : SerializableMismatchedMeasurements) :
    opEq lhs rhs = true ↔ lhs = rhs := by
  cases lhs
  cases rhs
  simp only [opEq, Bool.and_eq_true, beq_iff_eq, mk.injEq, and_assoc]

end SerializableMismatchedMeasurements

namespace SerializableCertChainClaims

def opEq (lhs rhs : SerializableCertChainClaims) : Bool :=
  lhs.certExpirationDate == rhs.certExpirationDate && lhs.certStatus == rhs.certStatus &&
    lhs.certOcspStatus == rhs.certOcspStatus &&
    compareSharedPtr (· == ·) lhs.certRevocationReason rhs.certRevocationReason

/-- The members that `operator==` leaves out. -/
def uncompared (claims : SerializableCertChainClaims) :
    Bool × Bool × Option SerializableSignedAgeStatus :=
  (claims.ocspNonceMatches, claims.ocspResponseValid, claims.ocspSignedAge)

/-- The claims without them. -/
def compared (claims : SerializableCertChainClaims) : SerializableCertChainClaims :=
  { claims with ocspNonceMatches := false, ocspResponseValid := false, ocspSignedAge := none }

theorem opEq_iff (lhs rhs : SerializableCertChainClaims) :
    opEq lhs rhs = true ↔ lhs.compared = rhs.compared := by
  simp only [opEq, compared, Bool.and_eq_true, beq_iff_eq, mk.injEq, and_assoc, and_true,
    compareSharedPtr_iff fun a b : String => beq_iff_eq]

theorem eq_iff {lhs rhs : SerializableCertChainClaims} :
    lhs = rhs ↔ lhs.compared = rhs.compared ∧ lhs.uncompared = rhs.uncompared := by
  cases lhs
  cases rhs
  simp only [compared, uncompared, mk.injEq, Prod.mk.injEq, and_true, and_assoc]

end SerializableCertChainClaims

def recordsEq : Option (List SerializableMismatchedMeasurements) →
    Option (List SerializableMismatchedMeasurements) → Bool :=
  compareSharedPtr fun lhs rhs => lhs.isEqv rhs SerializableMismatchedMeasurements.opEq

theorem recordsEq_iff {lhs rhs : Option (List SerializableMismatchedMeasurements)} :
    recordsEq lhs rhs = true ↔ lhs = rhs :=
  compareSharedPtr_iff fun _ _ => isEqv_iff SerializableMismatchedMeasurements.opEq_iff

theorem optionEq_iff {α : Type} [DecidableEq α] {lhs rhs : Option α} :
    compareSharedPtr (· == ·) lhs rhs = true ↔ lhs = rhs :=
  compareSharedPtr_iff fun _ _ => beq_iff_eq

namespace SerializableGpuClaimsV3

def opEq (lhs rhs : SerializableGpuClaimsV3) : Bool :=
  lhs.nonce == rhs.nonce && lhs.hwmodel == rhs.hwmodel && lhs.ueid == rhs.ueid &&
    lhs.oemId == rhs.oemId && lhs.measurementsMatching == rhs.measurementsMatching &&
    lhs.gpuArchMatch == rhs.gpuArchMatch &&
    compareSharedPtr (· == ·) lhs.secureBoot rhs.secureBoot &&
    compareSharedPtr (· == ·) lhs.debugStatus rhs.debugStatus &&
    recordsEq lhs.mismatchedMeasurements rhs.mismatchedMeasurements &&
    lhs.driverVersion == rhs.driverVersion && lhs.vbiosVersion == rhs.vbiosVersion &&
    lhs.gpuSwitchPdis == rhs.gpuSwitchPdis && lhs.arCertChain.opEq rhs.arCertChain &&
    lhs.arCertChainFwidMatch == rhs.arCertChainFwidMatch && lhs.arParsed == rhs.arParsed &&
    lhs.gpuArNonceMatch == rhs.gpuArNonceMatch &&
    lhs.arSignatureVerified == rhs.arSignatureVerified &&
    lhs.driverRimFetched == rhs.driverRimFetched &&
    lhs.driverRimCertChain.opEq rhs.driverRimCertChain &&
    lhs.driverRimSignatureVerified == rhs.driverRimSignatureVerified &&
    lhs.gpuDriverRimVersionMatch == rhs.gpuDriverRimVersionMatch &&
    lhs.driverRimMeasurementsAvailable == rhs.driverRimMeasurementsAvailable &&
    lhs.vbiosRimFetched == rhs.vbiosRimFetched &&
    lhs.vbiosRimCertChain.opEq rhs.vbiosRimCertChain &&
    lhs.gpuVbiosRimVersionMatch == rhs.gpuVbiosRimVersionMatch &&
    lhs.vbiosRimSignatureVerified == rhs.vbiosRimSignatureVerified &&
    lhs.vbiosRimMeasurementsAvailable == rhs.vbiosRimMeasurementsAvailable &&
    lhs.vbiosIndexNoConflict == rhs.vbiosIndexNoConflict && lhs.version == rhs.version

/-- The published members that `operator==` compares. -/
def compared (claims : SerializableGpuClaimsV3) : SerializableGpuClaimsV3 :=
  { claims with
    arCertChain := claims.arCertChain.compared
    driverRimCertChain := claims.driverRimCertChain.compared
    vbiosRimCertChain := claims.vbiosRimCertChain.compared
    mode := ""
    version := "" }

/-- The published members that `operator==` leaves out. -/
def uncompared (claims : SerializableGpuClaimsV3) :
    List (Bool × Bool × Option SerializableSignedAgeStatus) :=
  [claims.arCertChain.uncompared, claims.driverRimCertChain.uncompared,
    claims.vbiosRimCertChain.uncompared]

theorem opEq_iff (lhs rhs : SerializableGpuClaimsV3) :
    opEq lhs rhs = true ↔ lhs.compared = rhs.compared ∧ lhs.version = rhs.version := by
  simp only [opEq, Bool.and_eq_true, beq_iff_eq, optionEq_iff, recordsEq_iff,
    SerializableCertChainClaims.opEq_iff, compared, mk.injEq, and_true]
  tauto

/-- What is published is all but the mode and the version. -/
def published (claims : SerializableGpuClaimsV3) : SerializableGpuClaimsV3 :=
  { claims with mode := "", version := "3.0" }

theorem published_iff {lhs rhs : SerializableGpuClaimsV3} : lhs.published = rhs.published ↔
    lhs.compared = rhs.compared ∧ lhs.uncompared = rhs.uncompared := by
  constructor
  · intro h
    have hcompared : lhs.published.compared = rhs.published.compared := congrArg compared h
    have huncompared : lhs.published.uncompared = rhs.published.uncompared := congrArg uncompared h
    exact ⟨hcompared, huncompared⟩
  · intro h
    obtain ⟨hcompared, huncompared⟩ := h
    simp only [uncompared, List.cons.injEq, and_true] at huncompared
    obtain ⟨har, hdriver, hvbios⟩ := huncompared
    have harChain : lhs.arCertChain = rhs.arCertChain :=
      SerializableCertChainClaims.eq_iff.mpr ⟨congrArg arCertChain hcompared, har⟩
    have hdriverChain : lhs.driverRimCertChain = rhs.driverRimCertChain :=
      SerializableCertChainClaims.eq_iff.mpr ⟨congrArg driverRimCertChain hcompared, hdriver⟩
    have hvbiosChain : lhs.vbiosRimCertChain = rhs.vbiosRimCertChain :=
      SerializableCertChainClaims.eq_iff.mpr ⟨congrArg vbiosRimCertChain hcompared, hvbios⟩
    calc lhs.published
        = { lhs.compared with
            arCertChain := lhs.arCertChain, driverRimCertChain := lhs.driverRimCertChain,
            vbiosRimCertChain := lhs.vbiosRimCertChain, version := "3.0" } := rfl
      _ = { rhs.compared with
            arCertChain := rhs.arCertChain, driverRimCertChain := rhs.driverRimCertChain,
            vbiosRimCertChain := rhs.vbiosRimCertChain, version := "3.0" } := by
          rw [hcompared, harChain, hdriverChain, hvbiosChain]
      _ = rhs.published := rfl

theorem toJson_eq_iff {lhs rhs : SerializableGpuClaimsV3} (hlhs : lhs.Fits) (hrhs : rhs.Fits) :
    lhs.toJson = rhs.toJson ↔ lhs.compared = rhs.compared ∧ lhs.uncompared = rhs.uncompared := by
  have hwritten (claims : SerializableGpuClaimsV3) : claims.published.toJson = claims.toJson := rfl
  rw [← published_iff]
  exact written_eq_iff hwritten (fromJson_toJson hlhs) (fromJson_toJson hrhs)

end SerializableGpuClaimsV3

namespace SerializableSwitchClaimsV3

def opEq (lhs rhs : SerializableSwitchClaimsV3) : Bool :=
  lhs.nonce == rhs.nonce && lhs.hwmodel == rhs.hwmodel && lhs.ueid == rhs.ueid &&
    lhs.measurementsMatching == rhs.measurementsMatching &&
    compareSharedPtr (· == ·) lhs.secureBoot rhs.secureBoot &&
    compareSharedPtr (· == ·) lhs.debugStatus rhs.debugStatus &&
    recordsEq lhs.mismatchedMeasurements rhs.mismatchedMeasurements &&
    lhs.switchArchMatch == rhs.switchArchMatch &&
    lhs.switchArNonceMatch == rhs.switchArNonceMatch &&
    lhs.switchBiosVersion == rhs.switchBiosVersion && lhs.switchPdi == rhs.switchPdi &&
    lhs.switchGpuPdis == rhs.switchGpuPdis &&
    lhs.arCertChainClaims.opEq rhs.arCertChainClaims &&
    lhs.arCertChainFwidMatch == rhs.arCertChainFwidMatch && lhs.arParsed == rhs.arParsed &&
    lhs.arSignatureVerified == rhs.arSignatureVerified &&
    lhs.biosRimFetched == rhs.biosRimFetched &&
    lhs.biosRimCertChain.opEq rhs.biosRimCertChain &&
    lhs.biosRimSignatureVerified == rhs.biosRimSignatureVerified &&
    lhs.switchBiosRimVersionMatch == rhs.switchBiosRimVersionMatch &&
    lhs.biosRimMeasurementsAvailable == rhs.biosRimMeasurementsAvailable &&
    lhs.version == rhs.version

def compared (claims : SerializableSwitchClaimsV3) : SerializableSwitchClaimsV3 :=
  { claims with
    arCertChainClaims := claims.arCertChainClaims.compared
    biosRimCertChain := claims.biosRimCertChain.compared
    version := "" }

def uncompared (claims : SerializableSwitchClaimsV3) :
    List (Bool × Bool × Option SerializableSignedAgeStatus) :=
  [claims.arCertChainClaims.uncompared, claims.biosRimCertChain.uncompared]

theorem opEq_iff (lhs rhs : SerializableSwitchClaimsV3) :
    opEq lhs rhs = true ↔ lhs.compared = rhs.compared ∧ lhs.version = rhs.version := by
  simp only [opEq, Bool.and_eq_true, beq_iff_eq, optionEq_iff, recordsEq_iff,
    SerializableCertChainClaims.opEq_iff, compared, mk.injEq, and_true]
  tauto

def published (claims : SerializableSwitchClaimsV3) : SerializableSwitchClaimsV3 :=
  { claims with version := "3.0" }

theorem published_iff {lhs rhs : SerializableSwitchClaimsV3} : lhs.published = rhs.published ↔
    lhs.compared = rhs.compared ∧ lhs.uncompared = rhs.uncompared := by
  constructor
  · intro h
    have hcompared : lhs.published.compared = rhs.published.compared := congrArg compared h
    have huncompared : lhs.published.uncompared = rhs.published.uncompared := congrArg uncompared h
    exact ⟨hcompared, huncompared⟩
  · intro h
    obtain ⟨hcompared, huncompared⟩ := h
    simp only [uncompared, List.cons.injEq, and_true] at huncompared
    obtain ⟨har, hbios⟩ := huncompared
    have harChain : lhs.arCertChainClaims = rhs.arCertChainClaims :=
      SerializableCertChainClaims.eq_iff.mpr ⟨congrArg arCertChainClaims hcompared, har⟩
    have hbiosChain : lhs.biosRimCertChain = rhs.biosRimCertChain :=
      SerializableCertChainClaims.eq_iff.mpr ⟨congrArg biosRimCertChain hcompared, hbios⟩
    calc lhs.published
        = { lhs.compared with
            arCertChainClaims := lhs.arCertChainClaims, biosRimCertChain := lhs.biosRimCertChain,
            version := "3.0" } := rfl
      _ = { rhs.compared with
            arCertChainClaims := rhs.arCertChainClaims, biosRimCertChain := rhs.biosRimCertChain,
            version := "3.0" } := by
          rw [hcompared, harChain, hbiosChain]
      _ = rhs.published := rfl

theorem toJson_eq_iff {lhs rhs : SerializableSwitchClaimsV3} (hlhs : lhs.Fits) (hrhs : rhs.Fits) :
    lhs.toJson = rhs.toJson ↔ lhs.compared = rhs.compared ∧ lhs.uncompared = rhs.uncompared := by
  have hwritten (claims : SerializableSwitchClaimsV3) :
      claims.published.toJson = claims.toJson := rfl
  rw [← published_iff]
  exact written_eq_iff hwritten (fromJson_toJson hlhs) (fromJson_toJson hrhs)

end SerializableSwitchClaimsV3

/-- Two claims are equal by `operator==` exactly when they publish the same, unless they differ in
no compared member and exactly one of two others: the version, which is not published, and the
members of the chains that are not compared. -/
theorem claims_equality_iff (lhs rhs : SerializableGpuClaimsV3)
    (lhs' rhs' : SerializableSwitchClaimsV3) :
    (lhs.Fits → rhs.Fits → ((lhs.opEq rhs = true ↔ lhs.toJson = rhs.toJson) ↔
      (lhs.compared = rhs.compared →
        (lhs.version = rhs.version ↔ lhs.uncompared = rhs.uncompared)))) ∧
    (lhs'.Fits → rhs'.Fits → ((lhs'.opEq rhs' = true ↔ lhs'.toJson = rhs'.toJson) ↔
      (lhs'.compared = rhs'.compared →
        (lhs'.version = rhs'.version ↔ lhs'.uncompared = rhs'.uncompared)))) := by
  constructor
  · intro hlhs hrhs
    rw [lhs.opEq_iff, SerializableGpuClaimsV3.toJson_eq_iff hlhs hrhs]
    exact and_congr_right_iff
  · intro hlhs hrhs
    rw [lhs'.opEq_iff, SerializableSwitchClaimsV3.toJson_eq_iff hlhs hrhs]
    exact and_congr_right_iff

theorem claims_equality_iff_samples :
    (Sample.gpuClaims.opEq Sample.gpuClaims = true ↔
      Sample.gpuClaims.toJson = Sample.gpuClaims.toJson) ∧
    (Sample.switchClaims.opEq Sample.switchClaims = true ↔
      Sample.switchClaims.toJson = Sample.switchClaims.toJson) := by
  obtain ⟨hgpu, hswitch⟩ := claims_equality_iff Sample.gpuClaims Sample.gpuClaims
    Sample.switchClaims Sample.switchClaims
  exact ⟨(hgpu Sample.gpuClaims_fit Sample.gpuClaims_fit).mpr fun _ => iff_of_true rfl rfl,
    (hswitch Sample.switchClaims_fit Sample.switchClaims_fit).mpr fun _ => iff_of_true rfl rfl⟩

/-- The claims of a report whose OCSP answers matched their nonces. -/
def matchedNonces : SerializableGpuClaimsV3 := { arCertChain := { ocspNonceMatches := true } }

theorem nonceless_claims_equal :
    matchedNonces.opEq {} = true ∧ matchedNonces.toJson ≠ SerializableGpuClaimsV3.toJson {} := by
  have hchain : SerializableCertChainClaims.Fits { ocspNonceMatches := true } :=
    fun _ h => by cases h
  have hmatched : matchedNonces.Fits :=
    ⟨fun _ hms => (by cases hms), hchain, Sample.emptyChain_fits, Sample.emptyChain_fits⟩
  have hempty : SerializableGpuClaimsV3.Fits {} :=
    ⟨fun _ hms => (by cases hms), Sample.emptyChain_fits, Sample.emptyChain_fits,
      Sample.emptyChain_fits⟩
  refine ⟨by decide, fun h => ?_⟩
  have hsame := ((SerializableGpuClaimsV3.toJson_eq_iff hmatched hempty).mp h).2
  exact absurd hsame (by decide)

end AttestationSdk.Claims
