import AttestationSdk.DetachedEat
import AttestationSdk.Spdm

/-! What the local GPU and NVSwitch verifiers share: `gpu/verify.cpp` and
`switch/verify.cpp`. -/
namespace AttestationSdk.LocalVerifier
open Json AttestationSdk.Claims AttestationSdk.Text AttestationSdk.ChainStatus
open AttestationSdk.CertChain AttestationSdk.Rim AttestationSdk.Eat Effects

def certStatusText : CertChainStatus → String
  | .VALID => "valid"
  | .INVALID => "invalid"
  | .REVOKED => "revoked"
  | .EXPIRED => "expired"

def ocspStatusText : OCSPStatus → String
  | .GOOD => "good"
  | .REVOKED => "revoked"
  | .UNKOWN => "unknown"
  | .UNDEFINED => "undefined"

/-- The assignments by which every chain reaches the serializable claims. -/
def serializableChain (claims : CertChainClaims) : SerializableCertChainClaims where
  certExpirationDate := claims.expirationDate
  certStatus := certStatusText claims.status
  certOcspStatus := ocspStatusText claims.ocspClaims.status
  certRevocationReason := claims.ocspClaims.revocationReason
  ocspNonceMatches := claims.ocspClaims.nonceMatches
  ocspResponseValid := claims.ocspClaims.ocspResponseValid
  ocspSignedAge := makeSignedAgeStatus claims.ocspClaims.signedAge
    claims.ocspClaims.verificationTime claims.ocspClaims.statusDeadline
    claims.ocspClaims.oldestThisUpdate claims.ocspClaims.coveredCertificates

/-- The runtime measurements by index. -/
abbrev Runtime := List (Int × Bytes)

def uint32 (n : Int) : Int := Value.wrap 0 4294967296 n

/-- The record of a mismatch. It shows the first alternative, and the source reads
one even where the measurement has none. -/
def mismatch (source : MeasurementSource) (index : Int) (golden : Measurement) (runtimeSize : Nat)
    (runtimeValue : String) : Except Fault (Option SerializableMismatchedMeasurements) :=
  match golden.values with
  | [] => .error .undefined
  | first :: _ => .ok (some {
      index := uint32 index
      goldenSize := uint32 golden.size
      goldenValue := toHexString first
      runtimeSize := uint32 runtimeSize
      runtimeValue := runtimeValue
      source := source })

/-- The lambda `compare_measurements`: no record where an alternative is the runtime value. -/
def compareMeasurement (runtime : Runtime) (source : MeasurementSource) (index : Int)
    (golden : Measurement) : Except Fault (Option SerializableMismatchedMeasurements) :=
  match runtime.lookup index with
  | none => mismatch source index golden 0 "NA"
  | some value =>
    if golden.values.any (· = value) then .ok none
    else mismatch source index golden value.length (toHexString value)

/-- The loop over one document's indices. -/
def compareAll (runtime : Runtime) (source : MeasurementSource) (skips : Int → Bool)
    (golden : Measurements) :
    List Int → List SerializableMismatchedMeasurements →
      Except Fault (List SerializableMismatchedMeasurements)
  | [], records => .ok records
  | index :: rest, records =>
    if skips index then compareAll runtime source skips golden rest records else do
      let measurement ← golden.getMeasurementAtIndex index
      let record ← compareMeasurement runtime source index measurement
      compareAll runtime source skips golden rest (records ++ record.toList)

/-- The claims about measurements. -/
structure MeasurementClaims where
  measurementsMatching : SerializableMeasresClaim
  secureBoot : Option Bool
  debugStatus : Option String
  mismatchedMeasurements : Option (List SerializableMismatchedMeasurements)
  deriving Repr, DecidableEq

/-- The source also keeps a flag, which is false exactly where a record was added. -/
def measurementClaims : List SerializableMismatchedMeasurements → MeasurementClaims
  | [] => ⟨.Success, some true, some "disabled", none⟩
  | records => ⟨.Failure, none, none, some records⟩

/-- What `verify_evidence` leaves where it returns `Ok` or `OverallResultFalse`; the
overall result is false in the second case. -/
structure Verification where
  claims : List DeviceClaims
  detachedEat : Option String
  overallResult : Bool
  deriving Repr, DecidableEq

section Verifiers
variable {σ : Type}

/-- `IRimStore::get_rim` into a fresh document. -/
def fetchRim (store : RimStore σ) (id : String) : Prog Fault σ RimDocument := do
  let (rc, rim) ← store.getRim id {}
  if rc ≠ .Ok then Prog.fail (.code rc) else pure rim

/-- The loop of `generate_claims_v3` over the evidence. -/
def verifyItems {α : Type} (verifyItem : α → Prog Fault σ DeviceClaims) :
    List α → List DeviceClaims → Prog Fault σ (List DeviceClaims)
  | [], outClaims => pure outClaims
  | item :: rest, outClaims => do
    let claims ← verifyItem item
    verifyItems verifyItem rest (outClaims ++ [claims])

/-- The end of `generate_claims_v3`: the policy is evaluated only for the token. -/
def finish (env : Platform σ) (options : DetachedEATOptions) (wantEat : Bool)
    (claims : List DeviceClaims) : Prog Fault σ Verification :=
  if wantEat then do
    let (text, overallResult) ← getDetachedEat env options claims
    return ⟨claims, some text, overallResult⟩
  else pure ⟨claims, none, true⟩

/-- `generate_claims_v3` of both verifiers over their loop body. -/
def generateClaims {α : Type} (env : Platform σ) (options : DetachedEATOptions)
    (verifyItem : α → Prog Fault σ DeviceClaims) (evidence : List α) (wantEat : Bool)
    (outClaims : List DeviceClaims) : Prog Fault σ Verification := do
  let claims ← verifyItems verifyItem evidence outClaims
  finish env options wantEat claims

end Verifiers

end AttestationSdk.LocalVerifier
