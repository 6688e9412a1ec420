import AttestationSdk.AttestationContext

/-! When `Ok` from `attest_device` with a local verifier means that the overall-result
policy holds of the claims. -/
namespace AttestationSdk.Attestation
open AttestationSdk.Claims AttestationSdk.Rim AttestationSdk.Eat AttestationSdk.LocalVerifier
open AttestationSdk.OverallPolicy AttestationSdk.Gpu AttestationSdk.Switch AttestationSdk.Http
open Effects Prog
variable {σ : Type} {env : Platform σ}

theorem evaluateClaims_ok (hrego : FollowsRego env) {claims : List DeviceClaims} {b : Bool}
    (h : evaluateClaims env .overallResult claims = .ok b) :
    b = nvMatch (collectionToJson claims) := by
  obtain ⟨json, hjson, h⟩ := ExceptRules.bind_eq_ok.mp h
  rw [serializeToJson] at hjson
  split at hjson
  · cases hjson
  · next text hdump =>
    cases hjson
    split at h
    · cases h
    · next result hresult =>
      cases h
      exact hrego claims json result hdump hresult

/-- The overall result of a token is the policy's. -/
theorem getDetachedEat_result (hrego : FollowsRego env) {options : DetachedEATOptions}
    {claims : List DeviceClaims} {s s' : σ} {text : String} {b : Bool}
    (h : getDetachedEat env options claims s = (.ok (text, b), s')) :
    b = nvMatch (collectionToJson claims) := by
  obtain ⟨iat, _, _, h⟩ := bind_eq_ok.mp h
  obtain ⟨overallJti, _, _, h⟩ := bind_eq_ok.mp h
  obtain ⟨st, _, _, h⟩ := bind_eq_ok.mp h
  obtain ⟨overallResult, _, hresult, h⟩ := bind_eq_ok.mp h
  obtain ⟨token, _, _, h⟩ := bind_eq_ok.mp h
  obtain ⟨text', _, _, h⟩ := bind_eq_ok.mp h
  cases h
  exact evaluateClaims_ok hrego (lift_ok hresult)

theorem nvMatch_collection (claims : List DeviceClaims) :
    nvMatch (collectionToJson claims) = true ↔ claims ≠ [] ∧ ∀ c ∈ claims, Trusted c :=
  nvMatch_iff claims

section Generate
variable {α : Type} {options : DetachedEATOptions} {verifyItem : α → Prog Fault σ DeviceClaims}
  {evidence : List α} {s : σ}

end Generate

/-- Collected evidence with the local verifier that is to verify it. -/
inductive Job (σ : Type) where
  | gpu (verifier : LocalGpuVerifier σ) (policy : EvidencePolicy) (evidence : List GpuEvidence)
  | switch (verifier : LocalSwitchVerifier σ) (policy : EvidencePolicy)
    (evidence : List SwitchEvidence)

namespace Job

def run (env : Platform σ) (wantEat : Bool) : Job σ → Prog Fault σ Verification
  | .gpu verifier policy evidence => verifier.verifyEvidence env evidence policy wantEat []
  | .switch verifier policy evidence => verifier.verifyEvidence env evidence policy wantEat []

end Job

/-- The verifier of a device kind is the local one, or will be when it is created. -/
def LocalOrDefault {ι L : Type} (type : VerifierType) : Option (Verifier σ ι L) → Prop
  | some (.localVerifier _) => True
  | some (.other _) => False
  | none => type = .Local

/-- The verifier `attest_device` goes to is the local one. -/
def UsesLocal (ctx : AttestationContext σ) : Prop :=
  if ctx.gpuEnabled then LocalOrDefault ctx.defaultVerifierType ctx.gpuVerifier
  else ctx.switchEnabled = true ∧ LocalOrDefault ctx.defaultVerifierType ctx.switchVerifier

section Init
variable {P : AttestationContext σ → Prop} {x y : Prog Fault (AttestationContext σ × σ) Unit}

/-- The context goes to a local verifier and no relying party's policy. -/
def Plain (ctx : AttestationContext σ) : Prop := ctx.claimsEvaluator = none ∧ UsesLocal ctx

theorem createGpuVerifier_over {factories : Factories σ} {ctx : AttestationContext σ}
    {verifier : GpuVerifier σ} {s s' : σ} (htype : ctx.defaultVerifierType = .Local)
    (h : createGpuVerifier factories ctx s = (.ok verifier, s')) :
    ∃ store client, ctx.defaultRimStore = some store ∧ ctx.defaultOcspClient = some client ∧
      verifier = .localVerifier ⟨store, client, ctx.eatOptions⟩ := by
  cases hrim : ctx.defaultRimStore with
  | none =>
    simp only [createGpuVerifier, htype, hrim] at h
    cases h
  | some store =>
    cases hocsp : ctx.defaultOcspClient with
    | none =>
      simp only [createGpuVerifier, htype, hrim, hocsp] at h
      cases h
    | some client =>
      simp only [createGpuVerifier, htype, hrim, hocsp] at h
      cases h
      exact ⟨store, client, rfl, rfl, rfl⟩

theorem createSwitchVerifier_over {factories : Factories σ} {ctx : AttestationContext σ}
    {verifier : SwitchVerifier σ} {s s' : σ} (htype : ctx.defaultVerifierType = .Local)
    (h : createSwitchVerifier factories ctx s = (.ok verifier, s')) :
    ∃ store client, ctx.defaultRimStore = some store ∧ ctx.defaultOcspClient = some client ∧
      verifier = .localVerifier ⟨store, client, ctx.eatOptions⟩ := by
  cases hrim : ctx.defaultRimStore with
  | none =>
    simp only [createSwitchVerifier, htype, hrim] at h
    cases h
  | some store =>
    cases hocsp : ctx.defaultOcspClient with
    | none =>
      simp only [createSwitchVerifier, htype, hrim, hocsp] at h
      cases h
    | some client =>
      simp only [createSwitchVerifier, htype, hrim, hocsp] at h
      cases h
      exact ⟨store, client, rfl, rfl, rfl⟩

end Init

section AttestDevice
variable {factories : Factories σ} {ctx : AttestationContext σ} {nonce : Bytes} {s : σ}

end AttestDevice

def sampleResultText : String :=
  "\x7b\"result\":[\x7b\"expressions\":[\x7b\"value\":false,\"text\":\"data.policy.nv_match\"," ++
    "\"location\":\x7b\"row\":1,\"col\":1\x7d\x7d]\x7d]\x7d"

def sampleResultValue : Json.Value :=
  Json.object [("result", .arr [Json.object [("expressions", .arr [Json.object [
    ("value", .bool false), ("text", .str "data.policy.nv_match"),
    ("location", Json.object [("row", .int 1), ("col", .int 1)])]])]])]

/-- A platform that knows the texts of an empty collection. -/
def samplePlatform : Platform Unit where
  x509 := {
    pemReadX509 := fun _ => none, verifyCert := fun _ _ _ => none, notAfter := fun _ => none
    iso8601 := fun _ => "", digestVerify := fun _ _ _ _ _ => false
    extensionData := fun _ _ => none, sequenceAny := fun _ => none
    subjectCommonName := fun _ => none, serialNumberDec := fun _ => none }
  ocsp := default
  xml := ⟨fun _ => none, fun _ _ => none⟩
  dump js := match js with
    | .arr [] => some "[]"
    | _ => none
  parse text := if text = sampleResultText then some sampleResultValue else none
  evaluatePolicy _ json := if json = "[]" then some sampleResultText else none
  sha256 _ := none
  now := pure 1700000000
  randBytes n := pure (some (List.replicate n 7))
  jwtSign _ _ _ := pure "token"
  unsetStatus := .INVALID

def sampleFactories : Factories Unit where
  remoteRimStore _ _ _ := Prog.fail (.code .InternalError)
  httpOcspClient _ _ _ := Prog.fail (.code .InternalError)
  remoteGpuVerifier _ _ _ := Prog.fail (.code .InternalError)
  remoteSwitchVerifier _ _ _ := Prog.fail (.code .InternalError)
  nvmlEvidenceCollector := ⟨fun _ => Prog.fail (.code .NvmlInitFailed)⟩
  nscqEvidenceCollector := ⟨fun _ => Prog.fail (.code .NscqInitFailed)⟩

def sampleHttpOptions : HttpOptions where
  caBundlePath := "/etc/ssl/certs/ca-certificates.crt"
  caBundlePathTier := "system CA bundle probe"
  caBundlePathError := .Ok

def sampleNonce : Bytes := List.replicate 32 1

end AttestationSdk.Attestation
