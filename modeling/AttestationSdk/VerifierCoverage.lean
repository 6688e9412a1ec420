import AttestationSdk.VerifiedItem
import AttestationSdk.RemoteVerifier

/-! Which evidence the claims of a successful verification are about. -/
namespace AttestationSdk.LocalVerifier
open AttestationSdk.Claims AttestationSdk.Eat Effects Prog
variable {σ α : Type}

/-- The items verified one after the other, each in the world the last one left. -/
inductive Verified (verifyItem : α → Prog Fault σ DeviceClaims) :
    List α → σ → List DeviceClaims → σ → Prop where
  | nil (s : σ) : Verified verifyItem [] s [] s
  | cons {item : α} {rest : List α} {s s₁ s₂ : σ} {c : DeviceClaims} {cs : List DeviceClaims} :
    verifyItem item s = (.ok c, s₁) → Verified verifyItem rest s₁ cs s₂ →
    Verified verifyItem (item :: rest) s (c :: cs) s₂

variable {verifyItem : α → Prog Fault σ DeviceClaims}

theorem verifyItems_ok {evidence : List α} {out claims : List DeviceClaims} {s s' : σ}
    (h : verifyItems verifyItem evidence out s = (.ok claims, s')) :
    ∃ new, claims = out ++ new ∧ Verified verifyItem evidence s new s' := by
  induction evidence generalizing out s with
  | nil =>
    cases h
    exact ⟨[], by simp, .nil _⟩
  | cons item rest ih =>
    obtain ⟨c, s₁, hitem, hrest⟩ := bind_eq_ok.mp h
    obtain ⟨new, hclaims, hverified⟩ := ih hrest
    exact ⟨c :: new, by simp [hclaims], .cons hitem hverified⟩

theorem verifyItems_of_verified {evidence : List α} {new : List DeviceClaims} {s s' : σ}
    (h : Verified verifyItem evidence s new s') (out : List DeviceClaims) :
    verifyItems verifyItem evidence out s = (.ok (out ++ new), s') := by
  induction h generalizing out with
  | nil s => simp [verifyItems]
  | cons hitem _ ih => rw [verifyItems, bind_of_ok hitem, ih, List.append_assoc, List.singleton_append]

theorem verified_iff {evidence : List α} {new : List DeviceClaims} {s s' : σ} :
    verifyItems verifyItem evidence [] s = (.ok new, s') ↔
      Verified verifyItem evidence s new s' := by
  constructor
  · intro h
    obtain ⟨new', hnew, hverified⟩ := verifyItems_ok h
    rwa [hnew, List.nil_append]
  · intro h
    exact verifyItems_of_verified h []

/-- A fact about each verified item is a fact about the claims in their order. -/
theorem Verified.forall₂ {R : α → DeviceClaims → Prop}
    (hitem : ∀ item s c s', verifyItem item s = (.ok c, s') → R item c)
    {evidence : List α} {new : List DeviceClaims} {s s' : σ}
    (h : Verified verifyItem evidence s new s') : List.Forall₂ R evidence new := by
  induction h with
  | nil s => exact .nil
  | cons hc _ ih => exact .cons (hitem _ _ _ _ hc) ih

theorem Verified.claims_of_mem {evidence : List α} {new : List DeviceClaims} {s s' : σ}
    (h : Verified verifyItem evidence s new s') :
    ∀ item ∈ evidence, ∃ c ∈ new, ∃ s s', verifyItem item s = (.ok c, s') := by
  induction h with
  | nil s => simp
  | cons hc _ ih =>
    refine List.forall_mem_cons.mpr ⟨⟨_, List.mem_cons_self, _, _, hc⟩, fun item hitem => ?_⟩
    obtain ⟨c, hmem, hrun⟩ := ih item hitem
    exact ⟨c, List.mem_cons_of_mem _ hmem, hrun⟩

theorem Verified.item_of_mem {evidence : List α} {new : List DeviceClaims} {s s' : σ}
    (h : Verified verifyItem evidence s new s') :
    ∀ c ∈ new, ∃ item ∈ evidence, ∃ s s', verifyItem item s = (.ok c, s') := by
  induction h with
  | nil s => simp
  | cons hc _ ih =>
    refine List.forall_mem_cons.mpr ⟨⟨_, List.mem_cons_self, _, _, hc⟩, fun c hmem => ?_⟩
    obtain ⟨item, hitem, hrun⟩ := ih c hmem
    exact ⟨item, List.mem_cons_of_mem _ hitem, hrun⟩

theorem finish_claims {env : Platform σ} {options : DetachedEATOptions} {wantEat : Bool}
    {claims : List DeviceClaims} {s s' : σ} {v : Verification}
    (h : finish env options wantEat claims s = (.ok v, s')) : v.claims = claims := by
  cases wantEat with
  | false =>
    cases h
    rfl
  | true =>
    obtain ⟨_, _, _, h⟩ := bind_eq_ok.mp h
    cases h
    rfl

theorem generateClaims_ok {env : Platform σ} {options : DetachedEATOptions} {evidence : List α}
    {wantEat : Bool} {s s' : σ} {v : Verification}
    (h : generateClaims env options verifyItem evidence wantEat [] s = (.ok v, s')) :
    ∃ s₁, Verified verifyItem evidence s v.claims s₁ ∧
      finish env options wantEat v.claims s₁ = (.ok v, s') := by
  obtain ⟨claims, s₁, hitems, hfinish⟩ := bind_eq_ok.mp h
  have hclaims : v.claims = claims := finish_claims hfinish
  rw [hclaims]
  exact ⟨s₁, verified_iff.mp hitems, hfinish⟩

end AttestationSdk.LocalVerifier

namespace AttestationSdk.Remote
open Json AttestationSdk.Claims AttestationSdk.Text AttestationSdk.Rim AttestationSdk.Eat
open AttestationSdk.Http AttestationSdk.Jwt AttestationSdk.LocalVerifier Effects Prog
variable {σ : Type} {lib : RemoteLib σ} {http : HttpClient σ}

theorem validateAndDecode_ok {eatIssuer token payload : String} {w w' : JwkStore × σ}
    (h : validateAndDecode lib.toJwtLib http eatIssuer token w = (.ok payload, w')) :
    ∃ header, lib.decode token = some (header, payload) := by
  cases hdecode : lib.decode token with
  | none =>
    simp only [validateAndDecode, hdecode] at h
    cases h
  | some parts =>
    simp only [validateAndDecode, hdecode] at h
    obtain ⟨_, _, _, h⟩ := bind_eq_ok.mp h
    obtain ⟨_, _, _, h⟩ := bind_eq_ok.mp h
    obtain ⟨_, _, _, h⟩ := bind_eq_ok.mp h
    obtain ⟨_, _, _, h⟩ := bind_eq_ok.mp h
    obtain ⟨_, _, _, h⟩ := bind_eq_ok.mp h
    obtain ⟨_, _, _, h⟩ := bind_eq_ok.mp h
    obtain ⟨_, _, _, h⟩ := bind_eq_ok.mp h
    cases h
    exact ⟨parts.1, rfl⟩

/-- The payload of a device's token, whose digest the overall token carries. -/
def SubmodOf (lib : RemoteLib σ) (tokens : List (String × String)) (entry device : String × String) :
    Prop :=
  device.1 = entry.1 ∧ ∃ token header, tokens.lookup entry.1 = some token ∧
    lib.decode token = some (header, device.2) ∧ sha256Hex lib token = .ok entry.2

theorem validateSubmods_ok {eatIssuer : String} {tokens entries devices : List (String × String)}
    {w w' : JwkStore × σ}
    (h : validateSubmods lib http eatIssuer tokens entries w = (.ok devices, w')) :
    List.Forall₂ (SubmodOf lib tokens) entries devices := by
  induction entries generalizing devices w with
  | nil =>
    cases h
    exact .nil
  | cons entry rest ih =>
    obtain ⟨device, w₁, hdevice, h⟩ := bind_eq_ok.mp h
    obtain ⟨others, w₂, hothers, h⟩ := bind_eq_ok.mp h
    cases h
    refine .cons ?_ (ih hothers)
    cases htoken : tokens.lookup entry.1 with
    | none =>
      simp only [validateSubmod, htoken] at hdevice
      cases hdevice
    | some token =>
      simp only [validateSubmod, htoken] at hdevice
      obtain ⟨payload, _, hpayload, hdevice⟩ := bind_eq_ok.mp hdevice
      obtain ⟨digest, _, hdigest, hdevice⟩ := bind_eq_ok.mp hdevice
      obtain ⟨_, _, hsame, hdevice⟩ := bind_eq_ok.mp hdevice
      obtain ⟨header, hdecode⟩ := validateAndDecode_ok hpayload
      have hdigest' : digest = entry.2 := of_decide_eq_true (require_ok (lift_ok hsame))
      cases hdevice
      exact ⟨rfl, token, header, htoken, hdecode, hdigest' ▸ lift_ok hdigest⟩

/-- A response of the service and what was read from it. -/
structure ServiceToken where
  body : String
  eat : SerializableDetachedEAT
  overall : SerializableOverallEATClaims
  devices : List (String × String)

/-- The claims of a verification are those of an accepted response, one for each of
its device tokens, under the nonce of the first item. -/
structure ServiceToken.Gives (lib : RemoteLib σ) (verifier : NvRemoteVerifier σ)
    (kind : DeviceKind) (policy : EvidencePolicy) (nonce : Bytes) (t : ServiceToken)
    (claims : List DeviceClaims) : Prop where
  response : ∃ request s s', verifier.httpClient.doRequestAsString request s =
    (.ok (.Ok, httpStatusOk, t.body), s')
  eat : deserializeFromJson lib detachedEatFromJson t.body = .ok t.eat
  overall : ∃ header payload, lib.decode t.eat.overallJwtToken = some (header, payload) ∧
    deserializeFromJson lib overallFromJson payload = .ok t.overall
  nonce : hexStringToBytes t.overall.eatNonce = nonce
  submods : t.overall.submodDigests.length = t.eat.deviceJwtTokens.length
  devices : ∃ entries, entries.Perm t.overall.submodDigests ∧
    List.Forall₂ (SubmodOf lib t.eat.deviceJwtTokens) entries t.devices
  claims : ∃ devices, devices.Perm t.devices ∧
    List.Forall₂ (fun p c => readClaims lib kind.codes policy kind.read p.2 = .ok c) devices claims

theorem ServiceToken.Gives.count {verifier : NvRemoteVerifier σ} {kind : DeviceKind}
    {policy : EvidencePolicy} {nonce : Bytes} {t : ServiceToken} {claims : List DeviceClaims}
    (h : t.Gives lib verifier kind policy nonce claims) :
    claims.length = t.eat.deviceJwtTokens.length := by
  obtain ⟨entries, hentries, hsubmods⟩ := h.devices
  obtain ⟨devices, hdevices, hclaims⟩ := h.claims
  calc claims.length = devices.length := hclaims.length_eq.symm
    _ = t.devices.length := hdevices.length_eq
    _ = entries.length := hsubmods.length_eq.symm
    _ = t.overall.submodDigests.length := hentries.length_eq
    _ = t.eat.deviceJwtTokens.length := h.submods

theorem attest_ok {verifier : NvRemoteVerifier σ} {first : RemoteItem} {evidence : List RemoteItem}
    {w w' : JwkStore × σ} {body : String}
    (h : verifier.attest lib first evidence w = (.ok body, w')) :
    ∃ request s s', verifier.httpClient.doRequestAsString request s = (.ok (.Ok, httpStatusOk, body), s') := by
  obtain ⟨evidenceList, w₁, _, h⟩ := bind_eq_ok.mp h
  obtain ⟨payload, w₂, _, h⟩ := bind_eq_ok.mp h
  obtain ⟨⟨rc, status, body'⟩, w₃, hrequest, h⟩ := bind_eq_ok.mp h
  obtain ⟨_, w₄, hrc, h⟩ := bind_eq_ok.mp h
  obtain ⟨_, w₅, _, h⟩ := bind_eq_ok.mp h
  obtain ⟨_, w₆, hstatus, h⟩ := bind_eq_ok.mp h
  have hrc' : rc = .Ok := of_decide_eq_true (require_ok (lift_ok hrc))
  have hstatus' : status = httpStatusOk := of_decide_eq_true (require_ok (lift_ok hstatus))
  cases h
  subst hrc' hstatus'
  exact ⟨_, _, _, onSecond_ok hrequest⟩

theorem validateAndDecodeEAT_ok {eatIssuer : String} {eat : SerializableDetachedEAT}
    {decoded : DecodedEAT} {w w' : JwkStore × σ}
    (h : validateAndDecodeEAT lib http eatIssuer eat w = (.ok decoded, w')) :
    ∃ header payload overall, lib.decode eat.overallJwtToken = some (header, payload) ∧
      deserializeFromJson lib overallFromJson payload = .ok overall ∧
      hexStringToBytes overall.eatNonce = decoded.eatNonce ∧
      overall.submodDigests.length = eat.deviceJwtTokens.length ∧
      List.Forall₂ (SubmodOf lib eat.deviceJwtTokens) (lib.mapOrder.order overall.submodDigests)
        decoded.claims := by
  obtain ⟨payload, w₁, hpayload, h⟩ := bind_eq_ok.mp h
  obtain ⟨overall, w₂, hoverall, h⟩ := bind_eq_ok.mp h
  obtain ⟨_, w₃, _, h⟩ := bind_eq_ok.mp h
  obtain ⟨claims, w₄, hclaims, h⟩ := bind_eq_ok.mp h
  obtain ⟨_, w₅, hcount, h⟩ := bind_eq_ok.mp h
  obtain ⟨header, hdecode⟩ := validateAndDecode_ok hpayload
  cases h
  exact ⟨header, payload, overall, hdecode, lift_ok hoverall, rfl,
    of_decide_eq_true (require_ok (lift_ok hcount)), validateSubmods_ok hclaims⟩

/-- Inversion of the remote verifiers. -/
theorem verifyEvidence_ok {verifier : NvRemoteVerifier σ} {kind : DeviceKind}
    {policy : EvidencePolicy} {wantEat : Bool} {evidence : List RemoteItem} {v : Verification}
    {w w' : JwkStore × σ}
    (h : verifier.verifyEvidence lib kind policy wantEat evidence w = (.ok v, w')) :
    ∃ first rest t, evidence = first :: rest ∧
      ServiceToken.Gives lib verifier kind policy first.nonce t v.claims := by
  cases evidence with
  | nil => cases h
  | cons first rest =>
    obtain ⟨body, w₁, hbody, h⟩ := bind_eq_ok.mp h
    obtain ⟨eat, w₂, heat, h⟩ := bind_eq_ok.mp h
    obtain ⟨decoded, w₃, hdecoded, h⟩ := bind_eq_ok.mp h
    obtain ⟨_, w₄, hnonce, h⟩ := bind_eq_ok.mp h
    obtain ⟨claims, w₅, hclaims, h⟩ := bind_eq_ok.mp h
    obtain ⟨header, payload, overall, hdecode, hoverall, heatNonce, hcount, hsubmods⟩ :=
      validateAndDecodeEAT_ok hdecoded
    cases h
    exact ⟨first, rest, ⟨body, eat, overall, decoded.claims⟩, rfl, {
      response := attest_ok hbody
      eat := lift_ok heat
      overall := ⟨header, payload, hdecode, hoverall⟩
      nonce := heatNonce.trans (of_decide_eq_true (require_ok (lift_ok hnonce)))
      submods := hcount
      devices := ⟨_, lib.mapOrder.perm _, hsubmods⟩
      claims := ⟨_, lib.mapOrder.perm _, ExceptRules.mapM_eq_ok.mp (lift_ok hclaims)⟩ }⟩

end AttestationSdk.Remote

namespace AttestationSdk.Coverage
open Json AttestationSdk.Claims AttestationSdk.Text AttestationSdk.Rim AttestationSdk.Eat
open AttestationSdk.Http AttestationSdk.Jwt AttestationSdk.LocalVerifier AttestationSdk.Remote Effects Prog

theorem localGpu_nonces {σ : Type} {env : Platform σ} {verifier : Gpu.LocalGpuVerifier σ}
    {evidence : List Gpu.GpuEvidence} {policy : EvidencePolicy} {wantEat : Bool} {s s' : σ}
    {v : Verification}
    (h : verifier.generateClaimsV3 env evidence policy wantEat [] s = (.ok v, s')) :
    List.Forall₂ (fun e c => c.getNonce = toHexString e.nonce) evidence v.claims := by
  obtain ⟨s₁, hverified, _⟩ := generateClaims_ok h
  refine hverified.forall₂ fun e s c s' hitem => ?_
  obtain ⟨claims, s₂, hclaims, hitem⟩ := bind_eq_ok.mp hitem
  obtain ⟨t, ht⟩ := Gpu.LocalGpuVerifier.verifyItem_ok hclaims
  cases hitem
  exact ht.nonce

theorem localSwitch_nonces {σ : Type} {env : Platform σ} {verifier : Switch.LocalSwitchVerifier σ}
    {evidence : List Switch.SwitchEvidence} {policy : EvidencePolicy} {wantEat : Bool} {s s' : σ}
    {v : Verification}
    (h : verifier.generateClaimsV3 env evidence policy wantEat [] s = (.ok v, s')) :
    List.Forall₂ (fun e c => c.getNonce = toHexString e.nonce) evidence v.claims := by
  obtain ⟨s₁, hverified, _⟩ := generateClaims_ok h
  refine hverified.forall₂ fun e s c s' hitem => ?_
  obtain ⟨claims, s₂, hclaims, hitem⟩ := bind_eq_ok.mp hitem
  have hnonce := Switch.LocalSwitchVerifier.verifyItem_nonce hclaims
  cases hitem
  exact hnonce

/-- The local verifiers leave one claim for each item, with the item's nonce. The
remote ones leave one claim for each device token of an accepted response, and only
the overall nonce is compared, with that of the first item. -/
theorem verification_covers {σ : Type} :
    (∀ (env : Platform σ) (verifier : Gpu.LocalGpuVerifier σ) evidence policy wantEat s v s',
      policy.gpuClaimsVersion = .V3 →
      verifier.verifyEvidence env evidence policy wantEat [] s = (.ok v, s') →
      v.claims.length = evidence.length ∧
        List.Forall₂ (fun e c => c.getNonce = toHexString e.nonce) evidence v.claims) ∧
    (∀ (env : Platform σ) (verifier : Switch.LocalSwitchVerifier σ) evidence policy wantEat s v s',
      policy.switchClaimsVersion = .V3 →
      verifier.verifyEvidence env evidence policy wantEat [] s = (.ok v, s') →
      v.claims.length = evidence.length ∧
        List.Forall₂ (fun e c => c.getNonce = toHexString e.nonce) evidence v.claims) ∧
    (∀ (lib : RemoteLib σ) verifier evidence policy wantEat w v w',
      verifyGpuEvidence lib verifier evidence policy wantEat w = (.ok v, w') →
      ∃ first rest t, evidence = first :: rest ∧
        ServiceToken.Gives lib verifier gpuKind policy first.nonce t v.claims ∧
        v.claims.length = t.eat.deviceJwtTokens.length) ∧
    (∀ (lib : RemoteLib σ) verifier evidence policy wantEat w v w',
      verifySwitchEvidence lib verifier evidence policy wantEat w = (.ok v, w') →
      ∃ first rest t, evidence = first :: rest ∧
        ServiceToken.Gives lib verifier switchKind policy first.nonce t v.claims ∧
        v.claims.length = t.eat.deviceJwtTokens.length) := by
  refine ⟨?_, ?_, ?_, ?_⟩
  · intro env verifier evidence policy wantEat s v s' hversion h
    rw [Gpu.LocalGpuVerifier.verifyEvidence, if_pos hversion] at h
    have hnonces := localGpu_nonces h
    exact ⟨hnonces.length_eq.symm, hnonces⟩
  · intro env verifier evidence policy wantEat s v s' hversion h
    rw [Switch.LocalSwitchVerifier.verifyEvidence, if_pos hversion] at h
    have hnonces := localSwitch_nonces h
    exact ⟨hnonces.length_eq.symm, hnonces⟩
  · intro lib verifier evidence policy wantEat w v w' h
    obtain ⟨item, items, t, hitems, hgives⟩ := verifyEvidence_ok h
    obtain ⟨first, rest, rfl, rfl, rfl⟩ := List.map_eq_cons_iff.mp hitems
    exact ⟨first, rest, t, rfl, hgives, hgives.count⟩
  · intro lib verifier evidence policy wantEat w v w' h
    obtain ⟨item, items, t, hitems, hgives⟩ := verifyEvidence_ok h
    obtain ⟨first, rest, rfl, rfl, rfl⟩ := List.map_eq_cons_iff.mp hitems
    exact ⟨first, rest, t, rfl, hgives, hgives.count⟩

def sampleHeader : String := "\x7b\"alg\":\"ES384\",\"kid\":\"k\",\"typ\":\"JWT\"\x7d"

def sampleNonceHex : String := "abababababababababababababababababababababababababababababababab"

/-- The payload of an overall token without device tokens. -/
def samplePayload : String :=
  "\x7b\"eat_nonce\":\"" ++ sampleNonceHex ++ "\",\"exp\":4102444800,\"iat\":1700000000," ++
  "\"iss\":\"nras\",\"jti\":\"j\",\"sub\":\"NVIDIA-PLATFORM-ATTESTATION\",\"submods\":\x7b\x7d," ++
  "\"x-nvidia-overall-att-result\":true,\"x-nvidia-ver\":\"3.0\"\x7d"

def samplePayloadValue : Value := object [
  ("eat_nonce", .str sampleNonceHex), ("exp", .int 4102444800), ("iat", .int 1700000000),
  ("iss", .str "nras"), ("jti", .str "j"), ("sub", .str "NVIDIA-PLATFORM-ATTESTATION"),
  ("submods", .obj []), ("x-nvidia-overall-att-result", .bool true), ("x-nvidia-ver", .str "3.0")]

def sampleToken : String :=
  "eyJhbGciOiJFUzM4NCIsImtpZCI6ImsiLCJ0eXAiOiJKV1QifQ." ++
  "eyJlYXRfbm9uY2UiOiJhYmFiYWJhYmFiYWJhYmFiYWJhYmFiYWJhYmFiYWJhYmFiYWJhYmFiYWJhYmFiYWJhYmFiYWJh" ++
  "YmFiYWJhYmFiIiwiZXhwIjo0MTAyNDQ0ODAwLCJpYXQiOjE3MDAwMDAwMDAsImlzcyI6Im5yYXMiLCJqdGkiOiJqIiwi" ++
  "c3ViIjoiTlZJRElBLVBMQVRGT1JNLUFUVEVTVEFUSU9OIiwic3VibW9kcyI6e30sIngtbnZpZGlhLW92ZXJhbGwtYXR0" ++
  "LXJlc3VsdCI6dHJ1ZSwieC1udmlkaWEtdmVyIjoiMy4wIn0." ++ String.ofList (List.replicate 128 'A')

def sampleBody : String := "[[\"JWT\",\"" ++ sampleToken ++ "\"],\x7b\x7d]"

/-- The texts of the exchange and what they read as; the token is taken as signed. -/
def sampleLib : RemoteLib Unit where
  parse text :=
    if text = sampleBody then some (.arr [.arr [.str "JWT", .str sampleToken], .obj []])
    else if text = samplePayload then some samplePayloadValue
    else if text = sampleHeader then
      some (object [("alg", .str "ES384"), ("kid", .str "k"), ("typ", .str "JWT")])
    else none
  decode token := if token = sampleToken then some (sampleHeader, samplePayload) else none
  acceptsKey _ := true
  verify _ _ := pure true
  nowMs := pure 1700000001000
  dump _ := some ("\x7b\"arch\":\"HOPPER\",\"claims_version\":\"3.0\",\"evidence_list\":" ++
    "[\x7b\"certificate\":\"QUJD\",\"evidence\":\"AQID\"\x7d],\"nonce\":\"" ++ sampleNonceHex ++ "\"\x7d")
  sha256 _ := none
  mapOrder := ⟨id, fun _ => .refl _⟩

def sampleVerifier : NvRemoteVerifier Unit where
  nrasUrl := "https://nras/v4/attest/gpu"
  eatIssuer := "nras"
  httpClient := ⟨fun _ => pure (.Ok, 200, sampleBody)⟩
  jwksHttpClient := ⟨fun _ => pure (.Ok, 500, "")⟩

def sampleStore : JwkStore :=
  ⟨"https://nras/.well-known/jwks.json", 900000, 1700000000000, [("k", ⟨"k", "pem"⟩)]⟩

def sampleEvidence : Gpu.GpuEvidence := ⟨.Hopper, List.replicate 32 0xab, [1, 2, 3], "ABC"⟩

/-- The number of claims and the overall result, where there are any. -/
def outcome {τ : Type} (r : Except Fault Verification × τ) : Option (Nat × Bool) :=
  match r.1 with
  | .ok v => some (v.claims.length, v.overallResult)
  | .error _ => none

theorem outcome_some {τ : Type} {r : Except Fault Verification × τ} {n : Nat} {b : Bool}
    (h : outcome r = some (n, b)) :
    ∃ v w, r = (.ok v, w) ∧ v.claims.length = n ∧ v.overallResult = b := by
  cases r with
  | mk result w =>
    cases result with
    | error f => cases h
    | ok v =>
      cases h
      exact ⟨v, w, rfl, rfl, rfl⟩

/-- A service that answers one item with a token for no device. -/
theorem remote_token_without_devices :
    ¬ ∀ (lib : RemoteLib Unit) verifier evidence policy wantEat w v w',
      evidence ≠ [] → policy.gpuClaimsVersion = .V3 →
      verifyGpuEvidence lib verifier evidence policy wantEat w = (.ok v, w') →
      v.overallResult = true →
      v.claims.length = evidence.length ∧
        ∀ c ∈ v.claims, ∀ e ∈ evidence, c.getNonce = toHexString e.nonce := by
  intro hclaim
  have hrun : outcome (verifyGpuEvidence sampleLib sampleVerifier [sampleEvidence] {} false
      (sampleStore, ())) = some (0, true) := by decide +kernel
  obtain ⟨v, w', h, hnone, htrue⟩ := outcome_some hrun
  have hcount := (hclaim _ _ _ _ _ _ _ _ (by simp) rfl h htrue).1
  simp [hnone] at hcount

end AttestationSdk.Coverage
