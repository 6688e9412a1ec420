import AttestationSdk.Ocsp
import AttestationSdk.Effects

/-! Revocation status of a verified certificate path:
`X509CertChain::generate_ocsp_claims_for_path` over any OCSP client. -/
namespace AttestationSdk.ChainStatus
open AttestationSdk.Ocsp Effects ExceptRules

inductive CertificateChainType where
  | GPU_DEVICE_IDENTITY | GPU_VBIOS_RIM | GPU_DRIVER_RIM
  | NVSWITCH_DEVICE_IDENTITY | NVSWITCH_VBIOS_RIM
  deriving Repr, DecidableEq

inductive OCSPStatus where
  | UNDEFINED | GOOD | REVOKED | UNKOWN
  deriving Repr, DecidableEq

structure OCSPClaims where
  status : OCSPStatus := .UNDEFINED
  revocationReason : Option String := none
  nonceMatches : Bool := false
  ocspRespExpirationTime : Int := 0
  ocspResponseValid : Bool := false
  signedAge : Bool := false
  verificationTime : Int := 0
  statusDeadline : Int := 0
  oldestThisUpdate : Int := 0
  coveredCertificates : Nat := 0
  deriving Repr, DecidableEq

structure OcspQuery where
  subject : X509
  issuer : X509
  intermediates : List X509
  trustStore : TrustStore
  deriving Repr, DecidableEq

/-- `IOcspHttpClient`: return code and out-parameter, over whatever world the
client reads and changes. -/
structure OcspClient (σ : Type) where
  getOcspResponse : OcspQuery → NvOcspResponse → Prog Fault σ (Error × NvOcspResponse)

/-- The local each turn declares. The source leaves its first fields unset. -/
def freshResponse : NvOcspResponse where
  thisupd := 0
  nextupd := 0
  reason := 0
  status := 0
  nonceMatches := false
  responseValid := false
  signedAge := false
  verificationTime := 0
  statusDeadline := 0

/-- A path `X509CertChain::verify` returned; OpenSSL counts it with an `int`. -/
structure VerifiedPath where
  certs : List X509
  length_le : certs.length ≤ 2147483647

def mapStatus (status : Int) : OCSPStatus :=
  if status = certStatusRevoked then .REVOKED
  else if status = certStatusGood then .GOOD
  else if status = certStatusUnknown then .UNKOWN
  else .UNDEFINED

/-- `revocation_reason` and `status` after one more response. -/
def absorbStatus (lib : OcspLib) (initialized : Bool) (claims : OCSPClaims)
    (resp : NvOcspResponse) : OCSPClaims :=
  let mapped := mapStatus resp.status
  if !initialized then { claims with status := mapped }
  else if claims.status = .GOOD then
    { claims with
      revocationReason := if mapped = .REVOKED then some (lib.crlReasonStr resp.reason)
        else claims.revocationReason
      status := mapped }
  else claims

/-- The signed-age fields after one more response. -/
def absorbMode (initialized : Bool) (claims : OCSPClaims) (resp : NvOcspResponse) :
    Except Fault OCSPClaims :=
  if initialized ∧ claims.signedAge ≠ resp.signedAge then .error (.code .OcspInvalidResponse)
  else
    let claims := { claims with signedAge := resp.signedAge }
    if !resp.signedAge then .ok claims
    else if resp.nonceMatches then .error (.code .OcspInvalidResponse)
    else if !initialized then
      .ok { claims with
        verificationTime := resp.verificationTime
        statusDeadline := resp.statusDeadline
        oldestThisUpdate := resp.thisupd }
    else if claims.verificationTime ≠ resp.verificationTime then
      .error (.code .OcspInvalidResponse)
    else
      .ok { claims with
        statusDeadline := min claims.statusDeadline resp.statusDeadline
        oldestThisUpdate := min claims.oldestThisUpdate resp.thisupd }

/-- The loop body after the client has answered. -/
def absorb (lib : OcspLib) (initialized : Bool) (claims : OCSPClaims) (resp : NvOcspResponse) :
    Except Fault OCSPClaims := do
  let claims := { claims with
    ocspResponseValid :=
      if !initialized then resp.responseValid else claims.ocspResponseValid && resp.responseValid
    nonceMatches :=
      if !initialized then resp.nonceMatches else claims.nonceMatches && resp.nonceMatches }
  let claims ← absorbMode initialized (absorbStatus lib initialized claims resp) resp
  return { claims with
    coveredCertificates := claims.coveredCertificates + 1
    ocspRespExpirationTime :=
      if claims.ocspRespExpirationTime = 0 ∨ resp.nextupd < claims.ocspRespExpirationTime
      then resp.nextupd else claims.ocspRespExpirationTime }

def startIndex : CertificateChainType → Nat
  | .GPU_DEVICE_IDENTITY | .NVSWITCH_DEVICE_IDENTITY => 1
  | _ => 0

section Loop
variable {σ : Type} (lib : OcspLib) (client : OcspClient σ) (store : TrustStore)

/-- The loop from `subject_idx = i - 1` down to `start`. -/
def pathLoop (path : List X509) (start : Nat) :
    Nat → Bool → OCSPClaims → List X509 → Prog Fault σ OCSPClaims
  | 0, _, claims, _ => pure claims
  | i + 1, initialized, claims, intermediates =>
    if i < start then pure claims else
      match path[i]?, path[i + 1]? with
      | some subject, some issuer => do
        let (rc, resp) ← client.getOcspResponse ⟨subject, issuer, intermediates, store⟩
          freshResponse
        if rc ≠ .Ok then Prog.fail (.code rc) else do
          let claims ← Prog.lift (absorb lib initialized claims resp)
          pathLoop path start i true claims (subject :: intermediates)
      | _, _ => Prog.fail .undefined

end Loop

/-- `generate_ocsp_claims_for_path` on a chain of type `type` whose trust store may be unset. -/
def generateOcspClaimsForPath {σ : Type} (lib : OcspLib) (client : OcspClient σ)
    (type : CertificateChainType) (trustStore : Option TrustStore) (path : VerifiedPath) :
    Prog Fault σ OCSPClaims :=
  match trustStore with
  | none => Prog.fail (.code .InternalError)
  | some store =>
    pathLoop lib client store path.certs (startIndex type) (path.certs.length - 1) false {} []

/-- The status of the certificate nearest the root that is not good, over
responses listed from the root. -/
def pathStatus (responses : List NvOcspResponse) : OCSPStatus :=
  if responses = [] then .UNDEFINED
  else ((responses.map (fun r => mapStatus r.status)).find? (· ≠ .GOOD)).getD .GOOD

def LeastOver (f : NvOcspResponse → Int) (responses : List NvOcspResponse) (m : Int) : Prop :=
  (∃ r ∈ responses, f r = m) ∧ ∀ r ∈ responses, m ≤ f r

/-- One mode for the whole path and, where it is signed age, one verification
time and no nonce match. -/
structure Agree (responses : List NvOcspResponse) : Prop where
  mode : ∀ r ∈ responses, ∀ r' ∈ responses, r.signedAge = r'.signedAge
  time : ∀ r ∈ responses, ∀ r' ∈ responses, r.signedAge → r'.signedAge →
    r.verificationTime = r'.verificationTime
  nonce : ∀ r ∈ responses, r.signedAge → r.nonceMatches = false

/-- The claims that stand for a list of responses. -/
structure Summarises (responses : List NvOcspResponse) (claims : OCSPClaims) : Prop where
  covered : claims.coveredCertificates = responses.length
  status : claims.status = pathStatus responses
  valid : claims.ocspResponseValid = (!responses.isEmpty && responses.all (·.responseValid))
  nonce : claims.nonceMatches = (!responses.isEmpty && responses.all (·.nonceMatches))
  mode : ∀ r ∈ responses, r.signedAge = claims.signedAge
  online : responses = [] → claims.signedAge = false
  time : claims.signedAge → ∀ r ∈ responses, r.verificationTime = claims.verificationTime
  deadline : claims.signedAge → LeastOver (·.statusDeadline) responses claims.statusDeadline
  oldest : claims.signedAge → LeastOver (·.thisupd) responses claims.oldestThisUpdate

theorem LeastOver.singleton (f : NvOcspResponse → Int) (r : NvOcspResponse) :
    LeastOver f [r] (f r) := by
  simp [LeastOver]

theorem LeastOver.snoc {f : NvOcspResponse → Int} {responses : List NvOcspResponse} {m : Int}
    (h : LeastOver f responses m) (r : NvOcspResponse) :
    LeastOver f (responses ++ [r]) (min m (f r)) := by
  obtain ⟨⟨r0, hr0, h0⟩, hle⟩ := h
  constructor
  · by_cases hm : m ≤ f r
    · exact ⟨r0, by simp [hr0], by omega⟩
    · exact ⟨r, by simp, by omega⟩
  · intro x hx
    cases List.mem_append.mp hx with
    | inl hin =>
      have := hle x hin
      omega
    | inr hin =>
      obtain rfl := List.mem_singleton.mp hin
      omega

theorem pathStatus_singleton (r : NvOcspResponse) : pathStatus [r] = mapStatus r.status := by
  by_cases h : mapStatus r.status = .GOOD <;> simp [pathStatus, h]

theorem pathStatus_snoc {responses : List NvOcspResponse} (h : responses ≠ []) (r : NvOcspResponse) :
    pathStatus (responses ++ [r]) =
      if pathStatus responses = .GOOD then mapStatus r.status else pathStatus responses := by
  have hne : responses ++ [r] ≠ [] := by simp
  rw [pathStatus, if_neg hne, pathStatus, if_neg h, List.map_append, List.find?_append]
  cases hf : (responses.map (fun r => mapStatus r.status)).find? (· ≠ .GOOD) with
  | none =>
    by_cases hg : mapStatus r.status = .GOOD <;> simp [hg]
  | some st =>
    have hst : st ≠ .GOOD := by simpa using List.find?_some hf
    simp [hst]

theorem pathStatus_good_iff (responses : List NvOcspResponse) :
    pathStatus responses = .GOOD ↔
      0 < responses.length ∧ ∀ r ∈ responses, mapStatus r.status = .GOOD := by
  cases responses with
  | nil => simp [pathStatus]
  | cons r rest =>
    rw [pathStatus, if_neg (by simp)]
    cases hf : ((r :: rest).map (fun r => mapStatus r.status)).find? (· ≠ .GOOD) with
    | none =>
      have hall := List.find?_eq_none.mp hf
      simpa using hall
    | some st =>
      have hst : st ≠ .GOOD := by simpa using List.find?_some hf
      obtain ⟨x, hx, hxs⟩ := List.mem_map.mp (List.mem_of_find?_eq_some hf)
      constructor
      · intro h
        exact absurd h (by simpa using hst)
      · intro h
        exact absurd (h.2 x hx) (hxs ▸ hst)

theorem summarises_nil : Summarises [] {} :=
  ⟨rfl, rfl, rfl, rfl, by simp, fun _ => rfl, by simp, by simp, by simp⟩

theorem agree_nil : Agree [] := ⟨by simp, by simp, by simp⟩

theorem agree_singleton_iff (r : NvOcspResponse) :
    Agree [r] ↔ (r.signedAge → r.nonceMatches = false) := by
  constructor
  · intro h
    exact h.nonce r (by simp)
  · intro h
    exact ⟨by simp, by simp, by simpa using h⟩

/-- The first response of a path. -/
theorem absorb_first (lib : OcspLib) (r : NvOcspResponse) :
    (Agree [r] → ∃ c, absorb lib false {} r = .ok c ∧ Summarises [r] c) ∧
      (¬ Agree [r] → absorb lib false {} r = .error (.code .OcspInvalidResponse)) := by
  rw [agree_singleton_iff]
  cases hs : r.signedAge with
  | false =>
    refine ⟨fun _ => ⟨_, by simp [absorb, absorbStatus, absorbMode, hs]; rfl, ?_⟩, by simp⟩
    exact ⟨by simp, by simp [pathStatus_singleton], by simp, by simp, by simp [hs],
      by simp, by simp, by simp, by simp⟩
  | true =>
    cases hn : r.nonceMatches with
    | true => simp [absorb, absorbStatus, absorbMode, hs, hn]
    | false =>
      refine ⟨fun _ => ⟨_, by simp [absorb, absorbStatus, absorbMode, hs, hn]; rfl, ?_⟩, by simp⟩
      exact ⟨by simp, by simp [pathStatus_singleton], by simp, by simp [hn], by simp [hs],
        by simp, by simp, fun _ => LeastOver.singleton _ r, fun _ => LeastOver.singleton _ r⟩

/-- One more response agrees with a summarised path exactly when it agrees
with the summary. -/
theorem agree_snoc_iff {done : List NvOcspResponse} {c : OCSPClaims} (hne : done ≠ [])
    (hsum : Summarises done c) (hagree : Agree done) (r : NvOcspResponse) :
    Agree (done ++ [r]) ↔ c.signedAge = r.signedAge ∧
      (r.signedAge → r.nonceMatches = false ∧ c.verificationTime = r.verificationTime) := by
  obtain ⟨r0, hr0⟩ := List.exists_mem_of_ne_nil done hne
  have hmem : ∀ x, x ∈ done ++ [r] ↔ x ∈ done ∨ x = r := by simp
  constructor
  · intro h
    have hmode := h.mode r0 (by simp [hr0]) r (by simp)
    rw [hsum.mode r0 hr0] at hmode
    refine ⟨hmode, fun hs => ⟨h.nonce r (by simp) hs, ?_⟩⟩
    have hc : c.signedAge := by rw [hmode]; exact hs
    have ht := h.time r0 (by simp [hr0]) r (by simp) (by rw [hsum.mode r0 hr0]; exact hc) hs
    rw [← ht, hsum.time hc r0 hr0]
  · intro h
    obtain ⟨hmode, hsigned⟩ := h
    -- every response of the longer path carries the mode and time of the summary
    have hall : ∀ x ∈ done ++ [r], x.signedAge = c.signedAge := by
      intro x hx
      cases (hmem x).mp hx with
      | inl hin => exact hsum.mode x hin
      | inr heq => rw [heq, hmode]
    have htime : c.signedAge → ∀ x ∈ done ++ [r], x.verificationTime = c.verificationTime := by
      intro hc x hx
      cases (hmem x).mp hx with
      | inl hin => exact hsum.time hc x hin
      | inr heq => rw [heq, (hsigned (hmode ▸ hc)).2]
    refine ⟨fun x hx y hy => by rw [hall x hx, hall y hy], fun x hx y hy hs _ => ?_,
      fun x hx hs => ?_⟩
    · have hc : c.signedAge := by rw [← hall x hx]; exact hs
      rw [htime hc x hx, htime hc y hy]
    · cases (hmem x).mp hx with
      | inl hin => exact hagree.nonce x hin hs
      | inr heq =>
        subst heq
        exact (hsigned hs).1

/-- Once the path has begun, a status moves only from good, and the other fields
wait for the mode check. -/
theorem absorb_true (lib : OcspLib) (c : OCSPClaims) (r : NvOcspResponse) :
    ∃ reason, absorb lib true c r = (do
      let claims ← absorbMode true { c with
        status := if c.status = .GOOD then mapStatus r.status else c.status
        revocationReason := reason
        ocspResponseValid := c.ocspResponseValid && r.responseValid
        nonceMatches := c.nonceMatches && r.nonceMatches } r
      return { claims with
        coveredCertificates := claims.coveredCertificates + 1
        ocspRespExpirationTime :=
          if claims.ocspRespExpirationTime = 0 ∨ r.nextupd < claims.ocspRespExpirationTime
          then r.nextupd else claims.ocspRespExpirationTime }) := by
  by_cases h : c.status = .GOOD
  · exact ⟨_, by simp only [absorb, absorbStatus, h, Bool.not_true, if_true]; rfl⟩
  · exact ⟨c.revocationReason, by simp [absorb, absorbStatus, h]⟩

/-- A later response of a path. -/
theorem absorb_next (lib : OcspLib) {done : List NvOcspResponse} {c : OCSPClaims}
    (hne : done ≠ []) (hsum : Summarises done c) (hagree : Agree done) (r : NvOcspResponse) :
    (Agree (done ++ [r]) → ∃ c', absorb lib true c r = .ok c' ∧ Summarises (done ++ [r]) c') ∧
      (¬ Agree (done ++ [r]) → absorb lib true c r = .error (.code .OcspInvalidResponse)) := by
  rw [agree_snoc_iff hne hsum hagree]
  have hstatus : pathStatus (done ++ [r]) =
      if c.status = .GOOD then mapStatus r.status else c.status := by
    rw [pathStatus_snoc hne r, hsum.status]
  have hempty : done.isEmpty = false := by simpa using hne
  have hvalid : c.ocspResponseValid = done.all (·.responseValid) := by
    simpa [hempty] using hsum.valid
  have hnonce : c.nonceMatches = done.all (·.nonceMatches) := by
    simpa [hempty] using hsum.nonce
  obtain ⟨reason, habsorb⟩ := absorb_true lib c r
  rw [habsorb]
  by_cases hmode : c.signedAge = r.signedAge
  · have hmodes : ∀ x ∈ done ++ [r], x.signedAge = r.signedAge := by
      intro x hx
      cases List.mem_append.mp hx with
      | inl hin => rw [hsum.mode x hin, hmode]
      | inr hin => rw [List.mem_singleton.mp hin]
    cases hs : r.signedAge with
    | false =>
      refine ⟨fun _ => ⟨_, by simp [absorbMode, hmode, hs]; rfl, ?_⟩, by simp [hmode, hs]⟩
      exact ⟨by simp [hsum.covered], by simp [hstatus], by simp [hvalid], by simp [hnonce],
        by simpa [hs] using hmodes, by simp, by simp, by simp, by simp⟩
    | true =>
      have hc : c.signedAge = true := by rw [hmode, hs]
      cases hn : r.nonceMatches with
      | true => simp [absorbMode, hmode, hs, hn]
      | false =>
        by_cases ht : c.verificationTime = r.verificationTime
        · refine ⟨fun _ => ⟨_, by simp [absorbMode, hmode, hs, hn, ht]; rfl, ?_⟩,
            by simp [hmode, hs, ht]⟩
          refine ⟨by simp [hsum.covered], by simp [hstatus], by simp [hvalid], by simp [hn],
            by simpa [hs] using hmodes, by simp, fun _ x hx => ?_,
            fun _ => (hsum.deadline hc).snoc r, fun _ => (hsum.oldest hc).snoc r⟩
          cases List.mem_append.mp hx with
          | inl hin => exact (hsum.time hc x hin).trans ht
          | inr hin => rw [List.mem_singleton.mp hin]
        · simp [absorbMode, hmode, hs, hn, ht]
  · refine ⟨fun h => absurd h.1 hmode, fun _ => ?_⟩
    simp [absorbMode, hmode]

/-- A response takes the summary of a path to the summary of the longer path,
or ends the walk when the path no longer agrees. -/
theorem absorb_step (lib : OcspLib) {done : List NvOcspResponse} {c : OCSPClaims}
    (hstart : done = [] → c = {}) (hsum : Summarises done c) (hagree : Agree done)
    (r : NvOcspResponse) :
    (Agree (done ++ [r]) →
        ∃ c', absorb lib (!done.isEmpty) c r = .ok c' ∧ Summarises (done ++ [r]) c') ∧
      (¬ Agree (done ++ [r]) →
        absorb lib (!done.isEmpty) c r = .error (.code .OcspInvalidResponse)) := by
  cases done with
  | nil =>
    rw [hstart rfl]
    exact absorb_first lib r
  | cons r0 rest => exact absorb_next lib (by simp) hsum hagree r

end AttestationSdk.ChainStatus
