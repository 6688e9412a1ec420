import AttestationSdk.ChainCoverage

/-! Which revocation reason the claims about a chain carry. -/
namespace AttestationSdk.ChainStatus
open AttestationSdk.Ocsp Effects ExceptRules
variable {lib : OcspLib}

/-- The answer that determines the status, over answers listed from the root. -/
def deciding (responses : List NvOcspResponse) : Option NvOcspResponse :=
  responses.find? fun r => mapStatus r.status ≠ .GOOD

/-- A reason is given exactly for a revoked chain, and it is the reason of the certificate that
determined the status. -/
structure Explained (lib : OcspLib) (responses : List NvOcspResponse) (claims : OCSPClaims) :
    Prop where
  given : claims.revocationReason.isSome ↔ claims.status = .REVOKED
  reason : claims.status = .REVOKED → ∃ r, deciding responses = some r ∧
    claims.revocationReason = some (lib.crlReasonStr r.reason)

/-- The reason of the deciding answer where it says revoked. -/
def revokedReason (lib : OcspLib) (responses : List NvOcspResponse) : Option String :=
  match deciding responses with
  | some r => if mapStatus r.status = .REVOKED then some (lib.crlReasonStr r.reason) else none
  | none => none

/-- The reason the walk gives: a first answer leaves none. -/
def givenReason (lib : OcspLib) : List NvOcspResponse → Option String
  | [] => none
  | first :: rest => if mapStatus first.status = .GOOD then revokedReason lib rest else none

theorem pathStatus_eq_deciding {responses : List NvOcspResponse} (hne : responses ≠ []) :
    pathStatus responses = ((deciding responses).map fun r => mapStatus r.status).getD .GOOD := by
  rw [pathStatus, if_neg hne, List.find?_map]
  rfl

theorem deciding_of_revoked (lib : OcspLib) {responses : List NvOcspResponse}
    (h : pathStatus responses = .REVOKED) : ∃ r, deciding responses = some r ∧
      revokedReason lib responses = some (lib.crlReasonStr r.reason) := by
  cases responses with
  | nil => simp [pathStatus] at h
  | cons first rest =>
    rw [pathStatus_eq_deciding (by simp)] at h
    rw [revokedReason]
    cases hdeciding : deciding (first :: rest) with
    | none => simp [hdeciding] at h
    | some r =>
      have hrevoked : mapStatus r.status = .REVOKED := by simpa [hdeciding] using h
      exact ⟨r, rfl, by simp [hrevoked]⟩

theorem revokedReason_of_not {responses : List NvOcspResponse}
    (h : pathStatus responses ≠ .REVOKED) : revokedReason lib responses = none := by
  cases responses with
  | nil => rfl
  | cons first rest =>
    rw [pathStatus_eq_deciding (by simp)] at h
    rw [revokedReason]
    cases hdeciding : deciding (first :: rest) with
    | none => rfl
    | some r =>
      have hother : mapStatus r.status ≠ .REVOKED := by simpa [hdeciding] using h
      simp [hother]

theorem explained_iff {responses : List NvOcspResponse} {claims : OCSPClaims}
    (hstatus : claims.status = pathStatus responses) :
    Explained lib responses claims ↔ claims.revocationReason = revokedReason lib responses := by
  by_cases hrevoked : pathStatus responses = .REVOKED
  · obtain ⟨r, hr, hreason⟩ := deciding_of_revoked lib hrevoked
    rw [hreason]
    constructor
    · intro h
      obtain ⟨r', hr', hgiven⟩ := h.reason (hstatus.trans hrevoked)
      have hsame : r = r' := Option.some.inj (hr.symm.trans hr')
      exact hsame ▸ hgiven
    · intro h
      exact ⟨iff_of_true (by simp [h]) (hstatus.trans hrevoked), fun _ => ⟨r, hr, h⟩⟩
  · rw [revokedReason_of_not hrevoked]
    have hother : claims.status ≠ .REVOKED := hstatus ▸ hrevoked
    constructor
    · intro h
      exact Option.not_isSome_iff_eq_none.mp fun hs => hother (h.given.mp hs)
    · intro h
      exact ⟨iff_of_false (by simp [h]) hother, fun hs => absurd hs hother⟩

/-- The given reason is the right one unless the first answer says revoked. -/
theorem givenReason_iff (responses : List NvOcspResponse) :
    givenReason lib responses = revokedReason lib responses ↔
      ¬ ∃ first rest, responses = first :: rest ∧ mapStatus first.status = .REVOKED := by
  cases responses with
  | nil => simp [givenReason, revokedReason, deciding]
  | cons first rest =>
    by_cases hgood : mapStatus first.status = .GOOD
    · simp [givenReason, revokedReason, deciding, hgood]
    · by_cases hrevoked : mapStatus first.status = .REVOKED
      · simp [givenReason, revokedReason, deciding, hrevoked]
      · simp [givenReason, revokedReason, deciding, hgood, hrevoked]

theorem deciding_snoc (responses : List NvOcspResponse) (r : NvOcspResponse) :
    deciding (responses ++ [r]) =
      (deciding responses).or (if mapStatus r.status = .GOOD then none else some r) := by
  rw [deciding, List.find?_append]
  by_cases hgood : mapStatus r.status = .GOOD <;> simp [deciding, hgood]

theorem revokedReason_snoc (responses : List NvOcspResponse) (r : NvOcspResponse) :
    revokedReason lib (responses ++ [r]) =
      if deciding responses = none ∧ mapStatus r.status = .REVOKED then
        some (lib.crlReasonStr r.reason) else revokedReason lib responses := by
  rw [revokedReason, deciding_snoc]
  cases hdeciding : deciding responses with
  | none =>
    by_cases hgood : mapStatus r.status = .GOOD
    · simp [hgood, revokedReason, hdeciding]
    · simp [hgood, revokedReason, hdeciding]
  | some d => simp [revokedReason, hdeciding]

/-- One more answer gives a reason where all before it were good and it says revoked. -/
theorem givenReason_snoc {responses : List NvOcspResponse} (hne : responses ≠ [])
    (r : NvOcspResponse) : givenReason lib (responses ++ [r]) =
      if pathStatus responses = .GOOD ∧ mapStatus r.status = .REVOKED then
        some (lib.crlReasonStr r.reason) else givenReason lib responses := by
  cases responses with
  | nil => exact absurd rfl hne
  | cons first rest =>
    rw [List.cons_append, givenReason, givenReason]
    by_cases hgood : mapStatus first.status = .GOOD
    · have hsame : deciding (first :: rest) = deciding rest := by simp [deciding, hgood]
      have hall : pathStatus (first :: rest) = .GOOD ↔ deciding rest = none := by
        rw [pathStatus_eq_deciding hne, hsame]
        cases hdeciding : deciding rest with
        | none => simp
        | some d =>
          have hbad : mapStatus d.status ≠ .GOOD := by simpa using List.find?_some hdeciding
          simp [hbad]
      rw [if_pos hgood, if_pos hgood, revokedReason_snoc]
      simp only [hall]
    · have hbad : pathStatus (first :: rest) ≠ .GOOD :=
        fun h => hgood (((pathStatus_good_iff _).mp h).2 first List.mem_cons_self)
      rw [if_neg hgood, if_neg hgood, if_neg fun h => hbad h.1]

theorem absorbMode_keeps {initialized : Bool} {claims claims' : OCSPClaims} {r : NvOcspResponse}
    (h : absorbMode initialized claims r = .ok claims') :
    claims'.status = claims.status ∧ claims'.revocationReason = claims.revocationReason := by
  unfold absorbMode at h
  split at h
  · cases h
  · dsimp only at h
    split at h
    · cases h
      exact ⟨rfl, rfl⟩
    · split at h
      · cases h
      · split at h
        · cases h
          exact ⟨rfl, rfl⟩
        · split at h
          · cases h
          · cases h
            exact ⟨rfl, rfl⟩

theorem absorb_reason {initialized : Bool} {claims claims' : OCSPClaims} {r : NvOcspResponse}
    (h : absorb lib initialized claims r = .ok claims') :
    claims'.status = (if initialized = true ∧ claims.status ≠ .GOOD then claims.status
        else mapStatus r.status) ∧
      claims'.revocationReason =
        if initialized = true ∧ claims.status = .GOOD ∧ mapStatus r.status = .REVOKED then
          some (lib.crlReasonStr r.reason) else claims.revocationReason := by
  obtain ⟨moded, hmode, h⟩ := bind_eq_ok.mp h
  cases h
  obtain ⟨hstatus, hreason⟩ := absorbMode_keeps hmode
  dsimp only
  rw [hstatus, hreason]
  cases initialized with
  | false => simp [absorbStatus]
  | true =>
    by_cases hgood : claims.status = .GOOD
    · simp [absorbStatus, hgood]
    · simp [absorbStatus, hgood]

section Walk
variable {σ : Type} {client : OcspClient σ}

/-- The status and the reason over the answers absorbed so far. -/
structure ReasonAt (lib : OcspLib) (done : List NvOcspResponse) (claims : OCSPClaims) : Prop where
  status : claims.status = pathStatus done
  reason : claims.revocationReason = givenReason lib done

theorem ReasonAt.absorb {done : List NvOcspResponse} {claims claims' : OCSPClaims}
    (hat : ReasonAt lib done claims) {r : NvOcspResponse}
    (h : absorb lib (!done.isEmpty) claims r = .ok claims') : ReasonAt lib (done ++ [r]) claims' := by
  obtain ⟨hstatus, hreason⟩ := absorb_reason h
  cases done with
  | nil =>
    refine ⟨?_, ?_⟩
    · rw [hstatus]
      exact (pathStatus_singleton r).symm
    · rw [hreason]
      simpa [givenReason, revokedReason, deciding] using hat.reason
  | cons first rest =>
    have hne : first :: rest ≠ [] := by simp
    refine ⟨?_, ?_⟩
    · rw [hstatus, pathStatus_snoc hne, hat.status]
      by_cases hgood : pathStatus (first :: rest) = .GOOD <;> simp [hgood]
    · rw [hreason, givenReason_snoc hne, hat.status, hat.reason]
      simp

/-- A walk that ends well leaves the status and the reason of all its answers. -/
theorem askAll_reasonAt {s s' s'' : σ} {qs : List OcspQuery} {rs : List NvOcspResponse}
    (hasked : Asked client s qs rs s'') :
    ∀ {done : List NvOcspResponse} {claims claims' : OCSPClaims}, ReasonAt lib done claims →
      askAll lib client qs (!done.isEmpty) claims s = (.ok claims', s') →
      ReasonAt lib (done ++ rs) claims' := by
  induction hasked with
  | nil s =>
    intro done claims claims' hat h
    obtain ⟨rfl, _⟩ : claims = claims' ∧ s = s' := by simpa [askAll] using h
    simpa using hat
  | cons answer rest ih =>
    rename_i s s₁ s₂ q r qs rs
    intro done claims claims' hat h
    rw [askAll, Prog.bind_of_ok answer] at h
    cases habsorb : absorb lib (!done.isEmpty) claims r with
    | error fault => simp [habsorb, Prog.bind_of_error (Prog.lift_run _ _)] at h
    | ok claims₁ =>
      have hrest : askAll lib client qs (!(done ++ [r]).isEmpty) claims₁ s₁ = (.ok claims', s') := by
        rw [not_isEmpty_snoc]
        simpa [habsorb, Prog.bind_of_ok (Prog.lift_run _ _)] using h
      simpa using ih (hat.absorb habsorb) hrest

/-- The certificate next to the root is covered, and the client, asked about it in this state,
says that it is revoked. -/
def NearestRevoked (client : OcspClient σ) (type : CertificateChainType) (store : TrustStore)
    (path : VerifiedPath) (s : σ) : Prop :=
  ∃ i q r s₁, i + 2 = path.certs.length ∧ startIndex type ≤ i ∧
    queryAt store path.certs i = some q ∧
    client.getOcspResponse q freshResponse s = (.ok (.Ok, r), s₁) ∧ mapStatus r.status = .REVOKED

/-- The first answer is the one about the certificate next to the root. -/
theorem nearestRevoked_iff {type : CertificateChainType} {store : TrustStore} {path : VerifiedPath}
    {s s' : σ} {qs : List OcspQuery} {rs : List NvOcspResponse}
    (hqs : qs.map some = (coveredIndices (startIndex type) (path.certs.length - 1)).map
      (queryAt store path.certs)) (hasked : Asked client s qs rs s') :
    NearestRevoked client type store path s ↔
      ∃ first rest, rs = first :: rest ∧ mapStatus first.status = .REVOKED := by
  constructor
  · rintro ⟨i, q, r, s₁, hi, hstart, hq, hanswer, hrevoked⟩
    have hlength : path.certs.length - 1 = i + 1 := by omega
    rw [hlength, coveredIndices_succ hstart, List.map_cons, hq] at hqs
    cases hasked with
    | nil => cases hqs
    | cons answer rest =>
      rename_i first _ _
      obtain rfl := Option.some.inj (List.cons.inj hqs).1
      have hsame := congrArg Prod.fst (hanswer.symm.trans answer)
      have hfirst : r = first := (Prod.mk.inj (Except.ok.inj hsame)).2
      exact ⟨first, _, rfl, hfirst ▸ hrevoked⟩
  · rintro ⟨first, rest, rfl, hrevoked⟩
    cases hasked with
    | cons answer _ =>
      by_cases hcovered : startIndex type + 1 < path.certs.length
      · have hlength : path.certs.length - 1 = (path.certs.length - 2) + 1 := by omega
        have hstart : startIndex type ≤ path.certs.length - 2 := by omega
        rw [hlength, coveredIndices_succ hstart, List.map_cons, List.map_cons] at hqs
        exact ⟨path.certs.length - 2, _, first, _, by omega, hstart, (List.cons.inj hqs).1.symm,
          answer, hrevoked⟩
      · have hempty : path.certs.length - 1 - startIndex type = 0 := by omega
        simp [coveredIndices, hempty] at hqs

/-- A walk that returns explains its status exactly where the certificate next to the root is
not the revoked one. -/
theorem revocation_explained_iff {type : CertificateChainType} {trustStore : Option TrustStore}
    {path : VerifiedPath} {s s' : σ} {claims : OCSPClaims}
    (h : generateOcspClaimsForPath lib client type trustStore path s = (.ok claims, s')) :
    ∃ store qs rs, trustStore = some store ∧
      qs.map some = (coveredIndices (startIndex type) (path.certs.length - 1)).map
        (queryAt store path.certs) ∧
      Asked client s qs rs s' ∧
      (Explained lib rs claims ↔ ¬ NearestRevoked client type store path s) := by
  obtain ⟨store, qs, rs, hstore, hqs, hasked, _, _⟩ := generateOcspClaimsForPath_ok h
  obtain ⟨qs', hqs', heq⟩ := generateOcspClaimsForPath_eq_askAll lib client type store path
  have hsame : qs' = qs :=
    List.map_injective_iff.mpr (fun _ _ h => Option.some.inj h) (hqs'.trans hqs.symm)
  rw [hstore, heq, hsame] at h
  have hstart : ReasonAt lib [] {} := ⟨rfl, rfl⟩
  have hat : ReasonAt lib ([] ++ rs) claims := askAll_reasonAt hasked hstart h
  rw [List.nil_append] at hat
  refine ⟨store, qs, rs, hstore, hqs, hasked, ?_⟩
  rw [explained_iff hat.status, hat.reason, givenReason_iff, nearestRevoked_iff hqs hasked]

end Walk

/-- A client that says one certificate is revoked, for key compromise. -/
def revokingClient (revoked : X509) : OcspClient Unit where
  getOcspResponse q _ := pure (.Ok, { freshResponse with
    status := if q.subject = revoked then certStatusRevoked else certStatusGood
    reason := 1 })

/-- The claims about three certificates of which the first is revoked. -/
def laterRevocation : OCSPClaims :=
  { status := .REVOKED, revocationReason := some "", coveredCertificates := 2 }

theorem later_revocation_explained : ∃ store qs rs, some ⟨[]⟩ = some store ∧
    qs.map some = (coveredIndices (startIndex .GPU_DRIVER_RIM) (threeCerts.certs.length - 1)).map
      (queryAt store threeCerts.certs) ∧
    Asked (revokingClient ⟨[1]⟩) () qs rs () ∧
    (Explained default rs laterRevocation ↔
      ¬ NearestRevoked (revokingClient ⟨[1]⟩) .GPU_DRIVER_RIM store threeCerts ()) := by
  have hrun : generateOcspClaimsForPath default (revokingClient ⟨[1]⟩) .GPU_DRIVER_RIM
      (some ⟨[]⟩) threeCerts () = (.ok laterRevocation, ()) := rfl
  exact revocation_explained_iff hrun

/-- The first certificate processed is revoked, and the claims do not say why. -/
theorem first_revocation_unexplained :
    ¬ ∀ (lib : OcspLib) (client : OcspClient Unit) (type : CertificateChainType)
      (trustStore : Option TrustStore) (path : VerifiedPath) (s s' : Unit) (claims : OCSPClaims),
      generateOcspClaimsForPath lib client type trustStore path s = (.ok claims, s') →
      (claims.revocationReason.isSome ↔ claims.status = .REVOKED) := by
  intro h
  have hrun : generateOcspClaimsForPath default (revokingClient ⟨[1, 2]⟩) .GPU_DRIVER_RIM
      (some ⟨[]⟩) threeCerts () =
      (.ok { status := .REVOKED, coveredCertificates := 2 }, ()) := rfl
  have hgiven := (h _ _ _ _ _ _ _ _ hrun).mpr rfl
  cases hgiven

end AttestationSdk.ChainStatus
