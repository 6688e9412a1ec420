import AttestationSdk.VouchedStatus
import AttestationSdk.LocalVerifier

/-! What a certificate chain whose claims pass the overall-result policy rests on. -/
namespace AttestationSdk.VouchedChain
open AttestationSdk.Ocsp AttestationSdk.ChainStatus AttestationSdk.CertChain
open AttestationSdk.VouchedStatus AttestationSdk.LocalVerifier AttestationSdk.OverallPolicy
open AttestationSdk.Claims CalendarTime Effects Prog
variable {σ : Type} {x509 : X509Lib} {ocsp : OcspLib} {client : StatusClient σ}
  {now : Prog Fault σ Int} {chain : X509CertChain}

/-- The presented certificates are a verified path, none has expired, and the status
of every certificate the walk covers, of which there is one, is vouched for. -/
structure VouchedChain (x509 : X509Lib) (ocsp : OcspLib) (client : StatusClient σ)
    (now : Prog Fault σ Int) (chain : X509CertChain) (store : TrustStore) : Prop where
  trustStore : chain.trustStore = some store
  verified : ∃ target untrusted, chain.certs = target :: untrusted ∧
    x509.verifyCert store target untrusted = some chain.certs
  unexpired : ∃ time s s', now s = (.ok time, s') ∧
    ∀ cert ∈ chain.certs, ∃ tm, x509.notAfter cert = some tm ∧ time ≤ timegm tm
  covered : ∃ qs, qs ≠ [] ∧
    qs.map some = (coveredIndices (startIndex chain.type) (chain.certs.length - 1)).map
      (queryAt store chain.certs) ∧
    ∀ q ∈ qs, Vouched ocsp q client

theorem verify_ok {path : VerifiedPath} (h : verify x509 chain = .ok path) :
    ∃ store target untrusted, chain.trustStore = some store ∧ chain.certs = target :: untrusted ∧
      x509.verifyCert store target untrusted = some chain.certs ∧ path.certs = chain.certs := by
  rw [verify] at h
  split at h
  · cases h
  · cases h
  · next target untrusted store hcerts hstore =>
    split at h
    · cases h
    · next verified hverified =>
      split at h
      · next hsame =>
        cases h
        have hcerts' : verified = chain.certs := hsame.1.trans hcerts.symm
        exact ⟨store, target, untrusted, hstore, hcerts, hverified.trans (congrArg some hcerts'),
          hcerts'⟩
      · cases h

/-- The least expiration time is not after any of them. -/
theorem minExpirationLoop_le {certs : List X509} {least least' : Int} {found found' : Bool}
    (h : minExpirationLoop x509 certs least found = .ok (least', found')) :
    least' ≤ least ∧ ∀ cert ∈ certs, ∃ tm, x509.notAfter cert = some tm ∧ least' ≤ timegm tm := by
  induction certs generalizing least found with
  | nil =>
    cases h
    exact ⟨le_refl _, by simp⟩
  | cons cert rest ih =>
    cases htm : x509.notAfter cert with
    | none => simp [minExpirationLoop, htm, internalError] at h
    | some tm =>
      simp only [minExpirationLoop, htm] at h
      by_cases hlt : timegm tm < least
      · rw [if_pos hlt] at h
        obtain ⟨hle, hrest⟩ := ih h
        refine ⟨by omega, fun c hc => ?_⟩
        cases List.mem_cons.mp hc with
        | inl heq => exact ⟨tm, heq ▸ htm, hle⟩
        | inr hin => exact hrest c hin
      · rw [if_neg hlt] at h
        obtain ⟨hle, hrest⟩ := ih h
        refine ⟨hle, fun c hc => ?_⟩
        cases List.mem_cons.mp hc with
        | inl heq => exact ⟨tm, heq ▸ htm, by omega⟩
        | inr hin => exact hrest c hin

theorem calculateMinExpirationTime_ok {least : Int} {date : String}
    (h : calculateMinExpirationTime x509 chain = .ok (least, date)) :
    date = x509.iso8601 least ∧
      minExpirationLoop x509 chain.certs 9223372036854775807 false = .ok (least, true) := by
  rw [calculateMinExpirationTime] at h
  split at h
  · cases h
  · obtain ⟨⟨least', found⟩, hloop, h⟩ := ExceptRules.bind_eq_ok.mp h
    cases found with
    | false => cases h
    | true =>
      cases h
      exact ⟨rfl, hloop⟩

theorem calculateMinExpirationTime_le {least : Int} {date : String}
    (h : calculateMinExpirationTime x509 chain = .ok (least, date)) :
    ∀ cert ∈ chain.certs, ∃ tm, x509.notAfter cert = some tm ∧ least ≤ timegm tm :=
  (minExpirationLoop_le (calculateMinExpirationTime_ok h).2).2

/-- The steps of `generate_cert_chain_claims` when it returns claims. -/
theorem generateCertChainClaims_ok {oc : OcspClient σ} {claims : CertChainClaims} {s s' : σ}
    (h : generateCertChainClaims x509 ocsp oc now chain s = (.ok claims, s')) :
    ∃ least time path s₁,
      calculateMinExpirationTime x509 chain = .ok (least, claims.expirationDate) ∧
      now s = (.ok time, s₁) ∧ verify x509 chain = .ok path ∧
      generateOcspClaimsForPath ocsp oc chain.type chain.trustStore path s₁ =
        (.ok claims.ocspClaims, s') ∧
      (claims.status = .VALID ↔ time ≤ least) := by
  obtain ⟨⟨least, date⟩, s₁, hleast, h⟩ := bind_eq_ok.mp h
  obtain ⟨time, s₂, htime, h⟩ := bind_eq_ok.mp h
  obtain ⟨path, s₃, hpath, h⟩ := bind_eq_ok.mp h
  obtain ⟨ocspClaims, s₄, hocsp, h⟩ := bind_eq_ok.mp h
  cases h
  obtain ⟨hexpiry, rfl⟩ := lift_iff.mp hleast
  obtain ⟨hverified, rfl⟩ := lift_iff.mp hpath
  refine ⟨least, time, path, _, hexpiry, htime, hverified, hocsp, ?_⟩
  by_cases hlt : least < time
  · simp [hlt]
  · simp [hlt, not_lt.mp hlt]

theorem certStatusText_valid {status : CertChainStatus} (h : certStatusText status = "valid") :
    status = .VALID := by
  cases status <;> simp [certStatusText] at h ⊢

theorem ocspStatusText_good {status : OCSPStatus} (h : ocspStatusText status = "good") :
    status = .GOOD := by
  cases status <;> simp [ocspStatusText] at h ⊢

/-- Freshness of an online chain rests on its nonces. -/
theorem nonceMatches_of_fresh {claims : CertChainClaims} (h : Fresh (serializableChain claims))
    (hmode : claims.ocspClaims.signedAge = false) : claims.ocspClaims.nonceMatches = true := by
  simpa [Fresh, serializableChain, makeSignedAgeStatus, hmode] using h

/-- A trusted summary of answers means that each of them is vouched for. -/
theorem vouched_of_summary {qs : List OcspQuery} {rs : List NvOcspResponse} {s s' : σ}
    {claims : CertChainClaims} (hasked : Asked (client.toOcspClient ocsp) s qs rs s')
    (hsum : Summarises rs claims.ocspClaims) (htrusted : TrustedChain (serializableChain claims)) :
    qs ≠ [] ∧ ∀ q ∈ qs, Vouched ocsp q client := by
  obtain ⟨_, hgood, _, hfresh⟩ := htrusted
  have hstatus : pathStatus rs = .GOOD := hsum.status ▸ ocspStatusText_good hgood
  obtain ⟨hpos, hall⟩ := (pathStatus_good_iff rs).mp hstatus
  have hne : rs ≠ [] := List.ne_nil_of_length_pos hpos
  constructor
  · intro hnil
    have hlen := hasked.length_eq
    rw [hnil, List.length_nil] at hlen
    omega
  · intro q hq
    obtain ⟨r, hr, s₁, s₂, hanswer⟩ := hasked.answer_of_mem hq
    refine vouched_of_answer hanswer (hall r hr) fun hmode => ?_
    have hnonce : claims.ocspClaims.nonceMatches = true :=
      nonceMatches_of_fresh hfresh ((hsum.mode r hr).symm.trans hmode)
    rw [hsum.nonce, Bool.and_eq_true, List.all_eq_true] at hnonce
    exact hnonce.2 r hr

/-- Inversion of `generate_cert_chain_claims` for a chain whose claims are trusted. -/
theorem vouchedChain_of_claims {claims : CertChainClaims} {s s' : σ}
    (h : generateCertChainClaims x509 ocsp (client.toOcspClient ocsp) now chain s =
      (.ok claims, s'))
    (htrusted : TrustedChain (serializableChain claims)) :
    ∃ store, VouchedChain x509 ocsp client now chain store := by
  obtain ⟨least, time, path, s₁, hleast, htime, hpath, hocsp, hvalid⟩ :=
    generateCertChainClaims_ok h
  obtain ⟨store, target, untrusted, hstore, hcerts, hverified, hsame⟩ := verify_ok hpath
  obtain ⟨store', qs, rs, hstore', hqs, hasked, hsum, _⟩ := generateOcspClaimsForPath_ok hocsp
  have hstores : store' = store := Option.some.inj (hstore'.symm.trans hstore)
  subst hstores
  obtain ⟨hne, hvouched⟩ := vouched_of_summary hasked hsum htrusted
  have hunexpired := hvalid.mp (certStatusText_valid htrusted.1)
  refine ⟨store', hstore, ⟨target, untrusted, hcerts, hverified⟩,
    ⟨time, s, s₁, htime, fun cert hcert => ?_⟩, qs, hne, hsame ▸ hqs, hvouched⟩
  obtain ⟨tm, htm, hle⟩ := calculateMinExpirationTime_le hleast cert hcert
  exact ⟨tm, htm, le_trans hunexpired hle⟩

end AttestationSdk.VouchedChain
