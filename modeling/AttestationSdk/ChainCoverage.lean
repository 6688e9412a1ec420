import AttestationSdk.ChainStatus

/-! Which certificates of a verified path the OCSP client is asked about, and
what the chain's claims then say about its answers. -/
namespace AttestationSdk.ChainStatus
open AttestationSdk.Ocsp Effects

section Walk
variable {σ : Type} (lib : OcspLib) (client : OcspClient σ) (store : TrustStore)

/-- The client answered these queries, in this order, with these responses. -/
inductive Asked : σ → List OcspQuery → List NvOcspResponse → σ → Prop where
  | nil (s : σ) : Asked s [] [] s
  | cons {s s' s'' : σ} {q : OcspQuery} {r : NvOcspResponse} {qs : List OcspQuery}
      {rs : List NvOcspResponse}
      (answer : client.getOcspResponse q freshResponse s = (.ok (.Ok, r), s'))
      (rest : Asked s' qs rs s'') : Asked s (q :: qs) (r :: rs) s''

/-- The loop of the source over a list of queries. -/
def askAll : List OcspQuery → Bool → OCSPClaims → Prog Fault σ OCSPClaims
  | [], _, claims => pure claims
  | q :: qs, initialized, claims => do
    let (rc, resp) ← client.getOcspResponse q freshResponse
    if rc ≠ .Ok then Prog.fail (.code rc) else do
      let claims ← Prog.lift (absorb lib initialized claims resp)
      askAll qs true claims

/-- The query about the certificate at an index: its successor is the issuer and
the certificates between it and the root are the intermediates. -/
def queryAt (path : List X509) (i : Nat) : Option OcspQuery := do
  let subject ← path[i]?
  let issuer ← path[i + 1]?
  return ⟨subject, issuer, (path.drop (i + 1)).dropLast, store⟩

/-- The covered indices below `i`, from the root. -/
def coveredIndices (start i : Nat) : List Nat := (List.range' start (i - start)).reverse

theorem queryAt_eq_some {path : List X509} {i : Nat} (h : i + 1 < path.length) :
    ∃ subject issuer, path[i]? = some subject ∧ path[i + 1]? = some issuer ∧
      queryAt store path i = some ⟨subject, issuer, (path.drop (i + 1)).dropLast, store⟩ ∧
      subject :: (path.drop (i + 1)).dropLast = (path.drop i).dropLast := by
  have hi : i < path.length := by omega
  refine ⟨path[i], path[i + 1], by simp [hi], by simp [h], by simp [queryAt, hi, h], ?_⟩
  have hne : path.drop (i + 1) ≠ [] := by simp; omega
  rw [List.drop_eq_getElem_cons hi, List.dropLast_cons_of_ne_nil hne]

theorem coveredIndices_succ {start i : Nat} (h : start ≤ i) :
    coveredIndices start (i + 1) = i :: coveredIndices start i := by
  have hsub : i + 1 - start = (i - start) + 1 := by omega
  have hadd : start + (i - start) = i := by omega
  simp [coveredIndices, hsub, List.range'_1_concat, hadd]

/-- The index loop of the source asks the queries of the covered indices. -/
theorem pathLoop_eq_askAll (path : List X509) (start : Nat) :
    ∀ i, i < path.length → ∃ qs : List OcspQuery,
      qs.map some = (coveredIndices start i).map (queryAt store path) ∧
      ∀ (initialized : Bool) (claims : OCSPClaims),
        pathLoop lib client store path start i initialized claims ((path.drop i).dropLast) =
          askAll lib client qs initialized claims := by
  intro i
  induction i with
  | zero => exact fun _ => ⟨[], by simp [coveredIndices], fun _ _ => rfl⟩
  | succ i ih =>
    intro hi
    by_cases hstart : i < start
    · have hempty : coveredIndices start (i + 1) = [] := by
        have : i + 1 - start = 0 := by omega
        simp [coveredIndices, this]
      exact ⟨[], by simp [hempty], fun _ _ => by rw [pathLoop, if_pos hstart]; rfl⟩
    · obtain ⟨subject, issuer, hs, hn, hq, hinter⟩ := queryAt_eq_some store hi
      obtain ⟨qs, hqs, heq⟩ := ih (by omega)
      refine ⟨⟨subject, issuer, (path.drop (i + 1)).dropLast, store⟩ :: qs, ?_,
        fun initialized claims => ?_⟩
      · rw [coveredIndices_succ (by omega), List.map_cons, List.map_cons, hq, hqs]
      · rw [pathLoop, if_neg hstart, hs, hn]
        simp only [askAll, hinter, heq]

theorem not_isEmpty_snoc (done : List NvOcspResponse) (r : NvOcspResponse) :
    (!(done ++ [r]).isEmpty) = true := by
  cases done with
  | nil => rfl
  | cons => rfl

/-- A walk that ends well has put every query, and its claims summarise the
answers. -/
theorem askAll_ok (qs : List OcspQuery) :
    ∀ {done : List NvOcspResponse} {c c' : OCSPClaims} {s s' : σ},
      (done = [] → c = {}) → Summarises done c → Agree done →
      askAll lib client qs (!done.isEmpty) c s = (.ok c', s') →
      ∃ rs, Asked client s qs rs s' ∧ Summarises (done ++ rs) c' ∧ Agree (done ++ rs) := by
  induction qs with
  | nil =>
    intro done c c' s s' _ hsum hagree h
    obtain ⟨rfl, rfl⟩ : c = c' ∧ s = s' := by simpa [askAll] using h
    exact ⟨[], .nil s, by simpa using hsum, by simpa using hagree⟩
  | cons q qs ih =>
    intro done c c' s s' hstart hsum hagree h
    rw [askAll] at h
    obtain ⟨⟨rc, r⟩, s1, hr, h⟩ := Prog.bind_eq_ok.mp h
    by_cases hrc : rc = .Ok
    · subst hrc
      obtain ⟨hok, herr⟩ := absorb_step lib hstart hsum hagree r
      by_cases hag : Agree (done ++ [r])
      · obtain ⟨c1, hc1, hsum1⟩ := hok hag
        have hrest : askAll lib client qs (!(done ++ [r]).isEmpty) c1 s1 = (.ok c', s') := by
          rw [not_isEmpty_snoc]
          simpa [hc1, Prog.bind_of_ok (Prog.lift_run _ _)] using h
        obtain ⟨rs, hasked, hsum', hagree'⟩ := ih (by simp) hsum1 hag hrest
        refine ⟨r :: rs, .cons hr hasked, ?_, ?_⟩
        · simpa using hsum'
        · simpa using hagree'
      · simp [herr hag, Prog.bind_of_error (Prog.lift_run _ _)] at h
    · simp [hrc] at h

/-- Once the answers no longer agree, the walk ends in an invalid-response error. -/
theorem askAll_conflict (later : List OcspQuery) {s s' : σ} {qs : List OcspQuery}
    {rs : List NvOcspResponse} (hasked : Asked client s qs rs s') :
    ∀ {done : List NvOcspResponse} {c : OCSPClaims},
      (done = [] → c = {}) → Summarises done c → Agree done → ¬ Agree (done ++ rs) →
      ∃ s'', askAll lib client (qs ++ later) (!done.isEmpty) c s =
        (.error (.code .OcspInvalidResponse), s'') := by
  induction hasked with
  | nil s =>
    intro done c _ _ hagree hconf
    exact absurd (by simpa using hagree) hconf
  | cons answer rest ih =>
    rename_i s s1 s2 q r qs rs
    intro done c hstart hsum hagree hconf
    rw [List.cons_append, askAll, Prog.bind_of_ok answer]
    obtain ⟨hok, herr⟩ := absorb_step lib hstart hsum hagree r
    by_cases hag : Agree (done ++ [r])
    · obtain ⟨c1, hc1, hsum1⟩ := hok hag
      obtain ⟨s'', hs''⟩ := ih (by simp) hsum1 hag (by simpa using hconf)
      rw [not_isEmpty_snoc] at hs''
      exact ⟨s'', by simpa [hc1, Prog.bind_of_ok (Prog.lift_run _ _)] using hs''⟩
    · exact ⟨s1, by simp [herr hag, Prog.bind_of_error (Prog.lift_run _ _)]⟩

end Walk
theorem Asked.length_eq {σ : Type} {client : OcspClient σ} {s s' : σ} {qs : List OcspQuery}
    {rs : List NvOcspResponse} (h : Asked client s qs rs s') : qs.length = rs.length := by
  induction h with
  | nil => rfl
  | cons _ _ ih => simp [ih]

theorem Asked.answer_of_mem {σ : Type} {client : OcspClient σ} {s s' : σ} {qs : List OcspQuery}
    {rs : List NvOcspResponse} (h : Asked client s qs rs s') {q : OcspQuery} (hq : q ∈ qs) :
    ∃ r ∈ rs, ∃ s₁ s₂, client.getOcspResponse q freshResponse s₁ = (.ok (.Ok, r), s₂) := by
  induction h with
  | nil s => cases hq
  | cons answer _ ih =>
    cases List.mem_cons.mp hq with
    | inl heq =>
      subst heq
      exact ⟨_, by simp, _, _, answer⟩
    | inr hin =>
      obtain ⟨r, hr, s₁, s₂, hanswer⟩ := ih hin
      exact ⟨r, by simp [hr], s₁, s₂, hanswer⟩

theorem Summarises.nonce_false {rs : List NvOcspResponse} {c : OCSPClaims} (h : Summarises rs c)
    (hagree : Agree rs) (hs : c.signedAge) : c.nonceMatches = false := by
  cases rs with
  | nil => simpa using h.nonce
  | cons r rest =>
    have hr : r.nonceMatches = false := hagree.nonce r (by simp) (by rw [h.mode r (by simp)]; exact hs)
    rw [h.nonce]
    simp [hr]

theorem generateOcspClaimsForPath_eq_askAll {σ : Type} (lib : OcspLib) (client : OcspClient σ)
    (type : CertificateChainType) (store : TrustStore) (path : VerifiedPath) :
    ∃ qs : List OcspQuery,
      qs.map some = (coveredIndices (startIndex type) (path.certs.length - 1)).map
        (queryAt store path.certs) ∧
      generateOcspClaimsForPath lib client type (some store) path =
        askAll lib client qs false {} := by
  by_cases hnil : path.certs.length = 0
  · refine ⟨[], by simp [coveredIndices, hnil], ?_⟩
    simp [generateOcspClaimsForPath, hnil, pathLoop, askAll]
  · obtain ⟨qs, hqs, heq⟩ := pathLoop_eq_askAll lib client store path.certs (startIndex type)
      (path.certs.length - 1) (by omega)
    have hroot : (path.certs.drop (path.certs.length - 1)).dropLast = [] := by
      apply List.eq_nil_of_length_eq_zero
      simp
      omega
    rw [hroot] at heq
    exact ⟨qs, hqs, heq false {}⟩

theorem generateOcspClaimsForPath_ok {σ : Type} {lib : OcspLib} {client : OcspClient σ}
    {type : CertificateChainType} {trustStore : Option TrustStore} {path : VerifiedPath}
    {s s' : σ} {claims : OCSPClaims}
    (h : generateOcspClaimsForPath lib client type trustStore path s = (.ok claims, s')) :
    ∃ store qs rs, trustStore = some store ∧
      qs.map some = (coveredIndices (startIndex type) (path.certs.length - 1)).map
        (queryAt store path.certs) ∧
      Asked client s qs rs s' ∧ Summarises rs claims ∧ Agree rs := by
  cases trustStore with
  | none => simp [generateOcspClaimsForPath] at h
  | some store =>
    obtain ⟨qs, hqs, heq⟩ := generateOcspClaimsForPath_eq_askAll lib client type store path
    rw [heq] at h
    obtain ⟨rs, hasked, hsum, hagree⟩ :=
      askAll_ok lib client qs (fun _ => rfl) summarises_nil agree_nil h
    rw [List.nil_append] at hsum hagree
    exact ⟨store, qs, rs, rfl, hqs, hasked, hsum, hagree⟩

/-- The aggregation of a path's statuses, for every path, chain type and client.
A call that returns has asked about the certificates `s .. n - 2`, each once and
from the root, and its claims summarise the answers; answers that do not agree
on their mode, on the verification time of signed-age responses or on having no
nonce match end it with an error. -/
theorem generateOcspClaimsForPath_aggregates {σ : Type} (lib : OcspLib) (client : OcspClient σ)
    (type : CertificateChainType) (trustStore : Option TrustStore) (path : VerifiedPath) (s : σ) :
    (∀ claims s', generateOcspClaimsForPath lib client type trustStore path s = (.ok claims, s') →
      ∃ store qs rs, trustStore = some store ∧
        qs.map some = (coveredIndices (startIndex type) (path.certs.length - 1)).map
          (queryAt store path.certs) ∧
        Asked client s qs rs s' ∧ Summarises rs claims ∧ Agree rs ∧
        claims.coveredCertificates = qs.length ∧
        (claims.status = .GOOD ↔ 0 < rs.length ∧ ∀ r ∈ rs, mapStatus r.status = .GOOD) ∧
        (claims.signedAge → claims.nonceMatches = false)) ∧
    (∀ store qs later rs s', trustStore = some store →
      (qs ++ later).map some = (coveredIndices (startIndex type) (path.certs.length - 1)).map
        (queryAt store path.certs) →
      Asked client s qs rs s' → ¬ Agree rs →
      ∃ s'', generateOcspClaimsForPath lib client type trustStore path s =
        (.error (.code .OcspInvalidResponse), s'')) := by
  constructor
  · intro claims s' h
    obtain ⟨store, qs, rs, hstore, hqs, hasked, hsum, hagree⟩ := generateOcspClaimsForPath_ok h
    refine ⟨store, qs, rs, hstore, hqs, hasked, hsum, hagree, ?_, ?_, hsum.nonce_false hagree⟩
    · rw [hsum.covered, hasked.length_eq]
    · rw [hsum.status, pathStatus_good_iff]
  · intro store qs' later rs s' hstore hqs' hasked hconf
    obtain ⟨qs, hqs, heq⟩ := generateOcspClaimsForPath_eq_askAll lib client type store path
    have hsame : qs = qs' ++ later :=
      List.map_injective_iff.mpr (fun _ _ h => Option.some.inj h) (hqs.trans hqs'.symm)
    rw [hstore, heq, hsame]
    exact askAll_conflict lib client later hasked (fun _ => rfl) summarises_nil agree_nil
      (by simpa using hconf)

/-- An online client whose responses carry a verification time of their own. -/
def driftingResponse (time : Int) : NvOcspResponse :=
  { freshResponse with responseValid := true, nonceMatches := true, verificationTime := time }

def driftingClient : OcspClient Unit where
  getOcspResponse q _ := pure (.Ok, driftingResponse q.subject.der.length)

def threeCerts : VerifiedPath := ⟨[⟨[1]⟩, ⟨[1, 2]⟩, ⟨[1, 2, 3]⟩], by decide⟩

/-- Verification times are compared between signed-age responses only: online
responses that differ in it are accepted. -/
theorem online_verification_times_not_compared :
    ¬ ∀ (lib : OcspLib) (client : OcspClient Unit) (type : CertificateChainType)
      (store : TrustStore) (path : VerifiedPath) (s s' : Unit) (qs : List OcspQuery)
      (rs : List NvOcspResponse),
      qs.map some = (coveredIndices (startIndex type) (path.certs.length - 1)).map
        (queryAt store path.certs) →
      Asked client s qs rs s' → (∃ r ∈ rs, ∃ r' ∈ rs, r.verificationTime ≠ r'.verificationTime) →
      ∃ e s'', generateOcspClaimsForPath lib client type (some store) path s = (.error e, s'') := by
  intro h
  have hrun := h default driftingClient .GPU_DRIVER_RIM ⟨[]⟩ threeCerts () ()
    [⟨⟨[1, 2]⟩, ⟨[1, 2, 3]⟩, [], ⟨[]⟩⟩, ⟨⟨[1]⟩, ⟨[1, 2]⟩, [⟨[1, 2]⟩], ⟨[]⟩⟩]
    [driftingResponse 2, driftingResponse 1] (by decide) (.cons rfl (.cons rfl (.nil ())))
    ⟨driftingResponse 2, by simp, driftingResponse 1, by simp, by decide⟩
  obtain ⟨e, s'', hrun⟩ := hrun
  cases hrun

end AttestationSdk.ChainStatus
