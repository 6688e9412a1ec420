import AttestationSdk.RawProofOcsp

/-! When the offline client reports a status: exactly when the signed proofs
settle it. -/
namespace AttestationSdk.RawProofOcsp
open AttestationSdk.Ocsp CalendarTime ExceptRules

/-- The signed proofs settle the status of a certificate: one status over all
responses together, in a response whose signature verifies, at times that admit
the verification time. -/
structure Settles (lib : OcspLib) (client : RawProofOcspClient) (intermediates : List X509)
    (trustStore : Option TrustStore) (id : CertId) (single : SingleResponse) (t n : Int) :
    Prop where
  unique : statusesOf client.responses id = [single]
  signed : ∃ r ∈ client.responses, single ∈ r.responses ∧
    lib.verifySignature (some r) intermediates trustStore = .Ok
  times : readTimes lib single = some (t, n)
  current : TimesAdmit client.verificationTime t n

theorem mem_statusesOf {responses : List BasicResponse} {id : CertId} {single : SingleResponse} :
    single ∈ statusesOf responses id ↔
      (∃ r ∈ responses, single ∈ r.responses) ∧ single.certId = id := by
  simp [statusesOf]

theorem certId_of_statusesOf {responses : List BasicResponse} {id : CertId}
    {single : SingleResponse} (h : statusesOf responses id = [single]) :
    (∃ r ∈ responses, single ∈ r.responses) ∧ single.certId = id :=
  mem_statusesOf.mp (h ▸ List.mem_singleton_self single)

theorem lookup_of_settles {lib : OcspLib} {client : RawProofOcspClient}
    {subject issuer : Option X509} {intermediates : List X509} {trustStore : Option TrustStore}
    {id : CertId} {single : SingleResponse} {t n : Int}
    (h : pairId lib subject issuer = some id)
    (hs : Settles lib client intermediates trustStore id single t n) :
    lookup lib client subject issuer intermediates trustStore =
      .ok (signedAgeResponse client.verificationTime single t n) := by
  obtain ⟨r, hr, _, huniq, hl⟩ := lookup_single lib client intermediates trustStore h hs.unique
  obtain ⟨r', hr', hin, hsig⟩ := hs.signed
  obtain rfl := huniq r' hr' ⟨single, hin, (certId_of_statusesOf hs.unique).2⟩
  simp [hl, judgeHolding, hsig, hs.times, hs.current]

theorem settles_of_lookup {lib : OcspLib} {client : RawProofOcspClient}
    {subject issuer : Option X509} {intermediates : List X509} {trustStore : Option TrustStore}
    {response : NvOcspResponse}
    (h : lookup lib client subject issuer intermediates trustStore = .ok response) :
    ∃ id single t n, pairId lib subject issuer = some id ∧
      Settles lib client intermediates trustStore id single t n := by
  cases hid : pairId lib subject issuer with
  | none => simp [lookup_of_pairId_none lib client _ _ intermediates trustStore hid] at h
  | some id =>
    by_cases hlen : (statusesOf client.responses id).length = 1
    · obtain ⟨single, hs⟩ := List.length_eq_one_iff.mp hlen
      obtain ⟨r, hr, hm, huniq, hl⟩ := lookup_single lib client intermediates trustStore hid hs
      rw [hl, judgeHolding] at h
      by_cases hsig : lib.verifySignature (some r) intermediates trustStore = .Ok
      · cases htimes : readTimes lib single with
        | none => simp [hsig, htimes, invalidResponse] at h
        | some times =>
          obtain ⟨t, n⟩ := times
          by_cases hadm : TimesAdmit client.verificationTime t n
          · obtain ⟨⟨r', hr', hin⟩, hcid⟩ := certId_of_statusesOf hs
            obtain rfl := huniq r' hr' ⟨single, hin, hcid⟩
            exact ⟨id, single, t, n, rfl, hs, ⟨r', hr', hin, hsig⟩, htimes, hadm⟩
          · simp [hsig, htimes, hadm, invalidResponse] at h
      · simp [hsig] at h
    · simp [lookup_not_single lib client intermediates trustStore hid hlen, invalidResponse] at h

/-- A lookup that gives no status ends in an error code. -/
theorem lookup_returns (lib : OcspLib) (client : RawProofOcspClient)
    (subject issuer : Option X509) (intermediates : List X509) (trustStore : Option TrustStore) :
    (∃ response, lookup lib client subject issuer intermediates trustStore = .ok response) ∨
      ∃ e, e ≠ .Ok ∧
        lookup lib client subject issuer intermediates trustStore = .error (.code e) := by
  cases hid : pairId lib subject issuer with
  | none =>
    exact Or.inr ⟨_, by simp, lookup_of_pairId_none lib client _ _ intermediates trustStore hid⟩
  | some id =>
    by_cases hlen : (statusesOf client.responses id).length = 1
    · obtain ⟨single, hs⟩ := List.length_eq_one_iff.mp hlen
      obtain ⟨r, _, _, _, hl⟩ := lookup_single lib client intermediates trustStore hid hs
      rw [hl, judgeHolding]
      by_cases hsig : lib.verifySignature (some r) intermediates trustStore = .Ok
      · cases htimes : readTimes lib single with
        | none => exact Or.inr ⟨.OcspInvalidResponse, by simp, by simp [hsig, invalidResponse]⟩
        | some times =>
          by_cases hadm : TimesAdmit client.verificationTime times.1 times.2
          · exact Or.inl ⟨_, by simp [hsig, hadm]; rfl⟩
          · exact Or.inr ⟨.OcspInvalidResponse, by simp, by simp [hsig, hadm, invalidResponse]⟩
      · exact Or.inr ⟨_, hsig, by simp [hsig]⟩
    · exact Or.inr ⟨.OcspInvalidResponse, by simp,
        lookup_not_single lib client intermediates trustStore hid hlen⟩

theorem statusesOf_filter_mentions (responses : List BasicResponse) (id : CertId) :
    statusesOf (responses.filter (fun r => Mentions id r)) id = statusesOf responses id := by
  induction responses with
  | nil => rfl
  | cons r rest ih =>
    by_cases hm : Mentions id r
    · rw [List.filter_cons_of_pos (by simpa using hm), statusesOf_cons, statusesOf_cons, ih]
    · rw [List.filter_cons_of_neg (by simpa using hm), statusesOf_cons,
        filter_eq_nil_of_not_mentions hm, List.nil_append, ih]

/-- Only the responses that mention the certificate matter, in any order. -/
theorem lookup_congr (lib : OcspLib) (client client' : RawProofOcspClient)
    (subject issuer : Option X509) (intermediates : List X509) (trustStore : Option TrustStore)
    (htime : client'.verificationTime = client.verificationTime)
    (hperm : ∀ id, pairId lib subject issuer = some id →
      (client'.responses.filter (fun r => Mentions id r)).Perm
        (client.responses.filter (fun r => Mentions id r))) :
    lookup lib client' subject issuer intermediates trustStore =
      lookup lib client subject issuer intermediates trustStore := by
  cases hid : pairId lib subject issuer with
  | none =>
    rw [lookup_of_pairId_none lib client' _ _ intermediates trustStore hid,
      lookup_of_pairId_none lib client _ _ intermediates trustStore hid]
  | some id =>
    have hp := hperm id hid
    have hstat : (statusesOf client'.responses id).Perm (statusesOf client.responses id) := by
      rw [← statusesOf_filter_mentions client'.responses,
        ← statusesOf_filter_mentions client.responses]
      exact (hp.flatMap_right _).filter _
    by_cases hlen : (statusesOf client.responses id).length = 1
    · obtain ⟨single, hs⟩ := List.length_eq_one_iff.mp hlen
      rw [hs] at hstat
      have hs' := List.perm_singleton.mp hstat
      obtain ⟨r, _, _, huniq, hl⟩ := lookup_single lib client intermediates trustStore hid hs
      obtain ⟨r', hr', hm', _, hl'⟩ := lookup_single lib client' intermediates trustStore hid hs'
      have hmem : r' ∈ client.responses.filter (fun r => Mentions id r) :=
        hp.subset (List.mem_filter.mpr ⟨hr', by simpa using hm'⟩)
      obtain rfl := huniq r' (List.mem_filter.mp hmem).1 hm'
      rw [hl, hl', htime]
    · rw [lookup_not_single lib client intermediates trustStore hid hlen,
        lookup_not_single lib client' intermediates trustStore hid (hstat.length_eq ▸ hlen)]

theorem getOcspResponse_congr {lib : OcspLib} {client client' : RawProofOcspClient}
    {subject issuer : Option X509} {intermediates : List X509} {trustStore : Option TrustStore}
    (out : NvOcspResponse)
    (h : lookup lib client' subject issuer intermediates trustStore =
      lookup lib client subject issuer intermediates trustStore) :
    getOcspResponse lib client' subject issuer intermediates trustStore out =
      getOcspResponse lib client subject issuer intermediates trustStore out := by
  rw [getOcspResponse, getOcspResponse, h]

theorem getOcspResponse_ok_iff {lib : OcspLib} {client : RawProofOcspClient}
    {subject issuer : Option X509} {intermediates : List X509} {trustStore : Option TrustStore}
    {out out' : NvOcspResponse} :
    getOcspResponse lib client subject issuer intermediates trustStore out = .ok (.Ok, out') ↔
      lookup lib client subject issuer intermediates trustStore = .ok out' := by
  cases lookup_returns lib client subject issuer intermediates trustStore with
  | inl h =>
    obtain ⟨response, h⟩ := h
    simp [getOcspResponse, h]
  | inr h =>
    obtain ⟨e, he, h⟩ := h
    simp [getOcspResponse, h, he]

/-- The offline judgement is exact: a status is reported just when the signed
proofs settle it, every call returns (so no time arithmetic left 64 bits), an
error leaves the out-parameter alone, and neither the order of the responses nor
the ones about other certificates matter. -/
theorem getOcspResponse_judges_exactly (lib : OcspLib) (client : RawProofOcspClient)
    (subject issuer : Option X509) (intermediates : List X509) (trustStore : Option TrustStore)
    (out : NvOcspResponse) :
    ((∃ out', getOcspResponse lib client subject issuer intermediates trustStore out =
        .ok (.Ok, out')) ↔
      ∃ id single t n, pairId lib subject issuer = some id ∧
        Settles lib client intermediates trustStore id single t n) ∧
    (∀ id single t n, pairId lib subject issuer = some id →
      Settles lib client intermediates trustStore id single t n →
      getOcspResponse lib client subject issuer intermediates trustStore out =
          .ok (.Ok, signedAgeResponse client.verificationTime single t n) ∧
        client.verificationTime <
          (signedAgeResponse client.verificationTime single t n).statusDeadline) ∧
    (∃ rc out', getOcspResponse lib client subject issuer intermediates trustStore out =
        .ok (rc, out') ∧ (rc ≠ .Ok → out' = out)) ∧
    (∀ tm, InTimeT (timegm tm) ∧ InTimeT (timegm tm - futureToleranceSeconds) ∧
      InTimeT (timegm tm + maxSignedAgeSeconds)) ∧
    (∀ client' : RawProofOcspClient, client'.verificationTime = client.verificationTime →
      client'.responses.Perm client.responses →
      getOcspResponse lib client' subject issuer intermediates trustStore out =
        getOcspResponse lib client subject issuer intermediates trustStore out) ∧
    (∀ (client' : RawProofOcspClient) before after other,
      client'.verificationTime = client.verificationTime →
      client.responses = before ++ after → client'.responses = before ++ other :: after →
      (∀ id, pairId lib subject issuer = some id → ¬ Mentions id other) →
      getOcspResponse lib client' subject issuer intermediates trustStore out =
        getOcspResponse lib client subject issuer intermediates trustStore out) := by
  refine ⟨?_, ?_, ?_, ?_, ?_, ?_⟩
  · constructor
    · intro h
      obtain ⟨out', h⟩ := h
      exact settles_of_lookup (getOcspResponse_ok_iff.mp h)
    · intro h
      obtain ⟨id, single, t, n, hid, hs⟩ := h
      exact ⟨_, getOcspResponse_ok_iff.mpr (lookup_of_settles hid hs)⟩
  · intro id single t n hid hs
    exact ⟨getOcspResponse_ok_iff.mpr (lookup_of_settles hid hs), hs.current.2.2⟩
  · cases lookup_returns lib client subject issuer intermediates trustStore with
    | inl h =>
      obtain ⟨response, h⟩ := h
      exact ⟨.Ok, response, getOcspResponse_ok_iff.mpr h, by simp⟩
    | inr h =>
      obtain ⟨e, he, h⟩ := h
      exact ⟨e, out, by simp [getOcspResponse, h], by simp⟩
  · intro tm
    have h0 := inTimeT_timegm_add tm 0 (by omega) (by omega)
    exact ⟨by simpa using h0, inTimeT_timegm_add tm (-60) (by omega) (by omega),
      inTimeT_timegm_add tm 86400 (by omega) (by omega)⟩
  · intro client' htime hperm
    exact getOcspResponse_congr out (lookup_congr lib client client' subject issuer intermediates
      trustStore htime fun _ _ => hperm.filter _)
  · intro client' before after other htime hresp hresp' hother
    refine getOcspResponse_congr out (lookup_congr lib client client' subject issuer intermediates
      trustStore htime fun id hid => ?_)
    rw [hresp, hresp', List.filter_append, List.filter_append,
      List.filter_cons_of_neg (by simpa using hother id hid)]

/- A proof from a minute after the epoch until an hour after it, judged at 100
seconds; the library reads the two times and accepts the signature. -/
def minuteTm : Tm :=
  ⟨1970, 0, 1, 0, 1, 0, by omega, by omega, by omega, by omega, by omega, by omega, by omega⟩

def hourTm : Tm :=
  ⟨1970, 0, 1, 1, 0, 0, by omega, by omega, by omega, by omega, by omega, by omega, by omega⟩

def sampleLib : OcspLib where
  certToId subject issuer := some ⟨[], issuer.der, issuer.der, subject.der.length⟩
  i2dCertId id := id.issuerKeyHash
  basicVerify _ _ _ := 1
  asn1TimeToTm value := if value = [1] then some minuteTm else some hourTm
  d2iResponse _ := none
  rebuild _ := none
  crlReasonStr _ := ""

def sampleSingle : SingleResponse := ⟨⟨[], [2], [2], 1⟩, .good, [1], some [2]⟩

def sampleClient : RawProofOcspClient :=
  ⟨[⟨[], none, []⟩, ⟨[], none, [sampleSingle]⟩], 100, by omega, by decide⟩

theorem getOcspResponse_sample :
    getOcspResponse sampleLib sampleClient (some ⟨[1]⟩) (some ⟨[2]⟩) [] (some ⟨[]⟩)
        (signedAgeResponse 0 sampleSingle 0 0) =
      .ok (.Ok, signedAgeResponse 100 sampleSingle 60 3600) := by
  have hs : Settles sampleLib sampleClient [] (some ⟨[]⟩) ⟨[], [2], [2], 1⟩ sampleSingle 60 3600 :=
    ⟨by decide, ⟨⟨[], none, [sampleSingle]⟩, by decide, by decide, by decide⟩, by decide, by decide⟩
  exact ((getOcspResponse_judges_exactly sampleLib sampleClient (some ⟨[1]⟩) (some ⟨[2]⟩) []
    (some ⟨[]⟩) _).2.1 _ _ _ _ (by decide) hs).1

end AttestationSdk.RawProofOcsp
