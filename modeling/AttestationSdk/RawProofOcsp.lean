import AttestationSdk.Ocsp
import AttestationSdk.StatusProofBundle

/-! `RawProofOcspClient`: certificate status judged offline, from raw signed
proofs and a verification time the owner supplies. -/
namespace AttestationSdk.RawProofOcsp
open AttestationSdk.Ocsp AttestationSdk.StatusProofBundle CalendarTime ExceptRules

def maxSignedAgeSeconds : Int := 86400
def futureToleranceSeconds : Int := 60
def maxVerificationTime : Int := 253402300799

/-- A client that `create` can hand out. -/
structure RawProofOcspClient where
  responses : List BasicResponse
  verificationTime : Int
  time_pos : 0 < verificationTime
  time_le : verificationTime ≤ maxVerificationTime

def invalidResponse {α : Type} : Except Fault α := .error (.code .OcspInvalidResponse)

def parseProof (lib : OcspLib) (response : Bytes) : Except Fault BasicResponse :=
  if response = [] ∨ maxResponseBytes < response.length then invalidResponse else
    match lib.parseBasicResponse response with
    | .ok basic => .ok basic
    | .error (.code _) => invalidResponse
    | .error f => .error f

def create (lib : OcspLib) (responses : List Bytes) (verificationTime : Int) :
    Except Fault RawProofOcspClient :=
  if responses = [] ∨ maxResponses < responses.length then invalidResponse
  else if h : verificationTime ≤ 0 ∨ maxVerificationTime < verificationTime then
    .error (.code .BadArgument)
  else do
    let parsed ← responses.mapM (parseProof lib)
    return ⟨parsed, verificationTime, by omega, by omega⟩

def createFromBundle (lib : OcspLib) (bundle : Bytes) (verificationTime : Int) :
    Except Fault RawProofOcspClient := do
  let decoded ← decodeBundle bundle []
  if decoded.rc ≠ .Ok then .error (.code decoded.rc)
  else create lib decoded.outResponses verificationTime

/-- One turn of the coverage loop: the running count and the first response
that mentions the identifier. -/
def cover (id : CertId) (acc : Nat × Option BasicResponse) (response : BasicResponse) :
    Nat × Option BasicResponse :=
  let found := OcspLib.countSingleResponses response id
  (acc.1 + found, if 0 < found ∧ acc.2 = none then some response else acc.2)

def judge (verificationTime : Int) (single : OcspLib.SingleStatus) :
    Except Fault NvOcspResponse :=
  match single.nextUpdate with
  | none => invalidResponse
  | some nextUpdate =>
    if nextUpdate ≤ single.thisUpdate then invalidResponse else do
      let earliest ← timeT (single.thisUpdate - futureToleranceSeconds)
      if verificationTime < earliest then invalidResponse else do
        let aged ← timeT (single.thisUpdate + maxSignedAgeSeconds)
        let deadline := min nextUpdate aged
        if deadline ≤ verificationTime then invalidResponse else
          return {
            thisupd := single.thisUpdate
            nextupd := nextUpdate
            status := single.status
            reason := single.reason
            nonceMatches := false
            responseValid := true
            signedAge := true
            verificationTime := verificationTime
            statusDeadline := deadline }

def judgeCovering (lib : OcspLib) (client : RawProofOcspClient) (id : CertId)
    (intermediates : List X509) (trustStore : Option TrustStore) :
    Nat × Option BasicResponse → Except Fault NvOcspResponse
  | (coverage, covering) =>
    if coverage ≠ 1 then invalidResponse else
      let rc := lib.verifySignature covering intermediates trustStore
      if rc ≠ .Ok then .error (.code rc) else
        match covering with
        | none => invalidResponse
        | some basic => do
          let single ← lib.getSingleStatus basic id
          judge client.verificationTime single

/-- The response `get_ocsp_response` fills in, before it touches the out-parameter. -/
def lookup (lib : OcspLib) (client : RawProofOcspClient) (subject issuer : Option X509)
    (intermediates : List X509) (trustStore : Option TrustStore) : Except Fault NvOcspResponse :=
  match subject, issuer with
  | some subject, some issuer =>
    match lib.certToId subject issuer with
    | none => .error (.code .InternalError)
    | some id =>
      judgeCovering lib client id intermediates trustStore
        (client.responses.foldl (cover id) (0, none))
  | _, _ => .error (.code .InternalError)

def getOcspResponse (lib : OcspLib) (client : RawProofOcspClient) (subject issuer : Option X509)
    (intermediates : List X509) (trustStore : Option TrustStore) (out : NvOcspResponse) :
    Except Fault (Error × NvOcspResponse) :=
  match lookup lib client subject issuer intermediates trustStore with
  | .ok response => .ok (.Ok, response)
  | .error (.code e) => .ok (e, out)
  | .error f => .error f

/-- The statuses of one certificate over all responses together. -/
def statusesOf (responses : List BasicResponse) (id : CertId) : List SingleResponse :=
  (responses.flatMap (·.responses)).filter (·.certId = id)

def Mentions (id : CertId) (response : BasicResponse) : Prop :=
  ∃ single ∈ response.responses, single.certId = id

instance (id : CertId) (response : BasicResponse) : Decidable (Mentions id response) :=
  inferInstanceAs (Decidable (∃ _ ∈ _, _))

theorem statusesOf_cons (response : BasicResponse) (rest : List BasicResponse) (id : CertId) :
    statusesOf (response :: rest) id =
      response.responses.filter (·.certId = id) ++ statusesOf rest id := by
  simp [statusesOf]

theorem count_eq_filter_length (response : BasicResponse) (id : CertId) :
    OcspLib.countSingleResponses response id =
      (response.responses.filter (·.certId = id)).length := by
  rw [countSingleResponses_eq, List.countP_eq_length_filter]

theorem filter_eq_nil_of_not_mentions {id : CertId} {response : BasicResponse}
    (h : ¬ Mentions id response) : response.responses.filter (·.certId = id) = [] := by
  simpa [Mentions] using h

theorem count_pos_iff_mentions (response : BasicResponse) (id : CertId) :
    0 < OcspLib.countSingleResponses response id ↔ Mentions id response := by
  rw [countSingleResponses_eq, List.countP_pos_iff]
  simp [Mentions]

/-- The coverage loop counts the statuses and remembers the first response
that holds one. -/
theorem cover_fold (id : CertId) (responses : List BasicResponse) :
    ∀ (n : Nat) (first : Option BasicResponse),
      responses.foldl (cover id) (n, first) =
        (n + (statusesOf responses id).length,
          first.or (responses.find? (fun r => Mentions id r))) := by
  induction responses with
  | nil => simp [statusesOf]
  | cons response rest ih =>
    intro n first
    rw [List.foldl_cons, cover, ih, statusesOf_cons, List.length_append,
      count_eq_filter_length]
    have hpos := count_pos_iff_mentions response id
    rw [count_eq_filter_length] at hpos
    rw [Prod.mk.injEq]
    refine ⟨by omega, ?_⟩
    cases first with
    | some r => simp
    | none =>
      by_cases hm : Mentions id response
      · simp [hpos, hm]
      · simp [hpos, hm]

/-- Where one status is all there is, one response holds it and the loop finds
that response. -/
theorem covering_of_single {id : CertId} {single : SingleResponse}
    (responses : List BasicResponse) (h : statusesOf responses id = [single]) :
    ∃ r ∈ responses, responses.find? (fun r => Mentions id r) = some r ∧
      r.responses.filter (·.certId = id) = [single] ∧
      ∀ r' ∈ responses, Mentions id r' → r' = r := by
  induction responses with
  | nil => simp [statusesOf] at h
  | cons response rest ih =>
    rw [statusesOf_cons] at h
    by_cases hm : Mentions id response
    · obtain ⟨s, hs, hid⟩ := hm
      have hmem : s ∈ response.responses.filter (·.certId = id) := by simp [hs, hid]
      cases hf : response.responses.filter (·.certId = id) with
      | nil => simp [hf] at hmem
      | cons x xs =>
        rw [hf] at h
        obtain ⟨rfl, hnil⟩ := List.cons_eq_cons.mp h
        obtain ⟨rfl, hrest⟩ := List.append_eq_nil_iff.mp hnil
        have hnone : ∀ r' ∈ rest, ¬ Mentions id r' := by
          rintro r' hr' ⟨s', hs', hid'⟩
          have hin : s' ∈ statusesOf rest id := by
            simp only [statusesOf, List.mem_filter, List.mem_flatMap]
            exact ⟨⟨r', hr', hs'⟩, by simpa using hid'⟩
          simp [hrest] at hin
        refine ⟨response, by simp, ?_, hf, ?_⟩
        · rw [List.find?_cons_of_pos]
          simpa using ⟨s, hs, hid⟩
        · intro r' hr' hm'
          cases List.mem_cons.mp hr' with
          | inl heq => exact heq
          | inr hin => exact absurd hm' (hnone r' hin)
    · rw [filter_eq_nil_of_not_mentions hm, List.nil_append] at h
      obtain ⟨r, hr, hfind, hfilter, huniq⟩ := ih h
      refine ⟨r, by simp [hr], ?_, hfilter, ?_⟩
      · rw [List.find?_cons_of_neg (by simpa using hm)]
        exact hfind
      · intro r' hr' hm'
        cases List.mem_cons.mp hr' with
        | inl heq => exact absurd (heq ▸ hm') hm
        | inr hin => exact huniq r' hin hm'

/-- Reading the two times of a status. -/
def readTimes (lib : OcspLib) (single : SingleResponse) : Option (Int × Int) := do
  let thisUpdate ← lib.asn1TimeToTm single.thisUpdate
  let next ← single.nextUpdate
  let nextUpdate ← lib.asn1TimeToTm next
  return (timegm thisUpdate, timegm nextUpdate)

/-- The answer given for a status read at these times. -/
def signedAgeResponse (verificationTime : Int) (single : SingleResponse) (t n : Int) :
    NvOcspResponse where
  thisupd := t
  nextupd := n
  reason := single.certStatus.codes.2
  status := single.certStatus.codes.1
  nonceMatches := false
  responseValid := true
  signedAge := true
  verificationTime := verificationTime
  statusDeadline := min n (t + maxSignedAgeSeconds)

/-- The signed times admit the verification time. -/
def TimesAdmit (verificationTime t n : Int) : Prop :=
  t < n ∧ t ≤ verificationTime + futureToleranceSeconds ∧
    verificationTime < min n (t + maxSignedAgeSeconds)

instance (v t n : Int) : Decidable (TimesAdmit v t n) := inferInstanceAs (Decidable (_ ∧ _ ∧ _))

theorem getSingleStatus_of_single (lib : OcspLib) {r : BasicResponse} {id : CertId}
    {single : SingleResponse} (h : r.responses.filter (·.certId = id) = [single]) :
    lib.getSingleStatus r id = (do
      let t ← lib.asn1TimeToUnix single.thisUpdate
      match single.nextUpdate with
      | none => .ok ⟨single.certStatus.codes.1, single.certStatus.codes.2, t, none⟩
      | some next => do
        let n ← lib.asn1TimeToUnix next
        .ok ⟨single.certStatus.codes.1, single.certStatus.codes.2, t, some n⟩) := by
  have hcount : OcspLib.countSingleResponses r id = 1 := by
    rw [count_eq_filter_length, h]
    rfl
  have hfind : (r.responses.findIdx? (fun s => s.certId = id)).bind (r.responses[·]?) =
      some single := by
    rw [← List.find?_eq_bind_findIdx?_getElem?, ← List.head?_filter, h]
    rfl
  rw [OcspLib.getSingleStatus, if_neg (by simp [hcount])]
  simp only [hfind]
  rfl

/-- The sums and differences of times stay inside 64 bits, so only the signed
times decide. -/
theorem judge_eq (v : Int) (single : SingleResponse) (this next : Tm) :
    judge v ⟨single.certStatus.codes.1, single.certStatus.codes.2, timegm this,
        some (timegm next)⟩ =
      if TimesAdmit v (timegm this) (timegm next) then
        .ok (signedAgeResponse v single (timegm this) (timegm next))
      else invalidResponse := by
  have hsub : timeT (timegm this - futureToleranceSeconds) =
      .ok (timegm this - futureToleranceSeconds) :=
    timeT_of_inTimeT (inTimeT_timegm_add this (-60) (by omega) (by omega))
  have hadd : timeT (timegm this + maxSignedAgeSeconds) =
      .ok (timegm this + maxSignedAgeSeconds) :=
    timeT_of_inTimeT (inTimeT_timegm_add this 86400 (by omega) (by omega))
  simp only [judge, hsub, hadd, ok_bind]
  by_cases h : TimesAdmit v (timegm this) (timegm next)
  · obtain ⟨hord, hfut, hexp⟩ := id h
    have hfut' : ¬ v < timegm this - futureToleranceSeconds := by omega
    rw [if_pos h, if_neg (not_le.mpr hord), if_neg hfut', if_neg (not_le.mpr hexp)]
    rfl
  · rw [if_neg h]
    by_cases hord : timegm next ≤ timegm this
    · exact if_pos hord
    · rw [if_neg hord]
      by_cases hfut : v < timegm this - futureToleranceSeconds
      · exact if_pos hfut
      · have hexp : min (timegm next) (timegm this + maxSignedAgeSeconds) ≤ v := by
          by_contra hc
          exact h ⟨by omega, by omega, by omega⟩
        rw [if_neg hfut, if_pos hexp]

theorem judge_single (lib : OcspLib) (v : Int) {r : BasicResponse} {id : CertId}
    {single : SingleResponse} (h : r.responses.filter (·.certId = id) = [single]) :
    (do let s ← lib.getSingleStatus r id; judge v s) =
      match readTimes lib single with
      | some (t, n) =>
        if TimesAdmit v t n then .ok (signedAgeResponse v single t n) else invalidResponse
      | none => invalidResponse := by
  rw [getSingleStatus_of_single lib h]
  cases hthis : lib.asn1TimeToTm single.thisUpdate with
  | none => simp [OcspLib.asn1TimeToUnix, readTimes, hthis, invalidResponse]
  | some this =>
    cases hnext : single.nextUpdate with
    | none => simp [OcspLib.asn1TimeToUnix, readTimes, hthis, hnext, invalidResponse, judge]
    | some next =>
      cases hn : lib.asn1TimeToTm next with
      | none => simp [OcspLib.asn1TimeToUnix, readTimes, hthis, hnext, hn, invalidResponse]
      | some nextTm => simp [OcspLib.asn1TimeToUnix, readTimes, hthis, hnext, hn, judge_eq]

def pairId (lib : OcspLib) (subject issuer : Option X509) : Option CertId := do
  let subject ← subject
  let issuer ← issuer
  lib.certToId subject issuer

theorem lookup_of_pairId_none (lib : OcspLib) (client : RawProofOcspClient)
    (subject issuer : Option X509) (intermediates : List X509) (trustStore : Option TrustStore)
    (h : pairId lib subject issuer = none) :
    lookup lib client subject issuer intermediates trustStore = .error (.code .InternalError) := by
  cases subject with
  | none => rfl
  | some s =>
    cases issuer with
    | none => rfl
    | some i =>
      have hid : lib.certToId s i = none := by simpa [pairId] using h
      simp [lookup, hid]

theorem lookup_of_pairId (lib : OcspLib) (client : RawProofOcspClient)
    {subject issuer : Option X509} (intermediates : List X509) (trustStore : Option TrustStore)
    {id : CertId} (h : pairId lib subject issuer = some id) :
    lookup lib client subject issuer intermediates trustStore =
      judgeCovering lib client id intermediates trustStore
        ((statusesOf client.responses id).length,
          client.responses.find? (fun r => Mentions id r)) := by
  cases subject with
  | none => simp [pairId] at h
  | some s =>
    cases issuer with
    | none => simp [pairId] at h
    | some i =>
      have hid : lib.certToId s i = some id := by simpa [pairId] using h
      simp [lookup, hid, cover_fold]

/-- What the lookup does with the one response that holds the one status. -/
def judgeHolding (lib : OcspLib) (v : Int) (intermediates : List X509)
    (trustStore : Option TrustStore) (r : BasicResponse) (single : SingleResponse) :
    Except Fault NvOcspResponse :=
  let rc := lib.verifySignature (some r) intermediates trustStore
  if rc ≠ .Ok then .error (.code rc) else
    match readTimes lib single with
    | some (t, n) =>
      if TimesAdmit v t n then .ok (signedAgeResponse v single t n) else invalidResponse
    | none => invalidResponse

theorem lookup_single (lib : OcspLib) (client : RawProofOcspClient)
    {subject issuer : Option X509} (intermediates : List X509) (trustStore : Option TrustStore)
    {id : CertId} {single : SingleResponse} (h : pairId lib subject issuer = some id)
    (hs : statusesOf client.responses id = [single]) :
    ∃ r ∈ client.responses, Mentions id r ∧ (∀ r' ∈ client.responses, Mentions id r' → r' = r) ∧
      lookup lib client subject issuer intermediates trustStore =
        judgeHolding lib client.verificationTime intermediates trustStore r single := by
  obtain ⟨r, hr, hfind, hfilter, huniq⟩ := covering_of_single client.responses hs
  have hm : Mentions id r := by simpa using List.find?_some hfind
  refine ⟨r, hr, hm, huniq, ?_⟩
  rw [lookup_of_pairId lib client intermediates trustStore h, hs, hfind, judgeHolding,
    ← judge_single lib client.verificationTime hfilter]
  rfl

theorem lookup_not_single (lib : OcspLib) (client : RawProofOcspClient)
    {subject issuer : Option X509} (intermediates : List X509) (trustStore : Option TrustStore)
    {id : CertId} (h : pairId lib subject issuer = some id)
    (hs : (statusesOf client.responses id).length ≠ 1) :
    lookup lib client subject issuer intermediates trustStore = invalidResponse := by
  rw [lookup_of_pairId lib client intermediates trustStore h]
  exact if_pos hs

end AttestationSdk.RawProofOcsp
