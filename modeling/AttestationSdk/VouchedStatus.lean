import AttestationSdk.HttpOcsp
import AttestationSdk.RawProofJudgement
import AttestationSdk.ChainCoverage

/-! What a good status of a certificate rests on, for the online and the offline client. -/
namespace AttestationSdk.VouchedStatus
open AttestationSdk.Ocsp AttestationSdk.ChainStatus AttestationSdk.HttpOcsp
open AttestationSdk.RawProofOcsp Effects Prog ExceptRules

/-- The SDK's own clients. -/
inductive StatusClient (σ : Type) where
  | online (client : NvHttpOcspClient σ)
  | offline (client : RawProofOcspClient)

variable {σ : Type}

def StatusClient.toOcspClient (lib : OcspLib) : StatusClient σ → OcspClient σ
  | .online client => client.toOcspClient lib
  | .offline client => ⟨fun q out => Prog.lift (RawProofOcsp.getOcspResponse lib client
      (some q.subject) (some q.issuer) q.intermediates (some q.trustStore) out)⟩

/-- A signed response says that the certificate is good, and it is fresh: it repeats
the nonce of the request, or its times admit the verification time. -/
def Vouched (lib : OcspLib) (q : OcspQuery) : StatusClient σ → Prop
  | .online client => ∃ nonce id basic single s s',
    client.requests.add1Nonce s = (.ok (some nonce), s') ∧
    lib.certToId q.subject q.issuer = some id ∧
    lib.basicVerify basic q.intermediates q.trustStore = 1 ∧
    basic.responses.filter (·.certId = id) = [single] ∧ single.certStatus = .good ∧
    basic.nonce = some nonce
  | .offline client => ∃ id single t n, lib.certToId q.subject q.issuer = some id ∧
    Settles lib client q.intermediates (some q.trustStore) id single t n ∧
    single.certStatus = .good

theorem verifySignature_ok {lib : OcspLib} {basic : BasicResponse} {intermediates : List X509}
    {store : TrustStore} (h : lib.verifySignature (some basic) intermediates (some store) = .Ok) :
    lib.basicVerify basic intermediates store = 1 := by
  simp only [OcspLib.verifySignature] at h
  split at h
  · assumption
  · split at h <;> cases h

theorem good_of_mapStatus {status : CertStatus} (h : mapStatus status.codes.1 = .GOOD) :
    status = .good := by
  cases status with
  | good => rfl
  | unknown => simp [CertStatus.codes, mapStatus, certStatusUnknown, certStatusRevoked,
      certStatusGood] at h
  | revoked reason =>
    cases reason <;> simp [CertStatus.codes, mapStatus, certStatusRevoked] at h

theorem asn1TimeToUnix_code {lib : OcspLib} {value : Bytes} {e : Error}
    (h : lib.asn1TimeToUnix value = .error (.code e)) : e ≠ .Ok := by
  rw [OcspLib.asn1TimeToUnix] at h
  split at h <;> cases h
  decide

/-- A single status is that of the one response about the certificate. -/
theorem getSingleStatus_ok {lib : OcspLib} {basic : BasicResponse} {id : CertId}
    {status : OcspLib.SingleStatus} (h : lib.getSingleStatus basic id = .ok status) :
    ∃ single, basic.responses.filter (·.certId = id) = [single] ∧
      status.status = single.certStatus.codes.1 := by
  by_cases hcount : OcspLib.countSingleResponses basic id = 1
  · rw [count_eq_filter_length] at hcount
    obtain ⟨single, hsingle⟩ := List.length_eq_one_iff.mp hcount
    refine ⟨single, hsingle, ?_⟩
    rw [getSingleStatus_of_single lib hsingle] at h
    obtain ⟨t, _, h⟩ := ExceptRules.bind_eq_ok.mp h
    cases hnext : single.nextUpdate with
    | none =>
      rw [hnext] at h
      cases h
      rfl
    | some next =>
      rw [hnext] at h
      obtain ⟨n, _, h⟩ := ExceptRules.bind_eq_ok.mp h
      cases h
      rfl
  · rw [OcspLib.getSingleStatus, if_pos hcount] at h
    cases h

theorem getSingleStatus_code {lib : OcspLib} {basic : BasicResponse} {id : CertId} {e : Error}
    (h : lib.getSingleStatus basic id = .error (.code e)) : e ≠ .Ok := by
  by_cases hcount : OcspLib.countSingleResponses basic id = 1
  · rw [count_eq_filter_length] at hcount
    obtain ⟨single, hsingle⟩ := List.length_eq_one_iff.mp hcount
    rw [getSingleStatus_of_single lib hsingle] at h
    cases ht : lib.asn1TimeToUnix single.thisUpdate with
    | error f =>
      rw [ht, error_bind] at h
      cases h
      exact asn1TimeToUnix_code ht
    | ok t =>
      rw [ht, ok_bind] at h
      cases hnext : single.nextUpdate with
      | none =>
        rw [hnext] at h
        cases h
      | some next =>
        simp only [hnext] at h
        cases hn : lib.asn1TimeToUnix next with
        | error f =>
          rw [hn, error_bind] at h
          cases h
          exact asn1TimeToUnix_code hn
        | ok n =>
          rw [hn, ok_bind] at h
          cases h
  · rw [OcspLib.getSingleStatus, if_pos hcount] at h
    cases h
    decide

theorem parseBasicResponse_code {lib : OcspLib} {der : Bytes} {e : Error}
    (h : lib.parseBasicResponse der = .error (.code e)) : e ≠ .Ok := by
  simp only [OcspLib.parseBasicResponse] at h
  repeat' split at h
  all_goals cases h
  all_goals decide

/-- A call that returned `Ok` after a helper went on from the helper's value. -/
theorem returning_ok {α : Type} {out r : NvOcspResponse} {x : Except Fault α}
    {next : α → Except Fault (Error × NvOcspResponse)}
    (hcode : ∀ e, x = .error (.code e) → e ≠ .Ok) (h : returning out x next = .ok (.Ok, r)) :
    ∃ a, x = .ok a ∧ next a = .ok (.Ok, r) := by
  cases x with
  | ok a => exact ⟨a, rfl, h⟩
  | error f =>
    cases f with
    | code e =>
      cases h
      exact absurd rfl (hcode .Ok rfl)
    | exception => cases h
    | undefined => cases h
    | outOfFuel => cases h

theorem readResponse_ok {lib : OcspLib} {id : CertId} {nonce body : Bytes} {q : OcspQuery}
    {out r : NvOcspResponse} (h : readResponse lib id nonce q body out = .ok (.Ok, r)) :
    ∃ basic single, lib.basicVerify basic q.intermediates q.trustStore = 1 ∧
      basic.responses.filter (·.certId = id) = [single] ∧ r.status = single.certStatus.codes.1 ∧
      r.signedAge = false ∧ r.nonceMatches = decide (basic.nonce = some nonce) := by
  rw [readResponse] at h
  split at h
  · cases h
  · obtain ⟨basic, _, h⟩ := returning_ok (fun _ => parseBasicResponse_code) h
    dsimp only at h
    split at h
    · next hrc =>
      have hcode := congrArg Prod.fst (Except.ok.inj h)
      exact absurd hcode hrc
    · next hrc =>
      obtain ⟨status, hstatus, h⟩ := returning_ok (fun _ => getSingleStatus_code) h
      obtain ⟨single, hsingle, hcodes⟩ := getSingleStatus_ok hstatus
      rw [fill] at h
      obtain ⟨nextupd, _, h⟩ := ExceptRules.bind_eq_ok.mp h
      cases h
      exact ⟨basic, single, verifySignature_ok (not_not.mp hrc), hsingle, hcodes, rfl, rfl⟩

namespace NvHttpOcspClient

theorem ask_ok {lib : OcspLib} {client : NvHttpOcspClient σ} {q : OcspQuery}
    {out r : NvOcspResponse} {id : CertId} {nonce : Bytes} {payload : String} {s s' : σ}
    (h : client.ask lib q out id nonce payload s = (.ok (.Ok, r), s')) :
    ∃ body, readResponse lib id nonce q body out = .ok (.Ok, r) := by
  obtain ⟨⟨rc, status, body⟩, s₁, _, h⟩ := bind_eq_ok.mp h
  by_cases hrc : rc = .Ok
  · by_cases hforbidden : status = Http.httpStatusForbidden ∨ status = Http.httpStatusUnauthorized
    · simp only [hrc, ne_eq, not_true_eq_false, if_false, hforbidden, if_true] at h
      cases h
    · by_cases hstatus : status = Http.httpStatusOk
      · subst hstatus
        dsimp only at h
        rw [hrc, if_neg (by simp), if_neg hforbidden, if_neg (by simp)] at h
        exact ⟨_, lift_ok h⟩
      · simp only [hrc, ne_eq, not_true_eq_false, if_false, hforbidden, hstatus,
          not_false_eq_true, if_true] at h
        cases h
  · simp only [hrc, ne_eq, not_false_eq_true, if_true] at h
    cases h
    exact absurd rfl hrc

theorem getOcspResponse_ok {lib : OcspLib} {client : NvHttpOcspClient σ} {q : OcspQuery}
    {out r : NvOcspResponse} {s s' : σ}
    (h : client.getOcspResponse lib q out s = (.ok (.Ok, r), s')) :
    ∃ nonce id body s₁, client.requests.add1Nonce s = (.ok (some nonce), s₁) ∧
      lib.certToId q.subject q.issuer = some id ∧
      readResponse lib id nonce q body out = .ok (.Ok, r) := by
  obtain ⟨added, s₁, hadded, h⟩ := bind_eq_ok.mp h
  cases added with
  | none => cases h
  | some nonce =>
    cases hid : lib.certToId q.subject q.issuer with
    | none =>
      simp only [hid] at h
      cases h
    | some id =>
      cases hpayload : client.requests.i2dRequest id nonce with
      | none =>
        simp only [hid, hpayload] at h
        cases h
      | some payload =>
        simp only [hid, hpayload] at h
        obtain ⟨body, hbody⟩ := ask_ok h
        exact ⟨nonce, id, body, s₁, hadded, rfl, hbody⟩

end NvHttpOcspClient

/-- A good answer of either client, where an online one matched its nonce, is vouched for. -/
theorem vouched_of_answer {lib : OcspLib} {client : StatusClient σ} {q : OcspQuery}
    {out r : NvOcspResponse} {s s' : σ}
    (h : (client.toOcspClient lib).getOcspResponse q out s = (.ok (.Ok, r), s'))
    (hgood : mapStatus r.status = .GOOD)
    (hnonce : r.signedAge = false → r.nonceMatches = true) : Vouched lib q client := by
  cases client with
  | online client =>
    obtain ⟨nonce, id, body, s₁, hadded, hid, hread⟩ := NvHttpOcspClient.getOcspResponse_ok h
    obtain ⟨basic, single, hsigned, hsingle, hcodes, hmode, hmatches⟩ := readResponse_ok hread
    have hgood' : single.certStatus = .good := good_of_mapStatus (hcodes ▸ hgood)
    have hsame : basic.nonce = some nonce := of_decide_eq_true (hmatches ▸ hnonce hmode)
    exact ⟨nonce, id, basic, single, s, s₁, hadded, hid, hsigned, hsingle, hgood', hsame⟩
  | offline client =>
    have hlookup := getOcspResponse_ok_iff.mp (lift_ok h)
    obtain ⟨id, single, t, n, hid, hsettles⟩ := settles_of_lookup hlookup
    have hresponse : r = signedAgeResponse client.verificationTime single t n :=
      Except.ok.inj (hlookup.symm.trans (lookup_of_settles hid hsettles))
    subst hresponse
    exact ⟨id, single, t, n, hid, hsettles, good_of_mapStatus hgood⟩

end AttestationSdk.VouchedStatus
