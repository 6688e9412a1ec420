import AttestationSdk.Http
import AttestationSdk.ChainStatus
import AttestationSdk.TextCodec

/-! `NvHttpOcspClient`: certificate status asked of a responder, with a nonce. -/
namespace AttestationSdk.HttpOcsp
open AttestationSdk.Ocsp AttestationSdk.ChainStatus AttestationSdk.Http AttestationSdk.Text
open CalendarTime Effects

def defaultNextUpdateTtlSeconds : Int := 3600

/-- The OpenSSL calls that build a request. -/
structure OcspRequestLib (σ : Type) where
  /-- `OCSP_request_add1_nonce` with a nonce of its own choice. -/
  add1Nonce : Prog Fault σ (Option Bytes)
  /-- The encoded request with its nonce. -/
  i2dRequest : CertId → Bytes → Option String

structure NvHttpOcspClient (σ : Type) where
  requests : OcspRequestLib σ
  httpClient : HttpClient σ
  ocspUrl : String
  userAgent : String

/-- The end of a call after a helper: its code becomes the call's. -/
def returning {α : Type} (out : NvOcspResponse) (x : Except Fault α)
    (next : α → Except Fault (Error × NvOcspResponse)) : Except Fault (Error × NvOcspResponse) :=
  match x with
  | .ok a => next a
  | .error (.code e) => .ok (e, out)
  | .error f => .error f

/-- `nextupd`, where an absent next update gets a default. -/
def nextUpdateTime (single : OcspLib.SingleStatus) : Except Fault Int :=
  match single.nextUpdate with
  | some nextUpdate => .ok nextUpdate
  | none => timeT (single.thisUpdate + defaultNextUpdateTtlSeconds)

/-- The fields of a judged response. The other fields keep what the caller put there. -/
def fill (single : OcspLib.SingleStatus) (out : NvOcspResponse) :
    Except Fault (Error × NvOcspResponse) := do
  let nextupd ← nextUpdateTime single
  return (.Ok, { out with
    thisupd := single.thisUpdate, nextupd, status := single.status, reason := single.reason
    signedAge := false })

/-- What is done with the body of a response. `OCSP_check_nonce` is 1 where both
nonces are present and equal. -/
def readResponse (lib : OcspLib) (id : CertId) (nonce : Bytes) (q : OcspQuery) (body : Bytes)
    (out : NvOcspResponse) : Except Fault (Error × NvOcspResponse) :=
  if body = [] then .ok (.OcspInvalidResponse, out) else
    returning out (lib.parseBasicResponse body) fun basic =>
      let rc := lib.verifySignature (some basic) q.intermediates (some q.trustStore)
      if rc ≠ .Ok then .ok (rc, out) else
        let out := { out with responseValid := true, nonceMatches := basic.nonce = some nonce }
        returning out (lib.getSingleStatus basic id) fun single => fill single out

namespace NvHttpOcspClient
variable {σ : Type} (lib : OcspLib) (client : NvHttpOcspClient σ)

/-- The exchange with the responder. -/
def ask (q : OcspQuery) (out : NvOcspResponse) (id : CertId) (nonce : Bytes) (payload : String) :
    Prog Fault σ (Error × NvOcspResponse) := do
  let (rc, status, body) ← client.httpClient.doRequestAsString {
    url := client.ocspUrl, method := .POST
    headers := [("Content-Type", "application/ocsp-request"),
      ("Accept", "application/ocsp-response"), ("User-Agent", client.userAgent)]
    payload }
  if rc ≠ .Ok then return (rc, out)
  else if status = httpStatusForbidden ∨ status = httpStatusUnauthorized then
    return (.OcspForbidden, out)
  else if status ≠ httpStatusOk then return (.OcspServerError, out)
  else Prog.lift (readResponse lib id nonce q (toBytes body) out)

/-- `NvHttpOcspClient::get_ocsp_response`. -/
def getOcspResponse (q : OcspQuery) (out : NvOcspResponse) :
    Prog Fault σ (Error × NvOcspResponse) := do
  match ← client.requests.add1Nonce with
  | none => return (.InternalError, out)
  | some nonce => match lib.certToId q.subject q.issuer with
    | none => return (.InternalError, out)
    | some id => match client.requests.i2dRequest id nonce with
      | none => return (.InternalError, out)
      | some payload => client.ask lib q out id nonce payload

def toOcspClient : OcspClient σ := ⟨client.getOcspResponse lib⟩

end NvHttpOcspClient

end AttestationSdk.HttpOcsp
