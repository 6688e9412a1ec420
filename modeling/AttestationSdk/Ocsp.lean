import AttestationSdk.Error
import AttestationSdk.CalendarTime
import AttestationSdk.ExceptRules

/-! OCSP responses as OpenSSL hands them out and the checks every status path
shares: `OcspResponseVerifier` of `nv_ocsp.cpp`. -/
namespace AttestationSdk.Ocsp
open CalendarTime

/-- A certificate is told apart from others by its DER bytes. -/
structure X509 where
  der : Bytes
  deriving Repr, DecidableEq

structure TrustStore where
  anchors : List X509
  deriving Repr, DecidableEq

structure CertId where
  hashAlgorithm : Bytes
  issuerNameHash : Bytes
  issuerKeyHash : Bytes
  serialNumber : Int
  deriving Repr, DecidableEq

inductive CertStatus where
  | good
  | revoked (revocationReason : Option Int)
  | unknown
  deriving Repr, DecidableEq

/-- The times are the raw GeneralizedTime contents, not yet read. -/
structure SingleResponse where
  certId : CertId
  certStatus : CertStatus
  thisUpdate : Bytes
  nextUpdate : Option Bytes
  deriving Repr, DecidableEq

structure BasicResponse where
  tbs : Bytes
  nonce : Option Bytes
  responses : List SingleResponse
  deriving Repr, DecidableEq

/-- What `d2i_OCSP_RESPONSE` returns: the bytes it read, the re-encoding, the
response status and the basic response inside. -/
structure ParsedResponse where
  consumed : Nat
  reencoded : Bytes
  status : Int
  basic : Option BasicResponse
  deriving Repr, DecidableEq

/-- The OpenSSL calls under the OCSP code. -/
structure OcspLib where
  certToId : X509 → X509 → Option CertId
  /-- `i2d_OCSP_CERTID`, empty where it fails. -/
  i2dCertId : CertId → Bytes
  basicVerify : BasicResponse → List X509 → TrustStore → Int
  asn1TimeToTm : Bytes → Option Tm
  d2iResponse : Bytes → Option ParsedResponse
  /-- `OCSP_response_create` and `i2d_OCSP_RESPONSE` of a basic response. -/
  rebuild : BasicResponse → Option Bytes
  crlReasonStr : Int → String
  deriving Inhabited

/-- `NvOcspResponse`; a caller may pass one whose fields are not set yet. -/
structure NvOcspResponse where
  thisupd : Int
  nextupd : Int
  reason : Int
  status : Int
  nonceMatches : Bool
  responseValid : Bool
  signedAge : Bool
  verificationTime : Int
  statusDeadline : Int
  deriving Repr, DecidableEq

/-- A `time_t` result; outside 64 bits the C++ arithmetic is undefined. -/
def timeT (t : Int) : Except Fault Int :=
  if InTimeT t then .ok t else .error .undefined

def certStatusGood : Int := 0
def certStatusRevoked : Int := 1
def certStatusUnknown : Int := 2

/-- `OCSP_single_get0_status`: the status and the reason, which stays at the
caller's -1 unless a revocation names one. -/
def CertStatus.codes : CertStatus → Int × Int
  | .good => (certStatusGood, -1)
  | .revoked none => (certStatusRevoked, -1)
  | .revoked (some reason) => (certStatusRevoked, reason)
  | .unknown => (certStatusUnknown, -1)

namespace OcspLib
variable (lib : OcspLib)

def asn1TimeToUnix (value : Bytes) : Except Fault Int :=
  match lib.asn1TimeToTm value with
  | none => .error (.code .OcspInvalidResponse)
  | some tm => .ok (timegm tm)

def parseBasicResponse (der : Bytes) : Except Fault BasicResponse :=
  if der = [] ∨ 9223372036854775807 < der.length then .error (.code .OcspInvalidResponse) else
    match lib.d2iResponse der with
    | none => .error (.code .OcspInvalidResponse)
    | some resp =>
      if resp.consumed ≠ der.length then .error (.code .OcspInvalidResponse)
      else if resp.reencoded ≠ der then .error (.code .OcspInvalidResponse)
      else if resp.status = 0 then
        match resp.basic with
        | none => .error (.code .OcspInvalidResponse)
        | some basic =>
          if lib.rebuild basic ≠ some der then .error (.code .OcspInvalidResponse)
          else .ok basic
      else if resp.status = 2 ∨ resp.status = 3 then .error (.code .OcspServerError)
      else if resp.status = 1 ∨ resp.status = 5 ∨ resp.status = 6 then
        .error (.code .OcspInvalidRequest)
      else .error (.code .OcspInvalidResponse)

def verifySignature (basic : Option BasicResponse) (intermediates : List X509)
    (trustStore : Option TrustStore) : Error :=
  match basic, trustStore with
  | some basic, some store =>
    let verificationStatus := lib.basicVerify basic intermediates store
    if verificationStatus = 1 then .Ok
    else if verificationStatus = 0 then .OcspInvalidResponse
    else .InternalError
  | _, _ => .InternalError

/-- `count_single_responses`, with `OCSP_id_cmp` as equality of the identifiers. -/
def countSingleResponses (basic : BasicResponse) (id : CertId) : Nat :=
  basic.responses.foldl (fun n single => if single.certId = id then n + 1 else n) 0

structure SingleStatus where
  status : Int
  reason : Int
  thisUpdate : Int
  nextUpdate : Option Int
  deriving Repr, DecidableEq

def getSingleStatus (basic : BasicResponse) (id : CertId) : Except Fault SingleStatus :=
  if countSingleResponses basic id ≠ 1 then .error (.code .OcspInvalidResponse) else
    let index := basic.responses.findIdx? (fun single => single.certId = id)
    match index.bind (basic.responses[·]?) with
    | none => .error (.code .OcspInvalidResponse)
    | some single => do
      let (status, reason) := single.certStatus.codes
      let thisUpdate ← lib.asn1TimeToUnix single.thisUpdate
      match single.nextUpdate with
      | none => return ⟨status, reason, thisUpdate, none⟩
      | some next => do
        let nextUpdate ← lib.asn1TimeToUnix next
        return ⟨status, reason, thisUpdate, some nextUpdate⟩

end OcspLib

theorem countSingleResponses_eq (basic : BasicResponse) (id : CertId) :
    OcspLib.countSingleResponses basic id = basic.responses.countP (·.certId = id) := by
  have hacc : ∀ (l : List SingleResponse) (n : Nat),
      l.foldl (fun n single => if single.certId = id then n + 1 else n) n =
        n + l.countP (·.certId = id) := by
    intro l
    induction l with
    | nil => simp
    | cons single l ih =>
      intro n
      rw [List.foldl_cons, ih, List.countP_cons]
      by_cases h : single.certId = id
      · simp only [h, if_true, decide_true]
        omega
      · simp [h]
  simpa [OcspLib.countSingleResponses] using hacc basic.responses 0

theorem timeT_of_inTimeT {t : Int} (h : InTimeT t) : timeT t = .ok t := if_pos h

end AttestationSdk.Ocsp
