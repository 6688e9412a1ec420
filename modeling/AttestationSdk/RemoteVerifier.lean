import AttestationSdk.JwkStore
import AttestationSdk.LocalVerifier
import AttestationSdk.GpuEvidence
import AttestationSdk.SwitchEvidence

/-! The remote verifiers: `verify.cpp`, `NvRemoteGpuVerifier` and `NvRemoteSwitchVerifier`. -/
namespace AttestationSdk.Remote
open Json AttestationSdk.Claims AttestationSdk.Text AttestationSdk.Rim AttestationSdk.Eat
open AttestationSdk.Http AttestationSdk.Jwt AttestationSdk.LocalVerifier Effects

/-- The order in which an `unordered_map` filled from a list is walked. -/
structure MapOrder where
  order : List (String × String) → List (String × String)
  perm : ∀ entries, (order entries).Perm entries

structure RemoteLib (σ : Type) extends JwtLib σ where
  dump : Value → Option String
  sha256 : String → Option Bytes
  mapOrder : MapOrder

/-- What the two remote verifiers read of an evidence item. -/
structure RemoteItem where
  nonce : Bytes
  arch : String
  attestationReport : Bytes
  attestationCertChain : String
  deriving Repr, DecidableEq

/-- `to_json` of `NRASAttestRequestV4`. -/
def attestRequestToJson (nonce arch : String) (evidenceList : List (String × String)) : Value :=
  object [
    ("nonce", .str nonce), ("arch", .str arch), ("claims_version", .str "3.0"),
    ("evidence_list", .arr (evidenceList.map fun p =>
      object [("evidence", .str p.1), ("certificate", .str p.2)]))]

def encodeItem (item : RemoteItem) : Except Fault (String × String) := do
  let evidence ← encodeBase64 item.attestationReport
  let certChain ← encodeBase64 (toBytes item.attestationCertChain)
  return (evidence, certChain)

/-- `insert` of an `unordered_map`: the first entry of a key stays. -/
def insertNew (map : List (String × String)) (entry : String × String) : List (String × String) :=
  if (map.lookup entry.1).isSome then map else map ++ [entry]

/-- `from_json` of `SerializableDetachedEAT`. -/
def detachedEatFromJson (js : Value) : Except ReadFault SerializableDetachedEAT := do
  let overallJwtToken ← (← (← js.atIndex 0).atIndex 1).getString
  let tokens ← (← js.atIndex 1).items.mapM fun p => do return (p.1, ← p.2.getString)
  return ⟨overallJwtToken, tokens.foldl insertNew []⟩

def commonFromJson (js : Value) : Except ReadFault SerializableCommonEATClaims := do
  return {
    iat := ← field js "iat" getInt64
    exp := ← field js "exp" getInt64
    jti := ← field js "jti" Value.getString
    iss := ← field js "iss" Value.getString }

/-- `from_json` of `SerializableOverallEATClaims`. -/
def overallFromJson (js : Value) : Except ReadFault SerializableOverallEATClaims := do
  let sub ← field js "sub" Value.getString
  let commonClaims ← commonFromJson js
  let claimsVersion ← field js "x-nvidia-ver" Value.getString
  let overallResult ← field js "x-nvidia-overall-att-result" Value.getBool
  let eatNonce ← field js "eat_nonce" Value.getString
  let digests ← (← js.atKey "submods").items.mapM fun p => do
    return (p.1, ← (← (← p.2.atIndex 1).atIndex 1).getString)
  return {
    sub, commonClaims, claimsVersion, overallResult, eatNonce
    submodDigests := digests.foldl (fun map p => assign p.1 p.2 map) [] }

structure NrasErrorClaim where
  code : Int
  httpStatus : String
  description : String
  message : String
  deriving Repr, DecidableEq

def nrasErrorFromJson (js : Value) : Except ReadFault NrasErrorClaim := do
  return {
    code := ← field js "code" getInt32
    httpStatus := ← field js "httpStatus" Value.getString
    description := ← field js "description" Value.getString
    message := ← field js "message" Value.getString }

/-- The codes that `handle_nras_error_claim` chooses by the kind of device. -/
structure NrasCodes where
  nonceMismatch : Error
  invalidSignature : Error

def nrasErrorCode (codes : NrasCodes) (policy : EvidencePolicy) (code : Int) : Error :=
  if code = 4003 ∨ code = 4010 then codes.nonceMismatch
  else if code = 4007 ∨ code = 4014 ∨ code = 4015 then .CertChainVerificationFailure
  else if code = 4013 then codes.invalidSignature
  else if code = 5013 then if policy.verifyRimSignature then .RimInvalidSignature else .Ok
  else .InternalError

/-- `handle_nras_error_claim`: a malformed error claim throws. -/
def handleNrasErrorClaim (codes : NrasCodes) (policy : EvidencePolicy) (nrasClaims : Value) :
    Except Fault Unit :=
  match nrasClaims.member? "x-nvidia-error-details" with
  | none => .ok ()
  | some details =>
    if details.isNull then .ok () else
      match nrasErrorFromJson details with
      | .error .thrown => .error .exception
      | .error .undefined => .error .undefined
      | .ok claim => require (nrasErrorCode codes policy claim.code = .Ok)
          (nrasErrorCode codes policy claim.code)

section Validate
variable {σ : Type} (lib : RemoteLib σ) (http : HttpClient σ) (eatIssuer : String)

/-- `deserialize_from_json`. -/
def deserializeFromJson {α : Type} (read : Value → Except ReadFault α) (text : String) :
    Except Fault α :=
  match lib.parse text with
  | none => .error (.code .InternalError)
  | some js => orInternalError (read js)

def sha256Hex (text : String) : Except Fault String :=
  match lib.sha256 text with
  | none => .error (.code .InternalError)
  | some digest => .ok (toHexString digest)

/-- One turn of the loop of `validate_and_decode_EAT`. -/
def validateSubmod (tokens : List (String × String)) (entry : String × String) :
    Prog Fault (JwkStore × σ) (String × String) :=
  match tokens.lookup entry.1 with
  | none => Prog.fail (.code .NrasTokenInvalid)
  | some token => do
    let payload ← validateAndDecode lib.toJwtLib http eatIssuer token
    let digest ← Prog.lift (sha256Hex lib token)
    Prog.lift (require (digest = entry.2) .NrasTokenInvalid)
    return (entry.1, payload)

def validateSubmods (tokens : List (String × String)) :
    List (String × String) → Prog Fault (JwkStore × σ) (List (String × String))
  | [] => pure []
  | entry :: rest => do
    let claims ← validateSubmod lib http eatIssuer tokens entry
    return claims :: (← validateSubmods tokens rest)

/-- What `validate_and_decode_EAT` writes. -/
structure DecodedEAT where
  eatNonce : Bytes
  claims : List (String × String)
  overallResult : Bool
  deriving Repr, DecidableEq

/-- `validate_and_decode_EAT`. -/
def validateAndDecodeEAT (eat : SerializableDetachedEAT) :
    Prog Fault (JwkStore × σ) DecodedEAT := do
  let payload ← validateAndDecode lib.toJwtLib http eatIssuer eat.overallJwtToken
  let overall ← Prog.lift (deserializeFromJson lib overallFromJson payload)
  Prog.lift (require (!overall.eatNonce.isEmpty) .NrasTokenInvalid)
  let claims ← validateSubmods lib http eatIssuer eat.deviceJwtTokens
    (lib.mapOrder.order overall.submodDigests)
  Prog.lift (require (overall.submodDigests.length = eat.deviceJwtTokens.length) .NrasTokenInvalid)
  return ⟨hexStringToBytes overall.eatNonce, claims, overall.overallResult⟩

/-- The claims of one device token. -/
def readClaims (codes : NrasCodes) (policy : EvidencePolicy)
    (read : Value → Except ReadFault DeviceClaims) (payload : String) :
    Except Fault DeviceClaims := do
  let nrasClaims ← deserializeFromJson lib .ok payload
  handleNrasErrorClaim codes policy nrasClaims
  orInternalError (read nrasClaims)

end Validate

/-- What sets the two remote verifiers apart. -/
structure DeviceKind where
  codes : NrasCodes
  read : Value → Except ReadFault DeviceClaims

def gpuKind : DeviceKind :=
  ⟨⟨.GpuEvidenceNonceMismatch, .GpuEvidenceInvalidSignature⟩,
    fun js => (SerializableGpuClaimsV3.fromJson js).map .gpu⟩

def switchKind : DeviceKind :=
  ⟨⟨.SwitchEvidenceNonceMismatch, .SwitchEvidenceInvalidSignature⟩,
    fun js => (SerializableSwitchClaimsV3.fromJson js).map .switch⟩

structure NvRemoteVerifier (σ : Type) where
  nrasUrl : String
  eatIssuer : String
  httpClient : HttpClient σ
  /-- The store's own client. -/
  jwksHttpClient : HttpClient σ

namespace NvRemoteVerifier
variable {σ : Type} (lib : RemoteLib σ) (verifier : NvRemoteVerifier σ)

/-- The request and the text of an accepted response. -/
def attest (first : RemoteItem) (evidence : List RemoteItem) :
    Prog Fault (JwkStore × σ) String := do
  let evidenceList ← Prog.lift (evidence.mapM encodeItem)
  let payload ← Prog.lift (match lib.dump (attestRequestToJson (toHexString first.nonce) first.arch
      evidenceList) with
    | none => .error (.code .InternalError)
    | some text => .ok text)
  let (rc, status, body) ← Prog.onSecond (verifier.httpClient.doRequestAsString {
    url := verifier.nrasUrl, method := .POST, headers := [("Content-Type", "application/json")]
    payload })
  Prog.lift (require (rc = .Ok) rc)
  Prog.lift (require (status ≠ httpStatusForbidden ∧ status ≠ httpStatusUnauthorized)
    .NrasForbidden)
  Prog.lift (require (status = httpStatusOk) .NrasAttestationError)
  return body

/-- `verify_evidence` of both remote verifiers. -/
def verifyEvidence (kind : DeviceKind) (policy : EvidencePolicy) (wantEat : Bool) :
    List RemoteItem → Prog Fault (JwkStore × σ) Verification
  | [] => Prog.fail (.code .BadArgument)
  | first :: rest => do
    let body ← verifier.attest lib first (first :: rest)
    let eat ← Prog.lift (deserializeFromJson lib detachedEatFromJson body)
    let decoded ← validateAndDecodeEAT lib verifier.jwksHttpClient verifier.eatIssuer eat
    Prog.lift (require (decoded.eatNonce = first.nonce) .NrasTokenInvalid)
    let claims ← Prog.lift ((lib.mapOrder.order decoded.claims).mapM fun p =>
      readClaims lib kind.codes policy kind.read p.2)
    return ⟨claims, if wantEat then some body else none, decoded.overallResult⟩

end NvRemoteVerifier

def ofGpu (e : Gpu.GpuEvidence) : RemoteItem :=
  ⟨e.nonce, e.architecture.toString, e.attestationReport, e.attestationCertChain⟩

def ofSwitch (e : Switch.SwitchEvidence) : RemoteItem :=
  ⟨e.nonce, e.architecture.toString, e.attestationReport, e.attestationCertChain⟩

/-- `NvRemoteGpuVerifier::verify_evidence`. -/
def verifyGpuEvidence {σ : Type} (lib : RemoteLib σ) (verifier : NvRemoteVerifier σ)
    (evidence : List Gpu.GpuEvidence) (policy : EvidencePolicy) (wantEat : Bool) :
    Prog Fault (JwkStore × σ) Verification :=
  verifier.verifyEvidence lib gpuKind policy wantEat (evidence.map ofGpu)

/-- `NvRemoteSwitchVerifier::verify_evidence`. -/
def verifySwitchEvidence {σ : Type} (lib : RemoteLib σ) (verifier : NvRemoteVerifier σ)
    (evidence : List Switch.SwitchEvidence) (policy : EvidencePolicy) (wantEat : Bool) :
    Prog Fault (JwkStore × σ) Verification :=
  verifier.verifyEvidence lib switchKind policy wantEat (evidence.map ofSwitch)

end AttestationSdk.Remote
