import AttestationSdk.ChainStatus
import AttestationSdk.Buffer
import AttestationSdk.TextCodec

/-! Certificate chains: `X509CertChain` of `nv_x509.cpp` without the status walk. -/
namespace AttestationSdk.CertChain
open AttestationSdk.Ocsp AttestationSdk.ChainStatus AttestationSdk.Text
open CalendarTime Effects Buffer DerReader

inductive HashAlgorithm where
  | sha384
  deriving Repr, DecidableEq

/-- The OpenSSL calls under certificate chains. -/
structure X509Lib where
  /-- `PEM_read_bio_X509`. -/
  pemReadX509 : String → Option X509
  /-- `X509_verify_cert` without time checks: the chain it built, where it accepts. -/
  verifyCert : TrustStore → X509 → List X509 → Option (List X509)
  /-- `X509_get0_notAfter` read by `ASN1_TIME_to_tm`. -/
  notAfter : X509 → Option Tm
  /-- `gmtime_r` and `strftime`. -/
  iso8601 : Int → String
  /-- ECDSA verification of the data under the certificate's key; `r` and `s` as numbers. -/
  digestVerify : X509 → HashAlgorithm → Bytes → Nat → Nat → Bool
  /-- The data of the extension with an object identifier. -/
  extensionData : X509 → String → Option Bytes
  /-- `d2i_ASN1_SEQUENCE_ANY`: for each element the bytes of its value. -/
  sequenceAny : Bytes → Option (List (Option Bytes))
  subjectCommonName : X509 → Option String
  serialNumberDec : X509 → Option String

structure X509CertChain where
  certs : List X509
  type : CertificateChainType
  trustStore : Option TrustStore
  deriving Repr, DecidableEq

inductive FWIDType where
  | FWID_2_23_133_5_4_1 | FWID_2_23_133_5_4_1_1
  deriving Repr, DecidableEq

def FWIDType.oid : FWIDType → String
  | .FWID_2_23_133_5_4_1 => "2.23.133.5.4.1"
  | .FWID_2_23_133_5_4_1_1 => "2.23.133.5.4.1.1"

inductive CertChainStatus where
  | VALID | INVALID | REVOKED | EXPIRED
  deriving Repr, DecidableEq

structure CertChainClaims where
  expirationDate : String := ""
  /-- The source leaves the status of a fresh value unset. -/
  status : CertChainStatus
  ocspClaims : OCSPClaims := {}
  deriving Repr, DecidableEq

def internalError {α : Type} : Except Fault α := .error (.code .InternalError)

namespace X509Lib
variable (lib : X509Lib)

/-- `X509CertChain::create`. -/
def create (type : CertificateChainType) (rootCert : String) : Except Fault X509CertChain :=
  match lib.pemReadX509 rootCert with
  | none => internalError
  | some root => .ok { certs := [], type := type, trustStore := some ⟨[root]⟩ }

def pushBack (chain : X509CertChain) (cert : String) : Except Fault X509CertChain :=
  match lib.pemReadX509 cert with
  | none => internalError
  | some x => .ok { chain with certs := chain.certs ++ [x] }

variable {lib}

theorem create_ok {type : CertificateChainType} {rootCert : String} {chain : X509CertChain}
    (h : lib.create type rootCert = .ok chain) :
    ∃ root, lib.pemReadX509 rootCert = some root ∧
      chain = { certs := [], type := type, trustStore := some ⟨[root]⟩ } := by
  rw [create] at h
  split at h
  · cases h
  · next root hroot => exact ⟨root, hroot, (Except.ok.inj h).symm⟩

theorem pushBack_ok {chain chain' : X509CertChain} {cert : String}
    (h : lib.pushBack chain cert = .ok chain') :
    ∃ x, lib.pemReadX509 cert = some x ∧ chain' = { chain with certs := chain.certs ++ [x] } := by
  rw [pushBack] at h
  split at h
  · cases h
  · next x hx => exact ⟨x, hx, (Except.ok.inj h).symm⟩

end X509Lib

/-- The characters up to and with the first occurrence of a delimiter, and the rest. -/
def splitAfter (delimiter : List Char) : List Char → Option (List Char × List Char)
  | [] => none
  | c :: cs =>
    if delimiter.isPrefixOf (c :: cs) then
      some (delimiter, (c :: cs).drop delimiter.length)
    else (splitAfter delimiter cs).map fun (found, rest) => (c :: found, rest)

def endCertificate : String := "-----END CERTIFICATE-----"

/-- The pieces `create_from_cert_chain_str` cuts the text into. Each turn takes at
least the delimiter away, so the text's length bounds the turns. -/
def pemPieces : Nat → List Char → List String
  | 0, _ => []
  | fuel + 1, text =>
    match splitAfter endCertificate.toList text with
    | none => []
    | some (piece, rest) =>
      String.ofList piece :: pemPieces fuel (rest.dropWhile fun c => c = '\n' ∨ c = '\r')

def mapCode {α : Type} (e : Error) : Except Fault α → Except Fault α
  | .error (.code _) => .error (.code e)
  | x => x

theorem mapCode_ok {α : Type} {e : Error} {x : Except Fault α} {a : α}
    (h : mapCode e x = .ok a) : x = .ok a := by
  cases x with
  | ok b => exact h
  | error f => cases f <;> cases h

/-- `X509CertChain::create_from_cert_chain_str`: whatever type it is asked for, the
chain is created as a GPU device identity. -/
def createFromCertChainStr (lib : X509Lib) (_type : CertificateChainType) (rootCert : String)
    (certChain : String) : Except Fault X509CertChain :=
  if certChain.isEmpty then internalError else do
    let chain ← lib.create .GPU_DEVICE_IDENTITY rootCert
    let chain ← (pemPieces (certChain.length + 1) certChain.toList).foldlM
      (fun chain piece => mapCode .InternalError (lib.pushBack chain piece)) chain
    if chain.certs.isEmpty then internalError else return chain

/-- The number `BN_bin2bn` reads. -/
def bigEndian (data : Bytes) : Nat := data.foldl (fun n b => 256 * n + b.toNat) 0

/-- `verify_signature_pkcs11`: the signature is `r` and `s` in equal halves, checked
under the key of the first certificate. -/
def verifySignaturePkcs11 (lib : X509Lib) (chain : X509CertChain) (data signature : Bytes)
    (md : HashAlgorithm) : Except Fault Unit :=
  if signature.length % 2 ≠ 0 then internalError else
    let half := signature.length / 2
    match chain.certs with
    | [] => internalError
    | leaf :: _ =>
      if lib.digestVerify leaf md data (bigEndian (signature.take half))
          (bigEndian (signature.drop half)) then .ok ()
      else internalError

/-- `X509CertChain::verify`: the presented certificates are exactly the verified path. -/
def verify (lib : X509Lib) (chain : X509CertChain) : Except Fault VerifiedPath :=
  match chain.certs, chain.trustStore with
  | [], _ => internalError
  | _ :: _, none => internalError
  | target :: untrusted, some store =>
    match lib.verifyCert store target untrusted with
    | none => .error (.code .CertChainVerificationFailure)
    | some verified =>
      -- the stack counts with an `int`
      if h : verified = target :: untrusted ∧ verified.length ≤ 2147483647 then
        .ok ⟨verified, h.2⟩
      else .error (.code .CertChainVerificationFailure)

/-- The loop of `calculate_min_expiration_time`. -/
def minExpirationLoop (lib : X509Lib) : List X509 → Int → Bool → Except Fault (Int × Bool)
  | [], least, found => .ok (least, found)
  | cert :: rest, least, found =>
    match lib.notAfter cert with
    | none => internalError
    | some tm =>
      if timegm tm < least then minExpirationLoop lib rest (timegm tm) true
      else minExpirationLoop lib rest least found

/-- `calculate_min_expiration_time`. -/
def calculateMinExpirationTime (lib : X509Lib) (chain : X509CertChain) :
    Except Fault (Int × String) :=
  if chain.certs.isEmpty then internalError else do
    let (least, found) ← minExpirationLoop lib chain.certs 9223372036854775807 false
    if !found then internalError else return (least, lib.iso8601 least)

/-- `generate_cert_chain_claims`; `now` reads the clock. -/
def generateCertChainClaims {σ : Type} (lib : X509Lib) (ocspLib : OcspLib) (client : OcspClient σ)
    (now : Prog Fault σ Int) (chain : X509CertChain) : Prog Fault σ CertChainClaims := do
  let (least, date) ← Prog.lift (calculateMinExpirationTime lib chain)
  let time ← now
  let status := if least < time then CertChainStatus.EXPIRED else .VALID
  let path ← Prog.lift (verify lib chain)
  let ocspClaims ← generateOcspClaimsForPath ocspLib client chain.type chain.trustStore path
  return { expirationDate := date, status := status, ocspClaims := ocspClaims }

def fwidHashLength : Nat := 48

/-- The loop of `get_fwid_2_23_133_5_4_1_1` over the list's bytes; `int` offsets stay small. -/
def fwidLoop (data : Bytes) : Nat → Nat → List Bytes → Except Fault (List Bytes × Nat)
  | 0, _, _ => .error .outOfFuel
  | fuel + 1, offset, fwids =>
    if data.length ≤ offset then .ok (fwids, offset)
    else if !canReadBuffer data (offset + 3) 1 then internalError
    else do
      let hashAlgLen ← byteAt data (offset + 3)
      let fwidAt := offset + 4 + hashAlgLen.toNat + 1
      if !canReadBuffer data fwidAt 1 then internalError else do
        let fwidLen ← byteAt data fwidAt
        if !canReadBuffer data (fwidAt + 1) fwidLen.toNat then internalError else do
          let fwid ← slice data (fwidAt + 1) fwidLen.toNat
          fwidLoop data fuel (fwidAt + 1 + fwidLen.toNat) (fwids ++ [fwid])

def getFwidFromTcbInfo (lib : X509Lib) (extension : Bytes) : Except Fault Bytes :=
  match lib.sequenceAny extension with
  | none => internalError
  | some elements =>
    match elements[6]? with
    | none => internalError
    | some none => internalError
    | some (some list) => do
      let (fwids, offset) ← fwidLoop list (list.length + 1) 2 []
      if offset ≠ list.length then internalError else
        match fwids with
        | [] => internalError
        | first :: _ => return first

/-- `get_fwid`. -/
def getFwid (lib : X509Lib) (chain : X509CertChain) (certIndex : Nat) (fwidType : FWIDType) :
    Except Fault Bytes :=
  match chain.certs[certIndex]? with
  | none => .error (.code .CertNotFound)
  | some cert =>
    match lib.extensionData cert fwidType.oid with
    | none => .error (.code .CertFwidNotFound)
    | some data =>
      if data.length < fwidHashLength then internalError else
        match fwidType with
        | .FWID_2_23_133_5_4_1 => .ok (data.drop (data.length - fwidHashLength))
        | .FWID_2_23_133_5_4_1_1 => getFwidFromTcbInfo lib data

/-- `get_hwmodel`: the common name of the second certificate. -/
def getHwmodel (lib : X509Lib) (chain : X509CertChain) : Except Fault String :=
  match chain.certs[1]? with
  | none => .error (.code .CertNotFound)
  | some cert => match lib.subjectCommonName cert with
    | none => internalError
    | some name => if name.isEmpty then internalError else .ok name

/-- `get_ueid`: the serial number of the first certificate. -/
def getUeid (lib : X509Lib) (chain : X509CertChain) : Except Fault String :=
  match chain.certs[0]? with
  | none => .error (.code .CertNotFound)
  | some cert => match lib.serialNumberDec cert with
    | none => internalError
    | some serial => .ok serial

end AttestationSdk.CertChain
