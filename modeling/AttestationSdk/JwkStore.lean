import AttestationSdk.Json
import AttestationSdk.Http

/-! Signing keys of the service and token checks: `nv_jwt.cpp`. -/
namespace AttestationSdk.Jwt
open Json AttestationSdk.Http Effects

/-- jwt-cpp, the JSON reader and the clock. -/
structure JwtLib (σ : Type) where
  parse : String → Option Value
  /-- `jwt::decode`, which throws: the texts of header and payload. -/
  decode : String → Option (String × String)
  /-- Whether `jwt::algorithm::es384` accepts a key; it throws otherwise. -/
  acceptsKey : String → Bool
  /-- `verifier.verify`: signature and times of a token under a key. -/
  verify : String → String → Prog Fault σ Bool
  nowMs : Prog Fault σ Int

structure Jwk where
  kid : String
  pemPublicKey : String
  deriving Repr, DecidableEq

structure JwkStore where
  jwksUrl : String
  cacheDurationMs : Int
  lastUpdateUnixMs : Int
  jwks : List (String × Jwk)
  deriving Repr, DecidableEq

def pemLineLength : Nat := 64

/-- The text in lines; every turn takes at least one character. -/
def pemLines : Nat → List Char → List Char
  | 0, _ => []
  | _ + 1, [] => []
  | fuel + 1, c :: cs =>
    (c :: cs).take pemLineLength ++ '\n' :: pemLines fuel ((c :: cs).drop pemLineLength)

def wrapPublicKey (raw : String) : String :=
  "-----BEGIN CERTIFICATE-----\n" ++ String.ofList (pemLines raw.length raw.toList) ++
    "-----END CERTIFICATE-----\n"

/-- One entry of the key set: entries without a usable `kid` or `x5c` are skipped, a
first certificate that is no text throws. -/
def jwkOf (key : Value) : Except Fault (Option Jwk) :=
  match key.member? "kid", key.member? "x5c" with
  | some (.str kid), some (.arr (first :: _)) => match first with
    | .str raw => .ok (some ⟨kid, wrapPublicKey raw⟩)
    | _ => .error .exception
  | _, _ => .ok none

/-- The loop of `refresh_jwks`, with the keys it leaves where it throws. -/
def addKeys : List Value → Prog Fault (List (String × Jwk)) Unit
  | [], jwks => (.ok (), jwks)
  | key :: rest, jwks => match jwkOf key with
    | .error f => (.error f, jwks)
    | .ok none => addKeys rest jwks
    | .ok (some jwk) => addKeys rest ((jwk.kid, jwk) :: jwks.filter (·.1 ≠ jwk.kid))

section Store
variable {σ : Type} (lib : JwtLib σ) (http : HttpClient σ)

/-- The keys in a response of the endpoint. -/
def keysOf (body : String) : Except Fault (List Value) :=
  match lib.parse body with
  | none => .error (.code .InternalError)
  | some js => match js.member? "keys" with
    | none => .error (.code .NrasAttestationError)
    | some keys => .ok keys.elements

/-- `refresh_jwks`: the status of the response is not looked at. -/
def refreshJwks : Prog Fault (JwkStore × σ) Unit := do
  let store ← Prog.liftFirst fun st => (.ok st, st)
  let (rc, _, body) ← Prog.onSecond (http.doRequestAsString { url := store.jwksUrl, method := .GET })
  if rc ≠ .Ok then Prog.fail (.code rc) else do
    let keys ← Prog.lift (keysOf lib body)
    Prog.liftFirst fun st =>
      let (r, jwks) := addKeys keys st.jwks
      (r, { st with jwks })

/-- The refresh in `get_jwk_by_kid`: the time is recorded unless an exception leaves it. -/
def refreshAt (nowMs : Int) : Prog Fault (JwkStore × σ) Unit := fun w =>
  match refreshJwks lib http ({ w.1 with jwks := [] }, w.2) with
  | (.ok (), w') => (.ok (), ({ w'.1 with lastUpdateUnixMs := nowMs }, w'.2))
  | (.error (.code e), w') => (.error (.code e), ({ w'.1 with lastUpdateUnixMs := nowMs }, w'.2))
  | (.error f, w') => (.error f, w')

/-- The key set is too old, or does not have the key. -/
def stale (kid : String) (nowMs : Int) (store : JwkStore) : Bool :=
  store.lastUpdateUnixMs + store.cacheDurationMs < nowMs ∨ (store.jwks.lookup kid).isNone

/-- `JwkStore::get_jwk_by_kid`. -/
def getJwkByKid (kid : String) : Prog Fault (JwkStore × σ) Jwk := do
  let nowMs ← Prog.onSecond lib.nowMs
  let store ← Prog.liftFirst fun st => (.ok st, st)
  let () ← if stale kid nowMs store then refreshAt lib http nowMs else pure ()
  let store ← Prog.liftFirst fun st => (.ok st, st)
  match store.jwks.lookup kid with
  | none => Prog.fail (.code .CertNotFound)
  | some jwk => pure jwk

/-- The text member of a token part; a part that does not have it is an invalid token. -/
def tokenMember (text key : String) : Except Fault String :=
  match lib.parse text with
  | none => .error (.code .NrasTokenInvalid)
  | some js => match js.member? key with
    | some (.str s) => .ok s
    | _ => .error (.code .NrasTokenInvalid)

/-- `NvJwt::validate_and_decode`. -/
def validateAndDecode (eatIssuer jwtToken : String) : Prog Fault (JwkStore × σ) String :=
  match lib.decode jwtToken with
  | none => Prog.fail .exception
  | some (header, payload) => do
    let kid ← Prog.lift (tokenMember lib header "kid")
    let issuer ← Prog.lift (tokenMember lib payload "iss")
    Prog.lift (require (issuer = eatIssuer) .NrasTokenInvalid)
    let jwk ← getJwkByKid lib http kid
    Prog.lift (if lib.acceptsKey jwk.pemPublicKey then .ok () else .error .exception)
    let verified ← Prog.onSecond (lib.verify jwk.pemPublicKey jwtToken)
    Prog.lift (require verified .NrasTokenInvalid)
    return payload

end Store

end AttestationSdk.Jwt
