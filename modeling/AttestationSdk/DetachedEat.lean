import AttestationSdk.RimClaims
import AttestationSdk.OverallPolicy

/-! The claims evaluator and the detached EAT: `claims_evaluator.cpp` and
`ClaimsCollection::get_detached_eat` of `claims.cpp`. -/
namespace AttestationSdk.Eat
open Json AttestationSdk.Claims AttestationSdk.Text AttestationSdk.Ocsp AttestationSdk.CertChain
open AttestationSdk.Rim KeyedList Effects

/-- What `ClaimsEvaluatorFactory` creates an evaluator from. -/
inductive RegoPolicy where
  | overallResult
  | text (policy : String)
  deriving Repr, DecidableEq

/-- The libraries and the system under the verifiers. -/
structure Platform (σ : Type) where
  x509 : X509Lib
  ocsp : OcspLib
  xml : XmlLib
  /-- `nlohmann::json::dump`, which throws on text that is not UTF-8. -/
  dump : Value → Option String
  /-- `nlohmann::json::parse`. -/
  parse : String → Option Value
  /-- `RegorusRegoEngine::evaluate_policy` at `data.policy.nv_match`. -/
  evaluatePolicy : RegoPolicy → String → Option String
  sha256 : String → Option Bytes
  now : Prog Fault σ Int
  randBytes : Nat → Prog Fault σ (Option Bytes)
  /-- A JWT with a `kid` and signed by a PEM key, where they are given. -/
  jwtSign : Option String → Option String → Value → Prog Fault σ String
  /-- What a status that the source leaves unset holds. -/
  unsetStatus : CertChainStatus

/-- The type error of a read is caught, an undefined conversion is not. -/
def orInternalError {α : Type} : Except ReadFault α → Except Fault α
  | .ok a => .ok a
  | .error .thrown => .error (.code .InternalError)
  | .error .undefined => .error .undefined

section Evaluator
variable {σ : Type} (env : Platform σ)

/-- `serialize_to_json`. -/
def serializeToJson (js : Value) : Except Fault String :=
  match env.dump js with
  | none => .error (.code .InternalError)
  | some text => .ok text

/-- `to_json` of a `ClaimsCollection`. -/
def collectionToJson (claims : List DeviceClaims) : Value :=
  .arr (claims.map DeviceClaims.toJsonObject)

/-- `result[0].expressions[0].value` of the engine's answer; anything else is no match. -/
def readMatch (result : String) : Bool :=
  match env.parse result with
  | none => false
  | some js =>
    let read : Except ReadFault Bool := do
      let first ← (← js.atKey "result").atIndex 0
      let expression ← (← first.atKey "expressions").atIndex 0
      (← expression.atKey "value").getBool
    match read with
    | .ok b => b
    | .error _ => false

/-- `RegoClaimsEvaluator::evaluate_claims`. -/
def evaluateClaims (policy : RegoPolicy) (claims : List DeviceClaims) : Except Fault Bool := do
  let json ← serializeToJson env (collectionToJson claims)
  match env.evaluatePolicy policy json with
  | none => .error (.code .PolicyEvaluationError)
  | some result => return readMatch env result

/-- The engine evaluates the overall-result policy by the semantics of Rego. -/
def FollowsRego : Prop :=
  ∀ claims json result, env.dump (collectionToJson claims) = some json →
    env.evaluatePolicy .overallResult json = some result →
    readMatch env result = OverallPolicy.nvMatch (collectionToJson claims)

end Evaluator

structure DetachedEATOptions where
  privateKeyPem : String := ""
  issuer : String := "NVAT-LOCAL-VERIFIER"
  kid : String := ""
  deriving Repr, DecidableEq

structure SerializableCommonEATClaims where
  iat : Int
  exp : Int
  iss : String
  jti : String
  deriving Repr, DecidableEq

def SerializableCommonEATClaims.members (claims : SerializableCommonEATClaims) :
    List (String × Value) :=
  [("iat", .int claims.iat), ("exp", .int claims.exp), ("jti", .str claims.jti),
    ("iss", .str claims.iss)]

/-- `to_json` of `SerializableEATSubmodClaims`: the device's members overwrite the common ones. -/
def submodClaimsToJson (common : SerializableCommonEATClaims) (device : DeviceClaims) : Value :=
  match device.toJsonObject with
  | .obj members => .obj (assignAll members (assignAll common.members []))
  | _ => object common.members

structure SerializableOverallEATClaims where
  sub : String
  commonClaims : SerializableCommonEATClaims
  claimsVersion : String
  submodDigests : List (String × String)
  overallResult : Bool
  eatNonce : String
  deriving Repr, DecidableEq

/-- A digest as it stands in the overall token. -/
def digestToJson (digest : String) : Value :=
  .arr [.str "DIGEST", .arr [.str "SHA256", .str digest]]

def SerializableOverallEATClaims.toJson (claims : SerializableOverallEATClaims) : Value :=
  object ([("sub", .str claims.sub)] ++ claims.commonClaims.members ++ [
    ("x-nvidia-ver", .str claims.claimsVersion),
    ("x-nvidia-overall-att-result", .bool claims.overallResult),
    ("eat_nonce", .str claims.eatNonce)] ++
    if claims.submodDigests.isEmpty then []
    else [("submods", object (claims.submodDigests.map fun p => (p.1, digestToJson p.2)))])

structure SerializableDetachedEAT where
  overallJwtToken : String
  deviceJwtTokens : List (String × String)
  deriving Repr, DecidableEq

def SerializableDetachedEAT.toJson (eat : SerializableDetachedEAT) : Value :=
  .arr [.arr [.str "JWT", .str eat.overallJwtToken],
    object (eat.deviceJwtTokens.map fun p => (p.1, .str p.2))]

def jwtTtlSeconds : Int := 3600
def jtiSizeBytes : Nat := 32
def minValidNonceLen : Nat := 32

/-- `operator[]` and assignment of an `unordered_map`. -/
def assign {α : Type} (key : String) (a : α) (map : List (String × α)) : List (String × α) :=
  (key, a) :: map.filter (·.1 ≠ key)

theorem lookup_assign {α : Type} (key other : String) (a : α) (map : List (String × α)) :
    (assign key a map).lookup other = if other = key then some a else map.lookup other := by
  rw [assign]
  split
  · next h => rw [h, List.lookup_cons_self]
  · next h => rw [lookup_cons_of_ne h, lookup_filter_ne h]

theorem assign_of_new {α : Type} {key : String} {a : α} {map : List (String × α)}
    (h : key ∉ keys map) : assign key a map = (key, a) :: map := by
  rw [assign, List.filter_eq_self.mpr]
  intro p hp
  refine decide_eq_true fun heq => h ?_
  rw [← heq]
  exact mem_keys_of_mem hp

theorem keys_assign {α : Type} (key : String) (a : α) (map : List (String × α)) :
    keys (assign key a map) = key :: (keys map).filter (· ≠ key) := by
  rw [assign, keys_cons, keys, keys, List.filter_map]
  rfl

theorem assign_distinct {α : Type} {key : String} {a : α} {map : List (String × α)}
    (h : Distinct map) : Distinct (assign key a map) := by
  rw [Distinct, keys_assign]
  exact List.nodup_cons.mpr ⟨by simp, List.Nodup.filter _ h⟩

theorem foldl_assign_distinct {α : Type} (entries map : List (String × α)) (h : Distinct map) :
    Distinct (entries.foldl (fun map p => assign p.1 p.2 map) map) := by
  induction entries generalizing map with
  | nil => exact h
  | cons p rest ih => exact ih _ (assign_distinct h)

/-- What the loop of `get_detached_eat` carries. -/
structure SubmodState where
  overallNonce : String := ""
  deviceIndex : List (String × Nat) := []
  submodDigests : List (String × String) := []
  deviceJwtTokens : List (String × String) := []
  deriving Repr, DecidableEq

section DetachedEat
variable {σ : Type} (env : Platform σ)

/-- `generate_nonce`. -/
def generateNonce (numBytes : Nat) : Prog Fault σ Bytes :=
  if numBytes < minValidNonceLen then Prog.fail (.code .BadArgument) else do
    match ← env.randBytes numBytes with
    | none => Prog.fail (.code .InternalError)
    | some nonce => pure nonce

/-- `compute_sha256_hex`. -/
def computeSha256Hex (text : String) : Except Fault String :=
  match env.sha256 text with
  | none => .error (.code .InternalError)
  | some digest => .ok (toHexString digest)

def nonEmpty (s : String) : Option String := if s.isEmpty then none else some s

def sign (options : DetachedEATOptions) (payload : Value) : Prog Fault σ String :=
  env.jwtSign (nonEmpty options.kid) (nonEmpty options.privateKeyPem) payload

/-- The nonce after one more claim: an empty one gives way. -/
def joinNonce (overall nonce : String) : Except Fault String :=
  if overall.isEmpty then .ok nonce
  else if overall ≠ nonce then .error (.code .BadArgument)
  else .ok overall

/-- One turn of the loop over the claims. -/
def addSubmod (options : DetachedEATOptions) (common : SerializableCommonEATClaims)
    (st : SubmodState) (claim : DeviceClaims) : Prog Fault σ SubmodState := do
  let deviceType := toUpper claim.getDeviceType
  let index := (st.deviceIndex.lookup deviceType).getD 0
  let key := deviceType ++ "-" ++ toString index
  let overallNonce ← Prog.lift (joinNonce st.overallNonce claim.getNonce)
  let jti ← generateNonce env jtiSizeBytes
  let token ← sign env options
    (submodClaimsToJson { common with jti := toHexString jti } claim)
  let digest ← Prog.lift (computeSha256Hex env token)
  return {
    overallNonce
    deviceIndex := assign deviceType (index + 1) st.deviceIndex
    submodDigests := assign key digest st.submodDigests
    deviceJwtTokens := assign key token st.deviceJwtTokens }

/-- The loop over the claims. -/
def addSubmods (options : DetachedEATOptions) (common : SerializableCommonEATClaims) :
    List DeviceClaims → SubmodState → Prog Fault σ SubmodState
  | [], st => pure st
  | claim :: rest, st => do
    let st ← addSubmod env options common st claim
    addSubmods options common rest st

/-- `ClaimsCollection::get_detached_eat`: the text and the overall result. A false
result is the code `OverallResultFalse`, with the text written. -/
def getDetachedEat (options : DetachedEATOptions) (claims : List DeviceClaims) :
    Prog Fault σ (String × Bool) := do
  let iat ← env.now
  let overallJti ← generateNonce env jtiSizeBytes
  let common : SerializableCommonEATClaims := {
    iat, exp := iat + jwtTtlSeconds, iss := options.issuer, jti := toHexString overallJti }
  let st ← addSubmods env options common claims {}
  let overallResult ← Prog.lift (evaluateClaims env .overallResult claims)
  let overall : SerializableOverallEATClaims := {
    sub := "NVIDIA-PLATFORM-ATTESTATION", commonClaims := common, claimsVersion := "3.0"
    submodDigests := st.submodDigests, overallResult, eatNonce := st.overallNonce }
  let token ← sign env options overall.toJson
  let eat : SerializableDetachedEAT := ⟨token, st.deviceJwtTokens⟩
  let text ← Prog.lift (serializeToJson env eat.toJson)
  return (text, overallResult)

end DetachedEat

end AttestationSdk.Eat
