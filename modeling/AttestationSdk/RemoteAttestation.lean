import AttestationSdk.RecordedEvidence
import AttestationSdk.EatValidation
import AttestationSdk.HttpTransfer
import AttestationSdk.JwksHistory

/-! Attestations through the service: which request its token answers, over the whole life of a
context. -/
namespace AttestationSdk.Remote
open Json AttestationSdk.Claims AttestationSdk.Text AttestationSdk.Rim AttestationSdk.Eat
open AttestationSdk.Http AttestationSdk.Jwt AttestationSdk.LocalVerifier AttestationSdk.Attestation
open AttestationSdk.Collect AttestationSdk.Gpu AttestationSdk.Switch KeyedList Effects Prog
variable {τ : Type}

/-- The key stores of the verifiers made so far, and the rest of the system. -/
abbrev RemoteWorld (τ : Type) := List JwkStore × τ

/-- What `init_from_env` of the remote verifiers uses. -/
structure RemoteEnv (τ : Type) where
  lib : RemoteLib τ
  /-- `NvHttpClient::create`, from a service key and the options. -/
  createClient : String → HttpOptions → Prog Fault τ (HttpClient τ)
  /-- What `NVAT_NRAS_BASE_URL` or its default says. -/
  nrasBaseUrl : String

def defaultJwksCacheDurationMs : Int := 900000
def gpuPath : String := "/v4/attest/gpu"
def switchPath : String := "/v4/attest/switch"

/-- A program over the key store at a place. -/
def atStore {α : Type} (i : Nat) (x : Prog Fault (JwkStore × τ) α) : Prog Fault (RemoteWorld τ) α :=
  fun w => match w.1[i]? with
    | none => (.error .undefined, w)
    | some store =>
      let (r, store, s) := x (store, w.2)
      (r, (w.1.set i store, s))

namespace RemoteEnv
variable (env : RemoteEnv τ)

def baseUrl (nrasUrl : String) : String :=
  if (cStr nrasUrl).isEmpty then env.nrasBaseUrl else cStr nrasUrl

/-- `init_from_env` of both remote verifiers, with the place of the new key store. -/
def initFromEnv (path nrasUrl serviceKey : String) (httpOptions : HttpOptions) :
    Prog Fault (RemoteWorld τ) (NvRemoteVerifier τ × Nat) := do
  let httpClient ← onSecond (env.createClient serviceKey httpOptions)
  let jwksHttpClient ← onSecond (env.createClient serviceKey httpOptions)
  let jwkStore := newJwkStore (env.baseUrl nrasUrl ++ "/.well-known/jwks.json")
    defaultJwksCacheDurationMs
  let i ← liftFirst fun stores => (.ok stores.length, stores ++ [jwkStore])
  return (⟨env.baseUrl nrasUrl ++ path, env.baseUrl nrasUrl, httpClient, jwksHttpClient⟩, i)

/-- A remote GPU verifier as a context holds it; it overwrites the claims it is given. -/
def gpuVerifier (verifier : NvRemoteVerifier τ) (i : Nat) : GpuVerifier (RemoteWorld τ) :=
  .other fun evidence policy wantEat _ =>
    atStore i (verifyGpuEvidence env.lib verifier evidence policy wantEat)

def switchVerifier (verifier : NvRemoteVerifier τ) (i : Nat) : SwitchVerifier (RemoteWorld τ) :=
  .other fun evidence policy wantEat _ =>
    atStore i (verifySwitchEvidence env.lib verifier evidence policy wantEat)

/-- `NvRemoteGpuVerifier::init_from_env`. -/
def remoteGpuVerifier (nrasUrl serviceKey : String) (httpOptions : HttpOptions) :
    Prog Fault (RemoteWorld τ) (GpuVerifier (RemoteWorld τ)) := do
  let (verifier, i) ← env.initFromEnv gpuPath nrasUrl serviceKey httpOptions
  return env.gpuVerifier verifier i

/-- `NvRemoteSwitchVerifier::init_from_env`. -/
def remoteSwitchVerifier (nrasUrl serviceKey : String) (httpOptions : HttpOptions) :
    Prog Fault (RemoteWorld τ) (SwitchVerifier (RemoteWorld τ)) := do
  let (verifier, i) ← env.initFromEnv switchPath nrasUrl serviceKey httpOptions
  return env.switchVerifier verifier i

end RemoteEnv

section Verify
variable {lib : RemoteLib τ}

end Verify

section Context
variable {env : RemoteEnv τ} {platform : Platform (RemoteWorld τ)}
  {factories : Factories (RemoteWorld τ)} {decodeBlock : List Char → Option Bytes}
  {parse : String → Option Value} {files : FileSystem (RemoteWorld τ)}

/-- A call that hands over no verifier, and no source but the SDK's own. -/
def RemoteCall (decodeBlock : List Char → Option Bytes) (parse : String → Option Value)
    (files : FileSystem (RemoteWorld τ)) : Call (RemoteWorld τ) → Prop
  | .set setter => OwnParts decodeBlock parse files setter ∧
    setter.installs .gpuVerifier = false ∧ setter.installs .switchVerifier = false
  | .attest _ _ => True

theorem RemoteCall.own {call : Call (RemoteWorld τ)} (h : RemoteCall decodeBlock parse files call) :
    OwnCall decodeBlock parse files call := by
  cases call with
  | set setter => exact h.1
  | attest nonce wantEat => exact h

end Context

end AttestationSdk.Remote

namespace AttestationSdk.RemoteSample
open Json AttestationSdk.Claims AttestationSdk.Text AttestationSdk.Rim AttestationSdk.Eat
open AttestationSdk.Http AttestationSdk.Jwt AttestationSdk.Attestation AttestationSdk.Collect
open AttestationSdk.Gpu AttestationSdk.Switch AttestationSdk.Remote Effects Prog

def overallJson : Value := .obj [
  ("eat_nonce", .str "0aff"), ("exp", .int 3600), ("iat", .int 0), ("iss", .str "nras"),
  ("jti", .str "id"), ("sub", .str "all"), ("submods", .obj []),
  ("x-nvidia-overall-att-result", .bool true), ("x-nvidia-ver", .str "3.0")]

def parse (text : String) : Option Value :=
  if text = "header" then some (.obj [("kid", .str "k")])
  else if text = "overall" then some overallJson
  else if text = "answer" then some (.arr [.arr [.str "JWT", .str "all"], .obj []])
  else if text = "keys" then
    some (.obj [("keys", .arr [.obj [("kid", .str "k"), ("x5c", .arr [.str "pem"])]])])
  else none

/-- Every signature holds. -/
def lib : RemoteLib Unit where
  parse := parse
  decode token := if token = "all" then some ("header", "overall") else none
  acceptsKey _ := true
  verify _ _ := pure true
  nowMs := pure 1000000
  dump _ := some "request"
  sha256 _ := none
  mapOrder := ⟨id, fun entries => .refl entries⟩

/-- The service accepts what is posted and gives its keys where it is asked for them. -/
def service : HttpClient Unit :=
  ⟨fun request => pure (.Ok, httpStatusOk, if request.method = .POST then "answer" else "keys")⟩

def remoteEnv : RemoteEnv Unit where
  lib := lib
  createClient _ _ := pure service
  nrasBaseUrl := "nras"

def gpuSource : EvidenceSource (RemoteWorld Unit) GpuEvidence :=
  storedSource (·.nonce) .GpuEvidenceNonceMismatch [Evidence.sampleGpu]

def switchSource : EvidenceSource (RemoteWorld Unit) SwitchEvidence :=
  storedSource (·.nonce) .SwitchEvidenceNonceMismatch []

def files : FileSystem (RemoteWorld Unit) where
  pathExists _ := pure false
  pathIsDirectory _ := pure false
  readFileIntoString _ := pure none

def platform : Platform (RemoteWorld Unit) where
  x509 := samplePlatform.x509
  ocsp := default
  xml := samplePlatform.xml
  dump _ := none
  parse _ := none
  evaluatePolicy _ _ := none
  sha256 _ := none
  now := pure 0
  randBytes _ := pure none
  jwtSign _ _ _ := pure ""
  unsetStatus := samplePlatform.unsetStatus

def factories : Factories (RemoteWorld Unit) where
  remoteRimStore _ _ _ := pure ⟨fun _ out => pure (.RimNotFound, out)⟩
  httpOcspClient _ _ _ := pure ⟨fun _ out => pure (.InternalError, out)⟩
  remoteGpuVerifier := remoteEnv.remoteGpuVerifier
  remoteSwitchVerifier := remoteEnv.remoteSwitchVerifier
  nvmlEvidenceCollector := gpuSource
  nscqEvidenceCollector := switchSource

def httpOptions : HttpOptions where
  caBundlePath := ""
  caBundlePathTier := ""
  caBundlePathError := .Ok

/-- An attestation under the stored nonce, before and after the URL is set. -/
def calls : List (Call (RemoteWorld Unit)) :=
  [.attest [10, 255] false, .set (.defaultNrasUrl "nras"), .set (.deviceType nvatDeviceGpu)]

end AttestationSdk.RemoteSample
