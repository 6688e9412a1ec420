import AttestationSdk.Http
import AttestationSdk.LocalGpuVerifier
import AttestationSdk.LocalSwitchVerifier

/-! The attestation context: `attestation.cpp`. A null pointer is `none`. -/
namespace AttestationSdk.Attestation
open AttestationSdk.Claims AttestationSdk.ChainStatus AttestationSdk.Rim AttestationSdk.Eat
open AttestationSdk.LocalVerifier AttestationSdk.Gpu AttestationSdk.Switch AttestationSdk.Http Effects

inductive VerifierType where
  | Local | Remote
  deriving Repr, DecidableEq

/-- `IGpuEvidenceSource` and `ISwitchEvidenceSource`. -/
structure EvidenceSource (σ ι : Type) where
  getEvidence : Bytes → Prog Fault σ (List ι)

/-- `IGpuVerifier` and `ISwitchVerifier`: the local verifier, or any other. -/
inductive Verifier (σ ι L : Type) where
  | localVerifier (verifier : L)
  | other (verifyEvidence :
      List ι → EvidencePolicy → Bool → List DeviceClaims → Prog Fault σ Verification)

abbrev GpuVerifier (σ : Type) := Verifier σ GpuEvidence (LocalGpuVerifier σ)
abbrev SwitchVerifier (σ : Type) := Verifier σ SwitchEvidence (LocalSwitchVerifier σ)

/-- `IClaimsEvaluator`. -/
structure ClaimsEvaluator (σ : Type) where
  evaluateClaims : List DeviceClaims → Prog Fault σ Bool

structure AttestationContext (σ : Type) where
  defaultVerifierType : VerifierType := .Remote
  defaultHttpOptions : HttpOptions
  defaultOcspClient : Option (OcspClient σ) := none
  defaultOcspUrl : String := ""
  defaultRimStore : Option (RimStore σ) := none
  defaultRimStoreUrl : String := ""
  gpuEnabled : Bool := true
  gpuEvidenceSource : Option (EvidenceSource σ GpuEvidence) := none
  gpuVerifier : Option (GpuVerifier σ) := none
  switchEnabled : Bool := false
  switchEvidenceSource : Option (EvidenceSource σ SwitchEvidence) := none
  switchVerifier : Option (SwitchVerifier σ) := none
  defaultNrasUrl : String := ""
  evidencePolicy : EvidencePolicy := {}
  claimsEvaluator : Option (ClaimsEvaluator σ) := none
  eatOptions : DetachedEATOptions := {}
  serviceKey : String := ""

/-- The constructors that read the environment: URL, service key and HTTP options. -/
structure Factories (σ : Type) where
  remoteRimStore : String → String → HttpOptions → Prog Fault σ (RimStore σ)
  httpOcspClient : String → String → HttpOptions → Prog Fault σ (OcspClient σ)
  remoteGpuVerifier : String → String → HttpOptions → Prog Fault σ (GpuVerifier σ)
  remoteSwitchVerifier : String → String → HttpOptions → Prog Fault σ (SwitchVerifier σ)
  nvmlEvidenceCollector : EvidenceSource σ GpuEvidence
  nscqEvidenceCollector : EvidenceSource σ SwitchEvidence

section Init
variable {σ : Type} (factories : Factories σ)

/-- Fill a component of the context that is not there yet. -/
def ensure {α : Type} (get : AttestationContext σ → Option α)
    (set : AttestationContext σ → α → AttestationContext σ)
    (create : AttestationContext σ → Prog Fault σ α) : Prog Fault (AttestationContext σ × σ) Unit :=
  fun w => match get w.1 with
    | some _ => (.ok (), w)
    | none => match create w.1 w.2 with
      | (.ok a, s) => (.ok (), (set w.1 a, s))
      | (.error f, s) => (.error f, (w.1, s))

def ensureRimStore : Prog Fault (AttestationContext σ × σ) Unit :=
  ensure (·.defaultRimStore) (fun ctx store => { ctx with defaultRimStore := some store })
    fun ctx => factories.remoteRimStore ctx.defaultRimStoreUrl ctx.serviceKey ctx.defaultHttpOptions

def ensureOcspClient : Prog Fault (AttestationContext σ × σ) Unit :=
  ensure (·.defaultOcspClient) (fun ctx client => { ctx with defaultOcspClient := some client })
    fun ctx => factories.httpOcspClient ctx.defaultOcspUrl ctx.serviceKey ctx.defaultHttpOptions

def ensureGpuEvidenceSource : Prog Fault (AttestationContext σ × σ) Unit :=
  ensure (·.gpuEvidenceSource) (fun ctx source => { ctx with gpuEvidenceSource := some source })
    fun _ => pure factories.nvmlEvidenceCollector

def ensureSwitchEvidenceSource : Prog Fault (AttestationContext σ × σ) Unit :=
  ensure (·.switchEvidenceSource)
    (fun ctx source => { ctx with switchEvidenceSource := some source })
    fun _ => pure factories.nscqEvidenceCollector

/-- The default GPU verifier; `LocalGpuVerifier::create` refuses null components. -/
def createGpuVerifier (ctx : AttestationContext σ) : Prog Fault σ (GpuVerifier σ) :=
  match ctx.defaultVerifierType with
  | .Local => match ctx.defaultRimStore, ctx.defaultOcspClient with
    | some rimStore, some client => pure (.localVerifier ⟨rimStore, client, ctx.eatOptions⟩)
    | _, _ => Prog.fail (.code .BadArgument)
  | .Remote =>
    factories.remoteGpuVerifier ctx.defaultNrasUrl ctx.serviceKey ctx.defaultHttpOptions

def createSwitchVerifier (ctx : AttestationContext σ) : Prog Fault σ (SwitchVerifier σ) :=
  match ctx.defaultVerifierType with
  | .Local => match ctx.defaultRimStore, ctx.defaultOcspClient with
    | some rimStore, some client => pure (.localVerifier ⟨rimStore, client, ctx.eatOptions⟩)
    | _, _ => Prog.fail (.code .BadArgument)
  | .Remote =>
    factories.remoteSwitchVerifier ctx.defaultNrasUrl ctx.serviceKey ctx.defaultHttpOptions

def ensureGpuVerifier : Prog Fault (AttestationContext σ × σ) Unit :=
  ensure (·.gpuVerifier) (fun ctx verifier => { ctx with gpuVerifier := some verifier })
    (createGpuVerifier factories)

def ensureSwitchVerifier : Prog Fault (AttestationContext σ × σ) Unit :=
  ensure (·.switchVerifier) (fun ctx verifier => { ctx with switchVerifier := some verifier })
    (createSwitchVerifier factories)

/-- A step for a device kind that may be disabled. -/
def onlyIf (enabled : AttestationContext σ → Bool)
    (x : Prog Fault (AttestationContext σ × σ) Unit) : Prog Fault (AttestationContext σ × σ) Unit :=
  fun w => if enabled w.1 then x w else (.ok (), w)

/-- `ensure_init`. -/
def ensureInit : Prog Fault (AttestationContext σ × σ) Unit := do
  ensureRimStore factories
  ensureOcspClient factories
  onlyIf (·.gpuEnabled) (ensureGpuEvidenceSource factories)
  onlyIf (·.gpuEnabled) (ensureGpuVerifier factories)
  onlyIf (·.switchEnabled) (ensureSwitchEvidenceSource factories)
  onlyIf (·.switchEnabled) (ensureSwitchVerifier factories)

end Init

section Setters
variable {σ : Type}

/-- A line that several setters share. -/
def wipeVerifiers (ctx : AttestationContext σ) : AttestationContext σ :=
  { ctx with gpuVerifier := none, switchVerifier := none }

def nvatDeviceGpu : Nat := 0
def nvatDeviceNvswitch : Nat := 1

/-- `set_device_type`: an invalid type changes nothing. -/
def setDeviceType (deviceType : Nat) (ctx : AttestationContext σ) : AttestationContext σ :=
  if deviceType ≠ nvatDeviceGpu ∧ deviceType ≠ nvatDeviceNvswitch then ctx
  else { ctx with
    gpuEnabled := deviceType = nvatDeviceGpu
    switchEnabled := deviceType = nvatDeviceNvswitch }

def setVerifierType (verifierType : VerifierType) (ctx : AttestationContext σ) :
    AttestationContext σ :=
  { (if ctx.defaultVerifierType ≠ verifierType then wipeVerifiers ctx else ctx) with
    defaultVerifierType := verifierType }

def setDefaultHttpOptions (httpOptions : HttpOptions) (ctx : AttestationContext σ) :
    AttestationContext σ :=
  { ctx with defaultHttpOptions := httpOptions }

def setDefaultRimStoreUrl (url : String) (ctx : AttestationContext σ) : AttestationContext σ :=
  wipeVerifiers { ctx with defaultRimStoreUrl := url, defaultRimStore := none }

def setDefaultOcspUrl (url : String) (ctx : AttestationContext σ) : AttestationContext σ :=
  wipeVerifiers { ctx with defaultOcspUrl := url, defaultOcspClient := none }

def setDefaultNrasUrl (url : String) (ctx : AttestationContext σ) : AttestationContext σ :=
  wipeVerifiers { ctx with defaultNrasUrl := url }

def setDefaultRimStore (rimStore : Option (RimStore σ)) (ctx : AttestationContext σ) :
    AttestationContext σ :=
  wipeVerifiers { ctx with defaultRimStore := rimStore }

def setDefaultOcspClient (client : Option (OcspClient σ)) (ctx : AttestationContext σ) :
    AttestationContext σ :=
  wipeVerifiers { ctx with defaultOcspClient := client }

def setEvidencePolicy (policy : EvidencePolicy) (ctx : AttestationContext σ) :
    AttestationContext σ :=
  wipeVerifiers { ctx with evidencePolicy := policy }

def setClaimsEvaluator (evaluator : Option (ClaimsEvaluator σ)) (ctx : AttestationContext σ) :
    AttestationContext σ :=
  { ctx with claimsEvaluator := evaluator }

def setGpuEvidenceSource (source : Option (EvidenceSource σ GpuEvidence))
    (ctx : AttestationContext σ) : AttestationContext σ :=
  { ctx with gpuEvidenceSource := source }

def setSwitchEvidenceSource (source : Option (EvidenceSource σ SwitchEvidence))
    (ctx : AttestationContext σ) : AttestationContext σ :=
  { ctx with switchEvidenceSource := source }

/-- `set_gpu_evidence_source_json_file`, with what reading the file gives. -/
def setGpuEvidenceSourceJsonFile (created : Except Error (EvidenceSource σ GpuEvidence))
    (ctx : AttestationContext σ) : AttestationContext σ :=
  match created with
  | .error _ => ctx
  | .ok source => { ctx with gpuEvidenceSource := some source }

/-- `set_switch_evidence_source_json_file`, with what reading the file gives. -/
def setSwitchEvidenceSourceJsonFile (created : Except Error (EvidenceSource σ SwitchEvidence))
    (ctx : AttestationContext σ) : AttestationContext σ :=
  match created with
  | .error _ => ctx
  | .ok source => { ctx with switchEvidenceSource := some source }

def setGpuVerifier (verifier : Option (GpuVerifier σ)) (ctx : AttestationContext σ) :
    AttestationContext σ :=
  { ctx with gpuVerifier := verifier }

def setSwitchVerifier (verifier : Option (SwitchVerifier σ)) (ctx : AttestationContext σ) :
    AttestationContext σ :=
  { ctx with switchVerifier := verifier }

def setDetachedEatOptions (options : DetachedEATOptions) (ctx : AttestationContext σ) :
    AttestationContext σ :=
  wipeVerifiers { ctx with eatOptions := options }

def setServiceKey (serviceKey : String) (ctx : AttestationContext σ) : AttestationContext σ :=
  wipeVerifiers { ctx with serviceKey, defaultRimStore := none, defaultOcspClient := none }

end Setters

section Attest
variable {σ : Type} (env : Platform σ) (factories : Factories σ)

def verifyGpuEvidence : GpuVerifier σ → List GpuEvidence → EvidencePolicy → Bool →
    List DeviceClaims → Prog Fault σ Verification
  | .localVerifier verifier => verifier.verifyEvidence env
  | .other verifyEvidence => verifyEvidence

def verifySwitchEvidence : SwitchVerifier σ → List SwitchEvidence → EvidencePolicy → Bool →
    List DeviceClaims → Prog Fault σ Verification
  | .localVerifier verifier => verifier.verifyEvidence env
  | .other verifyEvidence => verifyEvidence

/-- `attest_gpus`, after `ensure_init` and with an empty collection. -/
def attestGpus (ctx : AttestationContext σ) (nonce : Bytes) (wantEat : Bool) :
    Prog Fault σ Verification :=
  match ctx.gpuEvidenceSource, ctx.gpuVerifier with
  | some source, some verifier => do
    let evidence ← source.getEvidence nonce
    verifyGpuEvidence env verifier evidence ctx.evidencePolicy wantEat []
  | _, _ => Prog.fail .undefined

/-- `attest_switches`. -/
def attestSwitches (ctx : AttestationContext σ) (nonce : Bytes) (wantEat : Bool) :
    Prog Fault σ Verification :=
  match ctx.switchEvidenceSource, ctx.switchVerifier with
  | some source, some verifier => do
    let evidence ← source.getEvidence nonce
    verifySwitchEvidence env verifier evidence ctx.evidencePolicy wantEat []
  | _, _ => Prog.fail .undefined

def gpuSpdmReqNonceSize : Nat := 32

/-- An empty nonce is replaced by a fresh one. -/
def chooseNonce (nonce : Bytes) : Prog Fault σ Bytes :=
  if nonce.isEmpty then generateNonce env gpuSpdmReqNonceSize else pure nonce

/-- The devices of the enabled kind; GPUs go first. -/
def attestEnabled (ctx : AttestationContext σ) (nonce : Bytes) (wantEat : Bool) :
    Prog Fault σ Verification :=
  if ctx.gpuEnabled then attestGpus env ctx nonce wantEat
  else if ctx.switchEnabled then attestSwitches env ctx nonce wantEat
  else Prog.fail (.code .InternalError)

/-- The return code with the claims and the token it comes with. -/
structure Attestation where
  rc : Error
  claims : List DeviceClaims
  detachedEat : Option String
  deriving Repr, DecidableEq

/-- The end of `attest_device`: a relying party's policy overrules the overall result. -/
def decideVerdict (evaluator : Option (ClaimsEvaluator σ)) (v : Verification) :
    Prog Fault σ Attestation :=
  match evaluator with
  | none => pure ⟨if v.overallResult then .Ok else .OverallResultFalse, v.claims, v.detachedEat⟩
  | some evaluator => do
    let policyMatch ← evaluator.evaluateClaims v.claims
    return ⟨if policyMatch then .Ok else .RelyingPartyPolicyMismatch, v.claims, v.detachedEat⟩

/-- `attest_device`; `wantEat` tells whether `out_detached_eat` is given. -/
def attestDevice (nonce : Bytes) (wantEat : Bool) :
    Prog Fault (AttestationContext σ × σ) Attestation := do
  ensureInit factories
  let nonce ← Prog.onSecond (chooseNonce env nonce)
  let ctx ← Prog.liftFirst fun ctx => (.ok ctx, ctx)
  let v ← Prog.onSecond (attestEnabled env ctx nonce wantEat)
  Prog.onSecond (decideVerdict ctx.claimsEvaluator v)

end Attest

end AttestationSdk.Attestation
