import AttestationSdk.AttestVerdict
import AttestationSdk.LazySlot

/-! Whether an attestation freezes the configuration of its context. -/
namespace AttestationSdk.Attestation
open AttestationSdk.ChainStatus AttestationSdk.Rim AttestationSdk.Eat AttestationSdk.Gpu
open AttestationSdk.Switch AttestationSdk.Http LazySlot Effects Prog
variable {σ : Type}

/-- A call of a setter with its argument. -/
inductive Setter (σ : Type) where
  | verifierType (type : VerifierType)
  | deviceType (type : Nat)
  | defaultHttpOptions (httpOptions : HttpOptions)
  | defaultRimStoreUrl (url : String)
  | defaultOcspUrl (url : String)
  | defaultNrasUrl (url : String)
  | defaultRimStore (rimStore : Option (RimStore σ))
  | defaultOcspClient (client : Option (OcspClient σ))
  | evidencePolicy (policy : EvidencePolicy)
  | claimsEvaluator (evaluator : Option (ClaimsEvaluator σ))
  | gpuEvidenceSource (source : Option (EvidenceSource σ GpuEvidence))
  | switchEvidenceSource (source : Option (EvidenceSource σ SwitchEvidence))
  | gpuEvidenceSourceJsonFile (created : Except Error (EvidenceSource σ GpuEvidence))
  | switchEvidenceSourceJsonFile (created : Except Error (EvidenceSource σ SwitchEvidence))
  | gpuVerifier (verifier : Option (GpuVerifier σ))
  | switchVerifier (verifier : Option (SwitchVerifier σ))
  | detachedEatOptions (options : DetachedEATOptions)
  | serviceKey (key : String)

def Setter.apply : Setter σ → AttestationContext σ → AttestationContext σ
  | .verifierType type => setVerifierType type
  | .deviceType type => setDeviceType type
  | .defaultHttpOptions httpOptions => setDefaultHttpOptions httpOptions
  | .defaultRimStoreUrl url => setDefaultRimStoreUrl url
  | .defaultOcspUrl url => setDefaultOcspUrl url
  | .defaultNrasUrl url => setDefaultNrasUrl url
  | .defaultRimStore rimStore => setDefaultRimStore rimStore
  | .defaultOcspClient client => setDefaultOcspClient client
  | .evidencePolicy policy => setEvidencePolicy policy
  | .claimsEvaluator evaluator => setClaimsEvaluator evaluator
  | .gpuEvidenceSource source => setGpuEvidenceSource source
  | .switchEvidenceSource source => setSwitchEvidenceSource source
  | .gpuEvidenceSourceJsonFile created => setGpuEvidenceSourceJsonFile created
  | .switchEvidenceSourceJsonFile created => setSwitchEvidenceSourceJsonFile created
  | .gpuVerifier verifier => setGpuVerifier verifier
  | .switchVerifier verifier => setSwitchVerifier verifier
  | .detachedEatOptions options => setDetachedEatOptions options
  | .serviceKey key => setServiceKey key

/-- A call on a context. -/
inductive Call (σ : Type) where
  | set (setter : Setter σ)
  | attest (nonce : Bytes) (wantEat : Bool)

section Calls
variable (env : Platform σ) (factories : Factories σ)

/-- The context and the system after a call; an attestation may fail. -/
def Call.run : Call σ → AttestationContext σ × σ → AttestationContext σ × σ
  | .set setter, w => (setter.apply w.1, w.2)
  | .attest nonce wantEat, w => (attestDevice env factories nonce wantEat w).2

/-- The context of a call where no attestation is made. -/
def Call.runFresh : Call σ → AttestationContext σ → AttestationContext σ
  | .set setter, ctx => setter.apply ctx
  | .attest _ _, ctx => ctx

def runCalls (calls : List (Call σ)) (w : AttestationContext σ × σ) : AttestationContext σ × σ :=
  calls.foldl (fun w call => call.run env factories w) w

def runFresh (calls : List (Call σ)) (ctx : AttestationContext σ) : AttestationContext σ :=
  calls.foldl (fun ctx call => call.runFresh ctx) ctx

/-- What an attestation works with. -/
structure Components (σ : Type) where
  rimStore : Option (RimStore σ)
  ocspClient : Option (OcspClient σ)
  gpuVerifier : Option (GpuVerifier σ)
  switchVerifier : Option (SwitchVerifier σ)

def componentsOf (ctx : AttestationContext σ) : Components σ where
  rimStore := ctx.defaultRimStore
  ocspClient := ctx.defaultOcspClient
  gpuVerifier := if ctx.gpuEnabled then ctx.gpuVerifier else none
  switchVerifier := if ctx.switchEnabled then ctx.switchVerifier else none

/-- The components that `attest_device` uses in a context, or why it has none. -/
def usedComponents (ctx : AttestationContext σ) (s : σ) : Except Fault (Components σ) :=
  match ensureInit factories (ctx, s) with
  | (.error f, _) => .error f
  | (.ok (), w) => .ok (componentsOf w.1)

end Calls

/-- The environment that the constructors read does not change. -/
structure SteadyEnvironment (factories : Factories σ) : Prop where
  remoteRimStore : ∀ url key options, Steady (factories.remoteRimStore url key options)
  httpOcspClient : ∀ url key options, Steady (factories.httpOcspClient url key options)
  remoteGpuVerifier : ∀ url key options, Steady (factories.remoteGpuVerifier url key options)
  remoteSwitchVerifier : ∀ url key options, Steady (factories.remoteSwitchVerifier url key options)

/-- No attestation has left a component that was built with the HTTP options. -/
def NoneBuilt (ctx fresh : AttestationContext σ) : Prop :=
  (ctx.defaultRimStore.isSome → fresh.defaultRimStore.isSome) ∧
  (ctx.defaultOcspClient.isSome → fresh.defaultOcspClient.isSome) ∧
  (ctx.defaultVerifierType = .Remote →
    (ctx.gpuVerifier.isSome → fresh.gpuVerifier.isSome) ∧
    (ctx.switchVerifier.isSome → fresh.switchVerifier.isSome))

/-- A call that does not change the HTTP options under a component built with them. -/
def Call.Safe (ctx fresh : AttestationContext σ) : Call σ → Prop
  | .set (.defaultHttpOptions httpOptions) =>
    httpOptions = ctx.defaultHttpOptions ∨ NoneBuilt ctx fresh
  | _ => True

/-- Every call is safe where it is made. -/
def AllSafe (env : Platform σ) (factories : Factories σ) :
    List (Call σ) → AttestationContext σ × σ → AttestationContext σ → Prop
  | [], _, _ => True
  | call :: rest, w, fresh =>
    call.Safe w.1 fresh ∧ AllSafe env factories rest (call.run env factories w) (call.runFresh fresh)

section Plans
variable (factories : Factories σ) (s₀ : σ)

def rimBuild (fresh : AttestationContext σ) : Except Fault (RimStore σ) :=
  (factories.remoteRimStore fresh.defaultRimStoreUrl fresh.serviceKey fresh.defaultHttpOptions s₀).1

def ocspBuild (fresh : AttestationContext σ) : Except Fault (OcspClient σ) :=
  (factories.httpOcspClient fresh.defaultOcspUrl fresh.serviceKey fresh.defaultHttpOptions s₀).1

/-- What the constructors of the verifiers read. -/
def readByVerifiers (ctx : AttestationContext σ) : AttestationContext σ where
  defaultVerifierType := ctx.defaultVerifierType
  defaultHttpOptions := ctx.defaultHttpOptions
  defaultOcspClient := ctx.defaultOcspClient
  defaultRimStore := ctx.defaultRimStore
  defaultNrasUrl := ctx.defaultNrasUrl
  eatOptions := ctx.eatOptions
  serviceKey := ctx.serviceKey

/-- The same with the store and the client of the next attestation. -/
def equipped (fresh : AttestationContext σ) : Except Fault (AttestationContext σ) := do
  let rimStore ← planOf fresh.defaultRimStore (rimBuild factories s₀ fresh)
  let client ← planOf fresh.defaultOcspClient (ocspBuild factories s₀ fresh)
  return readByVerifiers { fresh with
    defaultRimStore := some rimStore, defaultOcspClient := some client }

def gpuBuild (fresh : AttestationContext σ) : Except Fault (GpuVerifier σ) := do
  let ctx ← equipped factories s₀ fresh
  (createGpuVerifier factories ctx s₀).1

def switchBuild (fresh : AttestationContext σ) : Except Fault (SwitchVerifier σ) := do
  let ctx ← equipped factories s₀ fresh
  (createSwitchVerifier factories ctx s₀).1

/-- The settings are those of the context without attestations, and what is held beyond it is what
would be built now. -/
structure Follows (ctx fresh : AttestationContext σ) : Prop where
  settings : ctx = { fresh with
    defaultRimStore := ctx.defaultRimStore
    defaultOcspClient := ctx.defaultOcspClient
    gpuVerifier := ctx.gpuVerifier
    switchVerifier := ctx.switchVerifier
    gpuEvidenceSource := ctx.gpuEvidenceSource
    switchEvidenceSource := ctx.switchEvidenceSource }
  rim : Slot ctx.defaultRimStore fresh.defaultRimStore (rimBuild factories s₀ fresh)
  ocsp : Slot ctx.defaultOcspClient fresh.defaultOcspClient (ocspBuild factories s₀ fresh)
  gpu : Slot ctx.gpuVerifier fresh.gpuVerifier (gpuBuild factories s₀ fresh)
  switch : Slot ctx.switchVerifier fresh.switchVerifier (switchBuild factories s₀ fresh)
  /-- A built verifier has a store and a client beside it. -/
  equipped : ctx.gpuVerifier.isSome ∧ fresh.gpuVerifier = none ∨
    ctx.switchVerifier.isSome ∧ fresh.switchVerifier = none →
    ctx.defaultRimStore.isSome ∧ ctx.defaultOcspClient.isSome

end Plans

section Preserved
variable {factories : Factories σ} {s₀ : σ} {ctx fresh : AttestationContext σ}

theorem Follows.refl (ctx : AttestationContext σ) : Follows factories s₀ ctx ctx := by
  refine ⟨rfl, .refl _ _, .refl _ _, .refl _ _, .refl _ _, ?_⟩
  rintro (⟨hsome, hnone⟩ | ⟨hsome, hnone⟩)
  · rw [hnone] at hsome
    cases hsome
  · rw [hnone] at hsome
    cases hsome

/-- Wiping the verifiers leaves the store and the client to compare. -/
theorem Follows.wiped {ctx' fresh' : AttestationContext σ}
    (hsettings : ctx' = { fresh' with
      defaultRimStore := ctx'.defaultRimStore
      defaultOcspClient := ctx'.defaultOcspClient
      gpuVerifier := ctx'.gpuVerifier
      switchVerifier := ctx'.switchVerifier
      gpuEvidenceSource := ctx'.gpuEvidenceSource
      switchEvidenceSource := ctx'.switchEvidenceSource })
    (hrim : Slot ctx'.defaultRimStore fresh'.defaultRimStore (rimBuild factories s₀ fresh'))
    (hocsp : Slot ctx'.defaultOcspClient fresh'.defaultOcspClient (ocspBuild factories s₀ fresh')) :
    Follows factories s₀ (wipeVerifiers ctx') (wipeVerifiers fresh') := by
  refine ⟨congrArg wipeVerifiers hsettings, hrim, hocsp, .refl _ _, .refl _ _, ?_⟩
  rintro (⟨hsome, -⟩ | ⟨hsome, -⟩)
  · cases hsome
  · cases hsome

/-- Over a given store and client a local verifier does not depend on the HTTP options. -/
theorem equipped_given {rimStore : RimStore σ} {client : OcspClient σ}
    (hrim : fresh.defaultRimStore = some rimStore) (hocsp : fresh.defaultOcspClient = some client) :
    equipped factories s₀ fresh = .ok (readByVerifiers fresh) := by
  rw [equipped, hrim, hocsp]
  simp only [planOf_some, ExceptRules.ok_bind, ExceptRules.pure_eq_ok, readByVerifiers, hrim, hocsp]

theorem gpuBuild_given {rimStore : RimStore σ} {client : OcspClient σ}
    (htype : fresh.defaultVerifierType = .Local) (hrim : fresh.defaultRimStore = some rimStore)
    (hocsp : fresh.defaultOcspClient = some client) :
    gpuBuild factories s₀ fresh = .ok (.localVerifier ⟨rimStore, client, fresh.eatOptions⟩) := by
  rw [gpuBuild, equipped_given hrim hocsp, ExceptRules.ok_bind]
  simp only [createGpuVerifier, readByVerifiers, htype, hrim, hocsp]
  rfl

theorem switchBuild_given {rimStore : RimStore σ} {client : OcspClient σ}
    (htype : fresh.defaultVerifierType = .Local) (hrim : fresh.defaultRimStore = some rimStore)
    (hocsp : fresh.defaultOcspClient = some client) :
    switchBuild factories s₀ fresh = .ok (.localVerifier ⟨rimStore, client, fresh.eatOptions⟩) := by
  rw [switchBuild, equipped_given hrim hocsp, ExceptRules.ok_bind]
  simp only [createSwitchVerifier, readByVerifiers, htype, hrim, hocsp]
  rfl

theorem Follows.setHttpOptions {httpOptions : HttpOptions} (h : Follows factories s₀ ctx fresh)
    (hsafe : httpOptions = ctx.defaultHttpOptions ∨ NoneBuilt ctx fresh) :
    Follows factories s₀ (setDefaultHttpOptions httpOptions ctx)
      (setDefaultHttpOptions httpOptions fresh) := by
  have hset := h.settings
  have htype : ctx.defaultVerifierType = fresh.defaultVerifierType := by rw [hset]
  have hoptions : ctx.defaultHttpOptions = fresh.defaultHttpOptions := by rw [hset]
  cases hsafe with
  | inl hsame =>
    have hctx : setDefaultHttpOptions httpOptions ctx = ctx := by rw [hsame]; rfl
    have hfresh : setDefaultHttpOptions httpOptions fresh = fresh := by rw [hsame, hoptions]; rfl
    rw [hctx, hfresh]
    exact h
  | inr hnone =>
    obtain ⟨hrim, hocsp, hremote⟩ := hnone
    -- a verifier that was built here is a local one over a given store and client
    have hgiven (hbuilt : ctx.gpuVerifier.isSome ∧ fresh.gpuVerifier = none ∨
        ctx.switchVerifier.isSome ∧ fresh.switchVerifier = none) :
        fresh.defaultVerifierType = .Local ∧ ∃ rimStore client,
          fresh.defaultRimStore = some rimStore ∧ fresh.defaultOcspClient = some client := by
      obtain ⟨hrimHeld, hocspHeld⟩ := h.equipped hbuilt
      obtain ⟨rimStore, hrimStore⟩ := Option.isSome_iff_exists.mp (hrim hrimHeld)
      obtain ⟨client, hclient⟩ := Option.isSome_iff_exists.mp (hocsp hocspHeld)
      refine ⟨?_, rimStore, client, hrimStore, hclient⟩
      cases hkind : fresh.defaultVerifierType with
      | Local => rfl
      | Remote =>
        obtain ⟨hgpu, hswitch⟩ := hremote (htype.trans hkind)
        cases hbuilt with
        | inl hbuilt =>
          have hsome := hgpu hbuilt.1
          rw [hbuilt.2] at hsome
          cases hsome
        | inr hbuilt =>
          have hsome := hswitch hbuilt.1
          rw [hbuilt.2] at hsome
          cases hsome
    refine ⟨congrArg (setDefaultHttpOptions httpOptions) hset, h.rim.rebuild hrim,
      h.ocsp.rebuild hocsp, ?_, ?_, h.equipped⟩
    · by_cases hbuilt : ctx.gpuVerifier.isSome ∧ fresh.gpuVerifier = none
      · obtain ⟨hlocal, rimStore, client, hrimStore, hclient⟩ := hgiven (.inl hbuilt)
        have hsame : gpuBuild factories s₀ (setDefaultHttpOptions httpOptions fresh) =
            gpuBuild factories s₀ fresh :=
          Eq.trans (gpuBuild_given hlocal hrimStore hclient)
            (gpuBuild_given hlocal hrimStore hclient).symm
        rw [hsame]
        exact h.gpu
      · refine h.gpu.rebuild fun hheld => ?_
        rw [Option.isSome_iff_ne_none]
        exact fun hfresh => hbuilt ⟨hheld, hfresh⟩
    · by_cases hbuilt : ctx.switchVerifier.isSome ∧ fresh.switchVerifier = none
      · obtain ⟨hlocal, rimStore, client, hrimStore, hclient⟩ := hgiven (.inr hbuilt)
        have hsame : switchBuild factories s₀ (setDefaultHttpOptions httpOptions fresh) =
            switchBuild factories s₀ fresh :=
          Eq.trans (switchBuild_given hlocal hrimStore hclient)
            (switchBuild_given hlocal hrimStore hclient).symm
        rw [hsame]
        exact h.switch
      · refine h.switch.rebuild fun hheld => ?_
        rw [Option.isSome_iff_ne_none]
        exact fun hfresh => hbuilt ⟨hheld, hfresh⟩

theorem setVerifierType_same (ctx : AttestationContext σ) :
    setVerifierType ctx.defaultVerifierType ctx = ctx := by
  rw [setVerifierType, if_neg (not_not.mpr rfl)]

theorem setVerifierType_new {type : VerifierType} (h : ctx.defaultVerifierType ≠ type) :
    setVerifierType type ctx = wipeVerifiers { ctx with defaultVerifierType := type } := by
  rw [setVerifierType, if_pos h]
  rfl

theorem Follows.apply {setter : Setter σ} (h : Follows factories s₀ ctx fresh)
    (hsafe : (Call.set setter).Safe ctx fresh) :
    Follows factories s₀ (setter.apply ctx) (setter.apply fresh) := by
  have hset := h.settings
  cases setter with
  | verifierType type =>
    have htype : ctx.defaultVerifierType = fresh.defaultVerifierType := by
      rw [hset]
    change Follows factories s₀ (setVerifierType type ctx) (setVerifierType type fresh)
    by_cases hsame : ctx.defaultVerifierType = type
    · have hctx : setVerifierType type ctx = ctx := by
        rw [← hsame]
        exact setVerifierType_same ctx
      have hfresh : setVerifierType type fresh = fresh := by
        rw [← hsame, htype]
        exact setVerifierType_same fresh
      rw [hctx, hfresh]
      exact h
    · have hfresh : fresh.defaultVerifierType ≠ type := htype ▸ hsame
      rw [setVerifierType_new hsame, setVerifierType_new hfresh]
      exact .wiped (congrArg (fun c => { c with defaultVerifierType := type }) hset) h.rim h.ocsp
  | deviceType type =>
    change Follows factories s₀ (setDeviceType type ctx) (setDeviceType type fresh)
    rw [setDeviceType, setDeviceType]
    split
    · exact h
    · exact ⟨congrArg (fun c => { c with
        gpuEnabled := type = nvatDeviceGpu, switchEnabled := type = nvatDeviceNvswitch }) hset,
        h.rim, h.ocsp, h.gpu, h.switch, h.equipped⟩
  | defaultHttpOptions httpOptions => exact h.setHttpOptions hsafe
  | defaultRimStoreUrl url =>
    exact .wiped (congrArg (fun c => { c with defaultRimStoreUrl := url, defaultRimStore := none })
      hset) (.refl _ _) h.ocsp
  | defaultOcspUrl url =>
    exact .wiped (congrArg (fun c => { c with defaultOcspUrl := url, defaultOcspClient := none })
      hset) h.rim (.refl _ _)
  | defaultNrasUrl url =>
    exact .wiped (congrArg (fun c => { c with defaultNrasUrl := url }) hset) h.rim h.ocsp
  | defaultRimStore rimStore =>
    exact .wiped (congrArg (fun c => { c with defaultRimStore := rimStore }) hset) (.refl _ _) h.ocsp
  | defaultOcspClient client =>
    exact .wiped (congrArg (fun c => { c with defaultOcspClient := client }) hset) h.rim (.refl _ _)
  | evidencePolicy policy =>
    exact .wiped (congrArg (fun c => { c with evidencePolicy := policy }) hset) h.rim h.ocsp
  | claimsEvaluator evaluator =>
    exact ⟨congrArg (setClaimsEvaluator evaluator) hset, h.rim, h.ocsp, h.gpu, h.switch, h.equipped⟩
  | gpuEvidenceSource source =>
    exact ⟨congrArg (setGpuEvidenceSource source) hset, h.rim, h.ocsp, h.gpu, h.switch, h.equipped⟩
  | switchEvidenceSource source =>
    exact ⟨congrArg (setSwitchEvidenceSource source) hset, h.rim, h.ocsp, h.gpu, h.switch,
      h.equipped⟩
  | gpuEvidenceSourceJsonFile created =>
    cases created with
    | error e => exact h
    | ok source =>
      exact ⟨congrArg (setGpuEvidenceSource (some source)) hset, h.rim, h.ocsp, h.gpu, h.switch,
        h.equipped⟩
  | switchEvidenceSourceJsonFile created =>
    cases created with
    | error e => exact h
    | ok source =>
      exact ⟨congrArg (setSwitchEvidenceSource (some source)) hset, h.rim, h.ocsp, h.gpu, h.switch,
        h.equipped⟩
  | gpuVerifier verifier =>
    refine ⟨congrArg (setGpuVerifier verifier) hset, h.rim, h.ocsp, .refl _ _, h.switch, ?_⟩
    rintro (⟨hsome, hnone⟩ | hswitch)
    · rw [show verifier = none from hnone] at hsome
      cases hsome
    · exact h.equipped (.inr hswitch)
  | switchVerifier verifier =>
    refine ⟨congrArg (setSwitchVerifier verifier) hset, h.rim, h.ocsp, h.gpu, .refl _ _, ?_⟩
    rintro (hgpu | ⟨hsome, hnone⟩)
    · exact h.equipped (.inl hgpu)
    · rw [show verifier = none from hnone] at hsome
      cases hsome
  | detachedEatOptions options =>
    exact .wiped (congrArg (fun c => { c with eatOptions := options }) hset) h.rim h.ocsp
  | serviceKey key =>
    exact .wiped (congrArg (fun c => { c with
      serviceKey := key, defaultRimStore := none, defaultOcspClient := none }) hset)
      (.refl _ _) (.refl _ _)

/-- A step of `ensure_init` in every context that follows `fresh`: its outcome and what the context
has after it. -/
def Realizes (factories : Factories σ) (s₀ : σ) (fresh : AttestationContext σ)
    (x : Prog Fault (AttestationContext σ × σ) Unit) (plan : Except Fault Unit)
    (pre post : AttestationContext σ → Prop) : Prop :=
  ∀ ctx s, Follows factories s₀ ctx fresh → pre ctx →
    (x (ctx, s)).1 = plan ∧ Follows factories s₀ (x (ctx, s)).2.1 fresh ∧
      (plan = .ok () → post (x (ctx, s)).2.1)

/-- The outcome of a step for a device kind that may be disabled. -/
def planIf (enabled : Bool) (plan : Except Fault Unit) : Except Fault Unit :=
  if enabled then plan else .ok ()

section Steps
variable {pre mid post : AttestationContext σ → Prop}
  {x y : Prog Fault (AttestationContext σ × σ) Unit} {p q : Except Fault Unit}

theorem Realizes.bind (hx : Realizes factories s₀ fresh x p pre mid)
    (hy : Realizes factories s₀ fresh y q mid post) :
    Realizes factories s₀ fresh (x >>= fun _ => y) (p >>= fun _ => q) pre post := by
  intro ctx s hfollows hpre
  cases hrun : x (ctx, s) with
  | mk outcome w =>
    have hstep := hx ctx s hfollows hpre
    rw [hrun] at hstep
    cases hstep with
    | intro houtcome hafter =>
      cases outcome with
      | error f =>
        rw [bind_of_error hrun, ← houtcome]
        exact ⟨rfl, hafter.1, nofun⟩
      | ok u =>
        rw [bind_of_ok hrun, ← houtcome]
        exact hy w.1 w.2 hafter.1 (hafter.2 houtcome.symm)

theorem Realizes.onlyIf {enabled : AttestationContext σ → Bool}
    (hx : Realizes factories s₀ fresh x p pre post)
    (henabled : ∀ ctx, Follows factories s₀ ctx fresh → enabled ctx = enabled fresh)
    (hskip : enabled fresh = false → ∀ ctx, Follows factories s₀ ctx fresh → pre ctx → post ctx) :
    Realizes factories s₀ fresh (Attestation.onlyIf enabled x) (planIf (enabled fresh) p)
      pre post := by
  intro ctx s hfollows hpre
  have hrun : Attestation.onlyIf enabled x (ctx, s) =
      if enabled fresh then x (ctx, s) else (.ok (), (ctx, s)) := by
    rw [← henabled ctx hfollows]
    rfl
  rw [hrun]
  cases hon : enabled fresh with
  | true => exact hx ctx s hfollows hpre
  | false => exact ⟨rfl, hfollows, fun _ => hskip hon ctx hfollows hpre⟩

/-- A component is there already or is built as planned. -/
theorem Realizes.ensure {α : Type} {get : AttestationContext σ → Option α}
    {set : AttestationContext σ → α → AttestationContext σ}
    {create : AttestationContext σ → Prog Fault σ α} {build : Except Fault α}
    (hslot : ∀ ctx, Follows factories s₀ ctx fresh → Slot (get ctx) (get fresh) build)
    (hcreate : ∀ ctx s, Follows factories s₀ ctx fresh → pre ctx → (create ctx s).1 = build)
    (hkept : ∀ ctx, pre ctx → (get ctx).isSome → post ctx)
    (hset : ∀ ctx a, Follows factories s₀ ctx fresh → pre ctx → get ctx = none → build = .ok a →
      Follows factories s₀ (set ctx a) fresh ∧ post (set ctx a)) :
    Realizes factories s₀ fresh (Attestation.ensure get set create)
      ((planOf (get fresh) build).map fun _ => ()) pre post := by
  intro ctx s hfollows hpre
  have hheld := hslot ctx hfollows
  rw [Attestation.ensure]
  cases hget : get ctx with
  | some a =>
    rw [hget] at hheld
    rw [hheld.planned a rfl]
    refine ⟨rfl, hfollows, fun _ => hkept ctx hpre ?_⟩
    rw [hget]
    rfl
  | none =>
    rw [hheld.given_held hget, planOf_none]
    have hbuild := hcreate ctx s hfollows hpre
    cases hrun : create ctx s with
    | mk outcome s' =>
      rw [hrun] at hbuild
      cases outcome with
      | error f =>
        rw [← hbuild]
        exact ⟨rfl, hfollows, fun hplan => by cases hplan⟩
      | ok a =>
        have hafter := hset ctx a hfollows hpre hget hbuild.symm
        rw [← hbuild]
        exact ⟨rfl, hafter.1, fun _ => hafter.2⟩

end Steps

def HasRimStore (ctx : AttestationContext σ) : Prop := ctx.defaultRimStore.isSome

def HasServices (ctx : AttestationContext σ) : Prop :=
  HasRimStore ctx ∧ ctx.defaultOcspClient.isSome

def HasGpuVerifier (ctx : AttestationContext σ) : Prop :=
  HasServices ctx ∧ (ctx.gpuEnabled → ctx.gpuVerifier.isSome)

def HasVerifiers (ctx : AttestationContext σ) : Prop :=
  HasGpuVerifier ctx ∧ (ctx.switchEnabled → ctx.switchVerifier.isSome)

section Ensured
variable (henv : SteadyEnvironment factories)
include henv

theorem ensureRimStore_realizes (fresh : AttestationContext σ) :
    Realizes factories s₀ fresh (ensureRimStore factories)
      ((planOf fresh.defaultRimStore (rimBuild factories s₀ fresh)).map fun _ => ())
      (fun _ => True) HasRimStore := by
  apply Realizes.ensure
  · exact fun ctx h => h.rim
  · intro ctx s h _
    have hset := h.settings
    rw [hset]
    exact henv.remoteRimStore _ _ _ _ _
  · exact fun ctx _ hheld => hheld
  · intro ctx store h _ hget hbuild
    refine ⟨⟨?_, ?_, h.ocsp, h.gpu, h.switch, fun hbuilt => ⟨rfl, (h.equipped hbuilt).2⟩⟩, rfl⟩
    · exact congrArg (fun c => { c with defaultRimStore := some store }) h.settings
    · rw [h.rim.given_held hget]
      exact .fill hbuild

theorem ensureOcspClient_realizes (fresh : AttestationContext σ) :
    Realizes factories s₀ fresh (ensureOcspClient factories)
      ((planOf fresh.defaultOcspClient (ocspBuild factories s₀ fresh)).map fun _ => ())
      HasRimStore HasServices := by
  apply Realizes.ensure
  · exact fun ctx h => h.ocsp
  · intro ctx s h _
    have hset := h.settings
    rw [hset]
    exact henv.httpOcspClient _ _ _ _ _
  · exact fun ctx hpre hheld => ⟨hpre, hheld⟩
  · intro ctx client h hpre hget hbuild
    refine ⟨⟨?_, h.rim, ?_, h.gpu, h.switch, fun hbuilt => ⟨(h.equipped hbuilt).1, rfl⟩⟩, hpre, rfl⟩
    · exact congrArg (fun c => { c with defaultOcspClient := some client }) h.settings
    · rw [h.ocsp.given_held hget]
      exact .fill hbuild

theorem createGpuVerifier_steady (ctx : AttestationContext σ) :
    Steady (createGpuVerifier factories ctx) := by
  intro s s'
  rw [createGpuVerifier]
  cases ctx.defaultVerifierType with
  | Local =>
    cases ctx.defaultRimStore with
    | none => rfl
    | some rimStore =>
      cases ctx.defaultOcspClient with
      | none => rfl
      | some client => rfl
  | Remote => exact henv.remoteGpuVerifier _ _ _ _ _

theorem createSwitchVerifier_steady (ctx : AttestationContext σ) :
    Steady (createSwitchVerifier factories ctx) := by
  intro s s'
  rw [createSwitchVerifier]
  cases ctx.defaultVerifierType with
  | Local =>
    cases ctx.defaultRimStore with
    | none => rfl
    | some rimStore =>
      cases ctx.defaultOcspClient with
      | none => rfl
      | some client => rfl
  | Remote => exact henv.remoteSwitchVerifier _ _ _ _ _

omit henv in
/-- With a store and a client held, the verifiers are built from what is held. -/
theorem Follows.equipped_eq (h : Follows factories s₀ ctx fresh) (hpre : HasServices ctx) :
    Attestation.equipped factories s₀ fresh = .ok (readByVerifiers ctx) := by
  cases Option.isSome_iff_exists.mp hpre.1 with
  | intro rimStore hrim =>
    cases Option.isSome_iff_exists.mp hpre.2 with
    | intro client hclient =>
      rw [Attestation.equipped, h.rim.planned rimStore hrim, h.ocsp.planned client hclient,
        ExceptRules.ok_bind, ExceptRules.ok_bind, ← hrim, ← hclient]
      have hread := congrArg readByVerifiers h.settings
      exact congrArg Except.ok hread.symm

theorem ensureGpuVerifier_realizes (fresh : AttestationContext σ) :
    Realizes factories s₀ fresh (ensureGpuVerifier factories)
      ((planOf fresh.gpuVerifier (gpuBuild factories s₀ fresh)).map fun _ => ())
      HasServices HasGpuVerifier := by
  apply Realizes.ensure
  · exact fun ctx h => h.gpu
  · intro ctx s h hpre
    rw [gpuBuild, h.equipped_eq hpre, ExceptRules.ok_bind]
    exact createGpuVerifier_steady henv ctx s s₀
  · exact fun ctx hpre hheld => ⟨hpre, fun _ => hheld⟩
  · intro ctx verifier h hpre hget hbuild
    refine ⟨⟨?_, h.rim, h.ocsp, ?_, h.switch, fun _ => hpre⟩, hpre, fun _ => rfl⟩
    · exact congrArg (setGpuVerifier (some verifier)) h.settings
    · rw [h.gpu.given_held hget]
      exact .fill hbuild

theorem ensureSwitchVerifier_realizes (fresh : AttestationContext σ) :
    Realizes factories s₀ fresh (ensureSwitchVerifier factories)
      ((planOf fresh.switchVerifier (switchBuild factories s₀ fresh)).map fun _ => ())
      HasGpuVerifier HasVerifiers := by
  apply Realizes.ensure
  · exact fun ctx h => h.switch
  · intro ctx s h hpre
    rw [switchBuild, h.equipped_eq hpre.1, ExceptRules.ok_bind]
    exact createSwitchVerifier_steady henv ctx s s₀
  · exact fun ctx hpre hheld => ⟨hpre, fun _ => hheld⟩
  · intro ctx verifier h hpre hget hbuild
    refine ⟨⟨?_, h.rim, h.ocsp, h.gpu, ?_, fun _ => hpre.1⟩, hpre, fun _ => rfl⟩
    · exact congrArg (setSwitchVerifier (some verifier)) h.settings
    · rw [h.switch.given_held hget]
      exact .fill hbuild

end Ensured

/-- Filling in a component that is not compared. -/
theorem Realizes.ensureSource {α : Type} {get : AttestationContext σ → Option α}
    {set : AttestationContext σ → α → AttestationContext σ} {source : α}
    {pre : AttestationContext σ → Prop}
    (hset : ∀ ctx a, Follows factories s₀ ctx fresh → pre ctx →
      Follows factories s₀ (set ctx a) fresh ∧ pre (set ctx a)) :
    Realizes factories s₀ fresh (Attestation.ensure get set fun _ => pure source) (.ok ())
      pre pre := by
  intro ctx s h hpre
  rw [Attestation.ensure]
  cases get ctx with
  | some a => exact ⟨rfl, h, fun _ => hpre⟩
  | none => exact ⟨rfl, (hset ctx source h hpre).1, fun _ => (hset ctx source h hpre).2⟩

theorem ensureGpuEvidenceSource_realizes (fresh : AttestationContext σ) :
    Realizes factories s₀ fresh (ensureGpuEvidenceSource factories) (.ok ())
      HasServices HasServices := by
  apply Realizes.ensureSource
  intro ctx source h hpre
  have hset := congrArg (setGpuEvidenceSource (some source)) h.settings
  exact ⟨⟨hset, h.rim, h.ocsp, h.gpu, h.switch, h.equipped⟩, hpre⟩

theorem ensureSwitchEvidenceSource_realizes (fresh : AttestationContext σ) :
    Realizes factories s₀ fresh (ensureSwitchEvidenceSource factories) (.ok ())
      HasGpuVerifier HasGpuVerifier := by
  apply Realizes.ensureSource
  intro ctx source h hpre
  have hset := congrArg (setSwitchEvidenceSource (some source)) h.settings
  exact ⟨⟨hset, h.rim, h.ocsp, h.gpu, h.switch, h.equipped⟩, hpre⟩

/-- The outcome of `ensure_init`, from the context without attestations. -/
def initPlan (factories : Factories σ) (s₀ : σ) (fresh : AttestationContext σ) :
    Except Fault Unit := do
  (planOf fresh.defaultRimStore (rimBuild factories s₀ fresh)).map fun _ => ()
  (planOf fresh.defaultOcspClient (ocspBuild factories s₀ fresh)).map fun _ => ()
  planIf fresh.gpuEnabled (.ok ())
  planIf fresh.gpuEnabled
    ((planOf fresh.gpuVerifier (gpuBuild factories s₀ fresh)).map fun _ => ())
  planIf fresh.switchEnabled (.ok ())
  planIf fresh.switchEnabled
    ((planOf fresh.switchVerifier (switchBuild factories s₀ fresh)).map fun _ => ())

theorem ensureInit_realizes (henv : SteadyEnvironment factories) (fresh : AttestationContext σ) :
    Realizes factories s₀ fresh (ensureInit factories) (initPlan factories s₀ fresh)
      (fun _ => True) HasVerifiers := by
  have hgpu (ctx : AttestationContext σ) (h : Follows factories s₀ ctx fresh) :
      ctx.gpuEnabled = fresh.gpuEnabled := congrArg (·.gpuEnabled) h.settings
  have hswitch (ctx : AttestationContext σ) (h : Follows factories s₀ ctx fresh) :
      ctx.switchEnabled = fresh.switchEnabled := congrArg (·.switchEnabled) h.settings
  apply (ensureRimStore_realizes henv fresh).bind
  apply (ensureOcspClient_realizes henv fresh).bind
  apply Realizes.bind
  · exact (ensureGpuEvidenceSource_realizes fresh).onlyIf hgpu fun _ _ _ hpre => hpre
  apply Realizes.bind
  · apply (ensureGpuVerifier_realizes henv fresh).onlyIf hgpu
    intro hoff ctx h hpre
    refine ⟨hpre, fun hon => ?_⟩
    rw [hgpu ctx h, hoff] at hon
    cases hon
  apply Realizes.bind
  · exact (ensureSwitchEvidenceSource_realizes fresh).onlyIf hswitch fun _ _ _ hpre => hpre
  · apply (ensureSwitchVerifier_realizes henv fresh).onlyIf hswitch
    intro hoff ctx h hpre
    refine ⟨hpre, fun hon => ?_⟩
    rw [hswitch ctx h, hoff] at hon
    cases hon

theorem bind_onSecond_first {τ α β : Type} {x : Prog Fault σ α}
    {f : α → Prog Fault (τ × σ) β} {w : τ × σ} (hf : ∀ a s, (f a (w.1, s)).2.1 = w.1) :
    ((Prog.onSecond x >>= f) w).2.1 = w.1 := by
  cases hrun : x w.2 with
  | mk outcome s =>
    have hstep : Prog.onSecond x w = (outcome, (w.1, s)) := by rw [Prog.onSecond, hrun]
    cases outcome with
    | error e => rw [bind_of_error hstep]
    | ok a =>
      rw [bind_of_ok hstep]
      exact hf a s

/-- Only `ensure_init` changes the context. -/
theorem attestDevice_context (env : Platform σ) (nonce : Bytes) (wantEat : Bool)
    (w : AttestationContext σ × σ) :
    (attestDevice env factories nonce wantEat w).2.1 = (ensureInit factories w).2.1 := by
  rw [attestDevice]
  cases hrun : ensureInit factories w with
  | mk outcome w' =>
    cases outcome with
    | error e => rw [bind_of_error hrun]
    | ok u =>
      rw [bind_of_ok hrun]
      apply bind_onSecond_first
      intro nonce s
      have hread : Prog.liftFirst (fun ctx => (.ok ctx, ctx)) (w'.1, s) =
          ((.ok w'.1 : Except Fault _), (w'.1, s)) := rfl
      rw [bind_of_ok hread]
      apply bind_onSecond_first
      intro v s
      rfl

theorem Follows.attest (henv : SteadyEnvironment factories) (h : Follows factories s₀ ctx fresh)
    (env : Platform σ) (nonce : Bytes) (wantEat : Bool) (s : σ) :
    Follows factories s₀ (attestDevice env factories nonce wantEat (ctx, s)).2.1 fresh := by
  rw [attestDevice_context]
  exact (ensureInit_realizes henv fresh ctx s h trivial).2.1

theorem Follows.run (henv : SteadyEnvironment factories) (env : Platform σ) {call : Call σ}
    {w : AttestationContext σ × σ} (h : Follows factories s₀ w.1 fresh)
    (hsafe : call.Safe w.1 fresh) :
    Follows factories s₀ (call.run env factories w).1 (call.runFresh fresh) := by
  cases call with
  | set setter => exact h.apply hsafe
  | attest nonce wantEat => exact h.attest henv env nonce wantEat w.2

theorem runCalls_follows (henv : SteadyEnvironment factories) (env : Platform σ)
    {calls : List (Call σ)} {w : AttestationContext σ × σ} (h : Follows factories s₀ w.1 fresh)
    (hsafe : AllSafe env factories calls w fresh) :
    Follows factories s₀ (runCalls env factories calls w).1 (runFresh calls fresh) := by
  induction calls generalizing w fresh with
  | nil => exact h
  | cons call rest ih => exact ih (h.run henv env hsafe.1) hsafe.2

theorem Follows.components_eq {ctx' : AttestationContext σ} (h : Follows factories s₀ ctx fresh)
    (h' : Follows factories s₀ ctx' fresh) (hheld : HasVerifiers ctx) (hheld' : HasVerifiers ctx') :
    componentsOf ctx = componentsOf ctx' := by
  have hrim := h.rim.eq_of_held h'.rim hheld.1.1.1 hheld'.1.1.1
  have hocsp := h.ocsp.eq_of_held h'.ocsp hheld.1.1.2 hheld'.1.1.2
  have hgpuEnabled : ctx.gpuEnabled = ctx'.gpuEnabled :=
    Eq.trans (congrArg (·.gpuEnabled) h.settings) (congrArg (·.gpuEnabled) h'.settings).symm
  have hswitchEnabled : ctx.switchEnabled = ctx'.switchEnabled :=
    Eq.trans (congrArg (·.switchEnabled) h.settings) (congrArg (·.switchEnabled) h'.settings).symm
  have hgpu : (if ctx.gpuEnabled then ctx.gpuVerifier else none) =
      if ctx'.gpuEnabled then ctx'.gpuVerifier else none := by
    cases hon : ctx'.gpuEnabled with
    | false =>
      rw [hgpuEnabled, hon]
      rfl
    | true =>
      rw [hgpuEnabled, hon]
      exact h.gpu.eq_of_held h'.gpu (hheld.1.2 (hgpuEnabled.trans hon)) (hheld'.1.2 hon)
  have hswitch : (if ctx.switchEnabled then ctx.switchVerifier else none) =
      if ctx'.switchEnabled then ctx'.switchVerifier else none := by
    cases hon : ctx'.switchEnabled with
    | false =>
      rw [hswitchEnabled, hon]
      rfl
    | true =>
      rw [hswitchEnabled, hon]
      exact h.switch.eq_of_held h'.switch (hheld.2 (hswitchEnabled.trans hon)) (hheld'.2 hon)
  rw [componentsOf, componentsOf, hrim, hocsp, hgpu, hswitch]

/-- The components that are used depend only on the context without attestations. -/
theorem Follows.usedComponents_eq (henv : SteadyEnvironment factories)
    (h : Follows factories s₀ ctx fresh) (s s' : σ) :
    usedComponents factories ctx s = usedComponents factories fresh s' := by
  have hleft := ensureInit_realizes henv fresh ctx s h trivial
  have hself : Follows factories s₀ fresh fresh := .refl fresh
  have hright := ensureInit_realizes henv fresh fresh s' hself trivial
  rw [usedComponents, usedComponents]
  cases hrun : ensureInit factories (ctx, s) with
  | mk outcome w =>
    cases hrun' : ensureInit factories (fresh, s') with
    | mk outcome' w' =>
      rw [hrun] at hleft
      rw [hrun'] at hright
      have hsame : outcome = outcome' := hleft.1.trans hright.1.symm
      cases hsame
      cases outcome with
      | error f => rfl
      | ok u =>
        exact congrArg Except.ok (hleft.2.1.components_eq hright.2.1 (hleft.2.2 hleft.1.symm)
          (hright.2.2 hright.1.symm))

theorem AllSafe.earlier {env : Platform σ} {earlier later : List (Call σ)}
    {w : AttestationContext σ × σ} (h : AllSafe env factories (earlier ++ later) w fresh) :
    AllSafe env factories earlier w fresh := by
  induction earlier generalizing w fresh with
  | nil => trivial
  | cons call rest ih => exact ⟨h.1, ih h.2⟩

/-- At every point of the run an attestation uses what it would use in the same context without the
attestations before it. -/
theorem runCalls_usedComponents (henv : SteadyEnvironment factories) (env : Platform σ)
    (calls : List (Call σ)) (ctx₀ : AttestationContext σ) (s₀ : σ)
    (hsafe : AllSafe env factories calls (ctx₀, s₀) ctx₀) (earlier later : List (Call σ))
    (hcalls : calls = earlier ++ later) (s : σ) :
    let w := runCalls env factories earlier (ctx₀, s₀)
    usedComponents factories w.1 w.2 = usedComponents factories (runFresh earlier ctx₀) s := by
  intro w
  rw [hcalls] at hsafe
  have hstart : Follows factories s₀ ctx₀ ctx₀ := .refl ctx₀
  have hafter : Follows factories s₀ w.1 (runFresh earlier ctx₀) :=
    runCalls_follows henv env hstart hsafe.earlier
  exact hafter.usedComponents_eq henv w.2 s

end Preserved

/-- A server that answers the second attempt: a store without retries fails. -/
def serviceStore (httpOptions : HttpOptions) : RimStore Unit where
  getRim _ rim :=
    pure (if httpOptions.maxRetryCount = 0 then .RimInternalError else .Ok, rim)

def serviceFactories : Factories Unit where
  remoteRimStore _ _ httpOptions := pure (serviceStore httpOptions)
  httpOcspClient _ _ _ := pure ⟨fun _ resp => pure (.OcspServerError, resp)⟩
  remoteGpuVerifier _ _ _ := pure (.other fun _ _ _ _ => Prog.fail (.code .NrasAttestationError))
  remoteSwitchVerifier _ _ _ := pure (.other fun _ _ _ _ => Prog.fail (.code .NrasAttestationError))
  nvmlEvidenceCollector := ⟨fun _ => Prog.fail (.code .NvmlInitFailed)⟩
  nscqEvidenceCollector := ⟨fun _ => Prog.fail (.code .NscqInitFailed)⟩

theorem serviceFactories_steady : SteadyEnvironment serviceFactories where
  remoteRimStore _ _ _ _ _ := rfl
  httpOcspClient _ _ _ _ _ := rfl
  remoteGpuVerifier _ _ _ _ _ := rfl
  remoteSwitchVerifier _ _ _ _ _ := rfl

def noRetries : HttpOptions := { sampleHttpOptions with maxRetryCount := 0 }

/-- The new options come after a setter that drops what the first attestation built. -/
def sampleCalls : List (Call Unit) :=
  [.attest sampleNonce false, .set (.serviceKey "key"), .set (.defaultHttpOptions noRetries),
    .attest sampleNonce false, .set (.detachedEatOptions {})]

theorem sampleCalls_usedComponents :
    let ctx₀ : AttestationContext Unit := { defaultHttpOptions := sampleHttpOptions }
    let w := runCalls samplePlatform serviceFactories sampleCalls (ctx₀, ())
    usedComponents serviceFactories w.1 w.2 =
      usedComponents serviceFactories (runFresh sampleCalls ctx₀) () := by
  intro ctx₀
  have hsafe : AllSafe samplePlatform serviceFactories sampleCalls (ctx₀, ()) ctx₀ :=
    ⟨trivial, trivial, .inr ⟨nofun, nofun, fun _ => ⟨nofun, nofun⟩⟩, trivial, trivial, trivial⟩
  exact runCalls_usedComponents serviceFactories_steady samplePlatform sampleCalls ctx₀ () hsafe
    sampleCalls [] (List.append_nil _).symm ()

/-- New HTTP options after an attestation do not reach the store of the next one. -/
theorem http_options_frozen :
    ¬ ∀ (env : Platform Unit) (factories : Factories Unit) (calls : List (Call Unit))
      (ctx₀ : AttestationContext Unit), SteadyEnvironment factories →
      let w := runCalls env factories calls (ctx₀, ())
      usedComponents factories w.1 w.2 = usedComponents factories (runFresh calls ctx₀) () := by
  intro hclaim
  have hsame := hclaim samplePlatform serviceFactories
    [.attest sampleNonce false, .set (.defaultHttpOptions noRetries)]
    { defaultHttpOptions := sampleHttpOptions } serviceFactories_steady
  -- ask both stores for a document
  have hanswer := congrArg (fun used => used.map fun components =>
    components.rimStore.map fun store => (store.getRim "" {} ()).1.map (·.1)) hsame
  cases hanswer

end AttestationSdk.Attestation
