import AttestationSdk.Reconfiguration
import AttestationSdk.RawProofJudgement

/-! Whether a component that the caller installed in a context stays there. -/
namespace AttestationSdk.Attestation
open AttestationSdk.ChainStatus AttestationSdk.Rim AttestationSdk.Eat AttestationSdk.Gpu
open AttestationSdk.Switch Effects Prog
variable {σ : Type}

/-- A component that a setter installs. -/
inductive Component where
  | rimStore | ocspClient | gpuVerifier | switchVerifier
  deriving Repr, DecidableEq

/-- The objects that can be installed as a component. -/
def Component.Object (σ : Type) : Component → Type
  | .rimStore => RimStore σ
  | .ocspClient => OcspClient σ
  | .gpuVerifier => GpuVerifier σ
  | .switchVerifier => SwitchVerifier σ

def install : (c : Component) → c.Object σ → Setter σ
  | .rimStore, store => .defaultRimStore (some store)
  | .ocspClient, client => .defaultOcspClient (some client)
  | .gpuVerifier, verifier => .gpuVerifier (some verifier)
  | .switchVerifier, verifier => .switchVerifier (some verifier)

def held : (c : Component) → AttestationContext σ → Option (c.Object σ)
  | .rimStore, ctx => ctx.defaultRimStore
  | .ocspClient, ctx => ctx.defaultOcspClient
  | .gpuVerifier, ctx => ctx.gpuVerifier
  | .switchVerifier, ctx => ctx.switchVerifier

/-- The setter replaces the component by its name or by its URL or type. -/
def Setter.names : Setter σ → Component → Bool
  | .defaultRimStore _, .rimStore | .defaultRimStoreUrl _, .rimStore => true
  | .defaultOcspClient _, .ocspClient | .defaultOcspUrl _, .ocspClient => true
  | .gpuVerifier _, .gpuVerifier | .verifierType _, .gpuVerifier => true
  | .switchVerifier _, .switchVerifier | .verifierType _, .switchVerifier => true
  | _, _ => false

/-- The setter throws both verifiers away, whoever made them. -/
def Setter.wipes : Setter σ → Bool
  | .defaultRimStoreUrl _ | .defaultOcspUrl _ | .defaultNrasUrl _ | .defaultRimStore _
  | .defaultOcspClient _ | .evidencePolicy _ | .detachedEatOptions _ | .serviceKey _ => true
  | _ => false

def Setter.isServiceKey : Setter σ → Bool
  | .serviceKey _ => true
  | _ => false

/-- The setter throws the component away without naming it. -/
def Setter.drops (setter : Setter σ) : Component → Bool
  | .rimStore | .ocspClient => setter.isServiceKey
  | .gpuVerifier | .switchVerifier => setter.wipes

theorem held_setDeviceType (c : Component) (type : Nat) (ctx : AttestationContext σ) :
    held c (setDeviceType type ctx) = held c ctx := by
  rw [setDeviceType]
  split
  · rfl
  · cases c with
    | rimStore => rfl
    | ocspClient => rfl
    | gpuVerifier => rfl
    | switchVerifier => rfl

/-- What a setter does to a component that it does not name. -/
theorem Setter.held_apply {setter : Setter σ} {c : Component} (hname : setter.names c = false)
    (ctx : AttestationContext σ) :
    held c (setter.apply ctx) = if setter.drops c then none else held c ctx := by
  cases setter with
  | verifierType type =>
    change held c (setVerifierType type ctx) = _
    rw [setVerifierType]
    cases c with
    | gpuVerifier => cases hname
    | switchVerifier => cases hname
    | rimStore =>
      split
      · rfl
      · rfl
    | ocspClient =>
      split
      · rfl
      · rfl
  | deviceType type =>
    cases c with
    | rimStore => exact held_setDeviceType .rimStore type ctx
    | ocspClient => exact held_setDeviceType .ocspClient type ctx
    | gpuVerifier => exact held_setDeviceType .gpuVerifier type ctx
    | switchVerifier => exact held_setDeviceType .switchVerifier type ctx
  | gpuEvidenceSourceJsonFile created => cases created <;> cases c <;> rfl
  | switchEvidenceSourceJsonFile created => cases created <;> cases c <;> rfl
  | _ => cases c <;> first | rfl | cases hname

/-- Of the setters that do not name a component exactly these leave it alone. -/
theorem Setter.held_apply_iff {setter : Setter σ} {c : Component} {x : c.Object σ}
    (hname : setter.names c = false) {ctx : AttestationContext σ} (hheld : held c ctx = some x) :
    held c (setter.apply ctx) = some x ↔ setter.drops c = false := by
  rw [setter.held_apply hname, hheld]
  cases setter.drops c with
  | true => exact ⟨nofun, nofun⟩
  | false => exact ⟨fun _ => rfl, fun _ => rfl⟩

/-- A step of `ensure_init` that keeps a property of the context, whatever its outcome. -/
def Maintains (P : AttestationContext σ → Prop) (x : Prog Fault (AttestationContext σ × σ) Unit) :
    Prop :=
  ∀ w, P w.1 → P (x w).2.1

section Init
variable {P : AttestationContext σ → Prop} {x y : Prog Fault (AttestationContext σ × σ) Unit}

theorem maintains_bind (hx : Maintains P x) (hy : Maintains P y) :
    Maintains P (x >>= fun _ => y) := by
  intro w hP
  have hfirst := hx w hP
  cases hrun : x w with
  | mk outcome w' =>
    rw [hrun] at hfirst
    cases outcome with
    | error f =>
      rw [bind_of_error hrun]
      exact hfirst
    | ok u =>
      rw [bind_of_ok hrun]
      exact hy w' hfirst

theorem maintains_onlyIf {enabled : AttestationContext σ → Bool} (hx : Maintains P x) :
    Maintains P (onlyIf enabled x) := by
  intro w hP
  rw [onlyIf]
  split
  · exact hx w hP
  · exact hP

theorem maintains_ensure {α : Type} {get : AttestationContext σ → Option α}
    {set : AttestationContext σ → α → AttestationContext σ}
    {create : AttestationContext σ → Prog Fault σ α}
    (hset : ∀ ctx a s s', P ctx → get ctx = none → create ctx s = (.ok a, s') → P (set ctx a)) :
    Maintains P (ensure get set create) := by
  intro w hP
  rw [ensure]
  cases hget : get w.1 with
  | some a => exact hP
  | none =>
    cases hcreate : create w.1 w.2 with
    | mk outcome s =>
      cases outcome with
      | error f => exact hP
      | ok a => exact hset w.1 a w.2 s hP hget hcreate

end Init

/-- A verifier that a local context makes itself has the object inside. -/
def LocalOver {ι L : Type} (inside : L → Prop) (type : VerifierType)
    (verifier : Option (Verifier σ ι L)) : Prop :=
  type = .Local → ∀ v, verifier = some v → ∃ made, v = .localVerifier made ∧ inside made

def insideGpu : (c : Component) → c.Object σ → VerifierType → Option (GpuVerifier σ) → Prop
  | .rimStore, store => LocalOver (·.rimStore = store)
  | .ocspClient, client => LocalOver (·.ocspHttpClient = client)
  | .gpuVerifier, _ | .switchVerifier, _ => fun _ _ => True

def insideSwitch : (c : Component) → c.Object σ → VerifierType → Option (SwitchVerifier σ) → Prop
  | .rimStore, store => LocalOver (·.rimStore = store)
  | .ocspClient, client => LocalOver (·.ocspHttpClient = client)
  | .gpuVerifier, _ | .switchVerifier, _ => fun _ _ => True

/-- The context holds the object, and a verifier that no caller installed works over it. -/
structure Serves (c : Component) (x : c.Object σ) (gpuOwn switchOwn : Prop)
    (ctx : AttestationContext σ) : Prop where
  held : held c ctx = some x
  gpu : gpuOwn → insideGpu c x ctx.defaultVerifierType ctx.gpuVerifier
  switch : switchOwn → insideSwitch c x ctx.defaultVerifierType ctx.switchVerifier

section Inside
variable {c : Component} {x : c.Object σ} {type : VerifierType}

theorem insideGpu_none : insideGpu c x type none := by
  cases c with
  | rimStore => exact fun _ _ h => by cases h
  | ocspClient => exact fun _ _ h => by cases h
  | gpuVerifier => trivial
  | switchVerifier => trivial

theorem insideSwitch_none : insideSwitch c x type none := by
  cases c with
  | rimStore => exact fun _ _ h => by cases h
  | ocspClient => exact fun _ _ h => by cases h
  | gpuVerifier => trivial
  | switchVerifier => trivial

theorem insideGpu_created {factories : Factories σ} {ctx : AttestationContext σ}
    {verifier : GpuVerifier σ} {s s' : σ} (hheld : held c ctx = some x)
    (hcreate : createGpuVerifier factories ctx s = (.ok verifier, s')) :
    insideGpu c x ctx.defaultVerifierType (some verifier) := by
  cases c with
  | rimStore =>
    intro htype v hv
    cases hv
    obtain ⟨store, client, hrim, -, rfl⟩ := createGpuVerifier_over htype hcreate
    exact ⟨_, rfl, Option.some.inj (hrim.symm.trans hheld)⟩
  | ocspClient =>
    intro htype v hv
    cases hv
    obtain ⟨store, client, -, hocsp, rfl⟩ := createGpuVerifier_over htype hcreate
    exact ⟨_, rfl, Option.some.inj (hocsp.symm.trans hheld)⟩
  | gpuVerifier => trivial
  | switchVerifier => trivial

theorem insideSwitch_created {factories : Factories σ} {ctx : AttestationContext σ}
    {verifier : SwitchVerifier σ} {s s' : σ} (hheld : held c ctx = some x)
    (hcreate : createSwitchVerifier factories ctx s = (.ok verifier, s')) :
    insideSwitch c x ctx.defaultVerifierType (some verifier) := by
  cases c with
  | rimStore =>
    intro htype v hv
    cases hv
    obtain ⟨store, client, hrim, -, rfl⟩ := createSwitchVerifier_over htype hcreate
    exact ⟨_, rfl, Option.some.inj (hrim.symm.trans hheld)⟩
  | ocspClient =>
    intro htype v hv
    cases hv
    obtain ⟨store, client, -, hocsp, rfl⟩ := createSwitchVerifier_over htype hcreate
    exact ⟨_, rfl, Option.some.inj (hocsp.symm.trans hheld)⟩
  | gpuVerifier => trivial
  | switchVerifier => trivial

end Inside

section Runs
variable {c : Component} {x : c.Object σ} {gpuOwn switchOwn : Prop}

/-- What is held stays where nothing but missing parts changes. -/
theorem held_of_agree {ctx ctx' : AttestationContext σ} (hheld : held c ctx = some x)
    (hrim : ctx.defaultRimStore = none ∨ ctx'.defaultRimStore = ctx.defaultRimStore)
    (hocsp : ctx.defaultOcspClient = none ∨ ctx'.defaultOcspClient = ctx.defaultOcspClient)
    (hgpu : ctx.gpuVerifier = none ∨ ctx'.gpuVerifier = ctx.gpuVerifier)
    (hswitch : ctx.switchVerifier = none ∨ ctx'.switchVerifier = ctx.switchVerifier) :
    held c ctx' = some x := by
  have hagree {α : Type} {slot slot' : Option α} {a : α} (hslot : slot = some a)
      (h : slot = none ∨ slot' = slot) : slot' = some a := by
    cases h with
    | inl hnone => cases hnone.symm.trans hslot
    | inr hsame => exact hsame.trans hslot
  cases c with
  | rimStore => exact hagree hheld hrim
  | ocspClient => exact hagree hheld hocsp
  | gpuVerifier => exact hagree hheld hgpu
  | switchVerifier => exact hagree hheld hswitch

/-- `ensure_init` only fills in what is missing. -/
theorem maintains_ensureInit (factories : Factories σ) :
    Maintains (Serves c x gpuOwn switchOwn) (ensureInit factories) := by
  apply maintains_bind
  · apply maintains_ensure
    intro ctx store s s' h hget hcreate
    exact ⟨held_of_agree h.held (.inl hget) (.inr rfl) (.inr rfl) (.inr rfl),
      h.gpu, h.switch⟩
  apply maintains_bind
  · apply maintains_ensure
    intro ctx client s s' h hget hcreate
    exact ⟨held_of_agree h.held (.inr rfl) (.inl hget) (.inr rfl) (.inr rfl),
      h.gpu, h.switch⟩
  apply maintains_bind
  · apply maintains_onlyIf
    apply maintains_ensure
    intro ctx source s s' h hget hcreate
    exact ⟨held_of_agree h.held (.inr rfl) (.inr rfl) (.inr rfl) (.inr rfl),
      h.gpu, h.switch⟩
  apply maintains_bind
  · apply maintains_onlyIf
    apply maintains_ensure
    intro ctx verifier s s' h hget hcreate
    have hinside := insideGpu_created h.held hcreate
    exact ⟨held_of_agree h.held (.inr rfl) (.inr rfl) (.inl hget) (.inr rfl),
      fun _ => hinside, h.switch⟩
  apply maintains_bind
  · apply maintains_onlyIf
    apply maintains_ensure
    intro ctx source s s' h hget hcreate
    exact ⟨held_of_agree h.held (.inr rfl) (.inr rfl) (.inr rfl) (.inr rfl),
      h.gpu, h.switch⟩
  · apply maintains_onlyIf
    apply maintains_ensure
    intro ctx verifier s s' h hget hcreate
    have hinside := insideSwitch_created h.held hcreate
    exact ⟨held_of_agree h.held (.inr rfl) (.inr rfl) (.inr rfl) (.inl hget),
      h.gpu, fun _ => hinside⟩

/-- The setter hands over an object for the component. -/
def Setter.installs : Setter σ → Component → Bool
  | .defaultRimStore _, .rimStore | .defaultOcspClient _, .ocspClient
  | .gpuVerifier _, .gpuVerifier | .switchVerifier _, .switchVerifier => true
  | _, _ => false

/-- A verifier that no setter hands over is gone or as before, under the same type. -/
theorem Setter.verifiers_apply (setter : Setter σ) (ctx : AttestationContext σ) :
    (setter.installs .gpuVerifier = false → (setter.apply ctx).gpuVerifier = none ∨
      (setter.apply ctx).gpuVerifier = ctx.gpuVerifier ∧
        (setter.apply ctx).defaultVerifierType = ctx.defaultVerifierType) ∧
    (setter.installs .switchVerifier = false → (setter.apply ctx).switchVerifier = none ∨
      (setter.apply ctx).switchVerifier = ctx.switchVerifier ∧
        (setter.apply ctx).defaultVerifierType = ctx.defaultVerifierType) := by
  cases setter with
  | verifierType type =>
    by_cases hsame : ctx.defaultVerifierType = type
    · have hctx : (Setter.verifierType type).apply ctx = ctx := by
        rw [← hsame]
        exact setVerifierType_same ctx
      rw [hctx]
      exact ⟨fun _ => .inr ⟨rfl, rfl⟩, fun _ => .inr ⟨rfl, rfl⟩⟩
    · have hctx : (Setter.verifierType type).apply ctx =
          wipeVerifiers { ctx with defaultVerifierType := type } := setVerifierType_new hsame
      rw [hctx]
      exact ⟨fun _ => .inl rfl, fun _ => .inl rfl⟩
  | deviceType type =>
    have hctx : (Setter.deviceType type).apply ctx = setDeviceType type ctx := rfl
    rw [hctx, setDeviceType]
    split
    · exact ⟨fun _ => .inr ⟨rfl, rfl⟩, fun _ => .inr ⟨rfl, rfl⟩⟩
    · exact ⟨fun _ => .inr ⟨rfl, rfl⟩, fun _ => .inr ⟨rfl, rfl⟩⟩
  | gpuEvidenceSourceJsonFile created =>
    cases created with
    | error e => exact ⟨fun _ => .inr ⟨rfl, rfl⟩, fun _ => .inr ⟨rfl, rfl⟩⟩
    | ok source => exact ⟨fun _ => .inr ⟨rfl, rfl⟩, fun _ => .inr ⟨rfl, rfl⟩⟩
  | switchEvidenceSourceJsonFile created =>
    cases created with
    | error e => exact ⟨fun _ => .inr ⟨rfl, rfl⟩, fun _ => .inr ⟨rfl, rfl⟩⟩
    | ok source => exact ⟨fun _ => .inr ⟨rfl, rfl⟩, fun _ => .inr ⟨rfl, rfl⟩⟩
  | gpuVerifier verifier =>
    refine ⟨fun hinstalls => ?_, fun _ => .inr ⟨rfl, rfl⟩⟩
    cases hinstalls
  | switchVerifier verifier =>
    refine ⟨fun _ => .inr ⟨rfl, rfl⟩, fun hinstalls => ?_⟩
    cases hinstalls
  | defaultHttpOptions httpOptions =>
    exact ⟨fun _ => .inr ⟨rfl, rfl⟩, fun _ => .inr ⟨rfl, rfl⟩⟩
  | claimsEvaluator evaluator => exact ⟨fun _ => .inr ⟨rfl, rfl⟩, fun _ => .inr ⟨rfl, rfl⟩⟩
  | gpuEvidenceSource source => exact ⟨fun _ => .inr ⟨rfl, rfl⟩, fun _ => .inr ⟨rfl, rfl⟩⟩
  | switchEvidenceSource source => exact ⟨fun _ => .inr ⟨rfl, rfl⟩, fun _ => .inr ⟨rfl, rfl⟩⟩
  | _ => exact ⟨fun _ => .inl rfl, fun _ => .inl rfl⟩

/-- The call leaves the component to what it is. -/
def Call.leaves (c : Component) : Call σ → Prop
  | .set setter => setter.names c = false ∧ setter.drops c = false
  | .attest _ _ => True

def Call.installs (c : Component) : Call σ → Prop
  | .set setter => setter.installs c = true
  | .attest _ _ => False

theorem Serves.run {ctx : AttestationContext σ} (h : Serves c x gpuOwn switchOwn ctx)
    (env : Platform σ) (factories : Factories σ) {call : Call σ} (s : σ) (hleaves : call.leaves c)
    (hgpu : gpuOwn → ¬ call.installs .gpuVerifier)
    (hswitch : switchOwn → ¬ call.installs .switchVerifier) :
    Serves c x gpuOwn switchOwn (call.run env factories (ctx, s)).1 := by
  cases call with
  | attest nonce wantEat =>
    change Serves c x gpuOwn switchOwn (attestDevice env factories nonce wantEat (ctx, s)).2.1
    rw [attestDevice_context]
    exact maintains_ensureInit factories (ctx, s) h
  | set setter =>
    have hverifiers := setter.verifiers_apply ctx
    refine ⟨?_, fun hown => ?_, fun hown => ?_⟩
    · exact ((setter.held_apply_iff hleaves.1 h.held).mpr hleaves.2)
    · cases hverifiers.1 (Bool.eq_false_iff.mpr (hgpu hown)) with
      | inl hnone =>
        change insideGpu c x _ (setter.apply ctx).gpuVerifier
        rw [hnone]
        exact insideGpu_none
      | inr hsame =>
        change insideGpu c x (setter.apply ctx).defaultVerifierType (setter.apply ctx).gpuVerifier
        rw [hsame.1, hsame.2]
        exact h.gpu hown
    · cases hverifiers.2 (Bool.eq_false_iff.mpr (hswitch hown)) with
      | inl hnone =>
        change insideSwitch c x _ (setter.apply ctx).switchVerifier
        rw [hnone]
        exact insideSwitch_none
      | inr hsame =>
        change insideSwitch c x (setter.apply ctx).defaultVerifierType
          (setter.apply ctx).switchVerifier
        rw [hsame.1, hsame.2]
        exact h.switch hown

theorem runCalls_serves (env : Platform σ) (factories : Factories σ) {calls : List (Call σ)}
    {w : AttestationContext σ × σ} (h : Serves c x gpuOwn switchOwn w.1)
    (hleaves : ∀ call ∈ calls, call.leaves c)
    (hgpu : gpuOwn → ∀ call ∈ calls, ¬ call.installs .gpuVerifier)
    (hswitch : switchOwn → ∀ call ∈ calls, ¬ call.installs .switchVerifier) :
    Serves c x gpuOwn switchOwn (runCalls env factories calls w).1 := by
  induction calls generalizing w with
  | nil => exact h
  | cons call rest ih =>
    have hhead : call ∈ call :: rest := List.mem_cons_self
    have hstep := h.run env factories w.2 (hleaves call hhead) (fun hown => hgpu hown call hhead)
      (fun hown => hswitch hown call hhead)
    exact ih hstep (fun later hlater => hleaves later (List.mem_cons_of_mem call hlater))
      (fun hown later hlater => hgpu hown later (List.mem_cons_of_mem call hlater))
      (fun hown later hlater => hswitch hown later (List.mem_cons_of_mem call hlater))

/-- Whether an attestation in the context works with the component. -/
def Component.active (ctx : AttestationContext σ) : Component → Bool
  | .rimStore | .ocspClient => true
  | .gpuVerifier => ctx.gpuEnabled
  | .switchVerifier => ctx.switchEnabled

def usedAs : (c : Component) → Components σ → Option (c.Object σ)
  | .rimStore, used => used.rimStore
  | .ocspClient, used => used.ocspClient
  | .gpuVerifier, used => used.gpuVerifier
  | .switchVerifier, used => used.switchVerifier

/-- An attestation works with the object, where it works with the component, and so do the
verifiers that the context made itself. -/
structure UsesInstalled (c : Component) (x : c.Object σ) (gpuOwn switchOwn : Prop)
    (ctx : AttestationContext σ) (used : Components σ) : Prop where
  component : c.active ctx → usedAs c used = some x
  gpu : gpuOwn → insideGpu c x ctx.defaultVerifierType used.gpuVerifier
  switch : switchOwn → insideSwitch c x ctx.defaultVerifierType used.switchVerifier

/-- `ensure_init` changes no setting that decides which verifiers are used. -/
theorem maintains_settings (factories : Factories σ) (type : VerifierType) (gpu switch : Bool) :
    Maintains (fun ctx => ctx.defaultVerifierType = type ∧ ctx.gpuEnabled = gpu ∧
      ctx.switchEnabled = switch) (ensureInit factories) := by
  apply maintains_bind
  · exact maintains_ensure fun _ _ _ _ h _ _ => h
  apply maintains_bind
  · exact maintains_ensure fun _ _ _ _ h _ _ => h
  apply maintains_bind
  · exact maintains_onlyIf (maintains_ensure fun _ _ _ _ h _ _ => h)
  apply maintains_bind
  · exact maintains_onlyIf (maintains_ensure fun _ _ _ _ h _ _ => h)
  apply maintains_bind
  · exact maintains_onlyIf (maintains_ensure fun _ _ _ _ h _ _ => h)
  · exact maintains_onlyIf (maintains_ensure fun _ _ _ _ h _ _ => h)

theorem Serves.uses {factories : Factories σ} {ctx : AttestationContext σ} {s : σ}
    {used : Components σ} (h : Serves c x gpuOwn switchOwn ctx)
    (hused : usedComponents factories ctx s = .ok used) :
    UsesInstalled c x gpuOwn switchOwn ctx used := by
  have hafter := maintains_ensureInit factories (ctx, s) h
  have hsettings := maintains_settings factories ctx.defaultVerifierType ctx.gpuEnabled
    ctx.switchEnabled (ctx, s) ⟨rfl, rfl, rfl⟩
  rw [usedComponents] at hused
  cases hrun : ensureInit factories (ctx, s) with
  | mk outcome w =>
    rw [hrun] at hafter hsettings hused
    cases outcome with
    | error f => cases hused
    | ok u =>
      cases hused
      obtain ⟨htype, hgpu, hswitch⟩ := hsettings
      refine ⟨fun hactive => ?_, fun hown => ?_, fun hown => ?_⟩
      · cases c with
        | rimStore => exact hafter.held
        | ocspClient => exact hafter.held
        | gpuVerifier => exact (if_pos (hgpu.trans hactive)).trans hafter.held
        | switchVerifier => exact (if_pos (hswitch.trans hactive)).trans hafter.held
      · have hinside := hafter.gpu hown
        rw [htype] at hinside
        change insideGpu c x ctx.defaultVerifierType (if w.1.gpuEnabled then w.1.gpuVerifier else none)
        split
        · exact hinside
        · exact insideGpu_none
      · have hinside := hafter.switch hown
        rw [htype] at hinside
        change insideSwitch c x ctx.defaultVerifierType
          (if w.1.switchEnabled then w.1.switchVerifier else none)
        split
        · exact hinside
        · exact insideSwitch_none

/-- What the installing setter leaves. -/
theorem install_serves (c : Component) (x : c.Object σ) (ctx : AttestationContext σ) :
    Serves c x gpuOwn switchOwn ((install c x).apply ctx) := by
  cases c with
  | rimStore => exact ⟨rfl, fun _ => insideGpu_none, fun _ => insideSwitch_none⟩
  | ocspClient => exact ⟨rfl, fun _ => insideGpu_none, fun _ => insideSwitch_none⟩
  | gpuVerifier => exact ⟨rfl, fun _ => trivial, fun _ => trivial⟩
  | switchVerifier => exact ⟨rfl, fun _ => trivial, fun _ => trivial⟩

/-- No call of the list hands over such a component. -/
def NotInstalled (c : Component) (calls : List (Call σ)) : Prop := ∀ call ∈ calls, ¬ call.installs c

/-- An installed component is the one that every later attestation uses, as long as no call names
it or throws it away. -/
theorem installed_stays (env : Platform σ) (factories : Factories σ) (c : Component)
    (x : c.Object σ) (between : List (Call σ)) (hleaves : ∀ call ∈ between, call.leaves c)
    (w : AttestationContext σ × σ) :
    let w' := runCalls env factories (.set (install c x) :: between) w
    ∀ used, usedComponents factories w'.1 w'.2 = .ok used →
      UsesInstalled c x (NotInstalled .gpuVerifier between) (NotInstalled .switchVerifier between)
        w'.1 used := by
  intro w' used hused
  have hstart : Serves c x (NotInstalled .gpuVerifier between)
      (NotInstalled .switchVerifier between) ((install c x).apply w.1) :=
    install_serves c x w.1
  have hafter := runCalls_serves env factories (w := ((install c x).apply w.1, w.2)) hstart hleaves
    id id
  exact hafter.uses hused

end Runs

section RawProofs
open AttestationSdk.RawProofOcsp AttestationSdk.Ocsp

/-- `RawProofOcspClient` as a client of the verifiers; it reads nothing but its proofs. -/
def rawProofClient (lib : OcspLib) (client : RawProofOcspClient) : OcspClient σ where
  getOcspResponse query out := Prog.lift (RawProofOcsp.getOcspResponse lib client
    (some query.subject) (some query.issuer) query.intermediates (some query.trustStore) out)

def sampleBetween : List (Call Unit) :=
  [.set (.defaultRimStoreUrl "https://rim"), .attest sampleNonce false]

/-- The proofs stay through a change of the store's URL and an attestation. -/
theorem raw_proofs_stay :
    let client := rawProofClient sampleLib sampleClient
    let w' := runCalls samplePlatform serviceFactories
      (.set (.defaultOcspClient (some client)) :: sampleBetween)
      ({ defaultHttpOptions := sampleHttpOptions }, ())
    ∀ used, usedComponents serviceFactories w'.1 w'.2 = .ok used →
      UsesInstalled .ocspClient client (NotInstalled .gpuVerifier sampleBetween)
        (NotInstalled .switchVerifier sampleBetween) w'.1 used := by
  have hleaves : ∀ call ∈ sampleBetween, call.leaves .ocspClient := by
    intro call hcall
    cases hcall with
    | head => exact ⟨rfl, rfl⟩
    | tail _ hcall =>
      cases hcall with
      | head => trivial
      | tail _ hcall => cases hcall
  exact installed_stays samplePlatform serviceFactories .ocspClient
    (rawProofClient sampleLib sampleClient) sampleBetween hleaves _

def sampleQuery : OcspQuery := ⟨⟨[1]⟩, ⟨[2]⟩, [], ⟨[]⟩⟩

/-- A service key set after the raw proofs brings a client of the network in their place. -/
theorem raw_proofs_replaced :
    ¬ ∀ (env : Platform Unit) (factories : Factories Unit) (c : Component) (x : c.Object Unit)
      (between : List (Call Unit)) (ctx : AttestationContext Unit) (used : Components Unit),
      (∀ call ∈ between, ∀ setter, call = .set setter → setter.names c = false) →
      let w' := runCalls env factories (.set (install c x) :: between) (ctx, ())
      usedComponents factories w'.1 w'.2 = .ok used → c.active w'.1 → usedAs c used = some x := by
  intro hclaim
  have hused := hclaim samplePlatform serviceFactories .ocspClient
    (rawProofClient sampleLib sampleClient) [.set (.serviceKey "key")]
    { defaultHttpOptions := sampleHttpOptions } _ (fun call hcall setter hset => by
      cases List.mem_singleton.mp hcall
      cases hset
      rfl) rfl rfl
  -- ask both clients for the status of one certificate
  have hanswer := congrArg (fun client : Option (OcspClient Unit) => client.map fun client =>
    (client.getOcspResponse sampleQuery freshResponse ()).1.map (·.1)) hused
  cases hanswer

end RawProofs

end AttestationSdk.Attestation
