import AttestationSdk.HandleTable
import AttestationSdk.InstalledComponents
import AttestationSdk.StepRuns
import Mathlib.Logic.Function.Basic

/-! RIM stores and OCSP clients behind the handles of the C API: `nvat.cpp`. -/
namespace AttestationSdk.Attestation
open AttestationSdk.ChainStatus AttestationSdk.Rim AttestationSdk.Eat AttestationSdk.Gpu
open AttestationSdk.Switch AttestationSdk.Http HandleTable Effects Prog
variable {σ : Type}

/-- The shared pointer behind a handle, with the object the handle was created with. -/
structure Handle (α : Type) where
  created : α
  pointer : Option α

/-- The components that have handles: `nvat_rim_store_t` and `nvat_ocsp_client_t`. -/
inductive Shared where
  | rimStore | ocspClient
  deriving Repr, DecidableEq

def Shared.component : Shared → Component
  | .rimStore => .rimStore
  | .ocspClient => .ocspClient

abbrev Shared.Object (σ : Type) (kind : Shared) : Type := kind.component.Object σ

/-- The setter of a context that takes a component by its shared pointer. -/
def Shared.setter : (kind : Shared) → Option (kind.Object σ) → Setter σ
  | .rimStore, pointer => .defaultRimStore pointer
  | .ocspClient, pointer => .defaultOcspClient pointer

/-- The caching wrappers as objects over a shared pointer, a size and a time to live; their caches
are part of the system. -/
structure CacheWrappers (σ : Type) where
  rimStore : Option (RimStore σ) → Nat → Int → RimStore σ
  ocspClient : Option (OcspClient σ) → Nat → Int → OcspClient σ

def CacheWrappers.wrap (wrappers : CacheWrappers σ) :
    (kind : Shared) → Option (kind.Object σ) → Nat → Int → kind.Object σ
  | .rimStore => wrappers.rimStore
  | .ocspClient => wrappers.ocspClient

/-- What the handles of a process point to. -/
structure Api (σ : Type) where
  handles : (kind : Shared) → Table (Handle (kind.Object σ)) := fun _ => []
  contexts : Table (AttestationContext σ) := []
  gpuLocalVerifiers : Table (LocalGpuVerifier σ) := []
  switchLocalVerifiers : Table (LocalSwitchVerifier σ) := []
  world : σ

/-- A call of the C API; `none` is a null handle. A constructor that reads its arguments comes with
what it makes of them. -/
inductive ApiCall (σ : Type) where
  | create (kind : Shared) (made : Except Error (kind.Object σ))
  | createCached (kind : Shared) (inner : Option Nat) (maxSizeBytes : Nat) (ttlSeconds : Int)
  | free (kind : Shared) (handle : Option Nat)
  | ctxCreate (httpOptions : HttpOptions)
  | ctxFree (ctx : Option Nat)
  | setDefault (kind : Shared) (ctx handle : Option Nat)
  | set (ctx : Option Nat) (setter : Setter σ)
  | attestDevice (ctx : Option Nat) (nonce : Bytes) (wantEat : Bool)
  | gpuLocalVerifierCreate (rimStore ocspClient : Option Nat) (eatOptions : DetachedEATOptions)
  | switchLocalVerifierCreate (rimStore ocspClient : Option Nat) (eatOptions : DetachedEATOptions)

/-- A null handle is refused; a call on a handle that is not live has no outcome. -/
def onHandle {α : Type} (table : Table α) (handle : Option Nat) (api : Api σ)
    (f : Nat → α → Option (Error × Api σ)) : Option (Error × Api σ) :=
  match handle with
  | none => some (.BadArgument, api)
  | some h => (get table h).bind (f h)

def Api.setHandles (api : Api σ) (kind : Shared) (table : Table (Handle (kind.Object σ))) : Api σ :=
  { api with handles := Function.update api.handles kind table }

/-- A new handle for what a constructor made. -/
def nvatCreate (kind : Shared) (made : Except Error (kind.Object σ)) (api : Api σ) :
    Error × Api σ :=
  match made with
  | .error e => (e, api)
  | .ok a => (.Ok, api.setHandles kind (alloc (api.handles kind) ⟨a, some a⟩))

/-- `nvat_rim_store_create_cached`, `nvat_ocsp_client_create_cached`: the shared pointer is
copied, whatever it is. -/
def nvatCreateCached (wrappers : CacheWrappers σ) (kind : Shared) (inner : Option Nat)
    (maxSizeBytes : Nat) (ttlSeconds : Int) (api : Api σ) : Option (Error × Api σ) :=
  onHandle (api.handles kind) inner api fun _ handle =>
    some (nvatCreate kind (.ok (wrappers.wrap kind handle.pointer maxSizeBytes ttlSeconds)) api)

/-- `nvat_rim_store_free`, `nvat_ocsp_client_free`. -/
def nvatFree (kind : Shared) (handle : Option Nat) (api : Api σ) : Option (Error × Api σ) :=
  match handle with
  | none => some (.Ok, api)
  | some h => (get (api.handles kind) h).map fun _ =>
    (.Ok, api.setHandles kind (release (api.handles kind) h))

/-- `nvat_attestation_ctx_set_default_rim_store` and `..._ocsp_client`: the shared pointer is moved
into the parameter of the setter, which leaves a null pointer behind the handle. -/
def nvatAttestationCtxSetDefault (kind : Shared) (ctx handle : Option Nat) (api : Api σ) :
    Option (Error × Api σ) :=
  onHandle api.contexts ctx api fun c context =>
    onHandle (api.handles kind) handle api fun h handle =>
      some (.Ok, { api.setHandles kind (put (api.handles kind) h { handle with pointer := none }) with
        contexts := put api.contexts c ((kind.setter handle.pointer).apply context) })

def nvatAttestationCtxSetDefaultRimStore (ctx handle : Option Nat) :
    Api σ → Option (Error × Api σ) :=
  nvatAttestationCtxSetDefault .rimStore ctx handle

def nvatAttestationCtxSetDefaultOcspClient (ctx handle : Option Nat) :
    Api σ → Option (Error × Api σ) :=
  nvatAttestationCtxSetDefault .ocspClient ctx handle

/-- The setters that take no component. -/
def nvatAttestationCtxSet (ctx : Option Nat) (setter : Setter σ) (api : Api σ) :
    Option (Error × Api σ) :=
  onHandle api.contexts ctx api fun c context =>
    some (.Ok, { api with contexts := put api.contexts c (setter.apply context) })

def nvatAttestationCtxFree (ctx : Option Nat) (api : Api σ) : Option (Error × Api σ) :=
  match ctx with
  | none => some (.Ok, api)
  | some c => (get api.contexts c).map fun _ =>
    (.Ok, { api with contexts := release api.contexts c })

/-- The return code; undefined behaviour is no outcome. -/
def attestationCode : Except Fault Attestation → Option Error
  | .ok attestation => some attestation.rc
  | .error (.code e) => some e
  | .error .exception => some .InternalError
  | .error .undefined | .error .outOfFuel => none

def nvatAttestDevice (env : Platform σ) (factories : Factories σ) (ctx : Option Nat)
    (nonce : Bytes) (wantEat : Bool) (api : Api σ) : Option (Error × Api σ) :=
  onHandle api.contexts ctx api fun c context =>
    let (result, (context, world)) := attestDevice env factories nonce wantEat (context, api.world)
    (attestationCode result).map fun rc =>
      (rc, { api with contexts := put api.contexts c context, world })

/-- A local verifier copies the two shared pointers and refuses null ones. -/
def nvatLocalVerifierCreate (rimStore ocspClient : Option Nat)
    (add : RimStore σ → OcspClient σ → Api σ) (api : Api σ) : Option (Error × Api σ) :=
  onHandle (api.handles .rimStore) rimStore api fun _ rimStore =>
    onHandle (api.handles .ocspClient) ocspClient api fun _ ocspClient =>
      match rimStore.pointer, ocspClient.pointer with
      | some store, some client => some (.Ok, add store client)
      | _, _ => some (.BadArgument, api)

def nvatGpuLocalVerifierCreate (rimStore ocspClient : Option Nat)
    (eatOptions : DetachedEATOptions) (api : Api σ) : Option (Error × Api σ) :=
  nvatLocalVerifierCreate rimStore ocspClient (fun store client => { api with
    gpuLocalVerifiers := alloc api.gpuLocalVerifiers ⟨store, client, eatOptions⟩ }) api

def nvatSwitchLocalVerifierCreate (rimStore ocspClient : Option Nat)
    (eatOptions : DetachedEATOptions) (api : Api σ) : Option (Error × Api σ) :=
  nvatLocalVerifierCreate rimStore ocspClient (fun store client => { api with
    switchLocalVerifiers := alloc api.switchLocalVerifiers ⟨store, client, eatOptions⟩ }) api

section Calls
variable (env : Platform σ) (factories : Factories σ) (wrappers : CacheWrappers σ)

def ApiCall.run : ApiCall σ → Api σ → Option (Error × Api σ)
  | .create kind made, api => some (nvatCreate kind made api)
  | .createCached kind inner maxSizeBytes ttlSeconds, api =>
    nvatCreateCached wrappers kind inner maxSizeBytes ttlSeconds api
  | .free kind handle, api => nvatFree kind handle api
  | .ctxCreate httpOptions, api =>
    some (.Ok, { api with
      contexts := alloc api.contexts { defaultHttpOptions := httpOptions } })
  | .ctxFree ctx, api => nvatAttestationCtxFree ctx api
  | .setDefault .rimStore ctx handle, api => nvatAttestationCtxSetDefaultRimStore ctx handle api
  | .setDefault .ocspClient ctx handle, api =>
    nvatAttestationCtxSetDefaultOcspClient ctx handle api
  | .set ctx setter, api => nvatAttestationCtxSet ctx setter api
  | .attestDevice ctx nonce wantEat, api => nvatAttestDevice env factories ctx nonce wantEat api
  | .gpuLocalVerifierCreate rimStore ocspClient eatOptions, api =>
    nvatGpuLocalVerifierCreate rimStore ocspClient eatOptions api
  | .switchLocalVerifierCreate rimStore ocspClient eatOptions, api =>
    nvatSwitchLocalVerifierCreate rimStore ocspClient eatOptions api

def apiStep (api : Api σ) (call : ApiCall σ) : Option (Api σ) :=
  (call.run env factories wrappers api).map Prod.snd

/-- The component handle that the call installs in a context. -/
def ApiCall.installed : ApiCall σ → Option (Shared × Nat)
  | .setDefault kind (some _) (some h) => some (kind, h)
  | _ => none

/-- What a call does to the component handles. -/
inductive HandleChange (api api' : Api σ) : ApiCall σ → Prop
  | kept {call : ApiCall σ} (hcall : call.installed = none) (h : api'.handles = api.handles) :
      HandleChange api api' call
  | made {call : ApiCall σ} (hcall : call.installed = none) (kind : Shared) (a : kind.Object σ)
      (h : api'.handles =
        (api.setHandles kind (alloc (api.handles kind) ⟨a, some a⟩)).handles) :
      HandleChange api api' call
  | freed {call : ApiCall σ} (hcall : call.installed = none) (kind : Shared) (n : Nat)
      (h : api'.handles = (api.setHandles kind (release (api.handles kind) n)).handles) :
      HandleChange api api' call
  | moved (kind : Shared) (c n : Nat) (context : AttestationContext σ)
      (handle : Handle (kind.Object σ)) (hcontext : get api.contexts c = some context)
      (hhandle : get (api.handles kind) n = some handle)
      (h : api' = { api.setHandles kind
          (put (api.handles kind) n { handle with pointer := none }) with
        contexts := put api.contexts c ((kind.setter handle.pointer).apply context) }) :
      HandleChange api api' (.setDefault kind (some c) (some n))

variable {env factories wrappers}

theorem onHandle_some {α : Type} {table : Table α} {handle : Option Nat} {api : Api σ}
    {f : Nat → α → Option (Error × Api σ)} {r : Error × Api σ}
    (h : onHandle table handle api f = some r) :
    (handle = none ∧ r = (.BadArgument, api)) ∨
      ∃ n a, handle = some n ∧ get table n = some a ∧ f n a = some r := by
  cases handle with
  | none => exact .inl ⟨rfl, (Option.some.inj h).symm⟩
  | some n =>
    obtain ⟨a, hget, hf⟩ := Option.bind_eq_some_iff.mp h
    exact .inr ⟨n, a, rfl, hget, hf⟩

theorem nvatCreate_change {kind : Shared} {made : Except Error (kind.Object σ)} {api : Api σ}
    {call : ApiCall σ} (hcall : call.installed = none) :
    HandleChange api (nvatCreate kind made api).2 call := by
  cases made with
  | error e => exact .kept hcall rfl
  | ok a => exact .made hcall kind a rfl

theorem setDefault_change {kind : Shared} {ctx handle : Option Nat} {api : Api σ}
    {r : Error × Api σ} (h : nvatAttestationCtxSetDefault kind ctx handle api = some r) :
    HandleChange api r.2 (.setDefault kind ctx handle) := by
  cases onHandle_some h with
  | inl hnull =>
    rw [hnull.1, hnull.2]
    exact .kept rfl rfl
  | inr hctx =>
    obtain ⟨c, context, rfl, hcontext, hrest⟩ := hctx
    cases onHandle_some hrest with
    | inl hnull =>
      rw [hnull.1, hnull.2]
      exact .kept rfl rfl
    | inr hhandle =>
      obtain ⟨n, handle, rfl, hget, hr⟩ := hhandle
      rw [← Option.some.inj hr]
      exact .moved kind c n context handle hcontext hget rfl

theorem localVerifierCreate_kept {rimStore ocspClient : Option Nat} {api : Api σ}
    {r : Error × Api σ} {add : RimStore σ → OcspClient σ → Api σ}
    (h : nvatLocalVerifierCreate rimStore ocspClient add api = some r)
    (hadd : ∀ store client, (add store client).handles = api.handles) :
    r.2.handles = api.handles := by
  cases onHandle_some h with
  | inl hnull => rw [hnull.2]
  | inr hrim =>
    obtain ⟨_, _, _, _, hrest⟩ := hrim
    cases onHandle_some hrest with
    | inl hnull => rw [hnull.2]
    | inr hocsp =>
      obtain ⟨_, _, _, _, hr⟩ := hocsp
      split at hr
      · rw [← Option.some.inj hr]
        exact hadd _ _
      · rw [← Option.some.inj hr]

/-- Only the two setters touch a shared pointer behind a handle there is. -/
theorem apiStep_change {api api' : Api σ} {call : ApiCall σ}
    (hstep : apiStep env factories wrappers api call = some api') :
    HandleChange api api' call := by
  obtain ⟨r, hrun, rfl⟩ := Option.map_eq_some_iff.mp hstep
  cases call with
  | create kind made =>
    rw [← Option.some.inj hrun]
    exact nvatCreate_change rfl
  | createCached kind inner maxSizeBytes ttlSeconds =>
    cases onHandle_some hrun with
    | inl hnull =>
      rw [hnull.2]
      exact .kept rfl rfl
    | inr hinner =>
      obtain ⟨_, _, _, _, hr⟩ := hinner
      rw [← Option.some.inj hr]
      exact nvatCreate_change rfl
  | free kind handle =>
    cases handle with
    | none =>
      rw [← Option.some.inj hrun]
      exact .kept rfl rfl
    | some n =>
      obtain ⟨_, _, rfl⟩ := Option.map_eq_some_iff.mp hrun
      exact .freed rfl kind n rfl
  | ctxCreate httpOptions =>
    rw [← Option.some.inj hrun]
    exact .kept rfl rfl
  | ctxFree ctx =>
    cases ctx with
    | none =>
      rw [← Option.some.inj hrun]
      exact .kept rfl rfl
    | some c =>
      obtain ⟨_, _, rfl⟩ := Option.map_eq_some_iff.mp hrun
      exact .kept rfl rfl
  | setDefault kind ctx handle =>
    cases kind with
    | rimStore => exact setDefault_change hrun
    | ocspClient => exact setDefault_change hrun
  | set ctx setter =>
    cases onHandle_some hrun with
    | inl hnull =>
      rw [hnull.2]
      exact .kept rfl rfl
    | inr hctx =>
      obtain ⟨_, _, _, _, hr⟩ := hctx
      rw [← Option.some.inj hr]
      exact .kept rfl rfl
  | attestDevice ctx nonce wantEat =>
    cases onHandle_some hrun with
    | inl hnull =>
      rw [hnull.2]
      exact .kept rfl rfl
    | inr hctx =>
      obtain ⟨_, _, _, _, hr⟩ := hctx
      obtain ⟨_, _, rfl⟩ := Option.map_eq_some_iff.mp hr
      exact .kept rfl rfl
  | gpuLocalVerifierCreate rimStore ocspClient eatOptions =>
    exact .kept rfl (localVerifierCreate_kept hrun fun _ _ => rfl)
  | switchLocalVerifierCreate rimStore ocspClient eatOptions =>
    exact .kept rfl (localVerifierCreate_kept hrun fun _ _ => rfl)

theorem setHandles_self (api : Api σ) (kind : Shared) (table : Table (Handle (kind.Object σ))) :
    (api.setHandles kind table).handles kind = table := by
  simp only [Api.setHandles, Function.update_self]

theorem setHandles_of_ne {api : Api σ} {kind other : Shared} (hne : other ≠ kind)
    (table : Table (Handle (kind.Object σ))) :
    (api.setHandles kind table).handles other = api.handles other := by
  simp only [Api.setHandles, Function.update_of_ne hne]

/-- The handles that a setter was given have a null pointer, and no others. -/
structure Used (used : List (Shared × Nat)) (api : Api σ) : Prop where
  known : ∀ kind n, (kind, n) ∈ used → n < (api.handles kind).length
  pointer : ∀ kind n handle, get (api.handles kind) n = some handle →
    handle.pointer = if (kind, n) ∈ used then none else some handle.created

section Used
variable {used : List (Shared × Nat)} {api api' : Api σ} {call : ApiCall σ}

/-- Other handles of the same table, and the other table. -/
theorem Used.setHandles (hu : Used used api) {kind : Shared}
    {table : Table (Handle (kind.Object σ))} (more : List (Shared × Nat))
    (hknown : ∀ n, (kind, n) ∈ more ++ used → n < table.length)
    (hmore : ∀ other n, (other, n) ∈ more → other = kind)
    (hpointer : ∀ n handle, get table n = some handle →
      handle.pointer = if (kind, n) ∈ more ++ used then none else some handle.created) :
    Used (more ++ used) (api.setHandles kind table) where
  known other n hmem := by
    by_cases heq : other = kind
    · cases heq
      rw [setHandles_self]
      exact hknown n hmem
    · rw [setHandles_of_ne heq]
      refine hu.known other n ((List.mem_append.mp hmem).resolve_left fun hin => heq ?_)
      exact hmore other n hin
  pointer other n handle hget := by
    by_cases heq : other = kind
    · cases heq
      rw [setHandles_self] at hget
      exact hpointer n handle hget
    · rw [setHandles_of_ne heq] at hget
      have hsame : (other, n) ∈ more ++ used ↔ (other, n) ∈ used := by
        rw [List.mem_append]
        exact or_iff_right fun hin => heq (hmore other n hin)
      rw [hu.pointer other n handle hget, if_congr hsame rfl rfl]

theorem Used.congr (hu : Used used api) (h : api'.handles = api.handles) : Used used api' where
  known := h ▸ hu.known
  pointer := h ▸ hu.pointer

theorem Used.step (hu : Used used api)
    (hstep : apiStep env factories wrappers api call = some api') :
    Used (call.installed.toList ++ used) api' := by
  cases apiStep_change hstep with
  | kept hcall h =>
    rw [hcall]
    exact hu.congr h
  | made hcall kind a h =>
    rw [hcall]
    refine Used.congr (hu.setHandles [] ?_ nofun ?_) h
    · intro n hmem
      rw [alloc, List.length_append]
      exact Nat.lt_add_right _ (hu.known kind n hmem)
    · intro n handle hget
      cases get_alloc hget with
      | inl hold => exact hu.pointer kind n handle hold
      | inr hnew =>
        have hfresh : (kind, n) ∉ used := fun hmem =>
          Nat.lt_irrefl n (hnew.1 ▸ hu.known kind n hmem)
        rw [hnew.2, List.nil_append, if_neg hfresh]
  | freed hcall kind n h =>
    rw [hcall]
    refine Used.congr (hu.setHandles [] ?_ nofun ?_) h
    · intro k hmem
      rw [length_release]
      exact hu.known kind k hmem
    · exact fun k handle hget => hu.pointer kind k handle (get_release hget)
  | moved kind c n context handle hcontext hhandle h =>
    refine Used.congr (hu.setHandles [(kind, n)] ?_ ?_ ?_) (by rw [h])
    · intro k hmem
      rw [length_put]
      cases List.mem_cons.mp hmem with
      | inl heq =>
        rw [show k = n from congrArg Prod.snd heq]
        exact get_lt hhandle
      | inr hold => exact hu.known kind k hold
    · exact fun other k hmem => (Prod.ext_iff.mp (List.mem_singleton.mp hmem)).1
    · intro k other hget
      by_cases heq : k = n
      · rw [heq, get_put_self hhandle] at hget
        rw [← Option.some.inj hget, heq]
        exact (if_pos (List.mem_cons_self)).symm
      · rw [get_put_of_ne heq] at hget
        have hsame : (kind, k) ∈ [(kind, n)] ++ used ↔ (kind, k) ∈ used := by
          rw [List.singleton_append, List.mem_cons, Prod.mk.injEq]
          exact or_iff_right fun hin => heq hin.2
        rw [hu.pointer kind k other hget, if_congr hsame rfl rfl]

end Used

variable (env factories wrappers) in
/-- A setter that returns Ok puts the component that the handle was created with into the context,
and `ensure_init` leaves it there. -/
def InstallsCreated (api : Api σ) (call : ApiCall σ) : Prop :=
  ∀ kind c n api', call = .setDefault kind (some c) (some n) →
    call.run env factories wrappers api = some (.Ok, api') →
    ∃ handle context, get (api.handles kind) n = some handle ∧ get api'.contexts c = some context ∧
      held kind.component context = some handle.created ∧
      ∀ s, held kind.component (ensureInit factories (context, s)).2.1 = some handle.created

/-- Every live handle denotes the component that it was created with. -/
def Denotes (api : Api σ) : Prop :=
  ∀ kind n handle, get (api.handles kind) n = some handle → handle.pointer = some handle.created

variable (env factories wrappers) in
/-- What sharing a handle needs of a call. -/
def KeepsShared (api : Api σ) (call : ApiCall σ) : Prop :=
  InstallsCreated env factories wrappers api call ∧
    ∀ api', apiStep env factories wrappers api call = some api' → Denotes api'

section Runs
variable {used : List (Shared × Nat)} {api api' last : Api σ} {call : ApiCall σ}

theorem installsCreated_of_none (hcall : call.installed = none) :
    InstallsCreated env factories wrappers api call := by
  intro kind c n api' heq
  rw [heq] at hcall
  cases hcall

theorem held_setter (kind : Shared) (pointer : Option (kind.Object σ))
    (context : AttestationContext σ) :
    held kind.component ((kind.setter pointer).apply context) = pointer := by
  cases kind with
  | rimStore => rfl
  | ocspClient => rfl

/-- `ensure_init` keeps a component that is there. -/
theorem ensureInit_held {c : Component} {x : c.Object σ} {context : AttestationContext σ} (s : σ)
    (h : held c context = some x) : held c (ensureInit factories (context, s)).2.1 = some x :=
  (maintains_ensureInit factories (context, s)
    (⟨h, False.elim, False.elim⟩ : Serves c x False False context)).held

theorem setDefault_rc {kind : Shared} {c n : Nat} {r : Error × Api σ}
    (h : (ApiCall.setDefault kind (some c) (some n)).run env factories wrappers api = some r) :
    r.1 = .Ok := by
  have hrun : nvatAttestationCtxSetDefault kind (some c) (some n) api = some r := by
    cases kind with
    | rimStore => exact h
    | ocspClient => exact h
  obtain ⟨context, -, hrest⟩ := Option.bind_eq_some_iff.mp hrun
  obtain ⟨handle, -, hr⟩ := Option.bind_eq_some_iff.mp hrest
  rw [← Option.some.inj hr]

/-- A call on a handle that a setter was given before, and only such a call, installs nothing. -/
theorem installsCreated_iff (hu : Used used api) {kind : Shared} {c n : Nat}
    (hstep : apiStep env factories wrappers api (.setDefault kind (some c) (some n)) = some api') :
    InstallsCreated env factories wrappers api (.setDefault kind (some c) (some n)) ↔
      (kind, n) ∉ used := by
  cases apiStep_change hstep with
  | kept hcall => cases hcall
  | made hcall => cases hcall
  | freed hcall => cases hcall
  | moved _ _ _ context handle hcontext hhandle h =>
    have hrun : (ApiCall.setDefault kind (some c) (some n)).run env factories wrappers api =
        some (.Ok, api') := by
      obtain ⟨r, hrun, hr⟩ := Option.map_eq_some_iff.mp hstep
      rw [hrun, ← hr, ← setDefault_rc hrun]
    have hpointer := hu.pointer kind n handle hhandle
    have hcontext' : get api'.contexts c =
        some ((kind.setter handle.pointer).apply context) := by
      rw [h]
      exact get_put_self hcontext
    constructor
    · intro hinstalls hmem
      obtain ⟨same, after, hsame, hafter, hheld, -⟩ := hinstalls kind c n api' rfl hrun
      rw [hcontext'] at hafter
      rw [← Option.some.inj hafter, held_setter, hpointer, if_pos hmem] at hheld
      cases hheld
    · intro hnew kind' c' n' api'' hcall hrun'
      cases hcall
      cases (Option.some.inj (hrun.symm.trans hrun'))
      have hheld : held kind.component ((kind.setter handle.pointer).apply context) =
          some handle.created := by
        rw [held_setter, hpointer, if_neg hnew]
      exact ⟨handle, _, hhandle, hcontext', hheld, fun s => ensureInit_held s hheld⟩

theorem installed_some {x : Shared × Nat} (h : call.installed = some x) :
    ∃ c, call = .setDefault x.1 (some c) (some x.2) := by
  cases call with
  | setDefault kind ctx handle =>
    cases ctx with
    | none => cases h
    | some c =>
      cases handle with
      | none => cases h
      | some n =>
        cases h
        exact ⟨c, rfl⟩
  | _ => cases h

/-- The setters of a run install what their handles were created with exactly when no handle is
given to a setter twice. -/
theorem allMeet_installs_iff {calls : List (ApiCall σ)} (hu : Used used api)
    (hrun : StepRuns.run (apiStep env factories wrappers) calls api = some last) :
    StepRuns.AllMeet (apiStep env factories wrappers) (InstallsCreated env factories wrappers)
        calls api ↔
      (calls.filterMap ApiCall.installed).Nodup ∧
        ∀ x ∈ calls.filterMap ApiCall.installed, x ∉ used := by
  induction calls generalizing used api with
  | nil => exact iff_of_true trivial ⟨List.nodup_nil, nofun⟩
  | cons call rest ih =>
    obtain ⟨api', hstep, hrest⟩ := StepRuns.run_cons.mp hrun
    have hnext := ih (hu.step hstep) hrest
    rw [StepRuns.allMeet_cons_iff hstep, hnext]
    cases hcall : call.installed with
    | none =>
      rw [List.filterMap_cons_none hcall]
      exact and_iff_right (installsCreated_of_none hcall)
    | some x =>
      obtain ⟨c, rfl⟩ := installed_some hcall
      rw [installsCreated_iff hu hstep, List.filterMap_cons_some hcall, List.nodup_cons,
        List.forall_mem_cons]
      simp only [Option.toList_some, List.singleton_append, List.mem_cons, not_or]
      constructor
      · rintro ⟨hfirst, hnodup, hlater⟩
        exact ⟨⟨fun hmem => (hlater x hmem).1 rfl, hnodup⟩, hfirst, fun y hy => (hlater y hy).2⟩
      · rintro ⟨⟨honce, hnodup⟩, hfirst, hlater⟩
        exact ⟨hfirst, hnodup, fun y hy => ⟨fun heq => honce (heq ▸ hy), hlater y hy⟩⟩

/-- A setter that takes a handle empties it, so a run keeps all handles only without such calls. -/
theorem allMeet_keepsShared_iff {calls : List (ApiCall σ)} (hu : Used [] api)
    (hrun : StepRuns.run (apiStep env factories wrappers) calls api = some last) :
    StepRuns.AllMeet (apiStep env factories wrappers) (KeepsShared env factories wrappers)
        calls api ↔ calls.filterMap ApiCall.installed = [] := by
  induction calls generalizing api with
  | nil => exact iff_of_true trivial rfl
  | cons call rest ih =>
    obtain ⟨api', hstep, hrest⟩ := StepRuns.run_cons.mp hrun
    have hnext := hu.step hstep
    rw [StepRuns.allMeet_cons_iff hstep]
    cases hcall : call.installed with
    | none =>
      rw [hcall] at hnext
      rw [List.filterMap_cons_none hcall, ih hnext hrest]
      refine and_iff_right ⟨installsCreated_of_none hcall, fun api'' hstep' => ?_⟩
      cases Option.some.inj (hstep.symm.trans hstep')
      exact fun kind n handle hget => hnext.pointer kind n handle hget
    | some x =>
      rw [List.filterMap_cons_some hcall]
      refine iff_of_false (fun hkeeps => ?_) (List.cons_ne_nil _ _)
      obtain ⟨c, rfl⟩ := installed_some hcall
      cases apiStep_change hstep with
      | kept hnone => cases hnone
      | made hnone => cases hnone
      | freed hnone => cases hnone
      | moved _ _ _ context handle hcontext hhandle h =>
        have hemptied : get (api'.handles x.1) x.2 = some { handle with pointer := none } := by
          rw [h]
          exact (congrArg (get · x.2) (setHandles_self api x.1 _)).trans (get_put_self hhandle)
        cases hkeeps.1.2 api' hstep x.1 x.2 _ hemptied

end Runs

/-- A process before its first call. -/
def Api.new (world : σ) : Api σ where
  world := world

theorem used_new (world : σ) : Used [] (Api.new world) where
  known _ _ h := by cases h
  pointer _ _ _ h := by cases h

/-- Handles can be shared exactly where no setter of a context is given one, and the components in
the contexts are the right ones exactly where no handle is given to a setter twice. -/
theorem shared_handles_iff (env : Platform σ) (factories : Factories σ)
    (wrappers : CacheWrappers σ) (world : σ) (calls : List (ApiCall σ)) (last : Api σ)
    (hrun : StepRuns.run (apiStep env factories wrappers) calls (Api.new world) = some last) :
    (StepRuns.AllMeet (apiStep env factories wrappers) (KeepsShared env factories wrappers) calls
        (Api.new world) ↔ calls.filterMap ApiCall.installed = []) ∧
    (StepRuns.AllMeet (apiStep env factories wrappers) (InstallsCreated env factories wrappers)
        calls (Api.new world) ↔ (calls.filterMap ApiCall.installed).Nodup) := by
  refine ⟨allMeet_keepsShared_iff (used_new world) hrun, ?_⟩
  rw [allMeet_installs_iff (used_new world) hrun]
  exact and_iff_left fun _ _ h => by cases h

end Calls

def sampleWrappers : CacheWrappers Unit where
  rimStore _ _ _ := ⟨fun _ rim => pure (.RimNotFound, rim)⟩
  ocspClient _ _ _ := ⟨fun _ resp => pure (.OcspServerError, resp)⟩

/-- One OCSP client for two contexts. -/
def sharedClientCalls : List (ApiCall Unit) :=
  [.create .ocspClient (.ok (⟨fun _ resp => pure (.OcspServerError, resp)⟩ : OcspClient Unit)),
    .ctxCreate sampleHttpOptions, .ctxCreate sampleHttpOptions,
    .setDefault .ocspClient (some 0) (some 0), .setDefault .ocspClient (some 1) (some 0)]

theorem sharedClientCalls_iff :
    ∃ last, StepRuns.run (apiStep samplePlatform sampleFactories sampleWrappers)
        sharedClientCalls (Api.new ()) = some last ∧
      (StepRuns.AllMeet (apiStep samplePlatform sampleFactories sampleWrappers)
          (KeepsShared samplePlatform sampleFactories sampleWrappers) sharedClientCalls
          (Api.new ()) ↔ sharedClientCalls.filterMap ApiCall.installed = []) ∧
      (StepRuns.AllMeet (apiStep samplePlatform sampleFactories sampleWrappers)
          (InstallsCreated samplePlatform sampleFactories sampleWrappers) sharedClientCalls
          (Api.new ()) ↔ (sharedClientCalls.filterMap ApiCall.installed).Nodup) :=
  ⟨_, rfl, shared_handles_iff samplePlatform sampleFactories sampleWrappers () sharedClientCalls _
    rfl⟩

/-- The second context gets a null client, and Ok. -/
theorem second_context_without_client :
    ¬ ∀ (env : Platform Unit) factories wrappers world calls last,
      StepRuns.run (apiStep env factories wrappers) calls (Api.new world) = some last →
      StepRuns.AllMeet (apiStep env factories wrappers) (KeepsShared env factories wrappers) calls
        (Api.new world) := by
  intro hclaim
  have hall := hclaim samplePlatform sampleFactories sampleWrappers () sharedClientCalls _ rfl
  have hlater := (((hall.2 _ rfl).2 _ rfl).2 _ rfl).2 _ rfl
  obtain ⟨handle, context, hhandle, hcontext, hheld, -⟩ :=
    hlater.1.1 .ocspClient 1 0 _ rfl rfl
  cases hcontext
  cases hheld

end AttestationSdk.Attestation
