import AttestationSdk.Error
import AttestationSdk.StepRuns
import Mathlib.Logic.Function.Basic

/-! Driver libraries that are opened on first use: `nvml_client.cpp`, `nscq_client.cpp` and
`corelib_client.cpp`, with any number of callers at once. -/
namespace AttestationSdk.Driver
open StepRuns

inductive DriverLibrary where
  | nvml | nscq | corelib
  deriving Repr, DecidableEq

def DriverLibrary.initFailed : DriverLibrary → Error
  | .nvml => .NvmlInitFailed
  | .nscq => .NscqInitFailed
  | .corelib => .CorelibInitFailed

/-- The library has a call that opens it and one that closes it: `nvmlInit` and `nvmlShutdown`,
`nscq_session_create` and `nscq_session_destroy`. -/
def DriverLibrary.hasSession : DriverLibrary → Bool
  | .nvml | .nscq => true
  | .corelib => false

/-- `init.cpp` has a `handle_shutdown` for the library. -/
def DriverLibrary.hasHandler : DriverLibrary → Bool
  | .nvml | .nscq => true
  | .corelib => false

/-- What `dlopen`, the symbols and the library's first call answer. -/
structure Loader where
  dlopen : Bool
  symbols : Bool
  initCall : Bool
  deriving Repr, DecidableEq

/-- The library can be loaded and its first call succeeds. -/
def Loader.Succeeds (loader : Loader) : Prop :=
  loader.dlopen = true ∧ loader.symbols = true ∧ loader.initCall = true

inductive OnceFlag where
  | fresh
  | running (caller : Nat)
  | done
  deriving Repr, DecidableEq

/-- The flag, the function table with its library handle, and the `once_flag`. -/
structure Globals where
  initialized : Bool := false
  loaded : Bool := false
  once : OnceFlag := .fresh
  deriving Repr, DecidableEq

/-- What the function given to `call_once` does. -/
def onceBody (lib : DriverLibrary) (loader : Loader) (g : Globals) : Globals × Error :=
  if !loader.dlopen then ({ g with loaded := false }, lib.initFailed)
  else if !loader.symbols then ({ g with loaded := false }, lib.initFailed)
  else if lib.hasSession && !loader.initCall then ({ g with loaded := false }, lib.initFailed)
  else ({ g with loaded := true, initialized := true }, .Ok)

/-- Where a caller is. A shutdown may come from its `handle_shutdown`. -/
inductive Place where
  | idle
  | initCalled
  | atOnce
  | inOnce
  | returning (rc : Error)
  | handlerCalled
  | shutdownCalled (handled : Bool)
  | shuttingDown (handled : Bool)
  | clearing
  deriving Repr, DecidableEq

inductive Event where
  | loaded (caller : Nat)
  | shutDown (caller : Nat)
  | returned (caller : Nat) (rc : Error)
  deriving Repr, DecidableEq

structure System where
  globals : Globals := {}
  place : Nat → Place := fun _ => .idle
  log : List Event := []

inductive Action where
  | callInit (caller : Nat)
  | callShutdown (caller : Nat)
  | callHandler (caller : Nat)
  | advance (caller : Nat)
  deriving Repr, DecidableEq

def System.goto (s : System) (caller : Nat) (place : Place) : System :=
  { s with place := Function.update s.place caller place }

def System.add (s : System) (event : Event) : System := { s with log := s.log ++ [event] }

section Steps
variable (lib : DriverLibrary) (loader : Loader)

/-- The end of a shutdown: its `handle_shutdown` clears the flag once more. -/
def afterShutdown (handled : Bool) : Place := if handled then .clearing else .idle

/-- The next thing a caller does: a flag read, the body of `call_once`, a shutdown or the return.
Whoever comes to `call_once` while the body runs waits. -/
def advance (s : System) (caller : Nat) : Option System :=
  match s.place caller with
  | .idle => none
  | .initCalled =>
    some (s.goto caller (if s.globals.initialized then .returning .Ok else .atOnce))
  | .atOnce => match s.globals.once with
    | .fresh =>
      some { s.goto caller .inOnce with globals := { s.globals with once := .running caller } }
    | .running _ => none
    | .done => some (s.goto caller (.returning lib.initFailed))
  | .inOnce =>
    let (g, rc) := onceBody lib loader s.globals
    let s := { s.goto caller (.returning rc) with globals := { g with once := .done } }
    some (if g.loaded then s.add (.loaded caller) else s)
  | .returning rc => some ((s.goto caller .idle).add (.returned caller rc))
  | .handlerCalled =>
    some (s.goto caller (if s.globals.initialized then .shutdownCalled true else .idle))
  | .shutdownCalled handled =>
    some (s.goto caller (if s.globals.initialized && s.globals.loaded then .shuttingDown handled
      else afterShutdown handled))
  | .shuttingDown handled =>
    -- a second shutdown calls through the emptied table
    if lib.hasSession && !s.globals.loaded then none
    else some ({ s.goto caller (afterShutdown handled) with
      globals := { s.globals with loaded := false, initialized := false } }.add (.shutDown caller))
  | .clearing =>
    some { s.goto caller .idle with globals := { s.globals with initialized := false } }

def start (s : System) (caller : Nat) (place : Place) : Option System :=
  if s.place caller = .idle then some (s.goto caller place) else none

def step (s : System) : Action → Option System
  | .callInit caller => start s caller .initCalled
  | .callShutdown caller => start s caller (.shutdownCalled false)
  | .callHandler caller => if lib.hasHandler then start s caller .handlerCalled else none
  | .advance caller => advance lib loader s caller

end Steps

/-- `init_nvml`, `init_nscq` and `init_corelib` with their shutdowns. -/
def nvmlStep (loader : Loader) : System → Action → Option System := step .nvml loader
def nscqStep (loader : Loader) : System → Action → Option System := step .nscq loader
def corelibStep (loader : Loader) : System → Action → Option System := step .corelib loader

/-- The table was loaded and not shut down since. -/
def StillLoaded (log : List Event) : Prop :=
  ∃ before caller after, log = before ++ .loaded caller :: after ∧
    ∀ event ∈ after, ∀ u, event ≠ .shutDown u

/-- Every init call that returned returned `Ok`, with the table loaded and not shut down since. -/
def InitsAgree (log : List Event) : Prop :=
  ∀ before caller rc after, log = before ++ .returned caller rc :: after →
    rc = .Ok ∧ StillLoaded before

/-- No init call comes to `call_once` after its body has run, and no shutdown empties the table
while an init call is about to return. -/
def Undisturbed (s : System) : Action → Prop
  | .advance caller =>
    (s.place caller = .atOnce → s.globals.once ≠ .done) ∧
    (∀ handled, s.place caller = .shuttingDown handled →
      ∀ other rc, s.place other ≠ .returning rc)
  | _ => True

section Logs
variable {log : List Event} {event : Event}

theorem StillLoaded.add (h : StillLoaded log) (hevent : ∀ u, event ≠ .shutDown u) :
    StillLoaded (log ++ [event]) := by
  cases h with
  | intro before h =>
    obtain ⟨caller, after, hlog, hafter⟩ := h
    refine ⟨before, caller, after ++ [event], ?_, fun later hlater => ?_⟩
    · rw [hlog, List.append_assoc, List.cons_append]
    · cases List.mem_append.mp hlater with
      | inl hmem => exact hafter later hmem
      | inr hmem => exact List.mem_singleton.mp hmem ▸ hevent

theorem stillLoaded_loaded (log : List Event) (caller : Nat) :
    StillLoaded (log ++ [.loaded caller]) := by
  refine ⟨log, caller, [], rfl, fun event hevent => ?_⟩
  cases hevent

theorem InitsAgree.add (h : InitsAgree log)
    (hevent : ∀ caller rc, event = .returned caller rc → rc = .Ok ∧ StillLoaded log) :
    InitsAgree (log ++ [event]) := by
  intro before caller rc after hlog
  cases List.eq_nil_or_concat after with
  | inl hnil =>
    rw [hnil] at hlog
    have hends := List.append_inj' hlog rfl
    rw [← hends.1]
    exact hevent caller rc (List.head_eq_of_cons_eq hends.2)
  | inr hlast =>
    obtain ⟨rest, last, hafter⟩ := hlast
    rw [hafter, List.concat_eq_append, ← List.cons_append, ← List.append_assoc] at hlog
    exact h before caller rc rest (List.append_inj' hlog rfl).1

end Logs

/-- What holds while nothing disturbs the init calls. -/
structure Inv (s : System) : Prop where
  returning : ∀ caller rc, s.place caller = .returning rc → rc = .Ok ∧ s.globals.loaded = true
  initialized : s.globals.initialized = true → s.globals.loaded = true
  loaded : s.globals.loaded = true → StillLoaded s.log
  agree : InitsAgree s.log

theorem inv_empty : Inv {} where
  returning := nofun
  initialized := nofun
  loaded := nofun
  agree before caller rc after h := by cases before <;> cases h

section Invariant
variable {lib : DriverLibrary} {loader : Loader} {s s' : System}

@[simp] theorem goto_place (s : System) (caller other : Nat) (place : Place) :
    (s.goto caller place).place other = if other = caller then place else s.place other :=
  Function.update_apply s.place caller place other

/-- Moving a caller; a return needs the table. -/
theorem Inv.goto (h : Inv s) {caller : Nat} {place : Place}
    (hplace : ∀ rc, place = .returning rc → rc = .Ok ∧ s.globals.loaded = true) :
    Inv (s.goto caller place) := by
  refine ⟨fun other rc hother => ?_, h.initialized, h.loaded, h.agree⟩
  rw [goto_place] at hother
  split at hother
  · exact hplace rc hother
  · exact h.returning other rc hother

theorem onceBody_succeeds (hloader : loader.Succeeds) (g : Globals) :
    onceBody lib loader g = ({ g with loaded := true, initialized := true }, .Ok) := by
  simp [onceBody, hloader.1, hloader.2.1, hloader.2.2]

theorem Inv.start (h : Inv s) {caller : Nat} {place : Place} (hplace : ∀ rc, place ≠ .returning rc)
    (hstep : start s caller place = some s') : Inv s' := by
  rw [Driver.start] at hstep
  split at hstep
  · cases hstep
    exact h.goto fun rc heq => absurd heq (hplace rc)
  · cases hstep

theorem Inv.advance (h : Inv s) (hloader : loader.Succeeds) {caller : Nat}
    (hcond : Undisturbed s (.advance caller)) (hstep : advance lib loader s caller = some s') :
    Inv s' := by
  rw [Driver.advance] at hstep
  cases hplace : s.place caller with
  | idle =>
    rw [hplace] at hstep
    cases hstep
  | initCalled =>
    rw [hplace] at hstep
    cases hstep
    refine h.goto fun rc hrc => ?_
    split at hrc
    · next hread =>
      cases hrc
      exact ⟨rfl, h.initialized hread⟩
    · cases hrc
  | atOnce =>
    rw [hplace] at hstep
    cases honce : s.globals.once with
    | fresh =>
      simp only [honce, Option.some.injEq] at hstep
      have hmoved : Inv (s.goto caller .inOnce) := h.goto nofun
      rw [← hstep]
      exact ⟨hmoved.returning, h.initialized, h.loaded, h.agree⟩
    | running other =>
      simp only [honce] at hstep
      cases hstep
    | done => exact absurd honce (hcond.1 hplace)
  | inOnce =>
    simp only [hplace, onceBody_succeeds hloader, if_true, Option.some.injEq] at hstep
    rw [← hstep]
    refine ⟨fun other rc hother => ?_, fun _ => rfl, fun _ => stillLoaded_loaded s.log caller,
      h.agree.add nofun⟩
    refine ⟨?_, rfl⟩
    change (s.goto caller (.returning .Ok)).place other = .returning rc at hother
    rw [goto_place] at hother
    split at hother
    · cases hother
      rfl
    · exact (h.returning other rc hother).1
  | returning rc =>
    rw [hplace] at hstep
    cases hstep
    have hmoved : Inv (s.goto caller .idle) := h.goto nofun
    have hready := h.returning caller rc hplace
    refine ⟨hmoved.returning, h.initialized, fun hloaded => ?_, h.agree.add ?_⟩
    · exact (h.loaded hloaded).add nofun
    · intro other code heq
      cases heq
      exact ⟨hready.1, h.loaded hready.2⟩
  | handlerCalled =>
    rw [hplace] at hstep
    cases hstep
    refine h.goto fun rc hrc => ?_
    split at hrc
    · cases hrc
    · cases hrc
  | shutdownCalled handled =>
    rw [hplace] at hstep
    cases hstep
    refine h.goto fun rc hrc => ?_
    split at hrc
    · cases hrc
    · cases handled
      · cases hrc
      · cases hrc
  | shuttingDown handled =>
    simp only [hplace] at hstep
    -- nobody is about to return, so emptying the table harms no init call
    have hnone := hcond.2 handled hplace
    split at hstep
    · cases hstep
    · cases hstep
      refine ⟨fun other rc hother => ?_, nofun, nofun, h.agree.add nofun⟩
      change (s.goto caller (afterShutdown handled)).place other = .returning rc at hother
      rw [goto_place] at hother
      split at hother
      · cases handled
        · cases hother
        · cases hother
      · exact absurd hother (hnone other rc)
  | clearing =>
    rw [hplace] at hstep
    cases hstep
    have hmoved : Inv (s.goto caller .idle) := h.goto nofun
    exact ⟨hmoved.returning, nofun, h.loaded, h.agree⟩

theorem Inv.step (h : Inv s) (hloader : loader.Succeeds) {action : Action}
    (hcond : Undisturbed s action) (hstep : step lib loader s action = some s') : Inv s' := by
  cases action with
  | callInit caller =>
    have hplace (rc : Error) : Place.initCalled ≠ .returning rc := nofun
    exact h.start hplace hstep
  | callShutdown caller =>
    have hplace (rc : Error) : Place.shutdownCalled false ≠ .returning rc := nofun
    exact h.start hplace hstep
  | callHandler caller =>
    have hplace (rc : Error) : Place.handlerCalled ≠ .returning rc := nofun
    rw [Driver.step] at hstep
    split at hstep
    · exact h.start hplace hstep
    · cases hstep
  | advance caller => exact h.advance hloader hcond hstep

/-- In every undisturbed run every init call that returns returns `Ok` with the table loaded. -/
theorem undisturbed_inits_agree (lib : DriverLibrary) (hloader : loader.Succeeds)
    (actions : List Action) (s : System) (hmeet : AllMeet (step lib loader) Undisturbed actions {})
    (hrun : run (step lib loader) actions {} = some s) : InitsAgree s.log := by
  have hstep (s : System) (a : Action) (s' : System) (h : Inv s) (hcond : Undisturbed s a)
      (htaken : Driver.step lib loader s a = some s') : Inv s' := h.step hloader hcond htaken
  exact (run_inv hstep hrun hmeet inv_empty).agree

end Invariant

def goodLoader : Loader := ⟨true, true, true⟩

/-- Two callers one after the other: the second reads the flag that the first has set. -/
def oneByOne : List Action :=
  [.callInit 0, .advance 0, .advance 0, .advance 0, .advance 0, .callInit 1, .advance 1, .advance 1]

theorem oneByOne_agree :
    ∃ s, run (step .nvml goodLoader) oneByOne {} = some s ∧ InitsAgree s.log := by
  refine ⟨_, rfl, ?_⟩
  have hmeet : AllMeet (step .nvml goodLoader) Undisturbed oneByOne {} := by
    apply allMeet_cons rfl trivial
    apply allMeet_cons rfl ⟨nofun, nofun⟩
    apply allMeet_cons rfl ⟨nofun, nofun⟩
    apply allMeet_cons rfl ⟨nofun, nofun⟩
    apply allMeet_cons rfl ⟨nofun, nofun⟩
    apply allMeet_cons rfl trivial
    apply allMeet_cons rfl ⟨nofun, nofun⟩
    exact allMeet_cons rfl ⟨nofun, nofun⟩ trivial
  exact undisturbed_inits_agree .nvml ⟨rfl, rfl, rfl⟩ oneByOne _ hmeet rfl

/-- Both callers read the flag before the first one has set it. -/
def atTheSameTime : List Action :=
  [.callInit 0, .callInit 1, .advance 0, .advance 1, .advance 0, .advance 0, .advance 1,
    .advance 1]

/-- The caller that waited is told that the loaded library could not be loaded. -/
theorem waiting_caller_fails :
    ¬ ∀ (loader : Loader) (actions : List Action) (s : System), loader.Succeeds →
      run (nvmlStep loader) actions {} = some s → InitsAgree s.log := by
  intro hclaim
  have hagree := hclaim goodLoader atTheSameTime _ ⟨rfl, rfl, rfl⟩ rfl
  have hreturned := hagree [.loaded 0] 1 .NvmlInitFailed [] rfl
  cases hreturned.1

end AttestationSdk.Driver
