import AttestationSdk.DriverLibraries
import Mathlib.Data.List.Induction

/-! `init` and `shutdown` of the SDK: `init.cpp`. -/
namespace AttestationSdk.Lifecycle
open AttestationSdk.Driver
variable {L : Type}

structure SdkOptions (L : Type) where
  logger : Option L
  deriving Repr, DecidableEq

/-- What libxml2 and xmlsec have set up. -/
structure XmlState where
  parser : Bool := false
  library : Bool := false
  cryptoApp : Bool := false
  crypto : Bool := false
  deriving Repr, DecidableEq

/-- The answers of `xmlSecInit`, `xmlSecCheckVersion`, `xmlSecCryptoAppInit` and `xmlSecCryptoInit`. -/
structure XmlSec where
  init : Int
  checkVersion : Int
  cryptoAppInit : Int
  cryptoInit : Int
  deriving Repr, DecidableEq

def XmlSec.Succeeds (xmlsec : XmlSec) : Prop :=
  0 ≤ xmlsec.init ∧ xmlsec.checkVersion = 1 ∧ 0 ≤ xmlsec.cryptoAppInit ∧ 0 ≤ xmlsec.cryptoInit

inductive Resource where
  | xmlsec | options | logger
  deriving Repr, DecidableEq

/-- The globals of the SDK with what was released so far. `initialized` is the static of `init`. -/
structure Sdk (L : Type) where
  initialized : Option Error := none
  sdkOptions : Option (SdkOptions L) := none
  logger : Option L := none
  xml : XmlState := {}
  nvml : Globals := {}
  nscq : Globals := {}
  released : List Resource := []
  deriving Repr, DecidableEq

/-- The XML security library, a logger and the options are there. -/
def Sdk.Ready (sdk : Sdk L) : Prop :=
  sdk.xml = ⟨true, true, true, true⟩ ∧ sdk.logger.isSome ∧ sdk.sdkOptions.isSome

section Init
variable (defaultLogger : L) (xmlsec : XmlSec)

def handleInitLogger (options : SdkOptions L) (sdk : Sdk L) : Sdk L :=
  { sdk with logger := some (options.logger.getD defaultLogger) }

def handleInitXmlsec (xml : XmlState) : Error × XmlState :=
  let xml := { xml with parser := true }
  if xmlsec.init < 0 then (.XmlInitFailed, xml) else
    let xml := { xml with library := true }
    if xmlsec.checkVersion ≠ 1 then (.XmlInitFailed, xml)
    else if xmlsec.cryptoAppInit < 0 then (.XmlInitFailed, xml) else
      let xml := { xml with cryptoApp := true }
      if xmlsec.cryptoInit < 0 then (.XmlInitFailed, xml)
      else (.Ok, { xml with crypto := true })

/-- The initialiser of the static, which runs once in a process. -/
def firstInit (options : Option (SdkOptions L)) (sdk : Sdk L) : Error × Sdk L :=
  let options := options.getD ⟨none⟩
  let sdk := handleInitLogger defaultLogger options { sdk with sdkOptions := some options }
  let (rc, xml) := handleInitXmlsec xmlsec sdk.xml
  (rc, { sdk with xml })

def init (options : Option (SdkOptions L)) (sdk : Sdk L) : Error × Sdk L :=
  match sdk.initialized with
  | some rc => (rc, sdk)
  | none =>
    let (rc, sdk) := firstInit defaultLogger xmlsec options sdk
    (rc, { sdk with initialized := some rc })

end Init

/-- `shutdown_nvml` or `shutdown_nscq` under its `handle_shutdown`. -/
def handleShutdownLibrary (g : Globals) : Globals :=
  if !g.initialized then g
  else { (if g.loaded then { g with loaded := false } else g) with initialized := false }

def handleShutdownXmlsec (sdk : Sdk L) : Sdk L :=
  { sdk with xml := {}, released := sdk.released ++ [.xmlsec] }

def handleDeleteSdkOptions (sdk : Sdk L) : Sdk L :=
  { sdk with sdkOptions := none, released := sdk.released ++ [.options] }

def handleShutdownLogger (sdk : Sdk L) : Sdk L :=
  { sdk with logger := none, released := sdk.released ++ [.logger] }

def shutdown (sdk : Sdk L) : Sdk L :=
  match sdk.sdkOptions with
  | none => sdk
  | some _ =>
    let sdk := handleShutdownXmlsec sdk
    let sdk := { sdk with
      nvml := handleShutdownLibrary sdk.nvml, nscq := handleShutdownLibrary sdk.nscq }
    handleShutdownLogger (handleDeleteSdkOptions sdk)

inductive LifecycleCall (L : Type) where
  | init (options : Option (SdkOptions L))
  | shutdown
  deriving Repr, DecidableEq

section Runs
variable (defaultLogger : L) (xmlsec : XmlSec)

def LifecycleCall.run (sdk : Sdk L) : LifecycleCall L → Sdk L
  | .init options => (Lifecycle.init defaultLogger xmlsec options sdk).2
  | .shutdown => Lifecycle.shutdown sdk

def runCalls (calls : List (LifecycleCall L)) (sdk : Sdk L) : Sdk L :=
  calls.foldl (LifecycleCall.run defaultLogger xmlsec) sdk

end Runs

/-- Before the first `init`, until the shutdown after it, and after that. -/
inductive Phase where
  | fresh | live | closed
  deriving Repr, DecidableEq

def Phase.next : Phase → LifecycleCall L → Phase
  | .fresh, .init _ => .live
  | .fresh, .shutdown => .fresh
  | .live, .init _ => .live
  | .live, .shutdown => .closed
  | .closed, _ => .closed

def phase (calls : List (LifecycleCall L)) : Phase := calls.foldl Phase.next .fresh

/-- No `init` comes after a shutdown that followed an `init`. -/
def NoReinit (calls : List (LifecycleCall L)) : Prop :=
  ∀ earlier options later, calls = earlier ++ .init options :: later → phase earlier ≠ .closed

/-- What the globals are in each phase. -/
def InPhase (sdk : Sdk L) : Phase → Prop
  | .fresh => sdk.initialized = none ∧ sdk.sdkOptions = none ∧ sdk.released = []
  | .live => sdk.initialized = some .Ok ∧ sdk.Ready ∧ sdk.released = []
  | .closed => sdk.sdkOptions = none ∧ sdk.logger = none ∧ sdk.xml = {} ∧
    sdk.released = [.xmlsec, .options, .logger]

section Steps
variable {defaultLogger : L} {xmlsec : XmlSec} {sdk : Sdk L}

theorem handleInitXmlsec_succeeds (hxmlsec : xmlsec.Succeeds) (xml : XmlState) :
    handleInitXmlsec xmlsec xml = (.Ok, ⟨true, true, true, true⟩) := by
  rw [handleInitXmlsec, if_neg (Int.not_lt.mpr hxmlsec.1), if_neg (not_not.mpr hxmlsec.2.1),
    if_neg (Int.not_lt.mpr hxmlsec.2.2.1), if_neg (Int.not_lt.mpr hxmlsec.2.2.2)]

/-- A shutdown in a row does nothing. -/
theorem shutdown_twice (sdk : Sdk L) : shutdown (shutdown sdk) = shutdown sdk := by
  cases hoptions : sdk.sdkOptions with
  | none =>
    have hnothing : shutdown sdk = sdk := by rw [shutdown, hoptions]
    rw [hnothing, hnothing]
  | some options =>
    have hgone : (shutdown sdk).sdkOptions = none := by
      rw [shutdown, hoptions]
      rfl
    rw [shutdown.eq_def (shutdown sdk), hgone]

theorem init_inPhase (defaultLogger : L) (hxmlsec : xmlsec.Succeeds) {p : Phase} (hp : p ≠ .closed)
    (h : InPhase sdk p) (options : Option (SdkOptions L)) :
    (init defaultLogger xmlsec options sdk).1 = .Ok ∧
      InPhase (init defaultLogger xmlsec options sdk).2 .live := by
  cases p with
  | fresh =>
    have hfirst : init defaultLogger xmlsec options sdk = (.Ok, { sdk with
        initialized := some .Ok
        sdkOptions := some (options.getD ⟨none⟩)
        logger := some ((options.getD ⟨none⟩).logger.getD defaultLogger)
        xml := ⟨true, true, true, true⟩ }) := by
      simp only [init, h.1, firstInit, handleInitLogger, handleInitXmlsec_succeeds hxmlsec]
    rw [hfirst]
    exact ⟨rfl, rfl, ⟨rfl, rfl, rfl⟩, h.2.2⟩
  | live =>
    have hagain : init defaultLogger xmlsec options sdk = (.Ok, sdk) := by rw [init, h.1]
    rw [hagain]
    exact ⟨rfl, h⟩
  | closed => exact absurd rfl hp

theorem shutdown_inPhase {p : Phase} (h : InPhase sdk p) :
    InPhase (shutdown sdk) (p.next (.shutdown : LifecycleCall L)) := by
  cases p with
  | fresh =>
    have hnothing : shutdown sdk = sdk := by rw [shutdown, h.2.1]
    rw [hnothing]
    exact h
  | live =>
    cases Option.isSome_iff_exists.mp h.2.1.2.2 with
    | intro options hoptions =>
      rw [shutdown, hoptions]
      refine ⟨rfl, rfl, rfl, ?_⟩
      change ((sdk.released ++ [.xmlsec]) ++ [.options]) ++ [.logger] = _
      rw [h.2.2]
      rfl
  | closed =>
    have hnothing : shutdown sdk = sdk := by rw [shutdown, h.1]
    rw [hnothing]
    exact h

theorem runCalls_snoc (calls : List (LifecycleCall L)) (call : LifecycleCall L) (sdk : Sdk L) :
    runCalls defaultLogger xmlsec (calls ++ [call]) sdk =
      LifecycleCall.run defaultLogger xmlsec (runCalls defaultLogger xmlsec calls sdk) call :=
  List.foldl_concat _ _ _ _

theorem phase_snoc (calls : List (LifecycleCall L)) (call : LifecycleCall L) :
    phase (calls ++ [call]) = (phase calls).next call :=
  List.foldl_concat _ _ _ _

theorem NoReinit.earlier {earlier later : List (LifecycleCall L)} (h : NoReinit (earlier ++ later)) :
    NoReinit earlier := by
  intro before options after hsplit
  refine h before options (after ++ later) ?_
  rw [hsplit, List.append_assoc, List.cons_append]

theorem NoReinit.snoc {calls : List (LifecycleCall L)} {call : LifecycleCall L} (h : NoReinit calls)
    (hcall : ∀ options, call = .init options → phase calls ≠ .closed) : NoReinit (calls ++ [call]) := by
  intro earlier options later hsplit
  induction later using List.reverseRecOn with
  | nil =>
    have hends := List.append_inj' hsplit rfl
    rw [← hends.1]
    exact hcall options (List.head_eq_of_cons_eq hends.2)
  | append_singleton later last _ =>
    rw [← List.cons_append, ← List.append_assoc] at hsplit
    exact h earlier options later (List.append_inj' hsplit rfl).1

theorem Phase.next_init {p : Phase} (hp : p ≠ .closed) (options : Option (SdkOptions L)) :
    p.next (.init options) = .live := by
  cases p with
  | fresh => rfl
  | live => rfl
  | closed => exact absurd rfl hp

theorem run_inPhase (defaultLogger : L) (hxmlsec : xmlsec.Succeeds) {calls : List (LifecycleCall L)}
    (hcalls : NoReinit calls) (hstart : InPhase sdk .fresh) :
    InPhase (runCalls defaultLogger xmlsec calls sdk) (phase calls) := by
  induction calls using List.reverseRecOn with
  | nil => exact hstart
  | append_singleton calls call ih =>
    have hbefore := ih hcalls.earlier
    rw [runCalls_snoc, phase_snoc]
    cases call with
    | init options =>
      have hp := hcalls calls options [] rfl
      rw [Phase.next_init hp]
      exact (init_inPhase defaultLogger hxmlsec hp hbefore options).2
    | shutdown => exact shutdown_inPhase hbefore

/-- As long as no `init` comes after a shutdown of the SDK: every `init` returns `Ok` with everything
in place, and what it set up is released exactly once. -/
theorem lifecycle_kept (defaultLogger : L) (hxmlsec : xmlsec.Succeeds)
    (calls : List (LifecycleCall L)) (hcalls : NoReinit calls) (hstart : InPhase sdk .fresh) :
    (∀ earlier options later, calls = earlier ++ .init options :: later →
      let result := init defaultLogger xmlsec options (runCalls defaultLogger xmlsec earlier sdk)
      result.1 = .Ok ∧ result.2.Ready) ∧
    (let after := runCalls defaultLogger xmlsec calls sdk
    match phase calls with
      | .closed => after.xml = {} ∧ after.sdkOptions = none ∧ after.logger = none ∧
        after.released = [.xmlsec, .options, .logger]
      | _ => after.released = []) ∧
    (∀ sdk : Sdk L, shutdown (shutdown sdk) = shutdown sdk) := by
  refine ⟨fun earlier options later hsplit => ?_, ?_, shutdown_twice⟩
  · have hp := hcalls earlier options later hsplit
    rw [hsplit] at hcalls
    have hbefore := run_inPhase defaultLogger hxmlsec hcalls.earlier hstart
    have hafter := init_inPhase defaultLogger hxmlsec hp hbefore options
    exact ⟨hafter.1, hafter.2.2.1⟩
  · have hend := run_inPhase defaultLogger hxmlsec hcalls hstart
    cases hphase : phase calls with
    | fresh =>
      rw [hphase] at hend
      exact hend.2.2
    | live =>
      rw [hphase] at hend
      exact hend.2.2
    | closed =>
      rw [hphase] at hend
      exact ⟨hend.2.2.1, hend.1, hend.2.1, hend.2.2.2⟩

end Steps

def goodXmlSec : XmlSec := ⟨0, 1, 0, 0⟩

theorem goodXmlSec_succeeds : goodXmlSec.Succeeds := ⟨by decide, rfl, by decide, by decide⟩

def sampleCalls : List (LifecycleCall String) :=
  [.shutdown, .init none, .init (some ⟨some "file"⟩), .shutdown, .shutdown]

theorem sampleCalls_kept :
    (∀ earlier options later, sampleCalls = earlier ++ .init options :: later →
      let result := init "nvat" goodXmlSec options (runCalls "nvat" goodXmlSec earlier {})
      result.1 = .Ok ∧ result.2.Ready) ∧
    (let after := runCalls "nvat" goodXmlSec sampleCalls {}
    match phase sampleCalls with
      | .closed => after.xml = {} ∧ after.sdkOptions = none ∧ after.logger = none ∧
        after.released = [.xmlsec, .options, .logger]
      | _ => after.released = []) ∧
    (∀ sdk : Sdk String, shutdown (shutdown sdk) = shutdown sdk) := by
  have hnil : NoReinit ([] : List (LifecycleCall String)) := fun earlier _ _ hsplit =>
    absurd hsplit (List.append_ne_nil_of_right_ne_nil earlier (List.cons_ne_nil _ _)).symm
  have hfresh : NoReinit ([] ++ [(.shutdown : LifecycleCall String)]) := hnil.snoc nofun
  have hfirst : NoReinit ([.shutdown] ++ [(.init none : LifecycleCall String)]) :=
    hfresh.snoc fun _ _ => by decide
  have hlive : NoReinit ([.shutdown, .init none] ++ [.init (some ⟨some "file"⟩)]) :=
    hfirst.snoc fun _ _ => by decide
  have hover : NoReinit ([.shutdown, .init none, .init (some ⟨some "file"⟩)] ++ [.shutdown]) :=
    hlive.snoc nofun
  have hcalls : NoReinit sampleCalls := hover.snoc nofun
  exact lifecycle_kept "nvat" goodXmlSec_succeeds sampleCalls hcalls ⟨rfl, rfl, rfl⟩

/-- An `init` after a shutdown reports the first one's success with nothing in place. -/
theorem reinit_not_ready :
    ¬ ∀ (xmlsec : XmlSec) (calls : List (LifecycleCall String)) (options : Option (SdkOptions String)),
      xmlsec.Succeeds →
      let result := init "nvat" xmlsec options (runCalls "nvat" xmlsec calls {})
      result.1 = .Ok → result.2.Ready := by
  intro hclaim
  have hready := hclaim goodXmlSec [.init none, .shutdown] none goodXmlSec_succeeds rfl
  cases hready.1

end AttestationSdk.Lifecycle
