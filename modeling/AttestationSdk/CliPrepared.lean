import AttestationSdk.CliProcess

/-! The context that the `attest` command sets up. -/
namespace AttestationSdk.Cli
open AttestationSdk.Attestation AttestationSdk.Rim AttestationSdk.Gpu AttestationSdk.Switch
open AttestationSdk.Http Effects Prog
variable {σ : Type}

/-- The source of a context: the one that was read from a file where one was asked for, else the
collector or none yet. -/
def SourceFrom {ι : Type} (fromFile : Prop) (created : Except Error (EvidenceSource σ ι))
    (collector : EvidenceSource σ ι) (source : Option (EvidenceSource σ ι)) : Prop :=
  (fromFile ∧ ∃ given, created = .ok given ∧ source = some given) ∨
    (¬ fromFile ∧ ∀ given, source = some given → given = collector)

def gpuFromFile (collection : EvidenceCollectionOptions) : Prop :=
  collection.device = "gpu" ∧ collection.gpuEvidenceSource = "file"

def switchFromFile (collection : EvidenceCollectionOptions) : Prop :=
  collection.device = "nvswitch" ∧ collection.switchEvidenceSource = "file"

/-- The device that the command line names is enabled, with the source that it names. -/
structure Equipped (machine : Machine σ) (factories : Factories σ)
    (collection : EvidenceCollectionOptions) (ctx : AttestationContext σ) : Prop where
  gpuEnabled : ctx.gpuEnabled = decide (collection.device ≠ "nvswitch")
  switchEnabled : ctx.switchEnabled = decide (collection.device = "nvswitch")
  gpuSource : SourceFrom (gpuFromFile collection)
    (machine.gpuEvidenceSourceFromJsonFile collection.gpuEvidenceFile)
    factories.nvmlEvidenceCollector ctx.gpuEvidenceSource
  switchSource : SourceFrom (switchFromFile collection)
    (machine.switchEvidenceSourceFromJsonFile collection.switchEvidenceFile)
    factories.nscqEvidenceCollector ctx.switchEvidenceSource

/-- What `attest` leaves alone until it gives the context away. -/
structure Fresh (options : EvidenceVerificationOptions) (ctx : AttestationContext σ) : Prop where
  gpuVerifier : ctx.gpuVerifier = none
  switchVerifier : ctx.switchVerifier = none
  gpuClaimsVersion : ctx.evidencePolicy.gpuClaimsVersion = .V3
  claimsEvaluator : options.relyingPartyPolicy.isEmpty = true → ctx.claimsEvaluator = none

/-- The context while `attest` sets it up. -/
def Configured (machine : Machine σ) (factories : Factories σ)
    (collection : EvidenceCollectionOptions) (options : EvidenceVerificationOptions)
    (ctx : AttestationContext σ) : Prop :=
  Equipped machine factories collection ctx ∧ Fresh options ctx

section Prepare
variable {machine : Machine σ} {network : Network σ} {collection : EvidenceCollectionOptions}
  {policy : EvidencePolicyOptions} {options : EvidenceVerificationOptions}
  {factories : Factories σ} {ctx : AttestationContext σ} {httpOptions : Option HttpOptions}

theorem sourceFrom_none {ι : Type} {fromFile : Prop} {created : Except Error (EvidenceSource σ ι)}
    {collector : EvidenceSource σ ι} (h : ¬ fromFile) :
    SourceFrom fromFile created collector none :=
  .inr ⟨h, fun _ hsome => by cases hsome⟩

theorem yields_check {α : Type} (r : Except Error α) :
    Yields (fun a => r = .ok a) (check r : Prog Fault σ α) := by
  cases r with
  | error e => exact .fail _
  | ok a => exact .pure rfl

/-- A device is chosen in a context that has no source yet. -/
theorem configureDevice_configured (hfresh : Fresh options ctx) (hgpu : ctx.gpuEnabled = true)
    (hswitch : ctx.switchEnabled = false) (hgpus : ctx.gpuEvidenceSource = none)
    (hswitches : ctx.switchEvidenceSource = none) :
    Yields (Configured machine factories collection options)
      (configureDevice machine collection ctx) := by
  have hdone : ∀ gpu switch gpuSource switchSource,
      gpu = decide (collection.device ≠ "nvswitch") →
      switch = decide (collection.device = "nvswitch") →
      SourceFrom (gpuFromFile collection)
        (machine.gpuEvidenceSourceFromJsonFile collection.gpuEvidenceFile)
        factories.nvmlEvidenceCollector gpuSource →
      SourceFrom (switchFromFile collection)
        (machine.switchEvidenceSourceFromJsonFile collection.switchEvidenceFile)
        factories.nscqEvidenceCollector switchSource →
      Configured machine factories collection options
        { ctx with gpuEnabled := gpu, switchEnabled := switch, gpuEvidenceSource := gpuSource,
                   switchEvidenceSource := switchSource } :=
    fun _ _ _ _ h₁ h₂ h₃ h₄ => ⟨⟨h₁, h₂, h₃, h₄⟩, hfresh.gpuVerifier, hfresh.switchVerifier,
      hfresh.gpuClaimsVersion, hfresh.claimsEvaluator⟩
  have hnoGpu : ¬ gpuFromFile collection → SourceFrom (gpuFromFile collection)
      (machine.gpuEvidenceSourceFromJsonFile collection.gpuEvidenceFile)
      factories.nvmlEvidenceCollector ctx.gpuEvidenceSource := by
    rw [hgpus]
    exact sourceFrom_none
  have hnoSwitch : ¬ switchFromFile collection → SourceFrom (switchFromFile collection)
      (machine.switchEvidenceSourceFromJsonFile collection.switchEvidenceFile)
      factories.nscqEvidenceCollector ctx.switchEvidenceSource := by
    rw [hswitches]
    exact sourceFrom_none
  rw [configureDevice]
  refine Yields.ite (fun hdevice => ?_) fun hdevice => Yields.ite (fun hnvswitch => ?_)
    fun hnvswitch => ?_
  · have hother : ¬ collection.device = "nvswitch" := by
      rw [hdevice]
      decide
    have hoff : ¬ switchFromFile collection := fun h => hother h.1
    refine Yields.ite (fun _ => .fail _) fun _ => Yields.ite (fun hfile => ?_) fun hfile => .pure ?_
    · refine Yields.bind (yields_check _) fun source hsource => .pure ?_
      exact hdone true false (some source) ctx.switchEvidenceSource (decide_eq_true hother).symm
        (decide_eq_false hother).symm (.inl ⟨⟨hdevice, hfile⟩, source, hsource, rfl⟩)
        (hnoSwitch hoff)
    · exact hdone true false ctx.gpuEvidenceSource ctx.switchEvidenceSource
        (decide_eq_true hother).symm (decide_eq_false hother).symm (hnoGpu fun h => hfile h.2)
        (hnoSwitch hoff)
  · have hoff : ¬ gpuFromFile collection := fun h => hdevice h.1
    have hdisabled := (decide_eq_false (not_not.mpr hnvswitch)).symm
    refine Yields.ite (fun hfile => ?_) fun hfile => .pure ?_
    · refine Yields.bind (yields_check _) fun source hsource => .pure ?_
      exact hdone false true ctx.gpuEvidenceSource (some source) hdisabled
        (decide_eq_true hnvswitch).symm (hnoGpu hoff)
        (.inl ⟨⟨hnvswitch, hfile⟩, source, hsource, rfl⟩)
    · exact hdone false true ctx.gpuEvidenceSource ctx.switchEvidenceSource hdisabled
        (decide_eq_true hnvswitch).symm (hnoGpu hoff) (hnoSwitch fun h => hfile h.2)
  · exact .pure (hdone ctx.gpuEnabled ctx.switchEnabled ctx.gpuEvidenceSource
      ctx.switchEvidenceSource (hgpu.trans (decide_eq_true hnvswitch).symm)
      (hswitch.trans (decide_eq_false hnvswitch).symm) (hnoGpu fun h => hdevice h.1)
      (hnoSwitch fun h => hnvswitch h.1))

/-- The setters that follow change neither the device nor its source. -/
theorem Configured.apply (h : Configured machine factories collection options ctx)
    (set : AttestationContext σ → AttestationContext σ)
    (hgpu : (set ctx).gpuEnabled = ctx.gpuEnabled)
    (hswitch : (set ctx).switchEnabled = ctx.switchEnabled)
    (hgpus : (set ctx).gpuEvidenceSource = ctx.gpuEvidenceSource)
    (hswitches : (set ctx).switchEvidenceSource = ctx.switchEvidenceSource)
    (hfresh : Fresh options ctx → Fresh options (set ctx)) :
    Configured machine factories collection options (set ctx) := by
  refine ⟨⟨?_, ?_, ?_, ?_⟩, hfresh h.2⟩
  · rw [hgpu, h.1.gpuEnabled]
  · rw [hswitch, h.1.switchEnabled]
  · rw [hgpus]
    exact h.1.gpuSource
  · rw [hswitches]
    exact h.1.switchSource

theorem configureServiceKey_configured (h : Configured machine factories collection options ctx) :
    Configured machine factories collection options (configureServiceKey options ctx) := by
  rw [configureServiceKey]
  split
  · exact h.apply (setServiceKey options.serviceKey) rfl rfl rfl rfl fun hfresh =>
      ⟨rfl, rfl, hfresh.gpuClaimsVersion, hfresh.claimsEvaluator⟩
  · exact h

theorem configureRimStore_configured (h : Configured machine factories collection options ctx) :
    Yields (Configured machine factories collection options)
      (configureRimStore machine network options httpOptions ctx) := by
  have hset : ∀ rimStore, Configured machine factories collection options
      (setDefaultRimStore rimStore ctx) := fun rimStore =>
    h.apply (setDefaultRimStore rimStore) rfl rfl rfl rfl fun hfresh =>
      ⟨rfl, rfl, hfresh.gpuClaimsVersion, hfresh.claimsEvaluator⟩
  unfold configureRimStore
  refine Yields.ite (fun _ => ?_) fun _ => .pure h
  refine Yields.ite (fun _ => ?_) fun _ => Yields.ite (fun _ => .pure (hset _)) fun _ => .fail _
  cases httpOptions with
  | none => exact .fail _
  | some httpOptions => exact Yields.bind (.any _) fun _ _ => .pure (hset _)

theorem configureOcspClient_configured (h : Configured machine factories collection options ctx) :
    Yields (Configured machine factories collection options)
      (configureOcspClient machine network options httpOptions ctx) := by
  have hset : ∀ client, Configured machine factories collection options
      (setDefaultOcspClient client ctx) := fun client =>
    h.apply (setDefaultOcspClient client) rfl rfl rfl rfl fun hfresh =>
      ⟨rfl, rfl, hfresh.gpuClaimsVersion, hfresh.claimsEvaluator⟩
  unfold configureOcspClient
  refine Yields.ite (fun _ => ?_) fun _ => Yields.ite (fun _ => ?_) fun _ => .pure h
  · exact Yields.bind (.any _) fun _ _ => Yields.bind (.any _) fun _ _ =>
      Yields.bind (.any _) fun _ _ => .pure (hset _)
  · cases httpOptions with
    | none => exact .fail _
    | some httpOptions => exact Yields.bind (.any _) fun _ _ => .pure (hset _)

theorem setRelyingPartyPolicy_configured
    (h : Configured machine factories collection options ctx) :
    Yields (Configured machine factories collection options)
      (setRelyingPartyPolicy machine options ctx) := by
  rw [setRelyingPartyPolicy]
  refine Yields.ite (fun _ => .pure h) fun hpolicy => ?_
  cases machine.readText options.relyingPartyPolicy with
  | none => exact .fail _
  | some regoStr =>
    refine .pure (h.apply
      (setClaimsEvaluator (some (machine.regoClaimsEvaluator regoStr))) rfl rfl rfl rfl
      fun hfresh => ?_)
    exact ⟨hfresh.gpuVerifier, hfresh.switchVerifier, hfresh.gpuClaimsVersion,
      fun hempty => absurd hempty hpolicy⟩

theorem setVerifierType_configured (h : Configured machine factories collection options ctx)
    (type : VerifierType) :
    Configured machine factories collection options (setVerifierType type ctx) := by
  by_cases hchange : ctx.defaultVerifierType ≠ type
  · refine h.apply (setVerifierType type) ?_ ?_ ?_ ?_ fun hfresh => ?_
    all_goals rw [setVerifierType, if_pos hchange]
    · rfl
    · rfl
    · rfl
    · rfl
    · exact ⟨rfl, rfl, hfresh.gpuClaimsVersion, hfresh.claimsEvaluator⟩
  · refine h.apply (setVerifierType type) ?_ ?_ ?_ ?_ fun hfresh => ?_
    all_goals rw [setVerifierType, if_neg hchange]
    exact ⟨hfresh.gpuVerifier, hfresh.switchVerifier, hfresh.gpuClaimsVersion,
      hfresh.claimsEvaluator⟩

/-- A context with its nonce as `attest` hands them to `nvat_attest_device`. -/
structure Prepared (machine : Machine σ) (factories : Factories σ)
    (collection : EvidenceCollectionOptions) (options : EvidenceVerificationOptions)
    (prepared : AttestationContext σ × Bytes) : Prop where
  configured : Configured machine factories collection options prepared.1
  verifierType : options.verifier = "local" → prepared.1.defaultVerifierType = .Local
  nonce : collection.nonce.isEmpty = true ∧ prepared.2 = [] ∨
    nvatNonceFromHex collection.nonce = .ok prepared.2

theorem prepareAttestation_prepared :
    Yields (Prepared machine factories collection options)
      (prepareAttestation machine network collection policy options) := by
  have hnew : ∀ httpOptions,
      Fresh options (configurePolicy policy (newContext network httpOptions)) ∧
      (newContext network httpOptions).gpuEnabled = true ∧
      (newContext network httpOptions).switchEnabled = false ∧
      (newContext network httpOptions).gpuEvidenceSource = none ∧
      (newContext network httpOptions).switchEvidenceSource = none := by
    intro httpOptions
    cases httpOptions with
    | none => exact ⟨⟨rfl, rfl, rfl, fun _ => rfl⟩, rfl, rfl, rfl, rfl⟩
    | some httpOptions => exact ⟨⟨rfl, rfl, rfl, fun _ => rfl⟩, rfl, rfl, rfl, rfl⟩
  rw [prepareAttestation]
  refine Yields.bind (.any _) fun _ _ => Yields.ite (fun _ => .fail _) fun _ => ?_
  refine Yields.bind (.any _) fun httpOptions _ => ?_
  obtain ⟨hfresh, hgpu, hswitch, hgpus, hswitches⟩ := hnew httpOptions
  have hdevice : Yields (Configured machine factories collection options)
      (configureDevice machine collection
        (configurePolicy policy (newContext network httpOptions))) :=
    configureDevice_configured hfresh hgpu hswitch hgpus hswitches
  refine Yields.bind hdevice fun ctx₁ h₁ => ?_
  refine Yields.bind (configureRimStore_configured (configureServiceKey_configured h₁))
    fun ctx₂ h₂ => ?_
  refine Yields.bind (configureOcspClient_configured h₂) fun ctx₃ h₃ => ?_
  refine Yields.bind (.any _) fun _ _ => ?_
  refine Yields.bind (setRelyingPartyPolicy_configured h₃) fun ctx₄ h₄ => ?_
  have hverifier : Yields (fun ctx => Configured machine factories collection options ctx ∧
      (options.verifier = "local" → ctx.defaultVerifierType = .Local))
      (configureVerifier options ctx₄ : Prog Fault σ _) := by
    rw [configureVerifier]
    refine Yields.ite (fun _ => .pure ⟨setVerifierType_configured h₄ .Local, fun _ => rfl⟩)
      fun hother => ?_
    refine Yields.ite (fun _ => .pure ⟨setVerifierType_configured h₄ .Remote, fun h => ?_⟩)
      fun _ => .fail _
    exact absurd h hother
  refine Yields.bind hverifier fun ctx h => ?_
  have hnonce : Yields (fun nonce => collection.nonce.isEmpty = true ∧ nonce = [] ∨
      nvatNonceFromHex collection.nonce = .ok nonce) (chosenNonce collection : Prog Fault σ _) := by
    rw [chosenNonce]
    refine Yields.ite (fun hempty => .pure (.inl ⟨hempty, rfl⟩)) fun _ => ?_
    exact fun s nonce s' hrun => .inr (yields_check _ s nonce s' hrun)
  exact Yields.bind hnonce fun nonce hnonce => .pure ⟨h.1, h.2, hnonce⟩

end Prepare

end AttestationSdk.Cli
