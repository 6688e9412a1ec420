import AttestationSdk.CliPrepared

/-! What a build that only verifies evidence files does without. -/
namespace AttestationSdk.Cli
open AttestationSdk.Attestation AttestationSdk.Rim AttestationSdk.Eat AttestationSdk.Gpu
open AttestationSdk.Switch AttestationSdk.Http Effects Prog
variable {σ : Type}

/-- What a verification-only build leaves out: the collectors and the remote verifiers. -/
structure Hardware (σ : Type) where
  nvmlEvidenceCollector : EvidenceSource σ GpuEvidence
  corelibEvidenceCollector : GpuArchitecture → EvidenceSource σ GpuEvidence
  nscqEvidenceCollector : EvidenceSource σ SwitchEvidence
  remoteGpuVerifier : String → String → HttpOptions → Prog Fault σ (GpuVerifier σ)
  remoteSwitchVerifier : String → String → HttpOptions → Prog Fault σ (SwitchVerifier σ)

def Hardware.install (hardware : Hardware σ) (factories : Factories σ) : Factories σ :=
  { factories with
    nvmlEvidenceCollector := hardware.nvmlEvidenceCollector
    nscqEvidenceCollector := hardware.nscqEvidenceCollector
    remoteGpuVerifier := hardware.remoteGpuVerifier
    remoteSwitchVerifier := hardware.remoteSwitchVerifier }

def Host.withHardware (host : Host σ) (hardware : Hardware σ) : Host σ :=
  { host with
    network := { host.network with factories := hardware.install host.network.factories }
    corelibEvidenceCollector := hardware.corelibEvidenceCollector }

section VerificationOnly
variable {P : AttestationContext σ → Prop} {x y x' y' : Prog Fault (AttestationContext σ × σ) Unit}

/-- On contexts of a kind two programs do the same, and the kind is kept. -/
def SameOn (P : AttestationContext σ → Prop) (x y : Prog Fault (AttestationContext σ × σ) Unit) :
    Prop :=
  ∀ w, P w.1 → x w = y w ∧ P (x w).2.1

theorem sameOn_bind (hx : SameOn P x x') (hy : SameOn P y y') :
    SameOn P (x >>= fun _ => y) (x' >>= fun _ => y') := by
  intro w hw
  obtain ⟨hsame, hkept⟩ := hx w hw
  rw [← bind_congr_run hsame]
  cases hrun : x w with
  | mk outcome w' =>
    rw [hrun] at hkept
    cases outcome with
    | error f =>
      rw [bind_of_error hrun, bind_of_error hrun]
      exact ⟨rfl, hkept⟩
    | ok u =>
      rw [bind_of_ok hrun, bind_of_ok hrun]
      exact hy w' hkept

theorem sameOn_onlyIf {enabled : AttestationContext σ → Bool}
    (hx : SameOn (fun ctx => P ctx ∧ enabled ctx = true) x x') :
    SameOn P (onlyIf enabled x) (onlyIf enabled x') := by
  intro w hw
  rw [onlyIf, onlyIf]
  by_cases henabled : enabled w.1 = true
  · rw [if_pos henabled, if_pos henabled]
    obtain ⟨hsame, hkept⟩ := hx w ⟨hw, henabled⟩
    exact ⟨hsame, hkept.1⟩
  · rw [if_neg henabled, if_neg henabled]
    exact ⟨rfl, hw⟩

theorem sameOn_ensure {α : Type} {get : AttestationContext σ → Option α}
    {set : AttestationContext σ → α → AttestationContext σ}
    {create create' : AttestationContext σ → Prog Fault σ α}
    (hcreate : ∀ ctx, P ctx → get ctx = none → create ctx = create' ctx)
    (hset : ∀ ctx a, P ctx → P (set ctx a)) :
    SameOn P (ensure get set create) (ensure get set create') := by
  intro w hw
  rw [ensure, ensure]
  cases hget : get w.1 with
  | some a => exact ⟨rfl, hw⟩
  | none =>
    simp only [← hcreate w.1 hw hget]
    cases create w.1 w.2 with
    | mk outcome s =>
      cases outcome with
      | error f => exact ⟨trivial, hw⟩
      | ok a => exact ⟨trivial, hset w.1 a hw⟩

/-- No collector and no remote verifier is missing. -/
structure SourcesGiven (ctx : AttestationContext σ) : Prop where
  gpu : ctx.gpuEnabled = true → ctx.gpuEvidenceSource.isSome
  switch : ctx.switchEnabled = true → ctx.switchEvidenceSource.isSome
  verifierType : ctx.defaultVerifierType = .Local

theorem ensureInit_sameOn (factories : Factories σ) (hardware : Hardware σ) :
    SameOn SourcesGiven (ensureInit factories) (ensureInit (hardware.install factories)) := by
  have hgpu : ∀ ctx : AttestationContext σ, ctx.defaultVerifierType = .Local →
      createGpuVerifier factories ctx = createGpuVerifier (hardware.install factories) ctx := by
    intro ctx htype
    rw [createGpuVerifier, createGpuVerifier, htype]
  have hswitch : ∀ ctx : AttestationContext σ, ctx.defaultVerifierType = .Local →
      createSwitchVerifier factories ctx =
        createSwitchVerifier (hardware.install factories) ctx := by
    intro ctx htype
    rw [createSwitchVerifier, createSwitchVerifier, htype]
  have hkeep : ∀ ctx : AttestationContext σ, SourcesGiven ctx → ∀ rimStore ocspClient,
      SourcesGiven { ctx with defaultRimStore := rimStore, defaultOcspClient := ocspClient } :=
    fun _ h _ _ => ⟨h.gpu, h.switch, h.verifierType⟩
  refine sameOn_bind (sameOn_ensure (fun _ _ _ => rfl) fun _ _ h => hkeep _ h _ _) ?_
  refine sameOn_bind (sameOn_ensure (fun _ _ _ => rfl) fun _ _ h => hkeep _ h _ _) ?_
  refine sameOn_bind (sameOn_onlyIf (sameOn_ensure (fun ctx h hnone => ?_)
    fun ctx source h => ?_)) ?_
  · have hsome := h.1.gpu h.2
    rw [hnone] at hsome
    cases hsome
  · exact ⟨⟨fun _ => rfl, h.1.switch, h.1.verifierType⟩, h.2⟩
  refine sameOn_bind (sameOn_onlyIf (sameOn_ensure (fun ctx h _ => hgpu ctx h.1.verifierType)
    fun _ _ h => ⟨⟨h.1.gpu, h.1.switch, h.1.verifierType⟩, h.2⟩)) ?_
  refine sameOn_bind (sameOn_onlyIf (sameOn_ensure (fun ctx h hnone => ?_)
    fun ctx source h => ?_)) ?_
  · have hsome := h.1.switch h.2
    rw [hnone] at hsome
    cases hsome
  · exact ⟨⟨h.1.gpu, fun _ => rfl, h.1.verifierType⟩, h.2⟩
  exact sameOn_onlyIf (sameOn_ensure (fun ctx h _ => hswitch ctx h.1.verifierType)
    fun _ _ h => ⟨⟨h.1.gpu, h.1.switch, h.1.verifierType⟩, h.2⟩)

theorem attestDevice_sameOn (env : Platform σ) (factories : Factories σ) (hardware : Hardware σ)
    (nonce : Bytes) (wantEat : Bool) {w : AttestationContext σ × σ} (h : SourcesGiven w.1) :
    attestDevice env factories nonce wantEat w =
      attestDevice env (hardware.install factories) nonce wantEat w :=
  bind_congr_run (ensureInit_sameOn factories hardware w h).1 _

end VerificationOnly

section Isolation
variable {host : Host σ} {options : CommandOptions}

/-- What a verification-only build attests: the evidence of a file, with the local verifier. -/
theorem accepted_attest (hattest : options.parsed.attest = true)
    (haccepted : requestsHardwareCollection options = false) :
    options.verification.verifier = "local" ∧
      (gpuFromFile options.collection.toEvidenceCollectionOptions ∨
        switchFromFile options.collection.toEvidenceCollectionOptions) := by
  simp only [requestsHardwareCollection, hattest] at haccepted
  split at haccepted
  · cases haccepted
  split at haccepted
  · next h => cases h
  split at haccepted
  · cases haccepted
  next hlocal =>
  refine ⟨not_not.mp hlocal, ?_⟩
  split at haccepted
  · next hgpu => exact .inl ⟨hgpu, not_not.mp (of_decide_eq_false haccepted)⟩
  · split at haccepted
    · next hswitch => exact .inr ⟨hswitch, not_not.mp (of_decide_eq_false haccepted)⟩
    · cases haccepted

theorem accepted_collect (haccepted : requestsHardwareCollection options = false) :
    options.parsed.collectEvidence = false := by
  rw [requestsHardwareCollection] at haccepted
  split at haccepted
  · cases haccepted
  · next hcollect => exact Bool.eq_false_iff.mpr hcollect

theorem SourceFrom.isSome {ι : Type} {fromFile : Prop} {created : Except Error (EvidenceSource σ ι)}
    {collector : EvidenceSource σ ι} {source : Option (EvidenceSource σ ι)}
    (h : SourceFrom fromFile created collector source) (hfile : fromFile) : source.isSome := by
  obtain ⟨-, given, -, rfl⟩ := h.resolve_right fun h => h.1 hfile
  rfl

theorem sourcesGiven_of_prepared {prepared : AttestationContext σ × Bytes}
    (h : Prepared host.machine host.network.factories
      options.collection.toEvidenceCollectionOptions options.verification prepared)
    (hattest : options.parsed.attest = true)
    (haccepted : requestsHardwareCollection options = false) : SourcesGiven prepared.1 := by
  obtain ⟨hlocal, hfile⟩ := accepted_attest hattest haccepted
  have hequipped := h.configured.1
  cases hfile with
  | inl hgpu =>
    have hother : ¬ options.collection.device = "nvswitch" := by
      rw [hgpu.1]
      decide
    refine ⟨fun _ => hequipped.gpuSource.isSome hgpu, fun henabled => ?_, h.verifierType hlocal⟩
    rw [hequipped.switchEnabled, decide_eq_false hother] at henabled
    cases henabled
  | inr hswitch =>
    refine ⟨fun henabled => ?_, fun _ => hequipped.switchSource.isSome hswitch,
      h.verifierType hlocal⟩
    rw [hequipped.gpuEnabled, decide_eq_false (not_not.mpr hswitch.1)] at henabled
    cases henabled

/-- The attestation of an accepted request does not ask the hardware. -/
theorem attest_withHardware (hardware : Hardware σ) (hattest : options.parsed.attest = true)
    (haccepted : requestsHardwareCollection options = false) :
    handleAttestSubcommand host options =
      handleAttestSubcommand (host.withHardware hardware) options := by
  refine congrArg (· >>= _) (funext fun s => ?_)
  have hprepared : Yields _ _ := @prepareAttestation_prepared σ host.machine host.network
    options.collection.toEvidenceCollectionOptions options.policy options.verification
    host.network.factories
  have hsame : prepareAttestation (host.withHardware hardware).machine
      (host.withHardware hardware).network options.collection.toEvidenceCollectionOptions
      options.policy options.verification =
    prepareAttestation host.machine host.network options.collection.toEvidenceCollectionOptions
      options.policy options.verification := rfl
  rw [attest, attest, hsame]
  cases hrun : prepareAttestation host.machine host.network
      options.collection.toEvidenceCollectionOptions options.policy options.verification s with
  | mk result s' =>
    cases result with
    | error f =>
      cases f with
      | code e => rfl
      | _ => rfl
    | ok prepared =>
      have hgiven := sourcesGiven_of_prepared (hprepared s prepared s' hrun) hattest haccepted
      simp only [attestDevice_sameOn host.env host.network.factories hardware prepared.2 true
        (w := (prepared.1, s')) hgiven]
      rfl

/-- A verification-only build ends every process in the same way whatever its collectors of
evidence and its remote verifiers do. -/
theorem verification_only_isolated (host : Host σ) (options : CommandOptions) (windows : Bool)
    (hardware hardware' : Hardware σ) :
    main (host.withHardware hardware) options ⟨true, windows⟩ =
      main (host.withHardware hardware') options ⟨true, windows⟩ := by
  suffices hplain : ∀ hardware : Hardware σ, main (host.withHardware hardware) options
      ⟨true, windows⟩ = main host options ⟨true, windows⟩ from
    (hplain hardware).trans (hplain hardware').symm
  intro hardware
  rw [main, main]
  cases haccepted : requestsHardwareCollection options with
  | true => rfl
  | false =>
    cases hattest : options.parsed.attest with
    | true =>
      rw [← attest_withHardware hardware hattest haccepted]
      rfl
    | false =>
      rw [accepted_collect haccepted]
      rfl

end Isolation

end AttestationSdk.Cli
