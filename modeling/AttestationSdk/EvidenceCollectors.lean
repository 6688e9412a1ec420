import AttestationSdk.AttestationContext
import AttestationSdk.ListRuns

/-! The collectors of evidence: `nvml_client.cpp`, `nscq_client.cpp` and `corelib_client.cpp` over
the calls of the driver libraries. -/
namespace AttestationSdk.Collect
open AttestationSdk.Text AttestationSdk.Gpu AttestationSdk.Switch AttestationSdk.Attestation
open AttestationSdk.CertChain AttestationSdk.Ocsp Effects Prog
variable {σ α β : Type}

/-- A call of a driver library: a return code other than success, or what it fills in. -/
abbrev DriverCall (σ α : Type) : Type := Prog Int σ α

/-- The driver's codes are reported as one. -/
def reported (e : Error) (call : DriverCall σ α) : Prog Fault σ α := fun s =>
  match call s with
  | (.ok a, s') => (.ok a, s')
  | (.error _, s') => (.error (.code e), s')

theorem reported_ok {e : Error} {call : DriverCall σ α} {s s' : σ} {a : α} :
    reported e call s = (.ok a, s') ↔ call s = (.ok a, s') := by
  unfold reported
  split
  · next h => rw [h, Prod.mk.injEq, Prod.mk.injEq, Except.ok.injEq, Except.ok.injEq]
  · next h =>
    rw [h]
    exact iff_of_false (fun h => by cases h) (fun h => by cases h)

/-- A buffer that a driver fills and the size that it states. -/
structure Filled (capacity : Nat) where
  size : Nat
  data : Bytes
  data_length : data.length = capacity

def Filled.read {capacity : Nat} (f : Filled capacity) : Except Fault Bytes :=
  if f.size ≤ capacity then .ok (f.data.take f.size) else .error .undefined

/-- A buffer with the data in front and zeros behind them. -/
def Filled.holding {capacity : Nat} (data : Bytes) (h : data.length ≤ capacity) :
    Filled capacity where
  size := data.length
  data := data ++ List.replicate (capacity - data.length) 0
  data_length := by
    rw [List.length_append, List.length_replicate]
    omega

def NVML_CC_SYSTEM_FEATURE_ENABLED : Nat := 1
def NVML_CC_SYSTEM_MULTIGPU_PROTECTED_PCIE : Nat := 1
def NVML_GPU_ATTESTATION_CERT_CHAIN_SIZE : Nat := 0x1400
def NVML_CC_GPU_CEC_NONCE_SIZE : Nat := 0x20
def NVML_CC_GPU_ATTESTATION_REPORT_SIZE : Nat := 0x2000

/-- The calls of `nvml_client.cpp`; a device is the number of its handle. -/
structure Nvml (σ : Type) where
  initNvml : Prog Fault σ Unit
  gNvmlInitialized : σ → Bool
  /-- The `ccFeature` of the state. -/
  systemGetConfComputeState : DriverCall σ Nat
  /-- The `multiGpuMode` of the settings. -/
  systemGetConfComputeSettings : DriverCall σ Nat
  deviceGetCount : DriverCall σ Nat
  deviceGetHandleByIndex : Nat → DriverCall σ Nat
  deviceGetArchitecture : Nat → DriverCall σ Nat
  deviceGetBoardId : Nat → DriverCall σ Nat
  deviceGetUuid : Nat → DriverCall σ Bytes
  deviceGetConfComputeGpuAttestationReport :
    Nat → Bytes → DriverCall σ (Filled NVML_CC_GPU_ATTESTATION_REPORT_SIZE)
  deviceGetConfComputeGpuCertificate :
    Nat → DriverCall σ (Filled NVML_GPU_ATTESTATION_CERT_CHAIN_SIZE)

namespace Nvml
variable (nvml : Nvml σ)

def isCcEnabled : Prog Fault σ Bool := do
  let ccFeature ← reported .NvmlError nvml.systemGetConfComputeState
  return ccFeature = NVML_CC_SYSTEM_FEATURE_ENABLED

def isPpcieModeEnabled : Prog Fault σ Bool := do
  let multiGpuMode ← reported .NvmlError nvml.systemGetConfComputeSettings
  return multiGpuMode = NVML_CC_SYSTEM_MULTIGPU_PROTECTED_PCIE

def getGpuArchitecture (device : Nat) : Prog Fault σ GpuArchitecture := do
  let arch ← reported .NvmlError (nvml.deviceGetArchitecture device)
  return if arch = 7 then .Ampere else if arch = 9 then .Hopper
    else if arch = 10 then .Blackwell else .Unknown

/-- The nonce of a request; without one it is left zero. -/
def requestNonce (nonceInput : Bytes) : Except Fault Bytes :=
  if nonceInput.isEmpty then .ok (List.replicate NVML_CC_GPU_CEC_NONCE_SIZE 0)
  else if nonceInput.length ≠ NVML_CC_GPU_CEC_NONCE_SIZE then .error (.code .NvmlError)
  else .ok nonceInput

def getAttestationReport (device : Nat) (nonceInput : Bytes) : Prog Fault σ Bytes := do
  let nonce ← lift (requestNonce nonceInput)
  let report ← reported .NvmlError (nvml.deviceGetConfComputeGpuAttestationReport device nonce)
  let attestationReport ← lift report.read
  lift (require (!attestationReport.isEmpty) .NvmlError)
  return attestationReport

def getAttestationCertChain (device : Nat) : Prog Fault σ String := do
  let cert ← reported .NvmlError (nvml.deviceGetConfComputeGpuCertificate device)
  return ofBytes (← lift cert.read)

/-- One turn of the loop of `collect_evidence_nvml`. The board and the UUID are only read. -/
def collectDevice (nonceInput : Bytes) (index : Nat) : Prog Fault σ GpuEvidence := do
  let device ← reported .NvmlError (nvml.deviceGetHandleByIndex index)
  let architecture ← nvml.getGpuArchitecture device
  let _ ← reported .NvmlError (nvml.deviceGetBoardId device)
  let _ ← reported .NvmlError (nvml.deviceGetUuid device)
  let attestationReport ← nvml.getAttestationReport device nonceInput
  let attestationCertChain ← nvml.getAttestationCertChain device
  return { architecture, nonce := nonceInput, attestationReport, attestationCertChain }

/-- `collect_evidence_nvml`. -/
def collectEvidence (nonceInput : Bytes) : Prog Fault σ (List GpuEvidence) := fun s => (do
  lift (require (nvml.gNvmlInitialized s) .NvmlError)
  let ccEnabled ← nvml.isCcEnabled
  let ppcieEnabled ← nvml.isPpcieModeEnabled
  lift (require (ccEnabled || ppcieEnabled) .GpuModeNotSupported)
  let deviceCount ← reported .NvmlError nvml.deviceGetCount
  lift (require (deviceCount ≠ 0) .NvmlError)
  each (nvml.collectDevice nonceInput) (List.range deviceCount) : Prog Fault σ _) s

/-- `NvmlEvidenceCollector`. -/
def evidenceSource : EvidenceSource σ GpuEvidence where
  getEvidence nonceInput := do
    nvml.initNvml
    nvml.collectEvidence nonceInput

/-- What one device gave: a report for the nonce and a certificate chain. -/
structure Gave (nvml : Nvml σ) (nonceInput : Bytes) (device : Nat) (e : GpuEvidence) : Prop where
  nonce : e.nonce = nonceInput
  report : ∃ nonce s s' report, requestNonce nonceInput = .ok nonce ∧
    nvml.deviceGetConfComputeGpuAttestationReport device nonce s = (.ok report, s') ∧
    report.read = .ok e.attestationReport ∧ e.attestationReport ≠ []
  chain : ∃ s s' cert bytes, nvml.deviceGetConfComputeGpuCertificate device s = (.ok cert, s') ∧
    cert.read = .ok bytes ∧ e.attestationCertChain = ofBytes bytes

variable {nvml} {nonceInput : Bytes} {s s' : σ}

theorem getAttestationReport_ok {device : Nat} {bytes : Bytes}
    (h : nvml.getAttestationReport device nonceInput s = (.ok bytes, s')) :
    ∃ nonce s₁ s₂ report, requestNonce nonceInput = .ok nonce ∧
      nvml.deviceGetConfComputeGpuAttestationReport device nonce s₁ = (.ok report, s₂) ∧
      report.read = .ok bytes ∧ bytes ≠ [] := by
  obtain ⟨nonce, s₁, hnonce, h⟩ := bind_eq_ok.mp h
  obtain ⟨report, s₂, hreport, h⟩ := bind_eq_ok.mp h
  obtain ⟨read, s₃, hread, h⟩ := bind_eq_ok.mp h
  obtain ⟨_, s₄, hsome, h⟩ := bind_eq_ok.mp h
  cases h
  refine ⟨nonce, s₁, s₂, report, lift_ok hnonce, reported_ok.mp hreport, lift_ok hread, ?_⟩
  simpa using require_ok (lift_ok hsome)

theorem getAttestationCertChain_ok {device : Nat} {chain : String}
    (h : nvml.getAttestationCertChain device s = (.ok chain, s')) :
    ∃ s₁ s₂ cert bytes, nvml.deviceGetConfComputeGpuCertificate device s₁ = (.ok cert, s₂) ∧
      cert.read = .ok bytes ∧ chain = ofBytes bytes := by
  obtain ⟨cert, s₁, hcert, h⟩ := bind_eq_ok.mp h
  obtain ⟨bytes, s₂, hread, h⟩ := bind_eq_ok.mp h
  cases h
  exact ⟨_, _, cert, bytes, reported_ok.mp hcert, lift_ok hread, rfl⟩

end Nvml

def NSCQ_ATTESTATION_REPORT_NONCE_SIZE : Nat := 32
def NSCQ_ATTESTATION_REPORT_SIZE : Nat := 0x2000
def NSCQ_CERTIFICATE_CERT_CHAIN_MAX_SIZE : Nat := 0x1400
def NSCQ_LABEL_SIZE : Nat := 64

/-- What a call of `session_path_observe` hands to its callback, each time with a return code. -/
abbrev Observed (α : Type) : Type := List (Int × α)

/-- The calls of `nscq_client.cpp`, one for each path; a switch is named by its label. -/
structure Nscq (σ : Type) where
  initNscq : Prog Fault σ Unit
  gNscqInitialized : σ → Bool
  gNscqSession : σ → Bool
  observeUuid : DriverCall σ (Observed (Option Bytes))
  uuidToLabel : Bytes → Except Int (Filled NSCQ_LABEL_SIZE)
  observeArch : DriverCall σ (Observed Int)
  observePcieMode : String → DriverCall σ (Observed Int)
  observeCertificate : String → DriverCall σ (Observed (Filled NSCQ_CERTIFICATE_CERT_CHAIN_MAX_SIZE))
  observeAttestationReport : String → DriverCall σ (Observed (Filled NSCQ_ATTESTATION_REPORT_SIZE))
  sessionSetInput : Bytes → DriverCall σ Unit

/-- The text of a label, which a NUL ends. -/
def labelText (label : Filled NSCQ_LABEL_SIZE) : Except Fault String :=
  match label.data.findIdx? (· = 0) with
  | some stop => .ok (ofBytes (label.data.take stop))
  | none => .error .undefined

/-- A callback that keeps the last value it is handed with success. -/
def keepLast (read : α → Except Fault β) (start : β) (observed : Observed α) : Except Fault β :=
  observed.foldlM (fun kept (rc, value) => if rc ≠ 0 then pure kept else read value) start

namespace Nscq
variable (nscq : Nscq σ)

/-- A path is observed only in a session. -/
def observe (path : DriverCall σ (Observed α)) : Prog Fault σ (Observed α) := fun s => (do
  lift (require (nscq.gNscqSession s) .NscqError)
  reported .NscqError path : Prog Fault σ _) s

/-- `uuid_callback`: what cannot be labelled is left out. -/
def uuidCallback (uuids : List String) (observed : Int × Option Bytes) :
    Except Fault (List String) :=
  if observed.1 ≠ 0 then pure uuids
  else match observed.2 with
    | none => pure uuids
    | some uuid => match nscq.uuidToLabel uuid with
      | .error _ => pure uuids
      | .ok label => return uuids ++ [← labelText label]

def getAllSwitchUuid : Prog Fault σ (List String) := do
  let observed ← nscq.observe nscq.observeUuid
  lift (observed.foldlM nscq.uuidCallback [])

def getSwitchArchitecture : Prog Fault σ SwitchArchitecture := do
  let observed ← nscq.observe nscq.observeArch
  let arch ← lift (keepLast pure (-1) observed)
  if arch = 0 then return .SV10
  else if arch = 1 then return .LR10
  else if arch = 2 then return .LS10
  else Prog.fail (.code .NscqError)

def getAttestationReport (uuid : String) (nonceInput : Bytes) : Prog Fault σ Bytes := fun s => (do
  lift (require (nscq.gNscqSession s) .NscqError)
  lift (require (!uuid.isEmpty) .NscqError)
  lift (require (nonceInput.length = NSCQ_ATTESTATION_REPORT_NONCE_SIZE) .NscqError)
  reported .NscqError (nscq.sessionSetInput nonceInput)
  let observed ← reported .NscqError (nscq.observeAttestationReport uuid)
  let report ← lift (keepLast Filled.read [] observed)
  lift (require (!report.isEmpty) .NscqError)
  return report : Prog Fault σ _) s

def getAttestationCertChain (uuid : String) : Prog Fault σ String := fun s => (do
  lift (require (nscq.gNscqSession s) .NscqError)
  lift (require (!uuid.isEmpty) .NscqError)
  let observed ← reported .NscqError (nscq.observeCertificate uuid)
  let chain ← lift (keepLast Filled.read [] observed)
  lift (require (!chain.isEmpty) .NscqError)
  return ofBytes chain : Prog Fault σ _) s

/-- `get_switch_tnvl_status`; -1 is the unknown mode. -/
def getSwitchTnvlStatus (uuid : String) : Prog Fault σ Int := fun s => (do
  lift (require (nscq.gNscqSession s) .NscqError)
  lift (require (!uuid.isEmpty) .NscqError)
  let observed ← reported .NscqError (nscq.observePcieMode uuid)
  lift (keepLast pure (-1) observed) : Prog Fault σ _) s

/-- One turn of the loop of `collect_evidence_nscq`. The mode is only read. -/
def collectSwitch (architecture : SwitchArchitecture) (nonceInput : Bytes) (uuid : String) :
    Prog Fault σ SwitchEvidence := do
  let attestationReport ← nscq.getAttestationReport uuid nonceInput
  let attestationCertChain ← nscq.getAttestationCertChain uuid
  let _ ← nscq.getSwitchTnvlStatus uuid
  return { architecture, nonce := nonceInput, attestationReport, attestationCertChain }

/-- `collect_evidence_nscq`. -/
def collectEvidence (nonceInput : Bytes) : Prog Fault σ (List SwitchEvidence) := fun s => (do
  lift (require (nscq.gNscqInitialized s) .NscqError)
  let uuids ← nscq.getAllSwitchUuid
  lift (require (!uuids.isEmpty) .NscqError)
  let arch ← nscq.getSwitchArchitecture
  each (nscq.collectSwitch arch nonceInput) uuids : Prog Fault σ _) s

/-- `NscqEvidenceCollector`. -/
def evidenceSource : EvidenceSource σ SwitchEvidence where
  getEvidence nonceInput := do
    nscq.initNscq
    nscq.collectEvidence nonceInput

/-- The label that `uuid_callback` adds, where it adds one. -/
def labelOf (observed : Int × Option Bytes) : Option (Filled NSCQ_LABEL_SIZE) :=
  if observed.1 ≠ 0 then none
  else observed.2.bind fun uuid => (nscq.uuidToLabel uuid).toOption

/-- The last value handed over with success. -/
def lastGiven (observed : Observed α) : Option α :=
  (observed.filter (·.1 = 0)).getLast?.map (·.2)

/-- What one switch gave: a report for the nonce, after the nonce was set, and a certificate
chain, each the last that was observed with success. -/
structure Gave (nscq : Nscq σ) (nonceInput : Bytes) (uuid : String) (e : SwitchEvidence) : Prop where
  nonce : e.nonce = nonceInput
  report : ∃ s s₁ s' observed report, nscq.sessionSetInput nonceInput s = (.ok (), s₁) ∧
    nscq.observeAttestationReport uuid s₁ = (.ok observed, s') ∧
    lastGiven observed = some report ∧ report.read = .ok e.attestationReport
  chain : ∃ s s' observed cert bytes, nscq.observeCertificate uuid s = (.ok observed, s') ∧
    lastGiven observed = some cert ∧ cert.read = .ok bytes ∧ e.attestationCertChain = ofBytes bytes

variable {nscq} {nonceInput : Bytes} {s s' : σ}

theorem lastGiven_cons (o : Int × α) (rest : Observed α) : lastGiven (o :: rest) =
    if o.1 = 0 then some ((lastGiven rest).getD o.2) else lastGiven rest := by
  unfold lastGiven
  by_cases hrc : o.1 = 0
  · rw [if_pos hrc, List.filter_cons_of_pos (by simpa using hrc), List.getLast?_cons]
    cases (rest.filter (·.1 = 0)).getLast? <;> rfl
  · rw [if_neg hrc, List.filter_cons_of_neg (by simpa using hrc)]

theorem keepLast_ok {read : α → Except Fault β} {start b : β} {observed : Observed α}
    (h : keepLast read start observed = .ok b) :
    lastGiven observed = none ∧ b = start ∨
      ∃ a, lastGiven observed = some a ∧ read a = .ok b := by
  induction observed generalizing start with
  | nil =>
    cases h
    exact .inl ⟨rfl, rfl⟩
  | cons o rest ih =>
    obtain ⟨rc, value⟩ := o
    rw [keepLast, List.foldlM_cons] at h
    obtain ⟨kept, hkept, hrest⟩ := ExceptRules.bind_eq_ok.mp h
    rw [lastGiven_cons]
    dsimp only at hkept ⊢
    by_cases hrc : rc = 0
    · rw [if_neg (not_not_intro hrc)] at hkept
      rw [if_pos hrc]
      rcases ih hrest with ⟨hnone, rfl⟩ | ⟨a, hsome, hread⟩
      · exact .inr ⟨value, by rw [hnone]; rfl, hkept⟩
      · exact .inr ⟨a, by rw [hsome]; rfl, hread⟩
    · rw [if_pos hrc] at hkept
      rw [if_neg hrc]
      cases hkept
      exact ih hrest

theorem uuidCallback_ok {observed : Int × Option Bytes} {uuids uuids' : List String}
    (h : nscq.uuidCallback uuids observed = .ok uuids') :
    nscq.labelOf observed = none ∧ uuids' = uuids ∨
      ∃ label uuid, nscq.labelOf observed = some label ∧ labelText label = .ok uuid ∧
        uuids' = uuids ++ [uuid] := by
  unfold uuidCallback at h
  unfold labelOf
  by_cases hrc : observed.1 = 0
  · rw [if_neg (not_not_intro hrc)] at h ⊢
    cases huuid : observed.2 with
    | none =>
      rw [huuid] at h
      cases h
      exact .inl ⟨rfl, rfl⟩
    | some uuid =>
      rw [huuid] at h
      cases hlabel : nscq.uuidToLabel uuid with
      | error rc =>
        simp only [hlabel] at h
        cases h
        exact .inl ⟨by simp [hlabel, Except.toOption], rfl⟩
      | ok label =>
        simp only [hlabel] at h
        obtain ⟨text, htext, h⟩ := ExceptRules.bind_eq_ok.mp h
        cases h
        exact .inr ⟨label, text, by simp [hlabel, Except.toOption], htext, rfl⟩
  · rw [if_pos hrc] at h ⊢
    cases h
    exact .inl ⟨rfl, rfl⟩

/-- The labels are those of the switches that were observed with success, in their order. -/
theorem labels_ok {observed : Observed (Option Bytes)} {uuids uuids' : List String}
    (h : observed.foldlM nscq.uuidCallback uuids = .ok uuids') :
    ∃ new, uuids' = uuids ++ new ∧
      List.Forall₂ (fun label uuid => labelText label = .ok uuid)
        (observed.filterMap nscq.labelOf) new := by
  induction observed generalizing uuids with
  | nil =>
    cases h
    exact ⟨[], (List.append_nil _).symm, .nil⟩
  | cons o rest ih =>
    rw [List.foldlM_cons] at h
    obtain ⟨kept, hkept, hrest⟩ := ExceptRules.bind_eq_ok.mp h
    obtain ⟨new, rfl, hnew⟩ := ih hrest
    rcases uuidCallback_ok hkept with ⟨hnone, rfl⟩ | ⟨label, uuid, hlabel, htext, rfl⟩
    · exact ⟨new, rfl, by rwa [List.filterMap_cons_none hnone]⟩
    · refine ⟨uuid :: new, by simp, ?_⟩
      rw [List.filterMap_cons_some hlabel]
      exact .cons htext hnew

theorem observe_ok {path : DriverCall σ (Observed α)} {observed : Observed α}
    (h : nscq.observe path s = (.ok observed, s')) : ∃ s₁, path s₁ = (.ok observed, s') := by
  obtain ⟨_, s₁, _, h⟩ := bind_eq_ok.mp h
  exact ⟨s₁, reported_ok.mp h⟩

theorem getAttestationReport_ok {uuid : String} {bytes : Bytes}
    (h : nscq.getAttestationReport uuid nonceInput s = (.ok bytes, s')) :
    nonceInput.length = NSCQ_ATTESTATION_REPORT_NONCE_SIZE ∧
    ∃ s₁ s₂ s₃ observed report, nscq.sessionSetInput nonceInput s₁ = (.ok (), s₂) ∧
      nscq.observeAttestationReport uuid s₂ = (.ok observed, s₃) ∧
      lastGiven observed = some report ∧ report.read = .ok bytes := by
  obtain ⟨_, s₁, _, h⟩ := bind_eq_ok.mp h
  obtain ⟨_, s₂, _, h⟩ := bind_eq_ok.mp h
  obtain ⟨_, s₃, hnonce, h⟩ := bind_eq_ok.mp h
  obtain ⟨_, s₄, hinput, h⟩ := bind_eq_ok.mp h
  obtain ⟨observed, s₅, hobserved, h⟩ := bind_eq_ok.mp h
  obtain ⟨read, s₆, hread, h⟩ := bind_eq_ok.mp h
  obtain ⟨_, s₇, hsome, h⟩ := bind_eq_ok.mp h
  obtain ⟨rfl, -⟩ := pure_iff.mp h
  have hne : bytes ≠ [] := by simpa using require_ok (lift_ok hsome)
  refine ⟨of_decide_eq_true (require_ok (lift_ok hnonce)), ?_⟩
  rcases keepLast_ok (lift_ok hread) with ⟨-, hstart⟩ | ⟨report, hlast, hreport⟩
  · exact absurd hstart hne
  · exact ⟨s₃, s₄, s₅, observed, report, reported_ok.mp hinput, reported_ok.mp hobserved, hlast,
      hreport⟩

theorem getAttestationCertChain_ok {uuid chain : String}
    (h : nscq.getAttestationCertChain uuid s = (.ok chain, s')) :
    ∃ s₁ s₂ observed cert bytes, nscq.observeCertificate uuid s₁ = (.ok observed, s₂) ∧
      lastGiven observed = some cert ∧ cert.read = .ok bytes ∧ chain = ofBytes bytes := by
  obtain ⟨_, s₁, _, h⟩ := bind_eq_ok.mp h
  obtain ⟨_, s₂, _, h⟩ := bind_eq_ok.mp h
  obtain ⟨observed, s₃, hobserved, h⟩ := bind_eq_ok.mp h
  obtain ⟨read, s₄, hread, h⟩ := bind_eq_ok.mp h
  obtain ⟨_, s₅, hsome, h⟩ := bind_eq_ok.mp h
  obtain ⟨rfl, -⟩ := pure_iff.mp h
  have hne : read ≠ [] := by simpa using require_ok (lift_ok hsome)
  rcases keepLast_ok (lift_ok hread) with ⟨-, hstart⟩ | ⟨cert, hlast, hcert⟩
  · exact absurd hstart hne
  · exact ⟨s₂, s₃, observed, cert, read, reported_ok.mp hobserved, hlast, hcert, rfl⟩

theorem collectSwitch_ok {architecture : SwitchArchitecture} {uuid : String} {e : SwitchEvidence}
    (h : nscq.collectSwitch architecture nonceInput uuid s = (.ok e, s')) :
    nonceInput.length = NSCQ_ATTESTATION_REPORT_NONCE_SIZE ∧ e.architecture = architecture ∧
      Gave nscq nonceInput uuid e := by
  obtain ⟨report, _, hreport, h⟩ := bind_eq_ok.mp h
  obtain ⟨chain, _, hchain, h⟩ := bind_eq_ok.mp h
  obtain ⟨_, _, _, h⟩ := bind_eq_ok.mp h
  obtain ⟨rfl, -⟩ := pure_iff.mp h
  obtain ⟨hnonce, hreport⟩ := getAttestationReport_ok hreport
  exact ⟨hnonce, rfl, rfl, hreport, getAttestationCertChain_ok hchain⟩

/-- A collection through NSCQ: one item for each switch that was observed with success and
labelled, in order and all of the architecture that was observed last. The others are left out. -/
theorem switches_collected {evidence : List SwitchEvidence}
    (h : nscq.evidenceSource.getEvidence nonceInput s = (.ok evidence, s')) :
    ∃ s₁ s₂ observed labels, nscq.observeUuid s₁ = (.ok observed, s₂) ∧
      observed.filterMap nscq.labelOf = labels ∧ labels ≠ [] ∧
      nonceInput.length = NSCQ_ATTESTATION_REPORT_NONCE_SIZE ∧
      ∃ architecture, List.Forall₂ (fun label e => ∃ uuid, labelText label = .ok uuid ∧
        e.architecture = architecture ∧ Gave nscq nonceInput uuid e) labels evidence := by
  obtain ⟨_, s₁, _, h⟩ := bind_eq_ok.mp h
  obtain ⟨_, s₂, _, h⟩ := bind_eq_ok.mp h
  obtain ⟨uuids, s₃, huuids, h⟩ := bind_eq_ok.mp h
  obtain ⟨_, s₄, hsome, h⟩ := bind_eq_ok.mp h
  obtain ⟨architecture, s₅, _, h⟩ := bind_eq_ok.mp h
  obtain ⟨observed, s₆, hobserved, huuids⟩ := bind_eq_ok.mp huuids
  obtain ⟨s₇, hobserved⟩ := observe_ok hobserved
  have hne : uuids ≠ [] := by simpa using require_ok (lift_ok hsome)
  obtain ⟨new, rfl, hlabels⟩ := labels_ok (lift_ok huuids)
  have hswitches : List.Forall₂ (fun uuid e =>
      nonceInput.length = NSCQ_ATTESTATION_REPORT_NONCE_SIZE ∧ e.architecture = architecture ∧
        Gave nscq nonceInput uuid e) uuids evidence :=
    (each_iff.mp h).forall₂ fun _ _ _ _ => collectSwitch_ok
  refine ⟨s₇, _, observed, _, hobserved, rfl, fun hnone => ?_, ?_, architecture, ?_⟩
  · rw [hnone] at hlabels
    exact hne (List.forall₂_nil_left_iff.mp hlabels)
  · obtain ⟨first, rest, rfl⟩ := List.exists_cons_of_ne_nil hne
    obtain ⟨e, _, hfirst, -⟩ := List.forall₂_cons_left_iff.mp hswitches
    exact hfirst.1
  · refine (forall₂_through hlabels hswitches).imp fun label e hgave => ?_
    obtain ⟨uuid, htext, -, harch, hgave⟩ := hgave
    exact ⟨uuid, htext, harch, hgave⟩

end Nscq

/-- Three switches: the first is not observed, the third has no label, and the second gives a
report before its last observation fails. -/
def sampleNscq : Nscq Unit where
  initNscq := pure ()
  gNscqInitialized _ := true
  gNscqSession _ := true
  observeUuid := pure [(1, none), (0, some [1]), (0, some [2])]
  uuidToLabel uuid :=
    if uuid = [1] then .ok (Filled.holding [83, 87] (by decide)) else .error 5
  observeArch := pure [(0, 2)]
  observePcieMode _ := pure []
  observeCertificate _ := pure [(0, Filled.holding [80] (by decide))]
  observeAttestationReport _ :=
    pure [(0, Filled.holding [1] (by decide)), (3, Filled.holding [2] (by decide))]
  sessionSetInput _ := pure ()

def sampleSwitches : List SwitchEvidence :=
  [⟨.LS10, List.replicate NSCQ_ATTESTATION_REPORT_NONCE_SIZE 0, [1], "P"⟩]

theorem sampleNscq_evidence :
    sampleNscq.evidenceSource.getEvidence (List.replicate NSCQ_ATTESTATION_REPORT_NONCE_SIZE 0) () =
      (.ok sampleSwitches, ()) := by
  have hswitch : sampleNscq.collectSwitch .LS10
      (List.replicate NSCQ_ATTESTATION_REPORT_NONCE_SIZE 0) "SW" () =
      (.ok ⟨.LS10, List.replicate NSCQ_ATTESTATION_REPORT_NONCE_SIZE 0, [1], "P"⟩, ()) := by
    refine bind_eq_ok.mpr ⟨[1], (), ?_, bind_eq_ok.mpr ⟨"P", (), ?_, ?_⟩⟩
    · rfl
    · rfl
    · rfl
  refine bind_eq_ok.mpr ⟨(), (), rfl, bind_eq_ok.mpr ⟨(), (), rfl, ?_⟩⟩
  refine bind_eq_ok.mpr ⟨["SW"], (), rfl, bind_eq_ok.mpr ⟨(), (), rfl, ?_⟩⟩
  refine bind_eq_ok.mpr ⟨.LS10, (), rfl, ?_⟩
  exact each_iff.mpr (.cons hswitch (.nil ()))

theorem switches_collected_sample :
    ∃ s₁ s₂ observed labels, sampleNscq.observeUuid s₁ = (.ok observed, s₂) ∧
      observed.filterMap sampleNscq.labelOf = labels ∧ labels ≠ [] ∧
      (List.replicate NSCQ_ATTESTATION_REPORT_NONCE_SIZE (0 : UInt8)).length =
        NSCQ_ATTESTATION_REPORT_NONCE_SIZE ∧
      ∃ architecture, List.Forall₂ (fun label e => ∃ uuid, labelText label = .ok uuid ∧
        e.architecture = architecture ∧
        Nscq.Gave sampleNscq (List.replicate NSCQ_ATTESTATION_REPORT_NONCE_SIZE 0) uuid e)
        labels sampleSwitches :=
  Nscq.switches_collected sampleNscq_evidence

end AttestationSdk.Collect
