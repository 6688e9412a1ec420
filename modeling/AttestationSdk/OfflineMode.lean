import AttestationSdk.CliAttest
import AttestationSdk.PairedRuns
import Mathlib.Data.Nat.Digits.Defs

/-! The offline status mode of the command line tool. -/
namespace AttestationSdk.Cli
open AttestationSdk.Attestation AttestationSdk.ChainStatus AttestationSdk.Rim AttestationSdk.Eat
open AttestationSdk.Http AttestationSdk.Ocsp AttestationSdk.RawProofOcsp
open AttestationSdk.StatusProofBundle Effects ExceptRules
variable {σ : Type}

def digitValue (digit : Char) : Nat := digit.toNat - '0'.toNat

/-- The number that a text of decimal digits writes. -/
def decimalValue (text : String) : Nat := Nat.ofDigits 10 (text.toList.reverse.map digitValue)

section Time
variable {digits : List Char}

theorem digitValue_le {digit : Char} (h : digit ∈ decimalDigits) :
    digitValue digit ≤ 9 ∧ (digit.toNat : Int) - '0'.toNat = digitValue digit ∧
      (digitValue digit = 0 ↔ digit = '0') := by
  have hall : decimalDigits.all (fun digit => digitValue digit ≤ 9 ∧
      (digit.toNat : Int) - '0'.toNat = digitValue digit ∧
      (digitValue digit = 0 ↔ digit = '0')) = true := by decide +kernel
  simpa using List.all_eq_true.mp hall digit h

theorem ofDigits_cons (digit : Char) (rest : List Char) :
    Nat.ofDigits 10 ((digit :: rest).reverse.map digitValue) =
      digitValue digit * 10 ^ rest.length + Nat.ofDigits 10 (rest.reverse.map digitValue) := by
  rw [List.reverse_cons, List.map_append, Nat.ofDigits_append, List.length_map,
    List.length_reverse, List.map_singleton, Nat.ofDigits_singleton, Nat.add_comm, Nat.mul_comm]

theorem int64_ok {n : Nat} (h : n < 10 ^ 18) : int64 n = .ok (n : Int) := by
  rw [int64, if_pos]
  rw [int64Min, int64Max]
  omega

/-- The value so far leaves room for all the digits to come. -/
theorem parseDigits_ok (hdigits : ∀ digit ∈ digits, digit ∈ decimalDigits) {n : Nat}
    (hroom : (n + 1) * 10 ^ digits.length ≤ 10 ^ 18) :
    parseDigits digits n =
      .ok ((n * 10 ^ digits.length + Nat.ofDigits 10 (digits.reverse.map digitValue) : Nat)) := by
  induction digits generalizing n with
  | nil => simp [parseDigits]
  | cons digit rest ih =>
    obtain ⟨hle, hvalue, -⟩ := digitValue_le (hdigits digit List.mem_cons_self)
    have hpow : (n + 1) * 10 ^ (rest.length + 1) = (n * 10 + 10) * 10 ^ rest.length := by ring
    rw [List.length_cons, hpow] at hroom
    have hnext : (n * 10 + digitValue digit + 1) * 10 ^ rest.length ≤ 10 ^ 18 :=
      (Nat.mul_le_mul_right _ (by omega)).trans hroom
    have hone : 1 ≤ 10 ^ rest.length := Nat.one_le_pow _ _ (by decide)
    have hsmall : n * 10 + digitValue digit < 10 ^ 18 :=
      Nat.lt_of_lt_of_le (Nat.lt_succ_self _) ((Nat.le_mul_of_pos_right _ hone).trans hnext)
    have hshift : int64 ((n : Int) * 10) = .ok ((n * 10 : Nat) : Int) := by
      rw [← int64_ok (by omega : n * 10 < 10 ^ 18), Int.natCast_mul]
      rfl
    have hadd : int64 (((n * 10 : Nat) : Int) + ((digit.toNat : Int) - '0'.toNat)) =
        .ok ((n * 10 + digitValue digit : Nat) : Int) := by
      rw [hvalue, ← Int.natCast_add, int64_ok hsmall]
    rw [parseDigits, hshift, ok_bind, hadd, ok_bind,
      ih (fun d hd => hdigits d (List.mem_cons_of_mem _ hd)) hnext, ofDigits_cons, List.length_cons]
    congr 2
    ring

theorem ofDigits_pos (hdigits : ∀ digit ∈ digits, digit ∈ decimalDigits)
    (hnonzero : ∃ digit ∈ digits, digit ≠ '0') :
    0 < Nat.ofDigits 10 (digits.reverse.map digitValue) := by
  induction digits with
  | nil =>
    obtain ⟨digit, hmem, -⟩ := hnonzero
    cases hmem
  | cons digit rest ih =>
    rw [ofDigits_cons]
    by_cases hzero : digit = '0'
    · obtain ⟨other, hmem, hother⟩ := hnonzero
      have hrest := (List.mem_cons.mp hmem).resolve_left fun heq => hother (heq.trans hzero)
      exact Nat.add_pos_right _
        (ih (fun d hd => hdigits d (List.mem_cons_of_mem _ hd)) ⟨other, hrest, hother⟩)
    · have hvalue := (digitValue_le (hdigits digit List.mem_cons_self)).2.2
      have hpos : 0 < digitValue digit := Nat.pos_of_ne_zero fun h => hzero (hvalue.mp h)
      exact Nat.add_pos_left (Nat.mul_pos hpos (Nat.pow_pos (by decide))) _

/-- Eighteen digits at most do not overflow. -/
theorem parseDigits_of_short {value : String} (hlength : value.length ≤ 18)
    (hall : value.toList.all decimalDigits.contains = true) :
    parseDigits value.toList 0 = .ok (decimalValue value : Int) := by
  have hdigits : ∀ digit ∈ value.toList, digit ∈ decimalDigits :=
    fun digit hmem => List.contains_iff_mem.mp (List.all_eq_true.mp hall digit hmem)
  have hroom : (0 + 1) * 10 ^ value.toList.length ≤ 10 ^ 18 := by
    rw [Nat.zero_add, Nat.one_mul]
    exact Nat.pow_le_pow_right (by decide) hlength
  have hparsed := parseDigits_ok hdigits hroom
  rw [Nat.zero_mul, Nat.zero_add] at hparsed
  exact hparsed

/-- A time that the options' check accepts is parsed to its value, so no step overflows. -/
theorem parseVerificationTime_of_valid {app : CommandLine} {options : EvidenceVerificationOptions}
    (h : validateOfflineStatusOptions app options = .ok ()) :
    parseVerificationTime options.ocspVerificationTime =
      .ok (decimalValue options.ocspVerificationTime : Int) := by
  rw [validateOfflineStatusOptions] at h
  split at h
  · cases h
  · next htime =>
    simp only [Bool.or_eq_true, not_or, Bool.not_eq_true, Bool.not_eq_false', decide_eq_false_iff_not,
      Nat.not_lt] at htime
    obtain ⟨⟨⟨hnonempty, hlength⟩, hall⟩, hnonzero⟩ := htime
    have hdigits : ∀ digit ∈ options.ocspVerificationTime.toList, digit ∈ decimalDigits :=
      fun digit hmem => List.contains_iff_mem.mp (List.all_eq_true.mp hall digit hmem)
    have hother : ∃ digit ∈ options.ocspVerificationTime.toList, digit ≠ '0' := by
      simpa using hnonzero
    have hpos : 0 < decimalValue options.ocspVerificationTime := ofDigits_pos hdigits hother
    rw [parseVerificationTime, if_neg (by simp [hnonempty, hlength, hall]),
      parseDigits_of_short hlength hall, ok_bind, if_neg (by omega)]

end Time

/-- The constructors that set up an `NvHttpClient` are not to be called. -/
def withoutNetwork (factories : Factories σ) : Factories σ :=
  { factories with
    remoteRimStore := fun _ _ _ => Prog.fail .undefined
    httpOcspClient := fun _ _ _ => Prog.fail .undefined
    remoteGpuVerifier := fun _ _ _ => Prog.fail .undefined
    remoteSwitchVerifier := fun _ _ _ => Prog.fail .undefined }

/-- A context that needs no component of the network. -/
structure LocalReady (ctx : AttestationContext σ) : Prop where
  rimStore : ctx.defaultRimStore.isSome
  ocspClient : ctx.defaultOcspClient.isSome
  verifierType : ctx.defaultVerifierType = .Local

/-- Two ways to set up a context of this kind do the same, and nothing outside it. -/
def SameSetup (x y : Prog Fault (AttestationContext σ × σ) Unit) : Prop :=
  ∀ w, LocalReady w.1 → ∃ ctx, x w = (.ok (), (ctx, w.2)) ∧ y w = (.ok (), (ctx, w.2)) ∧
    LocalReady ctx

section Setup
variable {x y x' y' : Prog Fault (AttestationContext σ × σ) Unit}

theorem sameSetup_bind (hx : SameSetup x x') (hy : SameSetup y y') :
    SameSetup (x >>= fun _ => y) (x' >>= fun _ => y') := by
  intro w hw
  obtain ⟨ctx, hrun, hrun', hready⟩ := hx w hw
  rw [Prog.bind_of_ok hrun, Prog.bind_of_ok hrun']
  exact hy (ctx, w.2) hready

theorem sameSetup_onlyIf {enabled : AttestationContext σ → Bool} (hx : SameSetup x x') :
    SameSetup (onlyIf enabled x) (onlyIf enabled x') := by
  intro w hw
  rw [onlyIf, onlyIf]
  by_cases henabled : enabled w.1 = true
  · rw [if_pos henabled, if_pos henabled]
    exact hx w hw
  · rw [if_neg henabled, if_neg henabled]
    exact ⟨w.1, rfl, rfl, hw⟩

theorem sameSetup_ensure {α : Type} {get : AttestationContext σ → Option α}
    {set : AttestationContext σ → α → AttestationContext σ}
    {create create' : AttestationContext σ → Prog Fault σ α}
    (hcreate : ∀ ctx s, LocalReady ctx → (get ctx).isSome ∨
      ∃ a, create ctx s = (.ok a, s) ∧ create' ctx s = (.ok a, s) ∧ LocalReady (set ctx a)) :
    SameSetup (ensure get set create) (ensure get set create') := by
  intro w hw
  rw [ensure, ensure]
  cases hget : get w.1 with
  | some a => exact ⟨w.1, rfl, rfl, hw⟩
  | none =>
    cases hcreate w.1 w.2 hw with
    | inl hsome =>
      rw [hget] at hsome
      cases hsome
    | inr hmade =>
      obtain ⟨a, hrun, hrun', hready⟩ := hmade
      rw [hrun, hrun']
      exact ⟨set w.1 a, rfl, rfl, hready⟩

theorem createGpuVerifier_ready {ctx : AttestationContext σ} (h : LocalReady ctx)
    (factories : Factories σ) (s : σ) :
    ∃ verifier, createGpuVerifier factories ctx s = (.ok verifier, s) ∧
      createGpuVerifier (withoutNetwork factories) ctx s = (.ok verifier, s) := by
  obtain ⟨store, hstore⟩ := Option.isSome_iff_exists.mp h.rimStore
  obtain ⟨client, hclient⟩ := Option.isSome_iff_exists.mp h.ocspClient
  simp only [createGpuVerifier, h.verifierType, hstore, hclient]
  exact ⟨_, rfl, rfl⟩

theorem createSwitchVerifier_ready {ctx : AttestationContext σ} (h : LocalReady ctx)
    (factories : Factories σ) (s : σ) :
    ∃ verifier, createSwitchVerifier factories ctx s = (.ok verifier, s) ∧
      createSwitchVerifier (withoutNetwork factories) ctx s = (.ok verifier, s) := by
  obtain ⟨store, hstore⟩ := Option.isSome_iff_exists.mp h.rimStore
  obtain ⟨client, hclient⟩ := Option.isSome_iff_exists.mp h.ocspClient
  simp only [createSwitchVerifier, h.verifierType, hstore, hclient]
  exact ⟨_, rfl, rfl⟩

/-- `ensure_init` asks for no component of the network. -/
theorem ensureInit_sameSetup (factories : Factories σ) :
    SameSetup (ensureInit factories) (ensureInit (withoutNetwork factories)) := by
  refine sameSetup_bind (sameSetup_ensure fun _ _ h => .inl h.rimStore) ?_
  refine sameSetup_bind (sameSetup_ensure fun _ _ h => .inl h.ocspClient) ?_
  refine sameSetup_bind (sameSetup_onlyIf (sameSetup_ensure fun ctx s h => .inr ?_)) ?_
  · exact ⟨factories.nvmlEvidenceCollector, rfl, rfl, ⟨h.rimStore, h.ocspClient, h.verifierType⟩⟩
  refine sameSetup_bind (sameSetup_onlyIf (sameSetup_ensure fun ctx s h => .inr ?_)) ?_
  · obtain ⟨verifier, hmade, hmade'⟩ := createGpuVerifier_ready h factories s
    exact ⟨verifier, hmade, hmade', ⟨h.rimStore, h.ocspClient, h.verifierType⟩⟩
  refine sameSetup_bind (sameSetup_onlyIf (sameSetup_ensure fun ctx s h => .inr ?_)) ?_
  · exact ⟨factories.nscqEvidenceCollector, rfl, rfl, ⟨h.rimStore, h.ocspClient, h.verifierType⟩⟩
  refine sameSetup_onlyIf (sameSetup_ensure fun ctx s h => .inr ?_)
  obtain ⟨verifier, hmade, hmade'⟩ := createSwitchVerifier_ready h factories s
  exact ⟨verifier, hmade, hmade', ⟨h.rimStore, h.ocspClient, h.verifierType⟩⟩

end Setup

/-- The errors of the C API. -/
def IsCode (f : Fault) : Prop := ∃ rc, f = .code rc

theorem isCode_code (rc : Error) : IsCode (.code rc) := ⟨rc, rfl⟩

theorem failsOnly_code {α : Type} (rc : Error) :
    FailsOnly IsCode (.error (.code rc) : Except Fault α) := by
  intro f h
  cases h
  exact isCode_code rc

section Codes

theorem parseVerificationTime_codes (value : String) :
    FailsOnly IsCode (parseVerificationTime value) := by
  rw [parseVerificationTime]
  refine failsOnly_ite (fun _ => failsOnly_code _) fun htime => ?_
  simp only [Bool.or_eq_true, not_or, Bool.not_eq_true, Bool.not_eq_false', decide_eq_false_iff_not,
    Nat.not_lt] at htime
  rw [parseDigits_of_short htime.1.2 htime.2, ok_bind]
  exact failsOnly_ite (fun _ => failsOnly_code _) fun _ => failsOnly_ok _ _

theorem parseBasicResponse_codes (lib : OcspLib) (der : Bytes) :
    FailsOnly IsCode (lib.parseBasicResponse der) := by
  rw [OcspLib.parseBasicResponse]
  refine failsOnly_ite (fun _ => failsOnly_code _) fun _ => ?_
  cases lib.d2iResponse der with
  | none => exact failsOnly_code _
  | some resp =>
    refine failsOnly_ite (fun _ => failsOnly_code _) fun _ => ?_
    refine failsOnly_ite (fun _ => failsOnly_code _) fun _ => ?_
    refine failsOnly_ite (fun _ => ?_) fun _ => ?_
    · cases resp.basic with
      | none => exact failsOnly_code _
      | some basic => exact failsOnly_ite (fun _ => failsOnly_code _) fun _ => failsOnly_ok _ _
    · refine failsOnly_ite (fun _ => failsOnly_code _) fun _ => ?_
      exact failsOnly_ite (fun _ => failsOnly_code _) fun _ => failsOnly_code _

theorem parseProof_codes (lib : OcspLib) (response : Bytes) :
    FailsOnly IsCode (parseProof lib response) := by
  rw [parseProof]
  refine failsOnly_ite (fun _ => failsOnly_code _) fun _ => ?_
  have hparse := parseBasicResponse_codes lib response
  cases hresult : lib.parseBasicResponse response with
  | ok basic => exact failsOnly_ok _ _
  | error f =>
    obtain ⟨rc, rfl⟩ := hparse f hresult
    exact failsOnly_code _

theorem create_codes (lib : OcspLib) (responses : List Bytes) (verificationTime : Int) :
    FailsOnly IsCode (create lib responses verificationTime) := by
  rw [create]
  refine failsOnly_ite (fun _ => failsOnly_code _) fun _ => ?_
  split
  · exact failsOnly_code _
  · refine FailsOnly.bind (failsOnly_mapM fun response _ => parseProof_codes lib response) ?_
    exact fun _ _ => failsOnly_ok _ _

theorem createRawProofs_codes (lib : OcspLib) (bundle : Bytes) (verificationTime : Int) :
    FailsOnly IsCode (nvatOcspClientCreateRawProofs lib bundle verificationTime) := by
  rw [nvatOcspClientCreateRawProofs]
  refine failsOnly_ite (fun _ => failsOnly_code _) fun _ => ?_
  refine failsOnly_ite (fun _ => failsOnly_code _) fun _ => ?_
  refine failsOnly_ite (fun _ => failsOnly_code _) fun _ => ?_
  have hcreate : FailsOnly IsCode (createFromBundle lib bundle verificationTime) := by
    cases decodeBundle_total bundle [] with
    | inl hok =>
      obtain ⟨responses, hdecoded⟩ := hok
      rw [createFromBundle, hdecoded]
      exact create_codes lib responses verificationTime
    | inr herror =>
      rw [createFromBundle, herror]
      exact failsOnly_code _
  intro f hf
  cases hresult : createFromBundle lib bundle verificationTime with
  | ok client =>
    rw [hresult] at hf
    cases hf
  | error g =>
    obtain ⟨rc, rfl⟩ := hcreate g hresult
    rw [hresult] at hf
    cases hf
    exact isCode_code rc

end Codes

/-- The context of the other run has the same components and settings, apart from the options of
HTTP clients. -/
def Alike (httpOptions : HttpOptions) (P : AttestationContext σ → Prop)
    (ctx₁ ctx₂ : AttestationContext σ) : Prop :=
  ctx₂ = setDefaultHttpOptions httpOptions ctx₁ ∧ P ctx₁

/-- Two offline runs whose inputs agree, apart from the configuration of the network. -/
structure AgreeOffline (machine : Machine σ) (options₁ options₂ : EvidenceVerificationOptions) :
    Prop where
  offline₁ : options₁.offlineStatusProofs = true
  offline₂ : options₂.offlineStatusProofs = true
  verifier : options₂.verifier = options₁.verifier
  rimStore : options₂.rimStore = options₁.rimStore
  rimPath : options₂.rimPath = options₁.rimPath
  relyingPartyPolicy : options₂.relyingPartyPolicy = options₁.relyingPartyPolicy
  bundle : machine.readBytes options₂.ocspProofBundle = machine.readBytes options₁.ocspProofBundle
  verificationTime : options₂.ocspVerificationTime = options₁.ocspVerificationTime

/-- The components of the offline mode: the store in the directory and the raw proofs. -/
structure Components (machine : Machine σ) (options : EvidenceVerificationOptions)
    (ctx : AttestationContext σ) : Prop where
  rimStore : ctx.defaultRimStore =
    some (filesystemRimStore machine.rimFiles machine.readDoc options.rimPath)
  ocspClient : ∃ bundle time client,
    readStatusProofBundle (machine.readBytes options.ocspProofBundle) = .ok bundle ∧
    parseVerificationTime options.ocspVerificationTime = .ok time ∧
    nvatOcspClientCreateRawProofs machine.ocspLib bundle time = .ok client ∧
    ctx.defaultOcspClient = some (rawProofClient machine.ocspLib client)

/-- The context of the offline mode: its components and a local verifier. -/
structure Offline (machine : Machine σ) (options : EvidenceVerificationOptions)
    (ctx : AttestationContext σ) : Prop extends Components machine options ctx where
  verifierType : ctx.defaultVerifierType = .Local

theorem Offline.ready {machine : Machine σ} {options : EvidenceVerificationOptions}
    {ctx : AttestationContext σ} (h : Offline machine options ctx) : LocalReady ctx where
  rimStore := by
    rw [h.rimStore]
    rfl
  ocspClient := by
    obtain ⟨_, _, _, _, _, _, hclient⟩ := h.ocspClient
    rw [hclient]
    rfl
  verifierType := h.verifierType

section Pairs
variable {P Q : AttestationContext σ → Prop} {httpOptions : HttpOptions}
  {ctx₁ ctx₂ : AttestationContext σ}

theorem inStep_checkRc (rc : Error) :
    InStep IsCode (fun _ _ => True) (checkRc rc : Prog Fault σ Unit)
      (checkRc rc : Prog Fault σ Unit) :=
  inStep_ite (fun _ => inStep_pure trivial) fun _ => inStep_fail (isCode_code rc)

theorem inStep_check {α : Type} (r : Except Error α) :
    InStep IsCode (fun a b => r = .ok a ∧ b = a) (check r : Prog Fault σ α)
      (check r : Prog Fault σ α) := by
  cases r with
  | error e => exact inStep_fail (isCode_code e)
  | ok a => exact inStep_pure ⟨rfl, rfl⟩

/-- A setter that does not read the HTTP options keeps the contexts alike. -/
theorem Alike.apply (h : Alike httpOptions P ctx₁ ctx₂)
    (set : AttestationContext σ → AttestationContext σ)
    (hcomm : ∀ ctx, set (setDefaultHttpOptions httpOptions ctx) =
      setDefaultHttpOptions httpOptions (set ctx)) (hset : P ctx₁ → Q (set ctx₁)) :
    Alike httpOptions Q (set ctx₁) (set ctx₂) := by
  refine ⟨?_, hset h.2⟩
  rw [h.1, hcomm]

/-- Both runs end alike where the same setter is applied at the end. -/
theorem Alike.return_apply (h : Alike httpOptions P ctx₁ ctx₂)
    (set : AttestationContext σ → AttestationContext σ)
    (hcomm : ∀ ctx, set (setDefaultHttpOptions httpOptions ctx) =
      setDefaultHttpOptions httpOptions (set ctx)) (hset : P ctx₁ → Q (set ctx₁)) :
    InStep IsCode (Alike httpOptions Q) (return set ctx₁ : Prog Fault σ _)
      (return set ctx₂ : Prog Fault σ _) :=
  inStep_pure (h.apply set hcomm hset)

variable (machine : Machine σ)

theorem inStep_configureDevice (collection : EvidenceCollectionOptions)
    (h : Alike httpOptions P ctx₁ ctx₂) :
    InStep IsCode (Alike httpOptions fun _ => True) (configureDevice machine collection ctx₁)
      (configureDevice machine collection ctx₂) := by
  have hdevice : ∀ type, Alike httpOptions (fun _ => True) (setDeviceType type ctx₁)
      (setDeviceType type ctx₂) := fun type => by
    refine h.apply (setDeviceType type) (fun ctx => ?_) fun _ => trivial
    rw [setDeviceType, setDeviceType]
    split
    · rfl
    · rfl
  rw [configureDevice, configureDevice]
  refine inStep_ite (fun _ => ?_) fun _ => inStep_ite (fun _ => ?_) fun _ => ?_
  · refine inStep_ite (fun _ => inStep_fail (isCode_code _)) fun _ => ?_
    refine inStep_ite (fun _ => ?_) fun _ => inStep_pure (hdevice _)
    refine inStep_bind (inStep_check _) fun source _ hsource => ?_
    rw [hsource.2]
    exact (hdevice _).return_apply (setGpuEvidenceSourceJsonFile (.ok source)) (fun _ => rfl)
      fun _ => trivial
  · refine inStep_ite (fun _ => ?_) fun _ => inStep_pure (hdevice _)
    refine inStep_bind (inStep_check _) fun source _ hsource => ?_
    rw [hsource.2]
    exact (hdevice _).return_apply (setSwitchEvidenceSourceJsonFile (.ok source)) (fun _ => rfl)
      fun _ => trivial
  · exact inStep_pure ⟨h.1, trivial⟩

variable {machine} {network₁ network₂ : Network σ}
  {options₁ options₂ : EvidenceVerificationOptions}

/-- The store is the one of the directory, whatever the options of HTTP clients. -/
theorem inStep_configureRimStore (hagree : AgreeOffline machine options₁ options₂)
    (hverifier : options₁.verifier = "local") (hdir : options₁.rimStore = "dir")
    {httpOptions₁ httpOptions₂ : Option HttpOptions} (h : Alike httpOptions P ctx₁ ctx₂) :
    InStep IsCode (Alike httpOptions fun ctx => ctx.defaultRimStore =
        some (filesystemRimStore machine.rimFiles machine.readDoc options₁.rimPath))
      (configureRimStore machine network₁ options₁ httpOptions₁ ctx₁)
      (configureRimStore machine network₂ options₂ httpOptions₂ ctx₂) := by
  unfold configureRimStore
  simp only [hagree.verifier, hagree.rimStore, hagree.offline₁, hagree.offline₂, hagree.rimPath,
    hverifier, hdir, Bool.not_true, Bool.and_false, Bool.false_eq_true, if_true, if_false]
  exact h.return_apply (setDefaultRimStore
    (some (filesystemRimStore machine.rimFiles machine.readDoc options₁.rimPath))) (fun _ => rfl)
    fun _ => rfl

/-- The client is the one over the raw proofs. -/
theorem inStep_configureOcspClient (hagree : AgreeOffline machine options₁ options₂)
    {httpOptions₁ httpOptions₂ : Option HttpOptions}
    (h : Alike httpOptions (fun ctx => ctx.defaultRimStore =
      some (filesystemRimStore machine.rimFiles machine.readDoc options₁.rimPath)) ctx₁ ctx₂) :
    InStep IsCode (Alike httpOptions (Components machine options₁))
      (configureOcspClient machine network₁ options₁ httpOptions₁ ctx₁)
      (configureOcspClient machine network₂ options₂ httpOptions₂ ctx₂) := by
  unfold configureOcspClient
  rw [hagree.offline₁, hagree.offline₂, if_pos rfl,
    if_pos rfl, hagree.bundle, hagree.verificationTime]
  refine inStep_bind (inStep_check _) fun bundle _ hbundle => ?_
  rw [hbundle.2]
  refine inStep_bind (inStep_liftSame (parseVerificationTime_codes _)) fun time _ htime => ?_
  rw [htime.2]
  refine inStep_bind (inStep_liftSame (createRawProofs_codes _ _ _)) fun client _ hclient => ?_
  rw [hclient.2]
  exact h.return_apply (setDefaultOcspClient (some (rawProofClient machine.ocspLib client)))
    (fun _ => rfl) fun hstore => ⟨hstore, ⟨bundle, time, client, hbundle.1, htime.1, hclient.1, rfl⟩⟩

theorem inStep_setRelyingPartyPolicy (hagree : AgreeOffline machine options₁ options₂)
    (h : Alike httpOptions (Components machine options₁) ctx₁ ctx₂) :
    InStep IsCode (Alike httpOptions (Components machine options₁))
      (setRelyingPartyPolicy machine options₁ ctx₁)
      (setRelyingPartyPolicy machine options₂ ctx₂) := by
  rw [setRelyingPartyPolicy, setRelyingPartyPolicy, hagree.relyingPartyPolicy]
  refine inStep_ite (fun _ => inStep_pure h) fun _ => ?_
  cases machine.readText options₁.relyingPartyPolicy with
  | none => exact inStep_fail (isCode_code _)
  | some regoStr =>
    exact h.return_apply (setClaimsEvaluator (some (machine.regoClaimsEvaluator regoStr)))
      (fun _ => rfl) fun hcomponents => ⟨hcomponents.rimStore, hcomponents.ocspClient⟩

theorem inStep_configureVerifier (hagree : AgreeOffline machine options₁ options₂)
    (hverifier : options₁.verifier = "local")
    (h : Alike httpOptions (Components machine options₁) ctx₁ ctx₂) :
    InStep IsCode (Alike httpOptions (Offline machine options₁)) (configureVerifier options₁ ctx₁)
      (configureVerifier options₂ ctx₂) := by
  rw [configureVerifier, configureVerifier, hagree.verifier, if_pos hverifier, if_pos hverifier]
  refine h.return_apply (setVerifierType .Local) (fun ctx => ?_) fun hcomponents => ?_
  · rw [setVerifierType, setVerifierType]
    by_cases hchange : ctx.defaultVerifierType ≠ .Local
    · rw [if_pos hchange, if_pos (show (setDefaultHttpOptions httpOptions ctx).defaultVerifierType ≠
        .Local from hchange)]
      rfl
    · rw [if_neg hchange, if_neg (show ¬ (setDefaultHttpOptions httpOptions ctx).defaultVerifierType ≠
        .Local from hchange)]
      rfl
  · rw [setVerifierType]
    by_cases hchange : ctx₁.defaultVerifierType ≠ .Local
    · rw [if_pos hchange]
      exact ⟨⟨hcomponents.rimStore, hcomponents.ocspClient⟩, rfl⟩
    · rw [if_neg hchange]
      exact ⟨⟨hcomponents.rimStore, hcomponents.ocspClient⟩, rfl⟩

variable (collection : EvidenceCollectionOptions) (policy : EvidencePolicyOptions)

/-- Both runs stop with the same code, or come to `nvat_attest_device` with the same nonce and
contexts alike. -/
theorem inStep_prepareAttestation (hagree : AgreeOffline machine options₁ options₂) :
    InStep IsCode
      (fun a b => b.2 = a.2 ∧ Alike (newHttpOptions network₂.caBundle) (Offline machine options₁)
        a.1 b.1)
      (prepareAttestation machine network₁ collection policy options₁)
      (prepareAttestation machine network₂ collection policy options₂) := by
  rw [prepareAttestation, prepareAttestation]
  refine inStep_bind (inStep_checkRc _) fun _ _ _ => ?_
  rw [hagree.verifier, hagree.rimStore, hagree.offline₁, hagree.offline₂]
  refine inStep_ite (fun _ => inStep_fail (isCode_code _)) fun hmode => ?_
  have hverifier : options₁.verifier = "local" := by
    by_contra hother
    exact hmode ⟨rfl, .inl hother⟩
  have hdir : options₁.rimStore = "dir" := by
    by_contra hother
    exact hmode ⟨rfl, .inr hother⟩
  have hhttp : InStep IsCode (fun a b => a = none ∧ b = none) (makeHttpOptions network₁ options₁)
      (makeHttpOptions network₂ options₂) := by
    rw [makeHttpOptions, makeHttpOptions, hagree.offline₁, hagree.offline₂, if_pos rfl, if_pos rfl]
    exact inStep_pure ⟨rfl, rfl⟩
  refine inStep_bind hhttp fun http₁ http₂ hnone => ?_
  rw [hnone.1, hnone.2]
  have hstart : Alike (newHttpOptions network₂.caBundle) (fun _ => True)
      (configurePolicy policy (newContext network₁ none))
      (configurePolicy policy (newContext network₂ none)) := ⟨rfl, trivial⟩
  refine inStep_bind (inStep_configureDevice machine collection hstart) fun dev₁ dev₂ hdevice => ?_
  have hkey : ∀ (options : EvidenceVerificationOptions) (ctx : AttestationContext σ),
      options.offlineStatusProofs = true → configureServiceKey options ctx = ctx := by
    intro options ctx hoffline
    rw [configureServiceKey, hoffline]
    rfl
  have hnras : ∀ (network : Network σ) (options : EvidenceVerificationOptions),
      options.offlineStatusProofs = true → configureNras network options = pure () := by
    intro network options hoffline
    rw [configureNras, hoffline]
    rfl
  simp only [hkey _ _ hagree.offline₁, hkey _ _ hagree.offline₂, hnras _ _ hagree.offline₁,
    hnras _ _ hagree.offline₂]
  refine inStep_bind (inStep_configureRimStore hagree hverifier hdir hdevice)
    fun rim₁ rim₂ hrim => ?_
  refine inStep_bind (inStep_configureOcspClient hagree hrim) fun ocsp₁ ocsp₂ hocsp => ?_
  have hunit : InStep IsCode (fun _ _ => True) (pure () : Prog Fault σ Unit)
      (pure () : Prog Fault σ Unit) := inStep_pure trivial
  refine inStep_bind hunit fun _ _ _ => ?_
  refine inStep_bind (inStep_setRelyingPartyPolicy hagree hocsp) fun rp₁ rp₂ hpolicy => ?_
  refine inStep_bind (inStep_configureVerifier hagree hverifier hpolicy)
    fun ctx₁ ctx₂ hready => ?_
  have hnonce : InStep IsCode (fun a b => b = a) (chosenNonce collection : Prog Fault σ Bytes)
      (chosenNonce collection : Prog Fault σ Bytes) := by
    rw [chosenNonce]
    refine inStep_ite (fun _ => inStep_pure rfl) fun _ s t => ?_
    cases @inStep_check σ _ (nvatNonceFromHex collection.nonce) s t with
    | inl hfail => exact .inl hfail
    | inr hok =>
      obtain ⟨a, b, hfirst, hsecond, -, heq⟩ := hok
      exact .inr ⟨a, b, hfirst, hsecond, heq⟩
  exact inStep_bind hnonce fun _ _ heq => inStep_pure ⟨heq, hready⟩

end Pairs

theorem Alike.offline {machine : Machine σ} {options₁ options₂ : EvidenceVerificationOptions}
    {httpOptions : HttpOptions} {ctx₁ ctx₂ : AttestationContext σ}
    (h : Alike httpOptions (Offline machine options₁) ctx₁ ctx₂)
    (hagree : AgreeOffline machine options₁ options₂) : Offline machine options₂ ctx₂ := by
  have hfirst := h.2
  rw [h.1]
  refine ⟨⟨?_, ?_⟩, hfirst.verifierType⟩
  · rw [hagree.rimPath]
    exact hfirst.rimStore
  · rw [hagree.bundle, hagree.verificationTime]
    exact hfirst.ocspClient

/-- `ensure_init` succeeds, changes nothing but the context, and would with constructors of network
components that must not be called. -/
def NoHttpClient (ctx : AttestationContext σ) : Prop :=
  ∀ factories s, ∃ ctx', ensureInit factories (ctx, s) = (.ok (), (ctx', s)) ∧
    ensureInit (withoutNetwork factories) (ctx, s) = (.ok (), (ctx', s))

theorem LocalReady.noHttpClient {ctx : AttestationContext σ} (h : LocalReady ctx) :
    NoHttpClient ctx := by
  intro factories s
  obtain ⟨ctx', hrun, hrun', -⟩ := ensureInit_sameSetup factories (ctx, s) h
  exact ⟨ctx', hrun, hrun'⟩

/-- The configuration of the network has no part in the offline mode, and a time that the options'
check accepts is parsed to its value. -/
theorem offline_status_mode (machine : Machine σ) (network₁ network₂ : Network σ)
    (collection : EvidenceCollectionOptions) (policy : EvidencePolicyOptions)
    (options₁ options₂ : EvidenceVerificationOptions)
    (hagree : AgreeOffline machine options₁ options₂) (s₁ s₂ : σ) :
    ((∃ rc,
        prepareAttestation machine network₁ collection policy options₁ s₁ =
          (.error (.code rc), s₁) ∧
        prepareAttestation machine network₂ collection policy options₂ s₂ =
          (.error (.code rc), s₂)) ∨
      ∃ ctx₁ ctx₂ nonce,
        prepareAttestation machine network₁ collection policy options₁ s₁ =
          (.ok (ctx₁, nonce), s₁) ∧
        prepareAttestation machine network₂ collection policy options₂ s₂ =
          (.ok (ctx₂, nonce), s₂) ∧
        ctx₂ = setDefaultHttpOptions ctx₂.defaultHttpOptions ctx₁ ∧
        Offline machine options₁ ctx₁ ∧ Offline machine options₂ ctx₂ ∧
        NoHttpClient ctx₁ ∧ NoHttpClient ctx₂) ∧
    ∀ app options, validateOfflineStatusOptions app options = .ok () →
      parseVerificationTime options.ocspVerificationTime =
        .ok (decimalValue options.ocspVerificationTime : Int) := by
  refine ⟨?_, fun _ _ => parseVerificationTime_of_valid⟩
  cases @inStep_prepareAttestation σ machine network₁ network₂ options₁ options₂ collection policy
    hagree s₁ s₂ with
  | inl hstop =>
    obtain ⟨f, ⟨rc, rfl⟩, hfirst, hsecond⟩ := hstop
    exact .inl ⟨rc, hfirst, hsecond⟩
  | inr hgo =>
    obtain ⟨⟨ctx₁, nonce₁⟩, ⟨ctx₂, nonce₂⟩, hfirst, hsecond, hnonce, halike⟩ := hgo
    have hsame : nonce₂ = nonce₁ := hnonce
    rw [hsame] at hsecond
    refine .inr ⟨ctx₁, ctx₂, nonce₁, hfirst, hsecond, ?_, halike.2, halike.offline hagree,
      halike.2.ready.noHttpClient, (halike.offline hagree).ready.noHttpClient⟩
    rw [show ctx₂ = _ from halike.1]
    rfl

/-- A library that accepts one response. -/
def proofLib : OcspLib :=
  { sampleLib with
    d2iResponse := fun _ => some ⟨1, [5], 0, some ⟨[], none, []⟩⟩
    rebuild := fun _ => some [5] }

def sampleMachine : Machine Unit where
  initSdk := .Ok
  readBytes _ := some (encode [[5]])
  readText _ := none
  regoClaimsEvaluator _ := ⟨fun _ => pure true⟩
  gpuEvidenceSourceFromJsonFile _ := .error .BadArgument
  switchEvidenceSourceFromJsonFile _ := .error .BadArgument
  rimFiles := ⟨fun _ => pure false, fun _ => pure false, fun _ => pure none⟩
  readDoc _ := none
  ocspLib := proofLib

def sampleNetwork (key : String) : Network Unit where
  caBundle := ⟨fun _ _ => key, fun _ => false, ""⟩
  setenv _ _ := pure ()
  factories := sampleFactories

def sampleCollection : EvidenceCollectionOptions where
  nonce := ""
  device := "gpu"
  gpuEvidenceSource := "nvml"
  switchEvidenceSource := "nscq"
  gpuEvidenceFile := ""
  switchEvidenceFile := ""

def sampleOptions (key : String) : EvidenceVerificationOptions where
  verifier := "local"
  relyingPartyPolicy := ""
  rimStore := "dir"
  rimUrl := key
  rimPath := "rims"
  ocspUrl := key
  nrasUrl := key
  serviceKey := key
  caBundlePath := key
  ocspProofBundle := "proofs.der"
  ocspVerificationTime := "1700000000"

theorem sample_agree : AgreeOffline sampleMachine (sampleOptions "a") (sampleOptions "b") where
  offline₁ := rfl
  offline₂ := rfl
  verifier := rfl
  rimStore := rfl
  rimPath := rfl
  relyingPartyPolicy := rfl
  bundle := rfl
  verificationTime := rfl

/-- With other keys and URLs the command comes to the same context. -/
theorem sample_offline_runs :
    ∃ ctx₁ ctx₂ nonce,
      prepareAttestation sampleMachine (sampleNetwork "a") sampleCollection {} (sampleOptions "a")
        () = (.ok (ctx₁, nonce), ()) ∧
      prepareAttestation sampleMachine (sampleNetwork "b") sampleCollection {} (sampleOptions "b")
        () = (.ok (ctx₂, nonce), ()) ∧
      ctx₂ = setDefaultHttpOptions ctx₂.defaultHttpOptions ctx₁ ∧
      Offline sampleMachine (sampleOptions "a") ctx₁ ∧
      Offline sampleMachine (sampleOptions "b") ctx₂ ∧ NoHttpClient ctx₁ ∧ NoHttpClient ctx₂ := by
  refine (offline_status_mode sampleMachine (sampleNetwork "a") (sampleNetwork "b")
    sampleCollection {} (sampleOptions "a") (sampleOptions "b") sample_agree () ()).1.resolve_left ?_
  rintro ⟨rc, hstop, -⟩
  have hruns : (prepareAttestation sampleMachine (sampleNetwork "a") sampleCollection {}
      (sampleOptions "a") ()).1.isOk = true := by decide +kernel
  rw [hstop] at hruns
  cases hruns

end AttestationSdk.Cli
