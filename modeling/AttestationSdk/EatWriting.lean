import AttestationSdk.DetachedEat

/-! What `get_detached_eat` writes: the labels of the devices and, under each label, the token
and its digest. -/
namespace AttestationSdk.Eat
open Json AttestationSdk.Claims AttestationSdk.Text KeyedList Effects Prog

/-- The labels of devices, after a number of GPUs and of switches. -/
def labelsFrom : Nat → Nat → List DeviceClaims → List String
  | _, _, [] => []
  | gpus, switches, .gpu _ :: rest =>
    ("GPU-" ++ toString gpus) :: labelsFrom (gpus + 1) switches rest
  | gpus, switches, .switch _ :: rest =>
    ("SWITCH-" ++ toString switches) :: labelsFrom gpus (switches + 1) rest

/-- The devices of each kind are numbered in their order. -/
def submodLabels (claims : List DeviceClaims) : List String := labelsFrom 0 0 claims

theorem label_injective {kind : String} {m n : Nat}
    (h : kind ++ toString m = kind ++ toString n) : m = n := by
  have hchars := congrArg String.toList h
  rw [String.toList_append, String.toList_append] at hchars
  have hdigits : Nat.toDigits 10 m = Nat.toDigits 10 n := by
    rw [← Nat.toList_repr, ← Nat.toList_repr]
    exact List.append_cancel_left hchars
  rw [← Nat.ofDigitChars_ten_toDigits (n := m), hdigits, Nat.ofDigitChars_ten_toDigits]

theorem gpu_ne_switch (m n : Nat) : "GPU-" ++ toString m ≠ "SWITCH-" ++ toString n := by
  intro h
  have hchars := congrArg String.toList h
  rw [String.toList_append, String.toList_append] at hchars
  exact absurd (List.cons.inj hchars).1 (by decide)

theorem mem_labelsFrom {claims : List DeviceClaims} {gpus switches : Nat} {label : String}
    (h : label ∈ labelsFrom gpus switches claims) :
    (∃ i, gpus ≤ i ∧ label = "GPU-" ++ toString i) ∨
      ∃ j, switches ≤ j ∧ label = "SWITCH-" ++ toString j := by
  induction claims generalizing gpus switches with
  | nil => cases h
  | cons claim rest ih =>
    cases claim with
    | gpu c =>
      cases List.mem_cons.mp h with
      | inl heq => exact .inl ⟨gpus, Nat.le_refl _, heq⟩
      | inr hrest =>
        cases ih hrest with
        | inl hgpu => exact .inl (hgpu.imp fun i hi => ⟨by omega, hi.2⟩)
        | inr hswitch => exact .inr hswitch
    | switch c =>
      cases List.mem_cons.mp h with
      | inl heq => exact .inr ⟨switches, Nat.le_refl _, heq⟩
      | inr hrest =>
        cases ih hrest with
        | inl hgpu => exact .inl hgpu
        | inr hswitch => exact .inr (hswitch.imp fun j hj => ⟨by omega, hj.2⟩)

theorem labelsFrom_nodup (claims : List DeviceClaims) (gpus switches : Nat) :
    (labelsFrom gpus switches claims).Nodup := by
  induction claims generalizing gpus switches with
  | nil => exact List.nodup_nil
  | cons claim rest ih =>
    cases claim with
    | gpu c =>
      refine List.nodup_cons.mpr ⟨fun hin => ?_, ih _ _⟩
      cases mem_labelsFrom hin with
      | inl hgpu =>
        obtain ⟨i, hi, heq⟩ := hgpu
        have hsame := label_injective heq
        omega
      | inr hswitch =>
        obtain ⟨j, -, heq⟩ := hswitch
        exact gpu_ne_switch _ _ heq
    | switch c =>
      refine List.nodup_cons.mpr ⟨fun hin => ?_, ih _ _⟩
      cases mem_labelsFrom hin with
      | inl hgpu =>
        obtain ⟨i, -, heq⟩ := hgpu
        exact gpu_ne_switch _ _ heq.symm
      | inr hswitch =>
        obtain ⟨j, hj, heq⟩ := hswitch
        have hsame := label_injective heq
        omega

/-- A device of the written EAT. -/
structure WrittenSubmod where
  label : String
  token : String
  digest : String
  deriving Repr, DecidableEq

section Writing
variable {σ : Type} {env : Platform σ} {options : DetachedEATOptions}
  {common : SerializableCommonEATClaims}

/-- A token that was signed for a payload. -/
def SignedFor (env : Platform σ) (options : DetachedEATOptions) (payload : Value) (token : String) :
    Prop :=
  ∃ s s', sign env options payload s = (.ok token, s')

/-- The token of a device has its claims beside the common ones, and its own id. -/
def Written (env : Platform σ) (options : DetachedEATOptions) (common : SerializableCommonEATClaims)
    (claim : DeviceClaims) (r : WrittenSubmod) : Prop :=
  (∃ jti, SignedFor env options (submodClaimsToJson { common with jti } claim) r.token) ∧
    computeSha256Hex env r.token = .ok r.digest

/-- One turn of the loop: what it signs and where it stands then. -/
theorem addSubmod_ok {st st' : SubmodState} {claim : DeviceClaims} {s s' : σ}
    {deviceType : String} {index : Nat} (htype : toUpper claim.getDeviceType = deviceType)
    (hindex : (st.deviceIndex.lookup deviceType).getD 0 = index)
    (h : addSubmod env options common st claim s = (.ok st', s')) :
    ∃ r, Written env options common claim r ∧ r.label = deviceType ++ "-" ++ toString index ∧
      joinNonce st.overallNonce claim.getNonce = .ok st'.overallNonce ∧
      st'.deviceIndex = assign deviceType (index + 1) st.deviceIndex ∧
      st'.submodDigests = assign r.label r.digest st.submodDigests ∧
      st'.deviceJwtTokens = assign r.label r.token st.deviceJwtTokens := by
  rw [addSubmod, htype, hindex] at h
  simp only [bind_eq_ok, lift_iff, pure_iff] at h
  obtain ⟨nonce, _, ⟨hnonce, rfl⟩, jti, s₁, -, token, s₂, hsign, digest, _, ⟨hdigest, rfl⟩, rfl,
    rfl⟩ := h
  exact ⟨⟨deviceType ++ "-" ++ toString index, token, digest⟩,
    ⟨⟨toHexString jti, s₁, _, hsign⟩, hdigest⟩, rfl, hnonce, rfl, rfl, rfl⟩

theorem toUpper_gpu (c : SerializableGpuClaimsV3) :
    toUpper (DeviceClaims.gpu c).getDeviceType = "GPU" := by
  rw [DeviceClaims.getDeviceType, toUpper, ← String.toList_inj, String.toList_map]
  decide

theorem toUpper_switch (c : SerializableSwitchClaimsV3) :
    toUpper (DeviceClaims.switch c).getDeviceType = "SWITCH" := by
  rw [DeviceClaims.getDeviceType, toUpper, ← String.toList_inj, String.toList_map]
  decide

/-- The index holds the numbers of the devices so far. -/
def Counted (gpus switches : Nat) (index : List (String × Nat)) : Prop :=
  (index.lookup "GPU").getD 0 = gpus ∧ (index.lookup "SWITCH").getD 0 = switches

/-- None of the labels has been used. -/
def Unused (labels : List String) (st : SubmodState) : Prop :=
  ∀ label ∈ labels, label ∉ keys st.submodDigests ∧ label ∉ keys st.deviceJwtTokens

/-- The devices written between two states. -/
def Extends (st st' : SubmodState) (records : List WrittenSubmod) : Prop :=
  st'.submodDigests = (records.map fun r => (r.label, r.digest)).reverse ++ st.submodDigests ∧
    st'.deviceJwtTokens = (records.map fun r => (r.label, r.token)).reverse ++ st.deviceJwtTokens

/-- A turn that writes `r`. -/
def Adds (st st' : SubmodState) (r : WrittenSubmod) : Prop :=
  st'.submodDigests = assign r.label r.digest st.submodDigests ∧
    st'.deviceJwtTokens = assign r.label r.token st.deviceJwtTokens

theorem Adds.of_unused {st st' : SubmodState} {r : WrittenSubmod} {labels : List String}
    (h : Adds st st' r) (hunused : Unused (r.label :: labels) st) :
    st'.submodDigests = (r.label, r.digest) :: st.submodDigests ∧
      st'.deviceJwtTokens = (r.label, r.token) :: st.deviceJwtTokens := by
  have hnew := hunused r.label List.mem_cons_self
  exact ⟨h.1.trans (assign_of_new hnew.1), h.2.trans (assign_of_new hnew.2)⟩

theorem Adds.unused {st st' : SubmodState} {r : WrittenSubmod} {labels : List String}
    (h : Adds st st' r) (hunused : Unused (r.label :: labels) st)
    (hnodup : (r.label :: labels).Nodup) : Unused labels st' := by
  intro label hlabel
  have hne : label ≠ r.label := fun heq => (List.nodup_cons.mp hnodup).1 (heq ▸ hlabel)
  have hold := hunused label (List.mem_cons_of_mem _ hlabel)
  obtain ⟨hdigests, htokens⟩ := h.of_unused hunused
  rw [hdigests, htokens, keys_cons, keys_cons, List.mem_cons, List.mem_cons, not_or, not_or]
  exact ⟨⟨hne, hold.1⟩, hne, hold.2⟩

theorem Extends.cons {st st₁ st' : SubmodState} {r : WrittenSubmod} {labels : List String}
    {records : List WrittenSubmod} (h : Adds st st₁ r) (hunused : Unused (r.label :: labels) st)
    (hrest : Extends st₁ st' records) : Extends st st' (r :: records) := by
  obtain ⟨hdigests, htokens⟩ := h.of_unused hunused
  rw [Extends, hdigests, htokens] at hrest
  rw [Extends, hrest.1, hrest.2]
  simp

/-- The loop writes one device a claim, under the labels in their order. -/
theorem addSubmods_ok {claims : List DeviceClaims} {gpus switches : Nat} {st st' : SubmodState}
    {s s' : σ} (hcounted : Counted gpus switches st.deviceIndex)
    (hunused : Unused (labelsFrom gpus switches claims) st)
    (h : addSubmods env options common claims st s = (.ok st', s')) :
    ∃ records, List.Forall₂ (Written env options common) claims records ∧
      records.map WrittenSubmod.label = labelsFrom gpus switches claims ∧
      Extends st st' records := by
  induction claims generalizing gpus switches st s with
  | nil =>
    cases h
    exact ⟨[], .nil, rfl, rfl, rfl⟩
  | cons claim rest ih =>
    obtain ⟨st₁, s₁, hstep, hrest⟩ := bind_eq_ok.mp h
    have hnodup := labelsFrom_nodup (claim :: rest) gpus switches
    cases claim with
    | gpu c =>
      obtain ⟨r, hwritten, hlabel, -, hindex, hadds⟩ :=
        addSubmod_ok (toUpper_gpu c) hcounted.1 hstep
      have hr : r.label = "GPU-" ++ toString gpus := hlabel
      rw [labelsFrom, ← hr] at hunused hnodup
      have hcounted' : Counted (gpus + 1) switches st₁.deviceIndex := by
        rw [Counted, hindex, lookup_assign, lookup_assign, if_pos rfl, if_neg (by decide)]
        exact ⟨rfl, hcounted.2⟩
      obtain ⟨records, hforall, hlabels, hextends⟩ :=
        ih hcounted' (Adds.unused hadds hunused hnodup) hrest
      exact ⟨r :: records, .cons hwritten hforall, by rw [List.map_cons, hr, hlabels, labelsFrom],
        Extends.cons hadds hunused hextends⟩
    | switch c =>
      obtain ⟨r, hwritten, hlabel, -, hindex, hadds⟩ :=
        addSubmod_ok (toUpper_switch c) hcounted.2 hstep
      have hr : r.label = "SWITCH-" ++ toString switches := hlabel
      rw [labelsFrom, ← hr] at hunused hnodup
      have hcounted' : Counted gpus (switches + 1) st₁.deviceIndex := by
        rw [Counted, hindex, lookup_assign, lookup_assign, if_pos rfl, if_neg (by decide)]
        exact ⟨hcounted.1, rfl⟩
      obtain ⟨records, hforall, hlabels, hextends⟩ :=
        ih hcounted' (Adds.unused hadds hunused hnodup) hrest
      exact ⟨r :: records, .cons hwritten hforall, by rw [List.map_cons, hr, hlabels, labelsFrom],
        Extends.cons hadds hunused hextends⟩

theorem joinNonce_ok {overall nonce joined : String}
    (h : joinNonce overall nonce = .ok joined) :
    joined = nonce ∧ (overall = "" ∨ overall = nonce) := by
  rw [joinNonce] at h
  split at h
  · next hempty =>
    cases h
    exact ⟨rfl, .inl (String.isEmpty_iff.mp hempty)⟩
  · split at h
    · cases h
    · next hsame =>
      cases h
      exact ⟨not_not.mp hsame, .inr (not_not.mp hsame)⟩

/-- After the loop the nonce is that of the last claim, and every claim has it or an empty one. -/
theorem addSubmods_nonces {claims : List DeviceClaims} {st st' : SubmodState} {s s' : σ}
    (h : addSubmods env options common claims st s = (.ok st', s')) :
    (st.overallNonce = "" ∨ st.overallNonce = st'.overallNonce) ∧
      (∀ claim ∈ claims, claim.getNonce = "" ∨ claim.getNonce = st'.overallNonce) ∧
      st'.overallNonce = (claims.getLast?.map DeviceClaims.getNonce).getD st.overallNonce := by
  induction claims generalizing st s with
  | nil =>
    cases h
    exact ⟨.inr rfl, by simp, rfl⟩
  | cons claim rest ih =>
    obtain ⟨st₁, s₁, hadd, h⟩ := bind_eq_ok.mp h
    obtain ⟨_, -, -, hjoin, -⟩ := addSubmod_ok rfl rfl hadd
    obtain ⟨hjoined, hbefore⟩ := joinNonce_ok hjoin
    obtain ⟨hfirst, hothers, hlast⟩ := ih h
    rw [hjoined] at hfirst hlast
    refine ⟨?_, List.forall_mem_cons.mpr ⟨hfirst, hothers⟩, ?_⟩
    · cases hbefore with
      | inl hempty => exact .inl hempty
      | inr hsame => exact hsame ▸ hfirst
    · rw [hlast, List.getLast?_cons]
      cases rest.getLast? with
      | none => rfl
      | some last => rfl

/-- All the claims of a token have its nonce, where none is empty. -/
theorem addSubmods_nonce {claims : List DeviceClaims} (hnonces : ∀ c ∈ claims, c.getNonce ≠ "")
    {st st' : SubmodState} {s s' : σ}
    (h : addSubmods env options common claims st s = (.ok st', s')) :
    (st.overallNonce = "" ∨ st.overallNonce = st'.overallNonce) ∧
      ∀ c ∈ claims, c.getNonce = st'.overallNonce := by
  obtain ⟨hfirst, hcovered, -⟩ := addSubmods_nonces h
  exact ⟨hfirst, fun c hc => (hcovered c hc).resolve_left (hnonces c hc)⟩

theorem getDetachedEat_nonce {claims : List DeviceClaims}
    (hnonces : ∀ c ∈ claims, c.getNonce ≠ "") {r : String × Bool} {s s' : σ}
    (h : getDetachedEat env options claims s = (.ok r, s')) :
    ∃ nonce, ∀ c ∈ claims, c.getNonce = nonce := by
  obtain ⟨iat, _, _, h⟩ := bind_eq_ok.mp h
  obtain ⟨overallJti, _, _, h⟩ := bind_eq_ok.mp h
  obtain ⟨st, _, hst, h⟩ := bind_eq_ok.mp h
  exact ⟨st.overallNonce, (addSubmods_nonce hnonces hst).2⟩

/-- The claims of the overall token. -/
def overallClaims (common : SerializableCommonEATClaims) (records : List WrittenSubmod)
    (nonce : String) (verdict : Bool) : SerializableOverallEATClaims where
  sub := "NVIDIA-PLATFORM-ATTESTATION"
  commonClaims := common
  claimsVersion := "3.0"
  submodDigests := (records.map fun r => (r.label, r.digest)).reverse
  overallResult := verdict
  eatNonce := nonce

/-- A written EAT: one device a claim, and an overall token that lists their digests. -/
theorem getDetachedEat_ok {claims : List DeviceClaims} {nonce text : String} {verdict : Bool}
    {iat : Int} {s s₁ s' : σ} (hne : claims ≠ [])
    (hnonce : ∀ claim ∈ claims, claim.getNonce = nonce) (hnonempty : nonce ≠ "")
    (hnow : env.now s = (.ok iat, s₁))
    (h : getDetachedEat env options claims s = (.ok (text, verdict), s')) :
    ∃ common records token, common.iat = iat ∧ common.exp = iat + jwtTtlSeconds ∧
      common.iss = options.issuer ∧ List.Forall₂ (Written env options common) claims records ∧
      records.map WrittenSubmod.label = submodLabels claims ∧
      SignedFor env options (overallClaims common records nonce verdict).toJson token ∧
      env.dump (SerializableDetachedEAT.mk token
        (records.map fun r => (r.label, r.token)).reverse).toJson = some text := by
  rw [getDetachedEat, bind_of_ok hnow] at h
  simp only [bind_eq_ok, lift_iff, pure_iff] at h
  obtain ⟨jti, s₂, -, st, s₃, hloop, verdict', _, ⟨-, rfl⟩, token, s₄, hsign, text', _,
    ⟨htext, rfl⟩, hresult, rfl⟩ := h
  obtain ⟨rfl, rfl⟩ := Prod.mk.inj hresult
  obtain ⟨records, hwritten, hlabels, hdigests, htokens⟩ := addSubmods_ok ⟨rfl, rfl⟩
    (fun label _ => ⟨by simp [keys], by simp [keys]⟩) hloop
  rw [List.append_nil] at hdigests htokens
  obtain ⟨claim, hclaim⟩ := List.exists_mem_of_ne_nil claims hne
  have hnonces := (addSubmods_nonce (fun c hc => hnonce c hc ▸ hnonempty) hloop).2
  have hoverall : st.overallNonce = nonce := (hnonces claim hclaim).symm.trans (hnonce claim hclaim)
  rw [hdigests, hoverall] at hsign
  rw [htokens, serializeToJson] at htext
  refine ⟨_, records, token, rfl, rfl, rfl, hwritten, hlabels, ⟨_, _, hsign⟩, ?_⟩
  split at htext
  · cases htext
  · next dumped hdump =>
    cases htext
    exact hdump

end Writing

end AttestationSdk.Eat
