import AttestationSdk.DeviceClaims

/-! What the decoders of device claims make of the `measres` member. -/
namespace AttestationSdk.Claims
open Json ExceptRules

/-- The texts `NLOHMANN_JSON_SERIALIZE_ENUM` lists. -/
def measresTexts : List String := ["success", "fail", "not-run", "absent"]

theorem field_ok {α : Type} {js : Value} {key : String} {read : Value → Except ReadFault α} {a : α}
    (h : field js key read = .ok a) : ∃ v, js.member? key = some v ∧ read v = .ok a := by
  cases hv : js.member? key with
  | none => simp [field, Value.atKey, hv] at h
  | some v => exact ⟨v, rfl, by simpa [field, Value.atKey, hv] using h⟩

/-- `Success` stands for its own text and for every value that no entry lists. -/
theorem measres_fromJson_success (v : Value) :
    SerializableMeasresClaim.fromJson v = .Success ↔
      v = .str "success" ∨ ∀ s ∈ measresTexts, v ≠ .str s := by
  cases v with
  | str s =>
    by_cases hs : s ∈ measresTexts
    · have hlisted : s = "success" ∨ s = "fail" ∨ s = "not-run" ∨ s = "absent" := by
        simpa [measresTexts] using hs
      cases hlisted with
      | inl h =>
        have hread : SerializableMeasresClaim.fromJson (.str "success") = .Success := by decide
        simp [h, hread]
      | inr h =>
        have hne : s ≠ "success" := by rintro rfl; simp at h
        have hread : SerializableMeasresClaim.fromJson (.str s) ≠ .Success := by
          rcases h with rfl | rfl | rfl <;> decide
        simp [hread, hne, hs]
    · have hread : SerializableMeasresClaim.fromJson (.str s) = .Success := by
        simp only [measresTexts, List.mem_cons, List.not_mem_nil, or_false, not_or] at hs
        simp [SerializableMeasresClaim.fromJson, enumOfJson, measresRest, Ne.symm hs.1,
          Ne.symm hs.2.1, Ne.symm hs.2.2.1, Ne.symm hs.2.2.2]
      simp only [hread, Value.str.injEq, true_iff]
      refine Or.inr fun s' hs' heq => hs ?_
      cases heq
      exact hs'
  | null => simp [SerializableMeasresClaim.fromJson, enumOfJson]
  | bool b => simp [SerializableMeasresClaim.fromJson, enumOfJson]
  | int n => simp [SerializableMeasresClaim.fromJson, enumOfJson]
  | float q => simp [SerializableMeasresClaim.fromJson, enumOfJson]
  | arr elems => simp [SerializableMeasresClaim.fromJson, enumOfJson]
  | obj members => simp [SerializableMeasresClaim.fromJson, enumOfJson]

theorem measres_toJson_success (m : SerializableMeasresClaim) :
    m.toJson = .str "success" ↔ m = .Success := by
  cases m <;> simp [SerializableMeasresClaim.toJson, enumToJson, measresRest]

/-- Decoded `Success`, and so `"success"` after serialising again, only where the
object says `"success"`. -/
def FailClosed (js : Value) (claims : DeviceClaims) : Prop :=
  (claims.measurementsMatching = .Success → js.member? "measres" = some (.str "success")) ∧
  (claims.toJsonObject.member? "measres" = some (.str "success") →
    js.member? "measres" = some (.str "success"))

theorem gpu_measres {js : Value} {claims : SerializableGpuClaimsV3}
    (h : SerializableGpuClaimsV3.fromJson js = .ok claims) :
    ∃ v, js.member? "measres" = some v ∧
      claims.measurementsMatching = SerializableMeasresClaim.fromJson v := by
  obtain ⟨_, _, h⟩ := bind_eq_ok.mp h
  obtain ⟨m, hm, h⟩ := bind_eq_ok.mp h
  obtain ⟨v, hv, hread⟩ := field_ok hm
  -- no later read touches the measurement result
  repeat obtain ⟨_, _, h⟩ := bind_eq_ok.mp h
  cases h
  cases hread
  exact ⟨v, hv, rfl⟩

theorem switch_measres {js : Value} {claims : SerializableSwitchClaimsV3}
    (h : SerializableSwitchClaimsV3.fromJson js = .ok claims) :
    ∃ v, js.member? "measres" = some v ∧
      claims.measurementsMatching = SerializableMeasresClaim.fromJson v := by
  obtain ⟨_, _, h⟩ := bind_eq_ok.mp h
  obtain ⟨m, hm, h⟩ := bind_eq_ok.mp h
  obtain ⟨v, hv, hread⟩ := field_ok hm
  repeat obtain ⟨_, _, h⟩ := bind_eq_ok.mp h
  cases h
  cases hread
  exact ⟨v, hv, rfl⟩

/-- Claims whose result was read from the object fail closed exactly where the
object's text is a listed one. -/
theorem failClosed_iff {js v : Value} {claims : DeviceClaims} (hv : js.member? "measres" = some v)
    (hm : claims.measurementsMatching = SerializableMeasresClaim.fromJson v) :
    FailClosed js claims ↔ ∃ s ∈ measresTexts, js.member? "measres" = some (.str s) := by
  rw [FailClosed, member_measres, Option.some_inj, measres_toJson_success, and_self, hm, hv,
    measres_fromJson_success]
  simp only [Option.some_inj]
  constructor
  · intro h
    by_contra hnone
    have hsuccess : v = .str "success" := h (Or.inr fun s hs hv => hnone ⟨s, hs, hv⟩)
    exact hnone ⟨"success", by simp [measresTexts], hsuccess⟩
  · intro h hread
    cases hread with
    | inl hsuccess => exact hsuccess
    | inr hnone =>
      obtain ⟨s, hs, hv⟩ := h
      exact absurd hv (hnone s hs)

/-- For every object the decoders accept, the decoded measurement result is
`Success` only where the object says `"success"` if and only if its `measres` is
one of the four listed texts. -/
theorem measres_fail_closed_iff (js : Value) :
    (∀ claims, SerializableGpuClaimsV3.fromJson js = .ok claims →
      (FailClosed js (.gpu claims) ↔
        ∃ s ∈ measresTexts, js.member? "measres" = some (.str s))) ∧
    (∀ claims, SerializableSwitchClaimsV3.fromJson js = .ok claims →
      (FailClosed js (.switch claims) ↔
        ∃ s ∈ measresTexts, js.member? "measres" = some (.str s))) := by
  constructor
  · intro claims h
    obtain ⟨v, hv, hm⟩ := gpu_measres h
    exact failClosed_iff hv hm
  · intro claims h
    obtain ⟨v, hv, hm⟩ := switch_measres h
    exact failClosed_iff hv hm

def sampleCertChain : Value := object [
  ("x-nvidia-cert-expiration-date", .str ""),
  ("x-nvidia-cert-status", .str "valid"),
  ("x-nvidia-cert-ocsp-status", .str "good")]

/-- A switch token payload whose measurement result is given. -/
def sampleSwitchObject (measres : Value) : Value := object [
  ("eat_nonce", .str "00"),
  ("measres", measres),
  ("hwmodel", .str ""),
  ("ueid", .str ""),
  ("x-nvidia-switch-arch-check", .bool true),
  ("x-nvidia-switch-bios-version", .str ""),
  ("x-nvidia-switch-attestation-report-cert-chain", sampleCertChain),
  ("x-nvidia-switch-attestation-report-cert-chain-fwid-match", .bool true),
  ("x-nvidia-switch-attestation-report-parsed", .bool true),
  ("x-nvidia-switch-attestation-report-nonce-match", .bool true),
  ("x-nvidia-switch-attestation-report-signature-verified", .bool true),
  ("x-nvidia-switch-bios-rim-fetched", .bool true),
  ("x-nvidia-switch-bios-rim-cert-chain", sampleCertChain),
  ("x-nvidia-switch-bios-rim-signature-verified", .bool true),
  ("x-nvidia-switch-bios-rim-version-match", .bool true),
  ("x-nvidia-switch-bios-rim-measurements-available", .bool true)]

/-- The result the switch decoder reads from such a payload. -/
def sampleDecoded (measres : Value) : Option SerializableMeasresClaim :=
  match SerializableSwitchClaimsV3.fromJson (sampleSwitchObject measres) with
  | .ok claims => some claims.measurementsMatching
  | .error _ => none

theorem sampleCertChain_read :
    ∃ claims, SerializableCertChainClaims.fromJson sampleCertChain = .ok claims := by
  simp [sampleCertChain, SerializableCertChainClaims.fromJson, field, fieldOr, Value.contains,
    Value.atKey, deserializeOptional, member?_object, lookup_cons_ite, Value.getString]

theorem sampleDecoded_eq (measres : Value) :
    sampleDecoded measres = some (SerializableMeasresClaim.fromJson measres) := by
  obtain ⟨claims, hread⟩ := sampleCertChain_read
  simp [sampleDecoded, sampleSwitchObject, hread, SerializableSwitchClaimsV3.fromJson, field,
    fieldOr, Value.contains, Value.atKey, deserializeOptional, member?_object, lookup_cons_ite,
    Value.getString, Value.getBool]

theorem sampleDecoded_some {measres : Value} {m : SerializableMeasresClaim}
    (h : sampleDecoded measres = some m) :
    ∃ claims, SerializableSwitchClaimsV3.fromJson (sampleSwitchObject measres) = .ok claims ∧
      claims.measurementsMatching = m := by
  rw [sampleDecoded] at h
  split at h
  · next claims hrun => exact ⟨claims, hrun, by simpa using h⟩
  · simp at h

theorem measres_fail_closed_sample :
    ∃ claims, SerializableSwitchClaimsV3.fromJson (sampleSwitchObject (.str "fail")) = .ok claims ∧
      FailClosed (sampleSwitchObject (.str "fail")) (.switch claims) := by
  have hread : sampleDecoded (.str "fail") = some .Failure := sampleDecoded_eq _
  obtain ⟨claims, hrun, _⟩ := sampleDecoded_some hread
  refine ⟨claims, hrun, ((measres_fail_closed_iff _).2 claims hrun).mpr ?_⟩
  exact ⟨"fail", by decide, by simp [sampleSwitchObject, member?_object, lookup_cons_ite]⟩

/-- The text `"failure"`, which no entry lists, decodes to `Success`. -/
theorem unlisted_measres_decodes_to_success :
    ¬ ∀ js claims, SerializableSwitchClaimsV3.fromJson js = .ok claims →
      FailClosed js (.switch claims) := by
  intro h
  have hread : sampleDecoded (.str "failure") = some .Success := sampleDecoded_eq _
  obtain ⟨claims, hrun, hm⟩ := sampleDecoded_some hread
  have hclosed := (h _ claims hrun).1 hm
  simp [sampleSwitchObject, member?_object, lookup_cons_ite] at hclosed

end AttestationSdk.Claims
