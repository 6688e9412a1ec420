import AttestationSdk.CliAttest
import AttestationSdk.EatValidation
import AttestationSdk.EvidenceJson
import AttestationSdk.GoldenDocuments

/-! Which texts `hex_string_to_bytes` decodes faithfully, and where outside texts reach it. -/
namespace AttestationSdk.Text
open AttestationSdk.Cli

def toLower (s : String) : String := s.map Char.toLower

/-- The check that `nvat_nonce_from_hex` makes of a nonce. -/
def hexChecked (hex : String) : Bool :=
  hex.length % 2 = 0 && hex.toList.all hexDigitChars.contains

/-- The bytes are those of a hexadecimal text: written again they are the text. -/
structure FaithfulHex (s : String) (bytes : Bytes) : Prop where
  pairs : s.length % 2 = 0
  digits : ∀ c ∈ s.toList, isDigitIn 16 c = true
  back : toHexString bytes = toLower s

theorem isDigitIn_hexDigitChars : ∀ c ∈ hexDigitChars, isDigitIn 16 c = true := by
  have hall : hexDigitChars.all (isDigitIn 16) = true := by decide
  simpa only [List.all_eq_true] using hall

theorem mem_hexDigitChars {c : Char} (h : isDigitIn 16 c = true) : c ∈ hexDigitChars := by
  have hrange (lo hi : Nat) (hle : lo ≤ c.toNat ∧ c.toNat ≤ hi)
      (hall : ∀ n ∈ List.range' lo (hi + 1 - lo), Char.ofNat n ∈ hexDigitChars) :
      c ∈ hexDigitChars := by
    rw [← Char.ofNat_toNat c]
    exact hall _ (by rw [List.mem_range'_1]; omega)
  rw [isDigitIn, digitValue] at h
  by_cases hdigit : '0' ≤ c ∧ c ≤ '9'
  · exact hrange 48 57 hdigit (by decide)
  · rw [if_neg hdigit] at h
    by_cases hlower : 'a' ≤ c ∧ c ≤ 'z'
    · rw [if_pos hlower] at h
      have hsmall : c.toNat - 87 < 16 := of_decide_eq_true h
      exact hrange 97 102 ⟨hlower.1, by omega⟩ (by decide)
    · rw [if_neg hlower] at h
      by_cases hupper : 'A' ≤ c ∧ c ≤ 'Z'
      · rw [if_pos hupper] at h
        have hsmall : c.toNat - 55 < 16 := of_decide_eq_true h
        exact hrange 65 70 ⟨hupper.1, by omega⟩ (by decide)
      · rw [if_neg hupper] at h
        cases h

theorem hexChecked_iff {hex : String} : hexChecked hex = true ↔
    hex.length % 2 = 0 ∧ ∀ c ∈ hex.toList, isDigitIn 16 c = true := by
  rw [hexChecked, Bool.and_eq_true, decide_eq_true_eq, List.all_eq_true]
  refine and_congr_right fun _ => forall₂_congr fun c _ => ?_
  rw [List.contains_iff_mem]
  exact ⟨isDigitIn_hexDigitChars c, mem_hexDigitChars⟩

theorem readsBack_hexDigitChars : ∀ c ∈ hexDigitChars, readsBack c = true := by
  have hall : hexDigitChars.all readsBack = true := by decide
  simpa only [List.all_eq_true] using hall

theorem hexStringToBytes_back {hex : String} (h : hexChecked hex = true) :
    toHexString (hexStringToBytes hex) = toLower hex := by
  obtain ⟨heven, hdigits⟩ := hexChecked_iff.mp h
  exact toHexString_pairs heven fun c hc =>
    readsBack_hexDigitChars c (mem_hexDigitChars (hdigits c hc))

theorem faithfulHex_iff {hex : String} :
    FaithfulHex hex (hexStringToBytes hex) ↔ hexChecked hex = true :=
  ⟨fun h => hexChecked_iff.mpr ⟨h.pairs, h.digits⟩,
    fun h => ⟨(hexChecked_iff.mp h).1, (hexChecked_iff.mp h).2, hexStringToBytes_back h⟩⟩

/-- Checked texts give the same bytes where they differ in letter case alone. -/
theorem hexStringToBytes_eq_iff {s t : String} (hs : hexChecked s = true)
    (ht : hexChecked t = true) :
    hexStringToBytes s = hexStringToBytes t ↔ toLower s = toLower t := by
  rw [← hexStringToBytes_back hs, ← hexStringToBytes_back ht]
  exact ⟨congrArg toHexString, toHexString_injective⟩

end AttestationSdk.Text

namespace AttestationSdk.Rim
open AttestationSdk.Text ExceptRules

/-- The hash values of a node are the bytes of its attributes. -/
theorem hashValues_texts {node : Xml} {n : Nat} {values : List Bytes}
    (h : hashValues node n = .ok values) :
    ∀ i < n, ∃ hex, node.getNsProp ("Hash" ++ toString i) xmlEncSha384Ns = some hex ∧
      values[i]? = some (hexStringToBytes hex) := by
  induction n generalizing values with
  | zero => simp
  | succ n ih =>
    rw [hashValues] at h
    obtain ⟨first, hfirst, h⟩ := bind_eq_ok.mp h
    have hlength := hashValues_length hfirst
    split at h
    · cases h
    · next hex hprop =>
      cases h
      intro i hi
      by_cases hlast : i = n
      · rw [hlast, List.getElem?_append_right (by omega), hlength, Nat.sub_self]
        exact ⟨hex, hprop, rfl⟩
      · rw [List.getElem?_append_left (by omega)]
        exact ih hfirst i (by omega)

end AttestationSdk.Rim

namespace AttestationSdk.HexDecoding
open Json AttestationSdk.Text AttestationSdk.Evidence AttestationSdk.Gpu AttestationSdk.Switch
open AttestationSdk.Rim AttestationSdk.Remote AttestationSdk.Http AttestationSdk.Jwt
open AttestationSdk.Eat Effects Prog

section Accepted
variable {decodeBlock : List Char → Option Bytes}

theorem nonceText_of_fromJson {ε α : Type} [DecidableEq α] {fromString : String → α} {unknown : α}
    {make : α → Bytes → Bytes → String → ε} {js : Value} {e : ε}
    (h : evidenceFromJson decodeBlock fromString unknown make js = .ok e) :
    ∃ s a report chain, js.member? "nonce" = some (.str s) ∧
      e = make a (hexStringToBytes s) report chain := by
  obtain ⟨archStr, nonceStr, -, -, nonce, report, certificate, -, -, hnonceStr, hnonce, -, -, -, -,
    hmade⟩ := evidenceFromJson_iff.mp h
  refine ⟨nonceStr, fromString archStr, report, ofBytes certificate, ?_, ?_⟩
  · rw [textAt] at hnonceStr
    split at hnonceStr
    · next s hmember =>
      cases hnonceStr
      exact hmember
    · cases hnonceStr
  · rw [readHex] at hnonce
    split at hnonce
    · cases hnonce
    · cases hnonce
      exact hmade

theorem nonceText_of_validate {σ : Type} {lib : RemoteLib σ} {http : HttpClient σ}
    {eatIssuer : String} {eat : SerializableDetachedEAT} {decoded : DecodedEAT}
    {w w' : JwkStore × σ} (h : validateAndDecodeEAT lib http eatIssuer eat w = (.ok decoded, w')) :
    ∃ payload w₁ overall,
      validateAndDecode lib.toJwtLib http eatIssuer eat.overallJwtToken w = (.ok payload, w₁) ∧
      deserializeFromJson lib overallFromJson payload = .ok overall ∧
      decoded.eatNonce = hexStringToBytes overall.eatNonce := by
  rw [validateAndDecodeEAT] at h
  obtain ⟨payload, w₁, hpayload, h⟩ := bind_eq_ok.mp h
  obtain ⟨overall, _, hoverall, h⟩ := bind_eq_ok.mp h
  obtain ⟨_, _, -, h⟩ := bind_eq_ok.mp h
  obtain ⟨claims, _, -, h⟩ := bind_eq_ok.mp h
  obtain ⟨_, _, -, h⟩ := bind_eq_ok.mp h
  obtain ⟨rfl, -⟩ := pure_iff.mp h
  exact ⟨payload, w₁, overall, hpayload, (lift_iff.mp hoverall).1, rfl⟩

/-- A text that reaches the decoder is decoded faithfully exactly where it passes the check that
the command line makes of a nonce; of texts that pass, those with the same bytes differ in letter
case alone. -/
theorem hex_faithful_iff {σ : Type} {lib : RemoteLib σ} {http : HttpClient σ} {eatIssuer : String} :
    (∀ js e, GpuEvidence.fromJson decodeBlock js = .ok e →
      ∃ s, js.member? "nonce" = some (.str s) ∧ (FaithfulHex s e.nonce ↔ hexChecked s = true)) ∧
    (∀ js e, SwitchEvidence.fromJson decodeBlock js = .ok e →
      ∃ s, js.member? "nonce" = some (.str s) ∧ (FaithfulHex s e.nonce ↔ hexChecked s = true)) ∧
    (∀ (rim : RimDocument) ms, rim.getMeasurements = .ok ms →
      ∀ node ∈ rim.resources, node.getProp "active" = some "True" →
        ∃ m ∈ ms.measurements, States node m ∧ ∀ i < m.values.length,
          ∃ s bytes, node.getNsProp ("Hash" ++ toString i) xmlEncSha384Ns = some s ∧
            m.values[i]? = some bytes ∧ (FaithfulHex s bytes ↔ hexChecked s = true)) ∧
    (∀ eat w decoded w', validateAndDecodeEAT lib http eatIssuer eat w = (.ok decoded, w') →
      ∃ payload w₁ overall,
        validateAndDecode lib.toJwtLib http eatIssuer eat.overallJwtToken w = (.ok payload, w₁) ∧
        deserializeFromJson lib overallFromJson payload = .ok overall ∧
        (FaithfulHex overall.eatNonce decoded.eatNonce ↔ hexChecked overall.eatNonce = true)) ∧
    ∀ s t, hexChecked s = true → hexChecked t = true →
      (hexStringToBytes s = hexStringToBytes t ↔ toLower s = toLower t) := by
  refine ⟨fun js e h => ?_, fun js e h => ?_, fun rim ms h node hnode hactive => ?_,
    fun eat w decoded w' h => ?_, fun s t hs ht => hexStringToBytes_eq_iff hs ht⟩
  · obtain ⟨s, a, report, chain, hmember, rfl⟩ := nonceText_of_fromJson h
    exact ⟨s, hmember, faithfulHex_iff⟩
  · obtain ⟨s, a, report, chain, hmember, rfl⟩ := nonceText_of_fromJson h
    exact ⟨s, hmember, faithfulHex_iff⟩
  · obtain ⟨m, hm, hstates⟩ := getMeasurements_kept h node hnode hactive
    have hgolden := hstates.1
    obtain ⟨-, -, text, count, -, -, hvalues⟩ := hgolden
    refine ⟨m, hm, hstates, fun i hi => ?_⟩
    rw [hashValues_length hvalues] at hi
    obtain ⟨s, hprop, hbytes⟩ := hashValues_texts hvalues i hi
    exact ⟨s, _, hprop, hbytes, faithfulHex_iff⟩
  · obtain ⟨payload, w₁, overall, hpayload, hoverall, hnonce⟩ := nonceText_of_validate h
    refine ⟨payload, w₁, overall, hpayload, hoverall, ?_⟩
    rw [hnonce]
    exact faithfulHex_iff

end Accepted

section Samples
open AttestationSdk.ValidationSample

theorem sampleGpu_read :
    GpuEvidence.fromJson documentedBlock (sampleItem "HOPPER") = .ok sampleGpu := by
  have hwritable : GpuWritable sampleGpu := ⟨.inl rfl, by decide⟩
  obtain ⟨js, hto, hfrom⟩ := (gpu_survives_iff documentedBlock_decodes hwritable).mpr
    ⟨by decide, by decide, by decide⟩
  cases hto
  exact hfrom

theorem sampleSwitch_read :
    SwitchEvidence.fromJson documentedBlock (sampleItem "LR10") = .ok sampleSwitch := by
  have hwritable : SwitchWritable sampleSwitch := ⟨by decide, by decide⟩
  obtain ⟨js, hto, hfrom⟩ := (switch_survives_iff documentedBlock_decodes hwritable).mpr
    ⟨by decide, by decide, by decide⟩
  cases hto
  exact hfrom

theorem hex_faithful_iff_samples :
    (∃ s, (sampleItem "HOPPER").member? "nonce" = some (.str s) ∧
      (FaithfulHex s sampleGpu.nonce ↔ hexChecked s = true)) ∧
    (∃ s, (sampleItem "LR10").member? "nonce" = some (.str s) ∧
      (FaithfulHex s sampleSwitch.nonce ↔ hexChecked s = true)) ∧
    (∃ m ∈ [(⟨true, 3, 48, 1, [[0xaa]], "M"⟩ : Measurement)], States (resourceWith "True" "1") m ∧
      ∀ i < m.values.length, ∃ s bytes,
        (resourceWith "True" "1").getNsProp ("Hash" ++ toString i) xmlEncSha384Ns = some s ∧
          m.values[i]? = some bytes ∧ (FaithfulHex s bytes ↔ hexChecked s = true)) ∧
    (∃ (decoded : DecodedEAT) (payload : String) (w₁ : JwkStore × Unit)
      (overall : SerializableOverallEATClaims),
      validateAndDecode lib.toJwtLib http "nras" "all" (store, ()) = (.ok payload, w₁) ∧
      deserializeFromJson lib overallFromJson payload = .ok overall ∧
      (FaithfulHex overall.eatNonce decoded.eatNonce ↔ hexChecked overall.eatNonce = true)) ∧
    (hexStringToBytes "aB" = hexStringToBytes "Ab" ↔ toLower "aB" = toLower "Ab") := by
  obtain ⟨hgpu, hswitch, hrim, heat, hsame⟩ :=
    @hex_faithful_iff documentedBlock Unit lib http "nras"
  have htokens : KeyedList.Distinct (eat "dev").deviceJwtTokens := List.nodup_singleton _
  obtain ⟨decoded, w', haccepted⟩ := (eatVerifies_iff htokens).mpr eat_verifies
  have hresource : resourceWith "True" "1" ∈ (documentWith "True" "1").resources := by
    rw [documentWith_resources]
    exact List.mem_singleton_self _
  exact ⟨hgpu _ _ sampleGpu_read, hswitch _ _ sampleSwitch_read,
    hrim _ _ documentWith_measurements _ hresource rfl,
    ⟨decoded, heat _ _ _ _ haccepted⟩, hsame _ _ (by decide) (by decide)⟩

/-- A nonce that is no number, accepted. -/
def garbledItem : Value := object [
  ("arch", .str "LR10"), ("nonce", .str "zz"), ("evidence", .str "TWFu"),
  ("certificate", .str "UEVN")]

theorem hex_garbled_accepted :
    SwitchEvidence.fromJson documentedBlock garbledItem = .ok { sampleSwitch with nonce := [0] } ∧
    garbledItem.member? "nonce" = some (.str "zz") ∧ ¬ FaithfulHex "zz" [0] ∧
    hexStringToBytes "zz" = hexStringToBytes "00" ∧ toLower "zz" ≠ toLower "00" := by
  refine ⟨?_, rfl, fun h => ?_, by decide, ?_⟩
  · decide
  · exact absurd (h.digits 'z' (by decide)) (by decide)
  · rw [toLower, toLower, ne_eq, ← String.toList_inj, String.toList_map, String.toList_map]
    decide

end Samples

end AttestationSdk.HexDecoding
