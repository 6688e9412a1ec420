import AttestationSdk.EatWriting
import AttestationSdk.GpuSoundness

/-! The nonce of the overall token, against the nonces of the claims it covers. -/
namespace AttestationSdk.Eat
open Json AttestationSdk.Claims AttestationSdk.Text Effects Prog

section Run
variable {σ : Type} {env : Platform σ} {options : DetachedEATOptions}
  {common : SerializableCommonEATClaims}

/-- Some claims have an empty nonce and some do not. -/
def MixesEmpty (claims : List DeviceClaims) : Prop :=
  (∃ claim ∈ claims, claim.getNonce = "") ∧ ∃ claim ∈ claims, claim.getNonce ≠ ""

theorem all_agree_iff {claims : List DeviceClaims} {nonce : String}
    (hcovered : ∀ claim ∈ claims, claim.getNonce = "" ∨ claim.getNonce = nonce)
    (hlast : nonce = (claims.getLast?.map DeviceClaims.getNonce).getD "") :
    (∀ claim ∈ claims, claim.getNonce = nonce) ↔ ¬ MixesEmpty claims := by
  constructor
  · intro h hmixes
    obtain ⟨⟨bare, hbare, hempty⟩, full, hfull, hne⟩ := hmixes
    exact hne ((h full hfull).trans ((h bare hbare).symm.trans hempty))
  · intro h claim hclaim
    cases hcovered claim hclaim with
    | inr hsame => exact hsame
    | inl hempty =>
      by_contra hne
      have hnonempty : nonce ≠ "" := fun heq => hne (hempty.trans heq.symm)
      refine h ⟨⟨claim, hclaim, hempty⟩, ?_⟩
      cases hgetLast : claims.getLast? with
      | none => exact absurd (hlast.trans (by rw [hgetLast]; rfl)) hnonempty
      | some last =>
        rw [hgetLast] at hlast
        exact ⟨last, List.mem_of_getLast? hgetLast, fun heq => hnonempty (hlast.trans heq)⟩

/-- In a written EAT the claims have the nonce of the overall token exactly where empty nonces and
others are not mixed. -/
theorem eat_nonce_iff {claims : List DeviceClaims} {text : String} {verdict : Bool} {s s' : σ}
    (h : getDetachedEat env options claims s = (.ok (text, verdict), s')) :
    ∃ overall token tokens,
      SignedFor env options (overall : SerializableOverallEATClaims).toJson token ∧
      env.dump (SerializableDetachedEAT.mk token tokens).toJson = some text ∧
      overall.eatNonce = (claims.getLast?.map DeviceClaims.getNonce).getD "" ∧
      ((∀ claim ∈ claims, claim.getNonce = overall.eatNonce) ↔ ¬ MixesEmpty claims) := by
  rw [getDetachedEat] at h
  obtain ⟨iat, _, -, h⟩ := bind_eq_ok.mp h
  obtain ⟨overallJti, _, -, h⟩ := bind_eq_ok.mp h
  obtain ⟨st, s₁, hloop, h⟩ := bind_eq_ok.mp h
  obtain ⟨overallResult, _, -, h⟩ := bind_eq_ok.mp h
  obtain ⟨token, _, hsign, h⟩ := bind_eq_ok.mp h
  obtain ⟨text', _, htext, h⟩ := bind_eq_ok.mp h
  obtain ⟨hresult, -⟩ := pure_iff.mp h
  obtain ⟨rfl, rfl⟩ := Prod.mk.inj hresult
  obtain ⟨-, hcovered, hlast⟩ := addSubmods_nonces hloop
  refine ⟨_, token, st.deviceJwtTokens, ⟨_, _, hsign⟩, ?_, hlast, all_agree_iff hcovered hlast⟩
  have hdump := (lift_iff.mp htext).1
  rw [serializeToJson] at hdump
  split at hdump
  · cases hdump
  · next dumped hdumped =>
    cases hdump
    exact hdumped

end Run

end AttestationSdk.Eat

namespace AttestationSdk.EatNonceSample
open Json AttestationSdk.Claims AttestationSdk.Eat

/-- A platform with one text and one token, whose evaluator finds no match. -/
def env : Platform Unit :=
  { GpuSample.env with
    dump := fun _ => some "J"
    parse := fun _ => none
    jwtSign := fun _ _ _ => pure "T" }

def claimWith (nonce : String) : DeviceClaims := .gpu { nonce }

theorem written_one :
    getDetachedEat env {} [claimWith "ab"] () = (.ok ("J", false), ()) := rfl

theorem eat_nonce_iff_sample :
    ∃ overall token tokens,
      SignedFor env {} (overall : SerializableOverallEATClaims).toJson token ∧
      env.dump (SerializableDetachedEAT.mk token tokens).toJson = some "J" ∧
      overall.eatNonce = "ab" ∧
      ((∀ claim ∈ [claimWith "ab"], claim.getNonce = overall.eatNonce) ↔
        ¬ MixesEmpty [claimWith "ab"]) :=
  eat_nonce_iff written_one

/-- The first claim has an empty nonce, and the nonce of the other stands in the token. -/
theorem empty_nonce_covered :
    getDetachedEat env {} [claimWith "", claimWith "ab"] () = (.ok ("J", false), ()) ∧
    ∀ nonce, ¬ ∀ claim ∈ [claimWith "", claimWith "ab"], claim.getNonce = nonce := by
  refine ⟨rfl, fun nonce h => ?_⟩
  have hfirst := h (claimWith "") List.mem_cons_self
  have hsecond := h (claimWith "ab") (List.mem_cons_of_mem _ List.mem_cons_self)
  exact absurd (hfirst.trans hsecond.symm) (by decide)

end AttestationSdk.EatNonceSample
