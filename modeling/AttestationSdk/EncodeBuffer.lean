import AttestationSdk.EvidenceJson
import AttestationSdk.RemoteVerifier

/-! The buffer that `encode_base64` allocates, and the evidence that the remote verifiers encode
with it. -/
namespace AttestationSdk.Text
open Base64 AttestationSdk.Evidence

/-- The bytes that `EVP_EncodeBlock` writes: the characters and a NUL. -/
def evpEncodeBlock (data : Bytes) : List Char := encodeBlock data ++ [Char.ofNat 0]

/-- The size of `out(len * 2)`. -/
def outSize (len : Nat) : Nat := len * 2

/-- What is written fits into what is allocated. -/
def BufferHolds (data : Bytes) : Prop := (evpEncodeBlock data).length ≤ outSize data.length

instance (data : Bytes) : Decidable (BufferHolds data) := Nat.decLe _ _

section Buffer
variable {data : Bytes}

theorem evpEncodeBlock_length : (evpEncodeBlock data).length = 4 * ((data.length + 2) / 3) + 1 := by
  rw [evpEncodeBlock, List.length_append, encodeBlock_eq, (encode_codes data).2,
    List.length_singleton]

/-- The buffer is large enough for all but the shortest data. -/
theorem bufferHolds_iff (hsize : data.length < 1073741824) :
    BufferHolds data ↔ data.length ∉ [0, 1, 2, 4] := by
  rw [BufferHolds, evpEncodeBlock_length, outSize]
  simp only [List.mem_cons, List.not_mem_nil, or_false, not_or]
  omega

theorem bufferHolds_three : BufferHolds [1, 2, 3] :=
  (bufferHolds_iff (by decide)).mpr (by decide)

/-- `encode_base64` stays inside its buffer exactly where that holds what is written. -/
theorem encodeBase64_eq (hsize : data.length < 1073741824) :
    (BufferHolds data ∧ encodeBase64 data = .ok (String.ofList (encode data))) ∨
      (¬ BufferHolds data ∧ encodeBase64 data = .error .undefined) := by
  have hlen : data.length % 4294967296 = data.length := Nat.mod_eq_of_lt (by omega)
  rw [BufferHolds, evpEncodeBlock_length, outSize, encodeBase64, hlen, if_neg (by omega),
    if_neg (by omega), List.take_length, encodeBlock_eq]
  by_cases hshort : 2 * data.length < 4 * ((data.length + 2) / 3) + 1
  · exact .inr ⟨by omega, if_pos hshort⟩
  · exact .inl ⟨by omega, if_neg hshort⟩

end Buffer

end AttestationSdk.Text

namespace AttestationSdk.Remote
open AttestationSdk.Jwt AttestationSdk.Rim AttestationSdk.Text Effects

/-- What an item gives `encode_base64` fits an `int`. -/
structure RemoteItem.Counted (item : RemoteItem) : Prop where
  report : item.attestationReport.length < 1073741824
  certChain : (toBytes item.attestationCertChain).length < 1073741824

/-- The buffers hold what is written of an item. -/
structure RemoteItem.Held (item : RemoteItem) : Prop where
  report : BufferHolds item.attestationReport
  certChain : BufferHolds (toBytes item.attestationCertChain)

section Items
variable {item : RemoteItem} {items : List RemoteItem}

theorem encodeItem_eq (hcounted : item.Counted) :
    (item.Held ∧ ∃ encoded, encodeItem item = .ok encoded) ∨
      (¬ item.Held ∧ encodeItem item = .error .undefined) := by
  rcases encodeBase64_eq hcounted.report with ⟨hreport, hencode⟩ | ⟨hreport, hencode⟩
  · rcases encodeBase64_eq hcounted.certChain with ⟨hchain, hcertificate⟩ | ⟨hchain, hcertificate⟩
    · refine .inl ⟨⟨hreport, hchain⟩, ?_⟩
      rw [encodeItem, hencode, hcertificate]
      exact ⟨_, rfl⟩
    · refine .inr ⟨fun h => hchain h.certChain, ?_⟩
      rw [encodeItem, hencode, hcertificate]
      rfl
  · refine .inr ⟨fun h => hreport h.report, ?_⟩
    rw [encodeItem, hencode]
    rfl

/-- The loop over the evidence goes through where every item is held, and else overruns a buffer. -/
theorem encodeItems_eq (hcounted : ∀ item ∈ items, item.Counted) :
    ((∀ item ∈ items, item.Held) ∧ ∃ encoded, items.mapM encodeItem = .ok encoded) ∨
      (¬ (∀ item ∈ items, item.Held) ∧ items.mapM encodeItem = .error .undefined) := by
  induction items with
  | nil => exact .inl ⟨by simp, [], rfl⟩
  | cons item rest ih =>
    rw [List.forall_mem_cons] at hcounted
    rw [List.mapM_cons, List.forall_mem_cons]
    rcases encodeItem_eq hcounted.1 with ⟨hheld, encoded, hencode⟩ | ⟨hheld, hencode⟩
    · rcases ih hcounted.2 with ⟨hrest, others, hothers⟩ | ⟨hrest, hothers⟩
      · refine .inl ⟨⟨hheld, hrest⟩, encoded :: others, ?_⟩
        rw [hencode, hothers]
        rfl
      · refine .inr ⟨fun h => hrest h.2, ?_⟩
        rw [hencode, hothers]
        rfl
    · refine .inr ⟨fun h => hheld h.1, ?_⟩
      rw [hencode]
      rfl

/-- A verifier that is given an item that is not held writes outside a buffer, before any request
is sent. -/
theorem verifyEvidence_undefined {σ : Type} (lib : RemoteLib σ) (verifier : NvRemoteVerifier σ)
    (kind : DeviceKind) (policy : EvidencePolicy) (wantEat : Bool) (world : JwkStore × σ)
    (hcounted : ∀ item ∈ items, item.Counted) (h : ∃ item ∈ items, ¬ item.Held) :
    verifier.verifyEvidence lib kind policy wantEat items world = (.error .undefined, world) := by
  obtain ⟨item, hitem, hheld⟩ := h
  rcases encodeItems_eq hcounted with ⟨hall, -⟩ | ⟨-, hencode⟩
  · exact absurd (hall item hitem) hheld
  · cases items with
    | nil => cases hitem
    | cons first rest =>
      have hattest : verifier.attest lib first (first :: rest) world = (.error .undefined, world) := by
        rw [NvRemoteVerifier.attest, hencode]
        rfl
      rw [NvRemoteVerifier.verifyEvidence, Prog.bind_of_error hattest]

end Items

/-- An evidence item whose report is one byte. -/
def oneByteItem : RemoteItem where
  nonce := List.replicate 32 0
  arch := "HOPPER"
  attestationReport := [65]
  attestationCertChain := "-----"

/-- Five bytes are written into two. -/
theorem one_byte_report : ¬ BufferHolds oneByteItem.attestationReport ∧
    encodeItem oneByteItem = .error .undefined :=
  ⟨by decide, rfl⟩

end AttestationSdk.Remote
