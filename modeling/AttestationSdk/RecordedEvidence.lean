import AttestationSdk.FreshAttestation

/-! Evidence that is collected now and attested later: `nvat_gpu_evidence_collect`,
`nvat_switch_evidence_collect` and the JSON between them and a source. -/
namespace AttestationSdk.Collect
open AttestationSdk.Text AttestationSdk.Gpu AttestationSdk.Switch AttestationSdk.Attestation
open AttestationSdk.Rim AttestationSdk.Eat AttestationSdk.Evidence AttestationSdk.LocalVerifier
open Base64 Json Effects Prog
variable {σ τ ι : Type}

/-- Without a nonce one is drawn. -/
def collectionNonce (env : Platform σ) : Option Bytes → Prog Fault σ Bytes
  | some nonce => pure nonce
  | none => generateNonce env gpuSpdmReqNonceSize

/-- `nvat_gpu_evidence_collect` and `nvat_switch_evidence_collect`. -/
def evidenceCollect (env : Platform σ) (source : EvidenceSource σ ι) (nonce : Option Bytes) :
    Prog Fault σ (List ι) := do
  let nonce ← collectionNonce env nonce
  source.getEvidence nonce

section Contexts
variable {ctx : AttestationContext τ}

variable {env : Platform τ} {nonce : Bytes} {wantEat : Bool} {t : τ}

end Contexts

section Recordings
variable {decodeBlock : List Char → Option Bytes} {dump : Value → Option String}
  {parse : String → Option Value} {env : Platform σ} {files : FileSystem σ}

theorem sampleSurvives : Survives [10, 255] [77, 97, 110] "PEM" :=
  ⟨by decide, by decide, by decide⟩

theorem sampleGpu_read : GpuEvidence.collectionFromJson documentedBlock (sampleParse "HOPPER")
    (sampleText "HOPPER") = .ok [sampleGpu] := by
  have hwritable : GpuWritable sampleGpu := ⟨.inl rfl, by decide⟩
  obtain ⟨js, hto, hfrom⟩ := (gpu_survives_iff documentedBlock_decodes hwritable).mpr sampleSurvives
  obtain rfl : js = sampleItem "HOPPER" := Except.ok.inj (hto.symm.trans rfl)
  exact deserialize_iff.mpr ⟨[sampleItem "HOPPER"], if_pos rfl,
    ExceptRules.mapM_eq_ok.mpr (.cons hfrom .nil)⟩

theorem sampleSwitch_read : SwitchEvidence.collectionFromJson documentedBlock (sampleParse "LR10")
    (sampleText "LR10") = .ok [sampleSwitch] := by
  have hwritable : SwitchWritable sampleSwitch := ⟨by decide, by decide⟩
  obtain ⟨js, hto, hfrom⟩ :=
    (switch_survives_iff documentedBlock_decodes hwritable).mpr sampleSurvives
  obtain rfl : js = sampleItem "LR10" := Except.ok.inj (hto.symm.trans rfl)
  exact deserialize_iff.mpr ⟨[sampleItem "LR10"], if_pos rfl,
    ExceptRules.mapM_eq_ok.mpr (.cons hfrom .nil)⟩

end Recordings

end AttestationSdk.Collect
