import AttestationSdk.EvidenceSources
import AttestationSdk.GpuSoundness
import AttestationSdk.InstalledComponents

/-! Which nonce the reports behind the claims of a local attestation are signed for, over the whole
life of a context. -/
namespace AttestationSdk.Collect
open AttestationSdk.Claims AttestationSdk.Text AttestationSdk.Gpu AttestationSdk.Switch
open AttestationSdk.Attestation AttestationSdk.CertChain AttestationSdk.Report AttestationSdk.Spdm
open AttestationSdk.Rim AttestationSdk.Eat AttestationSdk.LocalVerifier AttestationSdk.Ocsp
open AttestationSdk.ChainStatus Json Effects Prog
variable {σ : Type} {env : Platform σ}

/-- The report is signed under the first key of its chain, and the nonce stands in what is signed,
from its fifth byte on. -/
def Answers (lib : X509Lib) (nonce report : Bytes) (certChain : String) : Prop :=
  ∃ chain type, createFromCertChainStr lib type deviceRootCert certChain = .ok chain ∧
    37 + 96 ≤ report.length ∧
    SignedBy lib chain.certs .sha384 (report.take (report.length - 96))
      (report.drop (report.length - 96)) ∧
    ((report.take (report.length - 96)).drop 4).take 32 = nonce

section Verified
variable {ι : Type} {getNonce : ι → Bytes} {report : ι → Bytes} {certChain : ι → String}

end Verified

section Context
variable {decodeBlock : List Char → Option Bytes} {parse : String → Option Value}
  {files : FileSystem σ} {factories : Factories σ}

/-- The call hands over no source and no verifier but the SDK's own. -/
def OwnParts (decodeBlock : List Char → Option Bytes) (parse : String → Option Value)
    (files : FileSystem σ) : Setter σ → Prop
  | .gpuEvidenceSource (some source) => GpuSource decodeBlock parse files source
  | .switchEvidenceSource (some source) => SwitchSource decodeBlock parse files source
  | .gpuEvidenceSourceJsonFile (.ok source) => GpuSource decodeBlock parse files source
  | .switchEvidenceSourceJsonFile (.ok source) => SwitchSource decodeBlock parse files source
  | .gpuVerifier (some verifier) => ∃ made, verifier = .localVerifier made
  | .switchVerifier (some verifier) => ∃ made, verifier = .localVerifier made
  | _ => True

/-- A call that hands over none but the SDK's own parts. -/
def OwnCall (decodeBlock : List Char → Option Bytes) (parse : String → Option Value)
    (files : FileSystem σ) : Call σ → Prop
  | .set setter => OwnParts decodeBlock parse files setter
  | .attest _ _ => True

end Context

end AttestationSdk.Collect

namespace AttestationSdk.GpuSample
open AttestationSdk.Claims AttestationSdk.Text AttestationSdk.Gpu AttestationSdk.Attestation
open AttestationSdk.Collect AttestationSdk.Evidence AttestationSdk.LocalVerifier
open AttestationSdk.Report AttestationSdk.Rim AttestationSdk.Switch AttestationSdk.Eat Effects Prog

set_option maxRecDepth 20000 in
theorem chain_bytes : certChainText.length ≤ NVML_GPU_ATTESTATION_CERT_CHAIN_SIZE ∧
    ByteText certChainText := by
  have h : ∃ leaf device root, leafPem.toList = leaf ∧ devicePem.toList = device ∧
      deviceRootCert.toList = root ∧ (leaf ++ (device ++ root)).length ≤ 5120 ∧
      (leaf ++ (device ++ root)).all (·.toNat < 256) = true :=
    ⟨_, _, _, String.toList_ofList, String.toList_ofList, String.toList_ofList,
      by decide +kernel, by decide +kernel⟩
  obtain ⟨leaf, device, root, hleaf, hdevice, hroot, hlength, hbytes⟩ := h
  have htext : certChainText.toList = leaf ++ (device ++ root) := by
    simp only [certChainText, String.toList_append, hleaf, hdevice, hroot]
  constructor
  · rw [← String.length_toList, htext]
    exact hlength
  · rw [ByteText, htext]
    exact fun c hc => of_decide_eq_true (List.all_eq_true.mp hbytes c hc)

theorem chain_fits : (toBytes certChainText).length ≤ NVML_GPU_ATTESTATION_CERT_CHAIN_SIZE := by
  rw [toBytes, List.length_map, String.length_toList]
  exact chain_bytes.1

/-- One Hopper device, with a report and a chain that fit. -/
def oneDevice (report chain : Bytes) (hreport : report.length ≤ NVML_CC_GPU_ATTESTATION_REPORT_SIZE)
    (hchain : chain.length ≤ NVML_GPU_ATTESTATION_CERT_CHAIN_SIZE) : Nvml Unit where
  initNvml := pure ()
  gNvmlInitialized _ := true
  systemGetConfComputeState := pure 1
  systemGetConfComputeSettings := pure 0
  deviceGetCount := pure 1
  deviceGetHandleByIndex _ := pure 0
  deviceGetArchitecture _ := pure 9
  deviceGetBoardId _ := pure 0
  deviceGetUuid _ := pure []
  deviceGetConfComputeGpuAttestationReport _ _ := pure (Filled.holding report hreport)
  deviceGetConfComputeGpuCertificate _ := pure (Filled.holding chain hchain)

theorem report_fits : evidence.attestationReport.length ≤ NVML_CC_GPU_ATTESTATION_REPORT_SIZE := by
  decide +kernel

def nvml : Nvml Unit :=
  oneDevice evidence.attestationReport (toBytes certChainText) report_fits chain_fits

def factories : Factories Unit where
  remoteRimStore _ _ _ := Prog.fail (.code .BadArgument)
  httpOcspClient _ _ _ := Prog.fail (.code .BadArgument)
  remoteGpuVerifier _ _ _ := Prog.fail (.code .BadArgument)
  remoteSwitchVerifier _ _ _ := Prog.fail (.code .BadArgument)
  nvmlEvidenceCollector := nvml.evidenceSource
  nscqEvidenceCollector := storedSource (·.nonce) .SwitchEvidenceNonceMismatch []

def files : FileSystem Unit where
  pathExists _ := pure false
  pathIsDirectory _ := pure false
  readFileIntoString _ := pure none

end AttestationSdk.GpuSample
