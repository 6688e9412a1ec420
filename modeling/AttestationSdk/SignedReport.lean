import AttestationSdk.GpuEvidence
import AttestationSdk.SpdmLayout

/-! What an accepted report is signed by, and which of its bytes the nonce is. -/
namespace AttestationSdk.Spdm
open Buffer ByteLayout

theorem request_nonce {data : Bytes} {request : SpdmMeasurementRequestMessage11}
    (h : SpdmMeasurementRequestMessage11.parse data = .ok request) :
    request.nonce = (data.drop 4).take kNonceSize := by
  obtain ⟨hwell, hdata⟩ := request_parse_iff.mp h
  have hall := (fieldAt_all (by rw [hdata])).mpr hdata
  obtain ⟨-, -, -, -, hnonce, -⟩ := (request_fieldAt hwell.nonce).mp hall
  rw [hnonce.eq_slice, hwell.nonce]

/-- The signature is the end of the response. -/
theorem response_length {data : Bytes} {signatureLength : Nat}
    {response : SpdmMeasurementResponseMessage11}
    (h : SpdmMeasurementResponseMessage11.parse data signatureLength = .ok response) :
    signatureLength ≤ data.length := by
  obtain ⟨hwell, hdata⟩ := response_parse_ok h
  rw [hdata, SpdmMeasurementResponseMessage11.encode_length hwell.nonce, hwell.signature]
  omega

end AttestationSdk.Spdm

namespace AttestationSdk.CertChain
open AttestationSdk.Ocsp AttestationSdk.ChainStatus ExceptRules
variable {lib : X509Lib}

/-- A chain of a type that trusts one root. -/
def Rooted (lib : X509Lib) (type : CertificateChainType) (rootCert : String)
    (chain : X509CertChain) : Prop :=
  chain.type = type ∧
    ∃ root, lib.pemReadX509 rootCert = some root ∧ chain.trustStore = some ⟨[root]⟩

theorem create_rooted {type : CertificateChainType} {rootCert : String} {chain : X509CertChain}
    (h : lib.create type rootCert = .ok chain) : Rooted lib type rootCert chain := by
  obtain ⟨root, hroot, rfl⟩ := X509Lib.create_ok h
  exact ⟨rfl, root, hroot, rfl⟩

theorem pushBack_rooted {type : CertificateChainType} {rootCert cert : String}
    {chain chain' : X509CertChain} (hchain : Rooted lib type rootCert chain)
    (h : lib.pushBack chain cert = .ok chain') : Rooted lib type rootCert chain' := by
  obtain ⟨_, -, rfl⟩ := X509Lib.pushBack_ok h
  exact hchain

theorem createFromCertChainStr_rooted {type : CertificateChainType} {rootCert text : String}
    {chain : X509CertChain} (h : createFromCertChainStr lib type rootCert text = .ok chain) :
    Rooted lib .GPU_DEVICE_IDENTITY rootCert chain := by
  rw [createFromCertChainStr] at h
  split at h
  · cases h
  · obtain ⟨empty, hcreate, h⟩ := bind_eq_ok.mp h
    obtain ⟨filled, hfill, h⟩ := bind_eq_ok.mp h
    split at h
    · cases h
    · cases h
      exact foldlM_keeps (fun _ _ _ hrooted hpush => pushBack_rooted hrooted (mapCode_ok hpush))
        (create_rooted hcreate) hfill

/-- The signature is two numbers of half its length, checked under the first key. -/
def SignedBy (lib : X509Lib) (certs : List X509) (md : HashAlgorithm) (data signature : Bytes) :
    Prop :=
  ∃ leaf rest, certs = leaf :: rest ∧ lib.digestVerify leaf md data
    (bigEndian (signature.take (signature.length / 2)))
    (bigEndian (signature.drop (signature.length / 2))) = true

theorem verifySignaturePkcs11_ok {chain : X509CertChain} {data signature : Bytes}
    {md : HashAlgorithm} {u : Unit}
    (h : verifySignaturePkcs11 lib chain data signature md = .ok u) :
    SignedBy lib chain.certs md data signature := by
  rw [verifySignaturePkcs11] at h
  split at h
  · cases h
  · dsimp only at h
    split at h
    · cases h
    · next leaf rest hcerts =>
      split at h
      · next hverify => exact ⟨leaf, rest, hcerts, hverify⟩
      · cases h

end AttestationSdk.CertChain

namespace AttestationSdk.Report
open AttestationSdk.Spdm AttestationSdk.CertChain AttestationSdk.Ocsp AttestationSdk.ChainStatus
open Buffer ExceptRules
variable {lib : X509Lib}

/-- All bytes of a report before its signature. -/
def signedPrefix (arch : ArchitectureData) (data : Bytes) : Bytes :=
  data.take (data.length - arch.signatureLength)

/-- The last bytes of a report. -/
def reportSignature (arch : ArchitectureData) (data : Bytes) : Bytes :=
  data.drop (data.length - arch.signatureLength)

/-- The messages are those of a report that the chain's first key has signed. -/
structure SignedMessages.ReadFrom (lib : X509Lib) (arch : ArchitectureData) (data : Bytes)
    (certChain : String) (m : SignedMessages) : Prop where
  certChain : ∃ type, createFromCertChainStr lib type deviceRootCert certChain = .ok m.certChain
  length : kRequestLength + arch.signatureLength ≤ data.length
  signature : SignedBy lib m.certChain.certs arch.hashAlgorithm (signedPrefix arch data)
    (reportSignature arch data)
  nonce : m.request.nonce = ((signedPrefix arch data).drop 4).take kNonceSize

/-- The nonce of the request lies in the bytes the signature covers. -/
theorem nonce_signed {arch : ArchitectureData} {data : Bytes}
    (h : kRequestLength + arch.signatureLength ≤ data.length) :
    (((data.drop 0).take kRequestLength).drop 4).take kNonceSize =
      ((signedPrefix arch data).drop 4).take kNonceSize := by
  rw [signedPrefix, List.drop_zero, List.drop_take, List.drop_take, List.take_take, List.take_take]
  congr 1
  simp only [kRequestLength, kNonceSize] at h ⊢
  omega

/-- The calls that the messages come from. -/
theorem readMessages_calls {type : CertificateChainType} {codes : ReportCodes}
    {arch : Except Fault ArchitectureData} {data : Bytes} {certChain : String}
    {m : SignedMessages} (h : readMessages lib type codes arch data certChain = .ok m) :
    ∃ a requestBytes, arch = .ok a ∧
      createFromCertChainStr lib type deviceRootCert certChain = .ok m.certChain ∧
      SignedBy lib m.certChain.certs a.hashAlgorithm (signedPrefix a data)
        (reportSignature a data) ∧
      slice data 0 kRequestLength = .ok requestBytes ∧
      SpdmMeasurementRequestMessage11.parse requestBytes = .ok m.request ∧
      SpdmMeasurementResponseMessage11.parse (data.drop kRequestLength) a.signatureLength =
        .ok m.response := by
  obtain ⟨chain, hchain, h⟩ := bind_eq_ok.mp h
  obtain ⟨a, harch, h⟩ := bind_eq_ok.mp h
  obtain ⟨_, _, h⟩ := bind_eq_ok.mp h
  obtain ⟨_, hsigned, h⟩ := bind_eq_ok.mp h
  obtain ⟨requestBytes, hslice, h⟩ := bind_eq_ok.mp h
  obtain ⟨request, hrequest, h⟩ := bind_eq_ok.mp h
  obtain ⟨response, hresponse, h⟩ := bind_eq_ok.mp h
  cases h
  exact ⟨a, requestBytes, harch, mapCode_ok hchain, verifySignaturePkcs11_ok (mapCode_ok hsigned),
    hslice, mapCode_ok hrequest, mapCode_ok hresponse⟩

theorem readMessages_ok {type : CertificateChainType} {codes : ReportCodes}
    {arch : Except Fault ArchitectureData} {data : Bytes} {certChain : String}
    {m : SignedMessages} (h : readMessages lib type codes arch data certChain = .ok m) :
    ∃ a, arch = .ok a ∧ m.ReadFrom lib a data certChain := by
  obtain ⟨a, requestBytes, harch, hchain, hsigned, hslice, hrequest, hresponse⟩ :=
    readMessages_calls h
  have hend : a.signatureLength ≤ (data.drop kRequestLength).length := response_length hresponse
  rw [slice] at hslice
  split at hslice
  · next hin =>
    cases hslice
    rw [List.length_drop] at hend
    have hlength : kRequestLength + a.signatureLength ≤ data.length := by omega
    refine ⟨a, harch, ⟨type, hchain⟩, hlength, hsigned, ?_⟩
    rw [request_nonce hrequest]
    exact nonce_signed hlength
  · cases hslice

end AttestationSdk.Report

namespace AttestationSdk.Gpu
open AttestationSdk.Spdm AttestationSdk.CertChain AttestationSdk.Report AttestationSdk.Ocsp
open AttestationSdk.ChainStatus Effects Prog

/-- Both supported architectures sign the same way. -/
theorem architectureData_ok {architecture : GpuArchitecture} {arch : ArchitectureData}
    (h : architectureData architecture = .ok arch) :
    arch.hashAlgorithm = .sha384 ∧ arch.signatureLength = 96 := by
  cases architecture with
  | Unknown => cases h
  | Ampere => cases h
  | Hopper =>
    cases h
    exact ⟨rfl, rfl⟩
  | Blackwell =>
    cases h
    exact ⟨rfl, rfl⟩

theorem getParsedAttestationReport_ok {lib : X509Lib} {e : GpuEvidence}
    {report : AttestationReport} (h : getParsedAttestationReport lib e = .ok report) :
    ∃ arch, architectureData e.architecture = .ok arch ∧
      report.toSignedMessages.ReadFrom lib arch e.attestationReport e.attestationCertChain := by
  obtain ⟨messages, hmessages, h⟩ := ExceptRules.bind_eq_ok.mp h
  obtain ⟨opaqueData, _, h⟩ := ExceptRules.bind_eq_ok.mp h
  cases h
  exact readMessages_ok hmessages

/-- The evidence claims of a report are made of its nonce and its chain. -/
theorem generateGpuEvidenceClaims_ok {σ : Type} {lib : X509Lib} {ocsp : OcspLib}
    {client : OcspClient σ} {now : Prog Fault σ Int} {e : GpuEvidence}
    {report : AttestationReport} {claims : GpuEvidenceClaims} {s s' : σ}
    (h : generateGpuEvidenceClaims lib ocsp client now e report s = (.ok claims, s')) :
    report.request.nonce = e.nonce ∧
      ∃ s₁ s₂, generateCertChainClaims lib ocsp client now report.certChain s₁ =
        (.ok claims.attestationReportClaims.certChainClaims, s₂) := by
  obtain ⟨driverVersion, _, _, h⟩ := bind_eq_ok.mp h
  obtain ⟨vbiosVersion, _, _, h⟩ := bind_eq_ok.mp h
  obtain ⟨gpuSwitchPdis, _, _, h⟩ := bind_eq_ok.mp h
  obtain ⟨arch, _, _, h⟩ := bind_eq_ok.mp h
  obtain ⟨_, _, hnonce, h⟩ := bind_eq_ok.mp h
  obtain ⟨reportClaims, _, hreport, h⟩ := bind_eq_ok.mp h
  cases h
  obtain ⟨_, s₁, _, hreport⟩ := bind_eq_ok.mp hreport
  obtain ⟨chainClaims, s₂, hchain, hreport⟩ := bind_eq_ok.mp hreport
  obtain ⟨hwmodel, _, _, hreport⟩ := bind_eq_ok.mp hreport
  obtain ⟨ueid, _, _, hreport⟩ := bind_eq_ok.mp hreport
  cases hreport
  exact ⟨of_decide_eq_true (require_ok (lift_ok hnonce)), s₁, s₂, hchain⟩

end AttestationSdk.Gpu
