import AttestationSdk.SignedReport
import AttestationSdk.GoldenMeasurements
import AttestationSdk.VouchedChain
import AttestationSdk.AttestVerdict
import AttestationSdk.VerifierCoverage
import AttestationSdk.EatWriting

/-! What `Ok` from the local GPU verifier with a token says about the evidence. -/
namespace AttestationSdk.Gpu
open AttestationSdk.Claims AttestationSdk.Text AttestationSdk.Ocsp AttestationSdk.ChainStatus
open AttestationSdk.CertChain AttestationSdk.Spdm AttestationSdk.Report AttestationSdk.Rim
open AttestationSdk.Eat AttestationSdk.LocalVerifier AttestationSdk.OverallPolicy
open AttestationSdk.VouchedStatus AttestationSdk.VouchedChain AttestationSdk.Attestation
open Effects Prog
variable {σ : Type} {env : Platform σ} {client : StatusClient σ} {verifier : LocalGpuVerifier σ}
  {policy : EvidencePolicy}

/-- The chain starts at an embedded root of its own and every status it needs is vouched for. -/
def VouchedFrom (env : Platform σ) (client : StatusClient σ) (type : CertificateChainType)
    (rootCert : String) (chain : X509CertChain) : Prop :=
  chain.type = type ∧ ∃ root, env.x509.pemReadX509 rootCert = some root ∧
    VouchedChain env.x509 env.ocsp client env.now chain ⟨[root]⟩

/-- What an accepted RIM document rests on. -/
structure GenuineRim (env : Platform σ) (client : StatusClient σ) (rim : RimDocument) : Prop where
  certChain : ∃ chain, rim.getCertChain env.x509 = .ok chain ∧
    VouchedFrom env client .GPU_DRIVER_RIM rimRootCert chain
  signature : rim.verifySignature env.xml = .ok ()

/-- What accepted evidence rests on: its report and the two RIM documents. -/
structure Genuine (env : Platform σ) (store : RimStore σ) (client : StatusClient σ)
    (e : GpuEvidence) (report : AttestationReport) (driverRim vbiosRim : RimDocument) : Prop where
  parsed : getParsedAttestationReport env.x509 e = .ok report
  certChain : createFromCertChainStr env.x509 .GPU_DEVICE_IDENTITY deviceRootCert
    e.attestationCertChain = .ok report.certChain
  length : 37 + 96 ≤ e.attestationReport.length
  signature : SignedBy env.x509 report.certChain.certs .sha384
    (e.attestationReport.take (e.attestationReport.length - 96))
    (e.attestationReport.drop (e.attestationReport.length - 96))
  nonce : ((e.attestationReport.take (e.attestationReport.length - 96)).drop 4).take 32 = e.nonce
  vouched : VouchedFrom env client .GPU_DEVICE_IDENTITY deviceRootCert report.certChain
  driverRimFetched : ∃ id s s', report.getDriverRimId e.architecture = .ok id ∧
    fetchRim store id s = (.ok driverRim, s')
  driverRimGenuine : GenuineRim env client driverRim
  vbiosRimFetched : ∃ id s s', report.getVbiosRimId = .ok id ∧
    fetchRim store id s = (.ok vbiosRim, s')
  vbiosRimGenuine : GenuineRim env client vbiosRim
  measured : ∃ status, report.getNvdec0Status = .ok status ∧
    ∀ node ∈ driverRim.resources ++ vbiosRim.resources, ∀ index alternatives,
      Golden node index alternatives → ¬ (index = 35 ∧ status = 0x55) →
      Matches report.getMeasurements index alternatives

theorem vouchedFrom_of_claims {type : CertificateChainType} {rootCert : String}
    {chain : X509CertChain} {claims : CertChainClaims} {s s' : σ}
    (hrooted : Rooted env.x509 type rootCert chain)
    (h : generateCertChainClaims env.x509 env.ocsp (client.toOcspClient env.ocsp) env.now chain s =
      (.ok claims, s'))
    (htrusted : TrustedChain (serializableChain claims)) :
    VouchedFrom env client type rootCert chain := by
  obtain ⟨htype, root, hroot, hstore⟩ := hrooted
  obtain ⟨store, hvouched⟩ := vouchedChain_of_claims h htrusted
  have hsame : store = ⟨[root]⟩ := Option.some.inj (hvouched.trustStore.symm.trans hstore)
  subst hsame
  exact ⟨htype, root, hroot, hvouched⟩

theorem getCertChain_rooted {lib : X509Lib} {rim : RimDocument} {chain : X509CertChain}
    (h : rim.getCertChain lib = .ok chain) : Rooted lib .GPU_DRIVER_RIM rimRootCert chain := by
  rw [RimDocument.getCertChain] at h
  split at h
  · cases h
  · obtain ⟨empty, hcreate, h⟩ := ExceptRules.bind_eq_ok.mp h
    exact ExceptRules.foldlM_keeps (fun _ _ _ => pushBack_rooted) (create_rooted hcreate) h

/-- Inversion of `generate_rim_claims` where the policy asks for both checks. -/
theorem genuineRim_of_claims (hclient : verifier.ocspHttpClient = client.toOcspClient env.ocsp)
    (hchain : policy.verifyRimCertChain = true) (hsignature : policy.verifyRimSignature = true)
    {rim : RimDocument} {claims : RimClaims} {s s' : σ}
    (h : verifier.generateRimClaims env policy rim s = (.ok claims, s'))
    (htrusted : TrustedChain (serializableChain claims.certChainClaims)) :
    GenuineRim env client rim := by
  obtain ⟨chainClaims, s₁, hclaims, h⟩ := bind_eq_ok.mp h
  rw [if_pos hsignature] at h
  obtain ⟨_, s₂, hverified, h⟩ := bind_eq_ok.mp h
  cases h
  rw [RimDocument.certChainClaims, if_pos hchain, hclient] at hclaims
  obtain ⟨chain, s₃, hread, hclaims⟩ := bind_eq_ok.mp hclaims
  have hrooted := getCertChain_rooted (lift_ok hread)
  exact ⟨⟨chain, lift_ok hread, vouchedFrom_of_claims hrooted hclaims htrusted⟩, lift_ok hverified⟩

/-- What the comparisons say about the measurements the documents state. -/
theorem measured_of_records {driverRim vbiosRim : RimDocument} {driver vbios : Measurements}
    {report : AttestationReport} (hdriver : driverRim.getMeasurements = .ok driver)
    (hvbios : vbiosRim.getMeasurements = .ok vbios)
    (h : mismatchRecords driver vbios report = .ok []) :
    ∃ status, report.getNvdec0Status = .ok status ∧
      ∀ node ∈ driverRim.resources ++ vbiosRim.resources, ∀ index alternatives,
        Golden node index alternatives → ¬ (index = 35 ∧ status = 0x55) →
        Matches report.getMeasurements index alternatives := by
  obtain ⟨hdistinct, hstated⟩ := getMeasurements_ok hdriver
  obtain ⟨hdistinct', hstated'⟩ := getMeasurements_ok hvbios
  obtain ⟨_, status, hstatus, _, hmatch, hmatch'⟩ :=
    (mismatchRecords_nil_iff hdistinct hdistinct').mp h
  refine ⟨status, hstatus, fun node hnode index alternatives hgolden hcompared => ?_⟩
  have hmatches {ms : Measurements} (hms : Stated node ms)
      (hall : AllMatch report.getMeasurements (skipsMsr35 status) ms) :
      Matches report.getMeasurements index alternatives := by
    obtain ⟨m, hm, rfl, rfl⟩ := hms index alternatives hgolden
    exact (hall m hm).resolve_left fun hskip => hcompared (of_decide_eq_true hskip)
  cases List.mem_append.mp hnode with
  | inl hin => exact hmatches (hstated node hin) hmatch
  | inr hin => exact hmatches (hstated' node hin) hmatch'

/-- The nonce of verified evidence has the length the report gives it. -/
theorem nonce_length {e : GpuEvidence} {t : ItemTrace} {claims : SerializableGpuClaimsV3}
    (h : t.Gives env verifier policy e claims) : e.nonce.length = 32 := by
  obtain ⟨arch, _, hread⟩ := getParsedAttestationReport_ok h.report
  obtain ⟨s, s', hevidence⟩ := h.evidence
  have hlength := hread.length
  rw [← (generateGpuEvidenceClaims_ok hevidence).1, hread.nonce, List.length_take, List.length_drop,
    signedPrefix, List.length_take]
  simp only [kRequestLength, kNonceSize] at hlength ⊢
  omega

theorem verifyItem_trace {e : GpuEvidence} {c : DeviceClaims} {s s' : σ}
    (h : (do return .gpu (← verifier.verifyItem env policy e) : Prog Fault σ DeviceClaims) s =
      (.ok c, s')) :
    ∃ claims t, c = .gpu claims ∧ ItemTrace.Gives env verifier policy e t claims := by
  obtain ⟨claims, s₁, hclaims, h⟩ := bind_eq_ok.mp h
  cases h
  obtain ⟨t, ht⟩ := LocalGpuVerifier.verifyItem_ok hclaims
  exact ⟨claims, t, rfl, ht⟩

/-- A turn whose claims pass the policy. -/
theorem genuine_of_trusted (hclient : verifier.ocspHttpClient = client.toOcspClient env.ocsp)
    (hchain : policy.verifyRimCertChain = true) (hsignature : policy.verifyRimSignature = true)
    {e : GpuEvidence} {t : ItemTrace} {claims : SerializableGpuClaimsV3}
    (h : t.Gives env verifier policy e claims) (htrusted : Trusted (.gpu claims)) :
    Genuine env verifier.rimStore client e t.report t.driverRim t.vbiosRim := by
  obtain ⟨hmatching, hchains⟩ := htrusted
  obtain ⟨arch, harch, hread⟩ := getParsedAttestationReport_ok h.report
  obtain ⟨halgorithm, hlength⟩ := architectureData_ok harch
  obtain ⟨s, s', hevidence⟩ := h.evidence
  obtain ⟨hnonce, s₁, s₂, hclaims⟩ := generateGpuEvidenceClaims_ok hevidence
  obtain ⟨type, hcreated⟩ := hread.certChain
  obtain ⟨s₃, s₄, hdriver⟩ := h.driverRim
  obtain ⟨s₅, s₆, hvbios⟩ := h.vbiosRim
  obtain ⟨records, hrecords, hresult⟩ := h.measured
  have hnone : records = [] := measurementsMatching_iff.mp (hresult.symm.trans hmatching)
  subst hnone
  have har : TrustedChain claims.arCertChain := hchains _ (by simp [chains])
  have hdriverChain : TrustedChain claims.driverRimCertChain := hchains _ (by simp [chains])
  have hvbiosChain : TrustedChain claims.vbiosRimCertChain := hchains _ (by simp [chains])
  rw [h.arCertChain] at har
  rw [h.driverRimCertChain] at hdriverChain
  rw [h.vbiosRimCertChain] at hvbiosChain
  rw [hclient] at hclaims
  exact {
    parsed := h.report
    certChain := hcreated
    length := hlength ▸ hread.length
    signature := by simpa [halgorithm, signedPrefix, reportSignature, hlength] using hread.signature
    nonce := by simpa [signedPrefix, hlength, kNonceSize] using hread.nonce.symm.trans hnonce
    vouched := vouchedFrom_of_claims (createFromCertChainStr_rooted hcreated) hclaims har
    driverRimFetched := h.driverRimFetched
    driverRimGenuine := genuineRim_of_claims hclient hchain hsignature hdriver hdriverChain
    vbiosRimFetched := h.vbiosRimFetched
    vbiosRimGenuine := genuineRim_of_claims hclient hchain hsignature hvbios hvbiosChain
    measured := measured_of_records h.driverMeasurements h.vbiosMeasurements hrecords }

/-- `Ok` with a token: there is evidence, all of it for one nonce, and each item rests on
a signed report and two RIM documents whose chains are vouched for. -/
theorem generateClaimsV3_sound (hrego : FollowsRego env)
    (hclient : verifier.ocspHttpClient = client.toOcspClient env.ocsp)
    (hchain : policy.verifyRimCertChain = true) (hsignature : policy.verifyRimSignature = true)
    {evidence : List GpuEvidence} {s s' : σ} {v : Verification}
    (h : verifier.generateClaimsV3 env evidence policy true [] s = (.ok v, s'))
    (hok : v.overallResult = true) :
    evidence ≠ [] ∧ (∀ e ∈ evidence, ∀ e' ∈ evidence, e.nonce = e'.nonce) ∧
      ∀ e ∈ evidence, ∃ report driverRim vbiosRim,
        Genuine env verifier.rimStore client e report driverRim vbiosRim := by
  obtain ⟨s₁, hverified, hfinish⟩ := generateClaims_ok h
  obtain ⟨⟨text, result⟩, s₂, heat, hfinish⟩ := bind_eq_ok.mp hfinish
  have hv : ⟨v.claims, some text, result⟩ = v := Except.ok.inj (congrArg Prod.fst hfinish)
  have hresult : v.overallResult = result := (congrArg Verification.overallResult hv).symm
  have hmatch : nvMatch (collectionToJson v.claims) = true :=
    (getDetachedEat_result hrego heat).symm.trans (hresult.symm.trans hok)
  obtain ⟨hsome, htrusted⟩ := (nvMatch_collection v.claims).mp hmatch
  have hnonces : ∀ c ∈ v.claims, c.getNonce ≠ "" := by
    intro c hc hempty
    obtain ⟨e, _, s₃, s₄, hrun⟩ := hverified.item_of_mem c hc
    obtain ⟨claims, t, rfl, ht⟩ := verifyItem_trace hrun
    have hnil : e.nonce = [] := toHexString_injective (ht.nonce.symm.trans hempty)
    have hlength := nonce_length ht
    rw [hnil] at hlength
    cases hlength
  obtain ⟨nonce, hnonce⟩ := getDetachedEat_nonce hnonces heat
  have hsame : ∀ e ∈ evidence, toHexString e.nonce = nonce := by
    intro e he
    obtain ⟨c, hc, s₃, s₄, hrun⟩ := hverified.claims_of_mem e he
    obtain ⟨claims, t, rfl, ht⟩ := verifyItem_trace hrun
    exact ht.nonce.symm.trans (hnonce _ hc)
  refine ⟨?_, ?_, ?_⟩
  · obtain ⟨c, hc⟩ := List.exists_mem_of_ne_nil _ hsome
    obtain ⟨e, he, _⟩ := hverified.item_of_mem c hc
    exact List.ne_nil_of_mem he
  · intro e he e' he'
    exact toHexString_injective ((hsame e he).trans (hsame e' he').symm)
  · intro e he
    obtain ⟨c, hc, s₃, s₄, hrun⟩ := hverified.claims_of_mem e he
    obtain ⟨claims, t, rfl, ht⟩ := verifyItem_trace hrun
    exact ⟨_, _, _, genuine_of_trusted hclient hchain hsignature ht (htrusted _ hc)⟩

end AttestationSdk.Gpu

namespace AttestationSdk.GpuSample
open AttestationSdk.Claims AttestationSdk.Text AttestationSdk.Ocsp AttestationSdk.ChainStatus
open AttestationSdk.CertChain AttestationSdk.Spdm AttestationSdk.Report AttestationSdk.Rim
open AttestationSdk.Eat AttestationSdk.LocalVerifier AttestationSdk.OverallPolicy
open AttestationSdk.VouchedStatus AttestationSdk.RawProofOcsp AttestationSdk.Gpu
open Json Effects Prog

/-- Certificates told apart by the start of their text. -/
def readPem (text : List Char) : Option X509 :=
  match (text.drop 28).take 5 with
  | ['M', 'I', 'I', 'C', 'C'] => some ⟨[1]⟩
  | ['D', 'E', 'V', 'I', 'C'] => some ⟨[2]⟩
  | ['L', 'E', 'A', 'F', 'A'] => some ⟨[3]⟩
  | ['M', 'I', 'I', 'C', 'K'] => some ⟨[4]⟩
  | ['R', 'I', 'M', 'A', 'A'] => some ⟨[5]⟩
  | _ => none

def leafPem : String := "-----BEGIN CERTIFICATE-----\nLEAFAAAA\n-----END CERTIFICATE-----"
def devicePem : String := "-----BEGIN CERTIFICATE-----\nDEVICEAA\n-----END CERTIFICATE-----"
def certChainText : String := leafPem ++ (devicePem ++ deviceRootCert)

def nonce : Bytes := List.replicate 32 0xab

def block (index : UInt8) (value : Bytes) : Bytes :=
  [index, 1, UInt8.ofNat (3 + value.length), 0, 1, UInt8.ofNat value.length, 0] ++ value

def field (type : UInt8) (data : Bytes) : Bytes := [type, 0, UInt8.ofNat data.length, 0] ++ data

def record : Bytes := block 1 [0xaa, 0xab] ++ block 2 [0xbb]

def opaqueBytes : Bytes :=
  field 3 [53] ++ field 6 [1, 2] ++ field 11 [0x55] ++ field 15 [67] ++ field 17 [80] ++
    field 18 [83]

/-- A request and a response with two measurements, up to the signature. -/
def signedBytes : Bytes :=
  [0x11, 0xe0, 0, 0xff] ++ nonce ++ [0] ++ [0x11, 0x60, 0, 0, 2, UInt8.ofNat record.length, 0, 0] ++
    record ++ List.replicate 32 0xcd ++ [UInt8.ofNat opaqueBytes.length, 0] ++ opaqueBytes

def evidence : GpuEvidence :=
  ⟨.Hopper, nonce, signedBytes ++ List.replicate 96 0x11, certChainText⟩

def x509 : X509Lib where
  pemReadX509 text := readPem text.toList
  verifyCert store target untrusted :=
    if (target :: untrusted).getLast? = store.anchors.head? then some (target :: untrusted)
    else none
  notAfter _ := some hourTm
  iso8601 _ := "1970-01-01T01:00:00Z"
  digestVerify leaf _ data _ _ := leaf = ⟨[3]⟩ ∧ data = signedBytes
  extensionData _ _ := none
  sequenceAny _ := none
  subjectCommonName _ := some "GH100"
  serialNumberDec _ := some "7"

def ocsp : OcspLib where
  certToId subject issuer := some ⟨[], issuer.der, issuer.der, (subject.der.headD 0).toNat⟩
  i2dCertId id := id.issuerKeyHash
  basicVerify _ _ _ := 1
  asn1TimeToTm value := if value = [1] then some minuteTm else some hourTm
  d2iResponse _ := none
  rebuild _ := none
  crlReasonStr _ := ""

def statusOf (issuer : UInt8) (serial : Int) : BasicResponse :=
  ⟨[], none, [⟨⟨[], [issuer], [issuer], serial⟩, .good, [1], some [2]⟩]⟩

/-- Proofs for the device certificate and for the signer of the RIM documents. -/
def client : RawProofOcspClient := { sampleClient with responses := [statusOf 1 2, statusOf 4 5] }

def ocspClient : OcspClient Unit := (StatusClient.offline client).toOcspClient ocsp

def deviceChain : X509CertChain := ⟨[⟨[3]⟩, ⟨[2]⟩, ⟨[1]⟩], .GPU_DEVICE_IDENTITY, some ⟨[⟨[1]⟩]⟩⟩

def rimChain : X509CertChain := ⟨[⟨[5]⟩, ⟨[4]⟩], .GPU_DRIVER_RIM, some ⟨[⟨[4]⟩]⟩⟩

def opaqueFields : List ParsedOpaqueFieldData :=
  [⟨3, [53]⟩, ⟨6, [1, 2]⟩, ⟨11, [0x55]⟩, ⟨15, [67]⟩, ⟨17, [80]⟩, ⟨18, [83]⟩]

def report : AttestationReport where
  certChain := deviceChain
  request := ⟨0x11, 0xe0, 0, 0xff, nonce, 0⟩
  response := ⟨0x11, 0x60, 0, 0, 2, record.length, record, [(2, ⟨1, 1, [0xbb]⟩), (1, ⟨1, 2, [0xaa, 0xab]⟩)],
    List.replicate 32 0xcd, opaqueBytes.length, opaqueBytes, opaqueFields, List.replicate 96 0x11⟩
  opaqueData := ⟨(opaqueFields.map fun f => (f.type, .byteVector f.data)).reverse, 0⟩

def resource (index hash : String) : Xml :=
  .element (some iso19770Ns) "Resource" [⟨none, "type", "Measurement"⟩, ⟨none, "active", "True"⟩,
    ⟨none, "index", index⟩, ⟨none, "alternatives", "1"⟩, ⟨none, "name", "M"⟩,
    ⟨none, "size", "48"⟩, ⟨some xmlEncSha384Ns, "Hash0", hash⟩] []

/-- The text between the markers of the embedded root. -/
def rimRootBody : String :=
  String.ofList ((rimRootCert.toList.drop 28).take (rimRootCert.length - 53))

def rim (id version : String) (resources : List Xml) : RimDocument where
  rimId := id
  doc := some (.element (some iso19770Ns) "SoftwareIdentity" [] [
    .element (some iso19770Ns) "Meta" [⟨none, "colloquialVersion", version⟩,
      ⟨some tcgRimNs, "FirmwareManufacturerId", "5703"⟩] [],
    .element (some iso19770Ns) "Payload" [] resources,
    .element (some xmlDsigNs) "Signature" [] [
      .element (some xmlDsigNs) "X509Certificate" [] [.text "RIMAAAAA\n"],
      .element (some xmlDsigNs) "X509Certificate" [] [.text rimRootBody]]])

def driverRim : RimDocument := rim "NV_GPU_DRIVER_GH100_5" "5" [resource "0" "aaab"]

/-- Measurement 35 is not in the report, whose NVDEC0 status is 0x55. -/
def vbiosRim : RimDocument :=
  rim "NV_GPU_VBIOS_P_S_C_0102" "01.02" [resource "1" "bb", resource "35" "cc"]

def store : RimStore Unit where
  getRim id rim :=
    if id = driverRim.rimId then pure (.Ok, driverRim)
    else if id = vbiosRim.rimId then pure (.Ok, vbiosRim)
    else pure (.RimNotFound, rim)

mutual
/-- The text of a value without floats or characters to escape. -/
def render : Value → String
  | .null => "null"
  | .bool b => toString b
  | .int n => toString n
  | .float _ => "0.0"
  | .str s => "\"" ++ s ++ "\""
  | .arr elems => "[" ++ ",".intercalate (renderAll elems) ++ "]"
  | .obj members => "\x7b" ++ ",".intercalate (renderMembers members) ++ "\x7d"

def renderAll : List Value → List String
  | [] => []
  | v :: rest => render v :: renderAll rest

def renderMembers : List (String × Value) → List String
  | [] => []
  | (key, v) :: rest => ("\"" ++ key ++ "\":" ++ render v) :: renderMembers rest
end

/-- Whether a value is the pair of an overall token and the device tokens. -/
def isEat : Value → Bool
  | .arr (.arr _ :: _) => true
  | _ => false

def matchText : String :=
  "\x7b\"result\":[\x7b\"expressions\":[\x7b\"value\":true\x7d]\x7d]\x7d"

def matchValue : Value :=
  .obj [("result", .arr [.obj [("expressions", .arr [.obj [("value", .bool true)]])]])]

/-- A platform that writes trusted claims and tokens, and whose engine finds the
claims it is given to match. -/
def env : Platform Unit where
  x509 := x509
  ocsp := ocsp
  xml := ⟨fun _ => none, fun _ _ => some true⟩
  dump js := if nvMatch js ∨ isEat js then some (render js) else none
  parse text := if text = matchText then some matchValue else none
  evaluatePolicy _ _ := some matchText
  sha256 _ := some (List.replicate 32 7)
  now := pure 100
  randBytes n := pure (some (List.replicate n 7))
  jwtSign _ _ _ := pure "e30.e30."
  unsetStatus := .INVALID

def verifier : LocalGpuVerifier Unit := ⟨store, ocspClient, {}⟩

theorem ok_of_toOption {α : Type} {x : Except Fault α} {a : α} (h : x.toOption = some a) :
    x = .ok a := by
  cases x with
  | error f => cases h
  | ok b =>
    cases h
    rfl

theorem run_of_toOption {α : Type} {x : Prog Fault Unit α} {a : α}
    (h : (x ()).1.toOption = some a) : x () = (.ok a, ()) :=
  Prod.ext (ok_of_toOption h) rfl

theorem lift_of_ok {α : Type} {x : Except Fault α} {a : α} (h : x = .ok a) :
    (Prog.lift x : Prog Fault Unit α) () = (.ok a, ()) := by
  rw [h]
  rfl

theorem create_text {type : CertificateChainType} {rootCert : String} {chars : List Char}
    {root : X509} (htext : rootCert.toList = chars) (h : readPem chars = some root) :
    x509.create type rootCert = .ok ⟨[], type, some ⟨[root]⟩⟩ := by
  simp only [X509Lib.create, x509, htext, h]

theorem pushBack_text {chain : X509CertChain} {text : String} {chars : List Char} {cert : X509}
    (htext : text.toList = chars) (h : readPem chars = some cert) :
    x509.pushBack chain text = .ok { chain with certs := chain.certs ++ [cert] } := by
  simp only [X509Lib.pushBack, x509, htext, h]

theorem dropWhile_of_head {chars : List Char} (h : chars.head? = some '-') (rest : List Char) :
    (chars ++ rest).dropWhile (fun c => c = '\n' ∨ c = '\r') = chars ++ rest := by
  cases chars with
  | nil => cases h
  | cons c cs =>
    cases h
    simp

/-- Three certificate texts one after the other, each up to its end marker. -/
structure ThreeTexts (delimiter leaf device root : List Char) (a b c : X509) : Prop where
  readLeaf : readPem leaf = some a
  readDevice : readPem device = some b
  readRoot : readPem root = some c
  splitLeaf : splitAfter delimiter (leaf ++ (device ++ root)) = some (leaf, device ++ root)
  splitDevice : splitAfter delimiter (device ++ root) = some (device, root)
  splitRoot : splitAfter delimiter root = some (root, [])
  deviceHead : device.head? = some '-'
  rootHead : root.head? = some '-'
  length : 3 ≤ (leaf ++ (device ++ root)).length

-- Texts stay variables here: a long literal is costly to take apart.
theorem createFromCertChainStr_three {text rootCert : String}
    {delimiter leaf device root : List Char} {a b c : X509}
    (hdelimiter : endCertificate.toList = delimiter)
    (htext : text.toList = leaf ++ (device ++ root)) (hroot : rootCert.toList = root)
    (h : ThreeTexts delimiter leaf device root a b c) :
    createFromCertChainStr x509 .GPU_DEVICE_IDENTITY rootCert text =
      .ok ⟨[a, b, c], .GPU_DEVICE_IDENTITY, some ⟨[c]⟩⟩ := by
  have hlength : 3 ≤ text.length := by
    rw [← String.length_toList, htext]
    exact h.length
  have hsome : text.isEmpty = false := by
    cases hempty : text.isEmpty with
    | false => rfl
    | true =>
      rw [String.isEmpty_iff.mp hempty, String.length_empty] at hlength
      cases hlength
  obtain ⟨fuel, hfuel⟩ := Nat.exists_eq_add_of_le' hlength
  have hrest := dropWhile_of_head h.rootHead []
  rw [List.append_nil] at hrest
  have hpieces : pemPieces (text.length + 1) text.toList =
      [String.ofList leaf, String.ofList device, String.ofList root] := by
    simp only [hfuel, pemPieces, htext, hdelimiter, h.splitLeaf, h.splitDevice, h.splitRoot,
      dropWhile_of_head h.deviceHead, hrest, List.dropWhile_nil, splitAfter]
  rw [createFromCertChainStr, hsome, hpieces, create_text hroot h.readRoot]
  simp only [Bool.false_eq_true, if_false, ExceptRules.ok_bind, List.foldlM_cons, List.foldlM_nil,
    pushBack_text String.toList_ofList h.readLeaf, pushBack_text String.toList_ofList h.readDevice,
    pushBack_text String.toList_ofList h.readRoot, mapCode, ExceptRules.pure_eq_ok]
  rfl

set_option maxRecDepth 20000 in
theorem chain_chars : ∃ delimiter leaf device root, endCertificate.toList = delimiter ∧
    leafPem.toList = leaf ∧ devicePem.toList = device ∧ deviceRootCert.toList = root ∧
    ThreeTexts delimiter leaf device root ⟨[3]⟩ ⟨[2]⟩ ⟨[1]⟩ :=
  ⟨_, _, _, _, String.toList_ofList, String.toList_ofList, String.toList_ofList,
    String.toList_ofList, by decide +kernel, by decide +kernel, by decide +kernel,
    by decide +kernel, by decide +kernel, by decide +kernel, by decide +kernel, by decide +kernel,
    by decide +kernel⟩

theorem createFromCertChainStr_chain :
    createFromCertChainStr x509 .GPU_DEVICE_IDENTITY deviceRootCert certChainText =
      .ok deviceChain := by
  obtain ⟨delimiter, leaf, device, root, hdelimiter, hleaf, hdevice, hroot, h⟩ := chain_chars
  have htext : certChainText.toList = leaf ++ (device ++ root) := by
    simp only [certChainText, String.toList_append, hleaf, hdevice, hroot]
  exact createFromCertChainStr_three hdelimiter htext hroot h

theorem ne_of_chars {s t : String} {a b : List Char} (hs : s.toList = a) (ht : t.toList = b)
    (h : a ≠ b) : s ≠ t := by
  intro heq
  exact h (hs.symm.trans ((congrArg String.toList heq).trans ht))

theorem iso_ne_dsig : iso19770Ns ≠ xmlDsigNs :=
  ne_of_chars String.toList_ofList String.toList_ofList (by decide)

theorem rim_certs (id version : String) {resources : List Xml}
    (h : (elementsOf resources).filter (Xml.isElement xmlDsigNs "X509Certificate") = []) :
    (rim id version resources).select (Xml.isElement xmlDsigNs "X509Certificate") =
      [.element (some xmlDsigNs) "X509Certificate" [] [.text "RIMAAAAA\n"],
        .element (some xmlDsigNs) "X509Certificate" [] [.text rimRootBody]] := by
  simp [RimDocument.select, rim, Xml.elements, elementsOf, Xml.isElement, iso_ne_dsig,
    List.filter_append, h]

theorem getCertChain_two {doc : RimDocument} {first second : String} {a b root : X509}
    (hselect : doc.select (Xml.isElement xmlDsigNs "X509Certificate") =
      [.element (some xmlDsigNs) "X509Certificate" [] [.text first],
        .element (some xmlDsigNs) "X509Certificate" [] [.text second]])
    (hcreate : x509.create .GPU_DRIVER_RIM rimRootCert =
      .ok ⟨[], .GPU_DRIVER_RIM, some ⟨[root]⟩⟩)
    (hfirst : readPem ("-----BEGIN CERTIFICATE-----\n" ++ first ++
      "-----END CERTIFICATE-----").toList = some a)
    (hsecond : readPem ("-----BEGIN CERTIFICATE-----\n" ++ second ++
      "-----END CERTIFICATE-----").toList = some b) :
    doc.getCertChain x509 = .ok ⟨[a, b], .GPU_DRIVER_RIM, some ⟨[root]⟩⟩ := by
  rw [RimDocument.getCertChain, hselect, hcreate]
  simp only [ExceptRules.ok_bind, List.foldlM_cons, List.foldlM_nil, Xml.content, contentOf,
    String.append_empty, pushBack_text rfl hfirst, pushBack_text rfl hsecond,
    ExceptRules.pure_eq_ok]
  rfl

set_option maxRecDepth 20000 in
theorem rim_chars : ∃ root, rimRootCert.toList = root ∧ readPem root = some ⟨[4]⟩ ∧
    readPem ("-----BEGIN CERTIFICATE-----\n" ++ "RIMAAAAA\n" ++
      "-----END CERTIFICATE-----").toList = some ⟨[5]⟩ ∧
    readPem ("-----BEGIN CERTIFICATE-----\n".toList ++ (root.drop 28).take (root.length - 53) ++
      "-----END CERTIFICATE-----".toList) = some ⟨[4]⟩ :=
  ⟨_, String.toList_ofList, by decide +kernel, by decide +kernel, by decide +kernel⟩

theorem getCertChain_rim (id version : String) {resources : List Xml}
    (h : (elementsOf resources).filter (Xml.isElement xmlDsigNs "X509Certificate") = []) :
    (rim id version resources).getCertChain x509 = .ok rimChain := by
  obtain ⟨root, hroot, hread, hleaf, hbody⟩ := rim_chars
  have hlength : rimRootCert.length = root.length := by rw [← String.length_toList, hroot]
  have htext : rimRootBody.toList = (root.drop 28).take (root.length - 53) := by
    rw [rimRootBody, String.toList_ofList, hroot, hlength]
  refine getCertChain_two (rim_certs id version h) (create_text hroot hread) hleaf ?_
  rw [String.toList_append, String.toList_append, htext]
  exact hbody

/-- The claims about all three chains: one certificate covered by a signed age. -/
def chainClaims : CertChainClaims where
  expirationDate := "1970-01-01T01:00:00Z"
  status := .VALID
  ocspClaims := {
    status := .GOOD, ocspRespExpirationTime := 3600, ocspResponseValid := true, signedAge := true
    verificationTime := 100, statusDeadline := 3600, oldestThisUpdate := 60
    coveredCertificates := 1 }

def evidenceClaims : GpuEvidenceClaims :=
  ⟨true, "5", "01.02", [], ⟨chainClaims, true, "GH100", "7", true, true⟩, true⟩

def driverMeasurements : Measurements := ⟨[⟨true, 0, 48, 1, [[0xaa, 0xab]], "M"⟩]⟩

def vbiosMeasurements : Measurements :=
  ⟨[⟨true, 1, 48, 1, [[0xbb]], "M"⟩, ⟨true, 35, 48, 1, [[0xcc]], "M"⟩]⟩

def claims : SerializableGpuClaimsV3 :=
  { setGpuEvidenceClaims evidenceClaims { nonce := toHexString nonce } with
    gpuDriverRimVersionMatch := true
    driverRimFetched := true
    driverRimCertChain := serializableChain chainClaims
    driverRimSignatureVerified := true
    oemId := "5703"
    gpuVbiosRimVersionMatch := true
    vbiosRimFetched := true
    vbiosRimCertChain := serializableChain chainClaims
    vbiosRimSignatureVerified := true
    driverRimMeasurementsAvailable := true
    vbiosRimMeasurementsAvailable := true
    vbiosIndexNoConflict := true
    measurementsMatching := .Success
    secureBoot := some true
    debugStatus := some "disabled" }

/-- What the run reads from the report and from the documents. -/
structure Reads : Prop where
  parsed : getParsedAttestationReport env.x509 evidence = .ok report
  evidenceRead : generateGpuEvidenceClaims env.x509 env.ocsp verifier.ocspHttpClient env.now evidence
    report () = (.ok evidenceClaims, ())
  driverId : report.getDriverRimId evidence.architecture = .ok driverRim.rimId
  vbiosId : report.getVbiosRimId = .ok vbiosRim.rimId
  idsDiffer : vbiosRim.rimId ≠ driverRim.rimId
  driverVersionRead : driverRim.getVersion = .ok evidenceClaims.driverVersion
  vbiosVersionRead : vbiosRim.getVersion = .ok evidenceClaims.vbiosVersion
  oemIdRead : driverRim.getManufacturerId = .ok "5703"
  rimChainRead : generateCertChainClaims x509 ocsp ocspClient (pure 100) rimChain () =
    (.ok chainClaims, ())
  driverSignature : driverRim.verifySignature env.xml = .ok ()
  vbiosSignature : vbiosRim.verifySignature env.xml = .ok ()
  driverGolden : driverRim.getMeasurements = .ok driverMeasurements
  vbiosGolden : vbiosRim.getMeasurements = .ok vbiosMeasurements
  compared : mismatchRecords driverMeasurements vbiosMeasurements report = .ok []

theorem reads : Reads := by
  have hchain : createFromCertChainStr env.x509 .GPU_DEVICE_IDENTITY deviceRootCert
      evidence.attestationCertChain = .ok deviceChain := createFromCertChainStr_chain
  exact {
    parsed := by
      rw [getParsedAttestationReport, readMessages, hchain]
      exact ok_of_toOption (by decide +kernel)
    evidenceRead := run_of_toOption (by decide +kernel)
    driverId := ok_of_toOption (by decide +kernel)
    vbiosId := ok_of_toOption (by decide +kernel)
    idsDiffer := by decide +kernel
    driverVersionRead := ok_of_toOption (by decide +kernel)
    vbiosVersionRead := ok_of_toOption (by decide +kernel)
    oemIdRead := ok_of_toOption (by decide +kernel)
    rimChainRead := run_of_toOption (by decide +kernel)
    driverSignature := ok_of_toOption (by decide +kernel)
    vbiosSignature := ok_of_toOption (by decide +kernel)
    driverGolden := ok_of_toOption (by decide +kernel)
    vbiosGolden := ok_of_toOption (by decide +kernel)
    compared := ok_of_toOption (by decide +kernel) }

theorem fetchRim_driver :
    fetchRim verifier.rimStore driverRim.rimId () = (.ok driverRim, ()) := by
  have h : store.getRim driverRim.rimId {} = pure (.Ok, driverRim) := by
    simp only [store, if_true]
  rw [fetchRim, verifier, h]
  rfl

theorem fetchRim_vbios : fetchRim verifier.rimStore vbiosRim.rimId () = (.ok vbiosRim, ()) := by
  have h : store.getRim vbiosRim.rimId {} = pure (.Ok, vbiosRim) := by
    simp only [store, reads.idsDiffer, if_false, if_true]
  rw [fetchRim, verifier, h]
  rfl

theorem generateRimClaims_rim {id version : String} {resources : List Xml}
    (h : (elementsOf resources).filter (Xml.isElement xmlDsigNs "X509Certificate") = [])
    (hsignature : (rim id version resources).verifySignature env.xml = .ok ()) :
    verifier.generateRimClaims env {} (rim id version resources) () =
      (.ok ⟨chainClaims, true⟩, ()) := by
  refine bind_eq_ok.mpr ⟨chainClaims, (), ?_, ?_⟩
  · rw [RimDocument.certChainClaims, if_pos rfl]
    exact bind_eq_ok.mpr
      ⟨rimChain, (), lift_of_ok (getCertChain_rim id version h), reads.rimChainRead⟩
  · rw [if_pos rfl]
    exact bind_eq_ok.mpr ⟨(), (), lift_of_ok hsignature, rfl⟩

theorem resource_noCert (index hash : String) :
    (elementsOf [resource index hash]).filter (Xml.isElement xmlDsigNs "X509Certificate") = [] := by
  simp [elementsOf, Xml.elements, resource, Xml.isElement]

theorem setDriverRimClaims_driver (c : SerializableGpuClaimsV3) :
    verifier.setDriverRimClaims env driverRim {} c () = (.ok { c with
      driverRimFetched := true
      driverRimCertChain := serializableChain chainClaims
      driverRimSignatureVerified := true
      oemId := "5703" }, ()) := by
  have hrim : verifier.generateRimClaims env {} driverRim () = (.ok ⟨chainClaims, true⟩, ()) :=
    generateRimClaims_rim (resource_noCert _ _) reads.driverSignature
  rw [LocalGpuVerifier.setDriverRimClaims, bind_of_ok hrim, bind_of_ok (lift_of_ok reads.oemIdRead)]
  rfl

theorem setVbiosRimClaims_vbios (c : SerializableGpuClaimsV3) :
    verifier.setVbiosRimClaims env vbiosRim {} c () = (.ok { c with
      vbiosRimFetched := true
      vbiosRimCertChain := serializableChain chainClaims
      vbiosRimSignatureVerified := true }, ()) := by
  have hresources : (elementsOf [resource "1" "bb", resource "35" "cc"]).filter
      (Xml.isElement xmlDsigNs "X509Certificate") = [] := by
    simp [elementsOf, Xml.elements, resource, Xml.isElement]
  have hrim : verifier.generateRimClaims env {} vbiosRim () = (.ok ⟨chainClaims, true⟩, ()) :=
    generateRimClaims_rim hresources reads.vbiosSignature
  rw [LocalGpuVerifier.setVbiosRimClaims, bind_of_ok hrim]
  rfl

theorem generateSetMeasurementClaims_of {driver vbios : Measurements} {report : AttestationReport}
    {records : List SerializableMismatchedMeasurements} (c : SerializableGpuClaimsV3)
    (h : mismatchRecords driver vbios report = .ok records) :
    generateSetMeasurementClaims driver vbios report c = .ok { c with
      vbiosIndexNoConflict := true
      measurementsMatching := (measurementClaims records).measurementsMatching
      secureBoot := (measurementClaims records).secureBoot
      debugStatus := (measurementClaims records).debugStatus
      mismatchedMeasurements := (measurementClaims records).mismatchedMeasurements } := by
  rw [generateSetMeasurementClaims_eq, h, ExceptRules.ok_bind]
  rfl

theorem verifyItem_evidence : verifier.verifyItem env {} evidence () = (.ok claims, ()) := by
  have hmode (c : SerializableGpuClaimsV3) : addGpuModeClaim report c = .ok c := if_pos (by decide)
  have hsame (version : String) (e : Error) : require (version = version) e = .ok () := by
    simp [require]
  rw [LocalGpuVerifier.verifyItem, bind_of_ok (lift_of_ok reads.parsed), bind_of_ok reads.evidenceRead,
    bind_of_ok (lift_of_ok (hmode _)), bind_of_ok (lift_of_ok reads.driverId),
    bind_of_ok fetchRim_driver, bind_of_ok (lift_of_ok reads.driverVersionRead),
    bind_of_ok (lift_of_ok (hsame _ _)), bind_of_ok (setDriverRimClaims_driver _),
    bind_of_ok (lift_of_ok reads.vbiosId), bind_of_ok fetchRim_vbios,
    bind_of_ok (lift_of_ok reads.vbiosVersionRead), bind_of_ok (lift_of_ok (hsame _ _)),
    bind_of_ok (setVbiosRimClaims_vbios _), bind_of_ok (lift_of_ok reads.driverGolden),
    bind_of_ok (lift_of_ok reads.vbiosGolden),
    lift_of_ok (generateSetMeasurementClaims_of _ reads.compared)]
  rfl

theorem claims_trusted : Trusted (.gpu claims) := by
  have hchain : TrustedChain (serializableChain chainClaims) := by
    refine ⟨rfl, rfl, rfl, ?_⟩
    simp [Fresh, serializableChain, makeSignedAgeStatus, chainClaims]
  refine ⟨rfl, ?_⟩
  simpa [chains, claims, setGpuEvidenceClaims, evidenceClaims] using hchain

theorem readMatch_matchText : readMatch env matchText = true := by
  simp [readMatch, env, matchValue, Value.atKey, Value.atIndex, Value.member?, Value.getBool]

theorem isEat_collection (claims : List DeviceClaims) :
    isEat (collectionToJson claims) = false := by
  cases claims with
  | nil => rfl
  | cons c cs => cases c <;> rfl

theorem env_followsRego : FollowsRego env := by
  intro claims json result hdump hresult
  have hmatch : nvMatch (collectionToJson claims) = true := by
    by_contra hno
    simp [env, hno, isEat_collection] at hdump
  have htext : result = matchText := (Option.some.inj hresult).symm
  rw [hmatch, htext]
  exact readMatch_matchText

theorem serializeToJson_env {js : Value} (h : nvMatch js = true ∨ isEat js = true) :
    serializeToJson env js = .ok (render js) := by
  simp only [serializeToJson, env, h, if_true]

theorem evaluateClaims_claims : evaluateClaims env .overallResult [.gpu claims] = .ok true := by
  have hmatch : nvMatch (collectionToJson [.gpu claims]) = true :=
    (Attestation.nvMatch_collection _).mpr ⟨by simp, by simpa using claims_trusted⟩
  rw [evaluateClaims, serializeToJson_env (.inl hmatch)]
  exact congrArg Except.ok readMatch_matchText

theorem sign_env (payload : Value) : sign env {} payload () = (.ok "e30.e30.", ()) := rfl

theorem generateNonce_env :
    generateNonce env jtiSizeBytes () = (.ok (List.replicate jtiSizeBytes 7), ()) := rfl

theorem addSubmods_claims (common : SerializableCommonEATClaims) :
    ∃ st, addSubmods env {} common [.gpu claims] {} () = (.ok st, ()) := by
  have hjoin : joinNonce (SubmodState.overallNonce {}) (DeviceClaims.gpu claims).getNonce =
      .ok (DeviceClaims.gpu claims).getNonce := if_pos rfl
  have hdigest : computeSha256Hex env "e30.e30." = .ok (toHexString (List.replicate 32 7)) := rfl
  have hone : ∃ st, addSubmod env {} common {} (.gpu claims) () = (.ok st, ()) := by
    rw [addSubmod, bind_of_ok (lift_of_ok hjoin), bind_of_ok generateNonce_env,
      bind_of_ok (sign_env _), bind_of_ok (lift_of_ok hdigest)]
    exact ⟨_, rfl⟩
  obtain ⟨st, hst⟩ := hone
  refine ⟨st, ?_⟩
  rw [addSubmods, bind_of_ok hst]
  rfl

theorem getDetachedEat_claims :
    ∃ text, getDetachedEat env {} [.gpu claims] () = (.ok (text, true), ()) := by
  obtain ⟨st, hst⟩ := addSubmods_claims
    ⟨100, 100 + jwtTtlSeconds, "NVAT-LOCAL-VERIFIER", toHexString (List.replicate jtiSizeBytes 7)⟩
  have hnow : env.now () = (.ok 100, ()) := rfl
  refine ⟨render (SerializableDetachedEAT.mk "e30.e30." st.deviceJwtTokens).toJson, ?_⟩
  rw [getDetachedEat, bind_of_ok hnow, bind_of_ok generateNonce_env, bind_of_ok hst,
    bind_of_ok (lift_of_ok evaluateClaims_claims), bind_of_ok (sign_env _),
    bind_of_ok (lift_of_ok (serializeToJson_env (.inr rfl)))]
  rfl

theorem generateClaims_one {platform : Platform Unit} {options : DetachedEATOptions}
    {verifyItem : GpuEvidence → Prog Fault Unit DeviceClaims} {e : GpuEvidence} {c : DeviceClaims}
    {text : String} {b : Bool} (hitem : verifyItem e () = (.ok c, ()))
    (heat : getDetachedEat platform options [c] () = (.ok (text, b), ())) :
    generateClaims platform options verifyItem [e] true [] () = (.ok ⟨[c], some text, b⟩, ()) := by
  have hitems : verifyItems verifyItem [e] [] () = (.ok [c], ()) :=
    verified_iff.mpr (.cons hitem (.nil ()))
  rw [generateClaims, bind_of_ok hitems, finish, if_pos rfl, bind_of_ok heat]
  rfl

/-- One Hopper device, verified with status proofs of its own. -/
theorem evidence_genuine : ∃ report driverRim vbiosRim,
    Genuine env verifier.rimStore (.offline client) evidence report driverRim vbiosRim := by
  obtain ⟨text, heat⟩ := getDetachedEat_claims
  have hitem : (do return .gpu (← verifier.verifyItem env {} evidence) :
      Prog Fault Unit DeviceClaims) () = (.ok (.gpu claims), ()) := by
    rw [bind_of_ok verifyItem_evidence]
    rfl
  have hrun : verifier.generateClaimsV3 env [evidence] {} true [] () =
      (.ok ⟨[.gpu claims], some text, true⟩, ()) := generateClaims_one hitem heat
  have hclient : verifier.ocspHttpClient = (StatusClient.offline client).toOcspClient env.ocsp := rfl
  exact (generateClaimsV3_sound env_followsRego hclient rfl rfl hrun rfl).2.2 evidence
    List.mem_cons_self

end AttestationSdk.GpuSample
