import AttestationSdk.RimCoverage

/-! Under which key the signature of a RIM document is accepted, and of which certificates the
chain is made that is verified beside it. -/
namespace AttestationSdk.Rim
open AttestationSdk.Ocsp AttestationSdk.ChainStatus AttestationSdk.CertChain Effects Prog
variable {Key : Type}

/-- xmlsec with an empty keys manager and without certificate checks: it takes a key from the
`KeyInfo` of the signature and verifies under that key. -/
structure XmlSec (Key : Type) where
  readDoc : String → Option Xml
  takeKey : Xml → Option Key
  verifyUnder : Key → Xml → Xml → Option Bool

/-- The first `KeyInfo` of a signature. -/
def keyInfo (signature : Xml) : Option Xml :=
  signature.children.find? (Xml.isElement xmlDsigNs "KeyInfo")

/-- The key for a signature. -/
def XmlSec.signingKey (xmlSec : XmlSec Key) (signature : Xml) : Option Key :=
  (keyInfo signature).bind xmlSec.takeKey

def XmlSec.toXmlLib (xmlSec : XmlSec Key) : XmlLib where
  readDoc := xmlSec.readDoc
  dsigVerify root signature :=
    (xmlSec.signingKey signature).bind fun key => xmlSec.verifyUnder key root signature

/-- The text of a certificate element as `get_cert_chain` hands it to OpenSSL. -/
def certText (node : Xml) : String :=
  "-----BEGIN CERTIFICATE-----\n" ++ node.content ++ "-----END CERTIFICATE-----"

/-- The first signature was accepted under the key of the first certificate of the chain that
was extracted and verified. -/
def SignedByChain (x509 : X509Lib) (xmlSec : XmlSec Key) (publicKey : X509 → Key)
    (rim : RimDocument) : Prop :=
  ∃ root signature key chain leaf rest path,
    rim.Signed root signature ∧ xmlSec.signingKey signature = some key ∧
    xmlSec.verifyUnder key root signature = some true ∧
    rim.getCertChain x509 = .ok chain ∧ verify x509 chain = .ok path ∧
    chain.certs = leaf :: rest ∧ publicKey leaf = key

/-- The `KeyInfo` of the first signature yields the key of the document's first
`X509Certificate`. -/
def KeyInfoMatches (x509 : X509Lib) (xmlSec : XmlSec Key) (publicKey : X509 → Key)
    (rim : RimDocument) : Prop :=
  ∃ root signature key node cert,
    rim.Signed root signature ∧ xmlSec.signingKey signature = some key ∧
    root.elements.find? (Xml.isElement xmlDsigNs "X509Certificate") = some node ∧
    x509.pemReadX509 (certText node) = some cert ∧ publicKey cert = key

/-- The chain starts with the certificate of the first element. -/
theorem getCertChain_first {x509 : X509Lib} {rim : RimDocument} {chain : X509CertChain}
    (h : rim.getCertChain x509 = .ok chain) :
    ∃ node cert rest,
      (rim.select (Xml.isElement xmlDsigNs "X509Certificate")).head? = some node ∧
      x509.pemReadX509 (certText node) = some cert ∧ chain.certs = cert :: rest := by
  rw [RimDocument.getCertChain] at h
  split at h
  · cases h
  · cases hnodes : rim.select (Xml.isElement xmlDsigNs "X509Certificate") with
    | nil => contradiction
    | cons node nodes =>
      rw [hnodes] at h
      obtain ⟨empty, hcreate, h⟩ := ExceptRules.bind_eq_ok.mp h
      rw [List.foldlM_cons] at h
      obtain ⟨first, hpush, h⟩ := ExceptRules.bind_eq_ok.mp h
      obtain ⟨root, -, rfl⟩ := X509Lib.create_ok hcreate
      obtain ⟨cert, hcert, rfl⟩ := X509Lib.pushBack_ok hpush
      have hstart : ∃ rest, chain.certs = cert :: rest := by
        refine ExceptRules.foldlM_keeps (P := fun c : X509CertChain =>
          ∃ rest, c.certs = cert :: rest) ?_ ⟨[], rfl⟩ h
        rintro before _ after ⟨rest, hrest⟩ hstep
        obtain ⟨added, -, rfl⟩ := X509Lib.pushBack_ok hstep
        exact ⟨rest ++ [added], congrArg (· ++ [added]) hrest⟩
      obtain ⟨rest, hrest⟩ := hstart
      exact ⟨node, cert, rest, rfl, hcert, hrest⟩

/-- With both checks on, an accepted document passed each of them. -/
theorem generateRimClaims_ok {σ : Type} {x509 : X509Lib} {ocsp : OcspLib} {xml : XmlLib}
    {client : OcspClient σ} {now : Prog Fault σ Int} {unset : CertChainStatus}
    {policy : EvidencePolicy} {rim : RimDocument} {claims : RimClaims} {s s' : σ}
    (hchain : policy.verifyRimCertChain = true) (hsignature : policy.verifyRimSignature = true)
    (h : rim.generateRimClaims x509 ocsp xml client now unset policy s = (.ok claims, s')) :
    (∃ chain path, rim.getCertChain x509 = .ok chain ∧ verify x509 chain = .ok path) ∧
      rim.verifySignature xml = .ok () := by
  obtain ⟨chainClaims, s₁, hclaims, h⟩ := bind_eq_ok.mp h
  rw [RimDocument.certChainClaims, if_pos hchain] at hclaims
  rw [if_pos hsignature] at h
  obtain ⟨u, s₂, hverify, _⟩ := bind_eq_ok.mp h
  obtain ⟨chain, s₃, hget, hclaims⟩ := bind_eq_ok.mp hclaims
  obtain ⟨_, s₄, _, hclaims⟩ := bind_eq_ok.mp hclaims
  obtain ⟨_, s₅, _, hclaims⟩ := bind_eq_ok.mp hclaims
  obtain ⟨path, s₆, hpath, _⟩ := bind_eq_ok.mp hclaims
  exact ⟨⟨chain, path, lift_ok hget, lift_ok hpath⟩, lift_ok hverify⟩

/-- In an accepted document the signing key is the key of the verified chain exactly when the
`KeyInfo` of the first signature yields the key of the document's first `X509Certificate`. -/
theorem signedByChain_iff {σ : Type} {x509 : X509Lib} {ocsp : OcspLib} {xmlSec : XmlSec Key}
    (publicKey : X509 → Key) {client : OcspClient σ} {now : Prog Fault σ Int}
    {unset : CertChainStatus} {policy : EvidencePolicy} {rim : RimDocument} {claims : RimClaims}
    {s s' : σ} (hchain : policy.verifyRimCertChain = true)
    (hsignature : policy.verifyRimSignature = true)
    (h : rim.generateRimClaims x509 ocsp xmlSec.toXmlLib client now unset policy s =
      (.ok claims, s')) :
    SignedByChain x509 xmlSec publicKey rim ↔ KeyInfoMatches x509 xmlSec publicKey rim := by
  obtain ⟨⟨chain, path, hget, hpath⟩, hverify⟩ := generateRimClaims_ok hchain hsignature h
  obtain ⟨root, signature, hsigned, hdsig⟩ := verifySignature_signed hverify
  obtain ⟨key, hkey, hunder⟩ := Option.bind_eq_some_iff.mp hdsig
  obtain ⟨node, cert, rest, hnode, hcert, hcerts⟩ := getCertChain_first hget
  rw [RimDocument.select, hsigned.1] at hnode
  have hfirst : root.elements.find? (Xml.isElement xmlDsigNs "X509Certificate") = some node :=
    List.head?_filter.symm.trans hnode
  constructor
  · rintro ⟨root', signature', key', chain', leaf, rest', path', hsigned', hkey', -, hget', -,
      hcerts', hleaf⟩
    have hchains : chain = chain' := Except.ok.inj (hget.symm.trans hget')
    rw [← hchains, hcerts] at hcerts'
    cases hcerts'
    have hroots : root = root' := Option.some.inj (hsigned.1.symm.trans hsigned'.1)
    subst hroots
    exact ⟨root, signature', key', node, cert, hsigned', hkey', hfirst, hcert, hleaf⟩
  · rintro ⟨root', signature', key', node', cert', hsigned', hkey', hfirst', hcert', hpublic⟩
    have hroots : root = root' := Option.some.inj (hsigned.1.symm.trans hsigned'.1)
    subst hroots
    have hsignatures : signature = signature' :=
      Option.some.inj (hsigned.2.symm.trans hsigned'.2)
    subst hsignatures
    have hnodes : node = node' := Option.some.inj (hfirst.symm.trans hfirst')
    subst hnodes
    have hcertsEq : cert = cert' := Option.some.inj (hcert.symm.trans hcert')
    subst hcertsEq
    have hkeys : key = key' := Option.some.inj (hkey.symm.trans hkey')
    subst hkeys
    exact ⟨root, signature, key, chain, cert, rest, path, hsigned, hkey, hunder, hget, hpath,
      hcerts, hpublic⟩

end AttestationSdk.Rim

namespace AttestationSdk.Rim
open AttestationSdk.Ocsp AttestationSdk.CertChain

/-- xmlsec takes the key of an inline `KeyValue` or of an `X509Certificate` in the `KeyInfo`. -/
def TakesOwnKey {Key : Type} (x509 : X509Lib) (xmlSec : XmlSec Key) (publicKey : X509 → Key)
    (keyValue : Xml → Option Key) : Prop :=
  ∀ info key, xmlSec.takeKey info = some key → ∃ node ∈ info.elements,
    node.isElement xmlDsigNs "KeyValue" = true ∧ keyValue node = some key ∨
    node.isElement xmlDsigNs "X509Certificate" = true ∧
      ∃ cert, x509.pemReadX509 (certText node) = some cert ∧ publicKey cert = key

end AttestationSdk.Rim

namespace AttestationSdk.RimSample
open AttestationSdk.Ocsp AttestationSdk.Rim AttestationSdk.GpuSample AttestationSdk.CertChain
open Effects Prog

def publicKey (cert : X509) : String := if cert = ⟨[5]⟩ then "signer" else "other"

def keyValue (node : Xml) : Option String := some node.content

/-- The key of the first `KeyValue`, else of the first certificate. -/
def takeKey (info : Xml) : Option String :=
  match info.elements.find? (Xml.isElement xmlDsigNs "KeyValue") with
  | some node => keyValue node
  | none => match info.elements.find? (Xml.isElement xmlDsigNs "X509Certificate") with
    | none => none
    | some node => (x509.pemReadX509 (certText node)).map publicKey

/-- A signature value names the key it was made with. -/
def signatureValue (signature : Xml) : Option String :=
  (signature.children.find? (Xml.isElement xmlDsigNs "SignatureValue")).map Xml.content

def xmlSec : XmlSec String where
  readDoc _ := none
  takeKey := takeKey
  verifyUnder key root signature :=
    some (digestsMatch spelled root signature && signatureValue signature = some key)

def keyedSignature (digest key : String) (info : List Xml) : Xml :=
  .element (some xmlDsigNs) "Signature" [] [
    .element (some xmlDsigNs) "SignedInfo" [] [referenceTo "" digest],
    .element (some xmlDsigNs) "SignatureValue" [] [.text key],
    .element (some xmlDsigNs) "KeyInfo" [] info]

def keyedRoot (before : List Xml) (digest key : String) (info : List Xml) : Xml :=
  .element (some iso19770Ns) "SoftwareIdentity" []
    (version :: resource "0" "aaab" :: (before ++ [keyedSignature digest key info]))

theorem takesOwnKey : TakesOwnKey x509 xmlSec publicKey keyValue := by
  intro info key h
  change takeKey info = some key at h
  rw [takeKey] at h
  split at h
  · next node hfind =>
    exact ⟨node, List.mem_of_find?_eq_some hfind, .inl ⟨List.find?_some hfind, h⟩⟩
  · split at h
    · cases h
    · next node hfind =>
      obtain ⟨cert, hcert, hkey⟩ := Option.map_eq_some_iff.mp h
      exact ⟨node, List.mem_of_find?_eq_some hfind, .inr ⟨List.find?_some hfind, cert, hcert, hkey⟩⟩

/-- The chain stands beside the signature, whose `KeyInfo` holds a key of its own. -/
def forgedRoot (digest : String) : Xml :=
  keyedRoot certificates digest "mallory"
    [.element (some xmlDsigNs) "KeyValue" [] [.text "mallory"]]

def forged : RimDocument := ⟨"", some (forgedRoot (spelled (forgedRoot ""))), ""⟩

/-- The chain stands in the `KeyInfo`. -/
def genuineRoot (digest : String) : Xml := keyedRoot [] digest "signer" certificates

def genuine : RimDocument := ⟨"", some (genuineRoot (spelled (genuineRoot ""))), ""⟩

theorem forged_certs :
    forged.select (Xml.isElement xmlDsigNs "X509Certificate") = certificates := by
  simp [RimDocument.select, forged, forgedRoot, keyedRoot, keyedSignature, version, resource,
    referenceTo, certificates, Xml.elements, elementsOf, Xml.isElement, iso_ne_dsig]

theorem genuine_certs :
    genuine.select (Xml.isElement xmlDsigNs "X509Certificate") = certificates := by
  simp [RimDocument.select, genuine, genuineRoot, keyedRoot, keyedSignature, version, resource,
    referenceTo, certificates, Xml.elements, elementsOf, Xml.isElement, iso_ne_dsig]

theorem digestsMatch_keyed {root : Xml} (key : String) (info : List Xml) :
    digestsMatch spelled root (keyedSignature (spelled root) key info) = true := by
  have huri : (referenceTo "" (spelled root)).plainAttr "URI" = some "" := by
    simp [referenceTo, Xml.plainAttr, Xml.attrs]
  have hdigest : digestValue (referenceTo "" (spelled root)) = some (spelled root) := by
    simp [digestValue, referenceTo, Xml.children, Xml.isElement, Xml.content, contentOf]
  simp [digestsMatch, keyedSignature, Xml.children, Xml.isElement, huri, hdigest, named_whole]

theorem signatureValue_keyed (digest key : String) (info : List Xml) :
    signatureValue (keyedSignature digest key info) = some key := by
  simp [signatureValue, keyedSignature, Xml.children, Xml.isElement, Xml.content, contentOf]

theorem signingKey_keyed (digest key : String) (info : List Xml) :
    xmlSec.signingKey (keyedSignature digest key info) =
      takeKey (.element (some xmlDsigNs) "KeyInfo" [] info) := by
  simp [XmlSec.signingKey, keyInfo, keyedSignature, Xml.children, Xml.isElement, xmlSec]

/-- A signature made with the key of its `KeyInfo` over the whole document is accepted. -/
theorem verifySignature_keyed {doc : RimDocument} {root : Xml} {digest key : String}
    {info : List Xml} (hsigned : doc.Signed root (keyedSignature digest key info))
    (hdigest : spelled root = digest)
    (hkey : takeKey (.element (some xmlDsigNs) "KeyInfo" [] info) = some key) :
    doc.verifySignature xmlSec.toXmlLib = .ok () := by
  cases hdigest
  have hverify : xmlSec.toXmlLib.dsigVerify root (keyedSignature (spelled root) key info) =
      some true := by
    refine Option.bind_eq_some_iff.mpr ⟨key, (signingKey_keyed _ _ _).trans hkey, ?_⟩
    simp [xmlSec, digestsMatch_keyed, signatureValue_keyed]
  rw [RimDocument.verifySignature, hsigned.1]
  simp only [hsigned.2, hverify]

theorem spelled_forgedRoot (digest : String) :
    spelled (forgedRoot digest) = spelled (forgedRoot "") := by
  simp only [spelled, forgedRoot, keyedRoot, keyedSignature, version, resource, referenceTo,
    certificates, Xml.elements, elementsOf, Xml.attrs, List.cons_append, List.nil_append,
    List.append_nil, List.foldl_cons, List.foldl_nil]

theorem forged_signed (digest : String) :
    (⟨"", some (forgedRoot digest), ""⟩ : RimDocument).Signed (forgedRoot digest)
      (keyedSignature digest "mallory"
        [.element (some xmlDsigNs) "KeyValue" [] [.text "mallory"]]) := by
  refine ⟨rfl, ?_⟩
  simp [forgedRoot, keyedRoot, keyedSignature, version, resource, referenceTo, certificates,
    Xml.elements, elementsOf, Xml.isElement, iso_ne_dsig]

theorem spelled_genuineRoot (digest : String) :
    spelled (genuineRoot digest) = spelled (genuineRoot "") := by
  simp only [spelled, genuineRoot, keyedRoot, keyedSignature, version, resource, referenceTo,
    certificates, Xml.elements, elementsOf, Xml.attrs, List.cons_append, List.nil_append,
    List.append_nil, List.foldl_cons, List.foldl_nil]

theorem genuine_signed (digest : String) :
    (⟨"", some (genuineRoot digest), ""⟩ : RimDocument).Signed (genuineRoot digest)
      (keyedSignature digest "signer" certificates) := by
  refine ⟨rfl, ?_⟩
  simp [genuineRoot, keyedRoot, keyedSignature, version, resource, referenceTo, certificates,
    Xml.elements, elementsOf, Xml.isElement, iso_ne_dsig]

theorem takeKey_value :
    takeKey (.element (some xmlDsigNs) "KeyInfo" []
      [.element (some xmlDsigNs) "KeyValue" [] [.text "mallory"]]) = some "mallory" := by
  simp [takeKey, Xml.elements, elementsOf, Xml.isElement, keyValue, Xml.content, contentOf]

/-- The first sample certificate. -/
def signerNode : Xml := .element (some xmlDsigNs) "X509Certificate" [] [.text "RIMAAAAA\n"]

theorem content_text (text : String) :
    Xml.content (.element (some xmlDsigNs) "X509Certificate" [] [.text text]) = text := by
  simp only [Xml.content, contentOf, String.append_empty]

theorem certText_text (text : String) :
    certText (.element (some xmlDsigNs) "X509Certificate" [] [.text text]) =
      "-----BEGIN CERTIFICATE-----\n" ++ text ++ "-----END CERTIFICATE-----" :=
  congrArg (fun content => "-----BEGIN CERTIFICATE-----\n" ++ content ++
    "-----END CERTIFICATE-----") (content_text text)

theorem certText_signer : certText signerNode =
    "-----BEGIN CERTIFICATE-----\n" ++ "RIMAAAAA\n" ++ "-----END CERTIFICATE-----" :=
  certText_text "RIMAAAAA\n"

theorem readPem_signer : readPem (certText signerNode).toList = some ⟨[5]⟩ := by
  cases rim_chars with
  | intro root hchars =>
    rw [certText_signer]
    exact hchars.2.2.1

theorem signer_read : x509.pemReadX509 (certText signerNode) = some ⟨[5]⟩ := readPem_signer

theorem takeKey_certificates :
    takeKey (.element (some xmlDsigNs) "KeyInfo" [] certificates) = some "signer" := by
  have hvalue : (Xml.element (some xmlDsigNs) "KeyInfo" [] certificates).elements.find?
      (Xml.isElement xmlDsigNs "KeyValue") = none := by
    simp [certificates, Xml.elements, elementsOf, Xml.isElement]
  have hnode : (Xml.element (some xmlDsigNs) "KeyInfo" [] certificates).elements.find?
      (Xml.isElement xmlDsigNs "X509Certificate") = some signerNode := by
    simp [certificates, signerNode, Xml.elements, elementsOf, Xml.isElement]
  simp only [takeKey, hvalue, hnode, signer_read]
  rfl

/-- A document signed with the key of its chain, which stands in the `KeyInfo`. -/
theorem genuine_signedByChain : SignedByChain x509 xmlSec publicKey genuine := by
  refine (signedByChain_iff publicKey rfl rfl (generateRimClaims_certified genuine_certs
    (verifySignature_keyed (genuine_signed _) (spelled_genuineRoot _) takeKey_certificates))).mpr ?_
  refine ⟨_, _, "signer", signerNode, ⟨[5]⟩, genuine_signed _,
    (signingKey_keyed _ _ _).trans takeKey_certificates, ?_, signer_read, rfl⟩
  have hcerts := genuine_certs
  rw [RimDocument.select] at hcerts
  have hhead := congrArg List.head? hcerts
  exact List.head?_filter.symm.trans hhead

/-- A document that carries a good chain and is signed with another key. -/
theorem forged_signature_accepted :
    ¬ ∀ (x509 : X509Lib) (ocsp : OcspLib) (xmlSec : XmlSec String)
      (publicKey : X509 → String) (keyValue : Xml → Option String)
      (client : ChainStatus.OcspClient Unit) (now : Prog Fault Unit Int)
      (unset : CertChainStatus) (policy : EvidencePolicy) (rim : RimDocument)
      (claims : RimClaims),
      TakesOwnKey x509 xmlSec publicKey keyValue →
      policy.verifyRimCertChain = true → policy.verifyRimSignature = true →
      rim.generateRimClaims x509 ocsp xmlSec.toXmlLib client now unset policy () =
        (.ok claims, ()) →
      SignedByChain x509 xmlSec publicKey rim := by
  intro h
  obtain ⟨root, signature, key, chain, leaf, rest, path, hsigned, hkey, -, hget, -, hcerts,
    hleaf⟩ := h x509 ocsp xmlSec publicKey keyValue ocspClient (pure 100) .INVALID {} forged _
    takesOwnKey rfl rfl (generateRimClaims_certified forged_certs
      (verifySignature_keyed (forged_signed _) (spelled_forgedRoot _) takeKey_value))
  have hforged := forged_signed (spelled (forgedRoot ""))
  have hroot : forgedRoot (spelled (forgedRoot "")) = root :=
    Option.some.inj (hforged.1.symm.trans hsigned.1)
  rw [← hroot] at hsigned
  have hsignature : keyedSignature (spelled (forgedRoot "")) "mallory"
      [.element (some xmlDsigNs) "KeyValue" [] [.text "mallory"]] = signature :=
    Option.some.inj (hforged.2.symm.trans hsigned.2)
  rw [← hsignature] at hkey
  rw [signingKey_keyed, takeKey_value] at hkey
  cases hkey
  rw [publicKey] at hleaf
  split at hleaf <;> exact absurd hleaf (by decide)

end AttestationSdk.RimSample
