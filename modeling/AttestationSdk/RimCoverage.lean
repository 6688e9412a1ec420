import AttestationSdk.GpuSoundness

/-! Which elements of a RIM document its signature covers, and which ones the values come from. -/
namespace AttestationSdk.Rim
open AttestationSdk.Ocsp AttestationSdk.ChainStatus AttestationSdk.CertChain Effects Prog

def Xml.children : Xml → List Xml
  | .text _ => []
  | .element _ _ _ children => children

mutual
/-- All elements of a tree in document order, each with its position. -/
def Xml.located (path : List Nat) : Xml → List (List Nat × Xml)
  | .text _ => []
  | .element ns name attrs children =>
    (path, .element ns name attrs children) :: locatedOf path 0 children

def locatedOf (path : List Nat) (i : Nat) : List Xml → List (List Nat × Xml)
  | [] => []
  | x :: rest => x.located (path ++ [i]) ++ locatedOf path (i + 1) rest
end

/-- The element at a position. -/
def Xml.elementAt : Xml → List Nat → Option Xml
  | .text _, _ => none
  | .element ns name attrs children, [] => some (.element ns name attrs children)
  | .element _ _ _ children, i :: rest => match children[i]? with
    | none => none
    | some x => x.elementAt rest

mutual
theorem map_located (path : List Nat) (x : Xml) :
    (x.located path).map Prod.snd = x.elements := by
  cases x with
  | text content => rfl
  | element ns name attrs children =>
    rw [Xml.located, Xml.elements, List.map_cons, map_locatedOf path 0 children]

theorem map_locatedOf (path : List Nat) (i : Nat) (xs : List Xml) :
    (locatedOf path i xs).map Prod.snd = elementsOf xs := by
  cases xs with
  | nil => rfl
  | cons x rest =>
    rw [locatedOf, elementsOf, List.map_append, map_located, map_locatedOf path (i + 1) rest]
end

mutual
/-- The elements of a tree are those at its positions. -/
theorem mem_located (x : Xml) (path p : List Nat) (y : Xml) :
    (p, y) ∈ x.located path ↔ ∃ rest, p = path ++ rest ∧ x.elementAt rest = some y := by
  cases x with
  | text content => simp [Xml.located, Xml.elementAt]
  | element ns name attrs children =>
    rw [Xml.located, List.mem_cons, mem_locatedOf children path 0 p y]
    constructor
    · intro h
      cases h with
      | inl hself =>
        cases hself
        exact ⟨[], by simp, rfl⟩
      | inr hbelow =>
        obtain ⟨j, rest, hp, hat⟩ := hbelow
        refine ⟨j :: rest, by simpa using hp, ?_⟩
        rw [Xml.elementAt]
        cases hchild : children[j]? with
        | none => simp [hchild] at hat
        | some child => simpa [hchild] using hat
    · rintro ⟨rest, hp, hat⟩
      cases rest with
      | nil =>
        simp only [Xml.elementAt, Option.some.injEq] at hat
        exact .inl (by simp [hp, hat])
      | cons j rest =>
        refine .inr ⟨j, rest, by simpa using hp, ?_⟩
        rw [Xml.elementAt] at hat
        cases hchild : children[j]? with
        | none => simp [hchild] at hat
        | some child => simpa [hchild] using hat

theorem mem_locatedOf (xs : List Xml) (path : List Nat) (i : Nat) (p : List Nat) (y : Xml) :
    (p, y) ∈ locatedOf path i xs ↔
      ∃ j rest, p = path ++ (i + j) :: rest ∧ xs[j]?.bind (·.elementAt rest) = some y := by
  cases xs with
  | nil => simp [locatedOf]
  | cons x tail =>
    rw [locatedOf, List.mem_append, mem_located x (path ++ [i]) p y,
      mem_locatedOf tail path (i + 1) p y]
    constructor
    · intro h
      cases h with
      | inl hfirst =>
        obtain ⟨rest, hp, hat⟩ := hfirst
        exact ⟨0, rest, by simpa using hp, by simpa using hat⟩
      | inr hlater =>
        obtain ⟨j, rest, hp, hat⟩ := hlater
        refine ⟨j + 1, rest, ?_, by simpa using hat⟩
        rw [hp, Nat.add_assoc, Nat.add_comm 1 j]
    · rintro ⟨j, rest, hp, hat⟩
      cases j with
      | zero => exact .inl ⟨rest, by simpa using hp, by simpa using hat⟩
      | succ j =>
        refine .inr ⟨j, rest, ?_, by simpa using hat⟩
        rw [hp, Nat.add_assoc, Nat.add_comm 1 j]
end

theorem elementAt_append (x : Xml) (path rest : List Nat) :
    x.elementAt (path ++ rest) = (x.elementAt path).bind (·.elementAt rest) := by
  induction path generalizing x with
  | nil =>
    cases x with
    | text content => simp [Xml.elementAt]
    | element ns name attrs children => rfl
  | cons i path ih =>
    cases x with
    | text content => simp [Xml.elementAt]
    | element ns name attrs children =>
      simp only [List.cons_append, Xml.elementAt]
      cases children[i]? with
      | none => rfl
      | some child => exact ih child

/-- The elements inside an element are those whose position extends its own. -/
theorem mem_located_inside {root x y : Xml} {path p : List Nat}
    (hx : (path, x) ∈ root.located []) (hy : (p, y) ∈ root.located []) :
    (p, y) ∈ x.located path ↔ path <+: p := by
  obtain ⟨path', rfl, hpath⟩ := (mem_located root [] path x).mp hx
  obtain ⟨p', rfl, hp⟩ := (mem_located root [] p y).mp hy
  rw [mem_located]
  constructor
  · rintro ⟨rest, rfl, -⟩
    exact List.prefix_append _ _
  · rintro ⟨rest, rfl⟩
    refine ⟨rest, rfl, ?_⟩
    rw [elementAt_append, hpath] at hp
    exact hp

/-- The URIs of the References that a signature's `SignedInfo` lists. -/
def referenceUris (signature : Xml) : List (Option String) :=
  match signature.children.find? (Xml.isElement xmlDsigNs "SignedInfo") with
  | none => []
  | some info =>
    (info.children.filter (Xml.isElement xmlDsigNs "Reference")).map (·.plainAttr "URI")

/-- What a Reference names: without a URI or with an empty one the whole document, with a
fragment the element of that Id. -/
def named (root : Xml) (uri : Option String) : Option (List Nat × Xml) :=
  match (uri.getD "").toList with
  | [] => some ([], root)
  | '#' :: id => (root.located []).find? fun r => r.2.plainAttr "Id" = some (String.ofList id)
  | _ => none

/-- The elements whose digests the signature fixes. -/
def coveredPart (root signature : Xml) : List (List Nat × Xml) :=
  (referenceUris signature).flatMap fun uri => match named root uri with
    | none => []
    | some (path, x) => x.located path

/-- The position lies at or below that of an element a Reference names. -/
def UnderReference (root signature : Xml) (path : List Nat) : Prop :=
  ∃ uri ∈ referenceUris signature, ∃ r, named root uri = some r ∧ r.1 <+: path

/-- An element of the query of `get_measurements`. -/
def isResource (x : Xml) : Bool :=
  x.isElement iso19770Ns "Resource" ∧ x.plainAttr "type" = some "Measurement"

/-- The resource is the source of one of the golden measurements. -/
def TurnedInto (ms : Measurements) (x : Xml) : Prop :=
  isResource x = true ∧ ∃ m ∈ ms.measurements, Golden x m.index m.values

/-- An element of the query of `get_version`. -/
def hasVersion (x : Xml) : Bool :=
  x.isElement iso19770Ns "Meta" ∧ (x.plainAttr "colloquialVersion").isSome

/-- The `Meta` that `get_version` reads. -/
def versionSource (root : Xml) : Option (List Nat × Xml) :=
  (root.located []).find? fun r => hasVersion r.2

/-- The first signature of a document, the one that `verify_signature` checks. -/
def RimDocument.Signed (rim : RimDocument) (root signature : Xml) : Prop :=
  rim.doc = some root ∧ root.elements.find? (Xml.isElement xmlDsigNs "Signature") = some signature

/-- All values read from the document come from elements that the signature covers. -/
structure ValuesSigned (rim : RimDocument) (root signature : Xml) : Prop where
  measurements : ∀ ms, rim.getMeasurements = .ok ms → ∀ r ∈ root.located [],
    TurnedInto ms r.2 → r ∈ coveredPart root signature
  version : ∀ v, rim.getVersion = .ok v → ∀ r, versionSource root = some r →
    r ∈ coveredPart root signature

/-- Above or at every active resource, and the first `Meta` with a version, there is an element
that a Reference names. -/
structure ValuesUnderReferences (rim : RimDocument) (root signature : Xml) : Prop where
  resources : (∃ ms, rim.getMeasurements = .ok ms) → ∀ r ∈ root.located [],
    isResource r.2 = true → r.2.getProp "active" = some "True" →
      UnderReference root signature r.1
  version : ∀ r, versionSource root = some r → UnderReference root signature r.1

theorem mem_coveredPart_iff {root signature : Xml} (hroot : ([], root) ∈ root.located [])
    {r : List Nat × Xml} (hr : r ∈ root.located []) :
    r ∈ coveredPart root signature ↔ UnderReference root signature r.1 := by
  have hnamed : ∀ uri q, named root uri = some q → q ∈ root.located [] := by
    intro uri q h
    rw [named] at h
    split at h
    · cases h
      exact hroot
    · exact List.mem_of_find?_eq_some h
    · cases h
  simp only [coveredPart, List.mem_flatMap, UnderReference]
  constructor
  · rintro ⟨uri, huri, hin⟩
    cases hname : named root uri with
    | none => simp [hname] at hin
    | some q =>
      rw [hname] at hin
      exact ⟨uri, huri, q, hname, (mem_located_inside (hnamed uri q hname) hr).mp hin⟩
  · rintro ⟨uri, huri, q, hname, hprefix⟩
    refine ⟨uri, huri, ?_⟩
    rw [hname]
    exact (mem_located_inside (hnamed uri q hname) hr).mpr hprefix

theorem root_mem_located {root signature : Xml}
    (h : root.elements.find? (Xml.isElement xmlDsigNs "Signature") = some signature) :
    ([], root) ∈ root.located [] := by
  cases root with
  | text content => simp [Xml.elements] at h
  | element ns name attrs children =>
    rw [Xml.located]
    exact List.mem_cons_self

/-- The resources of a document are its located resources. -/
theorem mem_resources {rim : RimDocument} {root : Xml} (hdoc : rim.doc = some root)
    {r : List Nat × Xml} (hr : r ∈ root.located []) (hresource : isResource r.2 = true) :
    r.2 ∈ rim.resources := by
  rw [RimDocument.resources, RimDocument.select, hdoc]
  refine List.mem_filter.mpr ⟨?_, hresource⟩
  rw [← map_located [] root]
  exact List.mem_map.mpr ⟨r, hr, rfl⟩

/-- Where all resources are read, the active ones are the sources of the measurements. -/
theorem turnedInto_iff {rim : RimDocument} {ms : Measurements}
    (h : rim.getMeasurements = .ok ms) {x : Xml} (hx : x ∈ rim.resources)
    (hresource : isResource x = true) :
    TurnedInto ms x ↔ x.getProp "active" = some "True" := by
  constructor
  · rintro ⟨-, m, -, hgolden⟩
    exact hgolden.1
  · intro hactive
    have hstated := (getMeasurements_ok h).2 x hx
    have hgolden : ∃ index alternatives, Golden x index alternatives := by
      rw [RimDocument.getMeasurements] at h
      split at h
      · cases h
      · refine ExceptRules.foldlM_each (Q := fun y _ => y.getProp "active" = some "True" →
          ∃ index alternatives, Golden y index alternatives) ?_ ?_ h x hx hactive
        · intro _ y _ hstep hyActive
          cases addResource_ok hstep with
          | inl hinactive => exact absurd hyActive hinactive.1
          | inr hadded =>
            obtain ⟨m, hm, -⟩ := hadded
            exact ⟨_, _, hm⟩
        · exact fun _ _ _ _ hq _ => hq
    obtain ⟨index, alternatives, hgolden⟩ := hgolden
    obtain ⟨m, hm, rfl, rfl⟩ := hstated index alternatives hgolden
    exact ⟨hresource, m, hm, hgolden⟩

theorem getProp_of_hasVersion {x : Xml} (h : hasVersion x = true) :
    ∃ v, x.getProp "colloquialVersion" = some v := by
  have hsome := (of_decide_eq_true h).2
  apply Option.isSome_iff_exists.mp
  simp only [Xml.plainAttr, Xml.getProp, Option.isSome_map, List.find?_isSome] at hsome ⊢
  obtain ⟨a, ha, hname⟩ := hsome
  exact ⟨a, ha, decide_eq_true (of_decide_eq_true hname).1⟩

theorem getVersion_of_source {rim : RimDocument} {root : Xml} (hdoc : rim.doc = some root)
    {r : List Nat × Xml} (h : versionSource root = some r) : ∃ v, rim.getVersion = .ok v := by
  have hfind : root.elements.find? hasVersion = some r.2 := by
    rw [← map_located [] root, List.find?_map]
    exact congrArg (Option.map Prod.snd) h
  obtain ⟨v, hv⟩ := getProp_of_hasVersion (List.find?_some hfind)
  have hselect : (rim.select hasVersion).head? = some r.2 := by
    rw [RimDocument.select, hdoc]
    exact List.head?_filter.trans hfind
  refine ⟨v, ?_⟩
  cases hnodes : rim.select hasVersion with
  | nil =>
    rw [hnodes] at hselect
    cases hselect
  | cons node rest =>
    rw [hnodes] at hselect
    cases hselect
    rw [RimDocument.getVersion]
    change (match rim.select hasVersion with
      | [] => _
      | node :: _ => _) = _
    rw [hnodes]
    simp only [hv]

theorem verifySignature_signed {rim : RimDocument} {xml : XmlLib} {u : Unit}
    (h : rim.verifySignature xml = .ok u) :
    ∃ root signature, rim.Signed root signature ∧ xml.dsigVerify root signature = some true := by
  rw [RimDocument.verifySignature] at h
  split at h
  · cases h
  · next root hdoc =>
    split at h
    · cases h
    · next signature hfind =>
      cases hverify : xml.dsigVerify root signature with
      | none =>
        rw [hverify] at h
        cases h
      | some valid =>
        cases valid with
        | false =>
          rw [hverify] at h
          cases h
        | true => exact ⟨root, signature, ⟨hdoc, hfind⟩, hverify⟩

theorem generateRimClaims_signed {σ : Type} {x509 : X509Lib} {ocsp : OcspLib} {xml : XmlLib}
    {client : OcspClient σ} {now : Prog Fault σ Int} {unset : CertChainStatus}
    {policy : EvidencePolicy} {rim : RimDocument} {claims : RimClaims} {s s' : σ}
    (h : rim.generateRimClaims x509 ocsp xml client now unset policy s = (.ok claims, s'))
    (hverified : claims.signatureVerified = true) : rim.verifySignature xml = .ok () := by
  obtain ⟨chainClaims, s₁, _, h⟩ := bind_eq_ok.mp h
  split at h
  · obtain ⟨u, s₂, hverify, _⟩ := bind_eq_ok.mp h
    exact lift_ok hverify
  · cases h
    cases hverified

/-- In a document whose signature is claimed to be verified, all values read lie in the part
that the signature covers exactly when each stands under an element that a Reference of the
first signature names. -/
theorem valuesSigned_iff {σ : Type} {x509 : X509Lib} {ocsp : OcspLib} {xml : XmlLib}
    {client : OcspClient σ} {now : Prog Fault σ Int} {unset : CertChainStatus}
    {policy : EvidencePolicy} {rim : RimDocument} {claims : RimClaims} {s s' : σ}
    (h : rim.generateRimClaims x509 ocsp xml client now unset policy s = (.ok claims, s'))
    (hverified : claims.signatureVerified = true) :
    ∃ root signature, rim.Signed root signature ∧
      xml.dsigVerify root signature = some true ∧
      (ValuesSigned rim root signature ↔ ValuesUnderReferences rim root signature) := by
  obtain ⟨root, signature, hsigned, hverify⟩ :=
    verifySignature_signed (generateRimClaims_signed h hverified)
  have hroot := root_mem_located hsigned.2
  refine ⟨root, signature, hsigned, hverify, ?_, ?_⟩
  · intro hvalues
    refine ⟨?_, fun r hr => ?_⟩
    · rintro ⟨ms, hms⟩ r hr hresource hactive
      have hin := (turnedInto_iff hms (mem_resources hsigned.1 hr hresource) hresource).mpr hactive
      exact (mem_coveredPart_iff hroot hr).mp (hvalues.measurements ms hms r hr hin)
    · obtain ⟨v, hv⟩ := getVersion_of_source hsigned.1 hr
      exact (mem_coveredPart_iff hroot (List.mem_of_find?_eq_some hr)).mp
        (hvalues.version v hv r hr)
  · intro hunder
    refine ⟨fun ms hms r hr hturned => ?_, fun v _ r hr => ?_⟩
    · have hactive := (turnedInto_iff hms (mem_resources hsigned.1 hr hturned.1) hturned.1).mp
        hturned
      exact (mem_coveredPart_iff hroot hr).mpr (hunder.resources ⟨ms, hms⟩ r hr hturned.1 hactive)
    · exact (mem_coveredPart_iff hroot (List.mem_of_find?_eq_some hr)).mpr (hunder.version r hr)

/-- A Reference to the whole document covers every value. -/
theorem valuesUnderReferences_of_whole (rim : RimDocument) {root signature : Xml}
    {uri : Option String} (huri : uri ∈ referenceUris signature)
    (hname : named root uri = some ([], root)) : ValuesUnderReferences rim root signature :=
  ⟨fun _ _ _ _ _ => ⟨uri, huri, _, hname, List.nil_prefix⟩,
    fun _ _ => ⟨uri, huri, _, hname, List.nil_prefix⟩⟩

/-- The digest that a Reference states. -/
def digestValue (reference : Xml) : Option String :=
  (reference.children.find? (Xml.isElement xmlDsigNs "DigestValue")).map Xml.content

/-- Every Reference of the signature states the digest of the element it names. -/
def digestsMatch (digest : Xml → String) (root signature : Xml) : Bool :=
  match signature.children.find? (Xml.isElement xmlDsigNs "SignedInfo") with
  | none => false
  | some info =>
    (info.children.filter (Xml.isElement xmlDsigNs "Reference")).all fun reference =>
      match named root (reference.plainAttr "URI") with
      | none => false
      | some r => digestValue reference = some (digest r.2)

/-- xmlsec verifies the digests of what the References name. -/
def VerifiesDigests (xml : XmlLib) (digest : Xml → String) : Prop :=
  ∀ root signature, xml.dsigVerify root signature = some true →
    digestsMatch digest root signature = true

end AttestationSdk.Rim

namespace AttestationSdk.RimSample
open AttestationSdk.Rim AttestationSdk.GpuSample AttestationSdk.CertChain Effects Prog

/-- The names and attribute values of a tree, one after another. -/
def spelled (x : Xml) : String :=
  x.elements.foldl (fun text y => y.attrs.foldl (fun text a => text ++ a.value) text) ""

/-- The engine checks digests only. -/
def xml : XmlLib := ⟨fun _ => none, fun root signature => some (digestsMatch spelled root signature)⟩

def payload : Xml :=
  .element (some iso19770Ns) "Payload" [⟨none, "Id", "p"⟩] [resource "1" "bb"]

def referenceTo (uri digest : String) : Xml :=
  .element (some xmlDsigNs) "Reference" [⟨none, "URI", uri⟩]
    [.element (some xmlDsigNs) "DigestValue" [] [.text digest]]

def certificates : List Xml :=
  [.element (some xmlDsigNs) "X509Certificate" [] [.text "RIMAAAAA\n"],
    .element (some xmlDsigNs) "X509Certificate" [] [.text rimRootBody]]

def signatureOver (reference : Xml) : Xml :=
  .element (some xmlDsigNs) "Signature" []
    (.element (some xmlDsigNs) "SignedInfo" [] [reference] :: certificates)

def version : Xml :=
  .element (some iso19770Ns) "Meta" [⟨none, "colloquialVersion", "5"⟩] []

/-- A resource beside the payload that the signature covers. -/
def wrappedRoot : Xml :=
  .element (some iso19770Ns) "SoftwareIdentity" [] [version, resource "0" "aaab", payload,
    signatureOver (referenceTo "#p" (spelled payload))]

def wrapped : RimDocument := ⟨"", some wrappedRoot, ""⟩

theorem wrapped_certs :
    wrapped.select (Xml.isElement xmlDsigNs "X509Certificate") = certificates := by
  simp [RimDocument.select, wrapped, wrappedRoot, version, resource, payload, signatureOver,
    referenceTo, certificates, Xml.elements, elementsOf, Xml.isElement, iso_ne_dsig]

theorem wrapped_signed :
    wrapped.Signed wrappedRoot (signatureOver (referenceTo "#p" (spelled payload))) := by
  refine ⟨rfl, ?_⟩
  simp [wrappedRoot, version, resource, payload, signatureOver, referenceTo, Xml.elements,
    elementsOf, Xml.isElement, iso_ne_dsig]

theorem named_payload : named wrappedRoot (some "#p") = some ([2], payload) := by
  simp [named, wrappedRoot, version, resource, payload, Xml.located, locatedOf, Xml.plainAttr,
    Xml.attrs]

theorem referenceUris_over (uri digest : String) :
    referenceUris (signatureOver (referenceTo uri digest)) = [some uri] := by
  simp [referenceUris, signatureOver, referenceTo, Xml.children, Xml.isElement, Xml.plainAttr,
    Xml.attrs]

theorem digestsMatch_over {root x : Xml} {uri : String} {path : List Nat}
    (h : named root (some uri) = some (path, x)) :
    digestsMatch spelled root (signatureOver (referenceTo uri (spelled x))) = true := by
  have huri : (referenceTo uri (spelled x)).plainAttr "URI" = some uri := by
    simp [referenceTo, Xml.plainAttr, Xml.attrs]
  have hdigest : digestValue (referenceTo uri (spelled x)) = some (spelled x) := by
    simp [digestValue, referenceTo, Xml.children, Xml.isElement, Xml.content, contentOf]
  simp [digestsMatch, signatureOver, Xml.children, Xml.isElement, huri, h, hdigest]

/-- The claims of a document with the sample certificates and a signature that is accepted. -/
theorem generateRimClaims_certified {doc : RimDocument} {engine : XmlLib}
    (hcerts : doc.select (Xml.isElement xmlDsigNs "X509Certificate") = certificates)
    (hverify : doc.verifySignature engine = .ok ()) :
    doc.generateRimClaims x509 ocsp engine ocspClient (pure 100) .INVALID {} () =
      (.ok ⟨chainClaims, true⟩, ()) := by
  obtain ⟨rootChars, hroot, hread, hleaf, hbody⟩ := rim_chars
  have hlength : rimRootCert.length = rootChars.length := by rw [← String.length_toList, hroot]
  have htext : rimRootBody.toList = (rootChars.drop 28).take (rootChars.length - 53) := by
    rw [rimRootBody, String.toList_ofList, hroot, hlength]
  have hchain : doc.getCertChain x509 = .ok rimChain := by
    refine getCertChain_two hcerts (create_text hroot hread) hleaf ?_
    rw [String.toList_append, String.toList_append, htext]
    exact hbody
  refine bind_eq_ok.mpr ⟨chainClaims, (), ?_, ?_⟩
  · rw [RimDocument.certChainClaims, if_pos rfl]
    exact bind_eq_ok.mpr ⟨rimChain, (), lift_of_ok hchain, reads.rimChainRead⟩
  · rw [if_pos rfl]
    exact bind_eq_ok.mpr ⟨(), (), lift_of_ok hverify, rfl⟩

/-- The signature of a document is accepted where its digest is that of what it names. -/
theorem verifySignature_over {doc : RimDocument} {root x : Xml} {uri : String} {path : List Nat}
    (hsigned : doc.Signed root (signatureOver (referenceTo uri (spelled x))))
    (hnamed : named root (some uri) = some (path, x)) : doc.verifySignature xml = .ok () := by
  rw [RimDocument.verifySignature, hsigned.1]
  simp only [hsigned.2, xml, digestsMatch_over hnamed]

theorem xml_verifiesDigests : VerifiesDigests xml spelled :=
  fun _ _ h => Option.some.inj h

theorem resource_isResource (index hash : String) : isResource (resource index hash) = true := by
  simp [isResource, resource, Xml.isElement, Xml.plainAttr, Xml.attrs]

theorem wrapped_measurements :
    wrapped.getMeasurements = .ok ⟨[⟨true, 0, 48, 1, [[0xaa, 0xab]], "M"⟩,
      ⟨true, 1, 48, 1, [[0xbb]], "M"⟩]⟩ :=
  ok_of_toOption (by decide +kernel)

/-- A measurement beside the signed payload is read as a golden one. -/
theorem wrapped_measurement_read :
    ¬ ∀ (x509 : X509Lib) (ocsp : Ocsp.OcspLib) (xml : XmlLib) (digest : Xml → String)
      (client : ChainStatus.OcspClient Unit) (now : Prog Fault Unit Int)
      (unset : CertChainStatus) (policy : EvidencePolicy) (rim : RimDocument)
      (claims : RimClaims),
      VerifiesDigests xml digest →
      rim.generateRimClaims x509 ocsp xml client now unset policy () = (.ok claims, ()) →
      claims.signatureVerified = true →
      ∃ root signature, rim.Signed root signature ∧ ValuesSigned rim root signature := by
  intro h
  obtain ⟨root, signature, hsigned, hvalues⟩ := h x509 ocsp xml spelled ocspClient (pure 100)
    .INVALID {} wrapped ⟨chainClaims, true⟩ xml_verifiesDigests
    (generateRimClaims_certified wrapped_certs (verifySignature_over wrapped_signed named_payload))
    rfl
  obtain rfl : wrappedRoot = root := Option.some.inj hsigned.1
  have hsignature := Option.some.inj (wrapped_signed.2.symm.trans hsigned.2)
  subst hsignature
  have hr : (([1], resource "0" "aaab") : List Nat × Xml) ∈ wrappedRoot.located [] :=
    (mem_located _ _ _ _).mpr ⟨[1], rfl, rfl⟩
  have hresource := resource_isResource "0" "aaab"
  have hactive : (resource "0" "aaab").getProp "active" = some "True" := by
    simp [resource, Xml.getProp, Xml.attrs]
  have hturned := (turnedInto_iff wrapped_measurements (mem_resources rfl hr hresource)
    hresource).mpr hactive
  have hin := hvalues.measurements _ wrapped_measurements _ hr hturned
  obtain ⟨uri, huri, r, hname, hprefix⟩ :=
    (mem_coveredPart_iff (root_mem_located wrapped_signed.2) hr).mp hin
  rw [referenceUris_over, List.mem_singleton] at huri
  subst huri
  rw [named_payload] at hname
  cases hname
  exact absurd hprefix (by decide)

/-- A document whose signature names it whole; the digest leaves text out. -/
def wholeRoot (digest : String) : Xml :=
  .element (some iso19770Ns) "SoftwareIdentity" [] [version, resource "0" "aaab",
    signatureOver (referenceTo "" digest)]

def whole : RimDocument := ⟨"", some (wholeRoot (spelled (wholeRoot ""))), ""⟩

theorem whole_certs :
    whole.select (Xml.isElement xmlDsigNs "X509Certificate") = certificates := by
  simp [RimDocument.select, whole, wholeRoot, version, resource, signatureOver, referenceTo,
    certificates, Xml.elements, elementsOf, Xml.isElement, iso_ne_dsig]

theorem whole_signed (digest : String) :
    (⟨"", some (wholeRoot digest), ""⟩ : RimDocument).Signed (wholeRoot digest)
      (signatureOver (referenceTo "" digest)) := by
  refine ⟨rfl, ?_⟩
  simp [wholeRoot, version, resource, signatureOver, referenceTo, Xml.elements, elementsOf,
    Xml.isElement, iso_ne_dsig]

theorem named_whole (root : Xml) : named root (some "") = some ([], root) := by
  simp [named]

/-- A document whose only Reference names it whole has all its values signed. -/
theorem whole_values_signed :
    ∃ root signature, whole.Signed root signature ∧ ValuesSigned whole root signature := by
  have hsigned : whole.Signed (wholeRoot (spelled (wholeRoot "")))
      (signatureOver (referenceTo "" (spelled (wholeRoot (spelled (wholeRoot "")))))) :=
    whole_signed _
  obtain ⟨root, signature, hsigned', _, hiff⟩ := valuesSigned_iff
    (generateRimClaims_certified whole_certs (verifySignature_over hsigned (named_whole _))) rfl
  obtain rfl := Option.some.inj (hsigned.1.symm.trans hsigned'.1)
  obtain rfl := Option.some.inj (hsigned.2.symm.trans hsigned'.2)
  refine ⟨_, _, hsigned, hiff.mpr ?_⟩
  refine valuesUnderReferences_of_whole whole ?_ (named_whole _)
  rw [referenceUris_over]
  exact List.mem_singleton_self _

end AttestationSdk.RimSample
