import AttestationSdk.RimDocument
import AttestationSdk.CertChain

/-! What the verifiers read from a RIM: `RimDocument` and `Measurements` of `rim.cpp`. -/
namespace AttestationSdk.Rim
open AttestationSdk.Ocsp AttestationSdk.ChainStatus AttestationSdk.CertChain AttestationSdk.Text
open Effects

/-- libxml2 and xmlsec. -/
structure XmlLib where
  /-- `xmlReadDoc`, with the root element. -/
  readDoc : String → Option Xml
  /-- `xmlSecDSigCtxVerify` on a signature node of a document: the outcome it
  records, where it returns one. -/
  dsigVerify : Xml → Xml → Option Bool

mutual
/-- All elements of a tree in document order. -/
def Xml.elements : Xml → List Xml
  | .text _ => []
  | .element ns name attrs children => .element ns name attrs children :: elementsOf children

def elementsOf : List Xml → List Xml
  | [] => []
  | x :: rest => x.elements ++ elementsOf rest
end

mutual
/-- `xmlNodeGetContent`. -/
def Xml.content : Xml → String
  | .text s => s
  | .element _ _ _ children => contentOf children

def contentOf : List Xml → String
  | [] => ""
  | x :: rest => x.content ++ contentOf rest
end

def Xml.attrs : Xml → List XmlAttr
  | .text _ => []
  | .element _ _ attrs _ => attrs

def Xml.isElement (nsUri name : String) : Xml → Bool
  | .text _ => false
  | .element ns n _ _ => ns = some nsUri ∧ n = name

/-- `xmlGetProp` does not look at the attribute's namespace. -/
def Xml.getProp (x : Xml) (name : String) : Option String :=
  (x.attrs.find? (·.name = name)).map (·.value)

/-- `xmlGetNsProp`. -/
def Xml.getNsProp (x : Xml) (name nsUri : String) : Option String :=
  (x.attrs.find? fun a => a.name = name ∧ a.nsUri = some nsUri).map (·.value)

/-- `@name` in an XPath predicate: the attribute without a namespace. -/
def Xml.plainAttr (x : Xml) (name : String) : Option String :=
  (x.attrs.find? fun a => a.name = name ∧ a.nsUri = none).map (·.value)

def xmlDsigNs : String := "http://www.w3.org/2000/09/xmldsig#"
def iso19770Ns : String := "http://standards.iso.org/iso/19770/-2/2015/schema.xsd"
def xmlEncSha384Ns : String := "http://www.w3.org/2001/04/xmlenc#sha384"
def tcgRimNs : String :=
  "https://trustedcomputinggroup.org/resource/tcg-reference-integrity-manifest-rim-information-model/"

def rimRootCert : String :=
  "-----BEGIN CERTIFICATE-----
MIICKTCCAbCgAwIBAgIQRdrjoA5QN73fh1N17LXicDAKBggqhkjOPQQDAzBFMQsw
CQYDVQQGEwJVUzEPMA0GA1UECgwGTlZJRElBMSUwIwYDVQQDDBxOVklESUEgQ29S
SU0gc2lnbmluZyBSb290IENBMCAXDTIzMDMxNjE1MzczNFoYDzIwNTMwMzA4MTUz
NzM0WjBFMQswCQYDVQQGEwJVUzEPMA0GA1UECgwGTlZJRElBMSUwIwYDVQQDDBxO
VklESUEgQ29SSU0gc2lnbmluZyBSb290IENBMHYwEAYHKoZIzj0CAQYFK4EEACID
YgAEuECyi9vNM+Iw2lfUzyBldHAwaC1HF7TCgp12QcEyUTm3Tagxwr48d55+K2VI
lWYIDk7NlAIQdcV/Ff7euGLI+Qauj93HsSI4WX298PpW54RTgz9tC+Q684caR/BX
WEeZo2MwYTAdBgNVHQ4EFgQUpaXrOPK4ZDAk08DBskn594zeZjAwHwYDVR0jBBgw
FoAUpaXrOPK4ZDAk08DBskn594zeZjAwDwYDVR0TAQH/BAUwAwEB/zAOBgNVHQ8B
Af8EBAMCAQYwCgYIKoZIzj0EAwMDZwAwZAIwHGDyscDP6ihHqRvZlI3eqZ4YkvjE
1duaN84tAHRVgxVMvNrp5Tnom3idHYGW/dskAjATvjIx6VzHm/4e2GiZAyZEIUBD
OKPzp5ei/A0iUZpdvngenDwV8Qa/wGdiTmJ7Bp4=
-----END CERTIFICATE-----"

namespace RimDocument
variable (rim : RimDocument)

/-- The elements an XPath over the document selects, in document order. -/
def select (p : Xml → Bool) : List Xml :=
  match rim.doc with
  | none => []
  | some root => root.elements.filter p

/-- `get_cert_chain`: every `X509Certificate` of the document. -/
def getCertChain (lib : X509Lib) : Except Fault X509CertChain :=
  match rim.select (Xml.isElement xmlDsigNs "X509Certificate") with
  | [] => internalError
  | nodes => do
    let chain ← lib.create .GPU_DRIVER_RIM rimRootCert
    nodes.foldlM (fun chain node => lib.pushBack chain
      ("-----BEGIN CERTIFICATE-----\n" ++ node.content ++ "-----END CERTIFICATE-----")) chain

/-- `get_version`: the version of the first `Meta` that has one. -/
def getVersion : Except Fault String :=
  match rim.select fun x => x.isElement iso19770Ns "Meta" ∧
      (x.plainAttr "colloquialVersion").isSome with
  | [] => .error (.code .RimInvalidSchema)
  | node :: _ => match node.getProp "colloquialVersion" with
    | none => .error (.code .RimInvalidSchema)
    | some version => .ok version

/-- `get_manufacturer_id`: there is exactly one. -/
def getManufacturerId : Except Fault String :=
  match rim.select fun x => x.isElement iso19770Ns "Meta" ∧
      (x.getNsProp "FirmwareManufacturerId" tcgRimNs).isSome with
  | [node] => match node.getNsProp "FirmwareManufacturerId" tcgRimNs with
    | none => .error (.code .RimInvalidSchema)
    | some id => .ok id
  | _ => .error (.code .RimInvalidSchema)

/-- `verify_signature`: the first signature of the document. -/
def verifySignature (lib : XmlLib) : Except Fault Unit :=
  match rim.doc with
  | none => internalError
  | some root =>
    match root.elements.find? (Xml.isElement xmlDsigNs "Signature") with
    | none => .error (.code .RimInvalidSchema)
    | some signature => match lib.dsigVerify root signature with
      | none => internalError
      | some false => .error (.code .RimInvalidSignature)
      | some true => .ok ()

end RimDocument

structure Measurement where
  active : Bool
  index : Int
  size : Int
  count : Int
  values : List Bytes
  name : String
  deriving Repr, DecidableEq

/-- `Measurements`: a map from index to measurement, in index order. -/
structure Measurements where
  measurements : List Measurement := []
  deriving Repr, DecidableEq

namespace Measurements

def insert (m : Measurement) : List Measurement → List Measurement
  | [] => [m]
  | x :: rest => if m.index < x.index then m :: x :: rest else x :: insert m rest

def getMeasurementAtIndex (ms : Measurements) (index : Int) : Except Fault Measurement :=
  match ms.measurements.find? (·.index = index) with
  | some m => .ok m
  | none => .error (.code .RimMeasurementNotFound)

def hasMeasurementAtIndex (ms : Measurements) (index : Int) : Bool :=
  ms.measurements.any (·.index = index)

def getAllIndices (ms : Measurements) : List Int := ms.measurements.map (·.index)

/-- `add_measurement`: one measurement for each index. -/
def addMeasurement (ms : Measurements) (m : Measurement) : Except Fault Measurements :=
  if ms.hasMeasurementAtIndex m.index then .error (.code .RimInvalidSchema)
  else .ok ⟨insert m ms.measurements⟩

end Measurements

def invalidSchema {α : Type} : Except Fault α := .error (.code .RimInvalidSchema)

/-- The hash values `Hash0 .. Hash(n-1)` of a node. -/
def hashValues (node : Xml) : Nat → Except Fault (List Bytes)
  | 0 => .ok []
  | n + 1 => do
    let values ← hashValues node n
    match node.getNsProp ("Hash" ++ toString n) xmlEncSha384Ns with
    | none => invalidSchema
    | some hex => return values ++ [hexStringToBytes hex]

/-- One turn of the loop of `get_measurements`. -/
def addResource (ms : Measurements) (node : Xml) : Except Fault Measurements :=
  match node.getProp "active", node.getProp "index", node.getProp "alternatives",
      node.getProp "name", node.getProp "size" with
  | some active, some index, some alternatives, some name, some size => do
    let index ← stoi index
    let alternatives ← stoi alternatives
    let size ← stoi size
    if active ≠ "True" then return ms else do
      let values ← hashValues node alternatives.toNat
      -- a negative number of alternatives reads no hash and is no size
      if alternatives < 0 then invalidSchema else
        ms.addMeasurement ⟨true, index, size, alternatives, values, name⟩
  | _, _, _, _, _ => invalidSchema

/-- The elements `//Resource[@type='Measurement']`. -/
def RimDocument.resources (rim : RimDocument) : List Xml :=
  rim.select fun x => x.isElement iso19770Ns "Resource" ∧ x.plainAttr "type" = some "Measurement"

/-- `get_measurements`. -/
def RimDocument.getMeasurements (rim : RimDocument) : Except Fault Measurements :=
  match rim.doc with
  | none => internalError
  | some _ => rim.resources.foldlM addResource {}

/-- The options of `EvidencePolicy` that the RIM checks read, and the claims versions. -/
inductive GpuClaimsVersion where
  | V2 | V3
  deriving Repr, DecidableEq

inductive SwitchClaimsVersion where
  | V3
  deriving Repr, DecidableEq

structure EvidencePolicy where
  gpuClaimsVersion : GpuClaimsVersion := .V3
  switchClaimsVersion : SwitchClaimsVersion := .V3
  verifyRimSignature : Bool := true
  verifyRimCertChain : Bool := true
  deriving Repr, DecidableEq

structure RimClaims where
  certChainClaims : CertChainClaims
  signatureVerified : Bool
  deriving Repr, DecidableEq

section RimClaims
variable {σ : Type} (x509 : X509Lib) (ocsp : OcspLib) (xml : XmlLib) (client : OcspClient σ)
  (now : Prog Fault σ Int)

/-- The chain claims of `generate_rim_claims`. Without the chain check they keep the
status that the source leaves unset. -/
def RimDocument.certChainClaims (unset : CertChainStatus) (policy : EvidencePolicy)
    (rim : RimDocument) : Prog Fault σ CertChainClaims :=
  if policy.verifyRimCertChain then do
    let chain ← Prog.lift (rim.getCertChain x509)
    generateCertChainClaims x509 ocsp client now chain
  else pure { status := unset }

/-- `generate_rim_claims`. -/
def RimDocument.generateRimClaims (unset : CertChainStatus) (policy : EvidencePolicy)
    (rim : RimDocument) : Prog Fault σ RimClaims := do
  let claims ← rim.certChainClaims x509 ocsp client now unset policy
  if policy.verifyRimSignature then do
    Prog.lift (rim.verifySignature xml)
    return ⟨claims, true⟩
  else return ⟨claims, false⟩

end RimClaims

end AttestationSdk.Rim
