import AttestationSdk.Base64Decoding
import AttestationSdk.FoldRules
import AttestationSdk.GpuEvidence
import AttestationSdk.Json
import AttestationSdk.SwitchEvidence

/-! Evidence as JSON, `to_json` and `from_json` of `gpu/evidence.cpp` and `switch/evidence.cpp`,
and which evidence comes back as it was written. -/
namespace AttestationSdk.Evidence
open Base64 Json AttestationSdk.Text ExceptRules FoldRules

/-- `hex_string_to_bytes` as a call: its counter has 32 bits, and where the text is longer than
the counter tells, the loop starts over until memory ends. -/
def readHex (hex : String) : Except Fault Bytes :=
  if 4294967295 ≤ hex.length then .error .exception else .ok (hexStringToBytes hex)

/-- An error code that `to_json` and `from_json` meet is thrown. -/
def orThrow {α : Type} : Except Fault α → Except Fault α
  | .error (.code _) => .error .exception
  | r => r

/-- What `serialize_to_json` and `deserialize_from_json` catch. -/
def caught {α : Type} : Except Fault α → Except Fault α
  | .error .exception => .error (.code .InternalError)
  | r => r

/-- `at(key).get<std::string>()`. -/
def textAt (key : String) (js : Value) : Except Fault String :=
  match js.member? key with
  | some (.str s) => .ok s
  | _ => .error .exception

section Items
variable {ε α : Type} [DecidableEq α]

def evidenceToJson (arch : String) (nonce report : Bytes) (certChain : String) :
    Except Fault Value := do
  let encodedEvidence ← orThrow (encodeBase64 report)
  let encodedCertificate ← orThrow (encodeBase64 (toBytes certChain))
  return object [
    ("arch", .str arch), ("nonce", .str (toHexString nonce)),
    ("evidence", .str encodedEvidence), ("certificate", .str encodedCertificate)]

def evidenceFromJson (decodeBlock : List Char → Option Bytes) (fromString : String → α)
    (unknown : α) (make : α → Bytes → Bytes → String → ε) (js : Value) : Except Fault ε := do
  let architecture := fromString (← textAt "arch" js)
  if architecture = unknown then .error .exception
  else do
    let nonce ← readHex (← textAt "nonce" js)
    let report ← orThrow (decodeBase64 decodeBlock (← textAt "evidence" js))
    let certificate ← orThrow (decodeBase64 decodeBlock (← textAt "certificate" js))
    return make architecture nonce report (ofBytes certificate)

/-- `serialize_to_json` of a list. -/
def serialize (dump : Value → Option String) (toJson : ε → Except Fault Value) (items : List ε) :
    Except Fault String :=
  caught (do
    let elems ← items.mapM toJson
    match dump (.arr elems) with
    | some text => return text
    | none => .error .exception)

/-- `deserialize_from_json` of a list. -/
def deserialize (parse : String → Option Value) (fromJson : Value → Except Fault ε)
    (text : String) : Except Fault (List ε) :=
  caught (match parse text with
    | some (.arr elems) => elems.mapM fromJson
    | _ => .error .exception)

end Items

end AttestationSdk.Evidence

namespace AttestationSdk.Gpu
open Json AttestationSdk.Text AttestationSdk.Evidence

/-- `from_string`, in any letter case. -/
def GpuArchitecture.fromString (archStr : String) : GpuArchitecture :=
  let upperArch := toUpper archStr
  if upperArch = "HOPPER" then .Hopper
  else if upperArch = "BLACKWELL" then .Blackwell
  else .Unknown

namespace GpuEvidence

def toJson (e : GpuEvidence) : Except Fault Value :=
  evidenceToJson e.architecture.toString e.nonce e.attestationReport e.attestationCertChain

def fromJson (decodeBlock : List Char → Option Bytes) : Value → Except Fault GpuEvidence :=
  evidenceFromJson decodeBlock GpuArchitecture.fromString .Unknown .mk

def collectionToJson (dump : Value → Option String) (collection : List GpuEvidence) :
    Except Fault String := serialize dump toJson collection

def collectionFromJson (decodeBlock : List Char → Option Bytes) (parse : String → Option Value)
    (text : String) : Except Fault (List GpuEvidence) :=
  deserialize parse (fromJson decodeBlock) text

end GpuEvidence

end AttestationSdk.Gpu

namespace AttestationSdk.Switch
open Json AttestationSdk.Evidence

def SwitchArchitecture.fromString (archStr : String) : SwitchArchitecture :=
  if archStr = "LS10" then .LS10
  else if archStr = "SV10" then .SV10
  else if archStr = "LR10" then .LR10
  else .Unknown

namespace SwitchEvidence

def toJson (e : SwitchEvidence) : Except Fault Value :=
  evidenceToJson e.architecture.toString e.nonce e.attestationReport e.attestationCertChain

def fromJson (decodeBlock : List Char → Option Bytes) : Value → Except Fault SwitchEvidence :=
  evidenceFromJson decodeBlock SwitchArchitecture.fromString .Unknown .mk

def collectionToJson (dump : Value → Option String) (collection : List SwitchEvidence) :
    Except Fault String := serialize dump toJson collection

def collectionFromJson (decodeBlock : List Char → Option Bytes) (parse : String → Option Value)
    (text : String) : Except Fault (List SwitchEvidence) :=
  deserialize parse (fromJson decodeBlock) text

end SwitchEvidence

end AttestationSdk.Switch

namespace AttestationSdk.Evidence
open Base64 Json AttestationSdk.Text ExceptRules FoldRules

theorem encodeBlock_eq (data : Bytes) : encodeBlock data = encode data := by
  induction data using encode.induct with
  | case1 => rfl
  | case2 a => rfl
  | case3 a b => rfl
  | case4 a b c rest ih => rw [encodeBlock, encode, ih]; rfl

theorem encode_trimmed (data : Bytes) : trimSpace (encode data) = encode data :=
  trimSpace_codes (encode_codes data).1

theorem noSpace_encode (data : Bytes) : (encode data).rtakeWhile isSpace = [] := by
  refine List.rtakeWhile_eq_nil_iff.mpr fun hne => ?_
  rw [not_isSpace_of_isCode ((encode_codes data).1 _ (List.getLast_mem hne))]
  decide

/-- The sizes for which the buffer of `encode_base64` holds the text and its NUL. -/
def EncodableSize (n : Nat) : Prop := n < 1073741824 ∧ n ≠ 0 ∧ n ≠ 1 ∧ n ≠ 2 ∧ n ≠ 4

instance (n : Nat) : Decidable (EncodableSize n) := inferInstanceAs (Decidable (_ ∧ _))

/-- What is encoded is the data up to the length that an `int` holds. -/
theorem encodeBase64_iff {data : Bytes} {text : String} :
    encodeBase64 data = .ok text ↔ EncodableSize (data.length % 4294967296) ∧
      text = String.ofList (encode (data.take (data.length % 4294967296))) := by
  rw [encodeBase64, ← encodeBlock_eq]
  generalize data.length % 4294967296 = len
  have hsize : EncodableSize len ↔ len < 1073741824 ∧ ¬ 2 * len < 4 * ((len + 2) / 3) + 1 := by
    unfold EncodableSize
    omega
  rw [hsize]
  split
  · next hoverflow => exact iff_of_false (fun h => by cases h) (by omega)
  · split
    · next hnegative => exact iff_of_false (fun h => by cases h) (by omega)
    · split
      · next hshort => exact iff_of_false (fun h => by cases h) (by omega)
      · next hlong =>
        rw [Except.ok.injEq, eq_comm]
        exact (and_iff_right ⟨by omega, hlong⟩).symm

section Codec
variable {decodeBlock : List Char → Option Bytes} (hdoc : DecodesBlocks decodeBlock)
include hdoc

/-- The padding that encoding writes is taken off again. -/
theorem decodeBase64_encode {data : Bytes} (hsize : data.length < 1073741824) :
    decodeBase64 decodeBlock (String.ofList (encode data)) = .ok data := by
  obtain ⟨hcodes, hlength⟩ := encode_codes data
  obtain ⟨out, hout⟩ := hdoc.accepts _ hcodes (by omega)
  have hzeros := hdoc.reads _ _ hout
  rw [encode_trimmed] at hzeros
  obtain ⟨p, hp, hpad, hdata⟩ := (decode_iff hzeros).mp (decode_encode data)
  have hbytes := decodeZero_length hzeros
  have hcount : countPadding (encode data) = p := by
    rw [← encode_trimmed] at hpad
    refine (countPadding_trimmed hp hpad ?_).mpr (.inr ?_)
    · rw [encode_trimmed]
      omega
    · rw [noSpace_encode]
      exact hp
  have hpadding : p ≤ out.length := by
    obtain ⟨body, hbody, -⟩ := hpad
    have := congrArg List.length hbody
    rw [List.length_append, List.length_replicate] at this
    omega
  have hlen : (String.ofList (encode data)).length % 4294967296 = (encode data).length := by
    rw [String.length_ofList, hlength]
    omega
  rw [decodeBase64, hlen, String.toList_ofList, List.take_length, hout]
  dsimp only
  rw [if_neg (by omega), hcount, if_neg (by omega), ← hdata]

/-- Bytes survive encoding and decoding exactly where the buffer is large enough. -/
theorem base64_roundtrip_iff {data : Bytes} :
    (∃ text, encodeBase64 data = .ok text ∧ decodeBase64 decodeBlock text = .ok data) ↔
      EncodableSize data.length := by
  constructor
  · intro h
    obtain ⟨text, hencode, hdecode⟩ := h
    obtain ⟨hsize, rfl⟩ := encodeBase64_iff.mp hencode
    have hshort : (data.take (data.length % 4294967296)).length < 1073741824 := by
      have := hsize.1
      rw [List.length_take]
      omega
    rw [decodeBase64_encode hdoc hshort] at hdecode
    have hlength := congrArg List.length (Except.ok.inj hdecode)
    rw [List.length_take] at hlength
    have hsame : data.length % 4294967296 = data.length := by omega
    rwa [hsame] at hsize
  · intro h
    have hsame : data.length % 4294967296 = data.length := Nat.mod_eq_of_lt (by
      have := h.1
      omega)
    refine ⟨String.ofList (encode data), encodeBase64_iff.mpr ?_, decodeBase64_encode hdoc h.1⟩
    rw [hsame, List.take_length]
    exact ⟨h, rfl⟩

/-- What evidence must fit to come back from its JSON. -/
structure Survives (nonce report : Bytes) (certChain : String) : Prop where
  nonce : nonce.length < 2147483648
  report : EncodableSize report.length
  certChain : EncodableSize certChain.length

/-- A text whose characters are bytes. -/
def ByteText (s : String) : Prop := ∀ c ∈ s.toList, c.toNat < 256

instance (s : String) : Decidable (ByteText s) :=
  decidable_of_iff (s.toList.all (·.toNat < 256) = true)
    (by simp only [List.all_eq_true, decide_eq_true_eq]; exact Iff.rfl)

omit hdoc in
theorem ofBytes_toBytes {s : String} (h : ByteText s) : ofBytes (toBytes s) = s := by
  rw [ofBytes, toBytes, List.map_map, ← String.toList_inj, String.toList_ofList]
  refine (List.map_congr_left fun c hc => ?_).trans (List.map_id _)
  have hsmall : c.toNat % 2 ^ 8 = c.toNat := Nat.mod_eq_of_lt (h c hc)
  rw [Function.comp, UInt8.toNat_ofNat', hsmall, Char.ofNat_toNat, id]

omit hdoc in
theorem toBytes_ofBytes (data : Bytes) : toBytes (ofBytes data) = data := by
  rw [ofBytes, toBytes, String.toList_ofList, List.map_map]
  refine (List.map_congr_left fun b _ => ?_).trans (List.map_id _)
  rw [Function.comp, toNat_charOf, UInt8.ofNat_toNat, id]

omit hdoc in
theorem readHex_toHexString {nonce : Bytes} :
    readHex (toHexString nonce) = .ok nonce ↔ nonce.length < 2147483648 := by
  have hlength : (toHexString nonce).length = 2 * nonce.length := by
    rw [← String.length_toList, toHexString_length]
  rw [readHex, hlength, hexStringToBytes_toHexString]
  split
  · next hlong => exact iff_of_false (fun h => by cases h) (by omega)
  · next hfits => exact iff_of_true rfl (by omega)

omit hdoc in
theorem orThrow_ok {γ : Type} {x : Except Fault γ} {a : γ} : orThrow x = .ok a ↔ x = .ok a := by
  unfold orThrow
  split
  · exact iff_of_false (fun h => by cases h) (fun h => by cases h)
  · exact Iff.rfl

omit hdoc in
theorem caught_ok {γ : Type} {x : Except Fault γ} {a : γ} : caught x = .ok a ↔ x = .ok a := by
  unfold caught
  split
  · exact iff_of_false (fun h => by cases h) (fun h => by cases h)
  · exact Iff.rfl

section Items
variable {ε α : Type} [DecidableEq α] {fromString : String → α} {unknown a : α}
  {make : α → Bytes → Bytes → String → ε} {arch certChain : String} {nonce report : Bytes}

omit hdoc in
theorem evidenceToJson_iff {js : Value} : evidenceToJson arch nonce report certChain = .ok js ↔
    ∃ encoded certificate, encodeBase64 report = .ok encoded ∧
      encodeBase64 (toBytes certChain) = .ok certificate ∧ js = object [
        ("arch", .str arch), ("nonce", .str (toHexString nonce)),
        ("evidence", .str encoded), ("certificate", .str certificate)] := by
  rw [evidenceToJson, bind_eq_ok]
  constructor
  · intro h
    obtain ⟨encoded, hencoded, h⟩ := h
    obtain ⟨certificate, hcertificate, h⟩ := bind_eq_ok.mp h
    exact ⟨encoded, certificate, orThrow_ok.mp hencoded, orThrow_ok.mp hcertificate,
      (Except.ok.inj h).symm⟩
  · intro h
    obtain ⟨encoded, certificate, hencoded, hcertificate, rfl⟩ := h
    exact ⟨encoded, orThrow_ok.mpr hencoded, bind_eq_ok.mpr
      ⟨certificate, orThrow_ok.mpr hcertificate, rfl⟩⟩

omit hdoc in
theorem evidenceFromJson_iff {js : Value} {e : ε} :
    evidenceFromJson decodeBlock fromString unknown make js = .ok e ↔
      ∃ archStr nonceStr evidenceStr certificateStr nonce report certificate,
        textAt "arch" js = .ok archStr ∧ fromString archStr ≠ unknown ∧
        textAt "nonce" js = .ok nonceStr ∧ readHex nonceStr = .ok nonce ∧
        textAt "evidence" js = .ok evidenceStr ∧
        decodeBase64 decodeBlock evidenceStr = .ok report ∧
        textAt "certificate" js = .ok certificateStr ∧
        decodeBase64 decodeBlock certificateStr = .ok certificate ∧
        e = make (fromString archStr) nonce report (ofBytes certificate) := by
  rw [evidenceFromJson, bind_eq_ok]
  constructor
  · intro h
    obtain ⟨archStr, harch, h⟩ := h
    dsimp only at h
    split at h
    · cases h
    · next hknown =>
      obtain ⟨nonceStr, hnonceStr, h⟩ := bind_eq_ok.mp h
      obtain ⟨nonce, hnonce, h⟩ := bind_eq_ok.mp h
      obtain ⟨evidenceStr, hevidenceStr, h⟩ := bind_eq_ok.mp h
      obtain ⟨report, hreport, h⟩ := bind_eq_ok.mp h
      obtain ⟨certificateStr, hcertificateStr, h⟩ := bind_eq_ok.mp h
      obtain ⟨certificate, hcertificate, h⟩ := bind_eq_ok.mp h
      exact ⟨archStr, nonceStr, evidenceStr, certificateStr, nonce, report, certificate, harch,
        hknown, hnonceStr, hnonce, hevidenceStr, orThrow_ok.mp hreport, hcertificateStr,
        orThrow_ok.mp hcertificate, (Except.ok.inj h).symm⟩
  · intro h
    obtain ⟨archStr, nonceStr, evidenceStr, certificateStr, nonce, report, certificate, harch,
      hknown, hnonceStr, hnonce, hevidenceStr, hreport, hcertificateStr, hcertificate, rfl⟩ := h
    refine ⟨archStr, harch, ?_⟩
    dsimp only
    rw [if_neg hknown]
    refine bind_eq_ok.mpr ⟨nonceStr, hnonceStr, bind_eq_ok.mpr ⟨nonce, hnonce, ?_⟩⟩
    refine bind_eq_ok.mpr ⟨evidenceStr, hevidenceStr, bind_eq_ok.mpr
      ⟨report, orThrow_ok.mpr hreport, ?_⟩⟩
    exact bind_eq_ok.mpr ⟨certificateStr, hcertificateStr, bind_eq_ok.mpr
      ⟨certificate, orThrow_ok.mpr hcertificate, rfl⟩⟩

/-- One item comes back from its JSON exactly where its parts come back from their texts. -/
theorem item_survives_iff (hknown : fromString arch = a) (ha : a ≠ unknown)
    (hmake : ∀ n n' r r' c c', make a n r c = make a n' r' c' → n = n' ∧ r = r' ∧ c = c')
    (hchain : ByteText certChain) :
    (∃ js, evidenceToJson arch nonce report certChain = .ok js ∧
      evidenceFromJson decodeBlock fromString unknown make js =
        .ok (make a nonce report certChain)) ↔ Survives nonce report certChain := by
  have hlength : (toBytes certChain).length = certChain.length := by
    rw [toBytes, List.length_map, String.length_toList]
  constructor
  · intro h
    obtain ⟨js, hto, hfrom⟩ := h
    obtain ⟨encoded, certificate, hencoded, hcertificate, rfl⟩ := evidenceToJson_iff.mp hto
    obtain ⟨archStr, nonceStr, evidenceStr, certificateStr, n, r, c, harch, -, hnonceStr, hn,
      hevidenceStr, hr, hcertificateStr, hc, hsame⟩ := evidenceFromJson_iff.mp hfrom
    simp only [textAt, member?_object] at harch hnonceStr hevidenceStr hcertificateStr
    cases harch
    cases hnonceStr
    cases hevidenceStr
    cases hcertificateStr
    rw [hknown] at hsame
    obtain ⟨rfl, rfl, hchainSame⟩ := hmake _ _ _ _ _ _ hsame
    rw [hchainSame, toBytes_ofBytes] at hcertificate
    refine ⟨readHex_toHexString.mp hn, (base64_roundtrip_iff hdoc).mp ⟨_, hencoded, hr⟩, ?_⟩
    rw [← hlength, hchainSame, toBytes_ofBytes]
    exact (base64_roundtrip_iff hdoc).mp ⟨_, hcertificate, hc⟩
  · intro h
    obtain ⟨encoded, hencoded, hr⟩ := (base64_roundtrip_iff hdoc).mpr h.report
    obtain ⟨certificate, hcertificate, hc⟩ :=
      (base64_roundtrip_iff hdoc).mpr
        (hlength ▸ h.certChain : EncodableSize (toBytes certChain).length)
    refine ⟨_, evidenceToJson_iff.mpr ⟨encoded, certificate, hencoded, hcertificate, rfl⟩, ?_⟩
    refine evidenceFromJson_iff.mpr ⟨arch, toHexString nonce, encoded, certificate, nonce, report,
      toBytes certChain, ?_, hknown ▸ ha, ?_, readHex_toHexString.mpr h.nonce, ?_, hr, ?_, hc, ?_⟩
    · rw [textAt, member?_object]
      rfl
    · rw [textAt, member?_object]
      rfl
    · rw [textAt, member?_object]
      rfl
    · rw [textAt, member?_object]
      rfl
    · rw [hknown, ofBytes_toBytes hchain]

end Items

end Codec

/-- The JSON library writes the value and reads it back. -/
def WritesBack (dump : Value → Option String) (parse : String → Option Value) (js : Value) : Prop :=
  ∃ text, dump js = some text ∧ parse text = some js

theorem serialize_iff {ε : Type} {dump : Value → Option String} {toJson : ε → Except Fault Value}
    {items : List ε} {text : String} : serialize dump toJson items = .ok text ↔
      ∃ elems, items.mapM toJson = .ok elems ∧ dump (.arr elems) = some text := by
  rw [serialize, caught_ok, bind_eq_ok]
  refine exists_congr fun elems => and_congr_right fun _ => ?_
  split
  · next text' hdump => rw [hdump, pure_eq_ok, Except.ok.injEq, Option.some.injEq]
  · next hdump =>
    rw [hdump]
    exact iff_of_false (fun h => by cases h) (fun h => by cases h)

theorem deserialize_iff {ε : Type} {parse : String → Option Value}
    {fromJson : Value → Except Fault ε} {items : List ε} {text : String} :
    deserialize parse fromJson text = .ok items ↔
      ∃ elems, parse text = some (.arr elems) ∧ elems.mapM fromJson = .ok items := by
  rw [deserialize, caught_ok]
  split
  · next elems hparse =>
    constructor
    · exact fun h => ⟨elems, hparse, h⟩
    · intro h
      obtain ⟨elems', hsame, h⟩ := h
      rw [hparse] at hsame
      cases hsame
      exact h
  · next hother =>
    refine iff_of_false (fun h => by cases h) fun h => ?_
    obtain ⟨elems, hparse, -⟩ := h
    exact hother elems hparse

/-- A list comes back from its JSON where each of its items does. -/
theorem collection_survives_iff {ε : Type} {dump : Value → Option String}
    {parse : String → Option Value} {toJson : ε → Except Fault Value}
    {fromJson : Value → Except Fault ε} {items : List ε}
    (hjson : ∀ elems, items.mapM toJson = .ok elems → WritesBack dump parse (.arr elems)) :
    (∃ text, serialize dump toJson items = .ok text ∧ deserialize parse fromJson text = .ok items) ↔
      ∀ e ∈ items, ∃ js, toJson e = .ok js ∧ fromJson js = .ok e := by
  rw [← mapM_roundtrip_iff]
  simp only [serialize_iff, deserialize_iff]
  constructor
  · intro h
    obtain ⟨text, ⟨elems, hto, hdump⟩, elems', hparse, hfrom⟩ := h
    obtain ⟨text', hdump', hparse'⟩ := hjson elems hto
    obtain rfl := Option.some.inj (hdump.symm.trans hdump')
    cases hparse.symm.trans hparse'
    exact ⟨elems, hto, hfrom⟩
  · intro h
    obtain ⟨elems, hto, hfrom⟩ := h
    obtain ⟨text, hdump, hparse⟩ := hjson elems hto
    exact ⟨text, ⟨elems, hto, hdump⟩, elems, hparse, hfrom⟩

section Devices
open AttestationSdk.Gpu AttestationSdk.Switch

/-- Evidence of an architecture that has a name, with a chain of bytes. -/
def GpuWritable (e : GpuEvidence) : Prop :=
  (e.architecture = .Hopper ∨ e.architecture = .Blackwell) ∧ ByteText e.attestationCertChain

def SwitchWritable (e : SwitchEvidence) : Prop :=
  e.architecture ≠ .Unknown ∧ ByteText e.attestationCertChain

variable {decodeBlock : List Char → Option Bytes} {dump : Value → Option String}
  {parse : String → Option Value}

theorem gpu_survives_iff (hdoc : DecodesBlocks decodeBlock) {e : GpuEvidence} (h : GpuWritable e) :
    (∃ js, e.toJson = .ok js ∧ GpuEvidence.fromJson decodeBlock js = .ok e) ↔
      Survives e.nonce e.attestationReport e.attestationCertChain := by
  have hname : GpuArchitecture.fromString e.architecture.toString = e.architecture := by
    have hupper : toUpper "HOPPER" = "HOPPER" ∧ toUpper "BLACKWELL" = "BLACKWELL" := by
      simp only [toUpper, ← String.toList_inj, String.toList_map]
      decide
    cases h.1 with
    | inl hhopper =>
      rw [hhopper, GpuArchitecture.toString, GpuArchitecture.fromString, hupper.1]
      rfl
    | inr hblackwell =>
      rw [hblackwell, GpuArchitecture.toString, GpuArchitecture.fromString, hupper.2]
      rfl
  refine item_survives_iff hdoc hname ?_ (fun _ _ _ _ _ _ hmk => ?_) h.2
  · cases h.1 with
    | inl hhopper => rw [hhopper]; decide
    | inr hblackwell => rw [hblackwell]; decide
  · injection hmk with _ hn hr hc
    exact ⟨hn, hr, hc⟩

theorem switch_survives_iff (hdoc : DecodesBlocks decodeBlock) {e : SwitchEvidence}
    (h : SwitchWritable e) :
    (∃ js, e.toJson = .ok js ∧ SwitchEvidence.fromJson decodeBlock js = .ok e) ↔
      Survives e.nonce e.attestationReport e.attestationCertChain := by
  have hname : SwitchArchitecture.fromString e.architecture.toString = e.architecture := by
    generalize e.architecture = arch
    cases arch <;> decide
  refine item_survives_iff hdoc hname h.1 (fun _ _ _ _ _ _ hmk => ?_) h.2
  injection hmk with _ hn hr hc
  exact ⟨hn, hr, hc⟩

/-- A collection comes back as it was written exactly where the sizes of its items fit. -/
theorem evidence_survives_iff (hdoc : DecodesBlocks decodeBlock) :
    (∀ collection : List GpuEvidence, (∀ e ∈ collection, GpuWritable e) →
      (∀ elems, collection.mapM GpuEvidence.toJson = .ok elems →
        WritesBack dump parse (.arr elems)) →
      ((∃ text, GpuEvidence.collectionToJson dump collection = .ok text ∧
          GpuEvidence.collectionFromJson decodeBlock parse text = .ok collection) ↔
        ∀ e ∈ collection, Survives e.nonce e.attestationReport e.attestationCertChain)) ∧
    ∀ collection : List SwitchEvidence, (∀ e ∈ collection, SwitchWritable e) →
      (∀ elems, collection.mapM SwitchEvidence.toJson = .ok elems →
        WritesBack dump parse (.arr elems)) →
      ((∃ text, SwitchEvidence.collectionToJson dump collection = .ok text ∧
          SwitchEvidence.collectionFromJson decodeBlock parse text = .ok collection) ↔
        ∀ e ∈ collection, Survives e.nonce e.attestationReport e.attestationCertChain) := by
  constructor
  · intro collection hwritable hjson
    refine (collection_survives_iff hjson).trans (forall₂_congr fun e he => ?_)
    exact gpu_survives_iff hdoc (hwritable e he)
  · intro collection hwritable hjson
    refine (collection_survives_iff hjson).trans (forall₂_congr fun e he => ?_)
    exact switch_survives_iff hdoc (hwritable e he)

/-- The text of a document of one item, written and read. -/
def sampleText (arch : String) : String :=
  "[\x7b\"arch\":\"" ++ arch ++
    "\",\"certificate\":\"UEVN\",\"evidence\":\"TWFu\",\"nonce\":\"0aff\"\x7d]"

def sampleItem (arch : String) : Value := object [
  ("arch", .str arch), ("nonce", .str "0aff"), ("evidence", .str "TWFu"),
  ("certificate", .str "UEVN")]

def sampleDump (arch : String) (_ : Value) : Option String := some (sampleText arch)

def sampleParse (arch text : String) : Option Value :=
  if text = sampleText arch then some (.arr [sampleItem arch]) else none

def sampleGpu : GpuEvidence := ⟨.Hopper, [10, 255], [77, 97, 110], "PEM"⟩

def sampleSwitch : SwitchEvidence := ⟨.LR10, [10, 255], [77, 97, 110], "PEM"⟩

theorem sample_writesBack {arch : String} {elems : List Value} (h : elems = [sampleItem arch]) :
    WritesBack (sampleDump arch) (sampleParse arch) (.arr elems) :=
  ⟨sampleText arch, rfl, by rw [h, sampleParse, if_pos rfl]⟩

theorem evidence_survives_iff_samples :
    (∃ text, GpuEvidence.collectionToJson (sampleDump "HOPPER") [sampleGpu] = .ok text ∧
      GpuEvidence.collectionFromJson documentedBlock (sampleParse "HOPPER") text =
        .ok [sampleGpu]) ∧
    ∃ text, SwitchEvidence.collectionToJson (sampleDump "LR10") [sampleSwitch] = .ok text ∧
      SwitchEvidence.collectionFromJson documentedBlock (sampleParse "LR10") text =
        .ok [sampleSwitch] := by
  constructor
  · refine ((evidence_survives_iff documentedBlock_decodes).1 [sampleGpu] ?_ ?_).mpr ?_
    · exact List.forall_mem_singleton.mpr ⟨.inl rfl, by decide⟩
    · exact fun elems h => sample_writesBack (Except.ok.inj (h.symm.trans rfl))
    · exact List.forall_mem_singleton.mpr ⟨by decide, by decide, by decide⟩
  · refine ((evidence_survives_iff documentedBlock_decodes).2 [sampleSwitch] ?_ ?_).mpr ?_
    · exact List.forall_mem_singleton.mpr ⟨by decide, by decide⟩
    · exact fun elems h => sample_writesBack (Except.ok.inj (h.symm.trans rfl))
    · exact List.forall_mem_singleton.mpr ⟨by decide, by decide, by decide⟩

/-- Its report takes eight characters and a NUL, and the buffer has eight. -/
def fourByteGpu : GpuEvidence := { sampleGpu with attestationReport := [1, 2, 3, 4] }

theorem evidence_overruns_buffer : GpuWritable fourByteGpu ∧
    GpuEvidence.collectionToJson (sampleDump "HOPPER") [fourByteGpu] = .error .undefined ∧
    ¬ ∃ text, GpuEvidence.collectionToJson (sampleDump "HOPPER") [fourByteGpu] = .ok text ∧
      GpuEvidence.collectionFromJson documentedBlock (sampleParse "HOPPER") text =
        .ok [fourByteGpu] := by
  refine ⟨⟨.inl rfl, by decide⟩, rfl, fun h => ?_⟩
  obtain ⟨text, hwritten, -⟩ := h
  cases hwritten

end Devices

end AttestationSdk.Evidence
