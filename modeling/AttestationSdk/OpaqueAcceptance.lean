import AttestationSdk.Effects
import AttestationSdk.FoldRules
import AttestationSdk.KeyedList
import AttestationSdk.OpaqueData
import AttestationSdk.SpdmLayout

/-! Which opaque fields of a GPU report `GpuOpaqueDataParser::create` accepts and what it stores. -/
namespace AttestationSdk.Buffer

/-- The first groups of `size` bytes of some data, in order. -/
def firstGroups (size count : Nat) (data : Bytes) : List Bytes :=
  (List.range count).map fun i => (data.drop (i * size)).take size

/-- All the whole groups of `size` bytes. -/
def groupsOf (size : Nat) (data : Bytes) : List Bytes := firstGroups size (data.length / size) data

theorem firstGroups_flatten (size count : Nat) (data : Bytes) :
    (firstGroups size count data).flatten = data.take (count * size) := by
  rw [firstGroups, ← List.flatMap_def]
  induction count with
  | zero => simp
  | succ count ih =>
    rw [List.range_succ, List.flatMap_append, ih, List.flatMap_singleton, Nat.succ_mul,
      List.take_add]

/-- Where the size divides the length, the groups are all the data. -/
theorem groupsOf_flatten {size : Nat} {data : Bytes} (h : data.length % size = 0) :
    (groupsOf size data).flatten = data := by
  have hlength : data.length / size * size = data.length :=
    Nat.div_mul_cancel (Nat.dvd_of_mod_eq_zero h)
  rw [groupsOf, firstGroups_flatten, hlength, List.take_length]

theorem group_le {size i : Nat} {data : Bytes} (h : i < data.length / size) :
    i * size + size ≤ data.length := by
  have hle : (i + 1) * size ≤ data.length / size * size := Nat.mul_le_mul_right size h
  have hdiv := Nat.div_mul_le_self data.length size
  rw [Nat.succ_mul] at hle
  omega

theorem groupsOf_length {size : Nat} {data group : Bytes} (h : group ∈ groupsOf size data) :
    group.length = size := by
  obtain ⟨i, hi, rfl⟩ := List.mem_map.mp h
  have hle := group_le (List.mem_range.mp hi)
  rw [List.length_take, List.length_drop]
  omega

/-- A read inside the buffer, of no more bytes than the type has. -/
theorem readLittleEndian_of_le {size offset width : Nat} {data : Bytes}
    (hshift : width ≤ if size = sizeModulus then 8 else 4) (hsize : 256 ^ width ≤ size)
    (hle : offset + width ≤ data.length) :
    readLittleEndian size data offset width =
      .ok (some (littleEndian ((data.drop offset).take width))) := by
  have hlength : ((data.drop offset).take width).length = width := by
    rw [List.length_take, List.length_drop]
    omega
  have hlt := littleEndian_lt ((data.drop offset).take width)
  rw [hlength] at hlt
  rw [readLittleEndian, canReadBuffer_of_le hle, if_neg (by decide), if_neg (Nat.not_lt.mpr hshift),
    slice, if_pos hle, ExceptRules.ok_bind, Nat.mod_eq_of_lt (by omega)]
  rfl

end AttestationSdk.Buffer

namespace AttestationSdk.OpaqueData
open AttestationSdk.Spdm Buffer ByteLayout ExceptRules FoldRules KeyedList

theorem lookup_setField (fields : Fields) (type key : Nat) (field : ParsedField) :
    (setField fields type field).lookup key =
      if key = type then some field else fields.lookup key := by
  rw [setField]
  split
  · next h => rw [h, List.lookup_cons_self]
  · next h => rw [lookup_cons_of_ne h, lookup_filter_ne h]

/-- The last field of a type. -/
def lastOf (type : Nat) (fields : List ParsedOpaqueFieldData) : Option ParsedOpaqueFieldData :=
  fields.findRev? (·.type = type)

theorem of_lastOf {type : Nat} {fields : List ParsedOpaqueFieldData} {field : ParsedOpaqueFieldData}
    (h : lastOf type fields = some field) : field ∈ fields ∧ field.type = type :=
  ⟨(of_findRev? h).1, of_decide_eq_true (of_findRev? h).2⟩

theorem lastOf_eq_none {type : Nat} {fields : List ParsedOpaqueFieldData} :
    lastOf type fields = none ↔ ∀ field ∈ fields, field.type ≠ type := by
  rw [lastOf, findRev?_eq_none]
  simp only [decide_eq_false_iff_not, ne_eq]

theorem parseMsrCount_iff {data : Bytes} {counts : List Nat} :
    parseMsrCount data = .ok counts ↔ data.length % msrCountElementSize = 0 ∧
      counts = (groupsOf msrCountElementSize data).map littleEndian := by
  have hwords : ((List.range (data.length / msrCountElementSize)).mapM fun i =>
      orCode .InternalError (readLittleEndian 4294967296 data (i * msrCountElementSize)
        msrCountElementSize)) = .ok ((groupsOf msrCountElementSize data).map littleEndian) := by
    rw [groupsOf, firstGroups, List.map_map]
    refine mapM_of_each fun i hi => ?_
    exact orCode_iff.mpr (readLittleEndian_of_le (by decide) (by decide)
      (group_le (List.mem_range.mp hi)))
  rw [parseMsrCount, bind_eq_ok]
  simp only [hwords, require_iff, decide_eq_true_eq, exists_const, Except.ok.injEq]
  exact and_congr_right fun _ => eq_comm

/-- An element that is copied is the group at its place. -/
theorem copyElement_eq {size i : Nat} {data element : Bytes}
    (h : orCode .InternalError (checkedCopyN size data (i * size) size) = .ok element) :
    element = (data.drop (i * size)).take size := by
  obtain ⟨hat, hlength, -⟩ := checkedCopyN_iff.mp (orCode_iff.mp h)
  rw [← hlength]
  exact hlength ▸ hat.eq_slice

theorem copyElements_eq {size count : Nat} {data : Bytes} {elements : List Bytes}
    (h : copyElements size count data = .ok elements) :
    elements = firstGroups size count data :=
  mapM_eq_map (fun _ _ _ => copyElement_eq) h

namespace Gpu

theorem parseSwitchPdis_eq {data : Bytes} {pdis : List Bytes}
    (h : parseSwitchPdis data = .ok pdis) :
    data.length % pdiDataSize = 0 ∧ pdis = groupsOf pdiDataSize data := by
  obtain ⟨_, hsize, hcopy⟩ := bind_eq_ok.mp h
  exact ⟨of_decide_eq_true (require_ok hsize), copyElements_eq hcopy⟩

/-- What a field stands for, by its type. -/
def decoded (field : ParsedOpaqueFieldData) : ParsedField :=
  if field.type = MSRSCNT then
    .uint32Vector ((groupsOf msrCountElementSize field.data).map littleEndian)
  else if field.type = SWITCH_PDI then .pdiVector (groupsOf pdiDataSize field.data)
  else .byteVector field.data

/-- The lengths that the decoders of single types ask for. -/
def LengthFits (field : ParsedOpaqueFieldData) : Prop :=
  (field.type = MSRSCNT → field.data.length % msrCountElementSize = 0) ∧
    (field.type = SWITCH_PDI → field.data.length % pdiDataSize = 0)

theorem parseField_eq {field : ParsedOpaqueFieldData} {entry : ParsedField}
    (h : parseField field = .ok entry) : LengthFits field ∧ entry = decoded field := by
  rw [parseField] at h
  rw [LengthFits, decoded]
  split at h
  · next hmsr =>
    obtain ⟨counts, hcounts, hentry⟩ := bind_eq_ok.mp h
    obtain ⟨hlength, rfl⟩ := parseMsrCount_iff.mp hcounts
    refine ⟨⟨fun _ => hlength, fun hpdi => ?_⟩, ?_⟩
    · rw [hmsr] at hpdi
      cases hpdi
    · rw [if_pos hmsr]
      exact (Except.ok.inj hentry).symm
  · next hmsr =>
    split at h
    · next hpdi =>
      obtain ⟨pdis, hpdis, hentry⟩ := bind_eq_ok.mp h
      obtain ⟨hlength, rfl⟩ := parseSwitchPdis_eq hpdis
      refine ⟨⟨fun hmsr' => absurd hmsr' hmsr, fun _ => hlength⟩, ?_⟩
      rw [if_neg hmsr, if_pos hpdi]
      exact (Except.ok.inj hentry).symm
    · next hpdi =>
      refine ⟨⟨fun hmsr' => absurd hmsr' hmsr, fun hpdi' => absurd hpdi' hpdi⟩, ?_⟩
      rw [if_neg hmsr, if_neg hpdi]
      exact (Except.ok.inj h).symm

/-- What a `std::vector` of bytes can hold. -/
def Held (field : ParsedOpaqueFieldData) : Prop := field.data.length < differenceBound

instance (field : ParsedOpaqueFieldData) : Decidable (Held field) := Nat.decLt _ _

theorem parseSwitchPdis_groups {data : Bytes} (hheld : data.length < differenceBound)
    (hlength : data.length % pdiDataSize = 0) :
    parseSwitchPdis data = .ok (groupsOf pdiDataSize data) := by
  have hcopy : copyElements pdiDataSize (data.length / pdiDataSize) data =
      .ok (groupsOf pdiDataSize data) := by
    refine mapM_of_each fun i hi => orCode_iff.mpr (checkedCopyN_iff.mpr ?_)
    have hle := group_le (List.mem_range.mp hi)
    have hgroup : ((data.drop (i * pdiDataSize)).take pdiDataSize).length = pdiDataSize := by
      rw [List.length_take, List.length_drop]
      omega
    exact ⟨fieldAt_slice hle, hgroup, by omega, by decide⟩
  exact bind_eq_ok.mpr ⟨(), require_iff.mpr (decide_eq_true hlength), hcopy⟩

theorem parseField_decoded {field : ParsedOpaqueFieldData} (hheld : Held field)
    (hfits : LengthFits field) : parseField field = .ok (decoded field) := by
  rw [parseField, decoded]
  split
  · next hmsr =>
    rw [parseMsrCount_iff.mpr ⟨hfits.1 hmsr, rfl⟩]
    rfl
  · split
    · next hpdi =>
      rw [parseSwitchPdis_groups hheld (hfits.2 hpdi)]
      rfl
    · rfl

theorem parseOpaqueDataVersion_iff {data : Bytes} {version : Nat} :
    parseOpaqueDataVersion data = .ok version ↔
      data.length ≤ maxOpaqueDataVersionSize ∧ version = littleEndian data := by
  have hread (hlength : data.length ≤ 8) :
      orCode .InternalError (readLittleEndian sizeModulus data 0 data.length) =
        .ok (littleEndian data) := by
    have hsize : 256 ^ data.length ≤ sizeModulus := by
      rw [sizeModulus, show 18446744073709551616 = 256 ^ 8 by decide]
      exact Nat.pow_le_pow_right (by decide) hlength
    have h : readLittleEndian sizeModulus data 0 data.length =
        .ok (some (littleEndian ((data.drop 0).take data.length))) :=
      readLittleEndian_of_le hlength hsize (Nat.zero_add _).le
    rw [List.drop_zero, List.take_length] at h
    exact orCode_iff.mpr h
  rw [parseOpaqueDataVersion, bind_eq_ok]
  constructor
  · intro h
    obtain ⟨_, hlength, hversion⟩ := h
    have hle : data.length ≤ 8 := of_decide_eq_true (require_ok hlength)
    rw [hread hle] at hversion
    exact ⟨hle, (Except.ok.inj hversion).symm⟩
  · intro h
    exact ⟨(), require_iff.mpr (decide_eq_true h.1), h.2 ▸ hread h.1⟩

/-- The version of the last version field, zero where there is none. -/
def versionOf (fields : List ParsedOpaqueFieldData) : Nat :=
  ((lastOf OPAQUE_DATA_VERSION fields).map fun field => littleEndian field.data).getD 0

structure Acceptable (fields : List ParsedOpaqueFieldData) : Prop where
  types : ∀ field ∈ fields, 1 ≤ field.type ∧ field.type ≤ 36
  msrCounts : ∀ field ∈ fields, field.type = MSRSCNT → field.data.length % 4 = 0
  switchPdis : ∀ field ∈ fields, field.type = SWITCH_PDI → field.data.length % 8 = 0
  versions : ∀ field ∈ fields, field.type = OPAQUE_DATA_VERSION → field.data.length ≤ 8
  supported : versionOf fields ≤ 1

theorem readVersion_succeeds (version : Nat) (field : ParsedOpaqueFieldData) :
    (∃ version', readVersion version field = .ok version') ↔
      (field.type = OPAQUE_DATA_VERSION → field.data.length ≤ maxOpaqueDataVersionSize) := by
  rw [readVersion]
  split
  · next hother => exact ⟨fun _ h => absurd h hother, fun _ => ⟨version, rfl⟩⟩
  · next hsame =>
    simp only [parseOpaqueDataVersion_iff, exists_and_left, exists_eq, and_true]
    exact ⟨fun h _ => h, fun h => h (not_not.mp hsame)⟩

theorem readVersions_eq {fields : List ParsedOpaqueFieldData} {version : Nat}
    (h : fields.foldlM readVersion 0 = .ok version) : version = versionOf fields := by
  have hlast := foldlM_last (p := fun field => field.type = OPAQUE_DATA_VERSION) (v := id)
    (R := fun field version => version = littleEndian field.data) (fun b field b' hp hstep => ?_)
    (fun b field b' hp hstep => ?_) h
  · rw [versionOf]
    cases hfound : lastOf OPAQUE_DATA_VERSION fields with
    | some field => exact hlast.1 field hfound
    | none => exact hlast.2 hfound
  · rw [readVersion, if_neg (not_not.mpr (of_decide_eq_true hp))] at hstep
    exact (parseOpaqueDataVersion_iff.mp hstep).2
  · rw [readVersion, if_pos (of_decide_eq_false hp)] at hstep
    exact (Except.ok.inj hstep).symm

theorem addField_iff {fields fields' : Fields} {field : ParsedOpaqueFieldData} :
    addField fields field = .ok fields' ↔ isValidGpuOpaqueDataType field.type = true ∧
      ∃ entry, parseField field = .ok entry ∧ fields' = setField fields field.type entry := by
  rw [addField, bind_eq_ok]
  simp only [require_iff, bind_eq_ok, exists_and_left, exists_const, pure_eq_ok, Except.ok.injEq]
  exact and_congr_right fun _ => exists_congr fun _ => and_congr_right fun _ => eq_comm

theorem addField_succeeds {field : ParsedOpaqueFieldData} (hheld : Held field) (fields : Fields) :
    (∃ fields', addField fields field = .ok fields') ↔
      isValidGpuOpaqueDataType field.type = true ∧ LengthFits field := by
  simp only [addField_iff]
  constructor
  · intro h
    obtain ⟨_, hvalid, entry, hentry, -⟩ := h
    exact ⟨hvalid, (parseField_eq hentry).1⟩
  · intro h
    exact ⟨_, h.1, decoded field, parseField_decoded hheld h.2, rfl⟩

/-- Under every type stands what the last field of that type stands for. -/
theorem lookup_addFields {fields : List ParsedOpaqueFieldData} {stored : Fields}
    (h : fields.foldlM addField [] = .ok stored) (type : Nat) :
    stored.lookup type = (lastOf type fields).map decoded := by
  refine foldlM_last_map (v := fun stored : Fields => stored.lookup type)
    (fun b field b' hp hstep => ?_) (fun b field b' hp hstep => ?_) rfl h
  · obtain ⟨-, entry, hentry, rfl⟩ := addField_iff.mp hstep
    rw [lookup_setField, if_pos (of_decide_eq_true hp).symm, (parseField_eq hentry).2]
  · obtain ⟨-, entry, -, rfl⟩ := addField_iff.mp hstep
    rw [lookup_setField, if_neg (Ne.symm (of_decide_eq_false hp))]

theorem create_iff {fields : List ParsedOpaqueFieldData} {parser : GpuOpaqueDataParser} :
    create fields = .ok parser ↔ fields.foldlM readVersion 0 = .ok parser.opaqueDataVersion ∧
      parser.opaqueDataVersion ≤ maxOpaqueDataVersion ∧
      fields.foldlM addField [] = .ok parser.fields := by
  rw [create, bind_eq_ok]
  constructor
  · intro h
    obtain ⟨version, hversion, h⟩ := h
    obtain ⟨_, hsupported, h⟩ := bind_eq_ok.mp h
    obtain ⟨stored, hstored, h⟩ := bind_eq_ok.mp h
    obtain rfl := Except.ok.inj h
    exact ⟨hversion, of_decide_eq_true (require_ok hsupported), hstored⟩
  · intro h
    refine ⟨_, h.1, bind_eq_ok.mpr ⟨(), require_iff.mpr (decide_eq_true h.2.1), ?_⟩⟩
    exact bind_eq_ok.mpr ⟨_, h.2.2, rfl⟩

/-- What `create` has stored when it succeeds. -/
theorem create_stored {fields : List ParsedOpaqueFieldData} {parser : GpuOpaqueDataParser}
    (h : create fields = .ok parser) : parser.opaqueDataVersion = versionOf fields ∧
      ∀ type, parser.fields.lookup type = (lastOf type fields).map decoded := by
  obtain ⟨hversion, -, hstored⟩ := create_iff.mp h
  exact ⟨readVersions_eq hversion, lookup_addFields hstored⟩

theorem create_succeeds_iff {fields : List ParsedOpaqueFieldData}
    (hheld : ∀ field ∈ fields, Held field) :
    (∃ parser, create fields = .ok parser) ↔ Acceptable fields := by
  have hversions := foldlM_succeeds_iff (l := fields)
    (fun field _ version => readVersion_succeeds version field) 0
  have hfields := foldlM_succeeds_iff (fun field hin => addField_succeeds (hheld field hin)) []
  constructor
  · intro h
    obtain ⟨parser, hparser⟩ := h
    obtain ⟨hversion, hsupported, hstored⟩ := create_iff.mp hparser
    have hvalid := hfields.mp ⟨_, hstored⟩
    exact {
      types := fun field hin => of_decide_eq_true (hvalid field hin).1
      msrCounts := fun field hin => (hvalid field hin).2.1
      switchPdis := fun field hin => (hvalid field hin).2.2
      versions := hversions.mp ⟨_, hversion⟩
      supported := readVersions_eq hversion ▸ hsupported }
  · intro h
    obtain ⟨version, hversion⟩ := hversions.mpr h.versions
    obtain ⟨stored, hstored⟩ := hfields.mpr fun field hin =>
      ⟨decide_eq_true (h.types field hin), h.msrCounts field hin, h.switchPdis field hin⟩
    exact ⟨⟨stored, version⟩, create_iff.mpr
      ⟨hversion, (readVersions_eq hversion).symm ▸ h.supported, hstored⟩⟩

section OutParser
open Effects

/-- One turn of the second loop of `create` on the parser it fills. -/
def storeField (field : ParsedOpaqueFieldData) : Prog Fault GpuOpaqueDataParser Unit :=
  fun parser =>
    match addField parser.fields field with
    | .ok fields => (.ok (), { parser with fields })
    | .error f => (.error f, parser)

def storeFields : List ParsedOpaqueFieldData → Prog Fault GpuOpaqueDataParser Unit
  | [] => pure ()
  | field :: rest => do
    storeField field
    storeFields rest

def clearFields : Prog Fault GpuOpaqueDataParser Unit := fun parser =>
  (.ok (), { parser with fields := [] })

def setVersion (version : Nat) : Prog Fault GpuOpaqueDataParser Unit := fun parser =>
  (.ok (), { parser with opaqueDataVersion := version })

/-- `GpuOpaqueDataParser::create` with the parser it is handed: the fields are cleared
first, the version is set between the loops, and what is stored stays when a field fails. -/
def createInto (opaqueFields : List ParsedOpaqueFieldData) :
    Prog Fault GpuOpaqueDataParser Unit := do
  clearFields
  let version ← Prog.lift (opaqueFields.foldlM readVersion 0)
  Prog.lift (require (version ≤ maxOpaqueDataVersion) .GpuFwNotSupported)
  setVersion version
  storeFields opaqueFields

theorem storeFields_run (fields : List ParsedOpaqueFieldData) (parser : GpuOpaqueDataParser) :
    (storeFields fields parser).1 = (fields.foldlM addField parser.fields).map (fun _ => ()) ∧
      ∀ stored, fields.foldlM addField parser.fields = .ok stored →
        (storeFields fields parser).2 = { parser with fields := stored } := by
  induction fields generalizing parser with
  | nil =>
    refine ⟨rfl, fun stored h => ?_⟩
    cases h
    rfl
  | cons field rest ih =>
    rw [List.foldlM_cons]
    cases hadd : addField parser.fields field with
    | ok fields =>
      have hstore : storeField field parser = (.ok (), { parser with fields }) := by
        rw [storeField, hadd]
      rw [storeFields, Prog.bind_of_ok hstore]
      exact ih { parser with fields }
    | error f =>
      have hstore : storeField field parser = (.error f, parser) := by
        rw [storeField, hadd]
      rw [storeFields, Prog.bind_of_error hstore]
      refine ⟨rfl, fun stored h => ?_⟩
      cases h

/-- The code and, after success, the parser are those of `create`. -/
theorem createInto_run (fields : List ParsedOpaqueFieldData) (before : GpuOpaqueDataParser) :
    (createInto fields before).1 = (create fields).map (fun _ => ()) ∧
      ∀ parser, create fields = .ok parser → (createInto fields before).2 = parser := by
  have hclear : clearFields before = (.ok (), ⟨[], before.opaqueDataVersion⟩) := rfl
  rw [createInto, create, Prog.bind_of_ok hclear]
  cases hversion : fields.foldlM readVersion 0 with
  | error f => exact ⟨rfl, fun parser h => by cases h⟩
  | ok version =>
    rw [Prog.bind_of_ok (Prog.lift_iff.mpr ⟨rfl, rfl⟩), ok_bind]
    cases hsupported : require (version ≤ maxOpaqueDataVersion) .GpuFwNotSupported with
    | error f => exact ⟨rfl, fun parser h => by cases h⟩
    | ok _ =>
      have hset : setVersion version ⟨[], before.opaqueDataVersion⟩ = (.ok (), ⟨[], version⟩) := rfl
      rw [Prog.bind_of_ok (Prog.lift_iff.mpr ⟨rfl, rfl⟩), Prog.bind_of_ok hset, ok_bind]
      obtain ⟨hcode, hparser⟩ := storeFields_run fields ⟨[], version⟩
      cases hstored : fields.foldlM addField [] with
      | error f =>
        rw [hcode, hstored]
        exact ⟨rfl, fun parser h => by cases h⟩
      | ok stored =>
        rw [hcode, hstored, hparser stored hstored]
        exact ⟨rfl, fun parser h => Except.ok.inj h⟩

/-- Acceptance depends on types, lengths and the last version alone. What is stored under a type
is what its last field stands for, whatever the parser held before. -/
theorem gpu_opaque_data_exact (fields : List ParsedOpaqueFieldData)
    (hheld : ∀ field ∈ fields, Held field) (before : GpuOpaqueDataParser) :
    ((createInto fields before).1 = .ok () ↔ Acceptable fields) ∧
    ((createInto fields before).1 = .ok () →
      (createInto fields before).2.opaqueDataVersion = versionOf fields ∧
      (∀ type, (createInto fields before).2.fields.lookup type =
        (lastOf type fields).map decoded) ∧
      ∀ other, createInto fields other = createInto fields before) := by
  have hcode (b : GpuOpaqueDataParser) :
      (createInto fields b).1 = .ok () ↔ ∃ parser, create fields = .ok parser := by
    rw [(createInto_run fields b).1]
    cases create fields with
    | error f => simp [Except.map]
    | ok parser => simp [Except.map]
  refine ⟨(hcode before).trans (create_succeeds_iff hheld), fun hok => ?_⟩
  obtain ⟨parser, hparser⟩ := (hcode before).mp hok
  have hafter (b : GpuOpaqueDataParser) : createInto fields b = (.ok (), parser) :=
    Prod.ext ((hcode b).mpr ⟨parser, hparser⟩) ((createInto_run fields b).2 parser hparser)
  have hstored := create_stored hparser
  rw [hafter before]
  exact ⟨hstored.1, hstored.2, hafter⟩

/-- A version between two other fields, into a parser that was used before. -/
theorem gpu_opaque_data_exact_three :
    let fields : List ParsedOpaqueFieldData :=
      [⟨22, [1, 2, 3, 4, 5, 6, 7, 8]⟩, ⟨34, [1]⟩, ⟨12, [2, 1, 0, 0]⟩]
    (createInto fields ⟨[(3, .byteVector [9])], 7⟩).1 = .ok () ∧
      (createInto fields ⟨[(3, .byteVector [9])], 7⟩).2.opaqueDataVersion = 1 ∧
      (createInto fields ⟨[(3, .byteVector [9])], 7⟩).2.fields.lookup MSRSCNT =
        some (.uint32Vector [258]) := by
  intro fields
  obtain ⟨hcode, hstored⟩ :=
    gpu_opaque_data_exact fields (by decide) ⟨[(3, .byteVector [9])], 7⟩
  have hok := hcode.mpr ⟨by decide, by decide, by decide, by decide, by decide⟩
  obtain ⟨hversion, hlookup, -⟩ := hstored hok
  refine ⟨hok, hversion.trans (by decide), (hlookup MSRSCNT).trans (by decide)⟩

end OutParser

end Gpu

end AttestationSdk.OpaqueData
