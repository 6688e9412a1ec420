import AttestationSdk.OpaqueAcceptance

/-! The types that `get_gpu_opaque_field_type` and `get_switch_opaque_field_type` declare,
and when the stored opaque fields have them. -/
namespace AttestationSdk.OpaqueData
open AttestationSdk.Spdm Buffer ExceptRules FoldRules

/-- `GpuParsedFieldType` and `SwitchParsedFieldType`; only the second has ports. -/
inductive ParsedFieldType where
  | UNINITIALIZED | BYTE_VECTOR | UINT32_VECTOR | PDI_VECTOR | PORT_VECTOR | UNKNOWN
  deriving Repr, DecidableEq

/-- `get_type` of a stored field. -/
def ParsedField.activeType : ParsedField → ParsedFieldType
  | .byteVector _ => .BYTE_VECTOR
  | .uint32Vector _ => .UINT32_VECTOR
  | .pdiVector _ => .PDI_VECTOR
  | .portVector _ => .PORT_VECTOR

namespace Gpu

/-- The table of `get_gpu_opaque_field_type`, by the numbers of `GpuOpaqueDataType`. -/
def expectedTypeMap : List (Nat × ParsedFieldType) := [
  (1, .BYTE_VECTOR), (2, .BYTE_VECTOR), (DRIVER_VERSION, .BYTE_VECTOR), (4, .BYTE_VECTOR),
  (5, .BYTE_VECTOR), (VBIOS_VERSION, .BYTE_VECTOR), (7, .BYTE_VECTOR), (8, .BYTE_VECTOR),
  (9, .BYTE_VECTOR), (10, .BYTE_VECTOR), (NVDEC0_STATUS, .BYTE_VECTOR),
  (MSRSCNT, .UINT32_VECTOR), (13, .BYTE_VECTOR), (14, .BYTE_VECTOR), (CHIP_SKU, .BYTE_VECTOR),
  (16, .BYTE_VECTOR), (PROJECT, .BYTE_VECTOR), (PROJECT_SKU, .BYTE_VECTOR), (19, .BYTE_VECTOR),
  (FWID, .BYTE_VECTOR), (21, .BYTE_VECTOR), (SWITCH_PDI, .PDI_VECTOR), (23, .BYTE_VECTOR),
  (24, .BYTE_VECTOR), (25, .BYTE_VECTOR), (32, .BYTE_VECTOR), (33, .BYTE_VECTOR),
  (OPAQUE_DATA_VERSION, .BYTE_VECTOR), (CHIP_INFO, .BYTE_VECTOR), (FEATURE_FLAG, .BYTE_VECTOR)]

/-- `get_gpu_opaque_field_type`. -/
def getGpuOpaqueFieldType (type : Nat) : ParsedFieldType :=
  (expectedTypeMap.lookup type).getD .UNKNOWN

/-- What the accepted list and the stored fields have to do with each other. -/
structure StoredAsDeclared (fields : List ParsedOpaqueFieldData) (stored : Fields) : Prop where
  declared : ∀ type entry, stored.lookup type = some entry →
    entry.activeType = getGpuOpaqueFieldType type
  lastOfType : ∀ type entry, stored.lookup type = some entry →
    ∃ field, lastOf type fields = some field ∧ entry = decoded field

/-- The numbers between `LOCK_SWITCH_STATUS` and `GPU_LINK_CONN` are accepted and not declared. -/
def Unlisted (type : Nat) : Prop := 26 ≤ type ∧ type ≤ 31

instance (type : Nat) : Decidable (Unlisted type) := inferInstanceAs (Decidable (_ ∧ _))

theorem activeType_decoded (field : ParsedOpaqueFieldData) : (decoded field).activeType =
    if field.type = MSRSCNT then .UINT32_VECTOR
    else if field.type = SWITCH_PDI then .PDI_VECTOR else .BYTE_VECTOR := by
  rw [decoded]
  split
  · rfl
  · split <;> rfl

theorem declared_iff_listed : ∀ type : Fin 37, 1 ≤ type.val →
    ((if type.val = MSRSCNT then ParsedFieldType.UINT32_VECTOR
      else if type.val = SWITCH_PDI then .PDI_VECTOR else .BYTE_VECTOR) =
        getGpuOpaqueFieldType type.val ↔ ¬ (26 ≤ type.val ∧ type.val ≤ 31)) := by
  decide

theorem activeType_iff {field : ParsedOpaqueFieldData}
    (hvalid : isValidGpuOpaqueDataType field.type = true) :
    (decoded field).activeType = getGpuOpaqueFieldType field.type ↔ ¬ Unlisted field.type := by
  obtain ⟨hlow, hhigh⟩ : 1 ≤ field.type ∧ field.type ≤ 36 := of_decide_eq_true hvalid
  rw [activeType_decoded]
  exact declared_iff_listed ⟨field.type, Nat.lt_succ_of_le hhigh⟩ hlow

theorem create_valid {fields : List ParsedOpaqueFieldData} {parser : GpuOpaqueDataParser}
    (h : create fields = .ok parser) :
    ∀ field ∈ fields, isValidGpuOpaqueDataType field.type = true := by
  obtain ⟨-, -, hstored⟩ := create_iff.mp h
  have hstep (stored : Fields) (field : ParsedOpaqueFieldData) (stored' : Fields)
      (hadd : addField stored field = .ok stored') :
      isValidGpuOpaqueDataType field.type = true :=
    (addField_iff.mp hadd).1
  exact foldlM_each hstep (fun _ _ _ _ hvalid _ => hvalid) hstored

theorem stored_lastOf {fields : List ParsedOpaqueFieldData} {parser : GpuOpaqueDataParser}
    (h : create fields = .ok parser) {type : Nat} {entry : ParsedField}
    (hentry : parser.fields.lookup type = some entry) :
    ∃ field, lastOf type fields = some field ∧ entry = decoded field := by
  rw [(create_stored h).2 type] at hentry
  obtain ⟨field, hfield, rfl⟩ := Option.map_eq_some_iff.mp hentry
  exact ⟨field, hfield, rfl⟩

theorem storedAsDeclared_iff {fields : List ParsedOpaqueFieldData} {parser : GpuOpaqueDataParser}
    (h : create fields = .ok parser) :
    StoredAsDeclared fields parser.fields ↔ ∀ field ∈ fields, ¬ Unlisted field.type := by
  have hvalid := create_valid h
  constructor
  · intro hstored field hin
    cases hlast : lastOf field.type fields with
    | none => exact absurd rfl (lastOf_eq_none.mp hlast field hin)
    | some last =>
      obtain ⟨hmem, htype⟩ := of_lastOf hlast
      have hentry := (create_stored h).2 field.type
      rw [hlast, Option.map_some] at hentry
      have hactive := hstored.declared field.type _ hentry
      rw [← htype] at hactive ⊢
      exact (activeType_iff (hvalid last hmem)).mp hactive
  · intro hlisted
    refine ⟨fun type entry hentry => ?_, fun type entry hentry => stored_lastOf h hentry⟩
    obtain ⟨field, hfield, rfl⟩ := stored_lastOf h hentry
    obtain ⟨hmem, rfl⟩ := of_lastOf hfield
    exact (activeType_iff (hvalid field hmem)).mpr (hlisted field hmem)

end Gpu

namespace Switch

/-- The table of `get_switch_opaque_field_type`, by the numbers of `SwitchOpaqueDataType`. -/
def expectedTypeMap : List (Nat × ParsedFieldType) := [
  (1, .BYTE_VECTOR), (2, .BYTE_VECTOR), (3, .BYTE_VECTOR), (4, .BYTE_VECTOR), (5, .BYTE_VECTOR),
  (VBIOS_VERSION, .BYTE_VECTOR), (7, .BYTE_VECTOR), (8, .BYTE_VECTOR), (9, .BYTE_VECTOR),
  (10, .BYTE_VECTOR), (11, .BYTE_VECTOR), (MSRSCNT, .UINT32_VECTOR), (13, .BYTE_VECTOR),
  (14, .BYTE_VECTOR), (15, .BYTE_VECTOR), (16, .BYTE_VECTOR), (17, .BYTE_VECTOR),
  (18, .BYTE_VECTOR), (19, .BYTE_VECTOR), (FWID, .BYTE_VECTOR), (21, .BYTE_VECTOR),
  (DEVICE_PDI, .BYTE_VECTOR), (DISABLED_PORTS, .BYTE_VECTOR), (24, .BYTE_VECTOR),
  (25, .BYTE_VECTOR), (SWITCH_GPU_PDIS, .PDI_VECTOR), (SWITCH_PORTS, .PORT_VECTOR)]

/-- `get_switch_opaque_field_type`. -/
def getSwitchOpaqueFieldType (type : Nat) : ParsedFieldType :=
  (expectedTypeMap.lookup type).getD .UNKNOWN

/-- What a field stands for, by its type. -/
def decoded (field : ParsedOpaqueFieldData) : ParsedField :=
  if field.type = MSRSCNT then
    .uint32Vector ((groupsOf msrCountElementSize field.data).map littleEndian)
  else if field.type = SWITCH_GPU_PDIS then
    .pdiVector (firstGroups pdiDataSize totalNumberOfPdi field.data)
  else if field.type = DISABLED_PORTS then .byteVector (parseFloorsweptPorts field.data)
  else .byteVector field.data

/-- The ports that stand after the PDIs of a field. -/
def portTail (field : ParsedOpaqueFieldData) : ParsedField := .portVector (parsePorts field.data)

structure StoredAsDeclared (fields : List ParsedOpaqueFieldData) (stored : Fields) : Prop where
  declared : ∀ type entry, stored.lookup type = some entry →
    entry.activeType = getSwitchOpaqueFieldType type
  ports : ∀ entry, stored.lookup SWITCH_PORTS = some entry →
    ∃ field, lastOf SWITCH_GPU_PDIS fields = some field ∧ entry = portTail field
  lastOfType : ∀ type entry, type ≠ SWITCH_PORTS → stored.lookup type = some entry →
    ∃ field, lastOf type fields = some field ∧ entry = decoded field

/-- What one field writes: its own entry, and the ports where it holds PDIs. -/
theorem addField_spec {fields fields' : Fields} {field : ParsedOpaqueFieldData}
    (h : addField fields field = .ok fields') : isValidSwitchOpaqueDataType field.type = true ∧
      ∀ type, fields'.lookup type =
        if type = field.type then some (decoded field)
        else if field.type = SWITCH_GPU_PDIS ∧ type = SWITCH_PORTS then some (portTail field)
        else fields.lookup type := by
  obtain ⟨_, hvalid, h⟩ := bind_eq_ok.mp h
  refine ⟨require_ok hvalid, fun type => ?_⟩
  rw [decoded]
  split at h
  · next hmsr =>
    obtain ⟨counts, hcounts, h⟩ := bind_eq_ok.mp h
    obtain ⟨-, rfl⟩ := parseMsrCount_iff.mp hcounts
    have hother : ¬ (field.type = SWITCH_GPU_PDIS ∧ type = SWITCH_PORTS) := by
      rw [hmsr]
      exact fun hboth => absurd hboth.1 (by decide)
    rw [← Except.ok.inj h, lookup_setField, if_pos hmsr, if_neg hother]
  · next hmsr =>
    split at h
    · next hpdis =>
      obtain ⟨pdis, hcopy, h⟩ := bind_eq_ok.mp h
      rw [← Except.ok.inj h, lookup_setField, lookup_setField, if_neg hmsr, if_pos hpdis,
        copyElements_eq hcopy]
      simp only [hpdis, true_and]
      rfl
    · next hpdis =>
      have hother : ¬ (field.type = SWITCH_GPU_PDIS ∧ type = SWITCH_PORTS) :=
        fun hboth => hpdis hboth.1
      rw [if_neg hmsr, if_neg hpdis, if_neg hother]
      split at h
      · next hports => rw [← Except.ok.inj h, lookup_setField, if_pos hports]
      · next hports => rw [← Except.ok.inj h, lookup_setField, if_neg hports]

/-- Apart from the ports, a type holds what its last field stands for. -/
theorem lookup_create {fields : List ParsedOpaqueFieldData} {stored : Fields}
    (h : create fields = .ok stored) {type : Nat} (hother : type ≠ SWITCH_PORTS) :
    stored.lookup type = (lastOf type fields).map decoded := by
  refine foldlM_last_map (v := fun stored : Fields => stored.lookup type)
    (fun b field b' hp hstep => ?_) (fun b field b' hp hstep => ?_) rfl h
  · rw [(addField_spec hstep).2, if_pos (of_decide_eq_true hp).symm]
  · rw [(addField_spec hstep).2, if_neg (Ne.symm (of_decide_eq_false hp)),
      if_neg fun hboth => hother hboth.2]

/-- The fields that write the ports. -/
def writesPorts (field : ParsedOpaqueFieldData) : Bool :=
  field.type = SWITCH_GPU_PDIS ∨ field.type = SWITCH_PORTS

/-- The ports hold what the last field wrote that holds PDIs or is of their own type. -/
theorem lookup_ports {fields : List ParsedOpaqueFieldData} {stored : Fields}
    (h : create fields = .ok stored) : stored.lookup SWITCH_PORTS =
      (fields.findRev? writesPorts).map fun field =>
        if field.type = SWITCH_PORTS then decoded field else portTail field := by
  refine foldlM_last_map (v := fun stored : Fields => stored.lookup SWITCH_PORTS)
    (fun b field b' hp hstep => ?_) (fun b field b' hp hstep => ?_) rfl h
  · rw [(addField_spec hstep).2]
    by_cases hports : field.type = SWITCH_PORTS
    · rw [if_pos hports.symm, if_pos hports]
    · have hpdis := (of_decide_eq_true hp).resolve_right hports
      rw [if_neg (Ne.symm hports), if_pos ⟨hpdis, rfl⟩, if_neg hports]
  · have hneither := not_or.mp (of_decide_eq_false hp)
    rw [(addField_spec hstep).2, if_neg (Ne.symm hneither.2),
      if_neg fun hboth => hneither.1 hboth.1]

theorem activeType_decoded (field : ParsedOpaqueFieldData) : (decoded field).activeType =
    if field.type = MSRSCNT then .UINT32_VECTOR
    else if field.type = SWITCH_GPU_PDIS then .PDI_VECTOR else .BYTE_VECTOR := by
  rw [decoded]
  split
  · rfl
  · split
    · rfl
    · split <;> rfl

theorem declared_of_valid : ∀ type : Fin 28, 1 ≤ type.val → type.val ≠ SWITCH_PORTS →
    (if type.val = MSRSCNT then ParsedFieldType.UINT32_VECTOR
      else if type.val = SWITCH_GPU_PDIS then .PDI_VECTOR else .BYTE_VECTOR) =
        getSwitchOpaqueFieldType type.val := by
  decide

theorem activeType_eq {field : ParsedOpaqueFieldData}
    (hvalid : isValidSwitchOpaqueDataType field.type = true) (hother : field.type ≠ SWITCH_PORTS) :
    (decoded field).activeType = getSwitchOpaqueFieldType field.type := by
  obtain ⟨hlow, hhigh⟩ : 1 ≤ field.type ∧ field.type ≤ 27 := of_decide_eq_true hvalid
  rw [activeType_decoded]
  exact declared_of_valid ⟨field.type, Nat.lt_succ_of_le hhigh⟩ hlow hother

theorem create_valid {fields : List ParsedOpaqueFieldData} {stored : Fields}
    (h : create fields = .ok stored) :
    ∀ field ∈ fields, isValidSwitchOpaqueDataType field.type = true := by
  have hstep (stored : Fields) (field : ParsedOpaqueFieldData) (stored' : Fields)
      (hadd : addField stored field = .ok stored') :
      isValidSwitchOpaqueDataType field.type = true :=
    (addField_spec hadd).1
  exact foldlM_each hstep (fun _ _ _ _ hvalid _ => hvalid) h

/-- No field of the type of the ports stands after the last field of PDIs. -/
def PortsFromPdis (fields : List ParsedOpaqueFieldData) : Prop :=
  ∀ field ∈ fields.findRev? writesPorts, field.type ≠ SWITCH_PORTS

instance (fields : List ParsedOpaqueFieldData) : Decidable (PortsFromPdis fields) :=
  inferInstanceAs (Decidable (∀ field ∈ fields.findRev? writesPorts, field.type ≠ SWITCH_PORTS))

theorem storedAsDeclared_iff {fields : List ParsedOpaqueFieldData} {stored : Fields}
    (h : create fields = .ok stored) :
    StoredAsDeclared fields stored ↔ PortsFromPdis fields := by
  have hports := lookup_ports h
  constructor
  · intro hstored field hfound htype
    rw [hfound, Option.map_some, if_pos htype] at hports
    have hactive := hstored.declared SWITCH_PORTS _ hports
    rw [activeType_decoded, htype] at hactive
    exact absurd hactive (by decide)
  · intro hfrom
    have hlast (type : Nat) (entry : ParsedField) (hother : type ≠ SWITCH_PORTS)
        (hentry : stored.lookup type = some entry) :
        ∃ field, lastOf type fields = some field ∧ entry = decoded field := by
      rw [lookup_create h hother] at hentry
      obtain ⟨field, hfield, rfl⟩ := Option.map_eq_some_iff.mp hentry
      exact ⟨field, hfield, rfl⟩
    have htail (entry : ParsedField) (hentry : stored.lookup SWITCH_PORTS = some entry) :
        ∃ field, lastOf SWITCH_GPU_PDIS fields = some field ∧ entry = portTail field := by
      rw [hports] at hentry
      obtain ⟨field, hfield, rfl⟩ := Option.map_eq_some_iff.mp hentry
      have htype := hfrom field hfield
      have hpdis := (of_decide_eq_true (of_findRev? hfield).2).resolve_right htype
      refine ⟨field, findRev?_of_imp (fun a ha => ?_) hfield (decide_eq_true hpdis), if_neg htype⟩
      exact decide_eq_true (.inl (of_decide_eq_true ha))
    refine ⟨fun type entry hentry => ?_, htail, hlast⟩
    by_cases hother : type = SWITCH_PORTS
    · subst hother
      obtain ⟨field, -, rfl⟩ := htail entry hentry
      rfl
    · obtain ⟨field, hfield, rfl⟩ := hlast type entry hother hentry
      obtain ⟨hmem, rfl⟩ := of_lastOf hfield
      exact activeType_eq (create_valid h field hmem) hother

end Switch

/-- The accepted lists of both devices whose fields are all stored under their declared types. -/
theorem opaque_fields_declared_iff (fields : List ParsedOpaqueFieldData) :
    (∀ parser, Gpu.create fields = .ok parser →
      (Gpu.StoredAsDeclared fields parser.fields ↔ ∀ field ∈ fields, ¬ Gpu.Unlisted field.type)) ∧
    ∀ stored, Switch.create fields = .ok stored →
      (Switch.StoredAsDeclared fields stored ↔ Switch.PortsFromPdis fields) :=
  ⟨fun _ h => Gpu.storedAsDeclared_iff h, fun _ h => Switch.storedAsDeclared_iff h⟩

theorem opaque_fields_declared_iff_samples :
    (∃ parser, Gpu.create [⟨34, [1]⟩, ⟨3, [51]⟩] = .ok parser ∧
      Gpu.StoredAsDeclared [⟨34, [1]⟩, ⟨3, [51]⟩] parser.fields) ∧
    ∃ stored, Switch.create [⟨27, [9]⟩, ⟨26, List.replicate 65 4⟩] = .ok stored ∧
      Switch.StoredAsDeclared [⟨27, [9]⟩, ⟨26, List.replicate 65 4⟩] stored := by
  refine ⟨⟨_, rfl, ?_⟩, ⟨_, rfl, ?_⟩⟩
  · refine ((opaque_fields_declared_iff _).1 _ rfl).mpr ?_
    decide
  · refine ((opaque_fields_declared_iff _).2 _ rfl).mpr ?_
    decide

/-- A field of the type of the ports is stored as bytes, and so is one of an undeclared type. -/
theorem opaque_fields_undeclared :
    (∃ stored, Switch.create [⟨26, List.replicate 65 4⟩, ⟨27, [9]⟩] = .ok stored ∧
      stored.lookup Switch.SWITCH_PORTS = some (.byteVector [9]) ∧
      ¬ Switch.StoredAsDeclared [⟨26, List.replicate 65 4⟩, ⟨27, [9]⟩] stored) ∧
    ∃ parser, Gpu.create [⟨28, [1]⟩] = .ok parser ∧
      parser.fields.lookup 28 = some (.byteVector [1]) ∧
      ¬ Gpu.StoredAsDeclared [⟨28, [1]⟩] parser.fields := by
  refine ⟨⟨_, rfl, rfl, fun h => ?_⟩, ⟨_, rfl, rfl, fun h => ?_⟩⟩
  · exact absurd (h.declared 27 _ rfl) (by decide)
  · exact absurd (h.declared 28 _ rfl) (by decide)

end AttestationSdk.OpaqueData
