import AttestationSdk.Spdm

/-! The opaque fields of GPU and NVSwitch reports: `gpu_opaque_data_parser.cpp`
and `switch_opaque_data_parser.cpp`. -/
namespace AttestationSdk.OpaqueData
open AttestationSdk.Spdm Buffer

/-- A parsed field with its active type. -/
inductive ParsedField where
  | byteVector (data : Bytes)
  | uint32Vector (data : List Nat)
  | pdiVector (data : List Bytes)
  | portVector (data : List Bytes)
  deriving Repr, DecidableEq

/-- The fields by type number. -/
abbrev Fields := List (Nat × ParsedField)

def setField (fields : Fields) (type : Nat) (field : ParsedField) : Fields :=
  (type, field) :: fields.filter (·.1 ≠ type)

def getField (fields : Fields) (type : Nat) : Except Fault ParsedField :=
  match fields.lookup type with
  | some field => .ok field
  | none => .error (.code .SpdmFieldNotFound)

def ParsedField.getByteVector : ParsedField → Except Fault Bytes
  | .byteVector data => .ok data
  | _ => .error (.code .SpdmFieldNotFound)

def ParsedField.getPdiVector : ParsedField → Except Fault (List Bytes)
  | .pdiVector data => .ok data
  | _ => .error (.code .SpdmFieldNotFound)

def getBytes (fields : Fields) (type : Nat) : Except Fault Bytes := do
  (← getField fields type).getByteVector

def pdiDataSize : Nat := 8
def msrCountElementSize : Nat := 4

/-- `parse_msr_count_internal`. -/
def parseMsrCount (data : Bytes) : Except Fault (List Nat) := do
  require (data.length % msrCountElementSize = 0) .InternalError
  (List.range (data.length / msrCountElementSize)).mapM fun i =>
    orCode .InternalError (readLittleEndian 4294967296 data (i * msrCountElementSize)
      msrCountElementSize)

/-- `count` elements of `size` bytes. -/
def copyElements (size count : Nat) (data : Bytes) : Except Fault (List Bytes) :=
  (List.range count).mapM fun i => orCode .InternalError (checkedCopyN size data (i * size) size)

namespace Gpu

def DRIVER_VERSION : Nat := 3
def VBIOS_VERSION : Nat := 6
def NVDEC0_STATUS : Nat := 11
def MSRSCNT : Nat := 12
def CHIP_SKU : Nat := 15
def PROJECT : Nat := 17
def PROJECT_SKU : Nat := 18
def FWID : Nat := 20
def SWITCH_PDI : Nat := 22
def OPAQUE_DATA_VERSION : Nat := 34
def CHIP_INFO : Nat := 35
def FEATURE_FLAG : Nat := 36

def isValidGpuOpaqueDataType (type : Nat) : Bool := 1 ≤ type ∧ type ≤ 36

def maxOpaqueDataVersionSize : Nat := 8
def maxOpaqueDataVersion : Nat := 1

/-- `parse_switch_pdis_internal`. -/
def parseSwitchPdis (data : Bytes) : Except Fault (List Bytes) := do
  require (data.length % pdiDataSize = 0) .InternalError
  copyElements pdiDataSize (data.length / pdiDataSize) data

/-- `parse_opaque_data_version`. -/
def parseOpaqueDataVersion (data : Bytes) : Except Fault Nat := do
  require (data.length ≤ maxOpaqueDataVersionSize) .InternalError
  orCode .InternalError (readLittleEndian sizeModulus data 0 data.length)

/-- The first loop of `create`: the last version field counts. -/
def readVersion (version : Nat) (field : ParsedOpaqueFieldData) : Except Fault Nat :=
  if field.type ≠ OPAQUE_DATA_VERSION then .ok version else parseOpaqueDataVersion field.data

def parseField (field : ParsedOpaqueFieldData) : Except Fault ParsedField :=
  if field.type = MSRSCNT then do return .uint32Vector (← parseMsrCount field.data)
  else if field.type = SWITCH_PDI then do return .pdiVector (← parseSwitchPdis field.data)
  else .ok (.byteVector field.data)

def addField (fields : Fields) (field : ParsedOpaqueFieldData) : Except Fault Fields := do
  require (isValidGpuOpaqueDataType field.type) .BadArgument
  return setField fields field.type (← parseField field)

structure GpuOpaqueDataParser where
  fields : Fields
  opaqueDataVersion : Nat
  deriving Repr, DecidableEq

/-- `GpuOpaqueDataParser::create`. -/
def create (opaqueFields : List ParsedOpaqueFieldData) : Except Fault GpuOpaqueDataParser := do
  let version ← opaqueFields.foldlM readVersion 0
  require (version ≤ maxOpaqueDataVersion) .GpuFwNotSupported
  let fields ← opaqueFields.foldlM addField []
  return ⟨fields, version⟩

end Gpu

namespace Switch

def VBIOS_VERSION : Nat := 6
def MSRSCNT : Nat := 12
def FWID : Nat := 20
def DEVICE_PDI : Nat := 22
def DISABLED_PORTS : Nat := 23
def SWITCH_GPU_PDIS : Nat := 26
def SWITCH_PORTS : Nat := 27

def isValidSwitchOpaqueDataType (type : Nat) : Bool := 1 ≤ type ∧ type ≤ 27

def totalNumberOfPdi : Nat := 8

/-- The bytes after the PDIs, one port each. -/
def parsePorts (data : Bytes) : List Bytes :=
  (data.drop (totalNumberOfPdi * pdiDataSize)).map fun b => [b]

/-- `parse_floorswept_ports_internal`: four entries for each bit, the highest first. -/
def parseFloorsweptPorts (data : Bytes) : Bytes :=
  data.flatMap fun b => (List.range 8).flatMap fun i =>
    List.replicate 4 (if (b.toNat >>> (7 - i)) % 2 = 1 then 1 else 0)

def addField (fields : Fields) (field : ParsedOpaqueFieldData) : Except Fault Fields := do
  require (isValidSwitchOpaqueDataType field.type) .BadArgument
  if field.type = MSRSCNT then
    return setField fields field.type (.uint32Vector (← parseMsrCount field.data))
  else if field.type = SWITCH_GPU_PDIS then do
    let pdis ← copyElements pdiDataSize totalNumberOfPdi field.data
    let fields := setField fields SWITCH_PORTS (.portVector (parsePorts field.data))
    return setField fields field.type (.pdiVector pdis)
  else if field.type = DISABLED_PORTS then
    return setField fields field.type (.byteVector (parseFloorsweptPorts field.data))
  else return setField fields field.type (.byteVector field.data)

/-- `SwitchOpaqueDataParser::create`. -/
def create (opaqueFields : List ParsedOpaqueFieldData) : Except Fault Fields :=
  opaqueFields.foldlM addField []

end Switch

end AttestationSdk.OpaqueData
