import AttestationSdk.Buffer

/-! SPDM 1.1 measurement requests and responses: `spdm_req.cpp`,
`spdm_resp.cpp`, `spdm_measurement_records.cpp`, `spdm_opaque_data_parser.cpp`.
Every object is parsed into a fresh one. -/
namespace AttestationSdk.Spdm
open DerReader Buffer

def spdmVersion11 : UInt8 := 0x11
def spdmReqCodeGetMeasurements : UInt8 := 0xe0
def spdmResCodeMeasurements : UInt8 := 0x60
def kRequestLength : Nat := 37
def kNonceSize : Nat := 32

/-- The value of a helper that returned true; `false` becomes the caller's code. -/
def orCode {α : Type} (e : Error) (x : Except Fault (Option α)) : Except Fault α := do
  match ← x with
  | some a => .ok a
  | none => .error (.code e)

/-- One byte after `can_read_buffer`. -/
def readByte (e : Error) (data : Bytes) (offset : Nat) : Except Fault UInt8 := do
  require (canReadBuffer data offset 1) e
  byteAt data offset

structure SpdmMeasurementRequestMessage11 where
  spdmVersion : UInt8
  requestResponseCode : UInt8
  param1 : UInt8
  param2 : UInt8
  nonce : Bytes
  slotIdParam : UInt8
  deriving Repr, DecidableEq

/-- `SpdmMeasurementRequestMessage11::parse`. -/
def SpdmMeasurementRequestMessage11.parse (data : Bytes) :
    Except Fault SpdmMeasurementRequestMessage11 := do
  let e := Error.SpdmRequestParseError
  require (data.length = kRequestLength) e
  let spdmVersion ← readByte e data 0
  require (spdmVersion = spdmVersion11) e
  let requestResponseCode ← readByte e data 1
  require (requestResponseCode = spdmReqCodeGetMeasurements) e
  let param1 ← readByte e data 2
  let param2 ← readByte e data 3
  let nonce ← orCode e (checkedCopyN kNonceSize data 4 kNonceSize)
  let slotIdParam ← readByte e data 36
  return { spdmVersion, requestResponseCode, param1, param2, nonce, slotIdParam }

structure DmtfMeasurementBlock where
  type : UInt8
  valueSize : Nat
  value : Bytes
  deriving Repr, DecidableEq

/-- `DmtfMeasurementBlock::parse` at the start of its data: bytes after the value are not read. -/
def DmtfMeasurementBlock.parse (e : Error) (data : Bytes) : Except Fault DmtfMeasurementBlock := do
  let type ← readByte e data 0
  let valueSize ← orCode e (readLittleEndian 65536 data 1 2)
  let value ← orCode e (checkedAssign data 3 valueSize)
  return { type, valueSize, value }

/-- `parse_measurement_block`: the block's index, the block and the new offset. -/
def parseMeasurementBlock (e : Error) (record : Bytes) (offset : Nat) :
    Except Fault (UInt8 × DmtfMeasurementBlock × Nat) := do
  let index ← readByte e record offset
  require (1 ≤ index) e
  let specification ← readByte e record (offset + 1)
  require (specification = 1) e
  let size ← orCode e (readLittleEndian 65536 record (offset + 2) 2)
  let measurement ← orCode e (checkedAssign record (offset + 4) size)
  let block ← DmtfMeasurementBlock.parse e measurement
  return (index, block, offset + 4 + size)

/-- The blocks by index. A later block of an index replaces the earlier one. -/
abbrev Blocks := List (UInt8 × DmtfMeasurementBlock)

def parseBlocks (e : Error) (record : Bytes) : Nat → Nat → Blocks → Except Fault (Blocks × Nat)
  | 0, offset, blocks => .ok (blocks, offset)
  | n + 1, offset, blocks => do
    let (index, block, offset) ← parseMeasurementBlock e record offset
    parseBlocks e record n offset ((index, block) :: blocks.filter (·.1 ≠ index))

/-- `SpdmMeasurementRecordParser::parse`; its `false` becomes the code of the caller. -/
def parseRecord (record : Bytes) (numBlocks : Nat) : Except Fault Blocks := do
  let e := Error.SpdmMeasurementRecordParseError
  require (!(numBlocks = 0 && !record.isEmpty)) e
  require (!(0 < numBlocks && record.isEmpty)) e
  if numBlocks = 0 ∧ record.isEmpty then return [] else do
    let (blocks, offset) ← parseBlocks e record numBlocks 0 []
    require (offset = record.length) e
    return blocks

structure ParsedOpaqueFieldData where
  type : Nat
  data : Bytes
  deriving Repr, DecidableEq

/-- The walk of `OpaqueDataParser::parse` over the fields from an offset on. -/
def opaqueLoop (e : Error) (raw : Bytes) :
    Nat → Nat → List ParsedOpaqueFieldData → Except Fault (List ParsedOpaqueFieldData × Nat)
  | 0, _, _ => .error .outOfFuel
  | fuel + 1, offset, fields =>
    if raw.length ≤ offset then .ok (fields, offset) else do
      let type ← orCode e (readLittleEndian 65536 raw offset 2)
      let size ← orCode e (readLittleEndian 65536 raw (offset + 2) 2)
      let data ← orCode e (checkedAssign raw (offset + 4) size)
      opaqueLoop e raw fuel (offset + 4 + size) (fields ++ [⟨type, data⟩])

/-- `OpaqueDataParser::parse`, whose only error becomes the code of the caller. -/
def parseOpaqueData (raw : Bytes) : Except Fault (List ParsedOpaqueFieldData) := do
  let e := Error.SpdmOpaqueDataParseError
  let (fields, offset) ← opaqueLoop e raw (raw.length + 1) 0 []
  require (offset = raw.length) e
  return fields

structure SpdmMeasurementResponseMessage11 where
  spdmVersion : UInt8
  requestResponseCode : UInt8
  param1 : UInt8
  param2 : UInt8
  numberOfBlocks : UInt8
  measurementRecordLength : Nat
  measurementRecord : Bytes
  measurementBlocks : Blocks
  nonce : Bytes
  opaqueDataLength : Nat
  opaqueData : Bytes
  opaqueFields : List ParsedOpaqueFieldData
  signature : Bytes
  deriving Repr, DecidableEq

/-- `SpdmMeasurementResponseMessage11::parse`. -/
def SpdmMeasurementResponseMessage11.parse (data : Bytes) (signatureLength : Nat) :
    Except Fault SpdmMeasurementResponseMessage11 := do
  let e := Error.SpdmParseError
  let spdmVersion ← readByte e data 0
  require (spdmVersion = spdmVersion11) e
  let requestResponseCode ← readByte e data 1
  require (requestResponseCode = spdmResCodeMeasurements) e
  let param1 ← readByte e data 2
  let param2 ← readByte e data 3
  let numberOfBlocks ← readByte e data 4
  require (numberOfBlocks ≠ 0) e
  let recordLength ← orCode e (readLittleEndian 4294967296 data 5 3)
  let measurementRecord ← orCode e (checkedAssign data 8 recordLength)
  let measurementBlocks ← parseRecord measurementRecord numberOfBlocks.toNat
  let nonceAt := 8 + recordLength
  let nonce ← orCode e (checkedCopyN kNonceSize data nonceAt kNonceSize)
  let opaqueLength ← orCode e (readLittleEndian 65536 data (nonceAt + 32) 2)
  let opaqueData ← orCode e (checkedAssign data (nonceAt + 34) opaqueLength)
  require (!opaqueData.isEmpty) e
  let opaqueFields ← parseOpaqueData opaqueData
  let signatureAt := nonceAt + 34 + opaqueLength
  let signature ← orCode e (checkedAssign data signatureAt signatureLength)
  require (signatureAt + signatureLength = data.length) e
  return {
    spdmVersion, requestResponseCode, param1, param2, numberOfBlocks,
    measurementRecordLength := recordLength, measurementRecord, measurementBlocks, nonce,
    opaqueDataLength := opaqueLength, opaqueData, opaqueFields, signature }

end AttestationSdk.Spdm
