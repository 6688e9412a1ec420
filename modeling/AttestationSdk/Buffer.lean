import AttestationSdk.DerReader

/-! Checked reads of `utils.h` and `spdm/utils.h`, with `size_t` sums modulo 2^64. -/
namespace AttestationSdk.Buffer
open DerReader

def sizeModulus : Nat := 18446744073709551616

/-- `can_read_buffer`. -/
def canReadBuffer (buffer : Bytes) (startOffset bytesToRead : Nat) : Bool :=
  (startOffset + bytesToRead) % sizeModulus ≤ buffer.length

/-- The bytes between two positions; undefined past the end. -/
def slice (buffer : Bytes) (offset length : Nat) : Except Fault Bytes :=
  if offset + length ≤ buffer.length then .ok ((buffer.drop offset).take length)
  else .error .undefined

/-- `checked_assign`: `none` is `false`. -/
def checkedAssign (source : Bytes) (offset length : Nat) : Except Fault (Option Bytes) :=
  if !canReadBuffer source offset length then .ok none
  else if 9223372036854775808 ≤ offset ∨ 9223372036854775808 ≤ length then .ok none
  else (slice source offset length).map some

/-- `checked_copy_n` into a fresh array of `n` bytes. -/
def checkedCopyN (n : Nat) (source : Bytes) (offset length : Nat) :
    Except Fault (Option Bytes) :=
  if n < length then .ok none
  else (checkedAssign source offset length).map fun
    | none => none
    | some data => some (data ++ List.replicate (n - length) 0)

def littleEndian : Bytes → Nat
  | [] => 0
  | b :: rest => b.toNat + 256 * littleEndian rest

/-- `read_little_endian` into an unsigned type of `size` values. A shift by the
width of the (promoted) type or more is undefined. -/
def readLittleEndian (size : Nat) (buffer : Bytes) (offset numBytes : Nat) :
    Except Fault (Option Nat) :=
  if !canReadBuffer buffer offset numBytes then .ok none
  else if (if size = sizeModulus then 8 else 4) < numBytes then .error .undefined
  else do
    let data ← slice buffer offset numBytes
    return some (littleEndian data % size)

end AttestationSdk.Buffer
