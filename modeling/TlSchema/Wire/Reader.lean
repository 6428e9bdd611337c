import TlSchema.Text.Utf8
import TlSchema.Wire.Error
import TlSchema.Wire.LittleEndian

/-!
# Reading bytes

A cursor is a place in a sequence of bytes, and a reader moves it forward. Everything is read
through `Reader.bytes`; a reader that fails leaves the cursor where its last successful step has put
it.
-/

namespace TlSchema.Wire

/-- The word that stands for true. -/
def trueWord : UInt32 := 0x997275b5

/-- The word that stands for false. -/
def falseWord : UInt32 := 0xbc799737

/-- The size of the longest string of bytes that can be written. -/
def maxPayload : Nat := 0xFFFFFF

/-- The first byte of a string of bytes whose length takes three more bytes. -/
def longMark : UInt8 := 254

/-- How many bytes are missing to a multiple of four. -/
def padding (size : Nat) : Nat := (4 - size % 4) % 4

/-- A place in a sequence of bytes. -/
structure Cursor where
  /-- The bytes. -/
  data : ByteArray
  /-- How many of them have been read. -/
  index : Nat
  /-- The place is inside the bytes or at their end. -/
  index_le : index ≤ data.size

namespace Cursor

/-- The place before the first byte. -/
def ofBytes (data : ByteArray) : Cursor := ⟨data, 0, Nat.zero_le _⟩

/-- How many bytes are left. -/
def remaining (cursor : Cursor) : Nat := cursor.data.size - cursor.index

/-- The bytes that are left. -/
def rest (cursor : Cursor) : ByteArray := cursor.data.extract cursor.index cursor.data.size

/-- The place `n` bytes further. -/
def skip (cursor : Cursor) (n : Nat) (h : n ≤ cursor.remaining) : Cursor :=
  ⟨cursor.data, cursor.index + n, by
    have := cursor.index_le
    unfold remaining at h
    omega⟩

end Cursor

/-- A computation that reads bytes. -/
abbrev Reader := EStateM WireError Cursor

namespace Reader

/-- Reads `n` bytes. -/
def bytes (n : Nat) : Reader ByteArray := fun cursor =>
  if h : n ≤ cursor.remaining then
    .ok (cursor.data.extract cursor.index (cursor.index + n)) (cursor.skip n h)
  else .error (.underflow n cursor.index cursor.remaining) cursor

/-- Reads a number of `width` bytes. -/
def number (width : Nat) : Reader Nat := do
  let bs ← bytes width
  return LittleEndian.value bs.data.toList

/-- Reads a byte. -/
def byte : Reader UInt8 := do
  return UInt8.ofNat (← number 1)

/-- Reads an unsigned 32-bit word. -/
def uint32 : Reader UInt32 := do
  return UInt32.ofNat (← number 4)

/-- Reads a signed 32-bit integer. -/
def int32 : Reader Int32 := do
  return (← uint32).toInt32

/-- Reads a signed 64-bit integer. -/
def int64 : Reader Int64 := do
  return (UInt64.ofNat (← number 8)).toInt64

/-- Reads a truth value. -/
def bool : Reader Bool := do
  let word ← uint32
  if word = trueWord then return true
  else if word = falseWord then return false
  else throw (.invalidBool word)

/-- Reads the length of a string of bytes, and tells how many bytes the length itself takes. -/
def lengthHeader : Reader (Nat × Nat) := do
  let first ← byte
  if first < longMark then return (first.toNat, 1)
  else return (← number 3, 4)

/-- Reads a string of bytes: its length, the bytes, and the padding to a multiple of four. -/
def payload : Reader ByteArray := do
  let (size, header) ← lengthHeader
  let bs ← bytes size
  let _ ← bytes (padding (size + header))
  return bs

/-- Reads a text. -/
def string : Reader String := do
  return Text.Utf8.decode (← payload)

end Reader

end TlSchema.Wire
