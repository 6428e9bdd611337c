import TlSchema.Wire.Reader

/-!
# Writing bytes

The bytes of every kind of value, and writers that append them to what has been written before. A
writer that fails keeps what its steps before the failure have written.
-/

namespace TlSchema.Wire

/-! ## Bytes of values -/

/-- The bytes of an unsigned 32-bit word. -/
def uint32Bytes (word : UInt32) : ByteArray := (LittleEndian.bytes 4 word.toNat).toByteArray

/-- The bytes of a signed 32-bit integer. -/
def int32Bytes (n : Int32) : ByteArray := uint32Bytes n.toUInt32

/-- The bytes of a signed 64-bit integer. -/
def int64Bytes (n : Int64) : ByteArray := (LittleEndian.bytes 8 n.toUInt64.toNat).toByteArray

/-- The bytes of a truth value. -/
def boolBytes (b : Bool) : ByteArray := uint32Bytes (if b then trueWord else falseWord)

/-- A number of zero bytes. -/
def zeros (n : Nat) : ByteArray := (List.replicate n 0).toByteArray

/-- The length of a string of `size` bytes, which must not exceed `maxPayload`: one byte for a short
one, and a mark with three bytes for a long one. -/
def lengthBytes (size : Nat) : List UInt8 :=
  if size < longMark.toNat then [UInt8.ofNat size]
  else longMark :: LittleEndian.bytes 3 size

/-- A string of bytes with its length before it and the padding after it. -/
def payloadBytes (payload : ByteArray) : Except WireError ByteArray :=
  if payload.size ≤ maxPayload then
    let header := lengthBytes payload.size
    .ok (header.toByteArray ++ payload ++ zeros (padding (payload.size + header.length)))
  else .error (.lengthOverflow payload.size)

/-- The bytes of a text. -/
def stringBytes (text : String) : Except WireError ByteArray := payloadBytes text.toUTF8

/-! ## Writers -/

/-- A computation that appends to a sequence of bytes. -/
abbrev Writer := EStateM WireError ByteArray

namespace Writer

/-- Appends bytes. -/
def put (bs : ByteArray) : Writer Unit := fun out => .ok () (out ++ bs)

/-- Appends bytes unless there is an error. -/
def putResult (bs : Except WireError ByteArray) : Writer Unit := fun out =>
  match bs with
  | .ok bs => .ok () (out ++ bs)
  | .error e => .error e out

end Writer

end TlSchema.Wire
