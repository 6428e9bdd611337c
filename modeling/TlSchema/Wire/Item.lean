import TlSchema.Wire.Writer

/-!
# Items on the wire

An item is one value that can be written by itself, and a shape says how to read one back. Items
make sequences and messages.
-/

namespace TlSchema.Wire

/-- A value that can be written by itself. -/
inductive Item where
  /-- A byte. -/
  | byte (b : UInt8)
  /-- Bytes as they are. -/
  | bytes (bs : ByteArray)
  /-- A signed 32-bit integer. -/
  | int32 (n : Int32)
  /-- An unsigned 32-bit word. -/
  | uint32 (word : UInt32)
  /-- A signed 64-bit integer. -/
  | int64 (n : Int64)
  /-- A truth value. -/
  | bool (b : Bool)
  /-- A string of bytes with its length. -/
  | payload (bs : ByteArray)
  /-- A text. -/
  | string (text : String)

/-- What kind of item to read. -/
inductive Shape where
  /-- A byte. -/
  | byte
  /-- A number of bytes as they are. -/
  | bytes (n : Nat)
  /-- A signed 32-bit integer. -/
  | int32
  /-- An unsigned 32-bit word. -/
  | uint32
  /-- A signed 64-bit integer. -/
  | int64
  /-- A truth value. -/
  | bool
  /-- A string of bytes with its length. -/
  | payload
  /-- A text. -/
  | string
  deriving DecidableEq, Repr

/-- The bytes of an item. -/
def Item.encode : Item → Except WireError ByteArray
  | .byte b => .ok [b].toByteArray
  | .bytes bs => .ok bs
  | .int32 n => .ok (int32Bytes n)
  | .uint32 word => .ok (uint32Bytes word)
  | .int64 n => .ok (int64Bytes n)
  | .bool b => .ok (boolBytes b)
  | .payload bs => payloadBytes bs
  | .string text => stringBytes text

/-- The shape of an item. -/
def Item.shape : Item → Shape
  | .byte _ => .byte
  | .bytes bs => .bytes bs.size
  | .int32 _ => .int32
  | .uint32 _ => .uint32
  | .int64 _ => .int64
  | .bool _ => .bool
  | .payload _ => .payload
  | .string _ => .string

/-- Reads an item. -/
def Shape.read : Shape → Reader Item
  | .byte => .byte <$> Reader.byte
  | .bytes n => .bytes <$> Reader.bytes n
  | .int32 => .int32 <$> Reader.int32
  | .uint32 => .uint32 <$> Reader.uint32
  | .int64 => .int64 <$> Reader.int64
  | .bool => .bool <$> Reader.bool
  | .payload => .payload <$> Reader.payload
  | .string => .string <$> Reader.string

/-- Writes an item. -/
def Item.write (item : Item) : Writer Unit := Writer.putResult item.encode

/-- The bytes of a message: the number of its constructor and then its items. -/
def messageBytes (constructorId : UInt32) (items : List Item) : Except WireError ByteArray :=
  let write : Writer Unit := do
    Item.write (.uint32 constructorId)
    items.forM Item.write
  match write ByteArray.empty with
  | .ok () out => .ok out
  | .error e _ => .error e

end TlSchema.Wire
