import TlSchema.Text.Visible

/-!
# Errors of the wire

Why bytes cannot be read or written.
-/

namespace TlSchema

/-- Why bytes cannot be read or written. -/
inductive WireError where
  /-- Fewer bytes are left than are needed. -/
  | underflow (needed offset available : Nat)
  /-- A word that is neither of the two truth values. -/
  | invalidBool (word : UInt32)
  /-- A string of bytes that is longer than a length can say. -/
  | lengthOverflow (size : Nat)
  /-- A constructor that the entry point of a type does not know. -/
  | unrecognizedConstructor (tag : UInt32) (typeName : String)
  /-- A vector in an object of the named type that does not start with the framing tag. -/
  | vectorTagMismatch (found expected : UInt32) (typeName : String)
  deriving DecidableEq, Repr

namespace WireError

/-- The wording of the error. -/
def message : WireError → String
  | .underflow needed offset available =>
    s!"Buffer underflow: needed {needed} byte(s) at offset {offset}, {available} available"
  | .invalidBool word => "Invalid bool constructor 0x" ++ Text.hexWord word
  | .lengthOverflow size => s!"Byte string of {size} bytes exceeds the TL length limit"
  | .unrecognizedConstructor tag typeName =>
    "Can't parse magic 0x" ++ Text.hexWord tag ++ " in " ++ typeName
  | .vectorTagMismatch found expected typeName =>
    "Wrong vector magic 0x" ++ Text.hexWord found ++ " (expected 0x" ++ Text.hexWord expected
      ++ ") in " ++ typeName

/-- The error as a record. -/
def visible : WireError → String
  | .underflow needed offset available =>
    Text.Visible.record "Underflow" [("needed", toString needed), ("offset", toString offset),
      ("available", toString available)]
  | .invalidBool word => Text.Visible.application "InvalidBool" [toString word.toNat]
  | .lengthOverflow size => Text.Visible.application "LengthOverflow" [toString size]
  | .unrecognizedConstructor tag typeName =>
    Text.Visible.record "UnrecognizedConstructor" [("tag", toString tag.toNat),
      ("type_name", Text.Visible.string typeName)]
  | .vectorTagMismatch found expected typeName =>
    Text.Visible.record "VectorTagMismatch" [("found", toString found.toNat),
      ("expected", toString expected.toNat), ("type_name", Text.Visible.string typeName)]

end WireError

end TlSchema
