import TlSchema.Error

/-!
# Sources

Where the characters of a schema come from. A text gives its characters one by one. A stream of
bytes gives every byte as one character, since schemas are ASCII texts; it may also break off, and
then every attempt to read past its last byte fails.
-/

namespace TlSchema

/-- What is left to read of a schema. -/
structure Source where
  /-- The characters still to come. -/
  chars : List Char
  /-- Why the source breaks off after them, if it does. -/
  failure? : Option String := none

namespace Source

/-- The reason given for reading past the end of a source. -/
def exhausted : String := "read past the end of the schema source"

/-- The source that gives the characters of a text. -/
def ofText (text : String) : Source := ⟨text.toList, none⟩

/-- The source that gives every byte as one character. -/
def ofBytes (bytes : ByteArray) (failure? : Option String := none) : Source :=
  ⟨bytes.data.toList.map fun b => Char.ofNat b.toNat, failure?⟩

/-- Whether another character follows. -/
def hasNext (source : Source) : Except SchemaError Bool :=
  match source.chars, source.failure? with
  | _ :: _, _ => .ok true
  | [], none => .ok false
  | [], some reason => .error (.io reason)

/-- The next character and what follows it. -/
def next (source : Source) : Except SchemaError (Char × Source) :=
  match source.chars, source.failure? with
  | c :: rest, _ => .ok (c, { source with chars := rest })
  | [], none => .error (.io exhausted)
  | [], some reason => .error (.io reason)

end Source

end TlSchema
