import TlSchema.Error
import TlSchema.Json.Outline
import TlSchema.Text.Blank

/-!
# Settings

What can be chosen when a schema is compiled: the module that generated code is wrapped in, the
symbols before every output name, and the tag that frames vectors on the wire.
-/

namespace TlSchema

/-- The choices of a compilation. -/
structure Settings where
  /-- The module that generated code is wrapped in; blank for none. -/
  outputNamespace : String := ""
  /-- What every output name starts with. -/
  symbolPrefix : String := ""
  /-- The framing tag of vectors, in hexadecimal digits. -/
  vectorFramingTag : String := "1cb5c415"
  deriving DecidableEq, Repr

namespace Settings

/-- The word that a framing tag denotes: one to eight hexadecimal digits, which `0x` may precede. -/
def tagValue? (tag : String) : Option UInt32 :=
  let digits := match tag.toList with
    | '0' :: 'x' :: rest => rest
    | '0' :: 'X' :: rest => rest
    | cs => cs
  if digits.length ≤ 8 then (Text.number? 16 Text.maxWord digits).map UInt32.ofNat else none

/-- The framing tag of vectors as a word. Blanks around it do not count. -/
def vectorTag (settings : Settings) : Except SchemaError UInt32 :=
  match tagValue? (Text.trim settings.vectorFramingTag) with
  | some tag => .ok tag
  | none => .error (.settings ⟨settings.vectorFramingTag⟩)

/-! ## Settings from JSON -/

/-- The reason given for a text that is no JSON document. -/
def notJson : String := "not a JSON document"

/-- The reason given for a document that does not describe settings. -/
def notSettings : String := "not a settings document"

/-- Takes in the members of an object. The texts given so far for the three settings come with it;
each may be given once, and members of other names are passed over. -/
def readMembers (outputNamespace? symbolPrefix? vectorFramingTag? : Option String) :
    List (Option String × Outline) → Option Settings
  | [] =>
    some ⟨outputNamespace?.getD "", symbolPrefix?.getD "", vectorFramingTag?.getD "1cb5c415"⟩
  | (name?, value) :: rest => do
    let name ← name?
    if name = "outputNamespace" then
      match outputNamespace?, value with
      | none, .text (some text) => readMembers (some text) symbolPrefix? vectorFramingTag? rest
      | _, _ => none
    else if name = "symbolPrefix" then
      match symbolPrefix?, value with
      | none, .text (some text) => readMembers outputNamespace? (some text) vectorFramingTag? rest
      | _, _ => none
    else if name = "vectorFramingTag" then
      match vectorFramingTag?, value with
      | none, .text (some text) => readMembers outputNamespace? symbolPrefix? (some text) rest
      | _, _ => none
    else readMembers outputNamespace? symbolPrefix? vectorFramingTag? rest

/-- The settings that a document describes: an object with a text for each of them, or a list of up
to three texts in their order. What is not given has its default. -/
def ofOutline? : Outline → Option Settings
  | .object members => readMembers none none none members
  | .list [] => some {}
  | .list [.text (some outputNamespace)] => some { outputNamespace }
  | .list [.text (some outputNamespace), .text (some symbolPrefix)] =>
    some { outputNamespace, symbolPrefix }
  | .list [.text (some outputNamespace), .text (some symbolPrefix),
      .text (some vectorFramingTag)] =>
    some { outputNamespace, symbolPrefix, vectorFramingTag }
  | _ => none

/-- Reads settings from a JSON text and checks their framing tag. -/
def ofJson (text : String) : Except SchemaError Settings := do
  let some outline := Outline.parse? text | throw (.json notJson)
  let some settings := ofOutline? outline | throw (.json notSettings)
  let _ ← settings.vectorTag
  return settings

/-- The settings as a document. -/
def toJson (settings : Settings) : Json :=
  .obj [("outputNamespace", .str settings.outputNamespace),
    ("symbolPrefix", .str settings.symbolPrefix),
    ("vectorFramingTag", .str settings.vectorFramingTag)]

end Settings

end TlSchema
