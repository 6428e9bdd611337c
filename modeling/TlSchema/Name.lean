import TlSchema.Text.Case
import TlSchema.Text.Segments

/-!
# Output names

Keys of a schema are dotted; the types made from them have one plain name. Segments are joined by
underscores, and every segment but the first of a dotted key starts with a capital letter, so that
`help.peer` and `help.Peer` have the same output name.
-/

namespace TlSchema

/-- The name of a key: its segments with underscores between them. Every segment starts with a
capital letter except the first of several. -/
def plainName (key : List Char) : List Char :=
  match Text.segments '.' key with
  | (only, []) => Text.capitalize only
  | (first, others) => ['_'].intercalate (first :: others.map Text.capitalize)

/-- The output name of a key, after the symbols `symbolPrefix`. -/
def outputName (symbolPrefix key : String) : String :=
  symbolPrefix ++ String.ofList (plainName key.toList)

end TlSchema
