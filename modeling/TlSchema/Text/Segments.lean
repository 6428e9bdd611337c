/-!
# Segments

A text cut at a separator.
-/

namespace TlSchema.Text

/-- The segments of a text between the separators in it: the first one and those after it. There is
always a first one. -/
def segments (separator : Char) : List Char → List Char × List (List Char)
  | [] => ([], [])
  | c :: rest =>
    let (first, others) := segments separator rest
    if c = separator then ([], first :: others) else (c :: first, others)

end TlSchema.Text
