import TlSchema.Text.Digits
import TlSchema.Text.Hidden

/-!
# Visible text

The form in which messages show characters, texts and records of fields: between quotes, with every
character that does not show written as an escape, so that two different texts never look alike.
-/

namespace TlSchema.Text.Visible

/-- A character inside the quotes `quote`: the quote itself, the backslash and the characters that
do not show are escaped. -/
def escape (quote c : Char) : String :=
  if c = '\x00' then "\\0"
  else if c = '\t' then "\\t"
  else if c = '\r' then "\\r"
  else if c = '\n' then "\\n"
  else if c = '\\' then "\\\\"
  else if c = quote then String.ofList ['\\', c]
  else if isHidden c then "\\u\x7b" ++ hexDigits c.toNat ++ "\x7d"
  else c.toString

/-- A character between single quotes. -/
def char (c : Char) : String :=
  "'" ++ escape '\x27' c ++ "'"

/-- A text between double quotes. -/
def string (text : String) : String :=
  "\"" ++ text.foldl (fun shown c => shown ++ escape '"' c) "" ++ "\""

/-- A name applied to shown arguments: `Name(a, b)`. -/
def application (name : String) (arguments : List String) : String :=
  name ++ "(" ++ ", ".intercalate arguments ++ ")"

/-- A name with shown fields: `Name { field: a, other: b }`. -/
def record (name : String) (fields : List (String × String)) : String :=
  name ++ " \x7b " ++ ", ".intercalate (fields.map fun f => f.1 ++ ": " ++ f.2) ++ " \x7d"

end TlSchema.Text.Visible
