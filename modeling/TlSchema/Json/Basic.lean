import TlSchema.Text.Digits

/-!
# JSON documents

The documents this library writes, in two forms: `compact`, without any blanks, and `pretty`, with
one item a line and two spaces for each level. Members of an object are written in the order in
which the document holds them. Texts are escaped as little as the grammar allows: quotes,
backslashes and control characters only.
-/

namespace TlSchema

/-- A JSON document. Numbers are integers. -/
inductive Json where
  /-- The null value. -/
  | null
  /-- A truth value. -/
  | bool (value : Bool)
  /-- An integer. -/
  | int (value : Int)
  /-- A text. -/
  | str (text : String)
  /-- A list of documents. -/
  | arr (items : List Json)
  /-- An object, its members in the order in which they are written. -/
  | obj (members : List (String × Json))

namespace Json

/-- A natural number as a document. -/
def nat (n : Nat) : Json := .int n

/-- An optional document, null where there is none. -/
def option : Option Json → Json
  | some json => json
  | none => .null

/-- An object with one member. -/
def tagged (name : String) (json : Json) : Json := .obj [(name, json)]

/-! ## Texts -/

/-- One character of a quoted text. -/
def escape (c : Char) : String :=
  if c = '"' then "\\\""
  else if c = '\\' then "\\\\"
  else if c = '\x08' then "\\b"
  else if c = '\t' then "\\t"
  else if c = '\n' then "\\n"
  else if c = '\x0c' then "\\f"
  else if c = '\r' then "\\r"
  else if c.toNat < 0x10 then "\\u000" ++ Text.hexDigits c.toNat
  else if c.toNat < 0x20 then "\\u00" ++ Text.hexDigits c.toNat
  else c.toString

/-- A text between double quotes. -/
def quote (text : String) : String :=
  "\"" ++ text.foldl (fun quoted c => quoted ++ escape c) "" ++ "\""

/-! ## The compact form -/

mutual

/-- The document without blanks. -/
def compact : Json → String
  | .null => "null"
  | .bool b => if b then "true" else "false"
  | .int n => toString n
  | .str text => quote text
  | .arr items => "[" ++ ",".intercalate (compactItems items) ++ "]"
  | .obj members => "\x7b" ++ ",".intercalate (compactMembers members) ++ "\x7d"

/-- The items of a list, each without blanks. -/
def compactItems : List Json → List String
  | [] => []
  | item :: items => item.compact :: compactItems items

/-- The members of an object, each without blanks. -/
def compactMembers : List (String × Json) → List String
  | [] => []
  | (name, json) :: members => (quote name ++ ":" ++ json.compact) :: compactMembers members

end

/-! ## The pretty form -/

/-- A line break followed by the blanks of `level` levels. -/
def newline (level : Nat) : String :=
  "\n" ++ "".pushn ' ' (2 * level)

/-- Items on lines of their own between two brackets; without items the brackets touch. -/
def block (level : Nat) (left right : String) (items : List String) : String :=
  if items.isEmpty then left ++ right
  else left ++ newline (level + 1) ++ ("," ++ newline (level + 1)).intercalate items
    ++ newline level ++ right

mutual

/-- The document with one item a line, inside `level` levels. -/
def prettyAt (level : Nat) : Json → String
  | .null => "null"
  | .bool b => if b then "true" else "false"
  | .int n => toString n
  | .str text => quote text
  | .arr items => block level "[" "]" (prettyItems (level + 1) items)
  | .obj members => block level "\x7b" "\x7d" (prettyMembers (level + 1) members)

/-- The items of a list, each with one item a line. -/
def prettyItems (level : Nat) : List Json → List String
  | [] => []
  | item :: items => prettyAt level item :: prettyItems level items

/-- The members of an object, each with one item a line. -/
def prettyMembers (level : Nat) : List (String × Json) → List String
  | [] => []
  | (name, json) :: members =>
    (quote name ++ ": " ++ prettyAt level json) :: prettyMembers level members

end

/-- The document with one item a line. -/
def pretty (json : Json) : String :=
  json.prettyAt 0

end Json

end TlSchema
