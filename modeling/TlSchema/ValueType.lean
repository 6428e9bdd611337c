import TlSchema.Json.Basic
import TlSchema.Text.Visible

/-!
# Value types

The types that fields and return clauses of a schema are declared with. A type literal is read
without regard to the case of ASCII letters; whatever is neither a scalar nor a vector names another
type of the schema and is kept as it is written.

`ValueType.parse` reads a literal and `ValueType.literal` writes one.
-/

namespace TlSchema

/-- The name of the field that holds the flags of an object. -/
def flagsName : String := "flags"

/-- The type of a field or of a return clause. -/
inductive ValueType where
  /-- A text. -/
  | string
  /-- A truth value; the literal says which value is its default. -/
  | boolean (initial : Bool)
  /-- A 32-bit signed integer. -/
  | int32
  /-- A 64-bit signed integer. -/
  | int64
  /-- A list of elements of one type. -/
  | vector (element : ValueType)
  /-- Another type of the schema, named as it is written. -/
  | named (name : String)
  deriving DecidableEq, Repr, Inhabited

/-- The reason why a type literal is refused: the part of it that denotes no type. -/
structure MalformedType where
  /-- The text that denotes no type. -/
  literal : String
  deriving DecidableEq, Repr

namespace ValueType

/-! ## Reading literals -/

/-- Whether a literal starts with a word, which is in lower case. -/
def startsWith : (word literal : List Char) → Bool
  | [], _ => true
  | _ :: _, [] => false
  | w :: word, c :: literal => c.toLower = w && startsWith word literal

/-- Whether a literal is a word, which is in lower case. -/
def isWord : (word literal : List Char) → Bool
  | [], literal => literal.isEmpty
  | _ :: _, [] => false
  | w :: word, c :: literal => c.toLower = w && isWord word literal

/-- The words for scalar types. -/
def scalars : List (String × ValueType) :=
  [("string", .string), ("bool", .boolean false), ("true", .boolean true),
    ("false", .boolean false), ("int", .int32), ("long", .int64)]

/-- The scalar type that a literal denotes. -/
def scalar? (literal : List Char) : Option ValueType :=
  (scalars.find? fun row => isWord row.1.toList literal).map (·.2)

/-- Whether a literal starts like a vector. -/
def startsVector (literal : List Char) : Bool :=
  startsWith "vector".toList literal

/-- What stands between the first opening and the last closing bracket of a literal. -/
def element? (literal : List Char) : Option (List Char) :=
  match literal.dropWhile (· ≠ '<') with
  | [] => none
  | _ :: inside =>
    match inside.reverse.dropWhile (· ≠ '>') with
    | [] => none
    | _ :: element => some element.reverse

/-- Reads a literal that holds at most `depth` opening brackets. -/
def parseWithin (depth : Nat) (literal : List Char) : Except MalformedType ValueType :=
  match scalar? literal with
  | some type => .ok type
  | none =>
    if literal.isEmpty then .error ⟨""⟩
    else if startsVector literal then
      match depth with
      | 0 => .error ⟨String.ofList literal⟩
      | depth + 1 =>
        match element? literal with
        | some element => (parseWithin depth element).map .vector
        | none => .error ⟨String.ofList literal⟩
    else .ok (.named (String.ofList literal))

/-- Reads a type literal. Every vector takes one opening bracket out of its literal, so their number
bounds how deep vectors can be nested in it. -/
def parse (literal : String) : Except MalformedType ValueType :=
  parseWithin (literal.toList.count '<') literal.toList

/-! ## Properties -/

/-- Only named types take part in polymorphism. -/
def isPrimitive : ValueType → Bool
  | .named _ => false
  | _ => true

/-- The named type at the bottom of any nesting of vectors. -/
def namedLeaf? : ValueType → Option String
  | .named name => some name
  | .vector element => element.namedLeaf?
  | _ => none

/-! ## Writing -/

/-- The literal of a type. -/
def literal : ValueType → String
  | .string => "string"
  | .boolean true => "true"
  | .boolean false => "bool"
  | .int32 => "int"
  | .int64 => "long"
  | .vector element => "Vector<" ++ element.literal ++ ">"
  | .named name => name

/-- The type as messages show it. -/
def visible : ValueType → String
  | .string => "String"
  | .boolean initial => Text.Visible.application "Boolean" [if initial then "true" else "false"]
  | .int32 => "Int32"
  | .int64 => "Int64"
  | .vector element => Text.Visible.application "Vector" [element.visible]
  | .named name => Text.Visible.application "Named" [Text.Visible.string name]

/-- The type as a document. -/
def toJson : ValueType → Json
  | .string => .str "String"
  | .boolean initial => .tagged "Boolean" (.bool initial)
  | .int32 => .str "Int32"
  | .int64 => .str "Int64"
  | .vector element => .tagged "Vector" element.toJson
  | .named name => .tagged "Named" (.str name)

end ValueType

end TlSchema
