import TlSchema.Json.Basic
import TlSchema.Text.Visible
import TlSchema.Value.Fields

/-!
# Dynamic values

A value of any type of a schema. An object carries the output name of its type and its fields by
name; a field that it lacks counts as not set.
-/

namespace TlSchema

/-- A value of any type of a schema. -/
inductive Value where
  /-- A truth value. -/
  | bool (b : Bool)
  /-- A 32-bit integer. -/
  | int (n : Int32)
  /-- A 64-bit integer. -/
  | long (n : Int64)
  /-- A text. -/
  | string (text : String)
  /-- A list. -/
  | vector (items : List Value)
  /-- An object: the output name of its type and its fields, sorted by name. -/
  | object (typeName : String) (fields : List (String × Value))
  deriving Inhabited

namespace Value

/-! ## Equality -/

mutual

/-- Whether two values are equal. -/
def beq : Value → Value → Bool
  | .bool a, .bool b => a = b
  | .int a, .int b => a = b
  | .long a, .long b => a = b
  | .string a, .string b => a = b
  | .vector a, .vector b => beqItems a b
  | .object n a, .object m b => n = m && beqFields a b
  | _, _ => false

/-- Whether two lists of values are equal. -/
def beqItems : List Value → List Value → Bool
  | [], [] => true
  | a :: as, b :: bs => beq a b && beqItems as bs
  | _, _ => false

/-- Whether two lists of fields are equal. -/
def beqFields : List (String × Value) → List (String × Value) → Bool
  | [], [] => true
  | (n, a) :: as, (m, b) :: bs => n = m && beq a b && beqFields as bs
  | _, _ => false

end

instance : BEq Value := ⟨beq⟩

/-! ## Parts

Each accessor has an answer for values of other kinds as well. -/

/-- The truth value; false for other kinds. -/
def asBool : Value → Bool
  | .bool b => b
  | _ => false

/-- The 32-bit integer; zero for other kinds. -/
def asInt : Value → Int32
  | .int n => n
  | _ => 0

/-- The 64-bit integer; zero for other kinds. -/
def asLong : Value → Int64
  | .long n => n
  | _ => 0

/-- The text; empty for other kinds. -/
def asString : Value → String
  | .string text => text
  | _ => ""

/-- The items of the list; none for other kinds. -/
def asVector : Value → List Value
  | .vector items => items
  | _ => []

/-- The output name of an object's type. -/
def typeName? : Value → Option String
  | .object typeName _ => some typeName
  | _ => none

/-- The length of the list; zero for other kinds. -/
def size (value : Value) : Nat := value.asVector.length

/-- The item of a list at an index. -/
def item? (value : Value) (index : Nat) : Option Value := value.asVector[index]?

/-- What a field of an object holds. -/
def get? (name : String) : Value → Option Value
  | .object _ fields => Fields.find? name fields
  | _ => none

/-! ## Changes

A change that does not fit the kind of a value leaves it as it is. -/

/-- The list with one more item. -/
def push (value item : Value) : Value :=
  match value with
  | .vector items => .vector (items ++ [item])
  | other => other

/-- The object with a field set. -/
def set (value : Value) (name : String) (field : Value) : Value :=
  match value with
  | .object typeName fields => .object typeName (Fields.insert name field fields)
  | other => other

/-- The object without a field. -/
def erase (value : Value) (name : String) : Value :=
  match value with
  | .object typeName fields => .object typeName (Fields.erase name fields)
  | other => other

/-- The name of a value's kind. -/
def kind : Value → String
  | .bool _ => "bool"
  | .int _ => "int"
  | .long _ => "long"
  | .string _ => "string"
  | .vector _ => "vector"
  | .object _ _ => "object"

/-! ## Writing -/

mutual

/-- The value as messages show it. -/
def visible : Value → String
  | .bool b => if b then "true" else "false"
  | .int n => toString n.toInt
  | .long n => toString n.toInt
  | .string text => Text.Visible.string text
  | .vector items => "[" ++ ", ".intercalate (visibleItems items) ++ "]"
  | .object typeName fields =>
    typeName ++ " \x7b" ++ ", ".intercalate (visibleFields fields) ++ "\x7d"

/-- The items of a list as messages show them. -/
def visibleItems : List Value → List String
  | [] => []
  | item :: items => item.visible :: visibleItems items

/-- The fields of an object as messages show them. -/
def visibleFields : List (String × Value) → List String
  | [] => []
  | (name, value) :: fields => (name ++ ": " ++ value.visible) :: visibleFields fields

end

/-- The member of a document that names the type of an object. -/
def typeMember : String := "_"

mutual

/-- The value as a document. An object has its type name as a member among its fields; a field of
the same name takes its place. Members are sorted by name. -/
def toJson : Value → Json
  | .bool b => .bool b
  | .int n => .int n.toInt
  | .long n => .int n.toInt
  | .string text => .str text
  | .vector items => .arr (itemsToJson items)
  | .object typeName fields =>
    .obj ((fieldsToJson fields).foldl (fun members (name, json) => Fields.insert name json members)
      [(typeMember, .str typeName)])

/-- The items of a list as documents. -/
def itemsToJson : List Value → List Json
  | [] => []
  | item :: items => item.toJson :: itemsToJson items

/-- The fields of an object as members of a document. -/
def fieldsToJson : List (String × Value) → List (String × Json)
  | [] => []
  | (name, value) :: fields => (name, value.toJson) :: fieldsToJson fields

end

end Value

end TlSchema
