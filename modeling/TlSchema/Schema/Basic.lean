import TlSchema.Schema.Family
import TlSchema.Token.Basic

/-!
# Schemas

What a schema says once its text has been read: its definitions in source order and the families
their return types form.
-/

namespace TlSchema

/-- A field of a definition. -/
structure Field where
  /-- Its name. -/
  name : String
  /-- Its declared type. -/
  type : ValueType
  /-- The bit of the flags that guards it, if one does. -/
  flagBit? : Option UInt8
  deriving DecidableEq, Repr

namespace Field

/-- Whether the field is present only when a bit of the flags is set. -/
def isConditional (field : Field) : Bool := field.flagBit?.isSome

/-- The field as a document. -/
def toJson (field : Field) : Json :=
  .obj [("name", .str field.name), ("type", field.type.toJson),
    ("flag_bit", .option (field.flagBit?.map fun bit => .nat bit.toNat))]

end Field

/-- One definition of a schema. -/
structure Definition where
  /-- The key it declares. -/
  key : String
  /-- The number that marks its objects on the wire. -/
  constructorId : UInt32
  /-- Its fields, in order. -/
  fields : List Field
  /-- The type it returns. -/
  returnType : ValueType
  /-- Where its key stands. -/
  pos : Position
  deriving DecidableEq, Repr

namespace Definition

/-- The first field of that name. -/
def field? (definition : Definition) (name : String) : Option Field :=
  definition.fields.find? (·.name = name)

/-- The definition as a document. -/
def toJson (definition : Definition) : Json :=
  .obj [("key", .str definition.key), ("constructor_id", .nat definition.constructorId.toNat),
    ("fields", .arr (definition.fields.map Field.toJson)),
    ("return_type", definition.returnType.toJson),
    ("line", .nat definition.pos.line), ("column", .nat definition.pos.column)]

end Definition

/-- The definitions of a schema and the families they form. -/
structure Schema where
  /-- The definitions, in source order. -/
  definitions : List Definition := []
  /-- The families of the types that the definitions return. -/
  families : Families := {}
  deriving DecidableEq, Repr

namespace Schema

/-- The first definition with that key. -/
def find? (schema : Schema) (key : String) : Option Definition :=
  schema.definitions.find? (·.key = key)

/-- The schema as a document. -/
def toJson (schema : Schema) : Json :=
  .obj [("definitions", .arr (schema.definitions.map Definition.toJson)),
    ("child_map", schema.families.toJson)]

end Schema

end TlSchema
