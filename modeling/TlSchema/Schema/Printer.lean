import TlSchema.Schema.Basic
import TlSchema.Text.Digits

/-!
# Schemas as text

The canonical text of a schema: one definition a line, every field with one space after it, types by
their literals and numbers in their shortest form. Comments, spacing and the spelling of types that
the schema was read from do not show in it.
-/

namespace TlSchema

/-- A field as it is declared: its name and type, with the guard before the type if it has one. -/
def Field.text (field : Field) : String :=
  let guard :=
    match field.flagBit? with
    | some bit => flagsName ++ "." ++ toString bit.toNat ++ "?"
    | none => ""
  field.name ++ ":" ++ guard ++ field.type.literal

/-- A definition as it is declared, with the semicolon that ends it. -/
def Definition.text (definition : Definition) : String :=
  definition.key ++ "#" ++ Text.hexDigits definition.constructorId.toNat ++ " "
    ++ String.join (definition.fields.map fun field => field.text ++ " ")
    ++ "= " ++ definition.returnType.literal ++ ";"

/-- The canonical text of a schema. -/
def Schema.text (schema : Schema) : String :=
  "\n".intercalate (schema.definitions.map Definition.text)

end TlSchema
