import TlSchema.Error
import TlSchema.Name
import TlSchema.Schema.Basic

/-!
# Checking schemas

Two kinds of rules make a schema usable. Within a definition no field name is declared twice, and a
guarded field follows the flags that guard it. Across definitions every named type of a field is the
type of some definition, compared by output name.
-/

namespace TlSchema

namespace Definition

/-- Checks fields one by one; `seen` are the names before them and `flagged` says whether the flags
have been declared. -/
def checkFields (key : String) (seen : List String) (flagged : Bool) :
    List Field → Except FieldFault Unit
  | [] => .ok ()
  | field :: rest =>
    if field.name ∈ seen then .error (.repeated field.name key)
    else match field.flagBit? with
      | some bit =>
        if flagged then checkFields key (field.name :: seen) flagged rest
        else .error (.unflagged field.name key bit)
      | none => checkFields key (field.name :: seen) (flagged || field.name = flagsName) rest

/-- Checks the fields of a definition. -/
def check (definition : Definition) : Except FieldFault Unit :=
  checkFields definition.key [] false definition.fields

end Definition

namespace Schema

/-- The output names, without symbols before them, of all definitions. -/
def definedNames (schema : Schema) : List String :=
  schema.definitions.map fun definition => outputName "" definition.key

/-- Checks that the named type of a field, at any depth of vectors, is among the names `defined`. -/
def checkReference (defined : List String) (definition : Definition) (field : Field) :
    Except SchemaError Unit :=
  match field.type.namedLeaf? with
  | none => .ok ()
  | some name =>
    if outputName "" name ∈ defined then .ok ()
    else .error (.unresolved name field.name definition.key)

/-- Checks that every named type of a field is the type of some definition. -/
def checkReferences (schema : Schema) : Except SchemaError Unit :=
  let defined := schema.definedNames
  schema.definitions.forM fun definition =>
    definition.fields.forM (checkReference defined definition)

/-- Checks the fields of all definitions, and then all references. -/
def check (schema : Schema) : Except SchemaError Unit := do
  schema.definitions.forM fun definition => definition.check.mapError .fields
  schema.checkReferences

end Schema

end TlSchema
