import TlSchema.Name
import TlSchema.Plan.Basic
import TlSchema.Schema.Check
import TlSchema.Settings

/-!
# Planning

The plan of a definition follows from its fields, from the symbols before output names, from the
framing tag of vectors and, for the constructors its entry point accepts, from the family that its
key belongs to.
-/

namespace TlSchema

namespace ValueType

/-- The type in terms of output names. -/
def target (symbolPrefix : String) : ValueType → TargetType
  | .string => .string
  | .boolean _ => .boolean
  | .int32 => .int32
  | .int64 => .int64
  | .vector element => .vector (element.target symbolPrefix)
  | .named name => .named (outputName symbolPrefix name)

/-- The value of a field of the type that has not been set. -/
def initial (symbolPrefix : String) : ValueType → DefaultValue
  | .string => .string ""
  | .boolean value => .bool value
  | .int32 => .int32 0
  | .int64 => .int64 0
  | .vector _ => .emptyVector
  | .named name => .construct (outputName symbolPrefix name)

/-- How values of the type stand on the wire. -/
def codec (symbolPrefix : String) (vectorTag : UInt32) : ValueType → Codec
  | .string => .string
  | .boolean _ => .boolean
  | .int32 => .int32
  | .int64 => .int64
  | .vector element => .vector vectorTag (element.codec symbolPrefix vectorTag)
  | .named name => .object (outputName symbolPrefix name)

/-- The type whose entry point reads responses of this type. -/
def response? (symbolPrefix : String) : ValueType → Option String
  | .named name => some (outputName symbolPrefix name)
  | .boolean _ => some (symbolPrefix ++ "Bool")
  | _ => none

end ValueType

namespace Field

/-- What a plan knows of the field. -/
def plan (symbolPrefix : String) (field : Field) : FieldPlan :=
  ⟨field.name, field.type.target symbolPrefix, field.type.initial symbolPrefix, field.flagBit?⟩

/-- The bit that guards the field, bound to its name. -/
def binding? (field : Field) : Option FlagBinding :=
  field.flagBit?.map fun bit => ⟨field.name, bit⟩

/-- The step that writes the field. -/
def encodeStep (symbolPrefix : String) (vectorTag : UInt32) (field : Field) : EncodeStep :=
  let codec := field.type.codec symbolPrefix vectorTag
  match field.flagBit? with
  | some bit => .writeIfFlag bit field.name codec
  | none => .write field.name codec

/-- The step that reads the field. -/
def decodeStep (symbolPrefix : String) (vectorTag : UInt32) (field : Field) : DecodeStep :=
  let codec := field.type.codec symbolPrefix vectorTag
  match field.flagBit? with
  | some bit => .readIfFlag bit field.name codec
  | none => .read field.name codec

end Field

namespace Definition

/-- The guarded fields and their bits. -/
def bindings (definition : Definition) : List FlagBinding :=
  definition.fields.filterMap Field.binding?

/-- The step that sets the flags, if there are flags and fields they guard. -/
def flagsStep (definition : Definition) : List EncodeStep :=
  if (definition.field? flagsName).isSome && !definition.bindings.isEmpty then
    [.recomputeFlags flagsName definition.bindings]
  else []

/-- The steps that write an object. -/
def encodeSteps (symbolPrefix : String) (vectorTag : UInt32) (definition : Definition) :
    List EncodeStep :=
  .writeConstructor definition.constructorId :: definition.flagsStep
    ++ definition.fields.map (Field.encodeStep symbolPrefix vectorTag)

/-- The steps that read an object. -/
def decodeSteps (symbolPrefix : String) (vectorTag : UInt32) (definition : Definition) :
    List DecodeStep :=
  definition.fields.map (Field.decodeStep symbolPrefix vectorTag)

/-- The branch of a definition's own constructor. -/
def ownBranch (symbolPrefix : String) (definition : Definition) : DispatchBranch :=
  ⟨definition.constructorId, definition.key, outputName symbolPrefix definition.key, .decodeSelf⟩

end Definition

namespace Schema

/-- The family that the key of a definition belongs to. A family that holds only the definition
itself does not count. -/
def familyOf? (schema : Schema) (definition : Definition) : Option Family :=
  (schema.families.find? definition.key).filter fun family => family.members ≠ [definition.key]

/-- The branch of a member of a definition's family. -/
def memberBranch (schema : Schema) (symbolPrefix : String) (definition : Definition)
    (member : String) : DispatchBranch :=
  if member = definition.key then definition.ownBranch symbolPrefix
  else
    let tag := match schema.find? member with
      | some sibling => sibling.constructorId
      | none => 0
    let typeName := outputName symbolPrefix member
    ⟨tag, member, typeName, .delegate typeName⟩

/-- How the entry point of a definition tells constructors apart: by the members of its family, and
by its own constructor even if it is no member of the family that its key belongs to. -/
def dispatch (schema : Schema) (symbolPrefix : String) (definition : Definition) : Dispatch :=
  match schema.familyOf? definition with
  | none =>
    ⟨.concrete (outputName symbolPrefix definition.key), [], [definition.ownBranch symbolPrefix]⟩
  | some family =>
    { result :=
        if family.members.head? = some definition.key then
          .concrete (outputName symbolPrefix definition.key)
        else .abstract (outputName symbolPrefix family.name)
      siblings := family.members.map (outputName symbolPrefix)
      branches := family.members.map (schema.memberBranch symbolPrefix definition)
        ++ if definition.key ∈ family.members then [] else [definition.ownBranch symbolPrefix] }

/-- The plan of a definition. -/
def planOf (schema : Schema) (symbolPrefix : String) (vectorTag : UInt32)
    (definition : Definition) : Plan where
  key := definition.key
  typeName := outputName symbolPrefix definition.key
  constructorId := definition.constructorId
  fields := definition.fields.map (Field.plan symbolPrefix)
  encode := definition.encodeSteps symbolPrefix vectorTag
  decode := definition.decodeSteps symbolPrefix vectorTag
  dispatch := schema.dispatch symbolPrefix definition
  response? := definition.returnType.response? symbolPrefix

/-- The plans of all definitions, in order. -/
def plansWith (schema : Schema) (symbolPrefix : String) (vectorTag : UInt32) : List Plan :=
  schema.definitions.map (schema.planOf symbolPrefix vectorTag)

/-- The plans of a schema whose references are all defined. -/
def plans (schema : Schema) (settings : Settings) : Except SchemaError (List Plan) := do
  schema.checkReferences
  let vectorTag ← settings.vectorTag
  return schema.plansWith settings.symbolPrefix vectorTag

end Schema

end TlSchema
