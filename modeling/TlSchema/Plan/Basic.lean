import TlSchema.Json.Basic

/-!
# Plans

A plan says how the objects of one definition are written, read and told apart, in terms of output
names only. Both the generator of code and the codec of dynamic values follow it.
-/

namespace TlSchema

/-- The type of a field in terms of output names. -/
inductive TargetType where
  /-- A text. -/
  | string
  /-- A truth value. -/
  | boolean
  /-- A 32-bit signed integer. -/
  | int32
  /-- A 64-bit signed integer. -/
  | int64
  /-- A list of elements of one type. -/
  | vector (element : TargetType)
  /-- An object of the type with that output name. -/
  | named (typeName : String)
  deriving DecidableEq, Repr

/-- The value of a field that has not been set. -/
inductive DefaultValue where
  /-- A text. -/
  | string (text : String)
  /-- A 32-bit integer. -/
  | int32 (n : Int32)
  /-- A 64-bit integer. -/
  | int64 (n : Int64)
  /-- A truth value. -/
  | bool (b : Bool)
  /-- The empty list. -/
  | emptyVector
  /-- The object of that type whose fields have not been set. -/
  | construct (typeName : String)
  deriving DecidableEq, Repr

/-- How a value stands on the wire. -/
inductive Codec where
  /-- A text as a padded string of bytes. -/
  | string
  /-- A truth value as one of two words. -/
  | boolean
  /-- A 32-bit integer. -/
  | int32
  /-- A 64-bit integer. -/
  | int64
  /-- A list: the framing tag, the number of elements, and the elements. -/
  | vector (tag : UInt32) (element : Codec)
  /-- An object, read through the entry point of the named type. -/
  | object (typeName : String)
  deriving DecidableEq, Repr

/-- What a plan knows of a field. -/
structure FieldPlan where
  /-- Its name. -/
  name : String
  /-- Its type. -/
  target : TargetType
  /-- Its value when it has not been set. -/
  initial : DefaultValue
  /-- The bit of the flags that guards it, if one does. -/
  flagBit? : Option UInt8
  deriving DecidableEq, Repr

/-- A guarded field and its bit. -/
structure FlagBinding where
  /-- The field. -/
  field : String
  /-- The bit that guards it. -/
  bit : UInt8
  deriving DecidableEq, Repr

/-- A step of writing an object. -/
inductive EncodeStep where
  /-- Write the number of the constructor. -/
  | writeConstructor (id : UInt32)
  /-- Set the bits of the flags to say which guarded fields differ from their defaults. -/
  | recomputeFlags (flagsField : String) (bindings : List FlagBinding)
  /-- Write a field. -/
  | write (field : String) (codec : Codec)
  /-- Write a field if its bit is set. -/
  | writeIfFlag (bit : UInt8) (field : String) (codec : Codec)
  deriving DecidableEq, Repr

/-- A step of reading an object, after the number of its constructor. -/
inductive DecodeStep where
  /-- Read a field. -/
  | read (field : String) (codec : Codec)
  /-- Read a field if its bit is set. -/
  | readIfFlag (bit : UInt8) (field : String) (codec : Codec)
  deriving DecidableEq, Repr

/-- What the entry point of a type gives: objects of the type itself, or of its family. -/
inductive EntryResult where
  /-- The type itself. -/
  | concrete (typeName : String)
  /-- The abstract type of its family. -/
  | abstract (typeName : String)
  deriving DecidableEq, Repr

/-- The output name of the result. -/
def EntryResult.typeName : EntryResult → String
  | .concrete typeName => typeName
  | .abstract typeName => typeName

/-- What an entry point does with an object. -/
inductive DispatchAction where
  /-- Read the object as one of its own. -/
  | decodeSelf
  /-- Hand it to the entry point of another type. -/
  | delegate (typeName : String)
  deriving DecidableEq, Repr

/-- What an entry point does on one constructor. -/
structure DispatchBranch where
  /-- The number of the constructor. -/
  tag : UInt32
  /-- The key of its definition. -/
  key : String
  /-- The output name of its type. -/
  typeName : String
  /-- What is done. -/
  action : DispatchAction
  deriving DecidableEq, Repr

/-- How an entry point tells constructors apart. -/
structure Dispatch where
  /-- What the entry point gives. -/
  result : EntryResult
  /-- The output names of the members of the family, in order; none without a family. -/
  siblings : List String
  /-- The constructors it accepts. -/
  branches : List DispatchBranch
  deriving DecidableEq, Repr

namespace Dispatch

/-- Whether there is a family. -/
def isPolymorphic (dispatch : Dispatch) : Bool := !dispatch.siblings.isEmpty

/-- The first branch for a constructor. -/
def route? (dispatch : Dispatch) (tag : UInt32) : Option DispatchBranch :=
  dispatch.branches.find? (·.tag = tag)

/-- Whether some constructor is handed to another type. -/
def delegates (dispatch : Dispatch) : Bool :=
  dispatch.branches.any fun branch =>
    match branch.action with
    | .delegate _ => true
    | .decodeSelf => false

end Dispatch

/-- The plan of one definition. -/
structure Plan where
  /-- The key of the definition. -/
  key : String
  /-- The output name of its type. -/
  typeName : String
  /-- The number of its constructor. -/
  constructorId : UInt32
  /-- Its fields, in order. -/
  fields : List FieldPlan
  /-- The steps of writing. -/
  encode : List EncodeStep
  /-- The steps of reading. -/
  decode : List DecodeStep
  /-- How its entry point tells constructors apart. -/
  dispatch : Dispatch
  /-- The type whose entry point reads the response to it, if it has one. -/
  response? : Option String
  deriving DecidableEq, Repr

namespace Plan

/-- The first field of that name. -/
def field? (plan : Plan) (name : String) : Option FieldPlan :=
  plan.fields.find? (·.name = name)

/-- Whether writing sets the flags. -/
def hasFlags (plan : Plan) : Bool :=
  plan.encode.any fun
    | .recomputeFlags _ _ => true
    | _ => false

end Plan

/-! ## Plans as documents -/

/-- The type as a document. -/
def TargetType.toJson : TargetType → Json
  | .string => .str "String"
  | .boolean => .str "Boolean"
  | .int32 => .str "Int32"
  | .int64 => .str "Int64"
  | .vector element => .tagged "Vector" element.toJson
  | .named typeName => .tagged "Named" (.str typeName)

/-- The default as a document. -/
def DefaultValue.toJson : DefaultValue → Json
  | .string text => .tagged "String" (.str text)
  | .int32 n => .tagged "Int32" (.int n.toInt)
  | .int64 n => .tagged "Int64" (.int n.toInt)
  | .bool b => .tagged "Bool" (.bool b)
  | .emptyVector => .str "EmptyVector"
  | .construct typeName => .tagged "Construct" (.str typeName)

/-- The codec as a document. -/
def Codec.toJson : Codec → Json
  | .string => .str "String"
  | .boolean => .str "Boolean"
  | .int32 => .str "Int32"
  | .int64 => .str "Int64"
  | .vector tag element =>
    .tagged "Vector" (.obj [("tag", .nat tag.toNat), ("element", element.toJson)])
  | .object typeName => .tagged "Object" (.obj [("type_name", .str typeName)])

/-- The field as a document. -/
def FieldPlan.toJson (field : FieldPlan) : Json :=
  .obj [("name", .str field.name), ("target", field.target.toJson),
    ("default", field.initial.toJson),
    ("flag_bit", .option (field.flagBit?.map fun bit => .nat bit.toNat))]

/-- The binding as a document. -/
def FlagBinding.toJson (binding : FlagBinding) : Json :=
  .obj [("field", .str binding.field), ("bit", .nat binding.bit.toNat)]

/-- The step as a document. -/
def EncodeStep.toJson : EncodeStep → Json
  | .writeConstructor id => .tagged "WriteConstructor" (.nat id.toNat)
  | .recomputeFlags flagsField bindings =>
    .tagged "RecomputeFlags" (.obj [("flags_field", .str flagsField),
      ("bindings", .arr (bindings.map FlagBinding.toJson))])
  | .write field codec => .tagged "Write" (.obj [("field", .str field), ("codec", codec.toJson)])
  | .writeIfFlag bit field codec =>
    .tagged "WriteIfFlag" (.obj [("bit", .nat bit.toNat), ("field", .str field),
      ("codec", codec.toJson)])

/-- The step as a document. -/
def DecodeStep.toJson : DecodeStep → Json
  | .read field codec => .tagged "Read" (.obj [("field", .str field), ("codec", codec.toJson)])
  | .readIfFlag bit field codec =>
    .tagged "ReadIfFlag" (.obj [("bit", .nat bit.toNat), ("field", .str field),
      ("codec", codec.toJson)])

/-- The result as a document. -/
def EntryResult.toJson : EntryResult → Json
  | .concrete typeName => .tagged "Concrete" (.str typeName)
  | .abstract typeName => .tagged "Abstract" (.str typeName)

/-- The action as a document. -/
def DispatchAction.toJson : DispatchAction → Json
  | .decodeSelf => .str "DecodeSelf"
  | .delegate typeName => .tagged "Delegate" (.str typeName)

/-- The branch as a document. -/
def DispatchBranch.toJson (branch : DispatchBranch) : Json :=
  .obj [("tag", .nat branch.tag.toNat), ("key", .str branch.key),
    ("type_name", .str branch.typeName), ("action", branch.action.toJson)]

/-- The dispatch as a document. -/
def Dispatch.toJson (dispatch : Dispatch) : Json :=
  .obj [("result", dispatch.result.toJson), ("siblings", .arr (dispatch.siblings.map .str)),
    ("branches", .arr (dispatch.branches.map DispatchBranch.toJson))]

/-- The plan as a document. -/
def Plan.toJson (plan : Plan) : Json :=
  .obj [("key", .str plan.key), ("type_name", .str plan.typeName),
    ("constructor_id", .nat plan.constructorId.toNat),
    ("fields", .arr (plan.fields.map FieldPlan.toJson)),
    ("encode", .arr (plan.encode.map EncodeStep.toJson)),
    ("decode", .arr (plan.decode.map DecodeStep.toJson)),
    ("dispatch", plan.dispatch.toJson),
    ("response", .option (plan.response?.map fun typeName => .obj [("type_name", .str typeName)]))]

end TlSchema
