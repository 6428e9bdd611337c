import TlSchema.Registry.Basic

/-!
# Writing values

An object is written by the steps of its plan. A field it lacks is written as its default, and the
bits of its flags say which guarded fields differ from their defaults, whatever the object holds as
flags.

Objects contain objects, up to `maxNesting` levels. Every function below that goes into an object
has the functions that go one level deeper as parameters, and the recursion over levels is in
`isDefault` and `writeObject` alone.
-/

namespace TlSchema

/-- A computation that writes values. What has been written before an error stays written. -/
abbrev Encoder := EStateM CodecError ByteArray

namespace Encoder

/-- Writes bytes. -/
def put (bs : ByteArray) : Encoder Unit := fun out => .ok () (out ++ bs)

/-- Fails with an error of the wire, or writes bytes. -/
def putResult (bs : Except WireError ByteArray) : Encoder Unit :=
  EStateM.adaptExcept .wire (Wire.Writer.putResult bs)

/-- Goes on with a result, or fails with its error. -/
def ofExcept {α : Type} (result : Except CodecError α) : Encoder α := fun out =>
  match result with
  | .ok a => .ok a out
  | .error e => .error e out

end Encoder

/-- The name of the kind of values that a codec writes. -/
def Codec.kind : Codec → String
  | .string => "string"
  | .boolean => "bool"
  | .int32 => "int"
  | .int64 => "long"
  | .vector _ _ => "vector"
  | .object _ => "object"

namespace Registry

/-! ## Defaults -/

/-- Whether a value is the given default, where `deeper` decides it for the fields of objects. An
object is the default of its type when each field it has, of those its plan knows, holds its
default. -/
def isDefaultWith (registry : Registry) (deeper : DefaultValue → Value → Except CodecError Bool)
    (initial : DefaultValue) (value : Value) : Except CodecError Bool :=
  match initial, value with
  | .string expected, .string text => .ok (text = expected)
  | .int32 expected, .int n => .ok (n = expected)
  | .int64 expected, .long n => .ok (n = expected)
  | .bool expected, .bool b => .ok (b = expected)
  | .emptyVector, .vector items => .ok items.isEmpty
  | .construct typeName, .object name fields =>
    if name = typeName then do
      let plan ← registry.plan typeName
      plan.fields.allM fun field =>
        match Fields.find? field.name fields with
        | some held => deeper field.initial held
        | none => .ok true
    else .ok false
  | _, _ => .ok false

/-- Whether a value is the given default, going at most `levels` levels into objects. -/
def isDefault (registry : Registry) :
    (levels : Nat) → DefaultValue → Value → Except CodecError Bool
  | 0 => registry.isDefaultWith fun _ _ => .error .nestingDepth
  | levels + 1 => registry.isDefaultWith (registry.isDefault levels)

/-- Whether a field of an object is not set or holds its default. -/
def fieldIsDefault (registry : Registry) (levels : Nat) (plan : Plan) (object : Value)
    (field : String) : Except CodecError Bool :=
  match object.get? field, plan.field? field with
  | none, _ => .ok true
  | some held, some fieldPlan => registry.isDefault levels fieldPlan.initial held
  | some _, none => .ok false

/-- The flags of an object: the word it holds with the bit of every guarded field set or cleared. -/
def flagsOf (registry : Registry) (levels : Nat) (plan : Plan) (object : Value)
    (flagsField : String) (bindings : List FlagBinding) : Except CodecError UInt32 :=
  bindings.foldlM (fun word binding => do
      let unset ← registry.fieldIsDefault levels plan object binding.field
      return Flags.put word binding.bit !unset)
    (object.flagWord flagsField)

end Registry

/-! ## Writing -/

/-- Writes a value, where `deeper` writes the objects in it. -/
def Codec.write (deeper : Value → Encoder Unit) : Codec → Value → Encoder Unit
  | .string, .string text => Encoder.putResult (Wire.stringBytes text)
  | .boolean, .bool b => Encoder.put (Wire.boolBytes b)
  | .int32, .int n => Encoder.put (Wire.int32Bytes n)
  | .int64, .long n => Encoder.put (Wire.int64Bytes n)
  | .object _, .object typeName fields => deeper (.object typeName fields)
  | .vector tag element, .vector items => do
    Encoder.put (Wire.uint32Bytes tag)
    Encoder.put (Wire.int32Bytes (Int32.ofNat items.length))
    items.forM (element.write deeper)
  | codec, value => throw (.shape codec.kind value.kind)

/-- Writes a field of an object: what it holds, or its default. -/
def Plan.writeField (plan : Plan) (deeper : Value → Encoder Unit) (object : Value)
    (field : String) (codec : Codec) : Encoder Unit :=
  match object.get? field with
  | some held => codec.write deeper held
  | none =>
    match plan.field? field with
    | some fieldPlan => codec.write deeper fieldPlan.initial.value
    | none => throw (.unknownType (plan.typeName ++ "." ++ field))

namespace Registry

/-- Takes one step of writing an object. The flags are known once they have been computed. -/
def writeStep (registry : Registry) (levels : Nat) (deeper : Value → Encoder Unit) (plan : Plan)
    (object : Value) (flags? : Option (String × UInt32)) :
    EncodeStep → Encoder (Option (String × UInt32))
  | .writeConstructor id => do
    Encoder.put (Wire.uint32Bytes id)
    return flags?
  | .recomputeFlags flagsField bindings => do
    let word ← Encoder.ofExcept (registry.flagsOf levels plan object flagsField bindings)
    return some (flagsField, word)
  | .write field codec => do
    match flags? with
    | some (flagsField, word) =>
      if flagsField = field then Encoder.put (Wire.uint32Bytes word)
      else plan.writeField deeper object field codec
    | none => plan.writeField deeper object field codec
    return flags?
  | .writeIfFlag bit field codec => do
    let word := match flags? with
      | some (_, word) => word
      | none => object.flagWord flagsName
    if Flags.has word bit then plan.writeField deeper object field codec
    return flags?

/-- Writes an object that may hold `levels` levels of objects, where `deeper` writes those in it. -/
def writeObjectWith (registry : Registry) (levels : Nat) (deeper : Value → Encoder Unit)
    (value : Value) : Encoder Unit :=
  match value with
  | .object typeName fields => do
    let plan ← Encoder.ofExcept (registry.plan typeName)
    let _ ← plan.encode.foldlM
      (registry.writeStep levels deeper plan (.object typeName fields)) none
  | other => throw (.shape "object" other.kind)

/-- Writes an object that may hold `levels` levels of objects. -/
def writeObject (registry : Registry) : (levels : Nat) → Value → Encoder Unit
  | 0 => registry.writeObjectWith 0 fun _ => throw .nestingDepth
  | levels + 1 => registry.writeObjectWith (levels + 1) (registry.writeObject levels)

/-- Writes an object. -/
def encodeInto (registry : Registry) (value : Value) : Encoder Unit :=
  registry.writeObject maxNesting value

/-- The bytes of an object. -/
def encode (registry : Registry) (value : Value) : Except CodecError ByteArray :=
  match registry.encodeInto value ByteArray.empty with
  | .ok () out => .ok out
  | .error e _ => .error e

end Registry

end TlSchema
