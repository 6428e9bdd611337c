import TlSchema.Plan.Basic
import TlSchema.Value.Basic
import TlSchema.ValueType
import TlSchema.Wire.Writer

/-!
# Registries of plans

A registry finds plans by output name or by key; of several with the same name or key, the first one
counts. It can make objects whose fields have not been set, which is where reading starts from.
-/

namespace TlSchema

/-- How often an entry point may hand a constructor on. -/
def maxDelegations : Nat := 64

/-- How deep objects may be nested in an object. -/
def maxNesting : Nat := 64

/-- Why a value cannot be written or read. -/
inductive CodecError where
  /-- The bytes are at fault. -/
  | wire (error : WireError)
  /-- There is no plan for a type or for a field of it. -/
  | unknownType (name : String)
  /-- The type has no response. -/
  | noResponse (typeName : String)
  /-- A value is of the wrong kind. -/
  | shape (expected found : String)
  /-- A constructor was handed on too often. -/
  | delegationDepth (tag : UInt32)
  /-- Objects are nested too deep. -/
  | nestingDepth
  deriving DecidableEq, Repr

namespace CodecError

/-- The wording of the error. -/
def message : CodecError → String
  | .wire error => error.message
  | .unknownType name => "No plan produces type " ++ name
  | .noResponse typeName => typeName ++ " declares no response type"
  | .shape expected found => s!"Expected {expected} value but found {found}"
  | .delegationDepth tag =>
    "Dispatch for tag 0x" ++ Text.hexWord tag ++ s!" delegated more than {maxDelegations} times"
  | .nestingDepth => s!"Objects nested more than {maxNesting} levels deep"

/-- The error as a record. -/
def visible : CodecError → String
  | .wire error => Text.Visible.application "Wire" [error.visible]
  | .unknownType name => Text.Visible.application "UnknownType" [Text.Visible.string name]
  | .noResponse typeName => Text.Visible.application "NoResponse" [Text.Visible.string typeName]
  | .shape expected found =>
    Text.Visible.record "Shape" [("expected", Text.Visible.string expected),
      ("found", Text.Visible.string found)]
  | .delegationDepth tag =>
    Text.Visible.record "DelegationDepth" [("tag", toString tag.toNat),
      ("limit", toString maxDelegations)]
  | .nestingDepth => Text.Visible.record "NestingDepth" [("limit", toString maxNesting)]

end CodecError

/-- The value of a field that has not been set; a nested object is left without fields, which counts
as all its fields not set. -/
def DefaultValue.value : DefaultValue → Value
  | .string text => .string text
  | .int32 n => .int n
  | .int64 n => .long n
  | .bool b => .bool b
  | .emptyVector => .vector []
  | .construct typeName => .object typeName []

/-- The plans that values are written and read by. -/
structure Registry where
  /-- The plans, in order. -/
  plans : List Plan
  deriving DecidableEq, Repr

namespace Registry

/-- The first plan with that output name. -/
def plan (registry : Registry) (typeName : String) : Except CodecError Plan :=
  match registry.plans.find? (·.typeName = typeName) with
  | some plan => .ok plan
  | none => .error (.unknownType typeName)

/-- The first plan with that key. -/
def planForKey (registry : Registry) (key : String) : Except CodecError Plan :=
  match registry.plans.find? (·.key = key) with
  | some plan => .ok plan
  | none => .error (.unknownType key)

end Registry

/-- The object of a plan's type whose fields have not been set: each holds its default. -/
def Plan.unset (plan : Plan) : Value :=
  plan.fields.foldl (fun object field => object.set field.name field.initial.value)
    (.object plan.typeName [])

namespace Registry

/-- The object of a type whose fields have not been set. -/
def instantiate (registry : Registry) (typeName : String) : Except CodecError Value := do
  let plan ← registry.plan typeName
  return plan.unset

end Registry

/-! ## Flags -/

namespace Flags

/-- The word with the given bit set and no other. Bits are counted modulo thirty-two. -/
def mask (bit : UInt8) : UInt32 := 1 <<< bit.toUInt32

/-- Whether a bit of a word of flags is set. -/
def has (word : UInt32) (bit : UInt8) : Bool := word &&& mask bit ≠ 0

/-- A word of flags with a bit set or cleared. -/
def put (word : UInt32) (bit : UInt8) (on : Bool) : UInt32 :=
  if on then word ||| mask bit else word &&& ~~~(mask bit)

end Flags

/-- The word of flags that an object holds in a field; zero if there is no integer in it. -/
def Value.flagWord (value : Value) (field : String) : UInt32 :=
  match value.get? field with
  | some flags => flags.asInt.toUInt32
  | none => 0

end TlSchema
