import TlSchema.Registry.Basic

/-!
# Reading values

An object is read through the entry point of a type, which tells by the number of the constructor
whether the object is one of its own or goes to the entry point of another type. Reading starts from
the object whose fields have not been set, and takes the steps of the plan.

What does not match can be an error (`strict`) or not. If not, an unknown constructor gives nothing,
or the object whose fields have not been set where one is needed, and a vector without its framing
tag ends the object it belongs to.

As in writing, objects are nested up to `maxNesting` levels, and the recursion over levels is in
`readObject` alone.
-/

namespace TlSchema

/-- A computation that reads values. -/
abbrev Decoder := EStateM CodecError Wire.Cursor

namespace Decoder

/-- Reads from the wire. -/
def wire {α : Type} (reader : Wire.Reader α) : Decoder α := EStateM.adaptExcept .wire reader

/-- Goes on with a result, or fails with its error. -/
def ofExcept {α : Type} (result : Except CodecError α) : Decoder α := fun cursor =>
  match result with
  | .ok a => .ok a cursor
  | .error e => .error e cursor

end Decoder

/-! ## Values -/

/-- Reads `count` items with `read`, after those in `items`; nothing if one of them is missing. -/
def readItems (read : Decoder (Option Value)) :
    (count : Nat) → (items : Array Value) → Decoder (Option (List Value))
  | 0, items => return some items.toList
  | count + 1, items => do
    match ← read with
    | some item => readItems read count (items.push item)
    | none => return none

/-- Reads a value in an object of the type `owner`, where `deeper` reads the objects in it. There is
no value if a framing tag is missing and that is no error. -/
def Codec.read (deeper : String → Decoder Value) (owner : String) (strict : Bool) :
    Codec → Decoder (Option Value)
  | .string => return some (.string (← Decoder.wire Wire.Reader.string))
  | .boolean => return some (.bool (← Decoder.wire Wire.Reader.bool))
  | .int32 => return some (.int (← Decoder.wire Wire.Reader.int32))
  | .int64 => return some (.long (← Decoder.wire Wire.Reader.int64))
  | .object typeName => return some (← deeper typeName)
  | .vector tag element => do
    let found ← Decoder.wire Wire.Reader.uint32
    if found = tag then
      let count ← Decoder.wire Wire.Reader.int32
      let items? ← readItems (element.read deeper owner strict) count.toInt.toNat #[]
      return items?.map .vector
    else if strict then throw (.wire (.vectorTagMismatch found tag owner))
    else return none

/-- Takes steps of reading on an object, which ends early when a value is missing. -/
def readFields (deeper : String → Decoder Value) (owner : String) (strict : Bool) :
    List DecodeStep → Value → Decoder Value
  | [], object => return object
  | .read field codec :: steps, object => do
    match ← codec.read deeper owner strict with
    | some value => readFields deeper owner strict steps (object.set field value)
    | none => return object
  | .readIfFlag bit field codec :: steps, object => do
    if Flags.has (object.flagWord flagsName) bit then
      match ← codec.read deeper owner strict with
      | some value => readFields deeper owner strict steps (object.set field value)
      | none => return object
    else readFields deeper owner strict steps object

namespace Registry

/-! ## Entry points -/

/-- Follows a constructor from the entry point of a plan to the plan whose own constructor it is, in
at most `steps` steps. Without a branch for it there is no such plan, which can be an error. -/
def follow (registry : Registry) (tag : UInt32) (strict : Bool) :
    (steps : Nat) → Plan → Except CodecError (Option Plan)
  | 0, _ => .error (.delegationDepth tag)
  | steps + 1, plan =>
    match plan.dispatch.route? tag with
    | none =>
      if strict then .error (.wire (.unrecognizedConstructor tag plan.typeName)) else .ok none
    | some branch =>
      match branch.action with
      | .decodeSelf => .ok (some plan)
      | .delegate sibling => do
        let next ← registry.plan sibling
        registry.follow tag strict steps next

/-- The plan that reads the objects of a constructor from the entry point of a type. -/
def resolve (registry : Registry) (typeName : String) (tag : UInt32) (strict : Bool) :
    Except CodecError (Option Plan) := do
  let plan ← registry.plan typeName
  registry.follow tag strict (maxDelegations + 1) plan

/-- Reads an object of a constructor through the entry point of a type, where `deeper` reads the
objects in it. -/
def readObjectWith (registry : Registry) (strict : Bool) (deeper : String → Decoder Value)
    (typeName : String) (tag : UInt32) : Decoder (Option Value) := do
  match ← Decoder.ofExcept (registry.resolve typeName tag strict) with
  | none => return none
  | some plan =>
    let object ← Decoder.ofExcept (registry.instantiate plan.typeName)
    let object ← readFields deeper plan.typeName strict plan.decode object
    return some object

/-- Reads the number of a constructor and the object after it with `read`; where that gives nothing,
takes the object of the type whose fields have not been set. -/
def readNested (registry : Registry) (read : String → UInt32 → Decoder (Option Value))
    (typeName : String) : Decoder Value := do
  let tag ← Decoder.wire Wire.Reader.uint32
  match ← read typeName tag with
  | some object => return object
  | none => Decoder.ofExcept (registry.instantiate typeName)

/-- Reads an object that may hold `levels` levels of objects. -/
def readObject (registry : Registry) (strict : Bool) :
    (levels : Nat) → String → UInt32 → Decoder (Option Value)
  | 0 => registry.readObjectWith strict fun _ => throw .nestingDepth
  | levels + 1 =>
    registry.readObjectWith strict (registry.readNested (registry.readObject strict levels))

/-- Reads the object of the constructor `tag` through the entry point of a type. -/
def decodeEntry (registry : Registry) (typeName : String) (tag : UInt32) (strict : Bool) :
    Decoder (Option Value) :=
  registry.readObject strict maxNesting typeName tag

/-- Reads the number of a constructor and its object through the entry point of a type. -/
def decodeNext (registry : Registry) (typeName : String) (strict : Bool) :
    Decoder (Option Value) := do
  let tag ← Decoder.wire Wire.Reader.uint32
  registry.decodeEntry typeName tag strict

/-- The object that bytes hold, through the entry point of a type. -/
def decode (registry : Registry) (bytes : ByteArray) (typeName : String) (strict : Bool) :
    Except CodecError (Option Value) :=
  match registry.decodeNext typeName strict (.ofBytes bytes) with
  | .ok value _ => .ok value
  | .error e _ => .error e

/-- The response to an object of a type. -/
def decodeResponse (registry : Registry) (bytes : ByteArray) (typeName : String) (strict : Bool) :
    Except CodecError (Option Value) := do
  let plan ← registry.plan typeName
  match plan.response? with
  | some response => registry.decode bytes response strict
  | none => throw (.noResponse plan.typeName)

end Registry

end TlSchema
