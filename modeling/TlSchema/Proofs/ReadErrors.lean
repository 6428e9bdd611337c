import Mathlib.Tactic.SplitIfs
import TlSchema.Registry.Decode

/-!
# Errors of reading

Reading fails with an error of the wire, because objects are nested too deep, or because no plan is
found for a constructor or for a type. `Registry.failsWithin_readObject` traces every error of
reading an object back to one of these, over all types that can be met on the way.
-/

namespace TlSchema

open Wire

/-- The type of the objects in a value, at the bottom of any nesting of vectors. -/
def Codec.leaf? : Codec → Option String
  | .object typeName => some typeName
  | .vector _ element => element.leaf?
  | _ => none

/-- How the value that a step may read stands on the wire. -/
def DecodeStep.codec : DecodeStep → Codec
  | .read _ codec => codec
  | .readIfFlag _ _ codec => codec

namespace Decoder

variable {α β : Type} {allowed : CodecError → Prop}

/-- From every place, the decoder fails with no other errors than those that are allowed. -/
def FailsWithin (allowed : CodecError → Prop) (decoder : Decoder α) : Prop :=
  ∀ cursor error place, decoder cursor = .error error place → allowed error

theorem failsWithin_pure (a : α) : FailsWithin allowed (pure a) := by
  intro cursor error place h
  cases h

theorem failsWithin_throw {error : CodecError} (h : allowed error) :
    FailsWithin allowed (throw error : Decoder α) := by
  intro cursor error' place h'
  cases h'
  exact h

theorem failsWithin_wire (hwire : ∀ error, allowed (.wire error)) (reader : Reader α) :
    FailsWithin allowed (Decoder.wire reader) := by
  intro cursor error place h
  unfold Decoder.wire EStateM.adaptExcept at h
  split at h
  · cases h
    exact hwire _
  · cases h

theorem failsWithin_ofExcept {result : Except CodecError α}
    (h : ∀ error, result = .error error → allowed error) :
    FailsWithin allowed (ofExcept result) := by
  intro cursor error place h'
  cases result with
  | ok a => cases h'
  | error e =>
    cases h'
    exact h _ rfl

/-- What is read after something else need only be right about what that can give. -/
theorem FailsWithin.bind_of_ok {x : Decoder α} {next : α → Decoder β} (hx : FailsWithin allowed x)
    (hnext : ∀ a, (∃ cursor place, x cursor = .ok a place) → FailsWithin allowed (next a)) :
    FailsWithin allowed (x >>= next) := by
  intro cursor error place h
  have hbind : EStateM.bind x next cursor = .error error place := h
  unfold EStateM.bind at hbind
  split at hbind
  · rename_i a mid hrun
    exact hnext a ⟨cursor, mid, hrun⟩ mid error place hbind
  · rename_i e mid hrun
    cases hbind
    exact hx cursor error place hrun

theorem FailsWithin.bind {x : Decoder α} {next : α → Decoder β} (hx : FailsWithin allowed x)
    (hnext : ∀ a, FailsWithin allowed (next a)) : FailsWithin allowed (x >>= next) :=
  hx.bind_of_ok fun a _ => hnext a

end Decoder

open Decoder

/-! ## Values -/

section

variable {allowed : CodecError → Prop} {deeper : String → Decoder Value}

theorem failsWithin_readItems {read : Decoder (Option Value)} (h : FailsWithin allowed read)
    (count : Nat) (items : Array Value) : FailsWithin allowed (readItems read count items) := by
  induction count generalizing items with
  | zero => exact failsWithin_pure _
  | succ count ih =>
    refine h.bind fun item? => ?_
    cases item? with
    | some item => exact ih (items.push item)
    | none => exact failsWithin_pure _

theorem Codec.failsWithin_read (hwire : ∀ error, allowed (.wire error)) (owner : String)
    (strict : Bool) {codec : Codec}
    (hdeeper : ∀ name, codec.leaf? = some name → FailsWithin allowed (deeper name)) :
    FailsWithin allowed (codec.read deeper owner strict) := by
  induction codec with
  | object typeName => exact (hdeeper typeName rfl).bind fun _ => failsWithin_pure _
  | vector tag element ih =>
    refine (failsWithin_wire hwire _).bind fun found => ?_
    by_cases htag : found = tag
    · rw [if_pos htag]
      refine (failsWithin_wire hwire _).bind fun count => ?_
      exact (failsWithin_readItems (ih hdeeper) _ _).bind fun _ => failsWithin_pure _
    · rw [if_neg htag]
      cases strict with
      | true => exact failsWithin_throw (hwire _)
      | false => exact failsWithin_pure _
  | _ => exact (failsWithin_wire hwire _).bind fun _ => failsWithin_pure _

/-- A guarded field is read like any other if its bit is set, and passed over otherwise. -/
theorem readFields_readIfFlag (deeper : String → Decoder Value) (owner : String) (strict : Bool)
    (bit : UInt8) (field : String) (codec : Codec) (steps : List DecodeStep) (object : Value) :
    readFields deeper owner strict (.readIfFlag bit field codec :: steps) object =
      if Flags.has (object.flagWord flagsName) bit then
        readFields deeper owner strict (.read field codec :: steps) object
      else readFields deeper owner strict steps object := rfl

theorem failsWithin_readFields (hwire : ∀ error, allowed (.wire error)) (owner : String)
    (strict : Bool) {steps : List DecodeStep}
    (hdeeper : ∀ step ∈ steps, ∀ name, step.codec.leaf? = some name →
      FailsWithin allowed (deeper name)) (object : Value) :
    FailsWithin allowed (readFields deeper owner strict steps object) := by
  induction steps generalizing object with
  | nil => exact failsWithin_pure _
  | cons step steps ih =>
    have ih := ih fun other ho => hdeeper other (List.mem_cons_of_mem step ho)
    have hread : ∀ field codec, codec = step.codec → FailsWithin allowed
        (readFields deeper owner strict (.read field codec :: steps) object) := by
      rintro field codec rfl
      refine (Codec.failsWithin_read hwire owner strict (hdeeper step List.mem_cons_self)).bind
        fun value? => ?_
      cases value? with
      | some value => exact ih (object.set field value)
      | none => exact failsWithin_pure _
    cases step with
    | read field codec => exact hread field codec rfl
    | readIfFlag bit field codec =>
      rw [readFields_readIfFlag]
      split_ifs
      · exact hread field codec rfl
      · exact ih object

end

/-! ## Objects -/

namespace Registry

/-- From a known type only known types are met in reading, and no plan fails to be found but with an
error that is allowed. -/
structure Confines (registry : Registry) (known : String → Prop) (allowed : CodecError → Prop) :
    Prop where
  resolve : ∀ {typeName}, known typeName → ∀ {tag strict error},
    registry.resolve typeName tag strict = .error error → allowed error
  instantiate : ∀ {typeName}, known typeName → ∀ {error},
    registry.instantiate typeName = .error error → allowed error
  found : ∀ {typeName}, known typeName → ∀ {tag strict plan},
    registry.resolve typeName tag strict = .ok (some plan) → known plan.typeName
  fields : ∀ {typeName}, known typeName → ∀ {tag strict plan},
    registry.resolve typeName tag strict = .ok (some plan) →
      ∀ step ∈ plan.decode, ∀ name, step.codec.leaf? = some name → known name

variable {registry : Registry} {known : String → Prop} {allowed : CodecError → Prop}

theorem failsWithin_readObjectWith (h : registry.Confines known allowed)
    (hwire : ∀ error, allowed (.wire error)) {deeper : String → Decoder Value}
    (hdeeper : ∀ name, known name → FailsWithin allowed (deeper name)) (strict : Bool)
    {typeName : String} (hknown : known typeName) (tag : UInt32) :
    FailsWithin allowed (registry.readObjectWith strict deeper typeName tag) := by
  refine (failsWithin_ofExcept fun error => h.resolve hknown).bind_of_ok fun plan? hplan => ?_
  cases plan? with
  | none => exact failsWithin_pure _
  | some plan =>
    have hresolve : registry.resolve typeName tag strict = .ok (some plan) := by
      obtain ⟨cursor, place, hrun⟩ := hplan
      cases hr : registry.resolve typeName tag strict with
      | ok found =>
        rw [hr] at hrun
        cases hrun
        rfl
      | error e =>
        rw [hr] at hrun
        cases hrun
    refine (failsWithin_ofExcept fun error => h.instantiate (h.found hknown hresolve)).bind
      fun unset => ?_
    refine (failsWithin_readFields hwire plan.typeName strict (fun step hstep name hleaf => ?_)
      unset).bind fun _ => failsWithin_pure _
    exact hdeeper name (h.fields hknown hresolve step hstep name hleaf)

theorem failsWithin_readNested (h : registry.Confines known allowed)
    (hwire : ∀ error, allowed (.wire error)) {read : String → UInt32 → Decoder (Option Value)}
    {typeName : String} (hknown : known typeName)
    (hread : ∀ tag, FailsWithin allowed (read typeName tag)) :
    FailsWithin allowed (registry.readNested read typeName) := by
  refine (failsWithin_wire hwire _).bind fun tag => (hread tag).bind fun object? => ?_
  cases object? with
  | some object => exact failsWithin_pure _
  | none => exact failsWithin_ofExcept fun error => h.instantiate hknown

/-- Reading an object of a known type fails with errors that are allowed only. -/
theorem failsWithin_readObject (h : registry.Confines known allowed)
    (hwire : ∀ error, allowed (.wire error)) (hnesting : allowed .nestingDepth) (strict : Bool)
    (levels : Nat) {typeName : String} (hknown : known typeName) (tag : UInt32) :
    FailsWithin allowed (registry.readObject strict levels typeName tag) := by
  induction levels generalizing typeName tag with
  | zero =>
    exact failsWithin_readObjectWith h hwire (fun _ _ => failsWithin_throw hnesting) strict hknown
      tag
  | succ levels ih =>
    exact failsWithin_readObjectWith h hwire
      (fun name hname => failsWithin_readNested h hwire hname fun tag' => ih hname tag')
      strict hknown tag

end Registry

end TlSchema
