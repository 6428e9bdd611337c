import TlSchema.Proofs.ReadErrors
import TlSchema.Proofs.Shapes

/-!
# Runs of reading that agree

Two ways of reading are compared from every place in the bytes: they end alike and in the same
place, or the first one fails with an error that is excused. Strict reading is compared in this way
with lenient reading, and reading by one registry with reading by another. What two registries have
to have in common is that they find plans with the same fields, or that the first one fails to find
one (`Registry.ReadsAs`); that a strict run fails on a mismatch is always excused.
-/

namespace TlSchema

open Wire

/-- The error says that the bytes do not match: an entry point does not know a constructor, or a
vector lacks its framing tag. -/
def CodecError.IsMismatch : CodecError → Prop
  | .wire (.unrecognizedConstructor _ _) => True
  | .wire (.vectorTagMismatch _ _ _) => True
  | _ => False

namespace Decoder

variable {α β : Type} {excused : CodecError → Prop}

/-- From every place the first decoder does what the second one does, or fails with an error that is
excused. -/
def AgreesUnless (excused : CodecError → Prop) (first second : Decoder α) : Prop :=
  ∀ cursor, first cursor = second cursor ∨
    ∃ error place, first cursor = .error error place ∧ excused error

theorem AgreesUnless.refl (x : Decoder α) : AgreesUnless excused x x := fun _ => Or.inl rfl

theorem agrees_throw {error : CodecError} (h : excused error) (second : Decoder α) :
    AgreesUnless excused (throw error) second :=
  fun cursor => Or.inr ⟨error, cursor, rfl, h⟩

theorem agrees_ofExcept {first second : Except CodecError α}
    (h : first = second ∨ ∃ error, first = .error error ∧ excused error) :
    AgreesUnless excused (ofExcept first) (ofExcept second) := by
  intro cursor
  rcases h with rfl | ⟨error, rfl, hexcused⟩
  · exact Or.inl rfl
  · exact Or.inr ⟨error, cursor, rfl, hexcused⟩

/-- Runs that follow one another agree if each of them does. -/
theorem AgreesUnless.bind {first second : Decoder α} {next next' : α → Decoder β}
    (h : AgreesUnless excused first second) (h' : ∀ a, AgreesUnless excused (next a) (next' a)) :
    AgreesUnless excused (first >>= next) (second >>= next') := by
  intro cursor
  rcases h cursor with hsame | ⟨error, place, hfails, hexcused⟩
  · cases hrun : second cursor with
    | ok a place =>
      rw [bind_of_ok (hsame.trans hrun), bind_of_ok hrun]
      exact h' a place
    | error e place =>
      rw [bind_of_error (hsame.trans hrun), bind_of_error hrun]
      exact Or.inl rfl
  · exact Or.inr ⟨error, place, bind_of_error hfails next, hexcused⟩

end Decoder

open Decoder

/-! ## Values -/

section

variable {excused : CodecError → Prop} {deeper deeper' : String → Decoder Value}

/-- Items are read alike, one by one. -/
theorem agrees_readItems {first second : Decoder (Option Value)}
    (h : AgreesUnless excused first second) (count : Nat) (items : Array Value) :
    AgreesUnless excused (readItems first count items) (readItems second count items) := by
  induction count generalizing items with
  | zero => exact .refl _
  | succ count ih =>
    refine h.bind fun item? => ?_
    cases item? with
    | some item => exact ih (items.push item)
    | none => exact .refl _

/-- A value is read alike if that is so for the objects in it, unless a vector lacks its framing
tag. -/
theorem Codec.agrees_read (hmismatch : ∀ error, CodecError.IsMismatch error → excused error)
    (hdeeper : ∀ name, AgreesUnless excused (deeper name) (deeper' name)) (owner : String)
    (strict : Bool) (codec : Codec) :
    AgreesUnless excused (codec.read deeper owner true) (codec.read deeper' owner strict) := by
  induction codec with
  | object typeName => exact (hdeeper typeName).bind fun object => .refl _
  | vector tag element ih =>
    refine (AgreesUnless.refl _).bind fun found => ?_
    by_cases htag : found = tag
    · rw [if_pos htag, if_pos htag]
      refine (AgreesUnless.refl _).bind fun count => ?_
      exact (agrees_readItems ih _ _).bind fun items? => .refl _
    -- here the first run fails, whatever the second one does
    · rw [if_neg htag]
      exact agrees_throw (hmismatch (.wire (.vectorTagMismatch found tag owner)) trivial) _
  | _ => exact .refl _

/-- The steps of a plan set the same fields, or the first run has failed. -/
theorem agrees_readFields (hmismatch : ∀ error, CodecError.IsMismatch error → excused error)
    (hdeeper : ∀ name, AgreesUnless excused (deeper name) (deeper' name)) (owner : String)
    (strict : Bool) (steps : List DecodeStep) (object : Value) :
    AgreesUnless excused (readFields deeper owner true steps object)
      (readFields deeper' owner strict steps object) := by
  induction steps generalizing object with
  | nil => exact .refl _
  | cons step steps ih =>
    have hread : ∀ field codec, AgreesUnless excused
        (readFields deeper owner true (.read field codec :: steps) object)
        (readFields deeper' owner strict (.read field codec :: steps) object) := by
      intro field codec
      refine (codec.agrees_read hmismatch hdeeper owner strict).bind fun value? => ?_
      cases value? with
      | some value => exact ih (object.set field value)
      | none => exact .refl _
    cases step with
    | read field codec => exact hread field codec
    | readIfFlag bit field codec =>
      rw [readFields_readIfFlag, readFields_readIfFlag]
      split_ifs
      · exact hread field codec
      · exact ih object

end

/-! ## Objects -/

namespace Registry

/-- What the first registry finds strictly, the second one finds too: the same unset objects, and
plans with the same fields to read. Otherwise the first one fails, with an error that is excused or
that the second one fails with too. -/
structure ReadsAs (excused : CodecError → Prop) (strict : Bool) (first second : Registry) :
    Prop where
  instantiate : ∀ typeName, first.instantiate typeName = second.instantiate typeName ∨
    ∃ error, first.instantiate typeName = .error error ∧ excused error
  resolve : ∀ typeName tag,
    (∃ plan plan', first.resolve typeName tag true = .ok (some plan) ∧
        second.resolve typeName tag strict = .ok (some plan') ∧
        plan'.typeName = plan.typeName ∧ plan'.decode = plan.decode) ∨
      ∃ error, first.resolve typeName tag true = .error error ∧
        (excused error ∨ second.resolve typeName tag strict = .error error)

variable {excused : CodecError → Prop} {strict : Bool} {first second : Registry}

/-- An object is read alike if that is so for the objects in it, by what the two registries find for
it. -/
theorem agrees_readObjectWith (h : ReadsAs excused strict first second)
    (hmismatch : ∀ error, CodecError.IsMismatch error → excused error)
    {deeper deeper' : String → Decoder Value}
    (hdeeper : ∀ name, AgreesUnless excused (deeper name) (deeper' name)) (typeName : String)
    (tag : UInt32) :
    AgreesUnless excused (first.readObjectWith true deeper typeName tag)
      (second.readObjectWith strict deeper' typeName tag) := by
  unfold readObjectWith
  rcases h.resolve typeName tag with ⟨plan, plan', hplan, hplan', hname, hdecode⟩ |
    ⟨error, hfails, hexcused | hfails'⟩
  · simp only [hplan, hplan', hname, hdecode, Decoder.ofExcept_ok, pure_bind]
    refine (agrees_ofExcept (h.instantiate plan.typeName)).bind fun unset => ?_
    exact (agrees_readFields hmismatch hdeeper plan.typeName strict plan.decode unset).bind
      fun object => .refl _
  · rw [hfails]
    exact fun cursor => Or.inr ⟨error, cursor, rfl, hexcused⟩
  · rw [hfails, hfails']
    exact fun cursor => Or.inl rfl

/-- An object in a field is read alike, also where it is left at its default. -/
theorem agrees_readNested (h : ReadsAs excused strict first second)
    {read read' : String → UInt32 → Decoder (Option Value)}
    (hread : ∀ name tag, AgreesUnless excused (read name tag) (read' name tag))
    (typeName : String) :
    AgreesUnless excused (first.readNested read typeName) (second.readNested read' typeName) := by
  refine (AgreesUnless.refl _).bind fun tag => (hread typeName tag).bind fun object? => ?_
  cases object? with
  | some object => exact .refl _
  | none => exact agrees_ofExcept (h.instantiate typeName)

/-- Strict reading by the first registry agrees with reading by the second one. -/
theorem agrees_readObject (h : ReadsAs excused strict first second)
    (hmismatch : ∀ error, CodecError.IsMismatch error → excused error) (levels : Nat)
    (typeName : String) (tag : UInt32) :
    AgreesUnless excused (first.readObject true levels typeName tag)
      (second.readObject strict levels typeName tag) := by
  induction levels generalizing typeName tag with
  | zero => exact agrees_readObjectWith h hmismatch (fun _ => .refl _) typeName tag
  | succ levels ih =>
    exact agrees_readObjectWith h hmismatch (agrees_readNested h ih) typeName tag

end Registry

end TlSchema
