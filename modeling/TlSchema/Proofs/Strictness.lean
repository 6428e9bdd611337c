import TlSchema.Proofs.Agreement

/-!
# Strict and lenient reading

What does not match is an error in strict reading, while lenient reading makes do: an unknown
constructor gives nothing or a default, and a vector without its framing tag ends its object. There
is no other difference between the two. A strict run takes the same steps as the lenient one up to
the first mismatch, and there it fails; so a strict run that does not fail on a mismatch ends as the
lenient one does, in the same place.
-/

namespace TlSchema.Registry

open Wire Decoder

variable (registry : Registry)

/-- Strictly, a constructor is followed to the same plan as leniently, or fails with the same error,
or meets an entry point that does not know it. -/
theorem follow_strict (tag : UInt32) (steps : Nat) (plan : Plan) :
    (∃ found, registry.follow tag true steps plan = .ok (some found) ∧
        registry.follow tag false steps plan = .ok (some found)) ∨
      ∃ error, registry.follow tag true steps plan = .error error ∧
        (error.IsMismatch ∨ registry.follow tag false steps plan = .error error) := by
  induction steps generalizing plan with
  | zero => exact Or.inr ⟨_, rfl, Or.inr rfl⟩
  | succ steps ih =>
    unfold follow
    cases plan.dispatch.route? tag with
    | none => exact Or.inr ⟨_, rfl, Or.inl trivial⟩
    | some branch =>
      cases haction : branch.action with
      | decodeSelf =>
        simp only [haction]
        exact Or.inl ⟨plan, rfl, rfl⟩
      | delegate sibling =>
        simp only [haction]
        cases registry.plan sibling with
        | ok next => exact ih next
        | error e => exact Or.inr ⟨e, rfl, Or.inr rfl⟩

theorem resolve_strict (typeName : String) (tag : UInt32) :
    (∃ found, registry.resolve typeName tag true = .ok (some found) ∧
        registry.resolve typeName tag false = .ok (some found)) ∨
      ∃ error, registry.resolve typeName tag true = .error error ∧
        (error.IsMismatch ∨ registry.resolve typeName tag false = .error error) := by
  unfold resolve
  cases registry.plan typeName with
  | ok plan => exact registry.follow_strict tag _ plan
  | error e => exact Or.inr ⟨e, rfl, Or.inr rfl⟩

theorem readsAs_lenient : ReadsAs CodecError.IsMismatch false registry registry := by
  refine ⟨fun typeName => Or.inl rfl, fun typeName tag => ?_⟩
  rcases registry.resolve_strict typeName tag with ⟨found, hstrict, hlenient⟩ | hfails
  · exact Or.inl ⟨found, found, hstrict, hlenient, rfl, rfl⟩
  · exact Or.inr hfails

/-- Strictly, a constructor that leads to no plan is an error, so there always is an object. -/
theorem readObjectWith_strict_ne_none (deeper : String → Decoder Value) (typeName : String)
    (tag : UInt32) (cursor place : Cursor) :
    registry.readObjectWith true deeper typeName tag cursor ≠ .ok none place := by
  intro h
  obtain ⟨plan?, mid, hplan, hrest⟩ := Wire.bind_eq_ok.mp h
  have hresolve := (Decoder.ofExcept_eq_ok.mp hplan).1
  cases plan? with
  | none =>
    rcases registry.resolve_strict typeName tag with ⟨found, hfound, -⟩ | ⟨error, hfails, -⟩
    · cases hresolve.symm.trans hfound
    · cases hresolve.symm.trans hfails
  | some plan =>
    obtain ⟨unset, mid', -, hrest⟩ := Wire.bind_eq_ok.mp hrest
    obtain ⟨object, mid'', -, hvalue⟩ := Wire.bind_eq_ok.mp hrest
    cases hvalue

theorem readObject_strict_ne_none (levels : Nat) (typeName : String) (tag : UInt32)
    (cursor place : Cursor) :
    registry.readObject true levels typeName tag cursor ≠ .ok none place := by
  cases levels with
  | zero => exact registry.readObjectWith_strict_ne_none _ typeName tag cursor place
  | succ levels => exact registry.readObjectWith_strict_ne_none _ typeName tag cursor place

/-- Read strictly and leniently, an object ends alike and in the same place, or the strict run fails
on a mismatch. Where the strict run succeeds, there is an object and both runs give it. -/
theorem decodeEntry_strict_or_mismatch (typeName : String) (tag : UInt32) (cursor : Cursor) :
    (registry.decodeEntry typeName tag true cursor =
          registry.decodeEntry typeName tag false cursor ∨
        ∃ error place, registry.decodeEntry typeName tag true cursor = .error error place ∧
          error.IsMismatch) ∧
      ∀ found place, registry.decodeEntry typeName tag true cursor = .ok found place →
        ∃ value, found = some value ∧
          registry.decodeEntry typeName tag false cursor = .ok (some value) place := by
  have hagrees := agrees_readObject registry.readsAs_lenient (fun _ h => h) maxNesting typeName tag
    cursor
  refine ⟨hagrees, fun found place hstrict => ?_⟩
  cases found with
  | none => exact absurd hstrict (registry.readObject_strict_ne_none _ typeName tag cursor place)
  | some value =>
    refine ⟨value, rfl, ?_⟩
    rcases hagrees with hsame | ⟨error, place', hfails, -⟩
    · exact hsame.symm.trans hstrict
    · cases hstrict.symm.trans hfails

end TlSchema.Registry
