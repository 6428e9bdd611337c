import TlSchema.Proofs.ReadErrors
import TlSchema.Proofs.RoundTrip
import TlSchema.Proofs.Shapes

/-!
# Siblings read for one another

An object can be read through the entry point of any type that has a branch for its constructor. The
entry points of two siblings may have quite different branches, since each finds its family by its
own key, but what they do with a constructor that both know is the same: the plan that the
constructor belongs to reads the object. It is reached in one step at most, so entry points never
hand a constructor round.
-/

namespace TlSchema

open Wire Decoder

/-! ## Types of objects that are read -/

theorem Value.typeName?_set (value : Value) (name : String) (held : Value) :
    (value.set name held).typeName? = value.typeName? := by
  cases value <;> rfl

theorem Plan.typeName?_unset (plan : Plan) : plan.unset.typeName? = some plan.typeName := by
  have hfold : ∀ (fields : List FieldPlan) (object : Value),
      (fields.foldl (fun object field => object.set field.name field.initial.value)
        object).typeName? = object.typeName? := by
    intro fields
    induction fields with
    | nil => exact fun object => rfl
    | cons field fields ih => exact fun object => (ih _).trans (object.typeName?_set _ _)
  exact hfold plan.fields _

/-- Reading fields sets fields of the object, and its type stays. -/
theorem typeName?_readFields {deeper : String → Decoder Value} {owner : String} {strict : Bool}
    {steps : List DecodeStep} {object value : Value} {cursor place : Cursor}
    (h : readFields deeper owner strict steps object cursor = .ok value place) :
    value.typeName? = object.typeName? := by
  induction steps generalizing object cursor with
  | nil =>
    cases h
    rfl
  | cons step steps ih =>
    have hread : ∀ field codec, readFields deeper owner strict (.read field codec :: steps) object
        cursor = .ok value place → value.typeName? = object.typeName? := by
      intro field codec hrun
      obtain ⟨held?, mid, -, hrest⟩ := Wire.bind_eq_ok.mp hrun
      cases held? with
      | some held => exact (ih hrest).trans (object.typeName?_set field held)
      | none =>
        cases hrest
        rfl
    cases step with
    | read field codec => exact hread field codec h
    | readIfFlag bit field codec =>
      rw [readFields_readIfFlag] at h
      split_ifs at h
      · exact hread field codec h
      · exact ih h

namespace Registry

variable {registry : Registry}

/-- Reads the fields of a plan into an object of its type. -/
def readOwn (registry : Registry) (strict : Bool) (plan : Plan) : Decoder (Option Value) := do
  let object ← readFields (registry.readNested (registry.readObject strict (maxNesting - 1)))
    plan.typeName strict plan.decode plan.unset
  return some object

theorem decodeEntry_eq_readOwn {entry : String} {tag : UInt32} {strict : Bool} {plan : Plan}
    (hresolve : registry.resolve entry tag strict = .ok (some plan))
    (hplan : registry.plan plan.typeName = .ok plan) :
    registry.decodeEntry entry tag strict = registry.readOwn strict plan := by
  have hinst : registry.instantiate plan.typeName = .ok plan.unset := by
    rw [instantiate, hplan]
    rfl
  show registry.readObjectWith strict
    (registry.readNested (registry.readObject strict (maxNesting - 1))) entry tag = _
  unfold readObjectWith
  simp only [hresolve, hinst, Decoder.ofExcept_ok, pure_bind]
  rfl

theorem readOwn_gives_object {strict : Bool} {plan : Plan} {cursor place : Cursor}
    {found : Option Value} (h : registry.readOwn strict plan cursor = .ok found place) :
    ∃ fields, found = some (.object plan.typeName fields) := by
  obtain ⟨object, mid, hread, hfound⟩ := Wire.bind_eq_ok.mp h
  cases hfound
  have hname := (typeName?_readFields hread).trans plan.typeName?_unset
  cases object with
  | object typeName fields =>
    cases hname
    exact ⟨fields, rfl⟩
  | _ => cases hname

theorem plan_eq_error {typeName : String} {error : CodecError}
    (h : registry.plan typeName = .error error) : error = .unknownType typeName := by
  unfold Registry.plan at h
  split at h
  · cases h
  · cases h
    rfl

theorem instantiate_eq_error {typeName : String} {error : CodecError}
    (h : registry.instantiate typeName = .error error) : error = .unknownType typeName := by
  unfold instantiate at h
  cases hplan : registry.plan typeName with
  | ok plan =>
    rw [hplan] at h
    cases h
  | error e =>
    rw [hplan] at h
    cases h
    exact plan_eq_error hplan

/-- A constructor that the entry point has no branch for is refused or passed over there. -/
theorem decodeEntry_of_no_branch {entry : String} {plan : Plan} {tag : UInt32}
    (hplan : registry.plan entry = .ok plan)
    (h : ∀ branch ∈ plan.dispatch.branches, branch.tag ≠ tag) (cursor : Cursor) :
    registry.decodeEntry entry tag true cursor
        = .error (.wire (.unrecognizedConstructor tag entry)) cursor ∧
      registry.decodeEntry entry tag false cursor = .ok none cursor := by
  have hroute : plan.dispatch.route? tag = none := by
    rw [Dispatch.route?, List.find?_eq_none]
    intro branch hb
    simp [h branch hb]
  have hfollow : ∀ strict, registry.resolve entry tag strict
      = if strict then .error (.wire (.unrecognizedConstructor tag entry)) else .ok none := by
    intro strict
    rw [resolve, hplan]
    show registry.follow tag strict (maxDelegations + 1) plan = _
    unfold follow
    simp only [hroute, (mem_of_plan hplan).2]
  show registry.readObjectWith true _ entry tag cursor = _ ∧
    registry.readObjectWith false _ entry tag cursor = _
  unfold readObjectWith
  rw [hfollow, hfollow]
  exact ⟨rfl, rfl⟩

end Registry

/-! ## Schemas with distinct names and numbers -/

namespace Compilation.Accepted

variable {unit : Compilation} {symbolPrefix : String} {vectorTag : UInt32}

/-- What a branch is named after is reached by its tag, over one other entry point at most. -/
theorem leads_branch (hu : unit.Accepted symbolPrefix vectorTag) (hdist : unit.Distinct)
    {entry : String} {plan : Plan} (hplan : unit.registry.plan entry = .ok plan)
    {branch : DispatchBranch} (hb : branch ∈ plan.dispatch.branches) :
    ∃ own, unit.registry.plan branch.typeName = .ok own ∧
      ∃ hops ≤ 1, unit.registry.Leads branch.tag hops plan own := by
  obtain ⟨definition, hd, rfl, -⟩ := hu.definition_of_plan hplan
  obtain ⟨target, ht, hstands⟩ := Schema.branch_standsFor hu.schema_eq symbolPrefix hd hb
  refine ⟨unit.schema.planOf symbolPrefix vectorTag target, ?_, ?_⟩
  · rw [hstands.typeName_eq]
    exact hu.plan_of_definition hdist ht
  · rw [hstands.tag_eq]
    exact hu.leads_target hdist hd ht hb hstands.tag_eq

/-- There is a branch for the tag at the type's own entry point, which keeps the constructor. -/
theorem leads_typeName (hu : unit.Accepted symbolPrefix vectorTag) (hdist : unit.Distinct)
    {entry : String} {plan own : Plan} (hplan : unit.registry.plan entry = .ok plan)
    {branch : DispatchBranch} (hb : branch ∈ plan.dispatch.branches)
    (hown : unit.registry.plan branch.typeName = .ok own) :
    unit.registry.Leads branch.tag 0 own own := by
  obtain ⟨definition, hd, rfl, -⟩ := hu.definition_of_plan hplan
  obtain ⟨target, ht, rfl, hname⟩ := hu.definition_of_plan hown
  rw [hu.tag_of_typeName hdist hd ht hb hname.symm]
  exact hu.leads_own hdist ht

/-- No constructor is handed on too often, at any entry point. -/
theorem resolve_ne_delegationDepth (hu : unit.Accepted symbolPrefix vectorTag)
    (hdist : unit.Distinct) {entry : String} {tag : UInt32} {strict : Bool} {error : CodecError}
    (h : unit.registry.resolve entry tag strict = .error error) (depth : UInt32) :
    error ≠ .delegationDepth depth := by
  unfold Registry.resolve at h
  cases hplan : unit.registry.plan entry with
  | error e =>
    rw [hplan] at h
    cases h
    rw [Registry.plan_eq_error hplan]
    exact fun hdepth => by cases hdepth
  | ok plan =>
    rw [hplan] at h
    have hfollow : unit.registry.follow tag strict (maxDelegations + 1) plan = .error error := h
    cases hroute : plan.dispatch.route? tag with
    | none =>
      unfold Registry.follow at hfollow
      simp only [hroute] at hfollow
      cases strict with
      | true =>
        cases hfollow
        exact fun hdepth => by cases hdepth
      | false => cases hfollow
    | some branch =>
      have htag : branch.tag = tag := by simpa using List.find?_some hroute
      obtain ⟨own, -, hops, hle, hleads⟩ :=
        hu.leads_branch hdist hplan (List.mem_of_find?_eq_some hroute)
      rw [htag] at hleads
      rw [hleads.follow_eq strict (by unfold maxDelegations; omega)] at hfollow
      cases hfollow

theorem decodeEntry_ne_delegationDepth (hu : unit.Accepted symbolPrefix vectorTag)
    (hdist : unit.Distinct) (entry : String) (tag : UInt32) (strict : Bool) (cursor place : Cursor)
    (depth : UInt32) :
    unit.registry.decodeEntry entry tag strict cursor ≠ .error (.delegationDepth depth) place := by
  have hconfines : unit.registry.Confines (fun _ => True)
      (fun error => ∀ depth, error ≠ .delegationDepth depth) := by
    refine ⟨fun _ _ _ _ => hu.resolve_ne_delegationDepth hdist, fun _ error h => ?_,
      fun _ _ _ _ _ => trivial, fun _ _ _ _ _ _ _ _ _ => trivial⟩
    rw [Registry.instantiate_eq_error h]
    exact fun _ hdepth => by cases hdepth
  have hwire : ∀ error depth, CodecError.wire error ≠ .delegationDepth depth :=
    fun _ _ hdepth => by cases hdepth
  have hnesting : ∀ depth, CodecError.nestingDepth ≠ .delegationDepth depth :=
    fun _ hdepth => by cases hdepth
  intro h
  exact Registry.failsWithin_readObject hconfines hwire hnesting strict maxNesting trivial tag
    cursor _ place h depth rfl

end Compilation.Accepted

/-- With distinct names and numbers of constructors, an entry point does with every constructor it
has a branch for what the entry point of the constructor's own type does: it reads an object of that
type by its own plan, handing the constructor on once at most. No constructor is ever handed on too
often, and one without a branch is refused or passed over before anything is read. -/
theorem Compilation.decodeEntry_of_branch {text : String} {settings : Settings} {unit : Compilation}
    (hunit : ofText text settings = .ok unit) (hdist : unit.Distinct) :
    (∀ entry plan, unit.registry.plan entry = .ok plan → ∀ branch ∈ plan.dispatch.branches,
      ∃ own, unit.registry.plan branch.typeName = .ok own ∧
        (∃ hops ≤ 1, unit.registry.Leads branch.tag hops plan own) ∧
        ∀ strict, unit.registry.decodeEntry entry branch.tag strict
              = unit.registry.decodeEntry branch.typeName branch.tag strict ∧
            unit.registry.decodeEntry branch.typeName branch.tag strict
              = unit.registry.readOwn strict own ∧
            ∀ cursor found place, unit.registry.readOwn strict own cursor = .ok found place →
              ∃ fields, found = some (.object branch.typeName fields)) ∧
      (∀ entry tag strict cursor depth place,
        unit.registry.decodeEntry entry tag strict cursor
          ≠ .error (.delegationDepth depth) place) ∧
      ∀ entry plan, unit.registry.plan entry = .ok plan → ∀ tag,
        (∀ branch ∈ plan.dispatch.branches, branch.tag ≠ tag) → ∀ cursor,
          unit.registry.decodeEntry entry tag true cursor
              = .error (.wire (.unrecognizedConstructor tag entry)) cursor ∧
            unit.registry.decodeEntry entry tag false cursor = .ok none cursor := by
  obtain ⟨vectorTag, -, hu⟩ := accepted_of_ofText hunit
  refine ⟨fun entry plan hplan branch hb => ?_, fun entry tag strict cursor depth place => ?_,
    fun entry plan hplan tag hnone => Registry.decodeEntry_of_no_branch hplan hnone⟩
  · obtain ⟨own, hown, hops, hle, hleads⟩ := hu.leads_branch hdist hplan hb
    have hname := (Registry.mem_of_plan hown).2
    have hself : unit.registry.plan own.typeName = .ok own := by rw [hname, hown]
    have hentry : ∀ strict, unit.registry.resolve entry branch.tag strict = .ok (some own) := by
      intro strict
      rw [Registry.resolve, hplan]
      exact hleads.follow_eq strict (by unfold maxDelegations; omega)
    have hsibling : ∀ strict,
        unit.registry.resolve branch.typeName branch.tag strict = .ok (some own) := by
      intro strict
      rw [Registry.resolve, hown]
      exact (hu.leads_typeName hdist hplan hb hown).follow_eq strict (Nat.succ_pos _)
    refine ⟨own, hown, ⟨hops, hle, hleads⟩, fun strict => ?_⟩
    rw [Registry.decodeEntry_eq_readOwn (hentry strict) hself,
      Registry.decodeEntry_eq_readOwn (hsibling strict) hself, ← hname]
    exact ⟨rfl, rfl, fun cursor found place hread => Registry.readOwn_gives_object hread⟩
  · exact hu.decodeEntry_ne_delegationDepth hdist entry tag strict cursor place depth

namespace Example

/-- The entry point of `a.q` knows both members of its family. -/
theorem exists_branches_q : ∃ plan, unit.registry.plan "a_Q" = .ok plan ∧
    plan.dispatch.branches
      = [⟨2, "a.q", "a_Q", .decodeSelf⟩, ⟨3, "a.r", "a_R", .delegate "a_R"⟩] :=
  ⟨_, rfl, rfl⟩

/-- The entry point of `a.r` finds no family and knows its own constructor only. -/
theorem exists_branches_r : ∃ plan, unit.registry.plan "a_R" = .ok plan ∧
    plan.dispatch.branches = [⟨3, "a.r", "a_R", .decodeSelf⟩] :=
  ⟨_, rfl, rfl⟩

theorem decodeEntry_sibling :
    ∃ plan own, Compilation.ofText text {} = .ok unit ∧ unit.Distinct ∧
      unit.registry.plan "a_Q" = .ok plan ∧ unit.registry.plan "a_R" = .ok own ∧
      ⟨3, "a.r", "a_R", .delegate "a_R"⟩ ∈ plan.dispatch.branches ∧
      (∃ hops ≤ 1, unit.registry.Leads 3 hops plan own) ∧
      unit.registry.decodeEntry "a_Q" 3 true = unit.registry.decodeEntry "a_R" 3 true ∧
      unit.registry.decodeEntry "a_R" 3 true = unit.registry.readOwn true own ∧
      (∀ branch ∈ own.dispatch.branches, branch.tag ≠ 2) ∧
      ∀ cursor, unit.registry.decodeEntry "a_R" 2 false cursor = .ok none cursor := by
  obtain ⟨plan, hplan, hbranches⟩ := exists_branches_q
  obtain ⟨own, hown, hsingle⟩ := exists_branches_r
  obtain ⟨hsiblings, -, hmissing⟩ := Compilation.decodeEntry_of_branch ofText_text unit_distinct
  have hb : ⟨3, "a.r", "a_R", .delegate "a_R"⟩ ∈ plan.dispatch.branches := by simp [hbranches]
  have hnone : ∀ branch ∈ own.dispatch.branches, branch.tag ≠ 2 := by simp [hsingle]
  obtain ⟨own', hown', hleads, hreads⟩ := hsiblings "a_Q" plan hplan _ hb
  cases hown.symm.trans hown'
  obtain ⟨hsame, hread, -⟩ := hreads true
  exact ⟨plan, own, ofText_text, unit_distinct, hplan, hown, hb, hleads, hsame, hread, hnone,
    fun cursor => (hmissing "a_R" own hown 2 hnone cursor).2⟩

end Example

end TlSchema
