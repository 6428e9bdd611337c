import TlSchema.Proofs.Appending
import TlSchema.Proofs.FieldMaps
import TlSchema.Proofs.Strictness

/-!
# Registries that extend one another

A registry extends another one if it has all its plans, with the same fields and the same steps, and
if its entry points still do with a constructor what they did; they may know more constructors.
Objects of the smaller registry are written alike by both. What the smaller one reads strictly, the
larger one reads as the same object; read leniently it need not be, since a constructor that is
passed over by one may be known to the other.
-/

namespace TlSchema

open Decoder Encoder Wire

/-! ## Types in a value -/

namespace Value

mutual

/-- The types of all objects in a value, at any depth. -/
def typeNames : Value → List String
  | .vector items => itemTypeNames items
  | .object typeName fields => typeName :: fieldTypeNames fields
  | _ => []

/-- The types of all objects in a list of values. -/
def itemTypeNames : List Value → List String
  | [] => []
  | item :: items => item.typeNames ++ itemTypeNames items

/-- The types of all objects in a list of fields. -/
def fieldTypeNames : List (String × Value) → List String
  | [] => []
  | (_, held) :: fields => held.typeNames ++ fieldTypeNames fields

end

/-- The types in an item of a list are types in the list. -/
theorem typeNames_item {items : List Value} {item : Value} (h : item ∈ items) :
    item.typeNames ⊆ (Value.vector items).typeNames := by
  show item.typeNames ⊆ itemTypeNames items
  induction items with
  | nil => cases h
  | cons first items ih =>
    rw [itemTypeNames]
    rcases List.mem_cons.mp h with rfl | h
    · exact List.subset_append_left _ _
    · exact List.Subset.trans (ih h) (List.subset_append_right _ _)

/-- The types in a field of an object are types in the object. -/
theorem typeNames_held {typeName name : String} {fields : List (String × Value)} {held : Value}
    (h : Fields.find? name fields = some held) :
    held.typeNames ⊆ (Value.object typeName fields).typeNames := by
  have hfields : held.typeNames ⊆ fieldTypeNames fields := by
    induction fields with
    | nil => cases h
    | cons field fields ih =>
      obtain ⟨key, first⟩ := field
      rw [fieldTypeNames]
      unfold Fields.find? at h
      split_ifs at h
      · cases h
        exact List.subset_append_left _ _
      · exact List.Subset.trans (ih h) (List.subset_append_right _ _)
  exact List.Subset.trans hfields (List.subset_cons_self _ _)

end Value

/-! ## Extensions -/

/-- The second plan is the first one, but its entry point may know more constructors. -/
structure Plan.Extends (small large : Plan) : Prop where
  typeName_eq : large.typeName = small.typeName
  fields_eq : large.fields = small.fields
  encode_eq : large.encode = small.encode
  decode_eq : large.decode = small.decode
  /-- What the entry point does with a constructor it does still. -/
  route : ∀ ⦃tag branch⦄, small.dispatch.route? tag = some branch →
    ∃ taken, large.dispatch.route? tag = some taken ∧ taken.action = branch.action

theorem Plan.Extends.unset_eq {small large : Plan} (h : small.Extends large) :
    large.unset = small.unset := by
  rw [unset, unset, h.fields_eq, h.typeName_eq]

theorem Plan.Extends.field?_eq {small large : Plan} (h : small.Extends large) (name : String) :
    large.field? name = small.field? name := by
  rw [field?, field?, h.fields_eq]

namespace Registry

/-- The second registry has all plans of the first one. -/
def Extends (small large : Registry) : Prop :=
  ∀ ⦃typeName plan⦄, small.plan typeName = .ok plan →
    ∃ plan', large.plan typeName = .ok plan' ∧ plan.Extends plan'

/-- There are plans for the types of all objects in the value. -/
def Knows (registry : Registry) (value : Value) : Prop :=
  ∀ typeName ∈ value.typeNames, ∃ plan, registry.plan typeName = .ok plan

/-- There are plans for all objects that fields have as their defaults. -/
def KnowsDefaults (registry : Registry) : Prop :=
  ∀ ⦃typeName plan⦄, registry.plan typeName = .ok plan →
    ∀ field ∈ plan.fields, registry.Knows field.initial.value

variable {small large : Registry}

theorem Knows.item {items : List Value} (h : small.Knows (.vector items)) {item : Value}
    (hitem : item ∈ items) : small.Knows item :=
  fun typeName hname => h typeName (Value.typeNames_item hitem hname)

theorem Knows.held {object : Value} (h : small.Knows object) {name : String} {held : Value}
    (hheld : object.get? name = some held) : small.Knows held := by
  cases object with
  | object typeName fields => exact fun n hn => h n (Value.typeNames_held hheld hn)
  | _ => cases hheld

/-! ## Writing -/

/-- One level of the test against a default comes to the same, since plans have the same fields. -/
theorem isDefaultWith_eq (hext : small.Extends large)
    {deeper deeper' : DefaultValue → Value → Except CodecError Bool}
    (hdeeper : ∀ initial held, small.Knows held → deeper' initial held = deeper initial held)
    (initial : DefaultValue) {value : Value} (hvalue : small.Knows value) :
    large.isDefaultWith deeper' initial value = small.isDefaultWith deeper initial value := by
  cases initial with
  | construct typeName =>
    cases value with
    | object name fields =>
      unfold isDefaultWith
      by_cases hname : name = typeName
      · subst hname
        obtain ⟨plan, hplan⟩ := hvalue name List.mem_cons_self
        obtain ⟨plan', hplan', hpext⟩ := hext hplan
        simp only [if_true, hplan, hplan']
        show List.allM _ plan'.fields = List.allM _ plan.fields
        rw [hpext.fields_eq]
        refine Results.allM_congr fun field _ => ?_
        cases hheld : Fields.find? field.name fields with
        | none => rfl
        | some held => exact hdeeper field.initial held (hvalue.held hheld)
      · simp only [if_neg hname]
    | _ => rfl
  | _ => cases value <;> rfl

/-- The test against a default comes to the same at every depth. -/
theorem isDefault_eq (hext : small.Extends large) (levels : Nat) (initial : DefaultValue)
    {value : Value} (hvalue : small.Knows value) :
    large.isDefault levels initial value = small.isDefault levels initial value := by
  induction levels generalizing initial value with
  | zero => exact isDefaultWith_eq hext (fun _ _ _ => rfl) initial hvalue
  | succ levels ih => exact isDefaultWith_eq hext (fun initial _ => ih initial) initial hvalue

/-- So the same flags are set. -/
theorem flagsOf_eq (hext : small.Extends large) {plan plan' : Plan} (hpext : plan.Extends plan')
    (levels : Nat) {object : Value} (hobject : small.Knows object) (flagsField : String)
    (bindings : List FlagBinding) :
    large.flagsOf levels plan' object flagsField bindings
      = small.flagsOf levels plan object flagsField bindings := by
  have hdefault : large.fieldIsDefault levels plan' object
      = small.fieldIsDefault levels plan object := by
    funext field
    unfold fieldIsDefault
    rw [hpext.field?_eq]
    cases hheld : object.get? field with
    | none => rfl
    | some held =>
      cases plan.field? field with
      | none => rfl
      | some fieldPlan => exact isDefault_eq hext levels fieldPlan.initial (hobject.held hheld)
  unfold flagsOf
  rw [hdefault]

end Registry

section

variable {small : Registry} {deeper deeper' : Value → Encoder Unit}

/-- A value is written alike if that is so for the objects in it. -/
theorem Codec.write_eq (hdeeper : ∀ object, small.Knows object → deeper' object = deeper object)
    (codec : Codec) {value : Value} (hvalue : small.Knows value) :
    codec.write deeper' value = codec.write deeper value := by
  induction codec generalizing value with
  | vector tag element ih =>
    cases value with
    | vector items =>
      have hitems : items.forM (element.write deeper') = items.forM (element.write deeper) :=
        forM_congr (List.forall₂_same.mpr fun item hitem => ih (hvalue.item hitem))
      simp only [Codec.write, hitems]
    | _ => rfl
  | object typeName =>
    cases value with
    | object name fields => exact hdeeper _ hvalue
    | _ => rfl
  | _ => cases value <;> rfl

/-- A field is written alike, also where it is missing and its default is written for it. -/
theorem Plan.Extends.writeField_eq {plan plan' : Plan} (hpext : plan.Extends plan')
    (hdeeper : ∀ object, small.Knows object → deeper' object = deeper object)
    (hdefaults : ∀ field ∈ plan.fields, small.Knows field.initial.value) {object : Value}
    (hobject : small.Knows object) (field : String) (codec : Codec) :
    plan'.writeField deeper' object field codec = plan.writeField deeper object field codec := by
  unfold Plan.writeField
  rw [hpext.field?_eq, hpext.typeName_eq]
  cases hheld : object.get? field with
  | some held => exact codec.write_eq hdeeper (hobject.held hheld)
  | none =>
    cases hfield : plan.field? field with
    | none => rfl
    | some fieldPlan =>
      exact codec.write_eq hdeeper (hdefaults fieldPlan (List.mem_of_find?_eq_some hfield))

end

namespace Registry

variable {small large : Registry}

/-- One step of a plan does the same. -/
theorem writeStep_eq (hext : small.Extends large) {plan plan' : Plan} (hpext : plan.Extends plan')
    {deeper deeper' : Value → Encoder Unit}
    (hdeeper : ∀ object, small.Knows object → deeper' object = deeper object)
    (hdefaults : ∀ field ∈ plan.fields, small.Knows field.initial.value) (levels : Nat)
    {object : Value} (hobject : small.Knows object) :
    large.writeStep levels deeper' plan' object = small.writeStep levels deeper plan object := by
  have hfield := hpext.writeField_eq hdeeper hdefaults hobject
  funext flags? step
  cases step with
  | writeConstructor id => rfl
  | recomputeFlags flagsField bindings =>
    simp only [writeStep, flagsOf_eq hext hpext levels hobject]
  | write field codec => simp only [writeStep, hfield]
  | writeIfFlag bit field codec => simp only [writeStep, hfield]

theorem writeObjectWith_eq_of_extends (hext : small.Extends large) (hclosed : small.KnowsDefaults)
    {deeper deeper' : Value → Encoder Unit}
    (hdeeper : ∀ object, small.Knows object → deeper' object = deeper object) (levels : Nat)
    {value : Value} (hvalue : small.Knows value) :
    large.writeObjectWith levels deeper' value = small.writeObjectWith levels deeper value := by
  cases value with
  | object typeName fields =>
    obtain ⟨plan, hplan⟩ := hvalue typeName List.mem_cons_self
    obtain ⟨plan', hplan', hpext⟩ := hext hplan
    simp only [writeObjectWith, hplan, hplan', Encoder.ofExcept_ok, pure_bind, hpext.encode_eq,
      writeStep_eq hext hpext hdeeper (hclosed hplan) levels hvalue]
  | _ => rfl

/-- Objects whose types the smaller registry knows are written alike. -/
theorem writeObject_eq_of_extends (hext : small.Extends large) (hclosed : small.KnowsDefaults)
    (levels : Nat) {value : Value} (hvalue : small.Knows value) :
    large.writeObject levels value = small.writeObject levels value := by
  induction levels generalizing value with
  | zero => exact writeObjectWith_eq_of_extends hext hclosed (fun _ _ => rfl) 0 hvalue
  | succ levels ih =>
    exact writeObjectWith_eq_of_extends hext hclosed (fun _ => ih) (levels + 1) hvalue

theorem encode_eq_of_extends (hext : small.Extends large) (hclosed : small.KnowsDefaults)
    {value : Value} (hvalue : small.Knows value) : large.encode value = small.encode value := by
  rw [encode, encode, encodeInto, encodeInto, writeObject_eq_of_extends hext hclosed _ hvalue]

end Registry

/-! ## Reading -/

namespace Registry

variable {small large : Registry}

/-- Where the smaller registry finds the plan of a constructor, the larger one finds its like. -/
theorem follow_of_extends (hext : small.Extends large) {tag : UInt32} {strict : Bool} {steps : Nat}
    {plan plan' target : Plan} (hpext : plan.Extends plan')
    (h : small.follow tag strict steps plan = .ok (some target)) :
    ∃ target', large.follow tag strict steps plan' = .ok (some target') ∧
      target.Extends target' := by
  induction steps generalizing plan plan' with
  | zero => cases h
  | succ steps ih =>
    unfold follow at h ⊢
    cases hroute : plan.dispatch.route? tag with
    | none =>
      simp only [hroute] at h
      cases strict <;> cases h
    | some branch =>
      obtain ⟨taken, htaken, haction⟩ := hpext.route hroute
      simp only [hroute] at h
      simp only [htaken, haction]
      cases hdo : branch.action with
      | decodeSelf =>
        simp only [hdo] at h
        cases h
        exact ⟨plan', rfl, hpext⟩
      | delegate sibling =>
        simp only [hdo] at h
        obtain ⟨next, hnext, hrest⟩ := Results.bind_eq_ok.mp h
        obtain ⟨next', hnext', hnext⟩ := hext hnext
        simp only [hnext']
        exact ih hnext hrest

/-- Where the smaller registry finds a plan, the larger one finds one with the same fields to read;
where it finds none, it fails. -/
theorem readsAs_of_extends (hext : small.Extends large) :
    ReadsAs (fun _ => True) true small large := by
  refine ⟨fun typeName => ?_, fun typeName tag => ?_⟩
  · unfold instantiate
    cases hplan : small.plan typeName with
    | error e => exact Or.inr ⟨e, rfl, trivial⟩
    | ok plan =>
      obtain ⟨plan', hplan', hpext⟩ := hext hplan
      rw [hplan']
      exact Or.inl (congrArg Except.ok hpext.unset_eq.symm)
  · rcases small.resolve_strict typeName tag with ⟨plan, hresolve, -⟩ | ⟨error, hfails, -⟩
    · obtain ⟨start, hstart, hfollow⟩ := Results.bind_eq_ok.mp hresolve
      obtain ⟨start', hstart', hsext⟩ := hext hstart
      obtain ⟨plan', hfollow', hpext⟩ := follow_of_extends hext hsext hfollow
      have hresolve' : large.resolve typeName tag true = .ok (some plan') := by
        rw [resolve, hstart']
        exact hfollow'
      exact Or.inl ⟨plan, plan', hresolve, hresolve', hpext.typeName_eq, hpext.decode_eq⟩
    · exact Or.inr ⟨error, hfails, Or.inl trivial⟩

/-- What the smaller registry reads strictly, the larger one reads as well. -/
theorem decode_of_extends (hext : small.Extends large) {bytes : ByteArray} {typeName : String}
    {found : Option Value} (h : small.decode bytes typeName true = .ok found) :
    large.decode bytes typeName true = .ok found := by
  have hagrees : AgreesUnless (fun _ => True) (small.decodeNext typeName true)
      (large.decodeNext typeName true) :=
    (AgreesUnless.refl _).bind fun tag =>
      agrees_readObject (readsAs_of_extends hext) (fun _ _ => trivial) maxNesting typeName tag
  unfold decode at h ⊢
  rcases hagrees (.ofBytes bytes) with hsame | ⟨error, place, hfails, -⟩
  · rw [← hsame]
    exact h
  · rw [hfails] at h
    cases h

end Registry

end TlSchema
