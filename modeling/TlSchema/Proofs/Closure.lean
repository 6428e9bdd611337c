import TlSchema.Proofs.Extension
import TlSchema.Proofs.WriteErrors

/-!
# Plans are closed

Whatever a plan of a schema refers to is there: the types of its fields and of their defaults and
the types that its entry point hands constructors to have plans, and the fields that its steps of
writing name are fields it knows. References are compared by output names without the symbols before
them, which makes no difference, since all output names start with the same symbols. Nothing else of
the check of a schema is needed for this.

In a closed registry no run of reading or writing that starts from types that have plans comes to
one that has none.
-/

namespace TlSchema

open Wire Decoder Encoder

/-- The error is another one than that there is no plan. -/
def CodecError.IsOther (error : CodecError) : Prop := ∀ name, error ≠ .unknownType name

/-- The type of the object that a default is, if it is one. -/
def DefaultValue.leaf? : DefaultValue → Option String
  | .construct typeName => some typeName
  | _ => none

namespace EncodeStep

/-- How the value that a step may write stands on the wire, if it may write one. -/
def codec? : EncodeStep → Option Codec
  | .write _ codec => some codec
  | .writeIfFlag _ _ codec => some codec
  | _ => none

/-- The fields that a step names. -/
def fields : EncodeStep → List String
  | .writeConstructor _ => []
  | .recomputeFlags flagsField bindings => flagsField :: bindings.map (·.field)
  | .write field _ => [field]
  | .writeIfFlag _ field _ => [field]

end EncodeStep

/-- Everything that the plan refers to is in it or among the given output names. -/
structure Plan.Closed (names : List String) (plan : Plan) : Prop where
  /-- The types of fields. -/
  target : ∀ field ∈ plan.fields, ∀ name, field.target.leaf? = some name → name ∈ names
  /-- The types of values that are read. -/
  decode : ∀ step ∈ plan.decode, ∀ name, step.codec.leaf? = some name → name ∈ names
  /-- The types of values that are written. -/
  encode : ∀ step ∈ plan.encode, ∀ codec, step.codec? = some codec →
    ∀ name, codec.leaf? = some name → name ∈ names
  /-- The types of defaults. -/
  initial : ∀ field ∈ plan.fields, ∀ name, field.initial.leaf? = some name → name ∈ names
  /-- The types that constructors are handed to. -/
  delegate : ∀ branch ∈ plan.dispatch.branches, ∀ name, branch.action = .delegate name →
    name ∈ names
  /-- The fields that the steps of writing name. -/
  fields : ∀ step ∈ plan.encode, ∀ name ∈ step.fields, ∃ field, plan.field? name = some field

/-- Whatever the plans refer to is there. -/
def Registry.Closed (registry : Registry) : Prop :=
  ∀ plan ∈ registry.plans, plan.Closed (registry.plans.map (·.typeName))

/-! ## Plans of schemas -/

theorem ValueType.leaf?_codec (symbolPrefix : String) (vectorTag : UInt32) (type : ValueType) :
    (type.codec symbolPrefix vectorTag).leaf? = type.namedLeaf?.map (outputName symbolPrefix) := by
  induction type with
  | vector element ih => rw [codec, Codec.leaf?, ih, namedLeaf?]
  | _ => rfl

theorem ValueType.leaf?_initial {symbolPrefix : String} {type : ValueType} {name : String}
    (h : (type.initial symbolPrefix).leaf? = some name) :
    type.namedLeaf?.map (outputName symbolPrefix) = some name := by
  cases type with
  | named key => exact h
  | _ => cases h

namespace Schema

variable {schema : Schema} {symbolPrefix : String} {vectorTag : UInt32} {definition : Definition}

theorem typeNames_plansWith : (schema.plansWith symbolPrefix vectorTag).map (·.typeName)
    = schema.definitions.map fun definition => outputName symbolPrefix definition.key := by
  rw [plansWith, List.map_map]
  rfl

/-- The named type of a field is the type of a plan, whatever symbols output names start with. -/
theorem mem_typeNames_of_leaf (hrefs : schema.checkReferences = .ok ())
    (hd : definition ∈ schema.definitions) {field : Field} (hf : field ∈ definition.fields)
    {name : String} (hleaf : field.type.namedLeaf?.map (outputName symbolPrefix) = some name) :
    name ∈ (schema.plansWith symbolPrefix vectorTag).map (·.typeName) := by
  obtain ⟨key, hkey, rfl⟩ := Option.map_eq_some_iff.mp hleaf
  -- references are checked by output names without symbols
  obtain ⟨other, ho, hname⟩ := List.mem_map.mp (defined_of_checkReferences hrefs hd hf hkey)
  rw [typeNames_plansWith]
  refine List.mem_map.mpr ⟨other, ho, ?_⟩
  show outputName symbolPrefix other.key = outputName symbolPrefix key
  rw [outputName_eq symbolPrefix other.key, outputName_eq symbolPrefix key, hname]

/-- The default of a field is no object, or one whose type has a plan. -/
theorem mem_typeNames_of_initial (hrefs : schema.checkReferences = .ok ())
    (hd : definition ∈ schema.definitions) {fieldPlan : FieldPlan}
    (hf : fieldPlan ∈ (schema.planOf symbolPrefix vectorTag definition).fields) {name : String}
    (hname : fieldPlan.initial.leaf? = some name) :
    name ∈ (schema.plansWith symbolPrefix vectorTag).map (·.typeName) := by
  obtain ⟨field, hmem, rfl⟩ := List.mem_map.mp hf
  exact mem_typeNames_of_leaf hrefs hd hmem (ValueType.leaf?_initial hname)

theorem exists_field?_planOf {field : Field} (hf : field ∈ definition.fields) :
    ∃ fieldPlan, (schema.planOf symbolPrefix vectorTag definition).field? field.name
      = some fieldPlan := by
  have hmem : field.plan symbolPrefix ∈ (schema.planOf symbolPrefix vectorTag definition).fields :=
    List.mem_map.mpr ⟨field, hf, rfl⟩
  cases hfind : (schema.planOf symbolPrefix vectorTag definition).field? field.name with
  | some fieldPlan => exact ⟨fieldPlan, rfl⟩
  | none =>
    have := List.find?_eq_none.mp hfind _ hmem
    simp [Field.plan] at this

/-- The steps of writing are the constructor's, the one that sets the flags, and those of fields. -/
theorem mem_encodeSteps {step : EncodeStep}
    (h : step ∈ definition.encodeSteps symbolPrefix vectorTag) :
    step = .writeConstructor definition.constructorId ∨
      (step = .recomputeFlags flagsName definition.bindings ∧
        ∃ flags ∈ definition.fields, flags.name = flagsName) ∨
      ∃ field ∈ definition.fields, field.encodeStep symbolPrefix vectorTag = step := by
  unfold Definition.encodeSteps at h
  rcases List.mem_append.mp h with h | h
  · rcases List.mem_cons.mp h with h | h
    · exact Or.inl h
    · right
      left
      unfold Definition.flagsStep at h
      split at h
      next hflags =>
        refine ⟨List.mem_singleton.mp h, ?_⟩
        obtain ⟨flags, hfind⟩ := Option.isSome_iff_exists.mp (Bool.and_eq_true_iff.mp hflags).1
        exact ⟨flags, List.mem_of_find?_eq_some hfind, by simpa using List.find?_some hfind⟩
      next => cases h
  · exact Or.inr (Or.inr (List.mem_map.mp h))

theorem closed_planOf (hfamilies : schema = .ofDefinitions schema.definitions)
    (hrefs : schema.checkReferences = .ok ()) (hd : definition ∈ schema.definitions) :
    (schema.planOf symbolPrefix vectorTag definition).Closed
      ((schema.plansWith symbolPrefix vectorTag).map (·.typeName)) where
  target := by
    intro fieldPlan hf name hname
    obtain ⟨field, hmem, rfl⟩ := List.mem_map.mp hf
    refine mem_typeNames_of_leaf hrefs hd hmem ?_
    rw [← ValueType.leaf?_target]
    exact hname
  decode := by
    intro step hstep name hname
    obtain ⟨field, hf, rfl⟩ := List.mem_map.mp hstep
    refine mem_typeNames_of_leaf hrefs hd hf ?_
    rw [← ValueType.leaf?_codec symbolPrefix vectorTag]
    unfold Field.decodeStep at hname
    split at hname <;> exact hname
  encode := by
    intro step hstep codec hcodec name hname
    rcases mem_encodeSteps hstep with rfl | ⟨rfl, -⟩ | ⟨field, hf, rfl⟩
    · cases hcodec
    · cases hcodec
    · refine mem_typeNames_of_leaf hrefs hd hf ?_
      rw [← ValueType.leaf?_codec symbolPrefix vectorTag]
      unfold Field.encodeStep at hcodec
      split at hcodec <;> cases hcodec <;> exact hname
  initial := by
    intro fieldPlan hf name hname
    exact mem_typeNames_of_initial hrefs hd hf hname
  delegate := by
    intro branch hb name hname
    obtain ⟨target, ht, hstands⟩ := branch_standsFor hfamilies symbolPrefix hd hb
    rw [hstands.action_eq] at hname
    split at hname
    next => cases hname
    next =>
      cases hname
      rw [typeNames_plansWith]
      exact List.mem_map.mpr ⟨target, ht, rfl⟩
  fields := by
    intro step hstep name hname
    rcases mem_encodeSteps hstep with rfl | ⟨rfl, flags, hflags, hflagsName⟩ | ⟨field, hf, rfl⟩
    · cases hname
    -- the flags, or a field that is bound to one of their bits
    · rcases List.mem_cons.mp hname with rfl | hname
      · rw [← hflagsName]
        exact exists_field?_planOf hflags
      · obtain ⟨binding, hb, rfl⟩ := List.mem_map.mp hname
        obtain ⟨field, hf, hbinding⟩ := List.mem_filterMap.mp hb
        obtain ⟨bit, -, rfl⟩ := Option.map_eq_some_iff.mp hbinding
        exact exists_field?_planOf hf
    · have hfield : name = field.name := by
        unfold Field.encodeStep at hname
        split at hname <;> exact List.mem_singleton.mp hname
      rw [hfield]
      exact exists_field?_planOf hf

theorem closed_plansWith (hfamilies : schema = .ofDefinitions schema.definitions)
    (hrefs : schema.checkReferences = .ok ()) (symbolPrefix : String) (vectorTag : UInt32) :
    Registry.Closed ⟨schema.plansWith symbolPrefix vectorTag⟩ := by
  intro plan hplan
  obtain ⟨definition, hd, rfl⟩ := List.mem_map.mp hplan
  exact closed_planOf hfamilies hrefs hd

end Schema

/-! ## Reading by closed plans -/

namespace Registry

variable {registry : Registry}

theorem Closed.follow_ne_unknownType (hclosed : registry.Closed) {tag : UInt32} {strict : Bool}
    {steps : Nat} {plan : Plan} (hplan : plan ∈ registry.plans) {name : String} :
    registry.follow tag strict steps plan ≠ .error (.unknownType name) := by
  induction steps generalizing plan with
  | zero =>
    intro h
    cases h
  | succ steps ih =>
    intro h
    unfold follow at h
    split at h
    · cases strict <;> cases h
    next branch hroute =>
      split at h
      · cases h
      next sibling haction =>
        have hmem := (hclosed plan hplan).delegate branch (List.mem_of_find?_eq_some hroute) sibling
          haction
        obtain ⟨next, hnext⟩ := exists_plan_iff.mpr hmem
        rw [hnext] at h
        exact ih (mem_of_plan hnext).1 h

/-- From a type that has a plan only such types are met, and plans are found for all of them. -/
theorem Closed.confines (hclosed : registry.Closed) :
    registry.Confines (fun typeName => ∃ plan, registry.plan typeName = .ok plan)
      CodecError.IsOther := by
  refine ⟨?_, ?_, ?_, ?_⟩
  · rintro typeName ⟨plan, hplan⟩ tag strict error herror name rfl
    rw [resolve, hplan] at herror
    exact hclosed.follow_ne_unknownType (mem_of_plan hplan).1 herror
  · rintro typeName ⟨plan, hplan⟩ error herror
    rw [instantiate, hplan] at herror
    cases herror
  · intro typeName _ tag strict plan hresolve
    exact ⟨plan, plan_of_resolve hresolve⟩
  · intro typeName _ tag strict plan hresolve step hstep name hname
    have hmem := (mem_of_plan (plan_of_resolve hresolve)).1
    exact exists_plan_iff.mpr ((hclosed plan hmem).decode step hstep name hname)

theorem Closed.decodeEntry_ne_unknownType (hclosed : registry.Closed) {typeName : String}
    {plan : Plan} (hplan : registry.plan typeName = .ok plan) (tag : UInt32) (strict : Bool)
    (cursor place : Cursor) (name : String) :
    registry.decodeEntry typeName tag strict cursor ≠ .error (.unknownType name) place := by
  have hfails := failsWithin_readObject hclosed.confines (fun _ _ h => by cases h)
    (fun _ h => by cases h) strict maxNesting ⟨plan, hplan⟩ tag
  intro h
  exact hfails cursor _ place h name rfl

/-! ## Writing by closed plans -/

/-- If the objects that fields have as defaults are of types with plans, those objects hold nothing
else. -/
theorem knowsDefaults_of_leaf
    (h : ∀ plan ∈ registry.plans, ∀ field ∈ plan.fields, ∀ name,
      field.initial.leaf? = some name → name ∈ registry.plans.map (·.typeName)) :
    registry.KnowsDefaults := by
  intro typeName plan hplan field hf name hname
  have hinitial := h plan (mem_of_plan hplan).1 field hf
  cases hvalue : field.initial with
  | construct leaf =>
    rw [hvalue] at hname hinitial
    rw [List.mem_singleton.mp hname]
    exact exists_plan_iff.mpr (hinitial leaf rfl)
  | _ =>
    rw [hvalue] at hname
    cases hname

theorem Closed.knowsDefaults (hclosed : registry.Closed) : registry.KnowsDefaults :=
  knowsDefaults_of_leaf fun plan hplan => (hclosed plan hplan).initial

section

variable {levels : Nat} {value : Value} {error : CodecError}

theorem isDefaultWith_eq_error {deeper : DefaultValue → Value → Except CodecError Bool}
    (hdeeper : ∀ initial held, registry.Knows held → deeper initial held = .error error →
      error = .nestingDepth)
    {initial : DefaultValue} (hvalue : registry.Knows value)
    (h : registry.isDefaultWith deeper initial value = .error error) : error = .nestingDepth := by
  unfold isDefaultWith at h
  split at h
  case h_6 typeName name fields =>
    split at h
    next hname =>
      obtain ⟨plan, hplan⟩ := hvalue name List.mem_cons_self
      rw [← hname, hplan] at h
      obtain ⟨field, -, hfield⟩ := Results.exists_of_allM_eq_error h
      split at hfield
      next held hheld =>
        have hget : (Value.object name fields).get? field.name = some held := hheld
        exact hdeeper _ held (hvalue.held hget) hfield
      next => cases hfield
    next => cases h
  all_goals cases h

/-- If the types of all objects in a value have plans, its test against a default fails only because
objects are nested too deep. -/
theorem isDefault_eq_error {initial : DefaultValue} (hvalue : registry.Knows value)
    (h : registry.isDefault levels initial value = .error error) : error = .nestingDepth := by
  induction levels generalizing initial value with
  | zero =>
    refine isDefaultWith_eq_error (fun _ _ _ hdeep => ?_) hvalue h
    cases hdeep
    rfl
  | succ levels ih => exact isDefaultWith_eq_error (fun _ _ hheld hdeep => ih hheld hdeep) hvalue h

theorem flagsOf_eq_error {plan : Plan} {flagsField : String} {bindings : List FlagBinding}
    (hvalue : registry.Knows value)
    (h : registry.flagsOf levels plan value flagsField bindings = .error error) :
    error = .nestingDepth := by
  obtain ⟨binding, -, word, hstep⟩ := Results.exists_of_foldlM_eq_error h
  cases htest : registry.fieldIsDefault levels plan value binding.field with
  | ok unset =>
    rw [htest] at hstep
    cases hstep
  | error e =>
    rw [htest] at hstep
    cases hstep
    unfold fieldIsDefault at htest
    split at htest
    next => cases htest
    next held fieldPlan hheld hfield => exact isDefault_eq_error (hvalue.held hheld) htest
    next => cases htest

end

section

variable {deeper : Value → Encoder Unit}
  (hdeeper : ∀ value, registry.Knows value → SettlesWithin CodecError.IsOther (deeper value))

include hdeeper

theorem settlesWithin_write (codec : Codec) {value : Value} (hvalue : registry.Knows value) :
    SettlesWithin CodecError.IsOther (codec.write deeper value) := by
  refine Codec.settlesWithin_write (fun _ value => registry.Knows value) ?_ ?_ ?_ ?_ hvalue
  · intro codec value _ _ name h
    cases h
  · intro text _ error _ name h
    cases h
  · intro tag element items hitems item hitem
    exact hitems.item hitem
  · intro entry typeName fields hobject
    exact hdeeper _ hobject

variable (hclosed : registry.Closed) {typeName : String} {plan : Plan}
  (hplan : registry.plan typeName = .ok plan) {object : Value} (hobject : registry.Knows object)

include hclosed hplan hobject

/-- A field that the plan knows is written as what the object holds or as its default, and either is
made of objects of types that have plans. -/
theorem Closed.settlesWithin_writeField {name : String}
    (hname : ∃ field, plan.field? name = some field) (codec : Codec) :
    SettlesWithin CodecError.IsOther (plan.writeField deeper object name codec) := by
  obtain ⟨field, hfield⟩ := hname
  unfold Plan.writeField
  cases hheld : object.get? name with
  | some held => exact settlesWithin_write hdeeper codec (hobject.held hheld)
  | none =>
    rw [hfield]
    have hmem : field ∈ plan.fields := List.mem_of_find?_eq_some hfield
    exact settlesWithin_write hdeeper codec (hclosed.knowsDefaults hplan field hmem)

theorem Closed.settlesWithin_writeStep (levels : Nat) (flags? : Option (String × UInt32))
    {step : EncodeStep} (hstep : step ∈ plan.encode) :
    SettlesWithin CodecError.IsOther
      (registry.writeStep levels deeper plan object flags? step) := by
  have hfields := (hclosed plan (mem_of_plan hplan).1).fields step hstep
  cases step with
  | writeConstructor id =>
    exact (writes_put _).settlesWithin.bind fun _ _ _ => (writes_pure _).settlesWithin
  | recomputeFlags flagsField bindings =>
    refine SettlesWithin.bind (settlesWithin_ofExcept fun error herror name h => ?_)
      fun _ _ _ => (writes_pure _).settlesWithin
    cases h.symm.trans (flagsOf_eq_error hobject herror)
  | write name codec =>
    have hfield := hclosed.settlesWithin_writeField hdeeper hplan hobject
      (hfields name (List.mem_singleton.mpr rfl)) codec
    cases flags? with
    | none => exact hfield.bind fun _ _ _ => (writes_pure _).settlesWithin
    | some flags =>
      obtain ⟨flagsField, word⟩ := flags
      simp only [writeStep]
      split_ifs
      · exact (writes_put _).settlesWithin.bind fun _ _ _ => (writes_pure _).settlesWithin
      · exact hfield.bind fun _ _ _ => (writes_pure _).settlesWithin
  | writeIfFlag bit name codec =>
    have hfield := hclosed.settlesWithin_writeField hdeeper hplan hobject
      (hfields name (List.mem_singleton.mpr rfl)) codec
    simp only [writeStep]
    split_ifs
    · exact hfield.bind fun _ _ _ => (writes_pure _).settlesWithin
    · exact (writes_pure _).settlesWithin

end

theorem Closed.settlesWithin_writeObjectWith (hclosed : registry.Closed)
    {deeper : Value → Encoder Unit}
    (hdeeper : ∀ value, registry.Knows value → SettlesWithin CodecError.IsOther (deeper value))
    (levels : Nat) {value : Value} (hvalue : registry.Knows value) :
    SettlesWithin CodecError.IsOther (registry.writeObjectWith levels deeper value) := by
  cases value with
  | object typeName fields =>
    obtain ⟨plan, hplan⟩ := hvalue typeName List.mem_cons_self
    refine SettlesWithin.bind (writes_ofExcept hplan).settlesWithin fun _ found hfound => ?_
    cases hplan.symm.trans (writes_ofExcept_iff.mp hfound).1
    refine (settlesWithin_foldlM (fun flags? step hstep => ?_) none).bind fun _ _ _ =>
      (writes_pure _).settlesWithin
    exact hclosed.settlesWithin_writeStep hdeeper hplan hvalue levels flags? hstep
  | _ => exact settlesWithin_throw fun name h => by cases h

/-- Objects of types that have plans are written without a type being met that has none. -/
theorem Closed.settlesWithin_writeObject (hclosed : registry.Closed) (levels : Nat) {value : Value}
    (hvalue : registry.Knows value) :
    SettlesWithin CodecError.IsOther (registry.writeObject levels value) := by
  induction levels generalizing value with
  | zero =>
    exact hclosed.settlesWithin_writeObjectWith
      (fun _ _ => settlesWithin_throw fun name h => by cases h) 0 hvalue
  | succ levels ih =>
    exact hclosed.settlesWithin_writeObjectWith (fun _ hheld => ih hheld) (levels + 1) hvalue

theorem Closed.encode_ne_unknownType (hclosed : registry.Closed) {value : Value}
    (hvalue : registry.Knows value) (name : String) :
    registry.encode value ≠ .error (.unknownType name) := by
  intro h
  rcases encode_error_of_settlesWithin (hclosed.settlesWithin_writeObject maxNesting hvalue) with
    ⟨bs, hok⟩ | ⟨error, herror, hother⟩
  · cases h.symm.trans hok
  · cases h.symm.trans herror
    exact hother name rfl

end Registry

/-- The plans of a schema that has been assembled from tokens are closed. So reading from a type
that has a plan and writing objects of such types never come to a type that has none. -/
theorem Schema.plans_closed {tokens : List Token} {schema : Schema} {settings : Settings}
    {plans : List Plan} (hschema : ofTokens tokens = .ok schema)
    (hplans : schema.plans settings = .ok plans) :
    Registry.Closed ⟨plans⟩ ∧
      (∀ typeName plan, Registry.plan ⟨plans⟩ typeName = .ok plan →
        ∀ tag strict cursor name place,
          Registry.decodeEntry ⟨plans⟩ typeName tag strict cursor
            ≠ .error (.unknownType name) place) ∧
      ∀ value, (∀ typeName ∈ value.typeNames, ∃ plan, Registry.plan ⟨plans⟩ typeName = .ok plan) →
        ∀ name, Registry.encode ⟨plans⟩ value ≠ .error (.unknownType name) := by
  obtain ⟨definitions, -, rfl⟩ := ofTokens_eq_ok_iff.mp hschema
  obtain ⟨⟨⟩, hrefs, -⟩ := Results.bind_eq_ok.mp hplans
  obtain ⟨vectorTag, -, rfl⟩ := plans_eq_ok hplans
  have hclosed := closed_plansWith rfl hrefs settings.symbolPrefix vectorTag
  exact ⟨hclosed, fun _ _ hplan tag strict cursor name place =>
      hclosed.decodeEntry_ne_unknownType hplan tag strict cursor place name,
    fun _ hvalue name => hclosed.encode_ne_unknownType hvalue name⟩

/-! ## Plans of a schema that is not checked -/

namespace Unchecked

/-- Two members of a family. The first one declares a field twice, and the second one guards a list
of objects by flags that it does not have. -/
def tokens : List Token :=
  [⟨.classDecl "a.q", ⟨1, 1⟩⟩, ⟨.constructorId "2", ⟨1, 5⟩⟩, ⟨.field "y" .int64, ⟨1, 7⟩⟩,
    ⟨.field "y" .string, ⟨1, 14⟩⟩, ⟨.returnType (.named "a.Q"), ⟨1, 25⟩⟩,
    ⟨.classDecl "a.r", ⟨2, 1⟩⟩, ⟨.constructorId "3", ⟨2, 5⟩⟩,
    ⟨.flagField "list" (.vector (.named "a.q")) 0, ⟨2, 7⟩⟩, ⟨.field "q" (.named "a.q"), ⟨2, 31⟩⟩,
    ⟨.returnType (.named "a.Q"), ⟨2, 37⟩⟩]

/-- What they define. -/
def schema : Schema :=
  .ofDefinitions
    [⟨"a.q", 2, [⟨"y", .int64, none⟩, ⟨"y", .string, none⟩], .named "a.Q", ⟨1, 1⟩⟩,
      ⟨"a.r", 3, [⟨"list", .vector (.named "a.q"), some 0⟩, ⟨"q", .named "a.q", none⟩],
        .named "a.Q", ⟨2, 1⟩⟩]

/-- Output names start with two symbols. -/
def settings : Settings := ⟨"", "TL", "1cb5c415"⟩

/-- An object that leaves out the object it should hold. -/
def value : Value := .object "TLa_R" [("list", .vector [.object "TLa_Q" []])]

theorem plans_closed_unchecked :
    Schema.ofTokens tokens = .ok schema ∧ schema.check ≠ .ok () ∧
      ∃ plans, schema.plans settings = .ok plans ∧ Registry.Closed ⟨plans⟩ ∧
        (∀ strict cursor name place,
          Registry.decodeEntry ⟨plans⟩ "TLa_Q" 3 strict cursor
            ≠ .error (.unknownType name) place) ∧
        ∀ name, Registry.encode ⟨plans⟩ value ≠ .error (.unknownType name) := by
  have hschema : Schema.ofTokens tokens = .ok schema := by decide +kernel
  have hplans : schema.plans settings = .ok (schema.plansWith "TL" 0x1cb5c415) := by decide +kernel
  obtain ⟨hclosed, hreads, hwrites⟩ := Schema.plans_closed hschema hplans
  refine ⟨hschema, by decide +kernel, _, hplans, hclosed, hreads "TLa_Q" _ rfl 3,
    hwrites value fun typeName hname => ?_⟩
  have hnames : value.typeNames = ["TLa_R", "TLa_Q"] := rfl
  rw [hnames, List.mem_pair] at hname
  rcases hname with rfl | rfl
  · exact ⟨_, rfl⟩
  · exact ⟨_, rfl⟩

end Unchecked

end TlSchema
