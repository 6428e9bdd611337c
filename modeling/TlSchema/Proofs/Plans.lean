import TlSchema.Proofs.Routing

/-!
# Regular plans

A plan of an accepted schema is given by what it knows of its fields: the steps of writing and of
reading are the same fields in the same order, with the flags set first if some field is guarded.
`Plan.Regular` and `Registry.Regular` say so in terms of plans alone, and everything that is proved
about writing and reading rests on them.
-/

namespace TlSchema

/-! ## Fields of plans -/

/-- How values of the type stand on the wire. -/
def TargetType.codec (vectorTag : UInt32) : TargetType → Codec
  | .string => .string
  | .boolean => .boolean
  | .int32 => .int32
  | .int64 => .int64
  | .vector element => .vector vectorTag (element.codec vectorTag)
  | .named typeName => .object typeName

/-- The named type at the bottom of any nesting of vectors. -/
def TargetType.leaf? : TargetType → Option String
  | .named typeName => some typeName
  | .vector element => element.leaf?
  | _ => none

/-- The value is what a field of the type holds when it has not been set. -/
def TargetType.IsInitial : TargetType → DefaultValue → Prop
  | .string, .string text => text = ""
  | .boolean, .bool _ => True
  | .int32, .int32 n => n = 0
  | .int64, .int64 n => n = 0
  | .vector _, .emptyVector => True
  | .named typeName, .construct name => name = typeName
  | _, _ => False

namespace FieldPlan

/-- How the field stands on the wire. -/
def codec (vectorTag : UInt32) (field : FieldPlan) : Codec := field.target.codec vectorTag

/-- The bit that guards the field, bound to its name. -/
def binding? (field : FieldPlan) : Option FlagBinding :=
  field.flagBit?.map fun bit => ⟨field.name, bit⟩

/-- The step that writes the field. -/
def encodeStep (vectorTag : UInt32) (field : FieldPlan) : EncodeStep :=
  match field.flagBit? with
  | some bit => .writeIfFlag bit field.name (field.codec vectorTag)
  | none => .write field.name (field.codec vectorTag)

/-- The step that reads the field. -/
def decodeStep (vectorTag : UInt32) (field : FieldPlan) : DecodeStep :=
  match field.flagBit? with
  | some bit => .readIfFlag bit field.name (field.codec vectorTag)
  | none => .read field.name (field.codec vectorTag)

/-- The field declares the flags: it has their name and is always present. -/
def DeclaresFlags (field : FieldPlan) : Prop := field.flagBit? = none ∧ field.name = flagsName

end FieldPlan

namespace Plan

/-- The guarded fields and their bits. -/
def bindings (plan : Plan) : List FlagBinding := plan.fields.filterMap FieldPlan.binding?

/-- Whether some field is guarded. -/
def isGuarded (plan : Plan) : Bool := !plan.bindings.isEmpty

/-- The step that sets the flags, if there are fields they guard. -/
def flagsStep (plan : Plan) : List EncodeStep :=
  if plan.isGuarded then [.recomputeFlags flagsName plan.bindings] else []

/-- The plan follows from its fields. -/
structure Regular (vectorTag : UInt32) (plan : Plan) : Prop where
  /-- The constructor is written first, then the flags are set, then the fields are written. -/
  encode_eq : plan.encode = .writeConstructor plan.constructorId ::
    (plan.flagsStep ++ plan.fields.map (FieldPlan.encodeStep vectorTag))
  /-- The fields are read in the same order. -/
  decode_eq : plan.decode = plan.fields.map (FieldPlan.decodeStep vectorTag)
  /-- No two fields have one name. -/
  names_nodup : (plan.fields.map (·.name)).Nodup
  /-- A guarded field comes after flags. -/
  flags_before : ∀ before field after, plan.fields = before ++ field :: after →
    field.flagBit? ≠ none → ∃ flags ∈ before, flags.DeclaresFlags
  /-- The default of a field is that of its type. -/
  isInitial : ∀ field ∈ plan.fields, field.target.IsInitial field.initial
  /-- The guards are bits of a word. -/
  guards : ∀ field ∈ plan.fields, ∀ bit, field.flagBit? = some bit → InWord bit

variable {plan : Plan}

theorem mem_bindings {binding : FlagBinding} :
    binding ∈ plan.bindings ↔
      ∃ field ∈ plan.fields, field.flagBit? = some binding.bit ∧ field.name = binding.field := by
  rw [bindings, List.mem_filterMap]
  constructor
  · rintro ⟨field, hf, hb⟩
    obtain ⟨bit, hbit, rfl⟩ := Option.map_eq_some_iff.mp hb
    exact ⟨field, hf, hbit, rfl⟩
  · rintro ⟨field, hf, hbit, hname⟩
    refine ⟨field, hf, ?_⟩
    rw [FieldPlan.binding?, hbit, hname]
    rfl

theorem isGuarded_iff : plan.isGuarded = true ↔ ∃ field ∈ plan.fields, field.flagBit? ≠ none := by
  rw [isGuarded, Bool.not_eq_true', List.isEmpty_eq_false_iff_exists_mem]
  constructor
  · rintro ⟨binding, hb⟩
    obtain ⟨field, hf, hbit, -⟩ := mem_bindings.mp hb
    exact ⟨field, hf, by rw [hbit]; simp⟩
  · rintro ⟨field, hf, hbit⟩
    obtain ⟨bit, hbit⟩ := Option.ne_none_iff_exists'.mp hbit
    exact ⟨⟨field.name, bit⟩, mem_bindings.mpr ⟨field, hf, hbit, rfl⟩⟩

namespace Regular

variable {vectorTag : UInt32}

/-- A field of a plan is known by its name. -/
theorem eq_of_name_eq (h : plan.Regular vectorTag) {field other : FieldPlan}
    (hf : field ∈ plan.fields) (ho : other ∈ plan.fields) (hname : field.name = other.name) :
    field = other :=
  List.inj_on_of_nodup_map h.names_nodup hf ho hname

/-- A field is found by its name. -/
theorem field?_name (h : plan.Regular vectorTag) {field : FieldPlan} (hf : field ∈ plan.fields) :
    plan.field? field.name = some field := by
  unfold field?
  cases hfind : plan.fields.find? (·.name = field.name) with
  | none =>
    have := List.find?_eq_none.mp hfind field hf
    simp at this
  | some other =>
    have hname : other.name = field.name := by simpa using List.find?_some hfind
    rw [h.eq_of_name_eq (List.mem_of_find?_eq_some hfind) hf hname]

/-- Where a field is guarded, flags are declared. -/
theorem flags_of_guarded (h : plan.Regular vectorTag) (hg : plan.isGuarded = true) :
    ∃ flags ∈ plan.fields, flags.DeclaresFlags := by
  obtain ⟨field, hf, hbit⟩ := isGuarded_iff.mp hg
  obtain ⟨before, after, heq⟩ := List.append_of_mem hf
  obtain ⟨flags, hflags, hdecl⟩ := h.flags_before before field after heq hbit
  exact ⟨flags, by rw [heq]; exact List.mem_append_left _ hflags, hdecl⟩

/-- No guarded field has the name of the flags. -/
theorem name_ne_flags (h : plan.Regular vectorTag) {field : FieldPlan} (hf : field ∈ plan.fields)
    (hbit : field.flagBit? ≠ none) : field.name ≠ flagsName := by
  obtain ⟨flags, hflags, hnone, hname⟩ :=
    h.flags_of_guarded (isGuarded_iff.mpr ⟨field, hf, hbit⟩)
  intro hfield
  rw [h.eq_of_name_eq hf hflags (by rw [hfield, hname])] at hbit
  exact hbit hnone

end Regular

end Plan

/-- All plans of the registry are regular, and the types they refer to have plans. -/
structure Registry.Regular (vectorTag : UInt32) (registry : Registry) : Prop where
  plans : ∀ {typeName plan}, registry.plan typeName = .ok plan → plan.Regular vectorTag
  /-- The plan of a type has its output name. -/
  typeName_eq : ∀ {typeName plan}, registry.plan typeName = .ok plan → plan.typeName = typeName
  /-- The types of fields have plans. -/
  defined : ∀ {typeName plan}, registry.plan typeName = .ok plan → ∀ field ∈ plan.fields,
    ∀ name, field.target.leaf? = some name → ∃ named, registry.plan name = .ok named

/-- Entry points find the plans of all constructors they have branches for, their own among them. -/
structure Registry.Routes (registry : Registry) : Prop where
  /-- There is a branch for a type at its own entry point. -/
  own : ∀ {typeName plan}, registry.plan typeName = .ok plan →
    ∃ branch ∈ plan.dispatch.branches, branch.typeName = typeName
  /-- What a branch is named after is found by its constructor. -/
  resolve_eq : ∀ {entry entryPlan}, registry.plan entry = .ok entryPlan →
    ∀ branch ∈ entryPlan.dispatch.branches, ∃ plan, registry.plan branch.typeName = .ok plan ∧
      ∀ strict, registry.resolve entry plan.constructorId strict = .ok (some plan)

/-! ## Plans of accepted schemas -/

namespace ValueType

/-- A planned type stands on the wire as the type it is planned for. -/
theorem codec_target (symbolPrefix : String) (vectorTag : UInt32) (type : ValueType) :
    (type.target symbolPrefix).codec vectorTag = type.codec symbolPrefix vectorTag := by
  induction type with
  | vector element ih => rw [target, TargetType.codec, ih, codec]
  | _ => rfl

theorem isInitial_target (symbolPrefix : String) (type : ValueType) :
    (type.target symbolPrefix).IsInitial (type.initial symbolPrefix) := by
  cases type <;> simp [target, initial, TargetType.IsInitial]

/-- What a planned type names is the output name of what the schema names. -/
theorem leaf?_target (symbolPrefix : String) (type : ValueType) :
    (type.target symbolPrefix).leaf? = type.namedLeaf?.map (outputName symbolPrefix) := by
  induction type with
  | vector element ih => rw [target, TargetType.leaf?, ih, namedLeaf?]
  | _ => rfl

end ValueType

namespace Field

variable (symbolPrefix : String) (vectorTag : UInt32) (field : Field)

/-- The step that writes a planned field is the one that the plan has for it. -/
theorem encodeStep_plan :
    (field.plan symbolPrefix).encodeStep vectorTag = field.encodeStep symbolPrefix vectorTag := by
  have hcodec := field.type.codec_target symbolPrefix vectorTag
  have hbit : (field.plan symbolPrefix).flagBit? = field.flagBit? := rfl
  unfold FieldPlan.encodeStep encodeStep
  rw [hbit]
  cases field.flagBit? with
  | some bit => exact congrArg (EncodeStep.writeIfFlag bit field.name) hcodec
  | none => exact congrArg (EncodeStep.write field.name) hcodec

/-- The step that reads a planned field is the one that the plan has for it. -/
theorem decodeStep_plan :
    (field.plan symbolPrefix).decodeStep vectorTag = field.decodeStep symbolPrefix vectorTag := by
  have hcodec := field.type.codec_target symbolPrefix vectorTag
  have hbit : (field.plan symbolPrefix).flagBit? = field.flagBit? := rfl
  unfold FieldPlan.decodeStep decodeStep
  rw [hbit]
  cases field.flagBit? with
  | some bit => exact congrArg (DecodeStep.readIfFlag bit field.name) hcodec
  | none => exact congrArg (DecodeStep.read field.name) hcodec

end Field

theorem Schema.bindings_planOf (schema : Schema) (symbolPrefix : String) (vectorTag : UInt32)
    (definition : Definition) :
    (schema.planOf symbolPrefix vectorTag definition).bindings = definition.bindings := by
  rw [Plan.bindings, planOf, List.filterMap_map]
  rfl

namespace Compilation.Accepted

variable {unit : Compilation} {symbolPrefix : String} {vectorTag : UInt32}

/-- The plan of a definition follows from its fields, since the definition has been checked. -/
theorem regular_planOf (hu : unit.Accepted symbolPrefix vectorTag) {definition : Definition}
    (hd : definition ∈ unit.schema.definitions) :
    (unit.schema.planOf symbolPrefix vectorTag definition).Regular vectorTag := by
  have hcheck := hu.checked definition hd
  have hfields : (unit.schema.planOf symbolPrefix vectorTag definition).fields
      = definition.fields.map (Field.plan symbolPrefix) := rfl
  refine ⟨?_, ?_, ?_, ?_, ?_, ?_⟩
  · have hguarded : (unit.schema.planOf symbolPrefix vectorTag definition).isGuarded
        = definition.isGuarded := by
      rw [Plan.isGuarded, Schema.bindings_planOf, Definition.isGuarded]
    have hflags : (unit.schema.planOf symbolPrefix vectorTag definition).flagsStep
        = definition.flagsStep := by
      rw [Plan.flagsStep, hguarded, Schema.bindings_planOf, Definition.flagsStep_eq hcheck]
    have hsteps : definition.fields.map
        (FieldPlan.encodeStep vectorTag ∘ Field.plan symbolPrefix)
          = definition.fields.map (Field.encodeStep symbolPrefix vectorTag) :=
      List.map_congr_left fun field _ => field.encodeStep_plan symbolPrefix vectorTag
    rw [hfields, List.map_map, hsteps, hflags]
    rfl
  · rw [hfields, List.map_map]
    exact List.map_congr_left fun field _ => (field.decodeStep_plan symbolPrefix vectorTag).symm
  · rw [hfields, List.map_map]
    exact Definition.names_nodup_of_check hcheck
  · intro before field after heq hbit
    rw [hfields] at heq
    obtain ⟨before', rest', heq', rfl, hrest⟩ := List.map_eq_append_iff.mp heq
    obtain ⟨field', after', rfl, rfl, rfl⟩ := List.map_eq_cons_iff.mp hrest
    obtain ⟨flags, hflags, hdecl⟩ := Definition.flags_before_of_check hcheck heq' hbit
    exact ⟨flags.plan symbolPrefix, List.mem_map.mpr ⟨flags, hflags, rfl⟩, hdecl⟩
  · intro field hf
    obtain ⟨field', -, rfl⟩ := List.mem_map.mp hf
    exact field'.type.isInitial_target symbolPrefix
  · intro field hf bit hbit
    obtain ⟨field', hf', rfl⟩ := List.mem_map.mp hf
    exact hu.guards definition hd field' hf' bit hbit

/-- The plans of an accepted schema follow from their fields. -/
theorem regular (hu : unit.Accepted symbolPrefix vectorTag) :
    unit.registry.Regular vectorTag := by
  refine ⟨fun hplan => ?_, fun hplan => ?_, fun hplan field hf name hname => ?_⟩
  · obtain ⟨definition, hd, rfl, -⟩ := hu.definition_of_plan hplan
    exact hu.regular_planOf hd
  · obtain ⟨definition, hd, rfl, hkey⟩ := hu.definition_of_plan hplan
    exact hkey
  · obtain ⟨definition, hd, rfl, -⟩ := hu.definition_of_plan hplan
    obtain ⟨field', hf', rfl⟩ := List.mem_map.mp hf
    have hleaf := field'.type.leaf?_target symbolPrefix
    rw [show (field'.type.target symbolPrefix).leaf? = some name from hname] at hleaf
    obtain ⟨key, hkey, rfl⟩ := Option.map_eq_some_iff.mp hleaf.symm
    exact hu.exists_plan_of_leaf hd hf' hkey

/-- With numbers and output names that differ, entry points find the plans of their branches. -/
theorem routes (hu : unit.Accepted symbolPrefix vectorTag) (hdist : unit.Distinct) :
    unit.registry.Routes := by
  refine ⟨fun hplan => ?_, fun hplan branch hb => ?_⟩
  · obtain ⟨definition, hd, rfl, rfl⟩ := hu.definition_of_plan hplan
    exact ⟨definition.ownBranch symbolPrefix, unit.schema.ownBranch_mem symbolPrefix definition, rfl⟩
  · obtain ⟨entry, he, rfl, rfl⟩ := hu.definition_of_plan hplan
    obtain ⟨target, ht, hstands⟩ := Schema.branch_standsFor hu.schema_eq symbolPrefix he hb
    refine ⟨unit.schema.planOf symbolPrefix vectorTag target, ?_, fun strict => ?_⟩
    · rw [hstands.typeName_eq]
      exact hu.plan_of_definition hdist ht
    · exact hu.resolve_eq hdist he ht hb hstands.typeName_eq strict

end Compilation.Accepted

end TlSchema
