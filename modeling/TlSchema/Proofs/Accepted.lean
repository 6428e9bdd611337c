import TlSchema.Compilation
import TlSchema.Proofs.Definitions
import TlSchema.Proofs.GuardBits
import TlSchema.Registry.Basic

/-!
# Accepted schemas

What is known about a compilation once it has been accepted: its plans are those of its definitions,
the definitions pass the check, named types are defined, and every guard is a bit of a word. Later
proofs use these facts only, and not how a text was read.
-/

namespace TlSchema

open Results

/-- The plans of a compilation, to write and read values by. -/
def Compilation.registry (unit : Compilation) : Registry := ⟨unit.plans⟩

/-- What compiling makes sure of, for the symbols before output names and the framing tag of vectors
that were chosen. -/
structure Compilation.Accepted (unit : Compilation) (symbolPrefix : String) (vectorTag : UInt32) :
    Prop where
  /-- The plans are those of the definitions. -/
  plans_eq : unit.plans = unit.schema.plansWith symbolPrefix vectorTag
  /-- The families are those of the definitions. -/
  schema_eq : unit.schema = .ofDefinitions unit.schema.definitions
  /-- The definitions pass the check. -/
  checked : ∀ definition ∈ unit.schema.definitions, definition.check = .ok ()
  /-- The named types of fields are defined. -/
  defined : ∀ definition ∈ unit.schema.definitions, ∀ field ∈ definition.fields,
    ∀ name, field.type.namedLeaf? = some name →
      outputName "" name ∈ unit.schema.definedNames
  /-- The guards are bits of a word. -/
  guards : ∀ definition ∈ unit.schema.definitions, ∀ field ∈ definition.fields, field.GuardInWord

/-- No two definitions have the same output name, and no two the same number. -/
structure Compilation.Distinct (unit : Compilation) : Prop where
  names : (unit.plans.map (·.typeName)).Nodup
  ids : (unit.plans.map (·.constructorId)).Nodup

/-- What some definitions are compiled to under the settings that hold if none are made. -/
def Compilation.ofDefinitions (definitions : List Definition) : Compilation :=
  ⟨.ofDefinitions definitions, (Schema.ofDefinitions definitions).plansWith "" 0x1cb5c415⟩

theorem Schema.plans_eq_ok {schema : Schema} {settings : Settings} {plans : List Plan}
    (h : schema.plans settings = .ok plans) :
    ∃ vectorTag, settings.vectorTag = .ok vectorTag ∧
      plans = schema.plansWith settings.symbolPrefix vectorTag := by
  obtain ⟨-, -, h⟩ := bind_eq_ok.mp h
  obtain ⟨vectorTag, htag, h⟩ := bind_eq_ok.mp h
  cases h
  exact ⟨vectorTag, htag, rfl⟩

theorem Schema.defined_of_checkReferences {schema : Schema} (h : schema.checkReferences = .ok ())
    {definition : Definition} (hd : definition ∈ schema.definitions) {field : Field}
    (hf : field ∈ definition.fields) {name : String} (hname : field.type.namedLeaf? = some name) :
    outputName "" name ∈ schema.definedNames := by
  have href := forM_eq_ok.mp (forM_eq_ok.mp h definition hd) field hf
  simp only [checkReference, hname] at href
  by_contra hnot
  rw [if_neg hnot] at href
  cases href

namespace Compilation

theorem accepted_of_ofSource {source : Source} {settings : Settings} {unit : Compilation}
    (h : ofSource source settings = .ok unit) :
    ∃ vectorTag, settings.vectorTag = .ok vectorTag ∧
      unit.Accepted settings.symbolPrefix vectorTag := by
  obtain ⟨tokens, htokens, h⟩ := bind_eq_ok.mp h
  obtain ⟨schema, hschema, h⟩ := bind_eq_ok.mp h
  obtain ⟨⟨⟩, hcheck, h⟩ := bind_eq_ok.mp h
  obtain ⟨plans, hplans, h⟩ := bind_eq_ok.mp h
  cases h
  obtain ⟨vectorTag, htag, hplans⟩ := Schema.plans_eq_ok hplans
  obtain ⟨hfamilies, hguards⟩ := Schema.ofTokens_spec hschema (Source.tokens_guardInWord htokens)
  obtain ⟨⟨⟩, hfields, hrefs⟩ := bind_eq_ok.mp hcheck
  refine ⟨vectorTag, htag, hplans, hfamilies, fun definition hd => ?_, ?_, hguards⟩
  · exact mapError_eq_ok.mp (forM_eq_ok.mp hfields definition hd)
  · intro definition hd field hf name hname
    exact Schema.defined_of_checkReferences hrefs hd hf hname

theorem accepted_of_ofText {text : String} {settings : Settings} {unit : Compilation}
    (h : ofText text settings = .ok unit) :
    ∃ vectorTag, settings.vectorTag = .ok vectorTag ∧
      unit.Accepted settings.symbolPrefix vectorTag :=
  accepted_of_ofSource h

end Compilation

/-! ## Finding plans -/

theorem outputName_eq (symbolPrefix key : String) :
    outputName symbolPrefix key = symbolPrefix ++ outputName "" key := by
  simp [outputName]

theorem Registry.mem_of_plan {registry : Registry} {typeName : String} {plan : Plan}
    (h : registry.plan typeName = .ok plan) :
    plan ∈ registry.plans ∧ plan.typeName = typeName := by
  unfold Registry.plan at h
  split at h
  next found hfind =>
    cases h
    exact ⟨List.mem_of_find?_eq_some hfind, by simpa using List.find?_some hfind⟩
  next => cases h

/-- Some plan is found for a type exactly if some plan has its output name. -/
theorem Registry.exists_plan_iff {registry : Registry} {typeName : String} :
    (∃ plan, registry.plan typeName = .ok plan) ↔ typeName ∈ registry.plans.map (·.typeName) := by
  constructor
  · rintro ⟨plan, hplan⟩
    obtain ⟨hmem, hname⟩ := mem_of_plan hplan
    exact List.mem_map.mpr ⟨plan, hmem, hname⟩
  · intro h
    obtain ⟨other, ho, hname⟩ := List.mem_map.mp h
    unfold Registry.plan
    split
    next found hfind => exact ⟨found, rfl⟩
    next hfind =>
      have := List.find?_eq_none.mp hfind other ho
      simp [hname] at this

namespace Compilation.Accepted

variable {unit : Compilation} {symbolPrefix : String} {vectorTag : UInt32}

theorem mem_plans (hu : unit.Accepted symbolPrefix vectorTag) {plan : Plan} :
    plan ∈ unit.plans ↔ ∃ definition ∈ unit.schema.definitions,
      unit.schema.planOf symbolPrefix vectorTag definition = plan := by
  rw [hu.plans_eq, Schema.plansWith, List.mem_map]

/-- A plan that is found is the plan of a definition. -/
theorem definition_of_plan (hu : unit.Accepted symbolPrefix vectorTag) {typeName : String}
    {plan : Plan} (h : unit.registry.plan typeName = .ok plan) :
    ∃ definition ∈ unit.schema.definitions,
      unit.schema.planOf symbolPrefix vectorTag definition = plan ∧
        outputName symbolPrefix definition.key = typeName := by
  obtain ⟨hmem, hname⟩ := Registry.mem_of_plan h
  obtain ⟨definition, hd, hplan⟩ := hu.mem_plans.mp hmem
  exact ⟨definition, hd, hplan, by rw [← hname, ← hplan]; rfl⟩

/-- Some plan is found for the type of every definition. -/
theorem exists_plan (hu : unit.Accepted symbolPrefix vectorTag) {definition : Definition}
    (hd : definition ∈ unit.schema.definitions) :
    ∃ plan, unit.registry.plan (outputName symbolPrefix definition.key) = .ok plan :=
  Registry.exists_plan_iff.mpr
    (List.mem_map.mpr ⟨_, hu.mem_plans.mpr ⟨definition, hd, rfl⟩, rfl⟩)

/-- Some plan is found for the named type of every field. -/
theorem exists_plan_of_leaf (hu : unit.Accepted symbolPrefix vectorTag) {definition : Definition}
    (hd : definition ∈ unit.schema.definitions) {field : Field} (hf : field ∈ definition.fields)
    {name : String} (hname : field.type.namedLeaf? = some name) :
    ∃ plan, unit.registry.plan (outputName symbolPrefix name) = .ok plan := by
  obtain ⟨other, ho, heq⟩ := List.mem_map.mp (hu.defined definition hd field hf name hname)
  obtain ⟨plan, hplan⟩ := hu.exists_plan ho
  refine ⟨plan, ?_⟩
  rw [outputName_eq, ← heq, ← outputName_eq]
  exact hplan

/-- With output names that differ, every plan is found by its own output name. -/
theorem plan_of_names (hu : unit.Accepted symbolPrefix vectorTag)
    (hnames : (unit.plans.map (·.typeName)).Nodup) {definition : Definition}
    (hd : definition ∈ unit.schema.definitions) :
    unit.registry.plan (outputName symbolPrefix definition.key) =
      .ok (unit.schema.planOf symbolPrefix vectorTag definition) := by
  obtain ⟨plan, hplan⟩ := hu.exists_plan hd
  obtain ⟨other, ho, hoplan, hname⟩ := hu.definition_of_plan hplan
  have heq : plan = unit.schema.planOf symbolPrefix vectorTag definition := by
    refine List.inj_on_of_nodup_map hnames (hu.mem_plans.mpr ⟨other, ho, hoplan⟩)
      (hu.mem_plans.mpr ⟨definition, hd, rfl⟩) ?_
    rw [← hoplan]
    exact hname
  rw [hplan, heq]

theorem plan_of_definition (hu : unit.Accepted symbolPrefix vectorTag)
    (hdist : unit.Distinct) {definition : Definition} (hd : definition ∈ unit.schema.definitions) :
    unit.registry.plan (outputName symbolPrefix definition.key) =
      .ok (unit.schema.planOf symbolPrefix vectorTag definition) :=
  hu.plan_of_names hdist.names hd

end Compilation.Accepted

end TlSchema
