import TlSchema.Proofs.Accepted
import TlSchema.Proofs.ReturnTypes
import TlSchema.Registry.Decode

/-!
# Where entry points send constructors

Every branch of an entry point stands for a definition: it has the definition's number and output
name, and keeps the object exactly if the definition is the entry point's own. With numbers and
output names that differ, a constructor that an entry point has a branch for is therefore followed
to the plan it belongs to, directly or over one other entry point.
-/

namespace TlSchema

namespace Schema

/-! ## Branches -/

/-- The branch stands for `target` at the entry point of `definition`. -/
structure StandsFor (symbolPrefix : String) (definition : Definition) (branch : DispatchBranch)
    (target : Definition) : Prop where
  tag_eq : branch.tag = target.constructorId
  typeName_eq : branch.typeName = outputName symbolPrefix target.key
  action_eq : branch.action =
    if target.key = definition.key then .decodeSelf
    else .delegate (outputName symbolPrefix target.key)

theorem ownBranch_standsFor (symbolPrefix : String) (definition : Definition) :
    StandsFor symbolPrefix definition (definition.ownBranch symbolPrefix) definition :=
  ⟨rfl, rfl, (if_pos rfl).symm⟩

/-- Every branch stands for a definition. -/
theorem branch_standsFor {schema : Schema} (h : schema = .ofDefinitions schema.definitions)
    (symbolPrefix : String) {definition : Definition} (hd : definition ∈ schema.definitions)
    {branch : DispatchBranch} (hb : branch ∈ (schema.dispatch symbolPrefix definition).branches) :
    ∃ target ∈ schema.definitions, StandsFor symbolPrefix definition branch target := by
  unfold dispatch at hb
  split at hb
  · rw [List.mem_singleton.mp hb]
    exact ⟨definition, hd, ownBranch_standsFor symbolPrefix definition⟩
  · rename_i family hfamily
    rcases List.mem_append.mp hb with hb | hb
    · obtain ⟨member, hm, rfl⟩ := List.mem_map.mp hb
      unfold memberBranch
      by_cases hkey : member = definition.key
      · rw [if_pos hkey]
        exact ⟨definition, hd, ownBranch_standsFor symbolPrefix definition⟩
      · obtain ⟨sibling, hsibling⟩ := member_is_key h hfamily hm
        have hskey : sibling.key = member := by simpa using List.find?_some hsibling
        rw [if_neg hkey, hsibling]
        refine ⟨sibling, List.mem_of_find?_eq_some hsibling, rfl, by rw [hskey], ?_⟩
        rw [hskey, if_neg hkey]
    · split_ifs at hb
      · cases hb
      · rw [List.mem_singleton.mp hb]
        exact ⟨definition, hd, ownBranch_standsFor symbolPrefix definition⟩

/-- Every entry point has a branch for its own constructor. -/
theorem ownBranch_mem (schema : Schema) (symbolPrefix : String) (definition : Definition) :
    definition.ownBranch symbolPrefix ∈ (schema.dispatch symbolPrefix definition).branches := by
  unfold dispatch
  split
  · exact List.mem_singleton_self _
  · rename_i family _
    by_cases hmem : definition.key ∈ family.members
    · refine List.mem_append_left _ (List.mem_map.mpr ⟨definition.key, hmem, ?_⟩)
      rw [memberBranch, if_pos rfl]
    · refine List.mem_append_right _ ?_
      rw [if_neg hmem]
      exact List.mem_singleton_self _

end Schema

/-! ## Following constructors -/

namespace Registry

/-- From the entry point of the first plan, the constructor is handed on `hops` times and then kept
by the entry point of the second plan. -/
inductive Leads (registry : Registry) (tag : UInt32) : (hops : Nat) → Plan → Plan → Prop
  /-- The entry point keeps the constructor. -/
  | kept {plan : Plan} {branch : DispatchBranch} (hroute : plan.dispatch.route? tag = some branch)
      (haction : branch.action = .decodeSelf) : Leads registry tag 0 plan plan
  /-- The entry point hands the constructor to another one. -/
  | handed {hops : Nat} {plan next target : Plan} {branch : DispatchBranch} {sibling : String}
      (hroute : plan.dispatch.route? tag = some branch)
      (haction : branch.action = .delegate sibling) (hnext : registry.plan sibling = .ok next)
      (h : Leads registry tag hops next target) : Leads registry tag (hops + 1) plan target

variable {registry : Registry} {tag : UInt32} {hops : Nat} {plan target : Plan}

theorem Leads.follow_eq (h : registry.Leads tag hops plan target) (strict : Bool) {steps : Nat}
    (hsteps : hops < steps) : registry.follow tag strict steps plan = .ok (some target) := by
  induction h generalizing steps with
  | kept hroute haction =>
    obtain ⟨steps, rfl⟩ := Nat.exists_eq_add_of_lt hsteps
    unfold follow
    simp only [hroute, haction]
  | handed hroute haction hnext _ ih =>
    obtain ⟨rest, rfl⟩ := Nat.exists_eq_add_of_lt hsteps
    unfold follow
    simp only [hroute, haction, hnext]
    exact ih (by omega)

end Registry

namespace Compilation.Accepted

variable {unit : Compilation} {symbolPrefix : String} {vectorTag : UInt32}

/-- With numbers that differ, the branch that an entry point takes for a constructor it has a branch
for stands for the definition of that constructor. -/
theorem route_standsFor (hu : unit.Accepted symbolPrefix vectorTag) (hdist : unit.Distinct)
    {entry target : Definition}
    (he : entry ∈ unit.schema.definitions) (ht : target ∈ unit.schema.definitions)
    {branch : DispatchBranch}
    (hb : branch ∈ (unit.schema.dispatch symbolPrefix entry).branches)
    (htag : branch.tag = target.constructorId) :
    ∃ taken, (unit.schema.dispatch symbolPrefix entry).route? target.constructorId = some taken ∧
      Schema.StandsFor symbolPrefix entry taken target := by
  unfold Dispatch.route?
  cases hfind : (unit.schema.dispatch symbolPrefix entry).branches.find?
      (·.tag = target.constructorId) with
  | none =>
    have := List.find?_eq_none.mp hfind branch hb
    simp [htag] at this
  | some taken =>
    refine ⟨taken, rfl, ?_⟩
    obtain ⟨other, ho, hstands⟩ := Schema.branch_standsFor hu.schema_eq symbolPrefix he
      (List.mem_of_find?_eq_some hfind)
    have hid : other.constructorId = target.constructorId := by
      rw [← hstands.tag_eq]
      simpa using List.find?_some hfind
    have hplan : unit.schema.planOf symbolPrefix vectorTag other
        = unit.schema.planOf symbolPrefix vectorTag target :=
      List.inj_on_of_nodup_map hdist.ids (hu.mem_plans.mpr ⟨other, ho, rfl⟩)
        (hu.mem_plans.mpr ⟨target, ht, rfl⟩) hid
    have hkey : other.key = target.key := congrArg Plan.key hplan
    exact ⟨by rw [hstands.tag_eq, hid], by rw [hstands.typeName_eq, hkey],
      by rw [hstands.action_eq, hkey]⟩

/-- The entry point of a definition keeps the definition's own constructor. -/
theorem leads_own (hu : unit.Accepted symbolPrefix vectorTag) (hdist : unit.Distinct)
    {definition : Definition} (hd : definition ∈ unit.schema.definitions) :
    unit.registry.Leads definition.constructorId 0
      (unit.schema.planOf symbolPrefix vectorTag definition)
      (unit.schema.planOf symbolPrefix vectorTag definition) := by
  obtain ⟨taken, hroute, hstands⟩ := hu.route_standsFor hdist hd hd
    (unit.schema.ownBranch_mem symbolPrefix definition) rfl
  exact .kept hroute (by rw [hstands.action_eq, if_pos rfl])

/-- With output names that differ, definitions with one output name have one plan. -/
theorem planOf_eq_of_outputName (hu : unit.Accepted symbolPrefix vectorTag) (hdist : unit.Distinct)
    {definition other : Definition} (hd : definition ∈ unit.schema.definitions)
    (ho : other ∈ unit.schema.definitions)
    (hname : outputName symbolPrefix definition.key = outputName symbolPrefix other.key) :
    unit.schema.planOf symbolPrefix vectorTag definition
      = unit.schema.planOf symbolPrefix vectorTag other :=
  List.inj_on_of_nodup_map hdist.names (hu.mem_plans.mpr ⟨definition, hd, rfl⟩)
    (hu.mem_plans.mpr ⟨other, ho, rfl⟩) hname

/-- A constructor that an entry point has a branch for leads to its plan, and is handed on once at
most. -/
theorem leads_target (hu : unit.Accepted symbolPrefix vectorTag) (hdist : unit.Distinct)
    {entry target : Definition}
    (he : entry ∈ unit.schema.definitions) (ht : target ∈ unit.schema.definitions)
    {branch : DispatchBranch}
    (hb : branch ∈ (unit.schema.dispatch symbolPrefix entry).branches)
    (htag : branch.tag = target.constructorId) :
    ∃ hops ≤ 1, unit.registry.Leads target.constructorId hops
      (unit.schema.planOf symbolPrefix vectorTag entry)
      (unit.schema.planOf symbolPrefix vectorTag target) := by
  obtain ⟨taken, hroute, htaken⟩ := hu.route_standsFor hdist he ht hb htag
  -- an entry point reads its own constructor, and others are handed over to their own
  by_cases hkey : target.key = entry.key
  · refine ⟨0, Nat.zero_le 1, ?_⟩
    rw [← hu.planOf_eq_of_outputName hdist he ht (by rw [hkey])]
    exact .kept hroute (by rw [htaken.action_eq, if_pos hkey])
  · exact ⟨1, Nat.le_refl 1, .handed hroute (by rw [htaken.action_eq, if_neg hkey])
      (hu.plan_of_definition hdist ht) (hu.leads_own hdist ht)⟩

/-- A branch has the number of the definition whose output name it has. -/
theorem tag_of_typeName (hu : unit.Accepted symbolPrefix vectorTag) (hdist : unit.Distinct)
    {entry target : Definition}
    (he : entry ∈ unit.schema.definitions) (ht : target ∈ unit.schema.definitions)
    {branch : DispatchBranch}
    (hb : branch ∈ (unit.schema.dispatch symbolPrefix entry).branches)
    (hname : branch.typeName = outputName symbolPrefix target.key) :
    branch.tag = target.constructorId := by
  obtain ⟨other, ho, hstands⟩ := Schema.branch_standsFor hu.schema_eq symbolPrefix he hb
  rw [hstands.tag_eq]
  exact congrArg Plan.constructorId
    (hu.planOf_eq_of_outputName hdist ho ht (by rw [← hstands.typeName_eq, hname]))

/-- A constructor that an entry point has a branch for is followed to its plan. -/
theorem resolve_eq (hu : unit.Accepted symbolPrefix vectorTag) (hdist : unit.Distinct)
    {entry target : Definition}
    (he : entry ∈ unit.schema.definitions) (ht : target ∈ unit.schema.definitions)
    {branch : DispatchBranch}
    (hb : branch ∈ (unit.schema.dispatch symbolPrefix entry).branches)
    (hname : branch.typeName = outputName symbolPrefix target.key) (strict : Bool) :
    unit.registry.resolve (outputName symbolPrefix entry.key) target.constructorId strict =
      .ok (some (unit.schema.planOf symbolPrefix vectorTag target)) := by
  obtain ⟨hops, hle, hleads⟩ := hu.leads_target hdist he ht hb
    (hu.tag_of_typeName hdist he ht hb hname)
  rw [Registry.resolve, hu.plan_of_definition hdist he]
  exact hleads.follow_eq strict (by unfold maxDelegations; omega)

end Compilation.Accepted

end TlSchema
