import TlSchema.Proofs.Closure

/-!
# Schemas that grow

More definitions after those of a schema can add members to its families and add families behind
them. Every definition finds its family first by first, so it stays with the family it had; one that
had none may find one. Either way its entry point keeps all branches it had, and with numbers that
differ no new branch takes a constructor from an old one. So the plans of the schema are kept, and
with them everything that is written and read by them.
-/

namespace TlSchema

open Results

/-! ## Families -/

namespace Families

/-- Whatever family is found by its name among the first ones is found among the second ones, with
the members it has and perhaps more. -/
def Grows (small large : Families) : Prop :=
  ∀ (fits : String → Bool) family, small.toList.find? (fun f => fits f.name) = some family →
    ∃ family', large.toList.find? (fun f => fits f.name) = some family' ∧
      family.members ⊆ family'.members

theorem Grows.refl (families : Families) : families.Grows families :=
  fun _ family h => ⟨family, h, List.Subset.refl _⟩

theorem Grows.trans {small middle large : Families} (h : small.Grows middle)
    (h' : middle.Grows large) : small.Grows large := by
  intro fits family hfind
  obtain ⟨family', hfind', hsub⟩ := h fits family hfind
  obtain ⟨family'', hfind'', hsub'⟩ := h' fits family' hfind'
  exact ⟨family'', hfind'', List.Subset.trans hsub hsub'⟩

theorem Grows.find? {small large : Families} (h : small.Grows large) {key : String}
    {family : Family} (hfind : small.find? key = some family) :
    ∃ family', large.find? key = some family' ∧ family.members ⊆ family'.members :=
  h (fun name => occursIn (Text.lowercaseText key) (Text.lowercaseText name)) family hfind

theorem grows_insert (families : Families) (name member : String) :
    families.Grows (families.insert name member) := by
  intro fits family hfind
  show ∃ family',
    (insertIn name member families.toList).find? (fun f => fits f.name) = some family' ∧ _
  generalize families.toList = list at hfind ⊢
  induction list with
  | nil => cases hfind
  | cons first rest ih =>
    rw [insertIn]
    split_ifs with hname
    -- the family that gets the member keeps its name, so the same one is found
    · have hkeeps : (first.insert member).name = first.name := by
        unfold Family.insert
        split_ifs <;> rfl
      rw [List.find?_cons] at hfind ⊢
      rw [hkeeps]
      cases hfits : fits first.name with
      | false =>
        simp only [hfits] at hfind
        exact ⟨family, hfind, List.Subset.refl _⟩
      | true =>
        simp only [hfits] at hfind
        cases hfind
        refine ⟨_, rfl, ?_⟩
        unfold Family.insert
        split_ifs
        · exact List.Subset.refl _
        · exact List.subset_append_left _ _
    · rw [List.find?_cons] at hfind ⊢
      cases hfits : fits first.name with
      | false =>
        simp only [hfits] at hfind
        exact ih hfind
      | true =>
        simp only [hfits] at hfind
        exact ⟨family, hfind, List.Subset.refl _⟩

theorem grows_foldl_add (families : Families) (definitions : List Definition) :
    families.Grows (definitions.foldl add families) := by
  induction definitions generalizing families with
  | nil => exact .refl _
  | cons definition definitions ih =>
    refine Grows.trans ?_ (ih (families.add definition))
    unfold add
    split
    · exact grows_insert families _ _
    · exact .refl _

end Families

/-! ## Entry points -/

namespace Schema

variable (definitions more : List Definition) (symbolPrefix : String)

theorem families_append :
    (ofDefinitions definitions).families.Grows (ofDefinitions (definitions ++ more)).families := by
  show (definitions.foldl Families.add {}).Grows ((definitions ++ more).foldl Families.add {})
  rw [List.foldl_append]
  exact Families.grows_foldl_add _ more

theorem find?_append {member : String} {sibling : Definition}
    (h : (ofDefinitions definitions).find? member = some sibling) :
    (ofDefinitions (definitions ++ more)).find? member = some sibling := by
  show (definitions ++ more).find? (·.key = member) = some sibling
  have hfind : definitions.find? (·.key = member) = some sibling := h
  rw [List.find?_append, hfind]
  rfl

/-- The branch of a member stays as it is. -/
theorem memberBranch_append (definition : Definition) {member : String} {sibling : Definition}
    (h : (ofDefinitions definitions).find? member = some sibling) :
    (ofDefinitions (definitions ++ more)).memberBranch symbolPrefix definition member
      = (ofDefinitions definitions).memberBranch symbolPrefix definition member := by
  unfold memberBranch
  rw [h, find?_append definitions more h]

/-- An entry point keeps all its branches. -/
theorem branches_append (definition : Definition) {branch : DispatchBranch}
    (h : branch ∈ ((ofDefinitions definitions).dispatch symbolPrefix definition).branches) :
    branch ∈ ((ofDefinitions (definitions ++ more)).dispatch symbolPrefix definition).branches := by
  have hown := (ofDefinitions (definitions ++ more)).ownBranch_mem symbolPrefix definition
  unfold dispatch at h
  split at h
  · rw [List.mem_singleton.mp h]
    exact hown
  · rename_i family hfamily
    rcases List.mem_append.mp h with h | h
    · obtain ⟨member, hm, rfl⟩ := List.mem_map.mp h
      obtain ⟨sibling, hsibling⟩ := member_is_key rfl hfamily hm
      by_cases hkey : member = definition.key
      · rw [memberBranch, if_pos hkey]
        exact hown
      -- a family with another member counts, before and after
      · obtain ⟨hfind, -⟩ := Option.filter_eq_some_iff.mp hfamily
        obtain ⟨family', hfind', hsub⟩ := (families_append definitions more).find? hfind
        have hne : family'.members ≠ [definition.key] := by
          intro heq
          have hmem := hsub hm
          rw [heq, List.mem_singleton] at hmem
          exact hkey hmem
        have hfamily' : (ofDefinitions (definitions ++ more)).familyOf? definition = some family' :=
          Option.filter_eq_some_iff.mpr ⟨hfind', decide_eq_true hne⟩
        unfold dispatch
        rw [hfamily']
        refine List.mem_append_left _ (List.mem_map.mpr ⟨member, hsub hm, ?_⟩)
        exact memberBranch_append definitions more symbolPrefix definition hsibling
    · split_ifs at h
      · cases h
      · rw [List.mem_singleton.mp h]
        exact hown

/-- With numbers that differ, an entry point does with a constructor what it did. -/
theorem route_append {definition : Definition} (hd : definition ∈ definitions)
    (hids : ((definitions ++ more).map (·.constructorId)).Nodup) {tag : UInt32}
    {branch : DispatchBranch}
    (h : ((ofDefinitions definitions).dispatch symbolPrefix definition).route? tag = some branch) :
    ∃ taken,
      ((ofDefinitions (definitions ++ more)).dispatch symbolPrefix definition).route? tag
          = some taken ∧
        taken.action = branch.action := by
  have hd' : definition ∈ (ofDefinitions (definitions ++ more)).definitions :=
    List.mem_append_left more hd
  have hb := branches_append definitions more symbolPrefix definition (List.mem_of_find?_eq_some h)
  have htag : branch.tag = tag := by simpa using List.find?_some h
  obtain ⟨target, ht, hstands⟩ := branch_standsFor rfl symbolPrefix hd' hb
  unfold Dispatch.route?
  cases hfind : ((ofDefinitions (definitions ++ more)).dispatch symbolPrefix
      definition).branches.find? (·.tag = tag) with
  | none =>
    have := List.find?_eq_none.mp hfind branch hb
    simp [htag] at this
  | some taken =>
    -- the branch that is taken stands for a definition with the same number
    obtain ⟨other, ho, hstands'⟩ :=
      branch_standsFor rfl symbolPrefix hd' (List.mem_of_find?_eq_some hfind)
    have hid : other.constructorId = target.constructorId := by
      rw [← hstands'.tag_eq, ← hstands.tag_eq, htag]
      simpa using List.find?_some hfind
    have hsame : other = target := List.inj_on_of_nodup_map hids ho ht hid
    subst hsame
    exact ⟨taken, rfl, by rw [hstands'.action_eq, hstands.action_eq]⟩

/-! ## Plans -/

/-- The plan that is found by a name is that of the first definition with this name. -/
theorem plan_plansWith (schema : Schema) (vectorTag : UInt32) (typeName : String) {plan : Plan} :
    Registry.plan ⟨schema.plansWith symbolPrefix vectorTag⟩ typeName = .ok plan ↔
      ∃ definition, schema.definitions.find? (fun d => outputName symbolPrefix d.key = typeName)
          = some definition ∧
        schema.planOf symbolPrefix vectorTag definition = plan := by
  have hfind : (schema.plansWith symbolPrefix vectorTag).find? (·.typeName = typeName)
      = (schema.definitions.find? (fun d => outputName symbolPrefix d.key = typeName)).map
          (schema.planOf symbolPrefix vectorTag) := by
    rw [plansWith, List.find?_map]
    rfl
  unfold Registry.plan
  rw [hfind]
  cases schema.definitions.find? (fun d => outputName symbolPrefix d.key = typeName) with
  | none => simp
  | some definition => simp

theorem extends_append (vectorTag : UInt32)
    (hids : ((definitions ++ more).map (·.constructorId)).Nodup) :
    Registry.Extends ⟨(ofDefinitions definitions).plansWith symbolPrefix vectorTag⟩
      ⟨(ofDefinitions (definitions ++ more)).plansWith symbolPrefix vectorTag⟩ := by
  intro typeName plan hplan
  obtain ⟨definition, hfind, rfl⟩ := (plan_plansWith _ _ _ _).mp hplan
  have hd : definition ∈ definitions := List.mem_of_find?_eq_some hfind
  have hfind' : (definitions ++ more).find? (fun d => outputName symbolPrefix d.key = typeName)
      = some definition := by
    rw [List.find?_append, show definitions.find? _ = some definition from hfind]
    rfl
  refine ⟨_, (plan_plansWith _ _ _ _).mpr ⟨definition, hfind', rfl⟩, rfl, rfl, rfl, rfl, ?_⟩
  exact fun _ _ hroute => route_append definitions more symbolPrefix hd hids hroute

end Schema

/-! ## Tokens -/

namespace Assembly

/-- A token leaves the definitions that are closed as they are. -/
theorem Takes.keeps_closed {assembly assembly' : Assembly} {token : Token}
    (h : Takes assembly token assembly') :
    assembly.closed.toList <+: assembly'.closed.toList := by
  cases h with
  | close type typePos =>
    rw [Array.toList_push]
    exact List.prefix_append _ _
  | _ => exact List.prefix_rfl

end Assembly

/-- More tokens make more definitions after those there are. -/
theorem Schema.ofTokens_append {tokens more : List Token} {small large : Schema}
    (hsmall : Schema.ofTokens tokens = .ok small)
    (hlarge : Schema.ofTokens (tokens ++ more) = .ok large) :
    ∃ definitions added, small = .ofDefinitions definitions ∧
      large = .ofDefinitions (definitions ++ added) := by
  obtain ⟨definitions, hblocks, rfl⟩ := Schema.ofTokens_eq_ok_iff.mp hsmall
  obtain ⟨all, hall, rfl⟩ := Schema.ofTokens_eq_ok_iff.mp hlarge
  have hrun := Assembly.foldlM_blocks hall #[]
  rw [List.foldlM_append, Assembly.foldlM_blocks hblocks] at hrun
  have hmore : more.foldlM Assembly.step ⟨#[] ++ definitions.toArray, none⟩ =
      .ok ⟨#[] ++ all.toArray, none⟩ := hrun
  have hprefix : definitions <+: (#[] ++ all.toArray).toList :=
    foldlM_invariant (fun assembly => definitions <+: assembly.closed.toList) hmore
      (by simp) fun token _ a a' hstep ha => ha.trans (Assembly.takes_of_step hstep).keeps_closed
  obtain ⟨added, hadded⟩ : definitions <+: all := by simpa using hprefix
  exact ⟨definitions, added, rfl, by rw [hadded]⟩

namespace Compilation

theorem ofTokens_eq_ok {tokens : List Token} {settings : Settings} {unit : Compilation}
    (h : ofTokens tokens settings = .ok unit) :
    ∃ vectorTag, settings.vectorTag = .ok vectorTag ∧ Schema.ofTokens tokens = .ok unit.schema ∧
      unit.schema.checkReferences = .ok () ∧
      unit.plans = unit.schema.plansWith settings.symbolPrefix vectorTag := by
  obtain ⟨schema, hschema, h⟩ := bind_eq_ok.mp h
  obtain ⟨⟨⟩, hcheck, h⟩ := bind_eq_ok.mp h
  obtain ⟨plans, hplans, h⟩ := bind_eq_ok.mp h
  cases h
  obtain ⟨vectorTag, htag, hplans⟩ := Schema.plans_eq_ok hplans
  obtain ⟨⟨⟩, -, hrefs⟩ := bind_eq_ok.mp hcheck
  exact ⟨vectorTag, htag, hschema, hrefs, hplans⟩

end Compilation

namespace Schema

/-- If all references are defined, there are plans for the objects that fields have as defaults. -/
theorem knowsDefaults {schema : Schema} (hrefs : schema.checkReferences = .ok ())
    (symbolPrefix : String) (vectorTag : UInt32) :
    Registry.KnowsDefaults ⟨schema.plansWith symbolPrefix vectorTag⟩ := by
  refine Registry.knowsDefaults_of_leaf fun plan hplan field hf name hname => ?_
  obtain ⟨definition, hd, rfl⟩ := List.mem_map.mp hplan
  exact mem_typeNames_of_initial hrefs hd hf hname

end Schema

/-- Tokens of more definitions change nothing for what the definitions before them are about: with
output names and numbers that differ, objects of their types are written alike, and what was read
strictly by them is still read, as the same object. -/
theorem Compilation.append_conservative {tokens more : List Token} {settings : Settings}
    {small large : Compilation} (hsmall : ofTokens tokens settings = .ok small)
    (hlarge : ofTokens (tokens ++ more) settings = .ok large) (hdist : large.Distinct) :
    (∀ value, (∀ typeName ∈ value.typeNames, ∃ plan, small.registry.plan typeName = .ok plan) →
        small.registry.encode value = large.registry.encode value) ∧
      ∀ bytes typeName value, small.registry.decode bytes typeName true = .ok (some value) →
        large.registry.decode bytes typeName true = .ok (some value) := by
  obtain ⟨vectorTag, htag, hschema, hrefs, hplans⟩ := ofTokens_eq_ok hsmall
  obtain ⟨vectorTag', htag', hschema', -, hplans'⟩ := ofTokens_eq_ok hlarge
  cases htag.symm.trans htag'
  obtain ⟨definitions, added, heq, heq'⟩ := Schema.ofTokens_append hschema hschema'
  have hclosed := Schema.knowsDefaults hrefs settings.symbolPrefix vectorTag
  rw [heq] at hplans hclosed
  rw [heq'] at hplans'
  have hids : ((definitions ++ added).map (·.constructorId)).Nodup := by
    have hnodup := hdist.ids
    rw [hplans', Schema.plansWith, List.map_map] at hnodup
    exact hnodup
  have hext := Schema.extends_append definitions added settings.symbolPrefix vectorTag hids
  rw [← hplans] at hclosed hext
  rw [← hplans'] at hext
  exact ⟨fun value hvalue => (Registry.encode_eq_of_extends hext hclosed hvalue).symm,
    fun bytes typeName value hdecode => Registry.decode_of_extends hext hdecode⟩

/-! ## A family that grows -/

namespace GrowingFamily

/-- The tokens of a definition with one field, on the given line. -/
def block (line : Nat) (key digits name : String) (type : ValueType) (family : String) :
    List Token :=
  [⟨.classDecl key, ⟨line, 1⟩⟩, ⟨.constructorId digits, ⟨line, 5⟩⟩, ⟨.field name type, ⟨line, 7⟩⟩,
    ⟨.returnType (.named family), ⟨line, 15⟩⟩]

/-- A type that is alone in its family, and one that holds an object of it. -/
def tokens : List Token :=
  block 1 "a.q" "2" "y" .int64 "a.Q" ++ block 2 "a.h" "1" "q" (.named "a.q") "a.H"

/-- A second member of the family. -/
def more : List Token := block 3 "a.r" "3" "on" (.boolean false) "a.Q"

/-- The definitions before the second member comes. -/
def definitions : List Definition :=
  [⟨"a.q", 2, [⟨"y", .int64, none⟩], .named "a.Q", ⟨1, 1⟩⟩,
    ⟨"a.h", 1, [⟨"q", .named "a.q", none⟩], .named "a.H", ⟨2, 1⟩⟩]

/-- The definition of the second member. -/
def added : Definition := ⟨"a.r", 3, [⟨"on", .boolean false, none⟩], .named "a.Q", ⟨3, 1⟩⟩

/-- An object that holds an object of the family. -/
def value : Value := .object "a_H" [("q", .object "a_Q" [("y", .long 7)])]

/-- What is written for it. -/
def bytes : ByteArray := [1, 0, 0, 0, 2, 0, 0, 0, 7, 0, 0, 0, 0, 0, 0, 0].toByteArray

theorem append_keeps_value :
    ∃ small large, Compilation.ofTokens tokens {} = .ok small ∧
      Compilation.ofTokens (tokens ++ more) {} = .ok large ∧ large.Distinct ∧
      (∀ typeName ∈ value.typeNames, ∃ plan, small.registry.plan typeName = .ok plan) ∧
      large.registry.encode value = .ok bytes ∧
      small.registry.decode bytes "a_H" true = .ok (some value) ∧
      large.registry.decode bytes "a_H" true = .ok (some value) := by
  have hsmall : Compilation.ofTokens tokens {} = .ok (.ofDefinitions definitions) := by
    decide +kernel
  have hlarge : Compilation.ofTokens (tokens ++ more) {}
      = .ok (.ofDefinitions (definitions ++ [added])) := by decide +kernel
  have hdist : (Compilation.ofDefinitions (definitions ++ [added])).Distinct :=
    ⟨by decide +kernel, by decide +kernel⟩
  have hknown : ∀ typeName ∈ value.typeNames, ∃ plan,
      (Compilation.ofDefinitions definitions).registry.plan typeName = .ok plan := by
    intro typeName hname
    have hnames : value.typeNames = ["a_H", "a_Q"] := rfl
    rw [hnames, List.mem_pair] at hname
    rcases hname with rfl | rfl
    · exact ⟨_, rfl⟩
    · exact ⟨_, rfl⟩
  have hencode : (Compilation.ofDefinitions definitions).registry.encode value = .ok bytes := by
    decide +kernel
  have hdecode : (Compilation.ofDefinitions definitions).registry.decode bytes "a_H" true
      = .ok (some value) := rfl
  obtain ⟨hwrites, hreads⟩ := Compilation.append_conservative hsmall hlarge hdist
  exact ⟨_, _, hsmall, hlarge, hdist, hknown, (hwrites value hknown).symm.trans hencode, hdecode,
    hreads bytes "a_H" value hdecode⟩

end GrowingFamily

end TlSchema
