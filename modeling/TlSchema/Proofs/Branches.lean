import TlSchema.Proofs.ReturnTypes
import TlSchema.Render.Code

/-!
# The branches of entry points

An entry point reads one constructor itself, its own, and hands the others to the entry points of
the other members of the first family whose name contains its key. It gives one type unless such a
family starts with another member. Where it gives one type and hands nothing on, its own constructor
is the only one it has a branch for, so comparing with that constructor decides as the branches do.
-/

namespace TlSchema

namespace Families

/-! ## The first family that a key is part of -/

theorem occursIn_iff (word text : List Char) : occursIn word text = true ↔ word <:+: text := by
  induction text with
  | nil => simp [occursIn]
  | cons c text ih =>
    rw [occursIn, Bool.or_eq_true, ih, List.isPrefixOf_iff_prefix, List.infix_cons_iff]

/-- The family is the first one whose name contains the key when letter case is ignored. -/
def FirstContaining (families : List Family) (key : String) (family : Family) : Prop :=
  ∃ before after, families = before ++ family :: after ∧
    Text.lowercaseText key <:+: Text.lowercaseText family.name ∧
    ∀ other ∈ before, ¬ Text.lowercaseText key <:+: Text.lowercaseText other.name

theorem find?_eq_some {families : Families} {key : String} {family : Family} :
    families.find? key = some family ↔ FirstContaining families.toList key family := by
  have hfits : ∀ other : Family,
      occursIn (Text.lowercaseText key) (Text.lowercaseText other.name) = true
        ↔ Text.lowercaseText key <:+: Text.lowercaseText other.name :=
    fun other => occursIn_iff _ _
  unfold Families.find? FirstContaining
  rw [List.find?_eq_some_iff_append]
  simp only [hfits, Bool.not_eq_true', Bool.eq_false_iff, ne_eq]
  constructor
  · rintro ⟨hfamily, before, after, heq, hbefore⟩
    exact ⟨before, after, heq, hfamily, hbefore⟩
  · rintro ⟨before, after, heq, hfamily, hbefore⟩
    exact ⟨hfamily, before, after, heq, hbefore⟩

end Families

namespace Dispatch

theorem delegates_eq_true (dispatch : Dispatch) :
    dispatch.delegates = true ↔
      ∃ branch ∈ dispatch.branches, ∃ target, branch.action = .delegate target := by
  unfold delegates
  rw [List.any_eq_true]
  refine exists_congr fun branch => and_congr_right fun _ => ?_
  cases branch.action <;> simp

/-- If no constructor is handed on, all branches read the object themselves. -/
theorem filter_decodeSelf_of_delegates {dispatch : Dispatch} (h : dispatch.delegates = false) :
    dispatch.branches.filter (·.action = .decodeSelf) = dispatch.branches := by
  rw [List.filter_eq_self]
  intro branch hbranch
  cases haction : branch.action with
  | decodeSelf => simp
  | delegate target =>
    have hdelegates := dispatch.delegates_eq_true.mpr ⟨branch, hbranch, target, haction⟩
    rw [h] at hdelegates
    cases hdelegates

theorem isPolymorphic_eq_true (dispatch : Dispatch) :
    dispatch.isPolymorphic = true ↔ dispatch.siblings ≠ [] := by
  simp [isPolymorphic]

theorem route?_isSome (dispatch : Dispatch) (tag : UInt32) :
    (dispatch.route? tag).isSome = true ↔ ∃ branch ∈ dispatch.branches, branch.tag = tag := by
  simp [route?]

end Dispatch

theorem Render.isBoxed_eq_false (dispatch : Dispatch) :
    isBoxed dispatch = false ↔
      (∃ typeName, dispatch.result = .concrete typeName) ∧ dispatch.delegates = false := by
  unfold isBoxed
  cases dispatch.result <;> simp

namespace Schema

variable (schema : Schema) (symbolPrefix : String) (definition : Definition)

/-- The branch hands the constructor of the first definition with that key to its entry point. -/
def HandsTo (key : String) (branch : DispatchBranch) : Prop :=
  ∃ sibling, schema.find? key = some sibling ∧
    branch = ⟨sibling.constructorId, key, outputName symbolPrefix key,
      .delegate (outputName symbolPrefix key)⟩

/-- The members of the first family whose name contains the key of the definition; none without such
a family. -/
def candidates : List String := ((schema.families.find? definition.key).map (·.members)).getD []

section

variable {schema definition}

theorem candidates_of_firstContaining {family : Family}
    (h : Families.FirstContaining schema.families.toList definition.key family) :
    schema.candidates definition = family.members := by
  rw [candidates, Families.find?_eq_some.mpr h]
  rfl

theorem candidates_of_none
    (h : ¬ ∃ family, Families.FirstContaining schema.families.toList definition.key family) :
    schema.candidates definition = [] := by
  rw [candidates]
  cases hfind : schema.families.find? definition.key with
  | none => rfl
  | some family => exact absurd ⟨family, Families.find?_eq_some.mp hfind⟩ h

theorem head?_candidates (key : String) :
    (schema.candidates definition).head? = some key ↔
      ∃ family, Families.FirstContaining schema.families.toList definition.key family ∧
        family.members.head? = some key := by
  constructor
  · intro hhead
    by_cases hfamily : ∃ family,
        Families.FirstContaining schema.families.toList definition.key family
    · obtain ⟨family, hfirst⟩ := hfamily
      rw [candidates_of_firstContaining hfirst] at hhead
      exact ⟨family, hfirst, hhead⟩
    · rw [candidates_of_none hfamily] at hhead
      cases hhead
  · rintro ⟨family, hfirst, hhead⟩
    rw [candidates_of_firstContaining hfirst, hhead]

end

/-- An entry point has a family if the candidates are more than the definition itself. -/
theorem familyOf?_cases :
    (schema.familyOf? definition = none ∧
      (schema.candidates definition = [] ∨ schema.candidates definition = [definition.key])) ∨
    ∃ family ∈ schema.families.toList, schema.familyOf? definition = some family ∧
      schema.candidates definition = family.members ∧ family.members ≠ [definition.key] := by
  unfold familyOf? candidates
  cases hfind : schema.families.find? definition.key with
  | none => exact Or.inl ⟨rfl, Or.inl rfl⟩
  | some family =>
    by_cases hmembers : family.members = [definition.key]
    · exact Or.inl ⟨by simp [hmembers], Or.inr hmembers⟩
    · exact Or.inr ⟨family, List.mem_of_find?_eq_some hfind, by simp [hmembers], rfl, hmembers⟩

theorem branches_dispatch :
    (schema.dispatch symbolPrefix definition).branches
      = (schema.candidates definition).map (schema.memberBranch symbolPrefix definition)
        ++ if definition.key ∈ schema.candidates definition then []
          else [definition.ownBranch symbolPrefix] := by
  rcases schema.familyOf?_cases definition with
    ⟨hfamily, hnone | hself⟩ | ⟨family, -, hfamily, hmembers, -⟩
  · simp [dispatch, hfamily, hnone]
  · simp [dispatch, hfamily, hself, memberBranch]
  · rw [dispatch, hfamily, hmembers]

theorem siblings_dispatch :
    (schema.dispatch symbolPrefix definition).siblings
      = if schema.candidates definition = [definition.key] then []
        else (schema.candidates definition).map (outputName symbolPrefix) := by
  rcases schema.familyOf?_cases definition with
    ⟨hfamily, hnone | hself⟩ | ⟨family, -, hfamily, hmembers, hne⟩
  · simp [dispatch, hfamily, hnone]
  · simp [dispatch, hfamily, hself]
  · rw [dispatch, hfamily, hmembers, if_neg hne]

/-! ## Own and other branches -/

theorem memberBranch_action (member : String) :
    (schema.memberBranch symbolPrefix definition member).action = .decodeSelf
      ↔ member = definition.key := by
  unfold memberBranch
  split_ifs with hkey <;> simp [Definition.ownBranch, hkey]

/-- Branches of members are selected by what is done as the members are by their keys. -/
theorem filter_memberBranch (members : List String) (p : DispatchBranch → Bool)
    (q : String → Bool)
    (hpq : ∀ member, p (schema.memberBranch symbolPrefix definition member) = q member) :
    (members.map (schema.memberBranch symbolPrefix definition)).filter p
      = (members.filter q).map (schema.memberBranch symbolPrefix definition) := by
  rw [List.filter_map]
  congr 1
  exact List.filter_congr fun member _ => hpq member

theorem filter_delegate_dispatch :
    (schema.dispatch symbolPrefix definition).branches.filter (·.action ≠ .decodeSelf)
      = ((schema.candidates definition).filter (· ≠ definition.key)).map
        (schema.memberBranch symbolPrefix definition) := by
  have hmap := schema.filter_memberBranch symbolPrefix definition (schema.candidates definition)
    (·.action ≠ .decodeSelf) (· ≠ definition.key) (by simp [memberBranch_action])
  rw [branches_dispatch, List.filter_append, hmap]
  split_ifs <;> simp [Definition.ownBranch]

theorem delegates_dispatch :
    (schema.dispatch symbolPrefix definition).delegates = true ↔
      ∃ member ∈ schema.candidates definition, member ≠ definition.key := by
  have haction : ∀ branch : DispatchBranch,
      (∃ target, branch.action = .delegate target) ↔ branch.action ≠ .decodeSelf := by
    intro branch
    cases branch.action <;> simp
  simp only [Dispatch.delegates_eq_true, haction, branches_dispatch]
  constructor
  · rintro ⟨branch, hbranch, hne⟩
    rcases List.mem_append.mp hbranch with hbranch | hbranch
    · obtain ⟨member, hmember, rfl⟩ := List.mem_map.mp hbranch
      rw [ne_eq, memberBranch_action] at hne
      exact ⟨member, hmember, hne⟩
    · split_ifs at hbranch
      · cases hbranch
      · rw [List.mem_singleton.mp hbranch] at hne
        exact absurd rfl hne
  · rintro ⟨member, hmember, hne⟩
    refine ⟨_, List.mem_append_left _ (List.mem_map_of_mem hmember), ?_⟩
    rwa [ne_eq, memberBranch_action]

/-! ## Families that definitions have formed -/

theorem filter_eq_of_nodup {members : List String} {key : String} (hnodup : members.Nodup)
    (hmem : key ∈ members) : members.filter (· = key) = [key] := by
  obtain ⟨before, after, rfl⟩ := List.append_of_mem hmem
  rw [List.nodup_append, List.nodup_cons] at hnodup
  obtain ⟨-, ⟨hafter, -⟩, hbefore⟩ := hnodup
  have hnotBefore : before.filter (· = key) = [] := by
    rw [List.filter_eq_nil_iff]
    intro member hm
    simp [hbefore member hm key List.mem_cons_self]
  have hnotAfter : after.filter (· = key) = [] := by
    rw [List.filter_eq_nil_iff]
    intro member hm heq
    exact hafter (of_decide_eq_true heq ▸ hm)
  simp [hnotBefore, hnotAfter]

section Formed

variable {schema} (hformed : Families.FormedBy schema.families.toList schema.definitions)

include hformed

theorem nodup_candidates : (schema.candidates definition).Nodup := by
  rw [candidates]
  cases hfind : schema.families.find? definition.key with
  | none => exact List.nodup_nil
  | some family => exact (hformed.members family (List.mem_of_find?_eq_some hfind)).nodup

theorem find?_candidate {member : String} (hm : member ∈ schema.candidates definition) :
    ∃ sibling, schema.find? member = some sibling := by
  rw [candidates] at hm
  cases hfind : schema.families.find? definition.key with
  | none =>
    rw [hfind] at hm
    cases hm
  | some family =>
    rw [hfind] at hm
    have hfamily := hformed.members family (List.mem_of_find?_eq_some hfind)
    obtain ⟨sibling, hs, -, hkey⟩ := (hfamily.mem_iff member).mp hm
    exact Option.isSome_iff_exists.mp (List.find?_isSome.mpr ⟨sibling, hs, decide_eq_true hkey⟩)

theorem filter_decodeSelf_dispatch :
    (schema.dispatch symbolPrefix definition).branches.filter (·.action = .decodeSelf)
      = [definition.ownBranch symbolPrefix] := by
  have hmap := schema.filter_memberBranch symbolPrefix definition (schema.candidates definition)
    (·.action = .decodeSelf) (· = definition.key) (by simp [memberBranch_action])
  have hnodup := nodup_candidates definition hformed
  rw [branches_dispatch, List.filter_append, hmap]
  by_cases hmem : definition.key ∈ schema.candidates definition
  · simp [hmem, filter_eq_of_nodup hnodup hmem, memberBranch]
  · have hnone : (schema.candidates definition).filter (· = definition.key) = [] := by
      simp only [List.filter_eq_nil_iff, decide_eq_true_eq]
      rintro member hm rfl
      exact hmem hm
    simp [hmem, hnone, Definition.ownBranch]

/-- The branches that hand constructors on are those of the other candidates. -/
theorem handsTo_dispatch :
    List.Forall₂ (schema.HandsTo symbolPrefix)
      ((schema.candidates definition).filter (· ≠ definition.key))
      ((schema.dispatch symbolPrefix definition).branches.filter (·.action ≠ .decodeSelf)) := by
  rw [filter_delegate_dispatch, List.forall₂_map_right_iff, List.forall₂_same]
  intro member hm
  obtain ⟨hmember, hne⟩ := List.mem_filter.mp hm
  obtain ⟨sibling, hsibling⟩ := find?_candidate definition hformed hmember
  refine ⟨sibling, hsibling, ?_⟩
  rw [memberBranch, if_neg (of_decide_eq_true hne), hsibling]

/-- There are siblings exactly if some candidate is another definition. -/
theorem siblings_ne_nil :
    (schema.dispatch symbolPrefix definition).siblings ≠ [] ↔
      ∃ member ∈ schema.candidates definition, member ≠ definition.key := by
  have hnodup := nodup_candidates definition hformed
  rw [siblings_dispatch]
  cases hall : schema.candidates definition with
  | nil => simp
  | cons first rest =>
    rw [hall, List.nodup_cons] at hnodup
    constructor
    · intro hsiblings
      by_cases hfirst : first = definition.key
      · -- what follows the definition is something else, and there is something
        cases rest with
        | nil => simp [hfirst] at hsiblings
        | cons second rest =>
          refine ⟨second, by simp, ?_⟩
          rintro rfl
          exact hnodup.1 (by simp [hfirst])
      · exact ⟨first, List.mem_cons_self, hfirst⟩
    · rintro ⟨member, hmember, hne⟩
      have hmore : first :: rest ≠ [definition.key] := by
        intro heq
        rw [heq] at hmember
        exact hne (List.mem_singleton.mp hmember)
      simp [hmore]

theorem result_dispatch (typeName : String) :
    (schema.dispatch symbolPrefix definition).result = .concrete typeName ↔
      typeName = outputName symbolPrefix definition.key ∧
        ((schema.dispatch symbolPrefix definition).siblings = [] ∨
          (schema.candidates definition).head? = some definition.key) := by
  have hown : EntryResult.concrete (outputName symbolPrefix definition.key) = .concrete typeName
      ↔ typeName = outputName symbolPrefix definition.key := by
    rw [EntryResult.concrete.injEq, eq_comm]
  rcases schema.familyOf?_cases definition with
    ⟨hfamily, -⟩ | ⟨family, hmem, hfamily, hmembers, hne⟩
  · simp [dispatch, hfamily, hown]
  · have hnonempty := hformed.members_ne_nil hmem
    rw [hmembers, dispatch, hfamily]
    by_cases hhead : family.members.head? = some definition.key
    · simp [hhead, hown]
    · simp [hhead, hnonempty]

end Formed

variable {schema}

/-- An entry point has one branch that reads the object itself, its own. The other branches are
those of the other members of the first family whose name contains the key, in order; there are some
exactly if there are siblings. The entry point gives its own type exactly if it has no siblings or
is the first member. If it gives one type and hands nothing on, then its own constructor is the only
one that it accepts. -/
theorem branches_are_own_and_other_members {tokens : List Token} (h : ofTokens tokens = .ok schema)
    {dispatch : Dispatch} (hdispatch : schema.dispatch symbolPrefix definition = dispatch) :
    dispatch.branches.filter (·.action = .decodeSelf)
        = [⟨definition.constructorId, definition.key, outputName symbolPrefix definition.key,
          .decodeSelf⟩] ∧
      (∀ family, Families.FirstContaining schema.families.toList definition.key family →
        List.Forall₂ (schema.HandsTo symbolPrefix)
          (family.members.filter (· ≠ definition.key))
          (dispatch.branches.filter (·.action ≠ .decodeSelf))) ∧
      ((¬ ∃ family, Families.FirstContaining schema.families.toList definition.key family) →
        dispatch.branches.filter (·.action ≠ .decodeSelf) = []) ∧
      ((∃ branch ∈ dispatch.branches, ∃ target, branch.action = .delegate target) ↔
        dispatch.siblings ≠ []) ∧
      dispatch.delegates = dispatch.isPolymorphic ∧
      (∀ typeName, dispatch.result = .concrete typeName ↔
        typeName = outputName symbolPrefix definition.key ∧
          (dispatch.siblings = [] ∨
            ∃ family, Families.FirstContaining schema.families.toList definition.key family ∧
              family.members.head? = some definition.key)) ∧
      (Render.isBoxed dispatch = false ↔
        (∃ typeName, dispatch.result = .concrete typeName) ∧ dispatch.delegates = false) ∧
      (Render.isBoxed dispatch = false →
        ∀ tag, (dispatch.route? tag).isSome = true ↔ tag = definition.constructorId) := by
  obtain ⟨definitions, -, rfl⟩ := ofTokens_eq_ok_iff.mp h
  have hformed := Families.formedBy_ofDefinitions definitions
  have hhands := handsTo_dispatch symbolPrefix definition hformed
  have hown := filter_decodeSelf_dispatch symbolPrefix definition hformed
  have hsiblings := siblings_ne_nil symbolPrefix definition hformed
  have hresult := result_dispatch symbolPrefix definition hformed
  rw [← delegates_dispatch _ symbolPrefix, hdispatch] at hsiblings
  rw [hdispatch] at hhands hown hresult
  refine ⟨hown, fun family hfirst => ?_, fun hnone => ?_, ?_, ?_, fun typeName => ?_,
    Render.isBoxed_eq_false dispatch, fun hplain tag => ?_⟩
  · rwa [candidates_of_firstContaining hfirst] at hhands
  · rw [candidates_of_none hnone] at hhands
    exact List.forall₂_nil_left_iff.mp hhands
  · rw [← Dispatch.delegates_eq_true, hsiblings]
  · rw [Bool.eq_iff_iff, Dispatch.isPolymorphic_eq_true, hsiblings]
  · rw [hresult, head?_candidates]
  · -- nothing is handed on, so the own branch is the only one
    obtain ⟨-, hdelegates⟩ := (Render.isBoxed_eq_false dispatch).mp hplain
    rw [Dispatch.filter_decodeSelf_of_delegates hdelegates] at hown
    rw [Dispatch.route?_isSome, hown]
    simp [Definition.ownBranch, eq_comm]

end Schema

namespace Recurring

/-- A definition whose key is no part of the name of a type. -/
def alone : Definition := ⟨"n.no", 6, [], .int32, ⟨6, 1⟩⟩

theorem branches_are_own_and_other_members_recurring :
    Schema.ofTokens tokens = .ok schema ∧
      Families.FirstContaining schema.families.toList "m" ⟨"M", ["m.one", "m"]⟩ ∧
      (schema.dispatch "" short).branches
        = [⟨1, "m.one", "m_One", .delegate "m_One"⟩, ⟨4, "m", "M", .decodeSelf⟩] ∧
      List.Forall₂ (schema.HandsTo "") ["m.one"] [⟨1, "m.one", "m_One", .delegate "m_One"⟩] ∧
      (schema.dispatch "" short).result = .abstract "M" ∧
      (∀ family, Families.FirstContaining schema.families.toList "m" family →
        family.members.head? ≠ some "m") ∧
      Render.isBoxed (schema.dispatch "" alone) = false ∧
      ∀ tag, ((schema.dispatch "" alone).route? tag).isSome = true ↔ tag = 6 := by
  have htokens : Schema.ofTokens tokens = .ok schema := by decide +kernel
  have hfamily : schema.families.find? "m" = some ⟨"M", ["m.one", "m"]⟩ := by decide +kernel
  have hbranches : (schema.dispatch "" short).branches
      = [⟨1, "m.one", "m_One", .delegate "m_One"⟩, ⟨4, "m", "M", .decodeSelf⟩] := by decide +kernel
  have hfirst := Families.find?_eq_some.mp hfamily
  obtain ⟨-, hhands, -, -, -, hresult, -⟩ :=
    Schema.branches_are_own_and_other_members "" short htokens rfl
  obtain ⟨-, -, -, -, -, -, -, hroute⟩ :=
    Schema.branches_are_own_and_other_members "" alone htokens rfl
  have hplain : Render.isBoxed (schema.dispatch "" alone) = false := by decide +kernel
  have habstract : (schema.dispatch "" short).result = .abstract "M" := by decide +kernel
  refine ⟨htokens, hfirst, hbranches, ?_, habstract, fun family hf hhead => ?_, hplain,
    hroute hplain⟩
  · have hone := hhands _ hfirst
    rw [hbranches] at hone
    exact hone
  · have hconcrete := (hresult _).mpr ⟨rfl, Or.inr ⟨family, hf, hhead⟩⟩
    rw [habstract] at hconcrete
    cases hconcrete

end Recurring

end TlSchema
