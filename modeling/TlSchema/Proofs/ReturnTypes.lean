import TlSchema.Plan.Builder
import TlSchema.Proofs.Blocks

/-!
# Families and return types

The families of a schema are what its definitions return, and nothing else: there is one for every
named type that some definition returns, and its members are the keys of the definitions that return
it. Both are listed in the order in which they are first seen, each once. So every member is a key,
and an entry point knows the number of each member of its family.
-/

namespace TlSchema

/-! ## In the order of first sight -/

section

variable {α β : Type}

/-- The values that elements of a list have, in the order of the first elements that have them. The
order is strict, so that no value is listed twice. -/
structure FirstSeen (has : α → β → Prop) [∀ a b, Decidable (has a b)] (all : List α)
    (values : List β) : Prop where
  mem_iff : ∀ b, b ∈ values ↔ ∃ a ∈ all, has a b
  ordered : values.Pairwise fun b c => all.findIdx (has · b) < all.findIdx (has · c)

namespace FirstSeen

variable {has : α → β → Prop} [∀ a b, Decidable (has a b)] {all : List α} {values : List β}

theorem nodup (h : FirstSeen has all values) : values.Nodup := by
  refine h.ordered.imp fun hlt heq => ?_
  rw [heq] at hlt
  exact Nat.lt_irrefl _ hlt

theorem findIdx_lt (h : FirstSeen has all values) {b : β} (hb : b ∈ values) :
    all.findIdx (has · b) < all.length := by
  obtain ⟨a, ha, hab⟩ := (h.mem_iff b).mp hb
  exact List.findIdx_lt_length_of_exists ⟨a, ha, decide_eq_true hab⟩

/-- What has been seen is seen first where it was before, whatever comes after. -/
theorem findIdx_append (h : FirstSeen has all values) {b : β} (hb : b ∈ values) (more : List α) :
    (all ++ more).findIdx (has · b) = all.findIdx (has · b) := by
  rw [List.findIdx_append, if_pos (h.findIdx_lt hb)]

theorem ordered_append (h : FirstSeen has all values) (more : List α) :
    values.Pairwise fun b c =>
      (all ++ more).findIdx (has · b) < (all ++ more).findIdx (has · c) := by
  refine h.ordered.imp_of_mem fun hb hc hlt => ?_
  rw [h.findIdx_append hb, h.findIdx_append hc]
  exact hlt

/-- An element without a value adds none. -/
theorem skip (h : FirstSeen has all values) {a : α} (ha : ∀ b, ¬ has a b) :
    FirstSeen has (all ++ [a]) values := by
  refine ⟨fun b => ?_, h.ordered_append [a]⟩
  simp [h.mem_iff b, ha b]

/-- An element with one value adds it at the end, unless it has been seen. -/
theorem add [DecidableEq β] (h : FirstSeen has all values) {a : α} {b : β}
    (ha : ∀ c, has a c ↔ c = b) :
    FirstSeen has (all ++ [a]) (if b ∈ values then values else values ++ [b]) := by
  have hmem : ∀ c, (∃ a' ∈ all ++ [a], has a' c) ↔ c ∈ values ∨ c = b := by
    intro c
    simp [h.mem_iff c, or_and_right, exists_or, ha c]
  by_cases hb : b ∈ values
  · rw [if_pos hb]
    refine ⟨fun c => ?_, h.ordered_append [a]⟩
    rw [hmem]
    constructor
    · exact Or.inl
    · rintro (hc | rfl)
      · exact hc
      · exact hb
  · rw [if_neg hb]
    refine ⟨fun c => ?_, ?_⟩
    · rw [hmem, List.mem_append, List.mem_singleton]
    · rw [List.pairwise_append]
      refine ⟨h.ordered_append [a], List.pairwise_singleton _ _, fun c hc d hd => ?_⟩
      -- no element before has the new value, so it comes after all that have been seen
      have hnone : all.findIdx (has · b) = all.length := by
        rw [List.findIdx_eq_length]
        intro a' ha'
        exact decide_eq_false fun hab => hb ((h.mem_iff b).mpr ⟨a', ha', hab⟩)
      have hlt := h.findIdx_lt hc
      rw [List.mem_singleton.mp hd, h.findIdx_append hc, List.findIdx_append, hnone]
      simp only [Nat.lt_irrefl, if_false]
      omega

end FirstSeen

end

/-! ## Families of definitions -/

namespace Families

/-- The families are those of the definitions. -/
structure FormedBy (families : List Family) (definitions : List Definition) : Prop where
  /-- A family is seen where its type is returned. -/
  names : FirstSeen (fun (definition : Definition) name => definition.returnType = .named name)
    definitions (families.map (·.name))
  /-- A member is seen where a definition with its key returns the type. -/
  members : ∀ family ∈ families, FirstSeen (fun (definition : Definition) key =>
    definition.returnType = .named family.name ∧ definition.key = key) definitions family.members

variable {families : List Family} {definitions : List Definition} {name member : String}

theorem insert_eq (family : Family) (member : String) :
    family.insert member = ⟨family.name,
      if member ∈ family.members then family.members else family.members ++ [member]⟩ := by
  unfold Family.insert
  split <;> rfl

theorem names_insertIn : (insertIn name member families).map (·.name)
    = if name ∈ families.map (·.name) then families.map (·.name)
      else families.map (·.name) ++ [name] := by
  induction families with
  | nil => rfl
  | cons first rest ih =>
    rw [insertIn]
    by_cases hfirst : first.name = name
    · rw [if_pos hfirst]
      simp [insert_eq, hfirst]
    · rw [if_neg hfirst, List.map_cons, ih, List.map_cons]
      by_cases hrest : name ∈ rest.map (·.name)
      · rw [if_pos hrest, if_pos (List.mem_cons_of_mem _ hrest)]
      · have hnot : name ∉ first.name :: rest.map (·.name) := by
          rw [List.mem_cons, not_or]
          exact ⟨Ne.symm hfirst, hrest⟩
        rw [if_neg hrest, if_neg hnot, List.cons_append]

/-- A family after a member has been added is another one, unchanged, or the one that the member was
added to, which may be new. -/
theorem cases_insertIn (hnodup : (families.map (·.name)).Nodup) {family : Family}
    (h : family ∈ insertIn name member families) :
    (family ∈ families ∧ family.name ≠ name) ∨
      (∃ old ∈ families, old.name = name ∧ family = old.insert member) ∨
      (name ∉ families.map (·.name) ∧ family = ⟨name, [member]⟩) := by
  induction families with
  | nil => exact Or.inr (Or.inr ⟨List.not_mem_nil, List.mem_singleton.mp h⟩)
  | cons first rest ih =>
    rw [List.map_cons, List.nodup_cons] at hnodup
    rw [insertIn] at h
    by_cases hfirst : first.name = name
    · rw [if_pos hfirst] at h
      rcases List.mem_cons.mp h with rfl | hrest
      · exact Or.inr (Or.inl ⟨first, List.mem_cons_self, hfirst, rfl⟩)
      · refine Or.inl ⟨List.mem_cons_of_mem _ hrest, fun hname => hnodup.1 ?_⟩
        rw [hfirst, ← hname]
        exact List.mem_map_of_mem hrest
    · rw [if_neg hfirst] at h
      rcases List.mem_cons.mp h with rfl | hrest
      · exact Or.inl ⟨List.mem_cons_self, hfirst⟩
      · rcases ih hnodup.2 hrest with ⟨hmem, hname⟩ | ⟨old, hold, hname, heq⟩ | ⟨hnew, heq⟩
        · exact Or.inl ⟨List.mem_cons_of_mem _ hmem, hname⟩
        · exact Or.inr (Or.inl ⟨old, List.mem_cons_of_mem _ hold, hname, heq⟩)
        · refine Or.inr (Or.inr ⟨?_, heq⟩)
          rw [List.map_cons, List.mem_cons, not_or]
          exact ⟨Ne.symm hfirst, hnew⟩

theorem FormedBy.insertIn (h : FormedBy families definitions) {definition : Definition}
    (hreturn : definition.returnType = .named name) :
    FormedBy (insertIn name definition.key families) (definitions ++ [definition]) := by
  refine ⟨?_, fun family hf => ?_⟩
  · rw [names_insertIn]
    refine h.names.add fun other => ?_
    rw [hreturn, ValueType.named.injEq, eq_comm]
  · rcases cases_insertIn h.names.nodup hf with
      ⟨hmem, hname⟩ | ⟨old, hold, hname, rfl⟩ | ⟨hnew, rfl⟩
    · refine (h.members family hmem).skip fun key hkey => ?_
      rw [hreturn] at hkey
      exact hname (ValueType.named.inj hkey.1).symm
    · rw [insert_eq]
      refine (h.members old hold).add fun key => ?_
      simp [hreturn, hname, eq_comm]
    · -- nothing that was defined before returns the type of a new family
      have hnone : FirstSeen (fun (definition : Definition) key =>
          definition.returnType = .named name ∧ definition.key = key) definitions [] := by
        refine ⟨fun key => ⟨fun hkey => absurd hkey List.not_mem_nil, ?_⟩, .nil⟩
        rintro ⟨other, ho, hother, -⟩
        exact absurd ((h.names.mem_iff name).mpr ⟨other, ho, hother⟩) hnew
      refine hnone.add fun key => ?_
      simp [hreturn, eq_comm]

theorem FormedBy.add {families : Families} (h : FormedBy families.toList definitions)
    (definition : Definition) :
    FormedBy (families.add definition).toList (definitions ++ [definition]) := by
  unfold Families.add
  split
  next name hreturn => exact h.insertIn hreturn
  next hother =>
    refine ⟨h.names.skip fun name hreturn => hother name hreturn, fun family hf => ?_⟩
    exact (h.members family hf).skip fun key hkey => hother family.name hkey.1

theorem FormedBy.foldl {families : Families} (h : FormedBy families.toList definitions)
    (more : List Definition) :
    FormedBy (more.foldl Families.add families).toList (definitions ++ more) := by
  induction more generalizing families definitions with
  | nil => simpa using h
  | cons definition more ih =>
    have hadded := ih (h.add definition)
    rwa [List.append_assoc] at hadded

theorem formedBy_ofDefinitions (definitions : List Definition) :
    FormedBy (Schema.ofDefinitions definitions).families.toList definitions := by
  have hempty : FormedBy ({} : Families).toList [] := by
    refine ⟨⟨fun name => ?_, .nil⟩, fun family hf => absurd hf List.not_mem_nil⟩
    simp
  exact hempty.foldl definitions

/-- A family has a member: the first definition that returns its type. -/
theorem FormedBy.members_ne_nil (h : FormedBy families definitions) {family : Family}
    (hf : family ∈ families) : family.members ≠ [] := by
  obtain ⟨definition, hd, hreturn⟩ := (h.names.mem_iff family.name).mp (List.mem_map_of_mem hf)
  exact List.ne_nil_of_mem (((h.members family hf).mem_iff _).mpr ⟨definition, hd, hreturn, rfl⟩)

end Families

namespace Schema

/-- The members of the family of a definition are keys of definitions. -/
theorem member_is_key {schema : Schema} (h : schema = .ofDefinitions schema.definitions)
    {definition : Definition} {family : Family} (hf : schema.familyOf? definition = some family)
    {member : String} (hm : member ∈ family.members) :
    ∃ sibling, schema.find? member = some sibling := by
  obtain ⟨hfind, -⟩ := Option.filter_eq_some_iff.mp hf
  have hfamily : family ∈ schema.families.toList := List.mem_of_find?_eq_some hfind
  have hformed : Families.FormedBy schema.families.toList schema.definitions := by
    rw [h]
    exact Families.formedBy_ofDefinitions _
  obtain ⟨other, ho, -, hkey⟩ := ((hformed.members family hfamily).mem_iff member).mp hm
  exact Option.isSome_iff_exists.mp (List.find?_isSome.mpr ⟨other, ho, decide_eq_true hkey⟩)

/-- The families of a schema are the named types that its definitions return, and their members are
the keys of the definitions that return them, both in the order in which they are first seen and
each once. The entry point of a definition knows the first definition of every other member of its
family, and has its number in the branch for the member. -/
theorem families_are_returnTypes {tokens : List Token} {schema : Schema}
    (h : ofTokens tokens = .ok schema) :
    FirstSeen (fun (definition : Definition) name => definition.returnType = .named name)
        schema.definitions (schema.families.toList.map (·.name)) ∧
      (schema.families.toList.map (·.name)).Nodup ∧
      (∀ family ∈ schema.families.toList,
        FirstSeen (fun (definition : Definition) key =>
            definition.returnType = .named family.name ∧ definition.key = key)
          schema.definitions family.members ∧
        family.members.Nodup ∧ family.members ≠ [] ∧
        ∀ member ∈ family.members, ∃ definition ∈ schema.definitions, definition.key = member) ∧
      ∀ symbolPrefix definition family, schema.familyOf? definition = some family →
        ∀ member ∈ family.members, member ≠ definition.key → ∃ sibling,
          schema.find? member = some sibling ∧
          (schema.memberBranch symbolPrefix definition member).tag = sibling.constructorId := by
  obtain ⟨definitions, -, rfl⟩ := ofTokens_eq_ok_iff.mp h
  have hformed := Families.formedBy_ofDefinitions definitions
  refine ⟨hformed.names, hformed.names.nodup, fun family hf => ?_, ?_⟩
  · have hmembers := hformed.members family hf
    refine ⟨hmembers, hmembers.nodup, hformed.members_ne_nil hf, fun member hm => ?_⟩
    obtain ⟨definition, hd, -, hkey⟩ := (hmembers.mem_iff member).mp hm
    exact ⟨definition, hd, hkey⟩
  · intro symbolPrefix definition family hfamily member hm hne
    obtain ⟨sibling, hsibling⟩ := member_is_key rfl hfamily hm
    refine ⟨sibling, hsibling, ?_⟩
    rw [memberBranch, if_neg hne, hsibling]

end Schema

/-! ## Keys and types that come back -/

namespace Recurring

/-- Two types are returned in turn, one key twice for the same type and one for both types. -/
def tokens : List Token :=
  [⟨.classDecl "m.one", ⟨1, 1⟩⟩, ⟨.constructorId "1", ⟨1, 7⟩⟩, ⟨.returnType (.named "M"), ⟨1, 11⟩⟩,
    ⟨.classDecl "n.two", ⟨2, 1⟩⟩, ⟨.constructorId "2", ⟨2, 7⟩⟩, ⟨.returnType (.named "N"), ⟨2, 11⟩⟩,
    ⟨.classDecl "m.one", ⟨3, 1⟩⟩, ⟨.constructorId "3", ⟨3, 7⟩⟩, ⟨.returnType (.named "N"), ⟨3, 11⟩⟩,
    ⟨.classDecl "m", ⟨4, 1⟩⟩, ⟨.constructorId "4", ⟨4, 3⟩⟩, ⟨.returnType (.named "M"), ⟨4, 7⟩⟩,
    ⟨.classDecl "n.two", ⟨5, 1⟩⟩, ⟨.constructorId "5", ⟨5, 7⟩⟩, ⟨.returnType (.named "N"), ⟨5, 11⟩⟩,
    ⟨.classDecl "n.no", ⟨6, 1⟩⟩, ⟨.constructorId "6", ⟨6, 6⟩⟩, ⟨.returnType .int32, ⟨6, 10⟩⟩]

/-- A definition whose key is part of the name of a type. -/
def short : Definition := ⟨"m", 4, [], .named "M", ⟨4, 1⟩⟩

def schema : Schema := .ofDefinitions
  [⟨"m.one", 1, [], .named "M", ⟨1, 1⟩⟩, ⟨"n.two", 2, [], .named "N", ⟨2, 1⟩⟩,
    ⟨"m.one", 3, [], .named "N", ⟨3, 1⟩⟩, short, ⟨"n.two", 5, [], .named "N", ⟨5, 1⟩⟩,
    ⟨"n.no", 6, [], .int32, ⟨6, 1⟩⟩]

theorem families_are_returnTypes_recurring :
    Schema.ofTokens tokens = .ok schema ∧
      schema.families.toList = [⟨"M", ["m.one", "m"]⟩, ⟨"N", ["n.two", "m.one"]⟩] ∧
      FirstSeen (fun (definition : Definition) name => definition.returnType = .named name)
        schema.definitions ["M", "N"] ∧
      FirstSeen (fun (definition : Definition) key =>
          definition.returnType = .named "N" ∧ definition.key = key)
        schema.definitions ["n.two", "m.one"] ∧
      schema.familyOf? short = some ⟨"M", ["m.one", "m"]⟩ ∧
      ∃ sibling, schema.find? "m.one" = some sibling ∧
        (schema.memberBranch "" short "m.one").tag = sibling.constructorId := by
  have htokens : Schema.ofTokens tokens = .ok schema := by decide +kernel
  have hfamilies : schema.families.toList = [⟨"M", ["m.one", "m"]⟩, ⟨"N", ["n.two", "m.one"]⟩] := by
    decide +kernel
  have hfamily : schema.familyOf? short = some ⟨"M", ["m.one", "m"]⟩ := by decide +kernel
  obtain ⟨hnames, -, hmembers, hsiblings⟩ := Schema.families_are_returnTypes htokens
  obtain ⟨hkeys, -⟩ := hmembers ⟨"N", ["n.two", "m.one"]⟩ (by simp [hfamilies])
  rw [hfamilies] at hnames
  exact ⟨htokens, hfamilies, hnames, hkeys, hfamily,
    hsiblings "" short _ hfamily "m.one" (by simp) (by decide)⟩

end Recurring

end TlSchema
