import Mathlib.Data.String.Basic
import TlSchema.Registry.Basic

/-!
# Fields as maps

Setting a field changes what this field holds and no other, in any list of fields. In lists that are
sorted by name, as those of objects are, the fields are determined by what the names hold.
-/

namespace TlSchema

namespace Fields

variable {α : Type}

/-- The list is sorted by name, and every name stands in it once. -/
def Sorted (fields : List (String × α)) : Prop := fields.Pairwise fun a b => a.1 < b.1

instance (fields : List (String × α)) : Decidable (Sorted fields) :=
  inferInstanceAs (Decidable (fields.Pairwise fun a b => a.1 < b.1))

theorem find?_insert_self (name : String) (a : α) (fields : List (String × α)) :
    find? name (insert name a fields) = some a := by
  induction fields with
  | nil => simp [insert, find?]
  | cons field rest ih =>
    obtain ⟨n, b⟩ := field
    rw [insert]
    split_ifs with h1 h2
    · simp [find?]
    · simp [find?]
    · rw [find?, if_neg h1, ih]

theorem find?_insert_ne {name other : String} (h : other ≠ name) (a : α)
    (fields : List (String × α)) : find? other (insert name a fields) = find? other fields := by
  induction fields with
  | nil => simp [insert, find?, h.symm]
  | cons field rest ih =>
    obtain ⟨n, b⟩ := field
    rw [insert]
    split_ifs with h1 h2
    · subst h1
      simp [find?, h.symm]
    · rw [find?, if_neg h.symm]
    · simp only [find?, ih]

theorem mem_of_find? {name : String} {a : α} {fields : List (String × α)}
    (h : find? name fields = some a) : (name, a) ∈ fields := by
  induction fields with
  | nil => simp [find?] at h
  | cons field rest ih =>
    obtain ⟨n, b⟩ := field
    rw [find?] at h
    split_ifs at h with hn
    · cases h
      subst hn
      exact List.mem_cons_self
    · exact List.mem_cons_of_mem _ (ih h)

theorem find?_ne_none_iff {name : String} {fields : List (String × α)} :
    find? name fields ≠ none ↔ name ∈ fields.map (·.1) := by
  induction fields with
  | nil => simp [find?]
  | cons field rest ih =>
    obtain ⟨key, a⟩ := field
    unfold find?
    by_cases h : key = name
    · simp [h]
    · rw [if_neg h, ih, List.map_cons, List.mem_cons]
      simp [Ne.symm h]

theorem mem_insert {name : String} {a : α} {field : String × α} {fields : List (String × α)}
    (h : field ∈ insert name a fields) : field.1 = name ∨ field ∈ fields := by
  induction fields with
  | nil =>
    rw [insert, List.mem_singleton] at h
    exact Or.inl (by rw [h])
  | cons head rest ih =>
    obtain ⟨n, b⟩ := head
    rw [insert] at h
    split_ifs at h
    · rcases List.mem_cons.mp h with h | h
      · exact Or.inl (by rw [h])
      · exact Or.inr (List.mem_cons_of_mem _ h)
    · rcases List.mem_cons.mp h with h | h
      · exact Or.inl (by rw [h])
      · exact Or.inr h
    · rcases List.mem_cons.mp h with h | h
      · exact Or.inr (h ▸ List.mem_cons_self)
      · exact (ih h).imp id (List.mem_cons_of_mem _)

theorem Sorted.insert {fields : List (String × α)} (h : Sorted fields) (name : String) (a : α) :
    Sorted (Fields.insert name a fields) := by
  induction fields with
  | nil => simp [Fields.insert, Sorted]
  | cons head rest ih =>
    obtain ⟨n, b⟩ := head
    obtain ⟨hhead, hrest⟩ := List.pairwise_cons.mp h
    rw [Fields.insert]
    split_ifs with h1 h2
    · subst h1
      exact List.pairwise_cons.mpr ⟨hhead, hrest⟩
    · refine List.pairwise_cons.mpr ⟨fun field hf => ?_, h⟩
      rcases List.mem_cons.mp hf with hf | hf
      · rw [hf]
        exact h2
      · exact h2.trans (hhead field hf)
    · refine List.pairwise_cons.mpr ⟨fun field hf => ?_, ih hrest⟩
      rcases mem_insert hf with hf | hf
      · show n < field.1
        rw [hf]
        exact lt_of_le_of_ne (not_lt.mp h2) h1
      · exact hhead field hf

/-- Every field of a sorted list is found by its name. -/
theorem Sorted.find?_of_mem {name : String} {a : α} {fields : List (String × α)} (h : Sorted fields)
    (hmem : (name, a) ∈ fields) : find? name fields = some a := by
  induction fields with
  | nil => cases hmem
  | cons head rest ih =>
    obtain ⟨n, b⟩ := head
    obtain ⟨hhead, hrest⟩ := List.pairwise_cons.mp h
    rcases List.mem_cons.mp hmem with heq | hmem
    · cases heq
      exact if_pos rfl
    · have hne : n ≠ name := (hhead _ hmem).ne
      rw [find?, if_neg hne]
      exact ih hrest hmem

/-- A name before all names of a list stands in none of its fields. -/
theorem find?_eq_none_of_lt {name : String} {fields : List (String × α)}
    (h : ∀ field ∈ fields, name < field.1) : find? name fields = none := by
  cases hf : find? name fields with
  | none => rfl
  | some a => exact absurd (h _ (mem_of_find? hf)) (lt_irrefl name)

/-- Sorted fields in which every name holds the same are the same. -/
theorem Sorted.ext {fields fields' : List (String × α)} (h : Sorted fields) (h' : Sorted fields')
    (heq : ∀ name, find? name fields = find? name fields') : fields = fields' := by
  induction fields generalizing fields' with
  | nil =>
    cases fields' with
    | nil => rfl
    | cons head rest =>
      have := heq head.1
      simp [find?] at this
  | cons head rest ih =>
    obtain ⟨n, a⟩ := head
    obtain ⟨hhead, hrest⟩ := List.pairwise_cons.mp h
    have hn : find? n fields' = some a := by
      rw [← heq n]
      simp [find?]
    cases fields' with
    | nil => simp [find?] at hn
    | cons head' rest' =>
      obtain ⟨n', a'⟩ := head'
      obtain ⟨hhead', hrest'⟩ := List.pairwise_cons.mp h'
      -- Each head is the least name of its list, and both lists have the same names.
      have hnn : n' = n := by
        by_contra hne
        have hlt : n' < n := hhead' _ (mem_of_find? (by rw [find?, if_neg hne] at hn; exact hn))
        have hn' : find? n' ((n, a) :: rest) = some a' := by
          rw [heq n']
          simp [find?]
        rw [find?, if_neg (Ne.symm hne)] at hn'
        exact absurd (hhead _ (mem_of_find? hn')) (not_lt.mpr hlt.le)
      subst hnn
      have haa : a' = a := by simpa [find?] using hn
      subst haa
      congr 1
      refine ih hrest hrest' fun name => ?_
      by_cases hname : n' = name
      · subst hname
        rw [find?_eq_none_of_lt hhead, find?_eq_none_of_lt hhead']
      · have := heq name
        simpa [find?, hname] using this

end Fields

/-! ## Objects -/

namespace Value

@[simp] theorem get?_object (name typeName : String) (fields : List (String × Value)) :
    (object typeName fields).get? name = Fields.find? name fields := rfl

@[simp] theorem set_object (name typeName : String) (a : Value) (fields : List (String × Value)) :
    (object typeName fields).set name a = object typeName (Fields.insert name a fields) := rfl

end Value

end TlSchema
