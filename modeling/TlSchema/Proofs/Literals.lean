import Mathlib.Control.Monad.Basic
import TlSchema.ValueType

/-!
# Literals of types

What it takes for a literal to denote a type, and which types read back from the literals they are
written with. A vector is cut at the first opening and the last closing bracket of its literal, so
the brackets that stand around a written element are found again whatever the element looks like.
-/

namespace TlSchema.ValueType

/-- The characters name a type: they are neither a word for a scalar nor the start of a vector. -/
def IsName (name : List Char) : Prop :=
  scalar? name = none ∧ name ≠ [] ∧ startsVector name = false

/-- The name at the bottom of the type, if there is one, can be told from other literals. -/
def Readable (type : ValueType) : Prop :=
  ∀ name, type.namedLeaf? = some name → IsName name.toList

/-! ## Written literals read back -/

/-- The first opening bracket and the last closing one are those around the element. -/
theorem element?_vector (element : List Char) :
    element? ("Vector<".toList ++ element ++ ['>']) = some element := by
  simp [element?, List.dropWhile]

theorem parseWithin_scalar {literal : List Char} {type : ValueType}
    (h : scalar? literal = some type) (depth : Nat) : parseWithin depth literal = .ok type := by
  unfold parseWithin
  rw [h]

theorem parseWithin_vector (depth : Nat) (element : List Char) :
    parseWithin (depth + 1) ("Vector<".toList ++ element ++ ['>']) =
      (parseWithin depth element).map .vector := by
  have hscalar : scalar? ("Vector<".toList ++ element ++ ['>']) = none := rfl
  have hvector : startsVector ("Vector<".toList ++ element ++ ['>']) = true := rfl
  rw [parseWithin, hscalar]
  simp only [hvector, element?_vector]
  rfl

theorem parseWithin_name {name : List Char} (h : IsName name) (depth : Nat) :
    parseWithin depth name = .ok (.named (String.ofList name)) := by
  obtain ⟨hscalar, hne, hvector⟩ := h
  unfold parseWithin
  rw [hscalar]
  simp [hne, hvector]

theorem toList_literal_vector (element : ValueType) :
    (vector element).literal.toList = "Vector<".toList ++ element.literal.toList ++ ['>'] := by
  simp [literal]

theorem parseWithin_literal {type : ValueType} (h : type.Readable) {depth : Nat}
    (hdepth : type.literal.toList.count '<' ≤ depth) :
    parseWithin depth type.literal.toList = .ok type := by
  induction type generalizing depth with
  | string => exact parseWithin_scalar rfl depth
  | boolean initial => cases initial <;> exact parseWithin_scalar rfl depth
  | int32 => exact parseWithin_scalar rfl depth
  | int64 => exact parseWithin_scalar rfl depth
  | vector element ih =>
    rw [toList_literal_vector] at hdepth ⊢
    -- the bracket of the vector is one of those that the depth counts
    have hcount : element.literal.toList.count '<' + 1 ≤ depth := by simpa using hdepth
    obtain ⟨rest, rfl⟩ : ∃ rest, depth = rest + 1 := ⟨depth - 1, by omega⟩
    rw [parseWithin_vector, ih h (by omega)]
    rfl
  | named name =>
    rw [literal, parseWithin_name (h name rfl), String.ofList_toList]

/-- A type whose name can be told from other literals reads back from its own literal. -/
theorem parse_literal {type : ValueType} (h : type.Readable) : parse type.literal = .ok type :=
  parseWithin_literal h (Nat.le_refl _)

/-! ## What a literal denotes -/

/-- A literal is a word for a scalar, names a type, or has an element that denotes a type. -/
theorem parseWithin_eq_ok {depth : Nat} {literal : List Char} {type : ValueType}
    (h : parseWithin depth literal = .ok type) :
    scalar? literal = some type ∨
      (IsName literal ∧ type = .named (String.ofList literal)) ∨
      ∃ rest inside element, element? literal = some inside ∧
        parseWithin rest inside = .ok element ∧ type = .vector element := by
  unfold parseWithin at h
  split at h
  · rename_i scalar hscalar
    cases h
    exact Or.inl hscalar
  · rename_i hscalar
    refine Or.inr ?_
    split at h
    · cases h
    · rename_i hne
      split at h
      · split at h
        · cases h
        · rename_i rest
          split at h
          · rename_i inside hinside
            cases helement : parseWithin rest inside with
            | error e => rw [helement] at h; cases h
            | ok element =>
              rw [helement] at h
              cases h
              exact Or.inr ⟨rest, inside, element, hinside, helement, rfl⟩
          · cases h
      · rename_i hvector
        cases h
        exact Or.inl ⟨⟨hscalar, by simpa using hne, by simpa using hvector⟩, rfl⟩

/-- The element of a literal stands inside of it, after an opening bracket. -/
theorem mem_of_element? {literal inside : List Char} (h : element? literal = some inside) :
    '<' ∈ literal ∧ inside ⊆ literal := by
  unfold element? at h
  split at h
  · cases h
  · rename_i c tail htail
    have hc : c = '<' := by
      have := List.head?_dropWhile_not (fun c => decide (c ≠ '<')) literal
      rw [htail] at this
      simpa using this
    have hsub : c :: tail ⊆ literal := htail ▸ (List.dropWhile_sublist _).subset
    refine ⟨hc ▸ hsub List.mem_cons_self, ?_⟩
    split at h
    · cases h
    · rename_i d before hbefore
      cases h
      intro x hx
      have hx' : x ∈ tail.reverse.dropWhile (· ≠ '>') := by
        rw [hbefore]
        exact List.mem_cons_of_mem d (List.mem_reverse.mp hx)
      exact hsub (List.mem_cons_of_mem c
        (List.mem_reverse.mp ((List.dropWhile_sublist _).subset hx')))

/-- No word for a scalar denotes a vector or a named type. -/
theorem namedLeaf?_of_scalar? {literal : List Char} {type : ValueType}
    (h : scalar? literal = some type) :
    type.namedLeaf? = none ∧ ∀ element, type ≠ .vector element := by
  obtain ⟨row, hrow, rfl⟩ := Option.map_eq_some_iff.mp h
  have hmem : row ∈ scalars := List.mem_of_find?_eq_some hrow
  simp only [scalars, List.mem_cons, List.not_mem_nil, or_false] at hmem
  rcases hmem with rfl | rfl | rfl | rfl | rfl | rfl <;> simp [namedLeaf?]

theorem namedLeaf?_parseWithin {depth : Nat} {literal : List Char} {type : ValueType}
    (h : parseWithin depth literal = .ok type) {name : String}
    (hname : type.namedLeaf? = some name) : IsName name.toList ∧ name.toList ⊆ literal := by
  induction type generalizing depth literal with
  | vector element ih =>
    rcases parseWithin_eq_ok h with hscalar | ⟨-, hnamed⟩ | ⟨rest, inside, _, hinside, hin, hv⟩
    · exact absurd rfl ((namedLeaf?_of_scalar? hscalar).2 element)
    · cases hnamed
    · cases hv
      obtain ⟨hleaf, hsub⟩ := ih hin hname
      exact ⟨hleaf, List.Subset.trans hsub (mem_of_element? hinside).2⟩
  | named own =>
    cases hname
    rcases parseWithin_eq_ok h with hscalar | ⟨hleaf, hnamed⟩ | ⟨_, _, _, _, _, hv⟩
    · have := (namedLeaf?_of_scalar? hscalar).1
      cases this
    · cases hnamed
      rw [String.toList_ofList]
      exact ⟨hleaf, List.Subset.refl _⟩
    · cases hv
  | _ => cases hname

/-- What a literal denotes reads back from its own literal. -/
theorem readable_of_parse {literal : String} {type : ValueType} (h : parse literal = .ok type) :
    type.Readable :=
  fun _ hname => (namedLeaf?_parseWithin h hname).1

theorem eq_of_parse_named {literal name : String} (h : parse literal = .ok (.named name)) :
    name = literal := by
  rcases parseWithin_eq_ok h with hscalar | ⟨-, hnamed⟩ | ⟨_, _, _, _, _, hv⟩
  · have := (namedLeaf?_of_scalar? hscalar).1
    cases this
  · cases hnamed
    rw [String.ofList_toList]
  · cases hv

theorem mem_of_parse_vector {literal : String} {element : ValueType}
    (h : parse literal = .ok (.vector element)) : '<' ∈ literal.toList := by
  rcases parseWithin_eq_ok h with hscalar | ⟨-, hnamed⟩ | ⟨_, _, _, hinside, _, _⟩
  · exact absurd rfl ((namedLeaf?_of_scalar? hscalar).2 element)
  · cases hnamed
  · exact (mem_of_element? hinside).1

/-! ## Names that can be told from other literals -/

theorem isWord_iff (word literal : List Char) :
    isWord word literal = true ↔ literal.map Char.toLower = word := by
  induction word generalizing literal with
  | nil => simp [isWord]
  | cons w word ih =>
    cases literal with
    | nil => simp [isWord]
    | cons c literal => simp [isWord, ih]

theorem startsWith_iff (word literal : List Char) :
    startsWith word literal = true ↔ word <+: literal.map Char.toLower := by
  induction word generalizing literal with
  | nil => simp [startsWith]
  | cons w word ih =>
    cases literal with
    | nil => simp [startsWith]
    | cons c literal =>
      rw [startsWith, Bool.and_eq_true, decide_eq_true_eq, ih, List.map_cons,
        List.cons_prefix_cons, eq_comm]

theorem scalar?_eq_none_iff (literal : List Char) :
    scalar? literal = none ↔ ∀ row ∈ scalars, literal.map Char.toLower ≠ row.1.toList := by
  unfold scalar?
  rw [Option.map_eq_none_iff, List.find?_eq_none]
  simp only [isWord_iff, ne_eq]

/-- Whether characters name a type does not depend on the case of letters. -/
theorem isName_iff (name : String) :
    IsName name.toList ↔
      name ≠ "" ∧ name.toLower ∉ ["string", "bool", "true", "false", "int", "long"] ∧
        ¬ "vector".toList <+: name.toLower.toList := by
  have hlower : name.toList.map Char.toLower = name.toLower.toList := String.toList_map.symm
  have hempty : name.toList ≠ [] ↔ name ≠ "" := by simp
  have hscalar : scalar? name.toList = none ↔
      name.toLower ∉ ["string", "bool", "true", "false", "int", "long"] := by
    rw [scalar?_eq_none_iff, hlower]
    simp [scalars, String.toList_inj]
  have hvector : startsVector name.toList = false ↔
      ¬ "vector".toList <+: name.toLower.toList := by
    rw [← hlower, ← startsWith_iff, Bool.not_eq_true]
    rfl
  unfold IsName
  rw [hempty, hscalar, hvector, and_left_comm]

/-- A type that has been read is the type that its own literal denotes, so writing it again changes
nothing any more. A type reads back exactly if the name at its bottom is not empty, is no word for a
scalar and does not start like a vector, all in any case of letters. -/
theorem literals_normalise :
    (∀ text type, parse text = .ok type → parse type.literal = .ok type) ∧
    (∀ text normal, (parse text).map literal = .ok normal →
      (parse normal).map literal = .ok normal) ∧
    ∀ type : ValueType, parse type.literal = .ok type ↔
      ∀ name, type.namedLeaf? = some name →
        name ≠ "" ∧ name.toLower ∉ ["string", "bool", "true", "false", "int", "long"] ∧
          ¬ "vector".toList <+: name.toLower.toList := by
  have hback : ∀ text type, parse text = .ok type → parse type.literal = .ok type :=
    fun text type h => parse_literal (readable_of_parse h)
  refine ⟨hback, fun text normal h => ?_, fun type => ?_⟩
  · cases hparse : parse text with
    | error e =>
      rw [hparse] at h
      cases h
    | ok type =>
      rw [hparse] at h
      cases h
      rw [hback text type hparse]
      rfl
  · simp only [← isName_iff]
    exact ⟨readable_of_parse, parse_literal⟩

namespace OddLiteral

/-- A literal with text around its brackets, in letters of either case, for a list of lists of a
type whose name has brackets itself. -/
def text : String := "vEcToRs<Vector<a><B>>?"

/-- What it denotes. -/
def type : ValueType := .vector (.vector (.named "a><B"))

theorem odd_literal_normalises :
    parse text = .ok type ∧ type.literal = "Vector<Vector<a><B>>" ∧
      parse "Vector<Vector<a><B>>" = .ok type ∧
      parse (ValueType.named "Vectors").literal ≠ .ok (.named "Vectors") := by
  have hparse : parse text = .ok type := by decide +kernel
  have hliteral : type.literal = "Vector<Vector<a><B>>" := by decide +kernel
  have hback := literals_normalise.1 text type hparse
  rw [hliteral] at hback
  refine ⟨hparse, hliteral, hback, fun h => ?_⟩
  have hname := (literals_normalise.2.2 (.named "Vectors")).mp h "Vectors" rfl
  exact hname.2.2 (by decide +kernel)

end OddLiteral

end TlSchema.ValueType
