import TlSchema.Json.Basic
import TlSchema.Text.Case

/-!
# Families

The definitions that return one abstract type form its family. `Families` keeps every abstract type
with the keys of its members, both in the order in which they were first seen.
-/

namespace TlSchema

/-- An abstract type and the keys of the definitions that return it. -/
structure Family where
  /-- The abstract type. -/
  name : String
  /-- The keys of its members, each once. -/
  members : List String
  deriving DecidableEq, Repr

/-- The family with one more member, unless it has it already. -/
def Family.insert (family : Family) (member : String) : Family :=
  if member ∈ family.members then family
  else { family with members := family.members ++ [member] }

/-- The families of a schema, in the order in which their types were first returned. -/
structure Families where
  /-- The families, each type once. -/
  toList : List Family := []
  deriving DecidableEq, Repr

namespace Families

/-- Adds a member to the family `name` of a list of families; a new family goes to the end. -/
def insertIn (name member : String) : List Family → List Family
  | [] => [⟨name, [member]⟩]
  | family :: rest =>
    if family.name = name then family.insert member :: rest
    else family :: insertIn name member rest

/-- Adds a member to the family `name`. -/
def insert (families : Families) (name member : String) : Families :=
  ⟨insertIn name member families.toList⟩

/-- The members of the family `name`. -/
def members? (families : Families) (name : String) : Option (List String) :=
  (families.toList.find? (·.name = name)).map (·.members)

/-- Whether `word` occurs in `text`. -/
def occursIn (word : List Char) : List Char → Bool
  | [] => word.isEmpty
  | c :: text => word.isPrefixOf (c :: text) || occursIn word text

/-- The first family whose name contains `key` when letter case is ignored. -/
def find? (families : Families) (key : String) : Option Family :=
  let word := Text.lowercaseText key
  families.toList.find? fun family => occursIn word (Text.lowercaseText family.name)

/-- How many families there are. -/
def size (families : Families) : Nat := families.toList.length

/-- The families as a document: an object with the members of every family. -/
def toJson (families : Families) : Json :=
  .obj (families.toList.map fun family => (family.name, .arr (family.members.map .str)))

end Families

end TlSchema
