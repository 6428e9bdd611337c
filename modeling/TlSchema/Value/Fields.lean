/-!
# Fields by name

The fields of an object are a list of names with what they hold, sorted by name and with every name
once, so that two objects have the same fields exactly if their lists are equal. Names are compared
character by character.
-/

namespace TlSchema.Fields

variable {α : Type}

/-- What the field `name` holds. -/
def find? (name : String) : List (String × α) → Option α
  | [] => none
  | (n, a) :: rest => if n = name then some a else find? name rest

/-- The fields with `name` holding `a`. -/
def insert (name : String) (a : α) : List (String × α) → List (String × α)
  | [] => [(name, a)]
  | (n, b) :: rest =>
    if n = name then (name, a) :: rest
    else if name < n then (name, a) :: (n, b) :: rest
    else (n, b) :: insert name a rest

/-- The fields without `name`. -/
def erase (name : String) : List (String × α) → List (String × α)
  | [] => []
  | (n, a) :: rest => if n = name then rest else (n, a) :: erase name rest

end TlSchema.Fields
