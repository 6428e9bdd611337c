import TlSchema.Text.Segments

/-!
# Paths

Paths are texts with slashes between names.
-/

namespace TlSchema.Path

/-- What stands between the slashes of a path. -/
def parts (path : String) : List String :=
  let (first, others) := Text.segments '/' path.toList
  (first :: others).map String.ofList

/-- The parts of a path that are not empty: the steps that it takes. -/
def steps (path : String) : List String := (parts path).filter (· ≠ "")

/-- Whether a path starts at the root. -/
def isAbsolute (path : String) : Bool := path.toList.head? = some '/'

/-- The path `path` as seen from `base`. -/
def join (base path : String) : String :=
  if base = "" || isAbsolute path then path
  else if base.toList.getLast? = some '/' then base ++ path
  else base ++ "/" ++ path

/-- The names that a path leads through. Empty parts and dots lead nowhere; only a dot at the start
of a path that does not start at the root is kept. -/
def components (path : String) : List String :=
  let keep (names : List String) : List String := names.filter fun name => name ≠ "" && name ≠ "."
  if path = "" then []
  else if isAbsolute path then "/" :: keep (parts path)
  else match parts path with
    | "." :: rest => "." :: keep rest
    | names => keep names

/-- The path that leads through names. -/
def ofComponents : List String → String
  | "/" :: names => "/" ++ "/".intercalate names
  | names => "/".intercalate names

/-- The paths to what lies on the way through names, which are given last name first. -/
def onTheWay : List String → List String
  | [] => []
  | _ :: before => if before.isEmpty then [] else ofComponents before.reverse :: onTheWay before

/-- The directories that a path leads through, the last one first. -/
def parents (path : String) : List String := onTheWay (components path).reverse

/-- What is left of the names `names` after the names `base`. -/
def after? : (base names : List String) → Option (List String)
  | [], names => some names
  | _ :: _, [] => none
  | a :: base, b :: names => if a = b then after? base names else none

/-- The path inside `base`, if it is inside it. -/
def relativeTo? (base path : String) : Option String :=
  (after? (components base) (components path)).map "/".intercalate

/-- The directory part of a path with the slash that ends it, and the name after it. -/
def splitName (path : String) : String × String :=
  let reversed := path.toList.reverse
  let name := reversed.takeWhile (· ≠ '/')
  (String.ofList (reversed.drop name.length).reverse, String.ofList name.reverse)

/-- The name without its extension, which is what follows the last dot. A dot at the start of a name
starts no extension. -/
def stem (name : String) : String :=
  let reversed := name.toList.reverse
  match reversed.dropWhile (· ≠ '.') with
  | [] => name
  | [_] => name
  | _ :: before => String.ofList before.reverse

/-- The path with the extension of its name replaced. Where the name without its extension is two
dots, the path leads to the directory above, and no extension is added. -/
def withExtension (path extension : String) : String :=
  let (directory, name) := splitName path
  let bare := stem name ++ "."
  directory ++ if bare = ".." then bare else bare ++ extension

end TlSchema.Path
