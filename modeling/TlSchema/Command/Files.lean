import TlSchema.Command.Path

/-!
# Files

What the commands need of a file system, as operations of a monad, and a directory held in memory
that provides them. An operation that fails says why.
-/

namespace TlSchema

/-- Why an operation on files fails. -/
inductive FileFault where
  /-- There is nothing at the path, or nothing on the way to it. -/
  | missing
  /-- Any other reason. -/
  | other (reason : String)
  deriving DecidableEq, Repr

/-- The reason in words. -/
def FileFault.reason : FileFault → String
  | .missing => "no such file or directory"
  | .other reason => reason

/-- Access to files by path. -/
class FileAccess (m : Type → Type) where
  /-- The contents of a file. -/
  read : String → m (Except FileFault ByteArray)
  /-- Makes or replaces a file in a directory that exists. -/
  write : String → ByteArray → m (Except FileFault Unit)
  /-- Whether something is at a path. -/
  isPresent : String → m Bool
  /-- Whether a directory is at a path. -/
  isDirectory : String → m Bool
  /-- The names in a directory. -/
  list : String → m (Except FileFault (List String))
  /-- Removes all that is in a directory and then the directory, unless the path no longer leads to
  it by then. -/
  removeDirectory : String → m (Except FileFault Unit)
  /-- Makes a directory in a directory that exists. -/
  createDirectory : String → m (Except FileFault Unit)

namespace FileAccess

variable {m : Type → Type} [Monad m] [FileAccess m]

/-- A directory that cannot be made is no fault if there is one. -/
def orPresent (path : String) (result : Except FileFault Unit) : m (Except FileFault Unit) := do
  match result with
  | .ok () => return .ok ()
  | .error fault => return if ← isDirectory path then .ok () else .error fault

/-- Makes the first of some directories, each of which is in the next one. Where something is
missing on the way to it, the others are made before it. -/
def createAlong : List String → m (Except FileFault Unit)
  | [] => return .ok ()
  | path :: parents => do
    match ← createDirectory path with
    | .error .missing =>
      match ← createAlong parents with
      | .ok () => orPresent path (← createDirectory path)
      | .error fault => return .error fault
    | result => orPresent path result

/-- Makes a directory and the directories on the way to it. -/
def createDirectories (path : String) : m (Except FileFault Unit) :=
  createAlong (path :: Path.parents path)

/-- Makes the directories on the way to a path. -/
def createParents (path : String) : m (Except FileFault Unit) :=
  createAlong (Path.parents path)

end FileAccess

/-! ## A directory held in memory -/

/-- A file or a directory. -/
inductive FileNode where
  /-- A file with its contents. -/
  | file (contents : ByteArray)
  /-- A directory with its entries, each name once. -/
  | directory (entries : List (String × FileNode))

namespace FileNode

/-- The directory with nothing in it. -/
def empty : FileNode := .directory []

/-- The entries of a directory. A file has none. -/
def entries : FileNode → List (String × FileNode)
  | .file _ => []
  | .directory entries => entries

/-- Entries with what stands under a name replaced or removed. -/
def setEntry (name : String) (node? : Option FileNode) :
    List (String × FileNode) → List (String × FileNode)
  | [] => (node?.map fun node => (name, node)).toList
  | entry :: rest =>
    if entry.1 = name then (node?.map fun node => (name, node)).toList ++ rest
    else entry :: setEntry name node? rest

/-- What names lead to. -/
def find? : List String → FileNode → Option FileNode
  | [], node => some node
  | name :: names, node => (node.entries.lookup name).bind (find? names)

/-- The node with what names lead to replaced or removed. The directories on the way must exist. -/
def set (node? : Option FileNode) : List String → FileNode → FileNode
  | [], node => node?.getD node
  | [name], node => .directory (setEntry name node? node.entries)
  | name :: names, node =>
    match node.entries.lookup name with
    | some child => .directory (setEntry name (some (set node? names child)) node.entries)
    | none => node

/-- The node with a file where names lead to and the directories that it is in. -/
def plant (contents : ByteArray) : List String → FileNode → FileNode
  | [], _ => .file contents
  | name :: names, node =>
    let child := (node.entries.lookup name).getD empty
    .directory (setEntry name (some (plant contents names child)) node.entries)

mutual

/-- The files at or below a node, each with the names that lead to it. -/
def files : FileNode → List (List String × ByteArray)
  | .file contents => [([], contents)]
  | .directory entries => entryFiles entries

/-- The files at or below some entries, each with the names that lead to it. -/
def entryFiles : List (String × FileNode) → List (List String × ByteArray)
  | [] => []
  | (name, node) :: rest =>
    (node.files.map fun (names, contents) => (name :: names, contents)) ++ entryFiles rest

end

end FileNode

/-- A place as seen from a directory: so many directories up, and then down along names, of which
the last one is given first. -/
structure Place where
  /-- How many directories up. -/
  above : Nat := 0
  /-- The names on the way down, the last one first. -/
  trail : List String := []
  deriving DecidableEq, Repr

namespace Place

/-- The directory that a place is in. -/
def up (place : Place) : Place :=
  match place.trail with
  | [] => ⟨place.above + 1, []⟩
  | _ :: trail => ⟨place.above, trail⟩

/-- The place of a name in a directory. -/
def down (place : Place) (name : String) : Place := ⟨place.above, name :: place.trail⟩

end Place

/-- A directory held in memory, and what is known of the directories above it. -/
structure FileTree where
  /-- The directory itself and then, upwards, what is known of each directory above it. -/
  levels : List FileNode := []

namespace FileTree

/-- What is known of a directory above, or of the directory itself. -/
def level (tree : FileTree) (above : Nat) : FileNode := tree.levels.getD above .empty

/-- What is at a place. -/
def node? (tree : FileTree) (place : Place) : Option FileNode :=
  (tree.level place.above).find? place.trail.reverse

/-- The tree with what is at a place replaced or removed. -/
def set (tree : FileTree) (place : Place) (node? : Option FileNode) : FileTree where
  levels := (List.range (max tree.levels.length (place.above + 1))).map fun n =>
    if n = place.above then (tree.level n).set node? place.trail.reverse else tree.level n

/-- The files in the directory itself, each with the names that lead to it. -/
def files (tree : FileTree) : List (List String × ByteArray) := (tree.level 0).files

/-- The contents of the file in the directory itself that names lead to. -/
def file? (tree : FileTree) (names : List String) : Option ByteArray :=
  match (tree.level 0).find? names with
  | some (.file contents) => some contents
  | _ => none

/-- The tree that holds the given files and the directories they are in. -/
def ofFiles (files : List (String × ByteArray)) : FileTree where
  levels := [files.foldl (fun node (path, contents) => node.plant contents (Path.components path))
    .empty]

/-! ## Paths in the tree -/

/-- The most bytes that a name can have. -/
def maxNameSize : Nat := 255

/-- The most bytes that a path can have. -/
def maxPathSize : Nat := 4095

/-- The fault of a name or a path that has too many bytes. -/
def tooLong : FileFault := .other "file name too long"

/-- The fault of a path that leads through a file. -/
def notDirectory : FileFault := .other "not a directory"

/-- The fault of a path that leads to a directory where a file is needed. -/
def isDirectory : FileFault := .other "is a directory"

/-- Takes steps from a place where `node?` is; every step must start from a directory. Gives the
place where they end and what is there. -/
def follow (tree : FileTree) (place : Place) (node? : Option FileNode) :
    List String → Except FileFault (Place × Option FileNode)
  | [] => .ok (place, node?)
  | step :: steps =>
    match node? with
    | none => .error .missing
    | some (.file _) => .error notDirectory
    | some (.directory entries) =>
      if maxNameSize < step.utf8ByteSize then .error tooLong
      else if step = "" || step = "." then tree.follow place node? steps
      else if step = ".." then tree.follow place.up (tree.node? place.up) steps
      else tree.follow (place.down step) (entries.lookup step) steps

/-- Where the steps of a path end, and what is there. -/
def followPath (tree : FileTree) (path : String) (steps : List String) :
    Except FileFault (Place × Option FileNode) :=
  if path = "" || Path.isAbsolute path then .error .missing
  else if maxPathSize < path.utf8ByteSize then .error tooLong
  else tree.follow {} (some (tree.level 0)) steps

/-- Where a path ends, and what is there. -/
def find (tree : FileTree) (path : String) : Except FileFault (Place × Option FileNode) :=
  tree.followPath path (Path.parts path)

/-- What a path leads to. -/
def nodeAt? (tree : FileTree) (path : String) : Option FileNode :=
  match tree.find path with
  | .ok (_, node?) => node?
  | .error _ => none

/-- Whether a path leads to a directory. -/
def hasDirectory (tree : FileTree) (path : String) : Bool :=
  match tree.nodeAt? path with
  | some (.directory _) => true
  | _ => false

/-! ## Operations -/

/-- The contents of the file that a path leads to. -/
def contents (tree : FileTree) (path : String) : Except FileFault ByteArray := do
  match ← tree.find path with
  | (_, some (.file contents)) => return contents
  | (_, some (.directory _)) => throw isDirectory
  | (_, none) => throw .missing

/-- The tree with a file where a path leads to. -/
def put (tree : FileTree) (path : String) (contents : ByteArray) : Except FileFault FileTree := do
  match ← tree.find path with
  | (_, some (.directory _)) => throw isDirectory
  | (place, _) => return tree.set place (some (.file contents))

/-- The tree with a new directory where a path leads to. Slashes at its end do not count. -/
def create (tree : FileTree) (path : String) : Except FileFault FileTree := do
  match ← tree.followPath path (Path.steps path) with
  | (_, some _) => throw (.other "file exists")
  | (place, none) => return tree.set place (some .empty)

/-- Removes the directory that a path leads to, after all that is in it. A path that ends with dots
cannot be used to remove it; but if the path leads through what is in the directory, it has come to
lead nowhere, and nothing more is to be done. -/
def remove (tree : FileTree) (path : String) : Except FileFault Unit × FileTree :=
  match tree.find path with
  | .error fault => (.error fault, tree)
  | .ok (_, none) => (.error .missing, tree)
  | .ok (_, some (.file _)) => (.error notDirectory, tree)
  | .ok (place, some (.directory _)) =>
    let cleared := tree.set place (some .empty)
    let steps := Path.steps path
    match cleared.followPath path steps with
    | .error _ => (.ok (), cleared)
    | .ok _ =>
      if steps.getLast? = some "." || steps.getLast? = some ".." then
        (.error (.other "in use"), cleared)
      else (.ok (), cleared.set place none)

/-- The names in the directory that a path leads to. -/
def names (tree : FileTree) (path : String) : Except FileFault (List String) := do
  match ← tree.find path with
  | (_, some (.directory entries)) => return entries.map (·.1)
  | (_, some (.file _)) => throw notDirectory
  | (_, none) => throw .missing

/-- Goes on with a changed tree, or leaves the tree as it is. -/
def change (result : FileTree → Except FileFault FileTree) :
    StateM FileTree (Except FileFault Unit) := do
  match result (← get) with
  | .ok tree =>
    MonadState.set tree
    return .ok ()
  | .error fault => return .error fault

end FileTree

instance : FileAccess (StateM FileTree) where
  read path := return (← get).contents path
  write path contents := FileTree.change (·.put path contents)
  isPresent path := return ((← get).nodeAt? path).isSome
  isDirectory path := return (← get).hasDirectory path
  list path := return (← get).names path
  removeDirectory path := do
    let (result, tree) := (← get).remove path
    set tree
    return result
  createDirectory path := FileTree.change (·.create path)

end TlSchema
