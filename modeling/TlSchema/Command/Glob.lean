import TlSchema.Command.Files

/-!
# File patterns

A pattern is a path with wildcards: `?` stands for one character, `*` for any number of them,
`[a-z]` for one of a set and `[!a-z]` for one outside it, and a part that is `**` for any number of
directories. A path matches if it matches part by part.
-/

namespace TlSchema.Glob

/-- A member of a set of characters. -/
inductive Member where
  /-- One character. -/
  | single (c : Char)
  /-- The characters between two. -/
  | range (first last : Char)
  deriving DecidableEq, Repr

/-- Whether a character is the member of a set or in its range. -/
def Member.contains (c : Char) : Member → Bool
  | .single d => c = d
  | .range first last => first ≤ c && c ≤ last

/-- The members that the characters between brackets describe. -/
def members : List Char → List Member
  | a :: '-' :: b :: rest => .range a b :: members rest
  | a :: rest => .single a :: members rest
  | [] => []

/-- A piece of a pattern. -/
inductive Piece where
  /-- A character. -/
  | char (c : Char)
  /-- Any character. -/
  | any
  /-- Any sequence of characters. -/
  | sequence
  /-- Any number of directories. -/
  | directories
  /-- A character of a set. -/
  | within (set : List Member)
  /-- A character outside a set. -/
  | except (set : List Member)
  deriving DecidableEq, Repr

/-- Cuts what follows an opening bracket at the closing one. The first character of a set is never
its closing bracket. -/
def bracket? : List Char → Option (List Char × List Char)
  | [] => none
  | c :: rest =>
    match rest.dropWhile (· ≠ ']') with
    | [] => none
    | _ :: after => some (c :: rest.takeWhile (· ≠ ']'), after)

/-- What is left after a set is shorter than what the set starts. -/
theorem length_bracket {cs set after : List Char} (h : bracket? cs = some (set, after)) :
    after.length < cs.length := by
  unfold bracket? at h
  split at h
  · contradiction
  · rename_i c rest
    split at h
    · contradiction
    · rename_i d tail htail
      have hle := (List.dropWhile_suffix (fun x : Char => decide (x ≠ ']')) (l := rest)).length_le
      simp only [Option.some.injEq, Prod.mk.injEq] at h
      rw [← h.2]
      rw [htail] at hle
      simp only [List.length_cons] at hle ⊢
      omega

/-- Reads a pattern from where `before?` precedes it. A `**` must be a whole part. -/
def pieces? (before? : Option Char) (cs : List Char) : Option (List Piece) :=
  match cs with
  | [] => some []
  | '?' :: rest => (pieces? (some '?') rest).map (.any :: ·)
  | '*' :: '*' :: '*' :: _ => none
  | '*' :: '*' :: rest =>
    if before?.isNone || before? = some '/' then
      match rest with
      | [] => some [.directories]
      | '/' :: rest => (pieces? (some '/') rest).map (.directories :: ·)
      | _ => none
    else none
  | '*' :: rest => (pieces? (some '*') rest).map (.sequence :: ·)
  | '[' :: '!' :: rest =>
    match h : bracket? rest with
    | some (set, after) =>
      have := length_bracket h
      (pieces? (some ']') after).map (.except (members set) :: ·)
    | none => none
  | '[' :: rest =>
    match h : bracket? rest with
    | some (set, after) =>
      have := length_bracket h
      (pieces? (some ']') after).map (.within (members set) :: ·)
    | none => none
  | c :: rest => (pieces? (some c) rest).map (.char c :: ·)
termination_by cs.length
decreasing_by all_goals simp_all <;> omega

/-! ## Names

Whether a name matches is decided for all its ends at once, from the last piece of the pattern to
the first: the table of some pieces says of every end of the name, from the whole name to nothing,
whether the pieces match it. So the work is the number of pieces times the length of the name. -/

/-- The table of a piece that stands for one character, from the table of the pieces after it. -/
def oneThen (accepts : Char → Bool) : List Char → List Bool → List Bool
  | c :: cs, _ :: after => (accepts c && after.headD false) :: oneThen accepts cs after
  | _, _ => [false]

/-- The table of a piece that stands for any characters, from the table of the pieces after it. -/
def anyThen : List Bool → List Bool
  | [] => []
  | here :: after =>
    let onward := anyThen after
    (here || onward.headD false) :: onward

/-- Of every end of a name, whether pieces match it. -/
def matchTable (name : List Char) : List Piece → List Bool
  | [] => name.map (fun _ => false) ++ [true]
  | piece :: pieces =>
    let after := matchTable name pieces
    match piece with
    | .char d => oneThen (· = d) name after
    | .any => oneThen (fun _ => true) name after
    | .within set => oneThen (fun c => set.any (·.contains c)) name after
    | .except set => oneThen (fun c => !set.any (·.contains c)) name after
    | .sequence | .directories => anyThen after

/-- Whether a name matches the pieces of a part. -/
def matchesName (pieces : List Piece) (name : List Char) : Bool :=
  (matchTable name pieces).headD false

/-- A part of a pattern. -/
inductive Part where
  /-- A name without wildcards. -/
  | name (text : String)
  /-- Any number of directories. -/
  | directories
  /-- A name with wildcards. -/
  | wildcard (pieces : List Piece)
  deriving DecidableEq, Repr

namespace Part

/-- The part that a text describes. -/
def ofText? (text : String) : Option Part :=
  (pieces? none text.toList).map fun pieces =>
    if pieces = [.directories] then .directories
    else if pieces.all fun | .char _ => true | _ => false then .name text
    else .wildcard pieces

/-- Whether a name matches the part. -/
def matchesText (part : Part) (name : String) : Bool :=
  match part with
  | .name text => text = name
  | .directories => true
  | .wildcard pieces => matchesName pieces name.toList

/-- Whether the part starts with a dot. -/
def startsWithDot : Part → Bool
  | .wildcard (.char '.' :: _) => true
  | _ => false

end Part

/-- A pattern: whether it starts at the root, and its parts. -/
structure Pattern where
  /-- Whether it starts at the root. -/
  isAbsolute : Bool
  /-- Its parts. -/
  parts : List Part

/-- The pattern that a text describes; nothing if it is malformed. -/
def Pattern.ofText? (text : String) : Option Pattern := do
  let _ ← pieces? none text.toList
  let absolute := Path.isAbsolute text
  let names := Path.parts (String.ofList (text.toList.dropWhile (· = '/')))
  let parts ← names.mapM Part.ofText?
  return ⟨absolute, parts⟩

/-! ## Searching -/

variable {m : Type → Type} [Monad m] [FileAccess m]

/-- The path of a name in a directory; names in the working directory stand by themselves. -/
def child (directory name : String) : String :=
  if Path.components directory = ["."] then name else Path.join directory name

/-- The paths in a directory that match the parts of a pattern. `depth` bounds how many directories
lie between. -/
def search (depth : Nat) (parts : List Part) (directory : String) : m (List String) :=
  match depth, parts with
  | 0, _ => return []
  | _, [] => return []
  | depth + 1, .name text :: rest => do
    let next := child directory text
    let found ←
      if text = "." || text = ".." then FileAccess.isDirectory directory
      else FileAccess.isPresent next
    if !found then return []
    else if rest.isEmpty then return [next]
    else search depth rest next
  | depth + 1, part :: rest => do
    match ← FileAccess.list directory with
    | .error _ => return []
    | .ok names =>
      -- The parts that follow any number of directories apply at every depth.
      let onward := rest.dropWhile (· = .directories)
      let found ← names.mapM fun name => do
        let path := child directory name
        if part = .directories then
          let below ←
            if ← FileAccess.isDirectory path then search depth (.directories :: onward) path
            else pure []
          let here ← match onward with
            | [] => if ← FileAccess.isDirectory path then pure [path] else pure []
            | next :: later =>
              if !next.matchesText name then pure []
              else if later.isEmpty then pure [path]
              else search depth later path
          return below ++ here
        else if !part.matchesText name then return []
        else if rest.isEmpty then return [path]
        else search depth rest path
      let special ← [".", ".."].mapM fun name => do
        if part.startsWithDot && part.matchesText name then
          let path := Path.join directory name
          if rest.isEmpty then return [path] else search depth rest path
        else return []
      return found.flatten ++ special.flatten

/-- No path leads through more directories than this. -/
def maxDepth : Nat := 4096

/-- The paths that match a pattern. -/
def Pattern.search (pattern : Pattern) : m (List String) :=
  Glob.search maxDepth pattern.parts (if pattern.isAbsolute then "/" else ".")

end TlSchema.Glob
