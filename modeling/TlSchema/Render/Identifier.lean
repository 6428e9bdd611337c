import TlSchema.Text.Case

/-!
# Identifiers of generated code

Names of fields and modules in generated Rust code: words are in lower case and joined by
underscores, and a name that is a keyword is followed by an underscore.
-/

namespace TlSchema.Render

/-- Whether a word starts at an upper case letter, given the characters before and after it: not at
the start of a name, not after an underscore, and not inside a run of capitals unless a lower case
letter follows. -/
def startsWord (before? : Option Char) (after : List Char) : Bool :=
  match before? with
  | none => false
  | some before =>
    before ≠ '_' && (!Text.isUppercase before || after.head?.any Text.isLowercase)

/-- The words of the characters that follow `before?`, in lower case and joined by underscores. -/
def snakeFrom (before? : Option Char) : List Char → List Char
  | [] => []
  | c :: rest =>
    let written :=
      if Text.isUppercase c then
        (if startsWord before? rest then ['_'] else []) ++ Text.lowercase c
      else if c = '.' then ['_']
      else [c]
    written ++ snakeFrom (some c) rest

/-- A name with its words in lower case and joined by underscores. Runs of capitals stay together,
so `userID` becomes `user_id`. -/
def snakeCase (name : String) : String :=
  String.ofList (snakeFrom none name.toList)

/-- The words that cannot be identifiers. -/
def keywords : List String :=
  ["as", "async", "await", "break", "const", "continue", "crate", "dyn", "else", "enum", "extern",
   "false", "fn", "for", "if", "impl", "in", "let", "loop", "match", "mod", "move", "mut", "pub",
   "ref", "return", "self", "Self", "static", "struct", "super", "trait", "true", "type", "unsafe",
   "use", "where", "while"]

/-- A name that is no keyword. -/
def escapeKeyword (name : String) : String :=
  if name ∈ keywords then name ++ "_" else name

/-- The identifier of a field or module. -/
def identifier (name : String) : String :=
  escapeKeyword (snakeCase name)

end TlSchema.Render
