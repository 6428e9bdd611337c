import TlSchema.Text.Alphanumeric
import TlSchema.Text.Blank
import TlSchema.Token.Source

/-!
# Scanning tokens

The scanner reads a schema one character at a time. Its state says where in a definition it is and
holds the words of the definition that are not yet part of a token; `ScanState.step` is the effect
of one character on it, and gives the token that the character completes. A word remembers where it
starts; as long as it is empty, it stands for the place where the word before it started.

`Source.tokens` runs the scanner over a whole source.
-/

namespace TlSchema

/-- A word that is being read. -/
structure Word where
  /-- Where its first character stands; while it is empty, where the word before it started. -/
  start : Position
  /-- The characters read so far. -/
  text : String
  deriving DecidableEq, Repr

namespace Word

/-- The word that starts with one character. -/
def ofChar (here : Position) (c : Char) : Word := ⟨here, c.toString⟩

/-- The word with one more character, which stands at `here`. -/
def push (word : Word) (here : Position) (c : Char) : Word :=
  ⟨if word.text = "" then here else word.start, word.text.push c⟩

/-- The empty word after this one. -/
def cleared (word : Word) : Word := ⟨word.start, ""⟩

end Word

/-- Where the scanner is in a definition, with the words that belong to no token yet. -/
inductive ScanState where
  /-- Between definitions. -/
  | start
  /-- After the slash `word`, which starts a comment or a key. -/
  | slash (word : Word)
  /-- In a comment. -/
  | comment
  /-- In the key of a definition. -/
  | className (word : Word)
  /-- In the digits of the constructor's number. -/
  | constructorId (word : Word)
  /-- In the name of a field; `guard?` is a bit that waits for the field it guards. -/
  | fieldName (guard? : Option UInt8) (word : Word)
  /-- In the type of the field `name`; `guard?` is the bit that guards the field. -/
  | fieldType (name : Word) (guard? : Option UInt8) (word : Word)
  /-- In the digits of the bit that guards the field `name`. -/
  | flagIndex (name : Word) (word : Word)
  /-- In the return type; `guard?` is a bit that has waited for a field in vain. -/
  | returnClause (guard? : Option UInt8) (word : Word)
  deriving DecidableEq, Repr

namespace ScanState

/-- The phase of a definition that the state is in. -/
def phase : ScanState → Phase
  | .start => .start
  | .slash _ => .maybeComment
  | .comment => .commentLine
  | .className _ => .className
  | .constructorId _ => .constructor
  | .fieldName _ _ => .fieldName
  | .fieldType _ _ _ => .fieldType
  | .flagIndex _ _ => .flagFieldIndex
  | .returnClause _ _ => .returnClause

/-- The bit that waits for the field it guards. -/
def guard? : ScanState → Option UInt8
  | .fieldName guard? _ => guard?
  | .fieldType _ guard? _ => guard?
  | .returnClause guard? _ => guard?
  | _ => none

/-! ## One character

Each function below is the effect of the character `c`, which stands at `here`, in one state. -/

/-- The refusal of a character. -/
def unexpected {α : Type} (phase : Phase) (here : Position) (c : Char) : Except SchemaError α :=
  .error (.lex phase c here)

/-- Reads a type literal. -/
def typeOf (word : Word) : Except SchemaError ValueType :=
  (ValueType.parse word.text).mapError .malformedType

/-- Between definitions blanks are skipped; a letter starts a key, a slash may start a comment. -/
def stepStart (here : Position) (c : Char) : Except SchemaError (ScanState × Option Token) :=
  if Text.isAlphanumeric c then .ok (.className (.ofChar here c), none)
  else if Text.isBlank c then .ok (.start, none)
  else if c = '/' then .ok (.slash (.ofChar here c), none)
  else unexpected .start here c

/-- A key consists of letters, digits and dots, and ends with a hash sign. -/
def stepClassName (word : Word) (here : Position) (c : Char) :
    Except SchemaError (ScanState × Option Token) :=
  if c = '#' then
    .ok (.constructorId word.cleared, some ⟨.classDecl word.text, word.start⟩)
  else if Text.isAlphanumeric c || c = '.' then .ok (.className (word.push here c), none)
  else unexpected .className here c

/-- The second slash starts a comment; without it the first one is part of a key. -/
def stepSlash (word : Word) (here : Position) (c : Char) :
    Except SchemaError (ScanState × Option Token) :=
  if c = '/' then .ok (.comment, none) else stepClassName word here c

/-- A comment ends with its line. -/
def stepComment (c : Char) : Except SchemaError (ScanState × Option Token) :=
  .ok (if c = '\n' then .start else .comment, none)

/-- Whether a character is a hexadecimal digit. -/
def isHexDigit (c : Char) : Bool := (Text.digitValue? c).isSome

/-- The number of a constructor consists of hexadecimal digits and ends with a space. -/
def stepConstructorId (word : Word) (here : Position) (c : Char) :
    Except SchemaError (ScanState × Option Token) :=
  if c = ' ' then
    .ok (.fieldName none word.cleared, some ⟨.constructorId word.text, word.start⟩)
  else if isHexDigit c then .ok (.constructorId (word.push here c), none)
  else unexpected .constructor here c

/-- The name of a field ends with a colon; an equals sign in place of a name starts the return type.
Spaces are skipped, inside a name too. -/
def stepFieldName (guard? : Option UInt8) (word : Word) (here : Position) (c : Char) :
    Except SchemaError (ScanState × Option Token) :=
  if Text.isAlphanumeric c || c = '_' then .ok (.fieldName guard? (word.push here c), none)
  else if c = ':' then .ok (.fieldType word guard? word.cleared, none)
  else if c = '=' then
    if word.text = "" then .ok (.returnClause guard? word, none)
    else unexpected .fieldName here c
  else if c = ' ' then .ok (.fieldName guard? word, none)
  else unexpected .fieldName here c

/-- The token of a field that may be guarded. -/
def fieldToken (name : Word) (guard? : Option UInt8) (type : ValueType) : Token :=
  match guard? with
  | some bit => ⟨.flagField name.text type bit, name.start⟩
  | none => ⟨.field name.text type, name.start⟩

/-- The type of a field ends with a space. The word `flags` followed by a dot is no type but starts
the guard of the field, unless it has one already; a hash sign in place of a type declares the flags
themselves. -/
def stepFieldType (name : Word) (guard? : Option UInt8) (word : Word) (here : Position) (c : Char) :
    Except SchemaError (ScanState × Option Token) :=
  if Text.isAlphanumeric c || c = '<' || c = '>' || c = '_' then
    .ok (.fieldType name guard? (word.push here c), none)
  else if c = ' ' then do
    let type ← typeOf word
    return (.fieldName none word.cleared, some (fieldToken name guard? type))
  else if c = '#' then
    if name.text = flagsName ∧ word.text = "" then
      .ok (.fieldName guard? word, some ⟨.flagsMarker, name.start⟩)
    else unexpected .fieldType here c
  else if c = '.' then
    if guard?.isNone ∧ word.text = flagsName then .ok (.flagIndex name word.cleared, none)
    else .ok (.fieldType name guard? (word.push here c), none)
  else unexpected .fieldType here c

/-- The bit that a sequence of decimal digits denotes. -/
def flagBit? (digits : String) : Option UInt8 :=
  (Text.number? 10 maxFlagBit digits.toList).map UInt8.ofNat

/-- The guard of a field ends with a question mark, after which its type follows. -/
def stepFlagIndex (name word : Word) (here : Position) (c : Char) :
    Except SchemaError (ScanState × Option Token) :=
  if c.isDigit then .ok (.flagIndex name (word.push here c), none)
  else if c = '?' then
    match flagBit? word.text with
    | some bit => .ok (.fieldType name (some bit) word.cleared, none)
    | none => .error (.parse (.flagIndex word.text name.text) word.start)
  else unexpected .flagFieldIndex here c

/-- The return type ends with a semicolon, and the definition with it, so that no bit waits any
more. Spaces are skipped, inside the type too. -/
def stepReturnClause (guard? : Option UInt8) (word : Word) (here : Position) (c : Char) :
    Except SchemaError (ScanState × Option Token) :=
  if Text.isAlphanumeric c || c = '.' then .ok (.returnClause guard? (word.push here c), none)
  else if c = ';' then do
    let type ← typeOf word
    return (.start, some ⟨.returnType type, word.start⟩)
  else if c = ' ' then .ok (.returnClause guard? word, none)
  else unexpected .returnClause here c

/-- The state after the character `c`, which stands at `here`, and the token it completes. -/
def step (state : ScanState) (here : Position) (c : Char) :
    Except SchemaError (ScanState × Option Token) :=
  match state with
  | .start => stepStart here c
  | .slash word => stepSlash word here c
  | .comment => stepComment c
  | .className word => stepClassName word here c
  | .constructorId word => stepConstructorId word here c
  | .fieldName guard? word => stepFieldName guard? word here c
  | .fieldType name guard? word => stepFieldType name guard? word here c
  | .flagIndex name word => stepFlagIndex name word here c
  | .returnClause guard? word => stepReturnClause guard? word here c

end ScanState

/-! ## Whole texts -/

/-- A scan that is under way. -/
structure Scan where
  /-- Where in a definition it is. -/
  state : ScanState := .start
  /-- The place of the next character. -/
  here : Position := .first
  /-- The tokens completed so far. -/
  tokens : Array Token := #[]
  deriving DecidableEq, Repr

namespace Scan

/-- Reads one character. -/
def step (scan : Scan) (c : Char) : Except SchemaError Scan := do
  let (state, token?) ← scan.state.step scan.here c
  let tokens := match token? with
    | some token => scan.tokens.push token
    | none => scan.tokens
  return ⟨state, scan.here.advance c, tokens⟩

/-- Reads a sequence of characters. -/
def run (scan : Scan) (cs : List Char) : Except SchemaError Scan :=
  cs.foldlM step scan

/-- The tokens of a scan that has come to the end: it ends between definitions or in a comment. -/
def finish (scan : Scan) : Except SchemaError (List Token) :=
  match scan.state with
  | .start | .comment => .ok scan.tokens.toList
  | state => .error (.unexpectedEnd state.phase scan.here)

end Scan

/-- The tokens of a source. A source that breaks off has none, but an error in what it gave before
comes first. -/
def Source.tokens (source : Source) : Except SchemaError (List Token) := do
  let scan ← Scan.run {} source.chars
  match source.failure? with
  | some reason => throw (.io reason)
  | none => scan.finish

/-- The tokens of a text. -/
def tokensOf (text : String) : Except SchemaError (List Token) :=
  (Source.ofText text).tokens

end TlSchema
