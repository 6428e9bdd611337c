import TlSchema.Text.Digits

/-!
# Outlines of JSON texts

Settings come as a JSON text of which only the shape and the texts matter. `Outline.parse?` accepts
the JSON grammar and gives the shape: which values are lists or objects, and what every text says.
Numbers, truth values and nulls are not told apart.

A text may contain the escape of a lone surrogate. That is well-formed JSON but denotes no sequence
of characters, so such a text has the value `none`; it may stand anywhere as long as nobody asks
what it says.

The text is first cut into lexemes and the lexemes are then put together; both go from left to right
with a state that is changed by one character or one lexeme at a time.
-/

namespace TlSchema

/-- The shape of a JSON text. -/
inductive Outline where
  /-- A number, a truth value or null. -/
  | atom
  /-- A text and what it says, unless it denotes no characters. -/
  | text (value? : Option String)
  /-- A list. -/
  | list (items : List Outline)
  /-- An object and its members, in order. -/
  | object (members : List (Option String × Outline))

namespace Outline

/-! ## Lexemes -/

/-- A piece of a JSON text. -/
inductive Lexeme where
  /-- A bracket, a comma or a colon. -/
  | mark (c : Char)
  /-- A quoted text. -/
  | text (value? : Option String)
  /-- A number, a truth value or null. -/
  | atom

/-- A quoted text of which the closing quote has not come yet. -/
structure Quoted where
  /-- The characters so far. -/
  value : String := ""
  /-- Whether every escape so far denotes a character. -/
  sound : Bool := true
  /-- A leading surrogate that waits for its trailing one. -/
  leading? : Option Nat := none

namespace Quoted

/-- The text with one more character; a surrogate that waits has waited in vain. -/
def push (quoted : Quoted) (c : Char) : Quoted :=
  ⟨quoted.value.push c, quoted.sound && quoted.leading?.isNone, none⟩

/-- The text after the escape of the 16-bit unit `n`. -/
def pushUnit (quoted : Quoted) (n : Nat) : Quoted :=
  let isLeading := 0xD800 ≤ n && n ≤ 0xDBFF
  let isTrailing := 0xDC00 ≤ n && n ≤ 0xDFFF
  match quoted.leading? with
  | some high =>
    if isTrailing then
      { quoted with
        value := quoted.value.push (Char.ofNat ((high - 0xD800) * 0x400 + (n - 0xDC00) + 0x10000))
        leading? := none }
    else { quoted with sound := false, leading? := none }
  | none =>
    if isLeading then { quoted with leading? := some n }
    else if isTrailing then { quoted with sound := false }
    else quoted.push (Char.ofNat n)

/-- What the text says. -/
def value? (quoted : Quoted) : Option String :=
  if quoted.sound && quoted.leading?.isNone then some quoted.value else none

end Quoted

/-- The part of a number that was read last. -/
inductive NumberPart where
  /-- The minus sign. -/
  | minus
  /-- A leading zero. -/
  | zero
  /-- Digits of the integer part. -/
  | integer
  /-- The point. -/
  | point
  /-- Digits after the point. -/
  | fraction
  /-- The exponent mark. -/
  | exponent
  /-- The sign of the exponent. -/
  | exponentSign
  /-- Digits of the exponent. -/
  | exponentDigits

namespace NumberPart

/-- The part that starts a number. -/
def ofChar? (c : Char) : Option NumberPart :=
  if c = '-' then some .minus
  else if c = '0' then some .zero
  else if c.isDigit then some .integer
  else none

/-- The part that continues a number. -/
def next? (part : NumberPart) (c : Char) : Option NumberPart :=
  match part with
  | .minus => if c = '0' then some .zero else if c.isDigit then some .integer else none
  | .zero =>
    if c = '.' then some .point else if c = 'e' ∨ c = 'E' then some .exponent else none
  | .integer =>
    if c.isDigit then some .integer
    else if c = '.' then some .point
    else if c = 'e' ∨ c = 'E' then some .exponent
    else none
  | .point => if c.isDigit then some .fraction else none
  | .fraction =>
    if c.isDigit then some .fraction else if c = 'e' ∨ c = 'E' then some .exponent else none
  | .exponent =>
    if c.isDigit then some .exponentDigits
    else if c = '+' ∨ c = '-' then some .exponentSign
    else none
  | .exponentSign | .exponentDigits => if c.isDigit then some .exponentDigits else none

/-- Whether a number may end with this part. -/
def isFinal : NumberPart → Bool
  | .zero | .integer | .fraction | .exponentDigits => true
  | _ => false

end NumberPart

/-- Where in a lexeme the reader is. -/
inductive Place where
  /-- Between lexemes. -/
  | between
  /-- Inside a text. -/
  | quoted (text : Quoted)
  /-- After a backslash inside a text. -/
  | escape (text : Quoted)
  /-- Inside a four-digit escape: `missing` digits are still to come, those before make `unit`. -/
  | code (text : Quoted) (missing unit : Nat)
  /-- Inside a number. -/
  | number (part : NumberPart)
  /-- Inside one of the words, with the letters still to come. -/
  | word (letters : List Char)

/-- Reads a character between two lexemes. -/
def startLexeme (c : Char) : Option (Place × List Lexeme) :=
  if c = ' ' ∨ c = '\n' ∨ c = '\t' ∨ c = '\r' then some (.between, [])
  else if c ∈ ['[', ']', '\x7b', '\x7d', ',', ':'] then some (.between, [.mark c])
  else if c = '"' then some (.quoted {}, [])
  else if c = 't' then some (.word ['r', 'u', 'e'], [])
  else if c = 'f' then some (.word ['a', 'l', 's', 'e'], [])
  else if c = 'n' then some (.word ['u', 'l', 'l'], [])
  else (NumberPart.ofChar? c).map fun part => (.number part, [])

/-- The character that a one-letter escape denotes. -/
def escaped? (c : Char) : Option Char :=
  if c = '"' ∨ c = '\\' ∨ c = '/' then some c
  else if c = 'b' then some '\x08'
  else if c = 'f' then some '\x0c'
  else if c = 'n' then some '\n'
  else if c = 'r' then some '\r'
  else if c = 't' then some '\t'
  else none

/-- Reads one character: the place after it and the lexemes it completes. -/
def readChar (place : Place) (c : Char) : Option (Place × List Lexeme) :=
  match place with
  | .between => startLexeme c
  | .quoted body =>
    if c = '"' then some (.between, [.text body.value?])
    else if c = '\\' then some (.escape body, [])
    else if c.toNat < 0x20 then none
    else some (.quoted (body.push c), [])
  | .escape body =>
    if c = 'u' then some (.code body 4 0, [])
    else (escaped? c).map fun e => (.quoted (body.push e), [])
  | .code body missing unit =>
    (Text.digitValue? c).map fun d =>
      let unit := unit * 16 + d
      if missing ≤ 1 then (.quoted (body.pushUnit unit), [])
      else (.code body (missing - 1) unit, [])
  | .number part =>
    match part.next? c with
    | some next => some (.number next, [])
    | none =>
      if part.isFinal then (startLexeme c).map fun (place, found) => (place, .atom :: found)
      else none
  | .word letters =>
    match letters with
    | letter :: rest =>
      if c = letter then some (if rest.isEmpty then (.between, [.atom]) else (.word rest, []))
      else none
    | [] => none

/-- The lexemes that follow from a place on. -/
def lexemesFrom (place : Place) (found : Array Lexeme) : List Char → Option (List Lexeme)
  | [] =>
    match place with
    | .between => some found.toList
    | .number part => if part.isFinal then some (found.push .atom).toList else none
    | _ => none
  | c :: cs =>
    match readChar place c with
    | some (place, new) => lexemesFrom place (new.foldl Array.push found) cs
    | none => none

/-! ## Putting lexemes together -/

/-- A list or an object that has not been closed; what it holds so far stands last first. -/
inductive Frame where
  /-- A list. -/
  | list (items : List Outline)
  /-- An object. -/
  | object (members : List (Option String × Outline))
  /-- An object after the name of its next member. -/
  | member (members : List (Option String × Outline)) (name? : Option String)

/-- What may come next. -/
inductive Expected where
  /-- A value. -/
  | value
  /-- A value or the end of a list. -/
  | itemOrEnd
  /-- A name. -/
  | name
  /-- A name or the end of an object. -/
  | nameOrEnd
  /-- The colon after a name. -/
  | colon
  /-- A comma or the end of the list or object. -/
  | commaOrEnd
  /-- Nothing: the whole text has been read. -/
  | nothing (result : Outline)

/-- The lists and objects that are open, innermost first, and what may come next. -/
structure Builder where
  /-- The open frames. -/
  frames : List Frame := []
  /-- What may come next. -/
  expected : Expected := .value

namespace Builder

/-- Takes in a complete value. -/
def give (frames : List Frame) (value : Outline) : Option Builder :=
  match frames with
  | [] => some ⟨[], .nothing value⟩
  | .list items :: rest => some ⟨.list (value :: items) :: rest, .commaOrEnd⟩
  | .member members name? :: rest => some ⟨.object ((name?, value) :: members) :: rest, .commaOrEnd⟩
  | .object _ :: _ => none

/-- Takes in a lexeme that starts a value. -/
def startValue (frames : List Frame) (lexeme : Lexeme) : Option Builder :=
  match lexeme with
  | .atom => give frames .atom
  | .text value? => give frames (.text value?)
  | .mark c =>
    if c = '[' then some ⟨.list [] :: frames, .itemOrEnd⟩
    else if c = '\x7b' then some ⟨.object [] :: frames, .nameOrEnd⟩
    else none

/-- Takes in the name of a member. -/
def startMember (frames : List Frame) (lexeme : Lexeme) : Option Builder :=
  match frames, lexeme with
  | .object members :: rest, .text name? => some ⟨.member members name? :: rest, .colon⟩
  | _, _ => none

/-- Closes the innermost frame if `c` is its closing bracket. -/
def close (frames : List Frame) (c : Char) : Option Builder :=
  match frames with
  | .list items :: rest => if c = ']' then give rest (.list items.reverse) else none
  | .object members :: rest => if c = '\x7d' then give rest (.object members.reverse) else none
  | _ => none

/-- Takes in one lexeme. -/
def step (builder : Builder) (lexeme : Lexeme) : Option Builder :=
  match builder.expected, lexeme with
  | .value, lexeme => startValue builder.frames lexeme
  | .itemOrEnd, .mark ']' => close builder.frames ']'
  | .itemOrEnd, lexeme => startValue builder.frames lexeme
  | .name, lexeme => startMember builder.frames lexeme
  | .nameOrEnd, .mark '\x7d' => close builder.frames '\x7d'
  | .nameOrEnd, lexeme => startMember builder.frames lexeme
  | .colon, .mark ':' => some { builder with expected := .value }
  | .commaOrEnd, .mark ',' =>
    match builder.frames with
    | .list _ :: _ => some { builder with expected := .value }
    | _ => some { builder with expected := .name }
  | .commaOrEnd, .mark c => close builder.frames c
  | _, _ => none

end Builder

/-- The outline of a JSON text; nothing if it is not one. -/
def parse? (text : String) : Option Outline := do
  let lexemes ← lexemesFrom .between #[] text.toList
  let builder ← lexemes.foldlM Builder.step {}
  match builder.expected with
  | .nothing result => some result
  | _ => none

end Outline

end TlSchema
