import TlSchema.Text.CaseTable

/-!
# Letter case

Upper and lower case of single characters and of whole texts. A letter may become several characters
(`ß` in upper case is `SS`), so the maps of one character give a list. The lower case of a text
looks at the neighbours of one letter only: a capital sigma at the end of a word becomes the final
sigma.
-/

namespace TlSchema.Text

/-! ## Single characters -/

/-- Whether a character is an upper case letter. -/
def isUppercase (c : Char) : Bool :=
  if c.toNat < 0x80 then c.isUpper else inRuns uppercaseRuns c.toNat

/-- Whether a character is a lower case letter. -/
def isLowercase (c : Char) : Bool :=
  if c.toNat < 0x80 then c.isLower else inRuns lowercaseRuns c.toNat

/-- What a case map makes of the code point `n`: the shift of the run that holds it, or `n` itself.
-/
def shifted (table : List CaseRun) (n : Nat) : Nat :=
  match table.find? fun row => CodeRun.contains (row.1, row.2.1, row.2.2.1) n with
  | some row => (n + row.2.2.2).toNat
  | none => n

/-- What a case map and its table of sequences make of a character. -/
def mapped (table : List CaseRun) (sequences : List (Nat × List Nat)) (c : Char) : List Char :=
  match sequences.lookup c.toNat with
  | some codes => codes.map Char.ofNat
  | none => [Char.ofNat (shifted table c.toNat)]

/-- The upper case of a character. -/
def uppercase (c : Char) : List Char :=
  if c.toNat < 0x80 then [c.toUpper] else mapped upperMap upperSequences c

/-- The lower case of a character that stands by itself. -/
def lowercase (c : Char) : List Char :=
  if c.toNat < 0x80 then [c.toLower] else mapped lowerMap lowerSequences c

/-! ## Texts -/

/-- Whether the first character that is not passed over is a cased letter. -/
def startsCased (cs : List Char) : Bool :=
  match cs.dropWhile fun c => inRuns caseIgnorableRuns c.toNat with
  | c :: _ => inRuns casedRuns c.toNat
  | [] => false

/-- The lower case of the characters that follow `before`, which is given last character first. A
capital sigma is final when a cased letter precedes it in its word and none follows it. -/
def lowerAfter (before : List Char) : List Char → List Char
  | [] => []
  | c :: rest =>
    let lowered :=
      if c = 'Σ' then [if startsCased before && !startsCased rest then 'ς' else 'σ']
      else lowercase c
    lowered ++ lowerAfter (c :: before) rest

/-- The characters of a text in lower case. -/
def lowercaseText (text : String) : List Char :=
  lowerAfter [] text.toList

/-- Characters with the first one in upper case and the rest as they are. -/
def capitalize : List Char → List Char
  | [] => []
  | c :: rest => uppercase c ++ rest

/-- A text with its first character in upper case and the rest as it is. -/
def capitalizeText (text : String) : String :=
  String.ofList (capitalize text.toList)

end TlSchema.Text
