import TlSchema.Text.CodeRun

/-!
# Blanks

The characters with the Unicode property `White_Space`, and text without them at its ends.
-/

namespace TlSchema.Text

/-- The blank characters: the ASCII controls from tab to carriage return, the space, the next-line
control and the spaces and separators of Unicode. -/
def blankRuns : List CodeRun :=
  [(0x9, 0xd, 1), (0x20, 0x20, 1), (0x85, 0x85, 1), (0xa0, 0xa0, 1), (0x1680, 0x1680, 1),
   (0x2000, 0x200a, 1), (0x2028, 0x2029, 1), (0x202f, 0x202f, 1), (0x205f, 0x205f, 1),
   (0x3000, 0x3000, 1)]

/-- Whether a character is blank. -/
def isBlank (c : Char) : Bool :=
  inRuns blankRuns c.toNat

/-- A text without the blanks at its two ends. -/
def trim (text : String) : String :=
  String.ofList ((text.toList.dropWhile isBlank).reverse.dropWhile isBlank).reverse

end TlSchema.Text
