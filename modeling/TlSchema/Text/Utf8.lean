/-!
# Text from bytes

Bytes that should be UTF-8 but may not be. Well-formed bytes are the text they encode; otherwise
each longest piece that starts a character without completing it is replaced by one U+FFFD, and so
is each byte that cannot start a character.
-/

namespace TlSchema.Text.Utf8

/-- A character of which the first bytes have been read. -/
structure Unfinished where
  /-- The bits read so far. -/
  value : Nat
  /-- How many more bytes the character needs. -/
  missing : Nat
  /-- The least byte that may come next. -/
  low : UInt8
  /-- The greatest byte that may come next. -/
  high : UInt8

/-- The character that stands for bytes that encode none. -/
def replacement : Char := '\uFFFD'

/-- Reads a byte between two characters: what is complete with it and what it starts. -/
def start (b : UInt8) : List Char × Option Unfinished :=
  if b < 0x80 then ([Char.ofNat b.toNat], none)
  else if 0xC2 ≤ b ∧ b ≤ 0xDF then ([], some ⟨b.toNat - 0xC0, 1, 0x80, 0xBF⟩)
  else if b = 0xE0 then ([], some ⟨0, 2, 0xA0, 0xBF⟩)
  else if b = 0xED then ([], some ⟨0xD, 2, 0x80, 0x9F⟩)
  else if 0xE1 ≤ b ∧ b ≤ 0xEF then ([], some ⟨b.toNat - 0xE0, 2, 0x80, 0xBF⟩)
  else if b = 0xF0 then ([], some ⟨0, 3, 0x90, 0xBF⟩)
  else if 0xF1 ≤ b ∧ b ≤ 0xF3 then ([], some ⟨b.toNat - 0xF0, 3, 0x80, 0xBF⟩)
  else if b = 0xF4 then ([], some ⟨4, 3, 0x80, 0x8F⟩)
  else ([replacement], none)

/-- Reads one byte: what is complete with it, and the character that is still open after it. -/
def step : Option Unfinished → UInt8 → List Char × Option Unfinished
  | none, b => start b
  | some p, b =>
    if p.low ≤ b ∧ b ≤ p.high then
      let value := p.value * 0x40 + (b.toNat - 0x80)
      if p.missing = 1 then ([Char.ofNat value], none)
      else ([], some ⟨value, p.missing - 1, 0x80, 0xBF⟩)
    else
      let next := start b
      (replacement :: next.1, next.2)

/-- The text of the bytes, with U+FFFD for every piece that encodes no character. -/
def repaired (bytes : ByteArray) : String :=
  let (text, last) := bytes.foldl (fun (text, open?) b =>
    let (cs, open?) := step open? b
    (cs.foldl String.push text, open?)) ("", none)
  if last.isSome then text.push replacement else text

/-- The text that bytes encode, repaired where they encode none. -/
def decode (bytes : ByteArray) : String :=
  if h : bytes.IsValidUTF8 then String.fromUTF8 bytes h else repaired bytes

end TlSchema.Text.Utf8
