/-!
# Numbers in digits

Reading a number of bounded size from its digits in a base up to sixteen, and writing a 32-bit word
as eight hexadecimal digits.
-/

namespace TlSchema.Text

/-- The value of a hexadecimal digit in either case. -/
def digitValue? (c : Char) : Option Nat :=
  if '0' ≤ c ∧ c ≤ '9' then some (c.toNat - '0'.toNat)
  else if 'a' ≤ c ∧ c ≤ 'f' then some (c.toNat - 'a'.toNat + 10)
  else if 'A' ≤ c ∧ c ≤ 'F' then some (c.toNat - 'A'.toNat + 10)
  else none

/-- The number that a sequence of digits continues `value` to, as long as it is at most `limit`.
Digits only make a number larger, so the first value above the limit settles the answer. -/
def readDigits (base limit value : Nat) : List Char → Option Nat
  | [] => some value
  | c :: cs =>
    match digitValue? c with
    | some d =>
      if d < base ∧ value * base + d ≤ limit then readDigits base limit (value * base + d) cs
      else none
    | none => none

/-- The number up to `limit` that a non-empty sequence of digits denotes in `base`. -/
def number? (base limit : Nat) : List Char → Option Nat
  | [] => none
  | cs => readDigits base limit 0 cs

/-- The largest 32-bit word. -/
def maxWord : Nat := 0xffffffff

/-- The 32-bit word that a hexadecimal text denotes. One plus sign may stand before the digits. -/
def hexWord? (text : String) : Option UInt32 :=
  let digits := match text.toList with
    | '+' :: cs => cs
    | cs => cs
  (number? 16 maxWord digits).map UInt32.ofNat

/-- The digits of `n` in base sixteen, in lower case and without leading zeros. -/
def hexDigits (n : Nat) : String :=
  String.ofList (Nat.toDigits 16 n)

/-- A 32-bit word as eight hexadecimal digits in lower case. -/
def hexWord (w : UInt32) : String :=
  let digits := Nat.toDigits 16 w.toNat
  String.ofList (List.replicate (8 - digits.length) '0' ++ digits)

end TlSchema.Text
