import Mathlib.Tactic.SplitIfs
import TlSchema.Proofs.GuardBits
import TlSchema.Text.Digits
import TlSchema.Token.Scanner

/-!
# Numerals

A number reads back from its shortest digits: the number of a constructor from the hexadecimal ones,
the bit of a guard from the decimal ones. Digits that denote no word are those of larger numbers, or
there are none.
-/

namespace TlSchema

namespace Text

theorem digitValue?_digitChar {d : Nat} (hd : d < 16) : digitValue? (Nat.digitChar d) = some d := by
  revert d
  decide

theorem readDigits_concat {base limit value n d : Nat} {cs : List Char} {c : Char}
    (h : readDigits base limit value cs = some n) (hc : digitValue? c = some d) (hd : d < base)
    (hlimit : n * base + d ≤ limit) :
    readDigits base limit value (cs ++ [c]) = some (n * base + d) := by
  induction cs generalizing value with
  | nil =>
    cases h
    simp [readDigits, hc, hd, hlimit]
  | cons c' cs ih =>
    rw [readDigits] at h
    rw [List.cons_append, readDigits]
    split at h
    · split_ifs at h with hd'
      rw [if_pos hd']
      exact ih h
    · cases h

theorem readDigits_toDigits {base limit : Nat} (hone : 1 < base) (hbase : base ≤ 16) (n : Nat)
    (hn : n ≤ limit) : readDigits base limit 0 (Nat.toDigits base n) = some n := by
  induction n using Nat.strongRecOn with
  | ind n ih =>
    rw [Nat.toDigits_eq_if hone]
    split_ifs with hlt
    · have hdigit := digitValue?_digitChar (Nat.lt_of_lt_of_le hlt hbase)
      simp [readDigits, hdigit, hlt, hn]
    · have hmod : n % base < base := Nat.mod_lt n (by omega)
      have hdiv : n / base * base + n % base = n := Nat.div_add_mod' n base
      have hsmaller : n / base < n := Nat.div_lt_self (by omega) hone
      have hrest := ih (n / base) hsmaller (by omega)
      rw [readDigits_concat hrest (digitValue?_digitChar (by omega)) hmod (by omega), hdiv]

theorem number?_toDigits {base limit : Nat} (hone : 1 < base) (hbase : base ≤ 16) {n : Nat}
    (hn : n ≤ limit) : number? base limit (Nat.toDigits base n) = some n := by
  have hread := readDigits_toDigits hone hbase n hn
  cases hdigits : Nat.toDigits base n with
  | nil => exact absurd hdigits Nat.toDigits_ne_nil
  | cons c cs => rwa [hdigits] at hread

/-- Characters that denote a number are digits. -/
theorem isSome_digitValue? {base limit value n : Nat} {cs : List Char}
    (h : readDigits base limit value cs = some n) : ∀ c ∈ cs, (digitValue? c).isSome := by
  induction cs generalizing value with
  | nil => simp
  | cons c cs ih =>
    rw [readDigits] at h
    split at h
    · rename_i d hc
      split_ifs at h
      rw [List.forall_mem_cons]
      exact ⟨by rw [hc]; rfl, ih h⟩
    · cases h

theorem toList_hexDigits (n : Nat) : (hexDigits n).toList = Nat.toDigits 16 n :=
  String.toList_ofList

theorem readDigits_hexDigits (id : UInt32) :
    readDigits 16 maxWord 0 (hexDigits id.toNat).toList = some id.toNat := by
  rw [toList_hexDigits]
  exact readDigits_toDigits (by decide) (Nat.le_refl 16) _ (Nat.le_of_lt_succ id.toNat_lt)

/-- Without a sign, the digits of a text are all its characters. -/
theorem hexWord?_eq {digits : String} (h : ∀ c ∈ digits.toList, (digitValue? c).isSome) :
    hexWord? digits = (number? 16 maxWord digits.toList).map UInt32.ofNat := by
  unfold hexWord?
  split
  · rename_i cs hsign
    have hplus : (digitValue? '+').isSome := h '+' (by simp [hsign])
    exact absurd hplus (by decide)
  · rfl

theorem hexWord?_hexDigits (id : UInt32) : hexWord? (hexDigits id.toNat) = some id := by
  have hnumber : number? 16 maxWord (Nat.toDigits 16 id.toNat) = some id.toNat :=
    number?_toDigits (by decide) (Nat.le_refl 16) (Nat.le_of_lt_succ id.toNat_lt)
  rw [hexWord?_eq (isSome_digitValue? (readDigits_hexDigits id)), toList_hexDigits, hnumber]
  simp

/-! ## Numbers of any size -/

/-- The number that hexadecimal digits continue `value` to. -/
def hexFrom (value : Nat) (digits : List Char) : Nat :=
  digits.foldl (fun value c => value * 16 + (digitValue? c).getD 0) value

/-- The number that hexadecimal digits denote, however large it is. -/
def hexValue (digits : String) : Nat := hexFrom 0 digits.toList

theorem digitValue?_lt {c : Char} {d : Nat} (h : digitValue? c = some d) : d < 16 := by
  unfold digitValue? at h
  split_ifs at h with hdec hlow hhigh <;> cases h
  · have hle : c.toNat ≤ '9'.toNat := hdec.2
    have hcodes : '9'.toNat = 57 ∧ '0'.toNat = 48 := by decide
    omega
  · have hle : c.toNat ≤ 'f'.toNat := hlow.2
    have hcodes : 'f'.toNat = 102 ∧ 'a'.toNat = 97 := by decide
    omega
  · have hle : c.toNat ≤ 'F'.toNat := hhigh.2
    have hcodes : 'F'.toNat = 70 ∧ 'A'.toNat = 65 := by decide
    omega

theorem le_hexFrom (value : Nat) (cs : List Char) : value ≤ hexFrom value cs := by
  induction cs generalizing value with
  | nil => exact Nat.le_refl value
  | cons c cs ih =>
    have hstep : value * 16 + (digitValue? c).getD 0 ≤ hexFrom value (c :: cs) := ih _
    omega

theorem readDigits_eq_some_iff {limit value n : Nat} {cs : List Char}
    (hcs : ∀ c ∈ cs, (digitValue? c).isSome) (hvalue : value ≤ limit) :
    readDigits 16 limit value cs = some n ↔ hexFrom value cs = n ∧ n ≤ limit := by
  induction cs generalizing value with
  | nil =>
    constructor
    · intro h
      cases h
      exact ⟨rfl, hvalue⟩
    · rintro ⟨rfl, -⟩
      rfl
  | cons c cs ih =>
    obtain ⟨hc, hrest⟩ := List.forall_mem_cons.mp hcs
    obtain ⟨d, hd⟩ := Option.isSome_iff_exists.mp hc
    have hlt := digitValue?_lt hd
    have hfrom : hexFrom value (c :: cs) = hexFrom (value * 16 + d) cs := by
      simp [hexFrom, hd]
    rw [readDigits, hfrom, hd]
    by_cases hle : value * 16 + d ≤ limit
    · simp only [hlt, hle, and_self, if_true]
      exact ih hrest hle
    · simp only [hle, and_false, if_false]
      -- the digits that follow cannot bring the number back under the limit
      have hgrows := le_hexFrom (value * 16 + d) cs
      constructor
      · intro h
        cases h
      · rintro ⟨rfl, hn⟩
        omega

/-- Hexadecimal digits denote a word unless there are none or their number is too large. -/
theorem hexWord?_eq_none_iff {digits : String}
    (h : ∀ c ∈ digits.toList, (digitValue? c).isSome) :
    hexWord? digits = none ↔ digits = "" ∨ UInt32.size ≤ hexValue digits := by
  rw [hexWord?_eq h, Option.map_eq_none_iff]
  unfold hexValue
  cases hchars : digits.toList with
  | nil =>
    have hempty : digits = "" := String.ext hchars
    simp [number?, hempty]
  | cons c cs =>
    have hne : digits ≠ "" := by
      rintro rfl
      cases hchars
    rw [hchars] at h
    have hread : ∀ n, number? 16 maxWord (c :: cs) = some n ↔
        hexFrom 0 (c :: cs) = n ∧ n ≤ maxWord :=
      fun n => readDigits_eq_some_iff h (Nat.zero_le maxWord)
    have hsize : UInt32.size = maxWord + 1 := rfl
    rw [Option.eq_none_iff_forall_ne_some]
    constructor
    · intro hnone
      right
      by_contra hsmall
      exact hnone _ ((hread _).mpr ⟨rfl, by omega⟩)
    · rintro (hempty | hlarge) n hn
      · exact hne hempty
      · obtain ⟨rfl, hle⟩ := (hread n).mp hn
        omega

end Text

namespace ScanState

theorem isHexDigit_of_mem {id : UInt32} {c : Char}
    (hc : c ∈ (Text.hexDigits id.toNat).toList) : isHexDigit c = true :=
  Text.isSome_digitValue? (Text.readDigits_hexDigits id) c hc

theorem flagBit?_toString {bit : UInt8} (h : InWord bit) :
    flagBit? (toString bit.toNat) = some bit := by
  unfold flagBit?
  rw [Nat.toString_eq_repr, Nat.toList_repr, Text.number?_toDigits (by decide) (by decide) h]
  simp

end ScanState

end TlSchema
