import Mathlib.Tactic.SplitIfs
import TlSchema.Proofs.Results
import TlSchema.Token.Scanner

/-!
# Transitions of the scanner

The effect of one character as a table with one row for each kind of transition. What holds of every
row holds of every step that the scanner takes (`ScanState.step_eq_ok`).
-/

namespace TlSchema

open Results

/-! ## Characters of words -/

/-- The characters of keys, except that a key may start with a slash, and of return types. -/
def keyChar (c : Char) : Bool := Text.isAlphanumeric c || c = '.'

/-- The characters of names of fields. -/
def nameChar (c : Char) : Bool := Text.isAlphanumeric c || c = '_'

/-- The characters of types of fields. -/
def typeChar (c : Char) : Bool :=
  Text.isAlphanumeric c || c = '<' || c = '>' || c = '_' || c = '.'

/-- A character of a class is none of those outside of it. -/
theorem ne_of_class {isIn : Char → Bool} {c d : Char} (hc : isIn c = true) (hd : isIn d = false) :
    c ≠ d := by
  rintro rfl
  rw [hc] at hd
  cases hd

namespace ScanState

/-- What the character `c`, which stands at `here`, can do: the state it is read in, the state it
leads to and the token it completes. -/
inductive Moves (here : Position) (c : Char) : ScanState → ScanState → Option Token → Prop
  | keyStart (hc : Text.isAlphanumeric c = true) :
      Moves here c .start (.className (.ofChar here c)) none
  | blank (hletter : Text.isAlphanumeric c = false) (hc : Text.isBlank c = true) :
      Moves here c .start .start none
  | slash (hc : c = '/') : Moves here c .start (.slash (.ofChar here c)) none
  | comment {word : Word} (hc : c = '/') : Moves here c (.slash word) .comment none
  | slashChar {word : Word} (hc : keyChar c = true) :
      Moves here c (.slash word) (.className (word.push here c)) none
  | slashEnd {word : Word} (hc : c = '#') :
      Moves here c (.slash word) (.constructorId word.cleared)
        (some ⟨.classDecl word.text, word.start⟩)
  | commentChar (hc : c ≠ '\n') : Moves here c .comment .comment none
  | commentEnd (hc : c = '\n') : Moves here c .comment .start none
  | keyChar {word : Word} (hc : keyChar c = true) :
      Moves here c (.className word) (.className (word.push here c)) none
  | keyEnd {word : Word} (hc : c = '#') :
      Moves here c (.className word) (.constructorId word.cleared)
        (some ⟨.classDecl word.text, word.start⟩)
  | digit {word : Word} (hc : isHexDigit c = true) :
      Moves here c (.constructorId word) (.constructorId (word.push here c)) none
  | numberEnd {word : Word} (hc : c = ' ') :
      Moves here c (.constructorId word) (.fieldName none word.cleared)
        (some ⟨.constructorId word.text, word.start⟩)
  | nameChar {guard? : Option UInt8} {word : Word} (hc : nameChar c = true) :
      Moves here c (.fieldName guard? word) (.fieldName guard? (word.push here c)) none
  | nameSpace {guard? : Option UInt8} {word : Word} (hc : c = ' ') :
      Moves here c (.fieldName guard? word) (.fieldName guard? word) none
  | nameEnd {guard? : Option UInt8} {word : Word} (hc : c = ':') :
      Moves here c (.fieldName guard? word) (.fieldType word guard? word.cleared) none
  | fieldsEnd {guard? : Option UInt8} {word : Word} (hc : c = '=') (hword : word.text = "") :
      Moves here c (.fieldName guard? word) (.returnClause guard? word) none
  | typeChar {name word : Word} {guard? : Option UInt8} (hc : typeChar c = true)
      (hdot : c = '.' → guard? = none → word.text ≠ flagsName) :
      Moves here c (.fieldType name guard? word) (.fieldType name guard? (word.push here c)) none
  | typeEnd {name word : Word} {guard? : Option UInt8} {type : ValueType} (hc : c = ' ')
      (htype : typeOf word = .ok type) :
      Moves here c (.fieldType name guard? word) (.fieldName none word.cleared)
        (some (fieldToken name guard? type))
  | flagsMarker {name word : Word} {guard? : Option UInt8} (hc : c = '#')
      (hname : name.text = flagsName) (hword : word.text = "") :
      Moves here c (.fieldType name guard? word) (.fieldName guard? word)
        (some ⟨.flagsMarker, name.start⟩)
  | guardStart {name word : Word} (hc : c = '.') (hword : word.text = flagsName) :
      Moves here c (.fieldType name none word) (.flagIndex name word.cleared) none
  | guardDigit {name word : Word} (hc : c.isDigit = true) :
      Moves here c (.flagIndex name word) (.flagIndex name (word.push here c)) none
  | guardEnd {name word : Word} {bit : UInt8} (hc : c = '?')
      (hbit : flagBit? word.text = some bit) :
      Moves here c (.flagIndex name word) (.fieldType name (some bit) word.cleared) none
  | returnChar {guard? : Option UInt8} {word : Word} (hc : keyChar c = true) :
      Moves here c (.returnClause guard? word) (.returnClause guard? (word.push here c)) none
  | returnSpace {guard? : Option UInt8} {word : Word} (hc : c = ' ') :
      Moves here c (.returnClause guard? word) (.returnClause guard? word) none
  | returnEnd {guard? : Option UInt8} {word : Word} {type : ValueType} (hc : c = ';')
      (htype : typeOf word = .ok type) :
      Moves here c (.returnClause guard? word) .start (some ⟨.returnType type, word.start⟩)

section

variable {here : Position} {c : Char} {state' : ScanState} {token? : Option Token}

theorem moves_of_stepFieldName {guard? : Option UInt8} {word : Word}
    (h : stepFieldName guard? word here c = .ok (state', token?)) :
    Moves here c (.fieldName guard? word) state' token? := by
  unfold stepFieldName at h
  split_ifs at h with hname hcolon hequals hempty hspace <;> cases h
  · exact .nameChar hname
  · exact .nameEnd hcolon
  · exact .fieldsEnd hequals hempty
  · exact .nameSpace hspace

theorem moves_of_stepFieldType {name word : Word} {guard? : Option UInt8}
    (h : stepFieldType name guard? word here c = .ok (state', token?)) :
    Moves here c (.fieldType name guard? word) state' token? := by
  unfold stepFieldType at h
  split_ifs at h with hplain hspace hhash hmarker hdot hguard
  · cases h
    refine .typeChar (by rw [typeChar, hplain]; rfl) fun hdot => ?_
    subst hdot
    exact absurd hplain (by decide)
  · obtain ⟨type, htype, hnext⟩ := bind_eq_ok.mp h
    cases hnext
    exact .typeEnd hspace htype
  · cases h
    exact .flagsMarker hhash hmarker.1 hmarker.2
  · cases h
  · cases h
    obtain ⟨hnone, hflags⟩ := hguard
    rw [Option.isNone_iff_eq_none] at hnone
    subst hnone
    exact .guardStart hdot hflags
  · cases h
    subst hdot
    refine .typeChar (by decide) fun _ hnone hflags => hguard ⟨?_, hflags⟩
    rw [hnone]
    rfl
  · cases h

theorem moves_of_stepFlagIndex {name word : Word}
    (h : stepFlagIndex name word here c = .ok (state', token?)) :
    Moves here c (.flagIndex name word) state' token? := by
  unfold stepFlagIndex at h
  split_ifs at h with hdigit hmark
  · cases h
    exact .guardDigit hdigit
  · cases hbit : flagBit? word.text with
    | some bit =>
      rw [hbit] at h
      cases h
      exact .guardEnd hmark hbit
    | none =>
      rw [hbit] at h
      cases h
  · cases h

theorem moves_of_stepReturnClause {guard? : Option UInt8} {word : Word}
    (h : stepReturnClause guard? word here c = .ok (state', token?)) :
    Moves here c (.returnClause guard? word) state' token? := by
  unfold stepReturnClause at h
  split_ifs at h with hkey hend hspace
  · cases h
    exact .returnChar hkey
  · obtain ⟨type, htype, hnext⟩ := bind_eq_ok.mp h
    cases hnext
    exact .returnEnd hend htype
  · cases h
    exact .returnSpace hspace
  · cases h

theorem moves_of_step {state : ScanState} (h : state.step here c = .ok (state', token?)) :
    Moves here c state state' token? := by
  cases state with
  | start =>
    change stepStart here c = _ at h
    unfold stepStart at h
    split_ifs at h with hletter hblank hslash <;> cases h
    · exact .keyStart hletter
    · exact .blank (by simpa using hletter) hblank
    · exact .slash hslash
  | slash word =>
    change stepSlash word here c = _ at h
    unfold stepSlash stepClassName at h
    split_ifs at h with hslash hhash hkey <;> cases h
    · exact .comment hslash
    · exact .slashEnd hhash
    · exact .slashChar hkey
  | comment =>
    change stepComment c = _ at h
    unfold stepComment at h
    split_ifs at h with hline <;> cases h
    · exact .commentEnd hline
    · exact .commentChar hline
  | className word =>
    change stepClassName word here c = _ at h
    unfold stepClassName at h
    split_ifs at h with hhash hkey <;> cases h
    · exact .keyEnd hhash
    · exact .keyChar hkey
  | constructorId word =>
    change stepConstructorId word here c = _ at h
    unfold stepConstructorId at h
    split_ifs at h with hspace hdigit <;> cases h
    · exact .numberEnd hspace
    · exact .digit hdigit
  | fieldName guard? word => exact moves_of_stepFieldName h
  | fieldType name guard? word => exact moves_of_stepFieldType h
  | flagIndex name word => exact moves_of_stepFlagIndex h
  | returnClause guard? word => exact moves_of_stepReturnClause h

/-- The dot that does not start a guard is part of a type, like its other characters. -/
theorem stepFieldType_of_typeChar {name word : Word} {guard? : Option UInt8}
    (hc : typeChar c = true) (hdot : c = '.' → guard? = none → word.text ≠ flagsName) :
    stepFieldType name guard? word here c =
      .ok (.fieldType name guard? (word.push here c), none) := by
  by_cases h : c = '.'
  · subst h
    have hguard : ¬ (guard?.isNone ∧ word.text = flagsName) := by
      rintro ⟨hnone, hflags⟩
      exact hdot rfl (Option.isNone_iff_eq_none.mp hnone) hflags
    change (if guard?.isNone ∧ word.text = flagsName then _ else _) = _
    rw [if_neg hguard]
  · have hplain : (Text.isAlphanumeric c || c = '<' || c = '>' || c = '_') = true := by
      simpa [typeChar, h] using hc
    rw [stepFieldType, if_pos hplain]

theorem step_of_moves {state : ScanState} (h : Moves here c state state' token?) :
    state.step here c = .ok (state', token?) := by
  cases h with
  | keyStart hc => rw [step, stepStart, if_pos hc]
  | blank hletter hc => rw [step, stepStart, if_neg (by simp [hletter]), if_pos hc]
  | slash hc => subst hc; rfl
  | comment hc => subst hc; rfl
  | slashChar hc =>
    have hslash : c ≠ '/' := ne_of_class hc (by decide)
    have hhash : c ≠ '#' := ne_of_class hc (by decide)
    unfold TlSchema.keyChar at hc
    rw [step, stepSlash, if_neg hslash, stepClassName, if_neg hhash, if_pos hc]
  | slashEnd hc => subst hc; rfl
  | commentChar hc => rw [step, stepComment, if_neg hc]
  | commentEnd hc => subst hc; rfl
  | keyChar hc =>
    have hhash : c ≠ '#' := ne_of_class hc (by decide)
    unfold TlSchema.keyChar at hc
    rw [step, stepClassName, if_neg hhash, if_pos hc]
  | keyEnd hc => subst hc; rfl
  | digit hc =>
    have hspace : c ≠ ' ' := ne_of_class hc (by decide)
    rw [step, stepConstructorId, if_neg hspace, if_pos hc]
  | numberEnd hc => subst hc; rfl
  | nameChar hc =>
    unfold TlSchema.nameChar at hc
    rw [step, stepFieldName, if_pos hc]
  | nameSpace hc => subst hc; rfl
  | nameEnd hc => subst hc; rfl
  | fieldsEnd hc hword =>
    subst hc
    exact if_pos hword
  | typeChar hc hdot => exact stepFieldType_of_typeChar hc hdot
  | typeEnd hc htype =>
    subst hc
    exact bind_eq_ok.mpr ⟨_, htype, rfl⟩
  | flagsMarker hc hname hword =>
    subst hc
    exact if_pos ⟨hname, hword⟩
  | guardStart hc hword =>
    subst hc
    exact if_pos ⟨rfl, hword⟩
  | guardDigit hc => rw [step, stepFlagIndex, if_pos hc]
  | guardEnd hc hbit =>
    subst hc
    rw [step, stepFlagIndex, if_neg (by decide), if_pos rfl, hbit]
  | returnChar hc =>
    unfold TlSchema.keyChar at hc
    rw [step, stepReturnClause, if_pos hc]
  | returnSpace hc => subst hc; rfl
  | returnEnd hc htype =>
    subst hc
    exact bind_eq_ok.mpr ⟨_, htype, rfl⟩

/-- A character is read exactly if there is a row for it in the table. -/
theorem step_eq_ok {state : ScanState} :
    state.step here c = .ok (state', token?) ↔ Moves here c state state' token? :=
  ⟨moves_of_step, step_of_moves⟩

end

end ScanState

end TlSchema
