import TlSchema.Proofs.Spelling

/-!
# Guards and the fields they are written on

The scanner reads the characters of a text piece by piece, one piece for each token. A guard is part
of the piece of a field, and its bit waits until the token of the field is completed. Only the flags
themselves take no guard with them: a bit that is written on them stays, and guards the next field
that is not the flags again; if there is none, it waits to the end of the definition. Apart from
this a field is guarded by what is written on it (`Scan.guards_as_written`).
-/

namespace TlSchema

open Results

/-! ## Pieces -/

/-- A token with the characters that were read for it, up to the one that completes it. -/
structure Piece where
  chars : List Char
  token : Token

/-- What a scan has read, cut behind every character that completes a token. -/
inductive Scan.Cut : List Piece → List Char → Scan → Prop
  | start : Cut [] [] {}
  | silent {pieces : List Piece} {rest : List Char} {scan scan' : Scan} {c : Char}
      (h : Cut pieces rest scan) (hstep : scan.step c = .ok scan')
      (htokens : scan'.tokens.toList = scan.tokens.toList) : Cut pieces (rest ++ [c]) scan'
  | completes {pieces : List Piece} {rest : List Char} {scan scan' : Scan} {c : Char} {token : Token}
      (h : Cut pieces rest scan) (hstep : scan.step c = .ok scan')
      (htokens : scan'.tokens.toList = scan.tokens.toList ++ [token]) :
      Cut (pieces ++ [⟨rest ++ [c], token⟩]) [] scan'

/-- A character that adds no token completes none. -/
theorem Scan.moves_of_silent {scan scan' : Scan} {c : Char} (hstep : scan.step c = .ok scan')
    (htokens : scan'.tokens.toList = scan.tokens.toList) :
    ScanState.Moves scan.here c scan.state scan'.state none := by
  obtain ⟨token?, hstate, hmore⟩ := Scan.step_eq_ok hstep
  have hnone : token? = none := by
    rw [htokens, List.self_eq_append_right] at hmore
    exact Option.toList_eq_nil_iff.mp hmore
  subst hnone
  exact ScanState.step_eq_ok.mp hstate

/-- The token that a character adds is the one that it completes. -/
theorem Scan.moves_of_completes {scan scan' : Scan} {c : Char} {token : Token}
    (hstep : scan.step c = .ok scan')
    (htokens : scan'.tokens.toList = scan.tokens.toList ++ [token]) :
    ScanState.Moves scan.here c scan.state scan'.state (some token) := by
  obtain ⟨token?, hstate, hmore⟩ := Scan.step_eq_ok hstep
  have hsome : token? = some token := by
    rw [htokens] at hmore
    exact Option.toList_eq_singleton_iff.mp (List.append_cancel_left hmore).symm
  subst hsome
  exact ScanState.step_eq_ok.mp hstate

theorem Scan.Cut.tokens_eq {pieces : List Piece} {rest : List Char} {scan : Scan}
    (h : Cut pieces rest scan) : scan.tokens.toList = pieces.map Piece.token := by
  induction h with
  | start => rfl
  | silent _ _ htokens ih => rw [htokens, ih]
  | completes _ _ htokens ih => rw [htokens, ih, List.map_append, List.map_singleton]

/-- Whatever has been read can be cut. -/
theorem Scan.exists_cut {cs : List Char} {scan : Scan} (h : Scan.run {} cs = .ok scan) :
    ∃ pieces rest, Cut pieces rest scan ∧ cs = pieces.flatMap Piece.chars ++ rest := by
  have hstep : ∀ seen c (s s' : Scan), s.step c = .ok s' →
      (∃ pieces rest, Cut pieces rest s ∧ seen = pieces.flatMap Piece.chars ++ rest) →
        ∃ pieces rest, Cut pieces rest s' ∧ seen ++ [c] = pieces.flatMap Piece.chars ++ rest := by
    rintro seen c s s' hs ⟨pieces, rest, hcut, rfl⟩
    obtain ⟨token?, -, htokens⟩ := Scan.step_eq_ok hs
    cases token? with
    | none =>
      rw [Option.toList_none, List.append_nil] at htokens
      exact ⟨pieces, rest ++ [c], hcut.silent hs htokens, List.append_assoc _ _ _⟩
    | some token =>
      refine ⟨pieces ++ [⟨rest ++ [c], token⟩], [], hcut.completes hs htokens, ?_⟩
      simp
  exact foldlM_trace (fun seen (s : Scan) =>
    ∃ pieces rest, Cut pieces rest s ∧ seen = pieces.flatMap Piece.chars ++ rest)
    hstep h ⟨[], [], .start, rfl⟩

/-! ## The text of a field -/

/-- The characters spell the name of a field: it is what they are without spaces. -/
def SpellsName (name : String) (spelled : List Char) : Prop :=
  (∀ c ∈ spelled, nameChar c = true ∨ c = ' ') ∧ spelled.filter (· ≠ ' ') = name.toList

namespace SpellsName

variable {name : String} {spelled : List Char}

theorem empty : SpellsName "" [] := ⟨by simp, rfl⟩

theorem push (h : SpellsName name spelled) {c : Char} (hc : nameChar c = true) :
    SpellsName (name.push c) (spelled ++ [c]) := by
  have hspace : c ≠ ' ' := ne_of_class hc (by decide)
  obtain ⟨hchars, hname⟩ := h
  refine ⟨fun d hd => ?_, ?_⟩
  · rcases List.mem_append.mp hd with hd | hd
    · exact hchars d hd
    · rw [List.mem_singleton.mp hd]
      exact Or.inl hc
  · rw [List.filter_append, hname, String.toList_push]
    simp [hspace]

theorem space (h : SpellsName name spelled) : SpellsName name (spelled ++ [' ']) := by
  obtain ⟨hchars, hname⟩ := h
  refine ⟨fun d hd => ?_, ?_⟩
  · rcases List.mem_append.mp hd with hd | hd
    · exact hchars d hd
    · exact Or.inr (List.mem_singleton.mp hd)
  · rw [List.filter_append, hname]
    simp

theorem colon_notMem (h : SpellsName name spelled) : ':' ∉ spelled := by
  intro hcolon
  rcases h.1 ':' hcolon with hname | hspace
  · exact absurd hname (by decide)
  · exact absurd hspace (by decide)

theorem unique {other : String} (h : SpellsName name spelled) (h' : SpellsName other spelled) :
    name = other :=
  String.toList_inj.mp (h.2.symm.trans h'.2)

end SpellsName

/-- What is written after the colon of a field: its guard if there is one, and its type. -/
inductive TypeText : Option UInt8 → String → List Char → Prop
  | plain {literal : String} (htype : MadeOf typeChar literal) :
      TypeText none literal literal.toList
  | guarded {digits literal : String} {bit : UInt8} (hdigits : MadeOf Char.isDigit digits)
      (hbit : ScanState.flagBit? digits = some bit) (htype : MadeOf typeChar literal) :
      TypeText (some bit) literal (guardStart ++ (digits.toList ++ '?' :: literal.toList))

/-- The text of a field: its name, a colon, its guard if there is one, and its type. -/
def FieldText (name : String) (own? : Option UInt8) (literal : String) (text : List Char) : Prop :=
  ∃ spelled typed, SpellsName name spelled ∧ TypeText own? literal typed ∧
    text = spelled ++ ':' :: typed

/-- A character that two texts do not contain splits what they are continued to in one way. -/
theorem eq_of_split_eq {c : Char} {cs cs' ds ds' : List Char} (hcs : c ∉ cs) (hcs' : c ∉ cs')
    (h : cs ++ c :: ds = cs' ++ c :: ds') : cs = cs' ∧ ds = ds' := by
  rcases List.append_eq_append_iff.mp h with ⟨between, rfl, hds⟩ | ⟨between, rfl, hds⟩
  · cases between with
    | nil =>
      cases hds
      exact ⟨(List.append_nil cs).symm, rfl⟩
    | cons d between =>
      cases hds
      exact absurd (List.mem_append_right cs (List.mem_cons_self ..)) hcs'
  · cases between with
    | nil =>
      cases hds
      exact ⟨List.append_nil cs', rfl⟩
    | cons d between =>
      cases hds
      exact absurd (List.mem_append_right cs' (List.mem_cons_self ..)) hcs

theorem MadeOf.notMem {isIn : Char → Bool} {text : String} (h : MadeOf isIn text) {c : Char}
    (hc : isIn c = false) : c ∉ text.toList :=
  fun hmem => ne_of_class (h c hmem) hc rfl

namespace TypeText

variable {literal literal' : String} {own? own?' : Option UInt8} {typed : List Char}

theorem push (h : TypeText own? literal typed) {c : Char} (hc : typeChar c = true) :
    TypeText own? (literal.push c) (typed ++ [c]) := by
  cases h with
  | plain htype =>
    rw [← String.toList_push]
    exact .plain (htype.push hc)
  | guarded hdigits hbit htype =>
    simp only [List.append_assoc, List.cons_append, ← String.toList_push]
    exact .guarded hdigits hbit (htype.push hc)

/-- No type has a question mark, so a guard is never taken for one. -/
theorem unique (h : TypeText own? literal typed) (h' : TypeText own?' literal' typed) :
    own? = own?' ∧ literal = literal' := by
  generalize htyped : typed = typed' at h'
  cases h with
  | plain htype =>
    cases h' with
    | plain htype' => exact ⟨rfl, String.toList_inj.mp htyped⟩
    | guarded =>
      have hmark : '?' ∈ literal.toList := by simp [htyped]
      exact absurd hmark (htype.notMem (by decide))
  | guarded hdigits hbit htype =>
    cases h' with
    | plain htype' =>
      have hmark : '?' ∈ literal'.toList := by simp [← htyped]
      exact absurd hmark (htype'.notMem (by decide))
    | guarded hdigits' hbit' htype' =>
      obtain ⟨hsame, hliteral⟩ := eq_of_split_eq (hdigits.notMem (by decide))
        (hdigits'.notMem (by decide)) (List.append_cancel_left htyped)
      rw [String.toList_inj] at hsame hliteral
      subst hsame
      exact ⟨hbit.symm.trans hbit', hliteral⟩

end TypeText

namespace FieldText

variable {name name' literal literal' : String} {own? own?' : Option UInt8} {text : List Char}

theorem push (h : FieldText name own? literal text) {c : Char} (hc : typeChar c = true) :
    FieldText name own? (literal.push c) (text ++ [c]) := by
  obtain ⟨spelled, typed, hname, htyped, rfl⟩ := h
  exact ⟨spelled, typed ++ [c], hname, htyped.push hc, by simp⟩

/-- The text of a field can be read in one way only. -/
theorem unique (h : FieldText name own? literal text) (h' : FieldText name' own?' literal' text) :
    name = name' ∧ own? = own?' ∧ literal = literal' := by
  obtain ⟨spelled, typed, hname, htyped, rfl⟩ := h
  obtain ⟨spelled', typed', hname', htyped', htext⟩ := h'
  obtain ⟨rfl, rfl⟩ := eq_of_split_eq hname.colon_notMem hname'.colon_notMem htext
  exact ⟨hname.unique hname', htyped.unique htyped'⟩

theorem colon_mem (h : FieldText name own? literal text) : ':' ∈ text := by
  obtain ⟨spelled, typed, -, -, rfl⟩ := h
  simp

/-- Where no type is written, the colon comes last, or the question mark of the guard. -/
theorem exists_last (h : FieldText name own? "" text) :
    ∃ front c, text = front ++ [c] ∧ (c = ':' ∨ c = '?') := by
  obtain ⟨spelled, typed, -, htyped, rfl⟩ := h
  generalize hliteral : "" = literal at htyped
  cases htyped with
  | plain =>
    subst hliteral
    exact ⟨spelled, ':', rfl, Or.inl rfl⟩
  | @guarded digits =>
    subst hliteral
    exact ⟨spelled ++ ':' :: (guardStart ++ digits.toList), '?', by simp, Or.inr rfl⟩

end FieldText

/-! ## Bits that are left over -/

/-- The piece declares the flags, and has a guard of that bit. -/
def Piece.LeavesBit (piece : Piece) (bit : UInt8) : Prop :=
  piece.token.kind = .flagsMarker ∧
    ∃ text, piece.chars = text ++ ['#'] ∧ FieldText flagsName (some bit) "" text

/-- The bit is left over from a guard on the flags, since which only the flags were declared. -/
def LeftOver (pieces : List Piece) (bit : UInt8) : Prop :=
  ∃ before piece after, pieces = before ++ piece :: after ∧ piece.LeavesBit bit ∧
    ∀ other ∈ after, other.token.kind = .flagsMarker

/-- Every piece has its place: it is the last one, or it stands before the last one. -/
theorem concat_eq_append_cons {pieces before after : List Piece} {last piece : Piece}
    (h : pieces ++ [last] = before ++ piece :: after) :
    (before = pieces ∧ piece = last ∧ after = []) ∨
      ∃ after', after = after' ++ [last] ∧ pieces = before ++ piece :: after' := by
  rcases List.eq_nil_or_concat' after with rfl | ⟨after', other, rfl⟩
  · obtain ⟨rfl, hlast⟩ := List.append_inj' h rfl
    exact Or.inl ⟨rfl, (List.singleton_inj.mp hlast).symm, rfl⟩
  · rw [← List.cons_append, ← List.append_assoc] at h
    obtain ⟨rfl, hlast⟩ := List.append_inj' h rfl
    exact Or.inr ⟨after', by rw [List.singleton_inj.mp hlast], rfl⟩

theorem leftOver_concat {pieces : List Piece} {piece : Piece} {bit : UInt8} :
    LeftOver (pieces ++ [piece]) bit ↔
      piece.token.kind = .flagsMarker ∧ (piece.LeavesBit bit ∨ LeftOver pieces bit) := by
  constructor
  · rintro ⟨before, marker, after, hpieces, hmarker, hafter⟩
    rcases concat_eq_append_cons hpieces with ⟨-, rfl, -⟩ | ⟨after', rfl, rfl⟩
    · exact ⟨hmarker.1, Or.inl hmarker⟩
    · rw [List.forall_mem_append, List.forall_mem_singleton] at hafter
      exact ⟨hafter.2, Or.inr ⟨before, marker, after', rfl, hmarker, hafter.1⟩⟩
  · rintro ⟨hkind, hleaves | ⟨before, marker, after, rfl, hmarker, hafter⟩⟩
    · exact ⟨pieces, piece, [], rfl, hleaves, by simp⟩
    · refine ⟨before, marker, after ++ [piece], by simp, hmarker, ?_⟩
      rw [List.forall_mem_append, List.forall_mem_singleton]
      exact ⟨hafter, hkind⟩

/-- After these pieces `guard?` guards a field that has the guard `own?` written on it: it is the
field's own bit, or one that is left over. -/
def Guarding (pieces : List Piece) (own? guard? : Option UInt8) : Prop :=
  ∀ bit, guard? = some bit ↔ own? = some bit ∨ LeftOver pieces bit

namespace Guarding

variable {pieces : List Piece} {own? : Option UInt8}

theorem none_iff : Guarding pieces own? none ↔ own? = none ∧ ∀ bit, ¬ LeftOver pieces bit := by
  constructor
  · intro h
    refine ⟨Option.eq_none_iff_forall_ne_some.mpr fun bit hown => ?_, fun bit hleft => ?_⟩
    · cases (h bit).mpr (Or.inl hown)
    · cases (h bit).mpr (Or.inr hleft)
  · rintro ⟨rfl, hleft⟩ bit
    exact (or_iff_left (hleft bit)).symm

/-- A piece that does not declare the flags leaves no bit. -/
theorem after_other {piece : Piece} (h : piece.token.kind ≠ .flagsMarker) :
    Guarding (pieces ++ [piece]) none none :=
  none_iff.mpr ⟨rfl, fun _ hleft => h (leftOver_concat.mp hleft).1⟩

/-- The flags leave the bit that would guard them. -/
theorem after_flags {guard? : Option UInt8} {text : List Char} {pos : Position}
    (h : Guarding pieces own? guard?) (htext : FieldText flagsName own? "" text) :
    Guarding (pieces ++ [⟨text ++ ['#'], ⟨.flagsMarker, pos⟩⟩]) none guard? := by
  intro bit
  rw [h bit, leftOver_concat]
  constructor
  · rintro (rfl | hleft)
    · exact Or.inr ⟨rfl, Or.inl ⟨rfl, text, rfl, htext⟩⟩
    · exact Or.inr ⟨rfl, Or.inr hleft⟩
  · rintro (hnone | ⟨-, ⟨-, text', hchars, htext'⟩ | hleft⟩)
    · cases hnone
    · obtain rfl := List.append_cancel_right hchars
      exact Or.inl (htext.unique htext').2.1
    · exact Or.inr hleft

end Guarding

/-! ## How tokens are written -/

/-- The characters of a piece, and what its token says: for fields all that is written, for the
other tokens what sets them apart from fields. -/
inductive Written (before : List Piece) : List Char → TokenKind → Prop
  | classDecl {front : List Char} {c : Char} {key : String} (hc : keyChar c = true ∨ c = '/') :
      Written before (front ++ [c] ++ ['#']) (.classDecl key)
  | constructorId {text : List Char} {digits : String} (hcolon : ':' ∉ text) :
      Written before (text ++ [' ']) (.constructorId digits)
  | field {name : Word} {own? guard? : Option UInt8} {literal : String} {type : ValueType}
      {text : List Char} (htext : FieldText name.text own? literal text)
      (htype : ValueType.parse literal = .ok type) (hguard : Guarding before own? guard?) :
      Written before (text ++ [' ']) (ScanState.fieldToken name guard? type).kind
  | flagsMarker {own? : Option UInt8} {text : List Char}
      (htext : FieldText flagsName own? "" text) : Written before (text ++ ['#']) .flagsMarker
  | returnType {text : List Char} {type : ValueType} :
      Written before (text ++ [';']) (.returnType type)

namespace ScanState

theorem kind_fieldToken_eq_flagField {name : Word} {guard? : Option UInt8} {type type' : ValueType}
    {name' : String} {bit : UInt8} :
    (fieldToken name guard? type).kind = .flagField name' type' bit ↔
      name.text = name' ∧ type = type' ∧ guard? = some bit := by
  cases guard? <;> simp [fieldToken]

theorem kind_fieldToken_eq_field {name : Word} {guard? : Option UInt8} {type type' : ValueType}
    {name' : String} :
    (fieldToken name guard? type).kind = .field name' type' ↔
      name.text = name' ∧ type = type' ∧ guard? = none := by
  cases guard? <;> simp [fieldToken]

theorem kind_fieldToken_ne_flagsMarker (name : Word) (guard? : Option UInt8) (type : ValueType) :
    (fieldToken name guard? type).kind ≠ .flagsMarker := by
  cases guard? <;> simp [fieldToken]

end ScanState

namespace Written

variable {before : List Piece} {kind : TokenKind} {name literal : String} {own? : Option UInt8}
  {text : List Char}

/-- The text of a field with a space after it is written for a field. -/
theorem exists_field (h : Written before (text ++ [' ']) kind)
    (htext : FieldText name own? literal text) :
    ∃ word guard? type, word.text = name ∧ ValueType.parse literal = .ok type ∧
      Guarding before own? guard? ∧ kind = (ScanState.fieldToken word guard? type).kind := by
  generalize hchars : text ++ [' '] = chars at h
  cases h with
  | classDecl | flagsMarker | returnType =>
    have hend := (List.append_inj' hchars rfl).2
    simp at hend
  | constructorId hcolon =>
    obtain rfl := List.append_cancel_right hchars
    exact absurd htext.colon_mem hcolon
  | @field word _ guard? _ type _ htext' htype hguard =>
    obtain rfl := List.append_cancel_right hchars
    obtain ⟨rfl, rfl, rfl⟩ := htext.unique htext'
    exact ⟨word, guard?, type, rfl, htype, hguard, rfl⟩

variable {chars : List Char} {type : ValueType} {bit : UInt8}

theorem flagField_iff (h : Written before chars kind) :
    kind = .flagField name type bit ↔
      ∃ text literal, chars = text ++ [' '] ∧ ValueType.parse literal = .ok type ∧
        (FieldText name (some bit) literal text ∨
          FieldText name none literal text ∧ LeftOver before bit) := by
  constructor
  · intro hkind
    cases h with
    | @field word own? guard? literal _ text htext htype hguard =>
      obtain ⟨rfl, rfl, hbit⟩ := ScanState.kind_fieldToken_eq_flagField.mp hkind
      refine ⟨text, literal, rfl, htype, ?_⟩
      cases own? with
      | none => exact Or.inr ⟨htext, ((hguard bit).mp hbit).resolve_left (by simp)⟩
      | some own =>
        have hown : guard? = some own := (hguard own).mpr (Or.inl rfl)
        rw [hown] at hbit
        rw [hbit] at htext
        exact Or.inl htext
    | _ => cases hkind
  · rintro ⟨text, literal, rfl, htype, hwritten⟩
    have hfield : ∀ own?, FieldText name own? literal text → own? = some bit ∨ LeftOver before bit →
        kind = .flagField name type bit := by
      intro own? htext hbit
      obtain ⟨word, guard?, type', hname, htype', hguard, rfl⟩ := h.exists_field htext
      rw [htype] at htype'
      cases htype'
      exact ScanState.kind_fieldToken_eq_flagField.mpr ⟨hname, rfl, (hguard bit).mpr hbit⟩
    rcases hwritten with htext | ⟨htext, hleft⟩
    · exact hfield _ htext (Or.inl rfl)
    · exact hfield _ htext (Or.inr hleft)

theorem field_iff (h : Written before chars kind) :
    kind = .field name type ↔
      ∃ text literal, chars = text ++ [' '] ∧ ValueType.parse literal = .ok type ∧
        FieldText name none literal text ∧ ∀ bit, ¬ LeftOver before bit := by
  constructor
  · intro hkind
    cases h with
    | @field word own? guard? literal _ text htext htype hguard =>
      obtain ⟨rfl, rfl, rfl⟩ := ScanState.kind_fieldToken_eq_field.mp hkind
      obtain ⟨rfl, hleft⟩ := Guarding.none_iff.mp hguard
      exact ⟨text, literal, rfl, htype, htext, hleft⟩
    | _ => cases hkind
  · rintro ⟨text, literal, rfl, htype, htext, hleft⟩
    obtain ⟨word, guard?, type', hname, htype', hguard, rfl⟩ := h.exists_field htext
    rw [htype] at htype'
    cases htype'
    have hnone : guard? = none := by
      refine Option.eq_none_iff_forall_ne_some.mpr fun bit hbit => ?_
      exact ((hguard bit).mp hbit).elim (by simp) (hleft bit)
    exact ScanState.kind_fieldToken_eq_field.mpr ⟨hname, rfl, hnone⟩

theorem flagsMarker_iff (h : Written before chars kind) :
    kind = .flagsMarker ↔
      ∃ text own?, chars = text ++ ['#'] ∧ FieldText flagsName own? "" text := by
  constructor
  · intro hkind
    cases h with
    | field => exact absurd hkind (ScanState.kind_fieldToken_ne_flagsMarker _ _ _)
    | flagsMarker htext => exact ⟨_, _, rfl, htext⟩
    | _ => cases hkind
  · rintro ⟨text, own?, rfl, htext⟩
    generalize hchars : text ++ ['#'] = chars at h
    cases h with
    | @classDecl front c key hc =>
      -- the key ends right before the hash sign
      obtain rfl := List.append_cancel_right hchars
      obtain ⟨front', last, hlast, hcolon⟩ := htext.exists_last
      obtain rfl := List.singleton_inj.mp (List.append_inj' hlast rfl).2
      rcases hcolon with rfl | rfl <;> exact absurd hc (by decide)
    | flagsMarker => rfl
    | _ =>
      have hend := (List.append_inj' hchars rfl).2
      simp at hend

end Written

/-! ## The scanner and the pieces -/

namespace ScanState

/-- What the characters since the last token are, in each state. -/
inductive Pending (pieces : List Piece) : List Char → ScanState → Prop
  | start {rest : List Char} : Pending pieces rest .start
  | slash {front : List Char} {word : Word} : Pending pieces (front ++ ['/']) (.slash word)
  | comment {rest : List Char} : Pending pieces rest .comment
  | className {front : List Char} {c : Char} {word : Word}
      (hc : TlSchema.keyChar c = true ∨ c = '/') : Pending pieces (front ++ [c]) (.className word)
  | constructorId {rest : List Char} {word : Word} (hcolon : ':' ∉ rest) :
      Pending pieces rest (.constructorId word)
  | fieldName {guard? : Option UInt8} {word : Word} {rest : List Char}
      (hname : SpellsName word.text rest) (hguard : Guarding pieces none guard?) :
      Pending pieces rest (.fieldName guard? word)
  | fieldType {name word : Word} {own? guard? : Option UInt8} {rest : List Char}
      (htext : FieldText name.text own? word.text rest) (hguard : Guarding pieces own? guard?) :
      Pending pieces rest (.fieldType name guard? word)
  | flagIndex {name word : Word} {spelled rest : List Char} (hname : SpellsName name.text spelled)
      (hdigits : MadeOf Char.isDigit word.text) (hleft : ∀ bit, ¬ LeftOver pieces bit)
      (hrest : rest = spelled ++ ':' :: (TlSchema.guardStart ++ word.text.toList)) :
      Pending pieces rest (.flagIndex name word)
  | returnClause {guard? : Option UInt8} {word : Word} {rest : List Char}
      (hguard : Guarding pieces none guard?) : Pending pieces rest (.returnClause guard? word)

/-- What one more character makes of the characters since the last token: they go on, or they are the
piece of the next token. -/
inductive Continued (pieces : List Piece) (rest : List Char) : ScanState → Option Token → Prop
  | silent {state : ScanState} (hstate : Pending pieces rest state) :
      Continued pieces rest state none
  | completes {state : ScanState} {token : Token} (htoken : Written pieces rest token.kind)
      (hstate : Pending (pieces ++ [⟨rest, token⟩]) [] state) :
      Continued pieces rest state (some token)

theorem Moves.continued {here : Position} {c : Char} {state state' : ScanState}
    {token? : Option Token} (h : Moves here c state state' token?) {pieces : List Piece}
    {rest : List Char} (hp : Pending pieces rest state) :
    Continued pieces (rest ++ [c]) state' token? := by
  cases h with
  | keyStart hc => exact .silent (.className (Or.inl (by simp [TlSchema.keyChar, hc])))
  | blank => exact .silent .start
  | slash hc =>
    subst hc
    exact .silent .slash
  | comment | commentChar => exact .silent .comment
  | commentEnd => exact .silent .start
  | slashChar hc | keyChar hc => exact .silent (.className (Or.inl hc))
  | slashEnd hc =>
    subst hc
    cases hp with
    | slash => exact .completes (.classDecl (Or.inr rfl)) (.constructorId (by simp))
  | keyEnd hc =>
    subst hc
    cases hp with
    | className hc => exact .completes (.classDecl hc) (.constructorId (by simp))
  | digit hc =>
    cases hp with
    | constructorId hcolon =>
      have hne : ':' ≠ c := Ne.symm (ne_of_class hc (by decide))
      exact .silent (.constructorId (by simp [hcolon, hne]))
  | numberEnd hc =>
    subst hc
    cases hp with
    | constructorId hcolon =>
      exact .completes (.constructorId hcolon) (.fieldName .empty (.after_other (by simp)))
  | nameChar hc =>
    cases hp with
    | fieldName hname hguard => exact .silent (.fieldName (hname.push hc) hguard)
  | nameSpace hc =>
    subst hc
    cases hp with
    | fieldName hname hguard => exact .silent (.fieldName hname.space hguard)
  | nameEnd hc =>
    subst hc
    cases hp with
    | fieldName hname hguard =>
      exact .silent (.fieldType ⟨rest, [], hname, .plain (madeOf_empty _), rfl⟩ hguard)
  | fieldsEnd =>
    cases hp with
    | fieldName hname hguard => exact .silent (.returnClause hguard)
  | typeChar hc =>
    cases hp with
    | fieldType htext hguard => exact .silent (.fieldType (htext.push hc) hguard)
  | @typeEnd name word guard? type hc htype =>
    subst hc
    cases hp with
    | fieldType htext hguard =>
      exact .completes (.field htext (mapError_eq_ok.mp htype) hguard)
        (.fieldName .empty (.after_other (kind_fieldToken_ne_flagsMarker name guard? type)))
  | flagsMarker hc hname hword =>
    subst hc
    cases hp with
    | fieldType htext hguard =>
      rw [hname, hword] at htext
      refine .completes (.flagsMarker htext) (.fieldName ?_ (hguard.after_flags htext))
      rw [hword]
      exact .empty
  | @guardStart name word hc hword =>
    subst hc
    cases hp with
    | fieldType htext hguard =>
      -- no bit waits, so what has been read after the colon has no guard
      obtain ⟨rfl, hleft⟩ := Guarding.none_iff.mp hguard
      obtain ⟨spelled, typed, hname, htyped, rfl⟩ := htext
      have htypedText : typed = flagsName.toList := by
        cases htyped
        rw [hword]
      refine .silent (.flagIndex hname (madeOf_empty _) hleft ?_)
      simp [htypedText, TlSchema.guardStart, Word.cleared]
  | guardDigit hc =>
    cases hp with
    | flagIndex hname hdigits hleft hrest =>
      refine .silent (.flagIndex hname (hdigits.push hc) hleft ?_)
      simp [hrest, Word.push]
  | guardEnd hc hbit =>
    subst hc
    cases hp with
    | @flagIndex _ _ spelled _ hname hdigits hleft hrest =>
      have htyped := TypeText.guarded hdigits hbit (madeOf_empty _)
      refine .silent (.fieldType ⟨spelled, _, hname, htyped, by simp [hrest]⟩ fun bit => ?_)
      exact (or_iff_left (hleft bit)).symm
  | returnChar | returnSpace =>
    cases hp with
    | returnClause hguard => exact .silent (.returnClause hguard)
  | returnEnd hc =>
    subst hc
    exact .completes .returnType .start

end ScanState

/-- What has been read since the last token is what the state says, and every token is written as
its piece says. -/
theorem Scan.Cut.written {pieces : List Piece} {rest : List Char} {scan : Scan}
    (h : Cut pieces rest scan) :
    ScanState.Pending pieces rest scan.state ∧
      ∀ before piece after, pieces = before ++ piece :: after →
        Written before piece.chars piece.token.kind := by
  induction h with
  | start => exact ⟨.start, fun before piece after hpieces => by simp at hpieces⟩
  | silent _ hstep htokens ih =>
    cases (Scan.moves_of_silent hstep htokens).continued ih.1 with
    | silent hpending => exact ⟨hpending, ih.2⟩
  | @completes pieces rest _ _ c token _ hstep htokens ih =>
    cases (Scan.moves_of_completes hstep htokens).continued ih.1 with
    | completes htoken hpending =>
      refine ⟨hpending, fun before piece after hpieces => ?_⟩
      rcases concat_eq_append_cons hpieces with ⟨rfl, rfl, -⟩ | ⟨after', -, hpieces'⟩
      · exact htoken
      · exact ih.2 before piece after' hpieces'

/-- Which bit waits: that of the guard on the field whose type is being read, or one that is left
over. -/
theorem ScanState.Pending.guard?_eq_some_iff {pieces : List Piece} {rest : List Char}
    {state : ScanState} (h : Pending pieces rest state) {bit : UInt8} :
    state.guard? = some bit ↔
      (state.phase = .fieldType ∧ ∃ name literal, FieldText name (some bit) literal rest) ∨
        ((state.phase = .fieldName ∨ state.phase = .fieldType ∨ state.phase = .returnClause) ∧
          LeftOver pieces bit) := by
  cases h with
  | fieldName _ hguard | returnClause hguard =>
    rw [guard?, hguard bit]
    simp [phase]
  | @fieldType name word own? guard? _ htext hguard =>
    have hown : (∃ name literal, FieldText name (some bit) literal rest) ↔ own? = some bit := by
      constructor
      · rintro ⟨name', literal', htext'⟩
        exact (htext.unique htext').2.1
      · rintro rfl
        exact ⟨_, _, htext⟩
    rw [hown, ScanState.guard?, hguard bit]
    simp [phase]
  | _ => simp [guard?, phase]

/-- Guards are taken as they are written. Wherever a scan has come to, its characters are pieces for
its tokens and a rest. A bit waits in the type of the field that it is written on; only one that is
written on the flags waits longer, up to the next field that is not the flags or, in the return type
too, to the end of the definition. So a field is guarded exactly by the bit that is written on it,
or, if there is none, by one that is left over. -/
theorem Scan.guards_as_written {cs : List Char} {scan : Scan} (h : Scan.run {} cs = .ok scan) :
    ∃ pieces rest, Cut pieces rest scan ∧ cs = pieces.flatMap Piece.chars ++ rest ∧
      scan.tokens.toList = pieces.map Piece.token ∧
      (∀ bit, scan.state.guard? = some bit ↔
        (scan.state.phase = .fieldType ∧ ∃ name literal, FieldText name (some bit) literal rest) ∨
          ((scan.state.phase = .fieldName ∨ scan.state.phase = .fieldType ∨
            scan.state.phase = .returnClause) ∧ LeftOver pieces bit)) ∧
      ∀ before piece after, pieces = before ++ piece :: after →
        (∀ name type bit, piece.token.kind = .flagField name type bit ↔
          ∃ text literal, piece.chars = text ++ [' '] ∧ ValueType.parse literal = .ok type ∧
            (FieldText name (some bit) literal text ∨
              FieldText name none literal text ∧ LeftOver before bit)) ∧
        (∀ name type, piece.token.kind = .field name type ↔
          ∃ text literal, piece.chars = text ++ [' '] ∧ ValueType.parse literal = .ok type ∧
            FieldText name none literal text ∧ ∀ bit, ¬ LeftOver before bit) ∧
        (piece.token.kind = .flagsMarker ↔
          ∃ text own?, piece.chars = text ++ ['#'] ∧ FieldText flagsName own? "" text) := by
  obtain ⟨pieces, rest, hcut, hchars⟩ := Scan.exists_cut h
  obtain ⟨hpending, hwritten⟩ := hcut.written
  refine ⟨pieces, rest, hcut, hchars, hcut.tokens_eq, fun bit => hpending.guard?_eq_some_iff,
    fun before piece after hpieces => ?_⟩
  have hpiece := hwritten before piece after hpieces
  exact ⟨fun _ _ _ => hpiece.flagField_iff, fun _ _ => hpiece.field_iff, hpiece.flagsMarker_iff⟩

namespace GuardedFlags

/-- A guard on the flags, a field without a guard, and a field with its own. -/
def source : String := "a.b#1 flags:flags.3?# x:int y:flags.5?l"

def tokens : List Token :=
  [⟨.classDecl "a.b", ⟨1, 1⟩⟩, ⟨.constructorId "1", ⟨1, 5⟩⟩, ⟨.flagsMarker, ⟨1, 7⟩⟩]

def guardedByFlags : Token := ⟨.flagField "x" .int32 3, ⟨1, 23⟩⟩

/-- The scan in the type of the last field. -/
def scan : Scan :=
  ⟨.fieldType ⟨⟨1, 29⟩, "y"⟩ (some 5) ⟨⟨1, 39⟩, "l"⟩, ⟨1, 40⟩, (tokens ++ [guardedByFlags]).toArray⟩

theorem run_source : Scan.run {} source.toList = .ok scan := by decide +kernel

theorem guards_as_written_flags :
    Scan.run {} source.toList = .ok scan ∧
      ∃ before piece rest text literal,
        source.toList = (before ++ [piece]).flatMap Piece.chars ++ rest ∧
        before.map Piece.token = tokens ∧ piece.token = guardedByFlags ∧
        piece.chars = text ++ [' '] ∧ ValueType.parse literal = .ok .int32 ∧
        (FieldText "x" (some 3) literal text ∨
          FieldText "x" none literal text ∧ LeftOver before 3) ∧
        ∃ name literal, FieldText name (some 5) literal rest := by
  obtain ⟨pieces, rest, -, hchars, htokens, hstate, hpieces⟩ := Scan.guards_as_written run_source
  obtain ⟨before, last, rfl, hbefore, hlast⟩ := List.map_eq_append_iff.mp htokens.symm
  obtain ⟨piece, rfl, hpiece⟩ := List.map_eq_singleton_iff.mp hlast
  have hkind : piece.token.kind = .flagField "x" .int32 3 := by rw [hpiece]; rfl
  obtain ⟨text, literal, htext, htype, hfield⟩ :=
    ((hpieces before piece [] rfl).1 "x" .int32 3).mp hkind
  -- the last piece is no flags marker, so the waiting bit is not left over
  have hwaits : ∃ name literal, FieldText name (some 5) literal rest := by
    rcases (hstate 5).mp rfl with ⟨-, hown⟩ | ⟨-, hleft⟩
    · exact hown
    · have hmarker := (leftOver_concat.mp hleft).1
      rw [hkind] at hmarker
      cases hmarker
  exact ⟨run_source, before, piece, rest, text, literal, hchars, hbefore, hpiece, htext, htype,
    hfield, hwaits⟩

/-- The guard on the flags waits where the name of the next field is read, and goes into the token
of that field, on which no guard is written. Where there is no such field, it waits in the return
type. -/
theorem guard_on_flags_stays :
    (Scan.run {} "a.b#1 flags:flags.3?#".toList).map
        (fun scan => (scan.state.phase, scan.state.guard?)) = .ok (.fieldName, some 3) ∧
      (Scan.run {} "a.b#1 flags:flags.3?# =".toList).map
        (fun scan => (scan.state.phase, scan.state.guard?)) = .ok (.returnClause, some 3) ∧
      tokensOf "a.b#1 flags:flags.3?# x:int = a.B;" =
        .ok (tokens ++ [guardedByFlags, ⟨.returnType (.named "a.B"), ⟨1, 31⟩⟩]) := by
  decide +kernel

end GuardedFlags

end TlSchema
