import Mathlib.Data.Prod.Lex
import TlSchema.Proofs.FieldGuards

/-!
# Where tokens stand

The scanner notes the place of a character only when it starts a word, so a token is at the right
place only if every word before it has been emptied. It is: the characters of a text are pieces, one
for each token, and a token that has a word carries the place of the first character of this word in
its own piece (`Located`). So these places grow from token to token. A token without a word carries
the place where the word before it started, and places still never go back.
-/

namespace TlSchema

open Results

/-! ## Places in a text -/

namespace Position

/-- The line, and within it the column. -/
def key (pos : Position) : ℕ ×ₗ ℕ := toLex (pos.line, pos.column)

theorem key_injective : Function.Injective key := by
  rintro ⟨line, column⟩ ⟨line', column'⟩ h
  cases h
  rfl

/-- Places are in the order of lines, and within a line in that of columns. -/
instance : LinearOrder Position := LinearOrder.lift' key key_injective

theorem lt_iff {a b : Position} :
    a < b ↔ a.line < b.line ∨ a.line = b.line ∧ a.column < b.column :=
  Prod.Lex.toLex_lt_toLex

/-- The place of the character that follows the given ones: every line break starts a line, and
every other character takes a column. -/
def after (before : List Char) : Position :=
  ⟨1 + before.count '\n', 1 + (before.reverse.takeWhile (· ≠ '\n')).length⟩

theorem after_concat (before : List Char) (c : Char) :
    after (before ++ [c]) = (after before).advance c := by
  unfold after advance
  rw [List.count_append, List.reverse_append]
  by_cases hc : c = '\n'
  · subst hc
    simp [Nat.add_assoc]
  · simp [hc, Nat.add_comm]

theorem lt_advance (here : Position) (c : Char) : here < here.advance c := by
  rw [lt_iff, advance]
  split_ifs
  · exact Or.inl (Nat.lt_succ_self _)
  · exact Or.inr ⟨rfl, Nat.lt_succ_self _⟩

theorem after_le (before more : List Char) : after before ≤ after (before ++ more) := by
  induction more using List.reverseRecOn with
  | nil => rw [List.append_nil]
  | append_singleton more c ih =>
    rw [← List.append_assoc, after_concat]
    exact ih.trans (lt_advance _ c).le

theorem after_lt (before : List Char) (c : Char) (more : List Char) :
    after before < after (before ++ c :: more) := by
  have hnext : after before < after (before ++ [c]) := by
    rw [after_concat]
    exact lt_advance _ c
  have hmore := after_le (before ++ [c]) more
  rw [List.append_assoc, List.singleton_append] at hmore
  exact hnext.trans_le hmore

end Position

/-! ## How tokens are laid out -/

/-- The characters are blanks and whole lines of comments, as they stand between definitions. -/
inductive Skipped : List Char → Prop
  | nil : Skipped []
  | blank {cs : List Char} {c : Char} (h : Skipped cs) (hletter : Text.isAlphanumeric c = false)
      (hc : Text.isBlank c = true) : Skipped (cs ++ [c])
  | comment {cs line : List Char} (h : Skipped cs) (hline : '\n' ∉ line) :
      Skipped (cs ++ '/' :: '/' :: line ++ ['\n'])

/-- The characters are spaces. -/
def Spaces (cs : List Char) : Prop := ∀ c ∈ cs, c = ' '

/-- How a token is written that starts with the word `text`: the characters `lead` stand before the
word, and `body` goes from the first character of the word to the one that completes the token. -/
inductive Layout : TokenKind → (text : String) → (lead body : List Char) → Prop
  | classDecl {key : String} {lead : List Char} (hlead : Skipped lead) :
      Layout (.classDecl key) key lead (key.toList ++ ['#'])
  | constructorId {digits : String} :
      Layout (.constructorId digits) digits [] (digits.toList ++ [' '])
  | field {name literal : String} {type : ValueType} {lead body : List Char} {own? : Option UInt8}
      (hlead : Spaces lead) (hbody : FieldText name own? literal body)
      (htype : ValueType.parse literal = .ok type) :
      Layout (.field name type) name lead (body ++ [' '])
  | flagField {name literal : String} {type : ValueType} {bit : UInt8} {lead body : List Char}
      {own? : Option UInt8} (hlead : Spaces lead) (hbody : FieldText name own? literal body)
      (htype : ValueType.parse literal = .ok type) :
      Layout (.flagField name type bit) name lead (body ++ [' '])
  | flagsMarker {lead body : List Char} {own? : Option UInt8} (hlead : Spaces lead)
      (hbody : FieldText flagsName own? "" body) :
      Layout .flagsMarker flagsName lead (body ++ ['#'])
  | returnType {literal : String} {type : ValueType} {front lead spelled : List Char}
      (hfront : Spaces front) (hlead : Spaces lead)
      (hspelled : spelled.filter (· ≠ ' ') = literal.toList)
      (htype : ValueType.parse literal = .ok type) :
      Layout (.returnType type) literal (front ++ '=' :: lead) (spelled ++ [';'])

/-- Whether the word that the token starts with has characters. -/
def TokenKind.hasText : TokenKind → Bool
  | .constructorId digits => digits ≠ ""
  | .field name _ => name ≠ ""
  | .flagField name _ _ => name ≠ ""
  | _ => true

/-- The token, which is written with `chars` after the characters `seen`, carries the place of the
first character of its word. -/
def Located (seen chars : List Char) (token : Token) : Prop :=
  ∃ text lead c tail, chars = lead ++ c :: tail ∧ Layout token.kind text lead (c :: tail) ∧
    text.toList.head? = some c ∧ token.pos = .after (seen ++ lead)

/-! ## Spaces before words -/

theorem Spaces.append_space {cs : List Char} (h : Spaces cs) : Spaces (cs ++ [' ']) := by
  intro c hc
  rcases List.mem_append.mp hc with hc | hc
  · exact h c hc
  · exact List.mem_singleton.mp hc

/-- Characters can be cut in one way behind the spaces at their start. -/
theorem Spaces.split_unique {lead lead' tail tail' : List Char} {c c' : Char} (h : Spaces lead)
    (h' : Spaces lead') (hc : c ≠ ' ') (hc' : c' ≠ ' ')
    (heq : lead ++ c :: tail = lead' ++ c' :: tail') : lead = lead' := by
  induction lead generalizing lead' with
  | nil =>
    cases lead' with
    | nil => rfl
    | cons d lead' =>
      cases heq
      exact absurd (h' _ List.mem_cons_self) hc
  | cons d lead ih =>
    cases lead' with
    | nil =>
      cases heq
      exact absurd (h _ List.mem_cons_self) hc'
    | cons d' lead' =>
      obtain ⟨rfl, htails⟩ := List.cons_eq_cons.mp heq
      rw [ih (fun e he => h e (List.mem_cons_of_mem d he))
        (fun e he => h' e (List.mem_cons_of_mem d he)) htails]

/-- What spells a text with spaces in it starts with spaces and the first character of the text. -/
theorem exists_lead_of_filter {spelled : List Char} {text : String}
    (h : spelled.filter (· ≠ ' ') = text.toList) (htext : text ≠ "") :
    ∃ lead c tail, spelled = lead ++ c :: tail ∧ Spaces lead ∧ c ≠ ' ' ∧
      (c :: tail).filter (· ≠ ' ') = text.toList ∧ text.toList.head? = some c := by
  induction spelled with
  | nil => exact absurd (String.toList_eq_nil_iff.mp h.symm) htext
  | cons d spelled ih =>
    by_cases hd : d = ' '
    · subst hd
      obtain ⟨lead, c, tail, rfl, hlead, hc, hfilter, hhead⟩ := ih h
      exact ⟨' ' :: lead, c, tail, rfl, List.forall_mem_cons.mpr ⟨rfl, hlead⟩, hc, hfilter, hhead⟩
    · refine ⟨[], d, spelled, rfl, by simp [Spaces], hd, h, ?_⟩
      rw [← h]
      simp [hd]

/-- The characters after `seen` are spaces and then a word, the first character of which stands at
`pos`. -/
def StartsIn (seen rest : List Char) (pos : Position) : Prop :=
  ∃ lead c tail, rest = lead ++ c :: tail ∧ Spaces lead ∧ c ≠ ' ' ∧ pos = .after (seen ++ lead)

theorem StartsIn.append {seen rest : List Char} {pos : Position} (h : StartsIn seen rest pos)
    (more : List Char) : StartsIn seen (rest ++ more) pos := by
  obtain ⟨lead, c, tail, rfl, hlead, hc, hpos⟩ := h
  exact ⟨lead, c, tail ++ more, by simp, hlead, hc, hpos⟩

/-- What has been read of a word that may have spaces before it and in it. -/
inductive WordRead (seen rest : List Char) (word : Word) : Prop
  | empty (htext : word.text = "") (hrest : Spaces rest)
  | started (htext : word.text ≠ "") (hstart : StartsIn seen rest word.start)

namespace WordRead

variable {seen rest : List Char} {word : Word}

theorem space (h : WordRead seen rest word) : WordRead seen (rest ++ [' ']) word := by
  cases h with
  | empty htext hrest => exact .empty htext hrest.append_space
  | started htext hstart => exact .started htext (hstart.append _)

theorem push (h : WordRead seen rest word) {c : Char} (hc : c ≠ ' ') :
    WordRead seen (rest ++ [c]) (word.push (.after (seen ++ rest)) c) := by
  refine .started (by simp [Word.push]) ?_
  cases h with
  | empty htext hrest => exact ⟨rest, c, [], rfl, hrest, hc, if_pos htext⟩
  | started htext hstart =>
    rw [Word.push, if_neg htext]
    exact hstart.append _

theorem startsIn (h : WordRead seen rest word) (htext : word.text ≠ "") :
    StartsIn seen rest word.start := by
  cases h with
  | empty hempty => exact absurd hempty htext
  | started _ hstart => exact hstart

end WordRead

/-- What has been read of a key after what is skipped. -/
structure KeyRead (seen rest lead : List Char) (word : Word) : Prop where
  skipped : Skipped lead
  text_ne : word.text ≠ ""
  start_eq : word.start = .after (seen ++ lead)
  rest_eq : rest = lead ++ word.text.toList

namespace KeyRead

variable {seen rest lead : List Char} {word : Word}

theorem ofChar (hrest : Skipped rest) (c : Char) :
    KeyRead seen (rest ++ [c]) rest (.ofChar (.after (seen ++ rest)) c) :=
  ⟨hrest, by simp [Word.ofChar], rfl, by simp [Word.ofChar]⟩

theorem push (h : KeyRead seen rest lead word) (here : Position) (c : Char) :
    KeyRead seen (rest ++ [c]) lead (word.push here c) := by
  rw [Word.push, if_neg h.text_ne]
  refine ⟨h.skipped, by simp, h.start_eq, ?_⟩
  rw [h.rest_eq, List.append_assoc, String.toList_push]

theorem located (h : KeyRead seen rest lead word) :
    Located seen (rest ++ ['#']) ⟨.classDecl word.text, word.start⟩ := by
  obtain ⟨c, tail, hword⟩ := List.exists_cons_of_ne_nil (mt String.toList_eq_nil_iff.mp h.text_ne)
  refine ⟨word.text, lead, c, tail ++ ['#'], ?_, ?_, by rw [hword]; rfl, h.start_eq⟩
  · rw [h.rest_eq, hword]
    simp
  · rw [← List.cons_append, ← hword]
    exact .classDecl h.skipped

end KeyRead

/-! ## Fields and return types -/

/-- The text of a field starts with its name, behind spaces. -/
theorem FieldText.exists_lead {seen text : List Char} {name : Word} {literal : String}
    {own? : Option UInt8} (h : FieldText name.text own? literal text) (hname : name.text ≠ "")
    (hstart : StartsIn seen text name.start) :
    ∃ lead c tail, text = lead ++ c :: tail ∧ Spaces lead ∧
      FieldText name.text own? literal (c :: tail) ∧ name.text.toList.head? = some c ∧
      name.start = .after (seen ++ lead) := by
  obtain ⟨spelled, typed, hspells, htyped, rfl⟩ := h
  obtain ⟨lead, c, tail, rfl, hlead, hc, hfilter, hhead⟩ := exists_lead_of_filter hspells.2 hname
  obtain ⟨lead', c', tail', hsplit, hlead', hc', hpos⟩ := hstart
  rw [List.append_assoc, List.cons_append] at hsplit ⊢
  obtain rfl := hlead.split_unique hlead' hc hc' hsplit
  refine ⟨lead, c, tail ++ ':' :: typed, rfl, hlead, ?_, hhead, hpos⟩
  refine ⟨c :: tail, typed, ⟨fun d hd => ?_, hfilter⟩, htyped, rfl⟩
  exact hspells.1 d (List.mem_append_right lead hd)

theorem located_fieldToken {seen rest : List Char} {name : Word} {literal : String}
    {own? : Option UInt8} {type : ValueType} (htext : FieldText name.text own? literal rest)
    (htype : ValueType.parse literal = .ok type) (hname : name.text ≠ "")
    (hstart : StartsIn seen rest name.start) (guard? : Option UInt8) :
    Located seen (rest ++ [' ']) (ScanState.fieldToken name guard? type) := by
  obtain ⟨lead, c, tail, rfl, hlead, hbody, hhead, hpos⟩ := htext.exists_lead hname hstart
  refine ⟨name.text, lead, c, tail ++ [' '], by simp, ?_, hhead, ?_⟩
  · rw [← List.cons_append]
    cases guard? with
    | none => exact .field hlead hbody htype
    | some bit => exact .flagField hlead hbody htype
  · cases guard? <;> exact hpos

theorem located_flagsMarker {seen rest : List Char} {name : Word} {own? : Option UInt8}
    (htext : FieldText name.text own? "" rest) (hname : name.text = flagsName)
    (hstart : StartsIn seen rest name.start) :
    Located seen (rest ++ ['#']) ⟨.flagsMarker, name.start⟩ := by
  have hne : name.text ≠ "" := by
    rw [hname]
    decide
  obtain ⟨lead, c, tail, rfl, hlead, hbody, hhead, hpos⟩ := htext.exists_lead hne hstart
  rw [hname] at hbody hhead
  refine ⟨flagsName, lead, c, tail ++ ['#'], by simp, ?_, hhead, hpos⟩
  rw [← List.cons_append]
  exact .flagsMarker hlead hbody

theorem located_returnType {seen front spelled : List Char} {word : Word} {type : ValueType}
    (hfront : Spaces front) (hspelled : spelled.filter (· ≠ ' ') = word.text.toList)
    (htype : ValueType.parse word.text = .ok type)
    (hstart : WordRead (seen ++ front ++ ['=']) spelled word) :
    Located seen (front ++ '=' :: spelled ++ [';']) ⟨.returnType type, word.start⟩ := by
  have hne : word.text ≠ "" := by
    intro hempty
    rw [hempty] at htype
    cases htype
  obtain ⟨lead, c, tail, rfl, hlead, hc, hfilter, hhead⟩ := exists_lead_of_filter hspelled hne
  obtain ⟨lead', c', tail', hsplit, hlead', hc', hpos⟩ := hstart.startsIn hne
  obtain rfl := hlead.split_unique hlead' hc hc' hsplit
  refine ⟨word.text, front ++ '=' :: lead, c, tail ++ [';'], by simp, ?_, hhead, ?_⟩
  · rw [← List.cons_append]
    exact .returnType hfront hlead hfilter htype
  · rw [hpos]
    simp

/-! ## One character -/

namespace ScanState

/-- Where the words of a state start, when `rest` has been read since the last token and `seen`
before that. -/
inductive Placed (seen : List Char) : List Char → ScanState → Prop
  | start {rest : List Char} (hrest : Skipped rest) : Placed seen rest .start
  | slash {rest lead : List Char} {word : Word} (hkey : KeyRead seen rest lead word)
      (hslash : word.text = "/") : Placed seen rest (.slash word)
  | comment {lead line : List Char} (hlead : Skipped lead) (hline : '\n' ∉ line) :
      Placed seen (lead ++ '/' :: '/' :: line) .comment
  | className {rest lead : List Char} {word : Word} (hkey : KeyRead seen rest lead word) :
      Placed seen rest (.className word)
  | constructorId {rest : List Char} {word : Word} (hrest : rest = word.text.toList)
      (hword : word.text ≠ "" → word.start = .after seen) : Placed seen rest (.constructorId word)
  | fieldName {rest : List Char} {guard? : Option UInt8} {word : Word}
      (hword : WordRead seen rest word) : Placed seen rest (.fieldName guard? word)
  | fieldType {rest : List Char} {name word : Word} {guard? : Option UInt8}
      (hname : name.text ≠ "" → StartsIn seen rest name.start) :
      Placed seen rest (.fieldType name guard? word)
  | flagIndex {rest : List Char} {name word : Word}
      (hname : name.text ≠ "" → StartsIn seen rest name.start) :
      Placed seen rest (.flagIndex name word)
  | returnClause {guard? : Option UInt8} {front spelled : List Char} {word : Word}
      (hfront : Spaces front) (hword : WordRead (seen ++ front ++ ['=']) spelled word)
      (hspelled : spelled.filter (· ≠ ' ') = word.text.toList) :
      Placed seen (front ++ '=' :: spelled) (.returnClause guard? word)

/-- What one more character does: the words go on, or a token is completed, which is where its word
is. -/
inductive PlacedNext (seen rest : List Char) : ScanState → Option Token → Prop
  | silent {state : ScanState} (hstate : Placed seen rest state) : PlacedNext seen rest state none
  | completes {state : ScanState} {token : Token}
      (htoken : token.kind.hasText = true → Located seen rest token)
      (hstate : Placed (seen ++ rest) [] state) : PlacedNext seen rest state (some token)

/-- Behind a key follow the digits of the number, none of which has been read. -/
theorem PlacedNext.endKey {seen rest lead : List Char} {word : Word}
    (h : KeyRead seen rest lead word) :
    PlacedNext seen (rest ++ ['#']) (.constructorId word.cleared)
      (some ⟨.classDecl word.text, word.start⟩) :=
  .completes (fun _ => h.located) (.constructorId rfl fun htext => absurd rfl htext)

theorem Moves.placed {here : Position} {c : Char} {state state' : ScanState} {token? : Option Token}
    (h : Moves here c state state' token?) {pieces : List Piece} {seen rest : List Char}
    (hhere : here = .after (seen ++ rest)) (hp : Placed seen rest state)
    (hpending : Pending pieces rest state) : PlacedNext seen (rest ++ [c]) state' token? := by
  subst hhere
  cases h with
  | keyStart hc =>
    cases hp with
    | start hrest => exact .silent (.className (.ofChar hrest c))
  | blank hletter hc =>
    cases hp with
    | start hrest => exact .silent (.start (.blank hrest hletter hc))
  | slash hc =>
    subst hc
    cases hp with
    | start hrest => exact .silent (.slash (.ofChar hrest '/') rfl)
  | comment hc =>
    subst hc
    cases hp with
    | slash hkey hslash =>
      rw [hkey.rest_eq, hslash, List.append_assoc]
      exact .silent (.comment hkey.skipped List.not_mem_nil)
  | slashChar hc =>
    cases hp with
    | slash hkey hslash => exact .silent (.className (hkey.push _ c))
  | slashEnd hc =>
    subst hc
    cases hp with
    | slash hkey hslash => exact .endKey hkey
  | commentChar hc =>
    cases hp with
    | comment hlead hline =>
      rw [List.append_assoc]
      exact .silent (.comment hlead (by simp [hline, Ne.symm hc]))
  | commentEnd hc =>
    subst hc
    cases hp with
    | comment hlead hline => exact .silent (.start (.comment hlead hline))
  | keyChar hc =>
    cases hp with
    | className hkey => exact .silent (.className (hkey.push _ c))
  | keyEnd hc =>
    subst hc
    cases hp with
    | className hkey => exact .endKey hkey
  | @digit word hc =>
    cases hp with
    | constructorId hrest hword =>
      subst hrest
      refine .silent (.constructorId (by simp [Word.push]) fun _ => ?_)
      by_cases hempty : word.text = ""
      · rw [Word.push, if_pos hempty, hempty]
        simp
      · rw [Word.push, if_neg hempty]
        exact hword hempty
  | @numberEnd word hc =>
    subst hc
    cases hp with
    | constructorId hrest hword =>
      subst hrest
      refine .completes (fun htext => ?_) (.fieldName (.empty rfl (by simp [Spaces])))
      have hne : word.text ≠ "" := by simpa [TokenKind.hasText] using htext
      obtain ⟨d, tail, hdigits⟩ := List.exists_cons_of_ne_nil (mt String.toList_eq_nil_iff.mp hne)
      refine ⟨word.text, [], d, tail ++ [' '], by rw [hdigits]; rfl, ?_, by rw [hdigits]; rfl, ?_⟩
      · rw [← List.cons_append, ← hdigits]
        exact .constructorId
      · rw [List.append_nil]
        exact hword hne
  | nameChar hc =>
    cases hp with
    | fieldName hword => exact .silent (.fieldName (hword.push (ne_of_class hc (by decide))))
  | nameSpace hc =>
    subst hc
    cases hp with
    | fieldName hword => exact .silent (.fieldName hword.space)
  | nameEnd hc =>
    cases hp with
    | fieldName hword => exact .silent (.fieldType fun hname => (hword.startsIn hname).append _)
  | fieldsEnd hc htext =>
    subst hc
    cases hp with
    | fieldName hword =>
      cases hword with
      | empty _ hrest =>
        exact .silent (.returnClause hrest (.empty htext (by simp [Spaces])) (by simp [htext]))
      | started hne => exact absurd htext hne
  | typeChar hc =>
    cases hp with
    | fieldType hname => exact .silent (.fieldType fun h => (hname h).append _)
  | @typeEnd name word guard? type hc htype =>
    subst hc
    cases hp with
    | fieldType hstart =>
      cases hpending with
      | fieldType htext _ =>
        refine .completes (fun hhas => ?_) (.fieldName (.empty rfl (by simp [Spaces])))
        have hname : name.text ≠ "" := by
          cases guard? <;> simpa [fieldToken, TokenKind.hasText] using hhas
        exact located_fieldToken htext (mapError_eq_ok.mp htype) hname (hstart hname) guard?
  | flagsMarker hc hname hword =>
    subst hc
    cases hp with
    | fieldType hstart =>
      cases hpending with
      | fieldType htext _ =>
        rw [hword] at htext
        have hne : flagsName ≠ "" := by decide
        exact .completes (fun _ => located_flagsMarker htext hname (hstart (hname ▸ hne)))
          (.fieldName (.empty hword (by simp [Spaces])))
  | guardStart hc hword =>
    cases hp with
    | fieldType hname => exact .silent (.flagIndex fun h => (hname h).append _)
  | guardDigit hc =>
    cases hp with
    | flagIndex hname => exact .silent (.flagIndex fun h => (hname h).append _)
  | guardEnd hc hbit =>
    cases hp with
    | flagIndex hname => exact .silent (.fieldType fun h => (hname h).append _)
  | returnChar hc =>
    cases hp with
    | @returnClause guard? front spelled word hfront hword hspelled =>
      have hspace : c ≠ ' ' := ne_of_class hc (by decide)
      have hmore := hword.push hspace
      have hchars : seen ++ front ++ ['='] ++ spelled = seen ++ (front ++ '=' :: spelled) := by simp
      rw [hchars] at hmore
      rw [List.append_assoc, List.cons_append]
      refine .silent (.returnClause hfront hmore ?_)
      rw [List.filter_append, hspelled, Word.push, String.toList_push]
      simp [hspace]
  | returnSpace hc =>
    subst hc
    cases hp with
    | returnClause hfront hword hspelled =>
      rw [List.append_assoc, List.cons_append]
      refine .silent (.returnClause hfront hword.space ?_)
      rw [List.filter_append, hspelled]
      simp
  | returnEnd hc htype =>
    subst hc
    cases hp with
    | returnClause hfront hword hspelled =>
      exact .completes
        (fun _ => located_returnType hfront hspelled (mapError_eq_ok.mp htype) hword) (.start .nil)

/-! ## The order of words -/

/-- The words of the state start not before `latest` and not behind `here`, in their order. -/
def Within (latest here : Position) : ScanState → Prop
  | .start => latest ≤ here
  | .slash word => latest ≤ word.start ∧ word.start ≤ here
  | .comment => latest ≤ here
  | .className word => latest ≤ word.start ∧ word.start ≤ here
  | .constructorId word => latest ≤ word.start ∧ word.start ≤ here
  | .fieldName _ word => latest ≤ word.start ∧ word.start ≤ here
  | .fieldType name _ word => latest ≤ name.start ∧ name.start ≤ word.start ∧ word.start ≤ here
  | .flagIndex name word => latest ≤ name.start ∧ name.start ≤ word.start ∧ word.start ≤ here
  | .returnClause _ word => latest ≤ word.start ∧ word.start ≤ here

theorem start_push (word : Word) {here : Position} (c : Char) (h : word.start ≤ here) :
    word.start ≤ (word.push here c).start ∧ (word.push here c).start ≤ here := by
  unfold Word.push
  split_ifs
  · exact ⟨h, le_rfl⟩
  · exact ⟨le_rfl, h⟩

theorem pos_fieldToken (name : Word) (guard? : Option UInt8) (type : ValueType) :
    (fieldToken name guard? type).pos = name.start := by
  cases guard? <;> rfl

/-- A character completes no token that starts before `latest`, and from then on none can start
before the one it completes. -/
theorem Moves.within {here : Position} {c : Char} {state state' : ScanState} {token? : Option Token}
    (h : Moves here c state state' token?) {latest : Position} (hw : state.Within latest here) :
    (∀ token, token? = some token → latest ≤ token.pos) ∧
      state'.Within ((token?.map (·.pos)).getD latest) (here.advance c) := by
  have hnext := (here.lt_advance c).le
  cases h with
  | keyStart | slash => exact ⟨by simp, hw, hnext⟩
  | blank | commentChar | commentEnd => exact ⟨by simp, hw.trans hnext⟩
  | comment => exact ⟨by simp, (hw.1.trans hw.2).trans hnext⟩
  | slashChar | keyChar | digit | nameChar | returnChar =>
    have hpush := start_push _ c hw.2
    exact ⟨by simp, hw.1.trans hpush.1, hpush.2.trans hnext⟩
  | typeChar | guardDigit =>
    have hpush := start_push _ c hw.2.2
    exact ⟨by simp, hw.1, hw.2.1.trans hpush.1, hpush.2.trans hnext⟩
  | slashEnd | keyEnd | numberEnd => exact ⟨by rintro _ ⟨⟩; exact hw.1, le_rfl, hw.2.trans hnext⟩
  | typeEnd =>
    simp only [Option.some.injEq, forall_eq', Option.map_some, Option.getD_some, pos_fieldToken]
    exact ⟨hw.1, hw.2.1, hw.2.2.trans hnext⟩
  | flagsMarker => exact ⟨by rintro _ ⟨⟩; exact hw.1, hw.2.1, hw.2.2.trans hnext⟩
  | returnEnd => exact ⟨by rintro _ ⟨⟩; exact hw.1, hw.2.trans hnext⟩
  | nameSpace | returnSpace | fieldsEnd => exact ⟨by simp, hw.1, hw.2.trans hnext⟩
  | nameEnd => exact ⟨by simp, hw.1, le_rfl, hw.2.trans hnext⟩
  | guardStart | guardEnd => exact ⟨by simp, hw.1, hw.2.1, hw.2.2.trans hnext⟩

end ScanState

/-! ## Whole texts -/

theorem Scan.here_step {scan scan' : Scan} {c : Char} (h : scan.step c = .ok scan') :
    scan'.here = scan.here.advance c := by
  obtain ⟨⟨state, token?⟩, -, hnext⟩ := bind_eq_ok.mp h
  cases hnext
  rfl

/-- The next character stands behind all that have been read. -/
theorem Scan.Cut.here_eq {pieces : List Piece} {rest : List Char} {scan : Scan}
    (h : Cut pieces rest scan) : scan.here = .after (pieces.flatMap Piece.chars ++ rest) := by
  induction h with
  | start => rfl
  | silent _ hstep _ ih =>
    rw [Scan.here_step hstep, ih, ← Position.after_concat, List.append_assoc]
  | completes _ hstep _ ih =>
    rw [Scan.here_step hstep, ih, ← Position.after_concat]
    simp

/-- Every token that has a word stands where its word does. -/
theorem Scan.Cut.located {pieces : List Piece} {rest : List Char} {scan : Scan}
    (h : Cut pieces rest scan) :
    ScanState.Placed (pieces.flatMap Piece.chars) rest scan.state ∧
      ∀ before piece after, pieces = before ++ piece :: after →
        piece.token.kind.hasText = true →
          Located (before.flatMap Piece.chars) piece.chars piece.token := by
  induction h with
  | start => exact ⟨.start .nil, fun before piece after hpieces => by simp at hpieces⟩
  | silent hcut hstep htokens ih =>
    cases (Scan.moves_of_silent hstep htokens).placed hcut.here_eq ih.1 hcut.written.1 with
    | silent hplaced => exact ⟨hplaced, ih.2⟩
  | @completes pieces rest _ _ c token hcut hstep htokens ih =>
    cases (Scan.moves_of_completes hstep htokens).placed hcut.here_eq ih.1 hcut.written.1 with
    | completes htoken hplaced =>
      refine ⟨by simpa using hplaced, fun before piece after hpieces => ?_⟩
      rcases concat_eq_append_cons hpieces with ⟨rfl, rfl, -⟩ | ⟨after', -, hpieces'⟩
      · exact htoken
      · exact ih.2 before piece after' hpieces'

/-- All tokens that a scan has completed are in order, and the words it is in come behind them. -/
theorem Scan.tokens_in_order {cs : List Char} {scan : Scan} (h : Scan.run {} cs = .ok scan) :
    ∃ latest, scan.state.Within latest scan.here ∧
      (∀ token ∈ scan.tokens.toList, token.pos ≤ latest) ∧
      scan.tokens.toList.Pairwise (·.pos ≤ ·.pos) := by
  refine foldlM_invariant (fun s : Scan => ∃ latest, s.state.Within latest s.here ∧
    (∀ token ∈ s.tokens.toList, token.pos ≤ latest) ∧ s.tokens.toList.Pairwise (·.pos ≤ ·.pos)) h
    ⟨.first, le_rfl, by simp, by simp⟩ ?_
  rintro c - s s' hstep ⟨latest, hwithin, hlatest, horder⟩
  obtain ⟨token?, hstate, htokens⟩ := Scan.step_eq_ok hstep
  obtain ⟨htoken, hwithin'⟩ := (ScanState.step_eq_ok.mp hstate).within hwithin
  rw [← Scan.here_step hstep] at hwithin'
  refine ⟨_, hwithin', ?_⟩
  rw [htokens]
  cases token? with
  | none =>
    rw [Option.toList_none, List.append_nil]
    exact ⟨hlatest, horder⟩
  | some token =>
    have hbehind : ∀ earlier ∈ s.tokens.toList, earlier.pos ≤ token.pos :=
      fun earlier hearlier => (hlatest earlier hearlier).trans (htoken token rfl)
    refine ⟨?_, ?_⟩
    · rw [Option.toList_some, List.forall_mem_append, List.forall_mem_singleton]
      exact ⟨hbehind, le_rfl⟩
    · rw [Option.toList_some, List.pairwise_append]
      refine ⟨horder, List.pairwise_singleton _ _, fun earlier hearlier last hlast => ?_⟩
      rw [List.mem_singleton.mp hlast]
      exact hbehind earlier hearlier

/-- Tokens that are where their words are come one behind the other. -/
theorem pairwise_pos_lt {pieces : List Piece}
    (h : ∀ before piece after, pieces = before ++ piece :: after →
      piece.token.kind.hasText = true →
        Located (before.flatMap Piece.chars) piece.chars piece.token) :
    pieces.Pairwise fun piece other => piece.token.kind.hasText = true →
      other.token.kind.hasText = true → piece.token.pos < other.token.pos := by
  induction pieces using List.reverseRecOn with
  | nil => exact .nil
  | append_singleton pieces last ih =>
    rw [List.pairwise_append]
    refine ⟨ih fun before piece after hpieces => ?_, List.pairwise_singleton _ _, ?_⟩
    · exact h before piece (after ++ [last]) (by simp [hpieces])
    · intro piece hpiece other hother htext htext'
      rw [List.mem_singleton.mp hother] at htext' ⊢
      obtain ⟨before, after, rfl⟩ := List.append_of_mem hpiece
      obtain ⟨_, lead, c, tail, hchars, -, -, hpos⟩ :=
        h before piece (after ++ [last]) (by simp) htext
      obtain ⟨_, lead', _, _, -, -, -, hpos'⟩ := h (before ++ piece :: after) last [] rfl htext'
      -- the characters before the later word start with those before the earlier one
      have hmore : (before ++ piece :: after).flatMap Piece.chars ++ lead' =
          before.flatMap Piece.chars ++ lead ++
            c :: (tail ++ after.flatMap Piece.chars ++ lead') := by
        simp [hchars]
      rw [hpos, hpos', hmore]
      exact Position.after_lt _ _ _

/-- Tokens stand where their words do. The characters of a text that is accepted are pieces for its
tokens and a rest. Every key, number with digits, field with a name and return type carries the
place of the first character of this word, and these places grow. The places of all tokens never go
back. -/
theorem tokensOf_stand_at_words {text : String} {tokens : List Token}
    (h : tokensOf text = .ok tokens) :
    (∃ pieces rest scan, Scan.Cut pieces rest scan ∧
      text.toList = pieces.flatMap Piece.chars ++ rest ∧ tokens = pieces.map Piece.token ∧
      ∀ before piece after, pieces = before ++ piece :: after →
        piece.token.kind.hasText = true →
          Located (before.flatMap Piece.chars) piece.chars piece.token) ∧
    (tokens.filter (·.kind.hasText)).Pairwise (·.pos < ·.pos) ∧
    tokens.Pairwise (·.pos ≤ ·.pos) := by
  obtain ⟨scan, hrun, -, rfl⟩ := Source.tokens_eq_ok h
  obtain ⟨pieces, rest, hcut, hchars⟩ := Scan.exists_cut hrun
  have hlocated := hcut.located.2
  obtain ⟨-, -, -, horder⟩ := Scan.tokens_in_order hrun
  refine ⟨⟨pieces, rest, scan, hcut, hchars, hcut.tokens_eq, hlocated⟩, ?_, horder⟩
  rw [hcut.tokens_eq, List.filter_map, List.pairwise_map, List.pairwise_filter]
  exact pairwise_pos_lt hlocated

namespace OddWords

/-- A comment, a number without digits, a field without a name, and words with spaces in them. -/
def source : String := "// a\n a.b# :int  flags:# x y:flags.0?int =  a . B;\n/c#2 = d;"

/-- The tokens before the field whose name has a space in it. -/
def front : List Token :=
  [⟨.classDecl "a.b", ⟨2, 2⟩⟩, ⟨.constructorId "", ⟨2, 2⟩⟩, ⟨.field "" .int32, ⟨2, 2⟩⟩,
    ⟨.flagsMarker, ⟨2, 13⟩⟩]

def spaced : Token := ⟨.flagField "xy" .int32 0, ⟨2, 21⟩⟩

def back : List Token :=
  [⟨.returnType (.named "a.B"), ⟨2, 40⟩⟩, ⟨.classDecl "/c", ⟨3, 1⟩⟩, ⟨.constructorId "2", ⟨3, 4⟩⟩,
    ⟨.returnType (.named "d"), ⟨3, 8⟩⟩]

theorem tokensOf_source : tokensOf source = .ok (front ++ spaced :: back) := by decide +kernel

theorem stand_at_words_spaced :
    tokensOf source = .ok (front ++ spaced :: back) ∧
      (∃ before after, source.toList = before ++ 'x' :: after ∧ .after before = spaced.pos) ∧
      ((front ++ spaced :: back).filter (·.kind.hasText)).Pairwise (·.pos < ·.pos) ∧
      (front ++ spaced :: back).Pairwise (·.pos ≤ ·.pos) := by
  obtain ⟨⟨pieces, rest, scan, -, hchars, htokens, hlocated⟩, hlt, hle⟩ :=
    tokensOf_stand_at_words tokensOf_source
  refine ⟨tokensOf_source, ?_, hlt, hle⟩
  obtain ⟨before, others, rfl, -, hothers⟩ := List.map_eq_append_iff.mp htokens.symm
  obtain ⟨piece, after, rfl, hpiece, -⟩ := List.map_eq_cons_iff.mp hothers
  have hkind : piece.token.kind = .flagField "xy" .int32 0 := by rw [hpiece]; rfl
  obtain ⟨text, lead, c, tail, hsplit, hlayout, hhead, hpos⟩ :=
    hlocated before piece after rfl (by rw [hkind]; rfl)
  have htext : text = "xy" := by
    rw [hkind] at hlayout
    generalize c :: tail = body at hlayout
    cases hlayout
    rfl
  have hfirst : "xy".toList.head? = some 'x' := rfl
  rw [htext, hfirst] at hhead
  rw [← Option.some.inj hhead] at hsplit
  refine ⟨before.flatMap Piece.chars ++ lead, tail ++ after.flatMap Piece.chars ++ rest, ?_, ?_⟩
  · rw [hchars]
    simp [hsplit]
  · rw [← hpos, hpiece]

end OddWords

end TlSchema
