import TlSchema.Proofs.Blocks
import TlSchema.Proofs.Literals
import TlSchema.Proofs.Scanning

/-!
# How definitions are spelled

The words that the scanner makes tokens of consist of few characters. Keys and return types have
letters, digits and dots, and no return type is a vector; numbers have hexadecimal digits only, and
names of fields have no dots. The type of a field that has no guard never starts like a guard, since
the scanner takes the dot after the word `flags` for the start of one.
-/

namespace TlSchema

open Results

/-! ## Characters of words -/

/-- The text has characters of one class only. -/
def MadeOf (isIn : Char → Bool) (text : String) : Prop := ∀ c ∈ text.toList, isIn c = true

instance (isIn : Char → Bool) (text : String) : Decidable (MadeOf isIn text) :=
  decidable_of_iff (text.toList.all isIn = true) List.all_eq_true

theorem madeOf_empty (isIn : Char → Bool) : MadeOf isIn "" := by
  intro c hc
  simp at hc

theorem MadeOf.push {isIn : Char → Bool} {text : String} (h : MadeOf isIn text) {c : Char}
    (hc : isIn c = true) : MadeOf isIn (text.push c) := by
  intro d hd
  rw [String.toList_push, List.mem_append, List.mem_singleton] at hd
  rcases hd with hd | rfl
  · exact h d hd
  · exact hc

/-- The text is a key: it starts with a letter, a digit or a slash. -/
def IsKey (text : String) : Prop :=
  ∃ c cs, text.toList = c :: cs ∧ (Text.isAlphanumeric c = true ∨ c = '/') ∧
    ∀ d ∈ cs, keyChar d = true

theorem IsKey.push {text : String} (h : IsKey text) {c : Char} (hc : keyChar c = true) :
    IsKey (text.push c) := by
  obtain ⟨first, cs, htext, hfirst, hcs⟩ := h
  refine ⟨first, cs ++ [c], by rw [String.toList_push, htext, List.cons_append], hfirst, ?_⟩
  intro d hd
  rcases List.mem_append.mp hd with hd | hd
  · exact hcs d hd
  · rw [List.mem_singleton.mp hd]
    exact hc

/-- What the guard of a field starts with. -/
def guardStart : List Char := (flagsName ++ ".").toList

theorem not_guardStart_empty : ¬ guardStart <+: "".toList := by decide

/-! ## Types -/

namespace ValueType

theorem madeOf_literal {type : ValueType}
    (h : ∀ name, type.namedLeaf? = some name → MadeOf typeChar name) :
    MadeOf typeChar type.literal := by
  induction type with
  | string => decide
  | boolean initial => cases initial <;> decide
  | int32 => decide
  | int64 => decide
  | vector element ih =>
    intro c hc
    rw [toList_literal_vector, List.mem_append, List.mem_append] at hc
    rcases hc with (hc | hc) | hc
    · have hvector : MadeOf typeChar "Vector<" := by decide
      exact hvector c hc
    · exact ih h c hc
    · rw [List.mem_singleton.mp hc]
      decide
  | named name => exact h name rfl

/-- The type of a field is written with the characters that it may be read from. -/
theorem madeOf_of_parse {text : String} {type : ValueType} (h : parse text = .ok type)
    (htext : MadeOf typeChar text) : MadeOf typeChar type.literal :=
  madeOf_literal fun _ hname c hc => htext c ((namedLeaf?_parseWithin h hname).2 hc)

theorem not_guardStart_of_parse {text : String} {type : ValueType} (h : parse text = .ok type)
    (htext : ¬ guardStart <+: text.toList) : ¬ guardStart <+: type.literal.toList := by
  cases type with
  | string => decide
  | boolean initial => cases initial <;> decide
  | int32 => decide
  | int64 => decide
  | vector element =>
    rw [toList_literal_vector]
    simp [guardStart, flagsName]
  | named name =>
    rw [eq_of_parse_named h]
    exact htext

/-- Without brackets there are no vectors, so a return type is written as it may be read. -/
theorem madeOf_of_parse_dotted {text : String} {type : ValueType} (h : parse text = .ok type)
    (htext : MadeOf keyChar text) : MadeOf keyChar type.literal := by
  cases type with
  | string => decide
  | boolean initial => cases initial <;> decide
  | int32 => decide
  | int64 => decide
  | vector element =>
    have hbracket : keyChar '<' = true := htext '<' (mem_of_parse_vector h)
    exact absurd hbracket (by decide)
  | named name =>
    rw [eq_of_parse_named h]
    exact htext

end ValueType

/-! ## Tokens and definitions -/

/-- The field is declared with words that the scanner reads. -/
structure Field.Spelled (field : Field) : Prop where
  name : MadeOf nameChar field.name
  readable : field.type.Readable
  type : MadeOf typeChar field.type.literal
  /-- Its type is not taken for a guard. -/
  unguarded : field.flagBit? = none → ¬ guardStart <+: field.type.literal.toList

theorem flagsField_spelled : Field.Spelled ⟨flagsName, .int32, none⟩ :=
  ⟨by decide, by simp [ValueType.Readable, ValueType.namedLeaf?], by decide,
    fun _ => by decide⟩

/-- The definition is declared with words that the scanner reads. -/
structure Definition.Spelled (definition : Definition) : Prop where
  key : IsKey definition.key
  fields : ∀ field ∈ definition.fields, field.Spelled
  readable : definition.returnType.Readable
  returnType : MadeOf keyChar definition.returnType.literal

/-- The token says something that the scanner reads. -/
def TokenKind.Spelled : TokenKind → Prop
  | .classDecl key => IsKey key
  | .constructorId digits => MadeOf ScanState.isHexDigit digits
  | .returnType type => type.Readable ∧ MadeOf keyChar type.literal
  | kind => ∀ field, kind.field? = some field → field.Spelled

theorem TokenKind.Spelled.field {kind : TokenKind} (h : kind.Spelled) {field : Field}
    (hfield : kind.field? = some field) : field.Spelled := by
  cases kind with
  | classDecl key => cases hfield
  | constructorId digits => cases hfield
  | returnType type => cases hfield
  | _ => exact h field hfield

/-- A definition is spelled by the words of its tokens. -/
theorem Block.spelled {block : List Token} {definition : Definition} (h : Block block definition)
    (hblock : ∀ token ∈ block, token.kind.Spelled) : definition.Spelled := by
  have hfields : ∀ field ∈ definition.fields, field.Spelled := by
    intro field hfield
    obtain ⟨token, htoken, hkind⟩ := h.exists_token hfield
    exact (hblock token htoken).field hkind
  cases h with
  | @intro key digits id fieldTokens fields type pos idPos typePos =>
    have hkey : IsKey key := hblock ⟨.classDecl key, pos⟩ (by simp)
    have htype : type.Readable ∧ MadeOf keyChar type.literal :=
      hblock ⟨.returnType type, typePos⟩ (by simp)
    exact ⟨hkey, hfields, htype.1, htype.2⟩

/-! ## Scanning -/

namespace ScanState

/-- The words that the state holds are those of a definition. -/
def Spelled : ScanState → Prop
  | .slash word => word.text = "/"
  | .className word => IsKey word.text
  | .constructorId word => MadeOf isHexDigit word.text
  | .fieldName _ word => MadeOf nameChar word.text
  | .fieldType name guard? word =>
    MadeOf nameChar name.text ∧ MadeOf typeChar word.text ∧
      (guard? = none → ¬ guardStart <+: word.text.toList)
  | .flagIndex name _ => MadeOf nameChar name.text
  | .returnClause _ word => MadeOf keyChar word.text
  | _ => True

theorem fieldToken_spelled {name word : Word} {guard? : Option UInt8} {type : ValueType}
    (hstate : (ScanState.fieldType name guard? word).Spelled) (htype : typeOf word = .ok type) :
    (fieldToken name guard? type).kind.Spelled := by
  obtain ⟨hname, hword, hguard⟩ := hstate
  have hparse : ValueType.parse word.text = .ok type := mapError_eq_ok.mp htype
  have hfield : Field.Spelled ⟨name.text, type, guard?⟩ :=
    ⟨hname, ValueType.readable_of_parse hparse, ValueType.madeOf_of_parse hparse hword,
      fun hnone => ValueType.not_guardStart_of_parse hparse (hguard hnone)⟩
  cases guard? <;> exact fun field hdeclared => by cases hdeclared; exact hfield

/-- Another character makes a word start like a guard only if it is the dot after `flags`. -/
theorem not_guardStart_push {text : String} {c : Char} (h : ¬ guardStart <+: text.toList)
    (hc : c = '.' → text ≠ flagsName) : ¬ guardStart <+: (text.push c).toList := by
  intro hstart
  rw [String.toList_push, List.prefix_concat_iff] at hstart
  rcases hstart with heq | hstart
  · have hsplit : flagsName.toList ++ ['.'] = text.toList ++ [c] := heq
    obtain ⟨hflags, hdot⟩ := List.append_inj' hsplit rfl
    exact hc (List.singleton_inj.mp hdot).symm (String.toList_inj.mp hflags.symm)
  · exact h hstart

theorem Moves.spelled {here : Position} {c : Char} {state state' : ScanState}
    {token? : Option Token} (h : Moves here c state state' token?) (hs : state.Spelled) :
    state'.Spelled ∧ ∀ token, token? = some token → token.kind.Spelled := by
  have hsilent : ∀ {next : ScanState}, next.Spelled →
      next.Spelled ∧ ∀ token, (none : Option Token) = some token → token.kind.Spelled :=
    fun hnext => ⟨hnext, fun token htoken => by cases htoken⟩
  have hcompletes : ∀ {next : ScanState} {done : Token}, next.Spelled → done.kind.Spelled →
      next.Spelled ∧ ∀ token, some done = some token → token.kind.Spelled :=
    fun hnext hdone => ⟨hnext, fun token htoken => by cases htoken; exact hdone⟩
  have hslash : ∀ {word : Word}, (ScanState.slash word).Spelled → IsKey word.text := by
    intro word hword
    rw [Spelled] at hword
    exact ⟨'/', [], by rw [hword]; rfl, Or.inr rfl, by simp⟩
  cases h with
  | keyStart hc => exact hsilent ⟨c, [], by simp [Word.ofChar], Or.inl hc, by simp⟩
  | slash hc =>
    subst hc
    exact hsilent rfl
  | slashChar hc => exact hsilent ((hslash hs).push hc)
  | slashEnd => exact hcompletes (madeOf_empty _) (hslash hs)
  | keyChar hc => exact hsilent (IsKey.push hs hc)
  | keyEnd => exact hcompletes (madeOf_empty _) hs
  | digit hc => exact hsilent (MadeOf.push hs hc)
  | numberEnd => exact hcompletes (madeOf_empty _) hs
  | nameChar hc => exact hsilent (MadeOf.push hs hc)
  | nameSpace => exact hsilent hs
  | nameEnd => exact hsilent ⟨hs, madeOf_empty _, fun _ => not_guardStart_empty⟩
  | fieldsEnd _ hword =>
    refine hsilent ?_
    rw [Spelled, hword]
    exact madeOf_empty _
  | typeChar hc hdot =>
    obtain ⟨hname, hword, hguard⟩ := hs
    exact hsilent ⟨hname, hword.push hc, fun hnone =>
      not_guardStart_push (hguard hnone) fun hc => hdot hc hnone⟩
  | typeEnd _ htype => exact hcompletes (madeOf_empty _) (fieldToken_spelled hs htype)
  | flagsMarker _ _ hword =>
    refine hcompletes ?_ fun field hfield => ?_
    · rw [Spelled, hword]
      exact madeOf_empty _
    · cases hfield
      exact flagsField_spelled
  | guardStart => exact hsilent hs.1
  | guardDigit => exact hsilent hs
  | guardEnd => exact hsilent ⟨hs, madeOf_empty _, fun hnone => by cases hnone⟩
  | returnChar hc => exact hsilent (MadeOf.push hs hc)
  | returnSpace => exact hsilent hs
  | returnEnd _ htype =>
    have hparse := mapError_eq_ok.mp htype
    exact hcompletes trivial
      ⟨ValueType.readable_of_parse hparse, ValueType.madeOf_of_parse_dotted hparse hs⟩
  | _ => exact hsilent trivial

end ScanState

theorem Source.tokens_spelled {source : Source} {tokens : List Token}
    (h : source.tokens = .ok tokens) : ∀ token ∈ tokens, token.kind.Spelled :=
  Source.tokens_forall ScanState.Spelled trivial ScanState.Moves.spelled h

end TlSchema
