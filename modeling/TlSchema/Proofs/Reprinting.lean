import TlSchema.Proofs.Numerals
import TlSchema.Proofs.Spelling
import TlSchema.Schema.Printer

/-!
# Printing and reading

A schema that was read from a text is read again from its canonical text, and gives the same
definitions and families. The definitions are printed with the words that the scanner made tokens
of, or with the one literal of a type and the shortest digits of a number, so each printed piece
leads the scanner from where the piece before it left off to where the next one starts.
-/

namespace TlSchema

open Results

namespace ScanState

/-! ## Pieces of a definition -/

theorem Reads.madeOf (state : String → ScanState) {isIn : Char → Bool} {text : String}
    (htext : MadeOf isIn text)
    (h : ∀ before c, isIn c = true →
      said ((state before).step .first c) = some (state (before.push c), none)) :
    Reads (state "") text.toList [] (state text) :=
  .wholeWord state text fun _ c hbefore => h _ c (htext c (hbefore.subset (by simp)))

/-- A key that has been read in part is read to its end. -/
theorem reads_rest {key start : String} {cs : List Char} (hcs : ∀ c ∈ cs, keyChar c = true)
    (hkey : start.toList ++ cs = key.toList) :
    Reads (.className (.bare start)) (cs ++ ['#']) [.classDecl key]
      (.constructorId (.bare "")) := by
  have hword := Reads.word (fun text => .className (.bare text)) start cs
    fun before c hbefore => said_of_moves (.keyChar (hcs c (hbefore.subset (by simp))))
  have heq : start ++ String.ofList cs = key := String.ext (by simpa using hkey)
  rw [heq] at hword
  exact hword.append (.completes rfl)

theorem reads_key {key : String} (h : IsKey key) :
    Reads .start (key.toList ++ ['#']) [.classDecl key] (.constructorId (.bare "")) := by
  obtain ⟨first, cs, hkey, hfirst, hcs⟩ := h
  rw [hkey]
  rcases hfirst with halnum | rfl
  · have hstart : said (ScanState.start.step .first first) =
        some (.className (.bare (String.singleton first)), none) := said_of_moves (.keyStart halnum)
    exact .cons hstart (reads_rest hcs (by simp [hkey]))
  · -- the slash is followed by the rest of the key, which has no slash, or by the hash sign
    have hstart : Reads .start ['/'] [] (.slash (.bare "/")) := .silent rfl
    cases cs with
    | nil =>
      have hslash : key = "/" := String.ext hkey
      subst hslash
      exact hstart.append (.completes rfl)
    | cons d ds =>
      obtain ⟨hd, hds⟩ := List.forall_mem_cons.mp hcs
      have hnext : said ((slash (.bare "/")).step .first d) =
          some (.className (.bare ("/".push d)), none) := said_of_moves (.slashChar hd)
      exact hstart.append (.cons hnext (reads_rest hds (by simp [hkey])))

theorem reads_number (id : UInt32) :
    Reads (.constructorId (.bare "")) ((Text.hexDigits id.toNat).toList ++ [' '])
      [.constructorId (Text.hexDigits id.toNat)] (.fieldName none (.bare "")) := by
  have hdigits : MadeOf isHexDigit (Text.hexDigits id.toNat) := fun c hc => isHexDigit_of_mem hc
  have hword := Reads.madeOf (fun text => .constructorId (.bare text)) hdigits
    fun before c hc => said_of_moves (.digit hc)
  exact hword.append (.completes rfl)

theorem reads_name {name : String} (h : MadeOf nameChar name) :
    Reads (.fieldName none (.bare "")) (name.toList ++ [':']) []
      (.fieldType (.bare name) none (.bare "")) := by
  have hword := Reads.madeOf (fun text => .fieldName none (.bare text)) h
    fun before c hc => said_of_moves (.nameChar hc)
  exact hword.append (.silent rfl)

theorem reads_type (name : String) {guard? : Option UInt8} {text : String}
    (htext : MadeOf typeChar text) (hguard : guard? = none → ¬ guardStart <+: text.toList) :
    Reads (.fieldType (.bare name) guard? (.bare "")) text.toList []
      (.fieldType (.bare name) guard? (.bare text)) := by
  refine .wholeWord (fun before => .fieldType (.bare name) guard? (.bare before)) text ?_
  intro before c hbefore
  have hc : typeChar c = true := htext c (hbefore.subset (by simp))
  refine said_of_moves (.typeChar hc fun hdot hnone hflags => ?_)
  -- the dot after `flags` would make the whole type start like a guard
  have hlist : before = flagsName.toList := by simpa using congrArg String.toList hflags
  rw [hdot, hlist] at hbefore
  exact hguard hnone hbefore

theorem reads_guard (name : String) {bit : UInt8} (h : InWord bit) :
    Reads (.fieldType (.bare name) none (.bare ""))
      (flagsName.toList ++ ['.'] ++ (toString bit.toNat).toList ++ ['?']) []
      (.fieldType (.bare name) (some bit) (.bare "")) := by
  have hflags : Reads (.fieldType (.bare name) none (.bare "")) flagsName.toList []
      (.fieldType (.bare name) none (.bare flagsName)) :=
    reads_type name (by decide) fun _ => by decide
  have hdot : Reads (.fieldType (.bare name) none (.bare flagsName)) ['.'] []
      (.flagIndex (.bare name) (.bare "")) := .silent rfl
  have hmade : MadeOf Char.isDigit (toString bit.toNat) := by
    intro c hc
    rw [Nat.toString_eq_repr, Nat.toList_repr] at hc
    exact Nat.isDigit_of_mem_toDigits (by decide) (Nat.le_refl 10) hc
  have hdigits := Reads.madeOf (fun text => .flagIndex (.bare name) (.bare text)) hmade
    fun before c hc => said_of_moves (.guardDigit hc)
  have hmark : Moves .first '?' (.flagIndex (.bare name) (.bare (toString bit.toNat)))
      (.fieldType (.bare name) (some bit) (.bare "")) none := .guardEnd rfl (flagBit?_toString h)
  exact ((hflags.append hdot).append hdigits).append (.silent (said_of_moves hmark))

theorem typeOf_literal {type : ValueType} (h : type.Readable) :
    typeOf (.bare type.literal) = .ok type := by
  rw [typeOf, ValueType.parse_literal h]
  rfl

end ScanState

/-! ## Definitions -/

/-- What the token of a field says. -/
def Field.kind (field : Field) : TokenKind :=
  (ScanState.fieldToken (.bare field.name) field.flagBit? field.type).kind

theorem Field.field?_kind (field : Field) : field.kind.field? = some field := by
  obtain ⟨name, type, flagBit?⟩ := field
  cases flagBit? <;> rfl

/-- What the tokens of a printed definition say. -/
def Definition.kinds (definition : Definition) : List TokenKind :=
  [.classDecl definition.key, .constructorId (Text.hexDigits definition.constructorId.toNat)]
    ++ definition.fields.map Field.kind ++ [.returnType definition.returnType]

namespace ScanState

theorem reads_field {field : Field} (h : field.Spelled) (hbit : field.GuardInWord) :
    Reads (.fieldName none (.bare "")) (field.text ++ " ").toList [field.kind]
      (.fieldName none (.bare "")) := by
  obtain ⟨name, type, flagBit?⟩ := field
  have hname : Reads (.fieldName none (.bare "")) (name.toList ++ [':']) []
      (.fieldType (.bare name) none (.bare "")) := reads_name h.name
  have htype : Reads (.fieldType (.bare name) flagBit? (.bare "")) type.literal.toList []
      (.fieldType (.bare name) flagBit? (.bare type.literal)) := reads_type name h.type h.unguarded
  have hspace : Reads (.fieldType (.bare name) flagBit? (.bare type.literal)) [' ']
      [Field.kind ⟨name, type, flagBit?⟩] (.fieldName none (.bare "")) :=
    .completes (said_of_moves (.typeEnd rfl (typeOf_literal h.readable)))
  cases flagBit? with
  | none =>
    have htext : (Field.text ⟨name, type, none⟩ ++ " ").toList =
        name.toList ++ [':'] ++ type.literal.toList ++ [' '] := by
      simp [Field.text]
    rw [htext]
    exact (hname.append htype).append hspace
  | some bit =>
    have htext : (Field.text ⟨name, type, some bit⟩ ++ " ").toList =
        name.toList ++ [':'] ++ (flagsName.toList ++ ['.'] ++ (toString bit.toNat).toList ++ ['?'])
          ++ type.literal.toList ++ [' '] := by
      simp [Field.text]
    rw [htext]
    exact ((hname.append (reads_guard name (hbit bit rfl))).append htype).append hspace

theorem reads_fields {fields : List Field}
    (h : ∀ field ∈ fields, field.Spelled ∧ field.GuardInWord) :
    Reads (.fieldName none (.bare "")) (fields.flatMap fun field => (field.text ++ " ").toList)
      (fields.map Field.kind) (.fieldName none (.bare "")) := by
  induction fields with
  | nil => exact .nil _
  | cons field fields ih =>
    obtain ⟨hfield, hfields⟩ := List.forall_mem_cons.mp h
    exact (reads_field hfield.1 hfield.2).append (ih hfields)

theorem reads_return {type : ValueType} (h : type.Readable) (htype : MadeOf keyChar type.literal) :
    Reads (.fieldName none (.bare "")) (['=', ' '] ++ type.literal.toList ++ [';'])
      [.returnType type] .start := by
  have hequals : Reads (.fieldName none (.bare "")) ['=', ' '] [] (.returnClause none (.bare "")) :=
    (Reads.silent rfl).append (.silent rfl)
  have hword := Reads.madeOf (fun text => .returnClause none (.bare text)) htype
    fun before c hc => said_of_moves (.returnChar hc)
  have hend : Reads (.returnClause none (.bare type.literal)) [';'] [.returnType type] .start :=
    .completes (said_of_moves (.returnEnd rfl (typeOf_literal h)))
  exact (hequals.append hword).append hend

theorem reads_definition {definition : Definition} (h : definition.Spelled)
    (hbits : ∀ field ∈ definition.fields, field.GuardInWord) :
    Reads .start definition.text.toList definition.kinds .start := by
  have htext : definition.text.toList =
      definition.key.toList ++ ['#']
        ++ ((Text.hexDigits definition.constructorId.toNat).toList ++ [' '])
        ++ (definition.fields.flatMap fun field => (field.text ++ " ").toList)
        ++ (['=', ' '] ++ definition.returnType.literal.toList ++ [';']) := by
    simp [Definition.text, String.toList_join, List.flatMap_map]
  rw [htext]
  exact (((reads_key h.key).append (reads_number _)).append
    (reads_fields fun field hfield => ⟨h.fields field hfield, hbits field hfield⟩)).append
    (reads_return h.readable h.returnType)

theorem reads_definitions {definitions : List Definition}
    (h : ∀ definition ∈ definitions, Reads .start definition.text.toList definition.kinds .start) :
    Reads .start (['\n'].intercalate (definitions.map fun definition => definition.text.toList))
      (definitions.flatMap Definition.kinds) .start := by
  induction definitions with
  | nil => exact .nil _
  | cons definition rest ih =>
    obtain ⟨hdefinition, hrest⟩ := List.forall_mem_cons.mp h
    cases rest with
    | nil => simpa using hdefinition
    | cons next rest =>
      have hnewline : Reads .start ['\n'] [] .start := .silent rfl
      rw [List.map_cons, List.map_cons, List.intercalate_cons_cons, List.flatMap_cons]
      have hread := (hdefinition.append hnewline).append (ih hrest)
      rwa [List.append_nil] at hread

end ScanState

/-! ## Schemas -/

/-- The definition apart from where it stands. -/
def Definition.unplaced (definition : Definition) : Definition := { definition with pos := .first }

theorem Block.of_kinds {block : List Token} {definition : Definition}
    (h : block.map (·.kind) = definition.kinds) :
    ∃ other, Block block other ∧ other.unplaced = definition.unplaced := by
  obtain ⟨front, back, rfl, hfront, hback⟩ := List.map_eq_append_iff.mp h
  obtain ⟨head, middle, rfl, hhead, hmiddle⟩ := List.map_eq_append_iff.mp hfront
  obtain ⟨⟨_, pos⟩, _, rfl, hkey, hhead⟩ := List.map_eq_cons_iff.mp hhead
  obtain ⟨⟨_, idPos⟩, _, rfl, hid, hhead⟩ := List.map_eq_cons_iff.mp hhead
  obtain ⟨⟨_, typePos⟩, _, rfl, htype, hback⟩ := List.map_eq_cons_iff.mp hback
  rw [List.map_eq_nil_iff] at hhead hback
  subst hhead hback
  cases hkey
  cases hid
  cases htype
  have hfields : DeclareFields middle definition.fields := by
    have hkinds := congrArg (List.map TokenKind.field?) hmiddle
    simpa [DeclareFields, Field.field?_kind, Function.comp_def] using hkinds
  have hnumber := Text.hexWord?_hexDigits definition.constructorId
  exact ⟨_, .intro pos idPos typePos hnumber hfields, rfl⟩

/-- Tokens that say what the printed definitions say are the blocks of these definitions, which may
stand elsewhere. -/
theorem Blocks.of_kinds {tokens : List Token} {definitions : List Definition}
    (h : tokens.map (·.kind) = definitions.flatMap Definition.kinds) :
    ∃ others, Blocks tokens others ∧
      others.map Definition.unplaced = definitions.map Definition.unplaced := by
  induction definitions generalizing tokens with
  | nil =>
    rw [List.flatMap_nil, List.map_eq_nil_iff] at h
    subst h
    exact ⟨[], .nil, rfl⟩
  | cons definition definitions ih =>
    rw [List.flatMap_cons] at h
    obtain ⟨block, rest, rfl, hblock, hrest⟩ := List.map_eq_append_iff.mp h
    obtain ⟨other, hother, heq⟩ := Block.of_kinds hblock
    obtain ⟨others, hothers, heqs⟩ := ih hrest
    exact ⟨other :: others, hother.blocks.append hothers, by rw [List.map_cons, heq, heqs]; rfl⟩

namespace Schema

/-- Families do not depend on where the definitions stand. -/
theorem families_unplaced (definitions : List Definition) :
    (ofDefinitions definitions).families =
      (ofDefinitions (definitions.map Definition.unplaced)).families := by
  change definitions.foldl Families.add {} = (definitions.map _).foldl Families.add {}
  rw [List.foldl_map]
  rfl

theorem exists_tokensOf_text {definitions : List Definition}
    (h : ∀ definition ∈ definitions, definition.Spelled)
    (hbits : ∀ definition ∈ definitions, ∀ field ∈ definition.fields, field.GuardInWord) :
    ∃ printed, tokensOf (ofDefinitions definitions).text = .ok printed ∧
      printed.map (·.kind) = definitions.flatMap Definition.kinds := by
  have hreads := ScanState.reads_definitions fun definition hd =>
    ScanState.reads_definition (h definition hd) (hbits definition hd)
  have htext : (ofDefinitions definitions).text.toList =
      ['\n'].intercalate (definitions.map fun definition => definition.text.toList) := by
    simp [text, ofDefinitions, String.toList_intercalate, Function.comp_def]
  rw [← htext] at hreads
  have hstart : ({} : Scan).state.unplaced = .start := rfl
  obtain ⟨scan, hrun, hstate, htokens⟩ := hreads.run hstart
  have hfinish : scan.finish = .ok scan.tokens.toList := by
    obtain ⟨state, here, tokens⟩ := scan
    cases state <;> cases hstate
    rfl
  exact ⟨scan.tokens.toList, bind_eq_ok.mpr ⟨scan, hrun, hfinish⟩, htokens⟩

/-- A schema that was read from a text is read again from its canonical text: the definitions are
the same apart from where they stand, and so are the families. -/
theorem text_reads_back {source : String} {tokens : List Token} {schema : Schema}
    (htokens : tokensOf source = .ok tokens) (hschema : ofTokens tokens = .ok schema) :
    ∃ printed again, tokensOf schema.text = .ok printed ∧ ofTokens printed = .ok again ∧
      again.definitions.map Definition.unplaced = schema.definitions.map Definition.unplaced ∧
      again.families = schema.families := by
  have hguards := (ofTokens_spec hschema (Source.tokens_guardInWord htokens)).2
  obtain ⟨definitions, hblocks, rfl⟩ := ofTokens_eq_ok_iff.mp hschema
  have hspelled : ∀ definition ∈ definitions, definition.Spelled := by
    intro definition hd
    obtain ⟨block, hblock, hsub⟩ := hblocks.exists_block hd
    exact hblock.spelled fun token htoken => Source.tokens_spelled htokens token (hsub htoken)
  obtain ⟨printed, hprinted, hkinds⟩ := exists_tokensOf_text hspelled hguards
  obtain ⟨others, hothers, heq⟩ := Blocks.of_kinds hkinds
  refine ⟨printed, ofDefinitions others, hprinted, ofTokens_eq_ok_iff.mpr ⟨others, hothers, rfl⟩,
    heq, ?_⟩
  rw [families_unplaced others, families_unplaced definitions, heq]

end Schema

namespace OddSpelling

/-- A guard of the flags themselves, which goes to the next field; a type that starts like a guard;
spaces inside words; a key with a slash, a field without a name and types in capitals. -/
def source : String :=
  "// odd\n/a.b#00FF flags:flags.3?# x y:flags.z w:Vectorfoo<INT> = a. B;c#1 :string = LONG; // end"

def schema : Schema := .ofDefinitions
  [⟨"/a.b", 255, [⟨"flags", .int32, none⟩, ⟨"xy", .named "flags.z", some 3⟩,
      ⟨"w", .vector .int32, none⟩], .named "a.B", ⟨2, 1⟩⟩,
    ⟨"c", 1, [⟨"", .string, none⟩], .int64, ⟨2, 63⟩⟩]

theorem odd_text_reads_back :
    schema.text = "/a.b#ff flags:int xy:flags.3?flags.z w:Vector<int> = a.B;\nc#1 :string = long;" ∧
      ∃ tokens printed again, tokensOf source = .ok tokens ∧ Schema.ofTokens tokens = .ok schema ∧
        tokensOf schema.text = .ok printed ∧ Schema.ofTokens printed = .ok again ∧
        again.definitions.map Definition.unplaced = schema.definitions.map Definition.unplaced ∧
        again.families = schema.families := by
  have hread : (tokensOf source >>= Schema.ofTokens) = .ok schema := by decide +kernel
  obtain ⟨tokens, htokens, hschema⟩ := bind_eq_ok.mp hread
  obtain ⟨printed, again, hprinted⟩ := Schema.text_reads_back htokens hschema
  exact ⟨by decide +kernel, tokens, printed, again, htokens, hschema, hprinted⟩

end OddSpelling

end TlSchema
