import TlSchema.Proofs.Numerals
import TlSchema.Proofs.Spelling

/-!
# Blocks that are scanned

The scanner completes the tokens of a definition in the order in which assembling takes them: what
has been completed since the last return type depends on its state. Assembling the tokens of a text
can therefore fail in one way only, at a number that is no 32-bit word.
-/

namespace TlSchema

open Results

/-! ## The shape of blocks -/

/-- The tokens begin a definition: its key, its number, whatever its digits, and fields. -/
def Begun (tokens : List Token) : Prop :=
  ∃ key digits pos idPos fieldTokens,
    tokens = ⟨.classDecl key, pos⟩ :: ⟨.constructorId digits, idPos⟩ :: fieldTokens ∧
      ∀ token ∈ fieldTokens, token.kind.field?.isSome

/-- The tokens have the shape of a definition: its return type ends it. -/
def Shaped (tokens : List Token) : Prop :=
  ∃ begun type pos, tokens = begun ++ [⟨.returnType type, pos⟩] ∧ Begun begun

theorem Begun.addField {tokens : List Token} (h : Begun tokens) {token : Token}
    (hfield : token.kind.field?.isSome) : Begun (tokens ++ [token]) := by
  obtain ⟨key, digits, pos, idPos, fieldTokens, rfl, hfields⟩ := h
  refine ⟨key, digits, pos, idPos, fieldTokens ++ [token], rfl, fun other hother => ?_⟩
  rcases List.mem_append.mp hother with hother | hother
  · exact hfields other hother
  · rw [List.mem_singleton.mp hother]
    exact hfield

/-- The tokens are blocks of this shape, one after the other. -/
def ShapedBlocks (tokens : List Token) : Prop :=
  ∃ blocks : List (List Token), tokens = blocks.flatten ∧ ∀ block ∈ blocks, Shaped block

theorem ShapedBlocks.concat {tokens block : List Token} (h : ShapedBlocks tokens)
    (hblock : Shaped block) : ShapedBlocks (tokens ++ block) := by
  obtain ⟨blocks, rfl, hblocks⟩ := h
  refine ⟨blocks ++ [block], by simp, fun other hother => ?_⟩
  rcases List.mem_append.mp hother with hother | hother
  · exact hblocks other hother
  · rw [List.mem_singleton.mp hother]
    exact hblock

/-! ## The scanner and the blocks -/

namespace ScanState

/-- The tokens of the definition that is being read, as far as they are completed. -/
def Opened (tokens : List Token) : ScanState → Prop
  | .start | .slash _ | .comment | .className _ => tokens = []
  | .constructorId _ => ∃ key pos, tokens = [⟨.classDecl key, pos⟩]
  | .fieldName _ _ | .fieldType _ _ _ | .flagIndex _ _ | .returnClause _ _ => Begun tokens

theorem field?_fieldToken (name : Word) (guard? : Option UInt8) (type : ValueType) :
    (fieldToken name guard? type).kind.field? = some ⟨name.text, type, guard?⟩ := by
  cases guard? <;> rfl

/-- A token that is completed goes on with the open definition, or it is the return type, which ends
the definition. -/
theorem Moves.opened {here : Position} {c : Char} {state state' : ScanState} {token? : Option Token}
    (h : Moves here c state state' token?) {present : List Token} (hp : state.Opened present) :
    state'.Opened (present ++ token?.toList) ∨
      (state' = .start ∧ Shaped (present ++ token?.toList)) := by
  cases h with
  | @slashEnd word | @keyEnd word =>
    left
    have hnil : present = [] := hp
    subst hnil
    exact ⟨word.text, word.start, rfl⟩
  | @numberEnd word =>
    left
    obtain ⟨key, pos, rfl⟩ := hp
    exact ⟨key, word.text, pos, word.start, [], rfl, by simp⟩
  | typeEnd =>
    left
    exact Begun.addField hp (by rw [field?_fieldToken]; rfl)
  | flagsMarker =>
    left
    exact Begun.addField hp rfl
  | @returnEnd _ word type =>
    right
    exact ⟨rfl, present, type, word.start, rfl, hp⟩
  | _ =>
    left
    rw [Option.toList_none, List.append_nil]
    exact hp

end ScanState

/-- The tokens that a scan has completed are blocks, and then those of the definition that is being
read. -/
def Scan.InBlocks (scan : Scan) : Prop :=
  ∃ past present, scan.tokens.toList = past ++ present ∧ ShapedBlocks past ∧
    scan.state.Opened present

theorem Scan.InBlocks.step {scan scan' : Scan} {c : Char} (h : scan.step c = .ok scan')
    (hscan : scan.InBlocks) : scan'.InBlocks := by
  obtain ⟨past, present, htokens, hpast, hpresent⟩ := hscan
  obtain ⟨token?, hstate, htokens'⟩ := Scan.step_eq_ok h
  rw [htokens, List.append_assoc] at htokens'
  rcases (ScanState.step_eq_ok.mp hstate).opened hpresent with hopened | ⟨hstart, hshaped⟩
  · exact ⟨past, _, htokens', hpast, hopened⟩
  · refine ⟨past ++ (present ++ token?.toList), [], ?_, hpast.concat hshaped, ?_⟩
    · rw [htokens', List.append_nil]
    · rw [hstart]
      rfl

theorem Source.tokens_shaped {source : Source} {tokens : List Token}
    (h : source.tokens = .ok tokens) : ShapedBlocks tokens := by
  obtain ⟨scan, hrun, hstate, rfl⟩ := Source.tokens_eq_ok h
  have hstart : Scan.InBlocks {} := ⟨[], [], rfl, ⟨[], rfl, by simp⟩, rfl⟩
  obtain ⟨past, present, htokens, hpast, hpresent⟩ : scan.InBlocks :=
    foldlM_invariant Scan.InBlocks hrun hstart fun _ _ _ _ hstep hscan => hscan.step hstep
  -- a scan ends where no definition is open
  have hnil : present = [] := by
    rcases hstate with hstate | hstate <;> rw [hstate] at hpresent <;> exact hpresent
  rw [htokens, hnil, List.append_nil]
  exact hpast

/-! ## Numbers -/

/-- Whether the token says a number that is no 32-bit word: there are no digits, or their number is
too large. -/
def Token.lacksWord (token : Token) : Bool :=
  match token.kind with
  | .constructorId digits => digits = "" || UInt32.size ≤ Text.hexValue digits
  | _ => false

theorem Token.lacksWord_eq_false {token : Token} (h : token.kind.field?.isSome) :
    token.lacksWord = false := by
  obtain ⟨kind, pos⟩ := token
  cases kind with
  | constructorId digits => cases h
  | _ => rfl

theorem Token.lacksWord_eq {digits : String} (h : MadeOf ScanState.isHexDigit digits)
    (pos : Position) : Token.lacksWord ⟨.constructorId digits, pos⟩ = (Text.hexWord? digits).isNone := by
  rw [Bool.eq_iff_iff, Option.isNone_iff_eq_none, Text.hexWord?_eq_none_iff h]
  simp [Token.lacksWord]

/-! ## Assembling -/

theorem exists_declareFields {tokens : List Token}
    (h : ∀ token ∈ tokens, token.kind.field?.isSome) : ∃ fields, DeclareFields tokens fields := by
  induction tokens with
  | nil => exact ⟨[], rfl⟩
  | cons token tokens ih =>
    obtain ⟨htoken, htokens⟩ := List.forall_mem_cons.mp h
    obtain ⟨field, hfield⟩ := Option.isSome_iff_exists.mp htoken
    obtain ⟨fields, hfields⟩ := ih htokens
    refine ⟨field :: fields, ?_⟩
    rw [DeclareFields, List.map_cons, List.map_cons, hfield, hfields]

/-- The number decides whether tokens of the right shape are the block of a definition. -/
theorem Shaped.block_or_lacksWord {block : List Token} (h : Shaped block)
    (hspelled : ∀ token ∈ block, token.kind.Spelled) :
    (block.find? Token.lacksWord = none ∧ ∃ definition, Block block definition) ∨
      ∃ digits pos, block.find? Token.lacksWord = some ⟨.constructorId digits, pos⟩ ∧
        ∀ closed, block.foldlM Assembly.step ⟨closed, none⟩
          = .error (.parse (.constructorId digits) pos) := by
  obtain ⟨_, type, typePos, rfl, key, digits, pos, idPos, fieldTokens, rfl, hfields⟩ := h
  have hdigits : MadeOf ScanState.isHexDigit digits :=
    hspelled ⟨.constructorId digits, idPos⟩ (by simp)
  have hkey : Token.lacksWord ⟨.classDecl key, pos⟩ = false := rfl
  have hnumber := Token.lacksWord_eq hdigits idPos
  cases hword : Text.hexWord? digits with
  | none =>
    right
    rw [hword] at hnumber
    refine ⟨digits, idPos, by simp [hkey, hnumber], fun closed => ?_⟩
    have hfails : Assembly.step ⟨closed, some { key, pos }⟩ ⟨.constructorId digits, idPos⟩
        = .error (.parse (.constructorId digits) idPos) := by
      simp only [Assembly.step, Assembly.identify, hword]
    rw [List.cons_append, List.foldlM_cons, Assembly.step_eq_ok.mpr (.declare key pos)]
    show (Assembly.step ⟨closed, some { key, pos }⟩ ⟨.constructorId digits, idPos⟩ >>= _) = _
    rw [hfails]
    rfl
  | some id =>
    left
    rw [hword] at hnumber
    obtain ⟨fields, hdeclare⟩ := exists_declareFields hfields
    refine ⟨?_, _, Block.intro pos idPos typePos hword hdeclare⟩
    have hrest : List.find? Token.lacksWord (fieldTokens ++ [⟨.returnType type, typePos⟩])
        = none := by
      rw [List.find?_eq_none]
      intro token htoken
      rcases List.mem_append.mp htoken with htoken | htoken
      · simp [Token.lacksWord_eq_false (hfields token htoken)]
      · rw [List.mem_singleton.mp htoken]
        simp [Token.lacksWord]
    simp only [List.cons_append, List.find?_cons, hkey, hnumber, Option.isNone_some, hrest]

/-- Assembling blocks of the right shape fails at the first number that is no word, and there only. -/
theorem foldlM_shaped {blocks : List (List Token)} (h : ∀ block ∈ blocks, Shaped block)
    (hspelled : ∀ token ∈ blocks.flatten, token.kind.Spelled) (closed : Array Definition) :
    (blocks.flatten.find? Token.lacksWord = none ∧
        ∃ definitions, blocks.flatten.foldlM Assembly.step ⟨closed, none⟩
          = .ok ⟨definitions, none⟩) ∨
      ∃ digits pos, blocks.flatten.find? Token.lacksWord = some ⟨.constructorId digits, pos⟩ ∧
        blocks.flatten.foldlM Assembly.step ⟨closed, none⟩
          = .error (.parse (.constructorId digits) pos) := by
  induction blocks generalizing closed with
  | nil => exact Or.inl ⟨rfl, closed, rfl⟩
  | cons block blocks ih =>
    obtain ⟨hblock, hblocks⟩ := List.forall_mem_cons.mp h
    rw [List.flatten_cons, List.forall_mem_append] at hspelled
    rw [List.flatten_cons, List.find?_append, List.foldlM_append]
    rcases hblock.block_or_lacksWord hspelled.1 with ⟨hnone, definition, hdef⟩ | hlacks
    · rw [hnone, Assembly.foldlM_block hdef]
      exact ih hblocks hspelled.2 (closed.push definition)
    · obtain ⟨digits, pos, hfind, hfails⟩ := hlacks
      right
      refine ⟨digits, pos, by rw [hfind]; rfl, ?_⟩
      rw [hfails]
      rfl

theorem ShapedBlocks.ofTokens_eq_error_iff {tokens : List Token} (h : ShapedBlocks tokens)
    (hspelled : ∀ token ∈ tokens, token.kind.Spelled) (error : SchemaError) :
    Schema.ofTokens tokens = .error error ↔
      ∃ digits pos, tokens.find? Token.lacksWord = some ⟨.constructorId digits, pos⟩ ∧
        error = .parse (.constructorId digits) pos := by
  obtain ⟨blocks, rfl, hblocks⟩ := h
  unfold Schema.ofTokens
  rcases foldlM_shaped hblocks hspelled #[] with ⟨hnone, definitions, hrun⟩ | hlacks
  · rw [hrun, hnone]
    constructor
    · intro herror
      cases herror
    · rintro ⟨digits, pos, hsome, -⟩
      cases hsome
  · obtain ⟨digits, pos, hfind, hrun⟩ := hlacks
    rw [hrun, hfind]
    constructor
    · intro herror
      cases herror
      exact ⟨digits, pos, rfl, rfl⟩
    · rintro ⟨digits', pos', hsome, rfl⟩
      cases hsome
      rfl

theorem TokenKind.Spelled.ne_vector {type element : ValueType}
    (h : (TokenKind.returnType type).Spelled) : type ≠ .vector element := by
  rintro rfl
  have hbracket : keyChar '<' = true := by
    apply h.2
    rw [ValueType.toList_literal_vector]
    simp
  exact absurd hbracket (by decide)

/-- The tokens of a text are blocks of a key, a number, fields and a return type, which is no
vector, and guards are bits of a word. Assembling them fails exactly if some number is no 32-bit
word, at the first such number; there is never a token out of place or a definition without a return
type. -/
theorem tokensOf_in_blocks {text : String} {tokens : List Token} (h : tokensOf text = .ok tokens) :
    (∃ blocks : List (List Token), tokens = blocks.flatten ∧ ∀ block ∈ blocks, Shaped block) ∧
      (∀ token ∈ tokens, ∀ name type bit, token.kind = .flagField name type bit →
        bit.toNat ≤ 31) ∧
      (∀ token ∈ tokens, ∀ element, token.kind ≠ .returnType (.vector element)) ∧
      (∀ error, Schema.ofTokens tokens = .error error ↔
        ∃ digits pos, tokens.find? Token.lacksWord = some ⟨.constructorId digits, pos⟩ ∧
          error = .parse (.constructorId digits) pos) ∧
      (∀ digits, (ParseCause.constructorId digits).message
        = "Invalid constructor id " ++ Json.quote digits) ∧
      (∀ kind pos, Schema.ofTokens tokens ≠ .error (.parse (.unexpectedToken kind) pos)) ∧
      ∀ key pos, Schema.ofTokens tokens ≠ .error (.parse (.noReturnType key) pos) := by
  have hshaped := Source.tokens_shaped h
  have hspelled := Source.tokens_spelled h
  have hfails := hshaped.ofTokens_eq_error_iff hspelled
  refine ⟨hshaped, fun token htoken => Source.tokens_guardInWord h token htoken, ?_, hfails,
    fun _ => rfl, ?_, ?_⟩
  · intro token htoken element hkind
    have hreturn := hspelled token htoken
    rw [hkind] at hreturn
    exact hreturn.ne_vector rfl
  · intro kind pos herror
    obtain ⟨_, _, -, hcause⟩ := (hfails _).mp herror
    cases hcause
  · intro key pos herror
    obtain ⟨_, _, -, hcause⟩ := (hfails _).mp herror
    cases hcause

namespace MissingNumber

/-- The largest word, no number at all and the first number that is too large. -/
def source : String :=
  "a.b#ffffffff flags:# x:flags.31?int = a.B; // two\nc.d# = long;e#100000000 = f;"

def tokens : List Token :=
  [⟨.classDecl "a.b", ⟨1, 1⟩⟩, ⟨.constructorId "ffffffff", ⟨1, 5⟩⟩, ⟨.flagsMarker, ⟨1, 14⟩⟩,
    ⟨.flagField "x" .int32 31, ⟨1, 22⟩⟩, ⟨.returnType (.named "a.B"), ⟨1, 39⟩⟩,
    ⟨.classDecl "c.d", ⟨2, 1⟩⟩, ⟨.constructorId "", ⟨2, 1⟩⟩, ⟨.returnType .int64, ⟨2, 8⟩⟩,
    ⟨.classDecl "e", ⟨2, 13⟩⟩, ⟨.constructorId "100000000", ⟨2, 15⟩⟩,
    ⟨.returnType (.named "f"), ⟨2, 27⟩⟩]

theorem tokensOf_source : tokensOf source = .ok tokens := by decide +kernel

theorem in_blocks_to_first_missing :
    tokensOf source = .ok tokens ∧
      (∃ blocks : List (List Token), tokens = blocks.flatten ∧ ∀ block ∈ blocks, Shaped block) ∧
      tokens.filter Token.lacksWord
        = [⟨.constructorId "", ⟨2, 1⟩⟩, ⟨.constructorId "100000000", ⟨2, 15⟩⟩] ∧
      Schema.ofTokens tokens = .error (.parse (.constructorId "") ⟨2, 1⟩) := by
  obtain ⟨hblocks, -, -, hfails, -⟩ := tokensOf_in_blocks tokensOf_source
  have hfind : tokens.find? Token.lacksWord = some ⟨.constructorId "", ⟨2, 1⟩⟩ := by decide +kernel
  exact ⟨tokensOf_source, hblocks, by decide +kernel, (hfails _).mpr ⟨"", ⟨2, 1⟩, hfind, rfl⟩⟩

end MissingNumber

end TlSchema
