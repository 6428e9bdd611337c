import TlSchema.Proofs.Blocks
import TlSchema.Proofs.Scanning

/-!
# Guards in texts

A guard that is read from a text is one of the thirty-two bits of a word. The scanner is the only
place that sees to it: a bit waits in its state from the guard up to the token of a field, and goes
with the field into a definition.
-/

namespace TlSchema

/-! ## Tokens -/

namespace Text

theorem readDigits_le {base limit : Nat} {cs : List Char} {value n : Nat}
    (h : readDigits base limit value cs = some n) (hv : value ≤ limit) : n ≤ limit := by
  induction cs generalizing value with
  | nil =>
    cases h
    exact hv
  | cons c cs ih =>
    rw [readDigits] at h
    split at h
    · split_ifs at h with hd
      exact ih h hd.2
    · cases h

theorem number?_le {base limit : Nat} {cs : List Char} {n : Nat}
    (h : number? base limit cs = some n) : n ≤ limit := by
  cases cs with
  | nil => cases h
  | cons c cs => exact readDigits_le h (Nat.zero_le limit)

end Text

/-- The bit is one of the flags that a word has. -/
def InWord (bit : UInt8) : Prop := bit.toNat ≤ maxFlagBit

/-- The token guards a field by a bit of a word, if it guards one. -/
def Token.GuardInWord (token : Token) : Prop :=
  ∀ name type bit, token.kind = .flagField name type bit → InWord bit

namespace ScanState

/-- The bit that waits for its field is a bit of a word. -/
def GuardInWord (state : ScanState) : Prop := ∀ bit, state.guard? = some bit → InWord bit

theorem guardInWord_of_none {state : ScanState} (h : state.guard? = none) : state.GuardInWord := by
  intro bit hb
  rw [h] at hb
  cases hb

theorem flagBit?_inWord {digits : String} {bit : UInt8} (h : flagBit? digits = some bit) :
    InWord bit := by
  obtain ⟨n, hn, rfl⟩ := Option.map_eq_some_iff.mp h
  have hle : n ≤ 31 := Text.number?_le hn
  show (UInt8.ofNat n).toNat ≤ 31
  rw [UInt8.toNat_ofNat']
  omega

theorem fieldToken_guardInWord {name : Word} {guard? : Option UInt8} {type : ValueType}
    (h : ∀ bit, guard? = some bit → InWord bit) : (fieldToken name guard? type).GuardInWord := by
  intro n t bit hk
  cases guard? with
  | none => cases hk
  | some b =>
    cases hk
    exact h bit rfl

/-- A bit waits from the index of a guard on. Every character keeps it, drops it or puts it into the
token of a field. -/
theorem Moves.guardInWord {here : Position} {c : Char} {state state' : ScanState}
    {token? : Option Token} (h : Moves here c state state' token?) (hs : state.GuardInWord) :
    state'.GuardInWord ∧ ∀ token, token? = some token → token.GuardInWord := by
  cases h with
  | nameChar | nameSpace | nameEnd | fieldsEnd | typeChar | returnChar | returnSpace =>
    exact ⟨hs, fun token ht => by cases ht⟩
  | flagsMarker =>
    refine ⟨hs, fun token ht => ?_⟩
    cases ht
    intro name type bit hkind
    cases hkind
  | typeEnd =>
    refine ⟨guardInWord_of_none rfl, fun token ht => ?_⟩
    cases ht
    exact fieldToken_guardInWord hs
  | guardEnd _ hbit =>
    refine ⟨fun bit hwaits => ?_, fun token ht => by cases ht⟩
    cases hwaits
    exact flagBit?_inWord hbit
  | slashEnd | keyEnd | numberEnd | returnEnd =>
    refine ⟨guardInWord_of_none rfl, fun token ht => ?_⟩
    cases ht
    intro name type bit hkind
    cases hkind
  | _ => exact ⟨guardInWord_of_none rfl, fun token ht => by cases ht⟩

end ScanState

/-- The tokens of a source guard fields by bits of a word only. -/
theorem Source.tokens_guardInWord {source : Source} {tokens : List Token}
    (h : source.tokens = .ok tokens) : ∀ token ∈ tokens, token.GuardInWord :=
  Source.tokens_forall ScanState.GuardInWord (ScanState.guardInWord_of_none rfl)
    ScanState.Moves.guardInWord h

/-! ## Definitions -/

/-- The guard of the field, if it has one, is a bit of a word. -/
def Field.GuardInWord (field : Field) : Prop := ∀ bit, field.flagBit? = some bit → InWord bit

theorem Token.GuardInWord.field {token : Token} (h : token.GuardInWord) {field : Field}
    (hfield : token.kind.field? = some field) : field.GuardInWord := by
  obtain ⟨kind, pos⟩ := token
  intro bit hbit
  cases kind <;> cases hfield <;> cases hbit
  exact h _ _ bit rfl

/-- The definitions of a schema guard fields by bits of a word if its tokens do, and the families of
the schema are those of its definitions. -/
theorem Schema.ofTokens_spec {tokens : List Token} {schema : Schema}
    (h : Schema.ofTokens tokens = .ok schema) (ht : ∀ token ∈ tokens, token.GuardInWord) :
    schema = .ofDefinitions schema.definitions ∧
      ∀ definition ∈ schema.definitions, ∀ field ∈ definition.fields, field.GuardInWord := by
  obtain ⟨definitions, hblocks, rfl⟩ := Schema.ofTokens_eq_ok_iff.mp h
  refine ⟨rfl, fun definition hd field hfield => ?_⟩
  obtain ⟨block, hblock, hsub⟩ := hblocks.exists_block hd
  obtain ⟨token, htoken, hkind⟩ := hblock.exists_token hfield
  exact (ht token (hsub htoken)).field hkind

end TlSchema
