import Mathlib.Data.List.Forall2
import TlSchema.Proofs.Results
import TlSchema.Schema.Assembly

/-!
# Blocks of tokens

The grammar of token sequences: a definition is a block of a key, the number of its constructor, its
fields and its return type, and a schema is a sequence of such blocks. Assembling accepts exactly
these sequences and gives one definition for each block.
-/

namespace TlSchema

open Results

/-! ## The grammar -/

/-- The field that a token declares. -/
def TokenKind.field? : TokenKind → Option Field
  | .flagsMarker => some ⟨flagsName, .int32, none⟩
  | .field name type => some ⟨name, type, none⟩
  | .flagField name type bit => some ⟨name, type, some bit⟩
  | _ => none

/-- The tokens declare these fields, one each. -/
def DeclareFields (tokens : List Token) (fields : List Field) : Prop :=
  tokens.map (·.kind.field?) = fields.map some

/-- The tokens that a definition consists of. -/
inductive Block : List Token → Definition → Prop
  | intro {key digits : String} {id : UInt32} {fieldTokens : List Token} {fields : List Field}
      {type : ValueType} (pos idPos typePos : Position) (hid : Text.hexWord? digits = some id)
      (hfields : DeclareFields fieldTokens fields) :
      Block (⟨.classDecl key, pos⟩ :: ⟨.constructorId digits, idPos⟩ ::
        (fieldTokens ++ [⟨.returnType type, typePos⟩])) ⟨key, id, fields, type, pos⟩

/-- The tokens are the blocks of these definitions, one after the other. -/
def Blocks (tokens : List Token) (definitions : List Definition) : Prop :=
  ∃ blocks, List.Forall₂ Block blocks definitions ∧ tokens = blocks.flatten

theorem Blocks.nil : Blocks [] [] := ⟨[], .nil, rfl⟩

theorem Blocks.append {tokens more : List Token} {definitions others : List Definition}
    (h : Blocks tokens definitions) (hmore : Blocks more others) :
    Blocks (tokens ++ more) (definitions ++ others) := by
  obtain ⟨blocks, hblocks, rfl⟩ := h
  obtain ⟨blocks', hblocks', rfl⟩ := hmore
  exact ⟨blocks ++ blocks', List.rel_append hblocks hblocks', List.flatten_append.symm⟩

theorem Block.blocks {block : List Token} {definition : Definition} (h : Block block definition) :
    Blocks block [definition] :=
  ⟨[block], .cons h .nil, by simp⟩

theorem Block.exists_token {block : List Token} {definition : Definition}
    (h : Block block definition) {field : Field} (hfield : field ∈ definition.fields) :
    ∃ token ∈ block, token.kind.field? = some field := by
  cases h with
  | intro pos idPos typePos hid hfields =>
    have hdeclared : some field ∈ List.map some _ := List.mem_map_of_mem hfield
    rw [← hfields] at hdeclared
    obtain ⟨token, htoken, hkind⟩ := List.mem_map.mp hdeclared
    exact ⟨token, by simp [htoken], hkind⟩

/-- The tokens of every definition are among all tokens. -/
theorem Blocks.exists_block {tokens : List Token} {definitions : List Definition}
    (h : Blocks tokens definitions) {definition : Definition} (hd : definition ∈ definitions) :
    ∃ block, Block block definition ∧ block ⊆ tokens := by
  obtain ⟨blocks, hblocks, rfl⟩ := h
  induction hblocks with
  | nil => cases hd
  | cons hblock _ ih =>
    rw [List.flatten_cons]
    rcases List.mem_cons.mp hd with rfl | hd
    · exact ⟨_, hblock, List.subset_append_left _ _⟩
    · obtain ⟨block, hb, hsub⟩ := ih hd
      exact ⟨block, hb, List.Subset.trans hsub (List.subset_append_right _ _)⟩

/-! ## One token -/

namespace Assembly

/-- The effect of a token that is taken in. -/
inductive Takes : Assembly → Token → Assembly → Prop
  | declare {closed : Array Definition} (key : String) (pos : Position) :
      Takes ⟨closed, none⟩ ⟨.classDecl key, pos⟩ ⟨closed, some { key, pos }⟩
  | identify {closed : Array Definition} {key digits : String} {id : UInt32} {fields : Array Field}
      {pos : Position} (idPos : Position) (hid : Text.hexWord? digits = some id) :
      Takes ⟨closed, some ⟨key, pos, none, fields⟩⟩ ⟨.constructorId digits, idPos⟩
        ⟨closed, some ⟨key, pos, some id, fields⟩⟩
  | addField {closed : Array Definition} {key : String} {id : UInt32} {fields : Array Field}
      {pos : Position} {token : Token} {field : Field} (hfield : token.kind.field? = some field) :
      Takes ⟨closed, some ⟨key, pos, some id, fields⟩⟩ token
        ⟨closed, some ⟨key, pos, some id, fields.push field⟩⟩
  | close {closed : Array Definition} {key : String} {id : UInt32} {fields : Array Field}
      {pos : Position} (type : ValueType) (typePos : Position) :
      Takes ⟨closed, some ⟨key, pos, some id, fields⟩⟩ ⟨.returnType type, typePos⟩
        ⟨closed.push ⟨key, id, fields.toList, type, pos⟩, none⟩

theorem takes_of_addField {assembly assembly' : Assembly} {token : Token} {field : Field}
    (h : assembly.addField token field = .ok assembly') (hfield : token.kind.field? = some field) :
    Takes assembly token assembly' := by
  obtain ⟨closed, open?⟩ := assembly
  unfold addField at h
  split at h
  · rename_i hopen
    cases hopen
    cases h
    exact .addField hfield
  · cases h

theorem takes_of_step {assembly assembly' : Assembly} {token : Token}
    (h : assembly.step token = .ok assembly') : Takes assembly token assembly' := by
  obtain ⟨closed, open?⟩ := assembly
  obtain ⟨kind, pos⟩ := token
  cases kind with
  | classDecl key =>
    cases open? with
    | none =>
      cases h
      exact .declare key pos
    | some definition => cases h
  | constructorId digits =>
    change identify _ _ digits = _ at h
    unfold identify at h
    split at h
    · rename_i hopen
      cases hopen
      split at h
      · rename_i id hid
        cases h
        exact .identify pos hid
      · cases h
    · cases h
  | flagsMarker => exact takes_of_addField h rfl
  | field name type => exact takes_of_addField h rfl
  | flagField name type bit => exact takes_of_addField h rfl
  | returnType type =>
    change close _ _ type = _ at h
    unfold close at h
    split at h
    · rename_i hopen
      cases hopen
      cases h
      exact .close type pos
    · cases h

theorem step_of_takes {assembly assembly' : Assembly} {token : Token}
    (h : Takes assembly token assembly') : assembly.step token = .ok assembly' := by
  cases h with
  | declare => rfl
  | identify _ hid => simp only [step, identify, hid]
  | @addField _ _ _ _ _ token field hfield =>
    obtain ⟨kind, pos⟩ := token
    cases kind <;> cases hfield <;> rfl
  | close => rfl

/-- A token is taken in exactly if it has an effect, which is unique. -/
theorem step_eq_ok {assembly assembly' : Assembly} {token : Token} :
    assembly.step token = .ok assembly' ↔ Takes assembly token assembly' :=
  ⟨takes_of_step, step_of_takes⟩

/-! ## All tokens -/

/-- The tokens of a definition that is open. -/
inductive Opened : List Token → Option OpenDefinition → Prop
  | nothing : Opened [] none
  | key (key : String) (pos : Position) : Opened [⟨.classDecl key, pos⟩] (some { key, pos })
  | fields {key digits : String} {id : UInt32} {fieldTokens : List Token} {fields : Array Field}
      (pos idPos : Position) (hid : Text.hexWord? digits = some id)
      (hfields : DeclareFields fieldTokens fields.toList) :
      Opened (⟨.classDecl key, pos⟩ :: ⟨.constructorId digits, idPos⟩ :: fieldTokens)
        (some ⟨key, pos, some id, fields⟩)

/-- The tokens seen so far are the blocks of the closed definitions, and then the tokens of the open
one. -/
def Accounts (seen : List Token) (assembly : Assembly) : Prop :=
  ∃ past present, seen = past ++ present ∧ Blocks past assembly.closed.toList ∧
    Opened present assembly.open?

theorem Takes.accounts {assembly assembly' : Assembly} {token : Token} {seen : List Token}
    (h : Takes assembly token assembly') (hseen : Accounts seen assembly) :
    Accounts (seen ++ [token]) assembly' := by
  obtain ⟨past, present, rfl, hpast, hpresent⟩ := hseen
  rw [List.append_assoc]
  cases h with
  | declare key pos =>
    cases hpresent
    exact ⟨past, _, rfl, hpast, .key key pos⟩
  | identify idPos hid =>
    cases hpresent with
    | key => exact ⟨past, _, rfl, hpast, .fields _ idPos hid rfl⟩
  | addField hfield =>
    cases hpresent with
    | fields _ idPos hid hfields =>
      refine ⟨past, _, rfl, hpast, .fields _ idPos hid ?_⟩
      simp_all [DeclareFields]
  | close type typePos =>
    cases hpresent with
    | fields _ idPos hid hfields =>
      -- the return type completes the block, and with it the open definition
      refine ⟨_, [], (List.append_nil _).symm, ?_, .nothing⟩
      rw [Array.toList_push]
      exact hpast.append (Block.intro _ idPos typePos hid hfields).blocks

theorem accounts_of_run {tokens : List Token} {assembly : Assembly}
    (h : tokens.foldlM step {} = .ok assembly) : Accounts tokens assembly :=
  foldlM_trace Accounts (fun _ _ _ _ hstep hseen => (takes_of_step hstep).accounts hseen) h
    ⟨[], [], rfl, .nil, .nothing⟩

/-- The fields of a block are added in order. -/
theorem foldlM_fields {tokens : List Token} {fields : List Field} (h : DeclareFields tokens fields)
    (closed : Array Definition) (key : String) (pos : Position) (id : UInt32)
    (before : Array Field) :
    tokens.foldlM step ⟨closed, some ⟨key, pos, some id, before⟩⟩ =
      .ok ⟨closed, some ⟨key, pos, some id, before ++ fields.toArray⟩⟩ := by
  induction tokens generalizing fields before with
  | nil =>
    cases fields with
    | nil => simp [pure, Except.pure]
    | cons field fields => cases h
  | cons token tokens ih =>
    cases fields with
    | nil => cases h
    | cons field fields =>
      obtain ⟨hfield, hrest⟩ := List.cons.inj h
      rw [List.foldlM_cons, step_eq_ok.mpr (.addField hfield)]
      refine (ih hrest (before.push field)).trans ?_
      simp

theorem foldlM_block {block : List Token} {definition : Definition} (h : Block block definition)
    (closed : Array Definition) :
    block.foldlM step ⟨closed, none⟩ = .ok ⟨closed.push definition, none⟩ := by
  cases h with
  | intro pos idPos typePos hid hfields =>
    rw [List.foldlM_cons, step_eq_ok.mpr (.declare _ pos)]
    refine bind_eq_ok.mpr ⟨_, rfl, ?_⟩
    rw [List.foldlM_cons, step_eq_ok.mpr (.identify idPos hid)]
    refine bind_eq_ok.mpr ⟨_, rfl, ?_⟩
    rw [List.foldlM_append, foldlM_fields hfields]
    refine bind_eq_ok.mpr ⟨_, rfl, ?_⟩
    rw [List.foldlM_cons, step_eq_ok.mpr (.close _ typePos)]
    simp [bind, Except.bind, pure, Except.pure]

theorem foldlM_blocks {tokens : List Token} {definitions : List Definition}
    (h : Blocks tokens definitions) (closed : Array Definition) :
    tokens.foldlM step ⟨closed, none⟩ = .ok ⟨closed ++ definitions.toArray, none⟩ := by
  obtain ⟨blocks, hblocks, rfl⟩ := h
  induction hblocks generalizing closed with
  | nil => simp [pure, Except.pure]
  | cons hblock _ ih =>
    rw [List.flatten_cons, List.foldlM_append, foldlM_block hblock]
    refine (ih (closed.push _)).trans ?_
    simp

end Assembly

/-- Assembling accepts the sequences of blocks, and gives the definition of each block. -/
theorem Schema.ofTokens_eq_ok_iff {tokens : List Token} {schema : Schema} :
    Schema.ofTokens tokens = .ok schema ↔
      ∃ definitions, Blocks tokens definitions ∧ schema = .ofDefinitions definitions := by
  constructor
  · intro h
    obtain ⟨assembly, hrun, hfinish⟩ := bind_eq_ok.mp h
    obtain ⟨past, present, hseen, hpast, hpresent⟩ := Assembly.accounts_of_run hrun
    obtain ⟨closed, open?⟩ := assembly
    cases open? with
    | some definition => cases hfinish
    | none =>
      cases hfinish
      cases hpresent
      rw [List.append_nil] at hseen
      exact ⟨closed.toList, hseen ▸ hpast, rfl⟩
  · rintro ⟨definitions, hblocks, rfl⟩
    refine bind_eq_ok.mpr ⟨_, Assembly.foldlM_blocks hblocks #[], ?_⟩
    simp [Assembly.finish]

end TlSchema
