import TlSchema.Proofs.Blocks

/-!
# Tokens that are refused

Tokens that are no sequence of blocks are refused where they stop being the beginning of one. The
refusal stands at the first token that no block can go on with, unless this token is a key: then it
is the definition before it that has not been closed, and the refusal stands at its key. It stands
there too if the tokens end before the definition does.
-/

namespace TlSchema

open Results

/-! ## Beginnings of blocks -/

/-- The tokens are blocks, or become blocks with some tokens more. -/
def Viable (tokens : List Token) : Prop :=
  ∃ more definitions, Blocks (tokens ++ more) definitions

/-- The tokens end inside the block of a definition with this key at this place: there are blocks
before it, its key has come, and something is missing. -/
def EndsInside (tokens : List Token) (key : String) (pos : Position) : Prop :=
  ∃ past definitions present more definition,
    tokens = past ++ ⟨.classDecl key, pos⟩ :: present ∧ Blocks past definitions ∧
      Block (⟨.classDecl key, pos⟩ :: (present ++ more)) definition ∧ more ≠ []

/-- Why a token cannot stand after the tokens before it. Only a number can follow a key, so a number
that is refused there has the wrong digits; any other token is out of place. -/
def misfit (seen : List Token) (token : Token) : ParseCause :=
  match seen.getLast?, token.kind with
  | some ⟨.classDecl _, _⟩, .constructorId digits => .constructorId digits
  | _, kind => .unexpectedToken kind

/-- The tokens are refused for this cause, and the refusal stands at this place. -/
inductive Refused (tokens : List Token) : ParseCause → Position → Prop
  /-- Some token is the first that no block can go on with, and it is no key. -/
  | misplaced {seen rest : List Token} {token : Token} (heq : tokens = seen ++ token :: rest)
      (hseen : Viable seen) (hnot : ¬ Viable (seen ++ [token]))
      (hkey : ∀ key, token.kind ≠ .classDecl key) : Refused tokens (misfit seen token) token.pos
  /-- A key comes before the definition that is being read has been closed. -/
  | reopened {seen rest : List Token} {key next : String} {pos nextPos : Position}
      (heq : tokens = seen ++ ⟨.classDecl next, nextPos⟩ :: rest)
      (hopen : EndsInside seen key pos) : Refused tokens (.noReturnType key) pos
  /-- The tokens end before the definition that is being read has been closed. -/
  | unfinished {key : String} {pos : Position} (hopen : EndsInside tokens key pos) :
      Refused tokens (.noReturnType key) pos

theorem DeclareFields.take {tokens more : List Token} {fields : List Field}
    (h : DeclareFields (tokens ++ more) fields) :
    ∃ first, DeclareFields tokens first := by
  unfold DeclareFields at h
  rw [List.map_append, eq_comm, List.map_eq_append_iff] at h
  obtain ⟨first, rest, -, hfirst, -⟩ := h
  exact ⟨first, hfirst.symm⟩

/-- What has come of a block that something is missing of: its key alone, or its number and some of
its fields as well. -/
theorem Block.cases_beginning {key : String} {pos : Position} {present more : List Token}
    {definition : Definition}
    (h : Block (⟨.classDecl key, pos⟩ :: (present ++ more)) definition) (hmore : more ≠ []) :
    present = [] ∨ ∃ digits id idPos fieldTokens fields,
      present = ⟨.constructorId digits, idPos⟩ :: fieldTokens ∧ Text.hexWord? digits = some id ∧
        DeclareFields fieldTokens fields := by
  generalize hblock : (⟨.classDecl key, pos⟩ :: (present ++ more) : List Token) = block at h
  cases h with
  | @intro _ digits id fieldTokens fields type _ idPos typePos hid hfields =>
    obtain ⟨-, hrest⟩ := List.cons.inj hblock
    cases present with
    | nil => exact Or.inl rfl
    | cons token present =>
      obtain ⟨rfl, htail⟩ := List.cons.inj hrest
      -- the last token of the block is missing, so only fields have come after the number
      obtain ⟨init, last, rfl⟩ := (List.eq_nil_or_concat' more).resolve_left hmore
      have hlast : present ++ init ++ [last] = fieldTokens ++ [⟨.returnType type, typePos⟩] := by
        rw [List.append_assoc]
        exact htail
      obtain rfl := List.append_inj_left' hlast rfl
      obtain ⟨first, hfirst⟩ := hfields.take
      exact Or.inr ⟨digits, id, idPos, present, first, rfl, hid, hfirst⟩

theorem Blocks.getLast_kind {tokens : List Token} {definitions : List Definition}
    (h : Blocks tokens definitions) {token : Token} (hlast : tokens.getLast? = some token) :
    ∃ type, token.kind = .returnType type := by
  obtain ⟨blocks, hblocks, rfl⟩ := h
  induction hblocks with
  | nil => cases hlast
  | @cons block definition blocks definitions hblock _ ih =>
    rw [List.flatten_cons, List.getLast?_append] at hlast
    cases hrest : blocks.flatten.getLast? with
    | some other =>
      rw [hrest] at hlast ih
      exact ih hlast
    | none =>
      rw [hrest] at hlast
      cases hblock with
      | intro pos idPos typePos hid hfields =>
        simp [List.getLast?_cons] at hlast
        exact ⟨_, by rw [← hlast]⟩

/-! ## Runs and beginnings -/

namespace Assembly

/-- An open definition has begun with its key, and more tokens can close it. -/
theorem Opened.exists_more {present : List Token} {definition : OpenDefinition}
    (h : Opened present (some definition)) :
    ∃ rest more closed, present = ⟨.classDecl definition.key, definition.pos⟩ :: rest ∧
      Block (⟨.classDecl definition.key, definition.pos⟩ :: (rest ++ more)) closed ∧ more ≠ [] := by
  cases h with
  | key key pos =>
    have hblock : Block (⟨.classDecl key, pos⟩ :: ⟨.constructorId "0", pos⟩ ::
        ([] ++ [⟨.returnType .int32, pos⟩])) ⟨key, 0, [], .int32, pos⟩ := .intro pos pos pos rfl rfl
    exact ⟨[], [⟨.constructorId "0", pos⟩, ⟨.returnType .int32, pos⟩], _, rfl, hblock, by simp⟩
  | fields pos idPos hid hfields =>
    exact ⟨_, [⟨.returnType .int32, pos⟩], _, rfl, .intro pos idPos pos hid hfields, by simp⟩

/-- The tokens begin blocks exactly if all of them are taken in. -/
theorem exists_run_iff {tokens : List Token} :
    (∃ assembly, tokens.foldlM step {} = .ok assembly) ↔ Viable tokens := by
  constructor
  · rintro ⟨assembly, hrun⟩
    obtain ⟨past, present, rfl, hpast, hpresent⟩ := accounts_of_run hrun
    obtain ⟨closed, open?⟩ := assembly
    cases open? with
    | none =>
      cases hpresent
      exact ⟨[], closed.toList, by simpa using hpast⟩
    | some definition =>
      obtain ⟨rest, more, last, rfl, hblock, -⟩ := hpresent.exists_more
      refine ⟨more, closed.toList ++ [last], ?_⟩
      rw [List.append_assoc]
      exact hpast.append hblock.blocks
  · rintro ⟨more, definitions, hblocks⟩
    have hrun := foldlM_blocks hblocks #[]
    rw [List.foldlM_append, bind_eq_ok] at hrun
    obtain ⟨assembly, hrun, -⟩ := hrun
    exact ⟨assembly, hrun⟩

/-- The tokens end inside a definition exactly if it is open after all of them. -/
theorem exists_open_iff {tokens : List Token} {key : String} {pos : Position} :
    (∃ closed definition, tokens.foldlM step {} = .ok ⟨closed, some definition⟩ ∧
      definition.key = key ∧ definition.pos = pos) ↔ EndsInside tokens key pos := by
  constructor
  · rintro ⟨closed, definition, hrun, rfl, rfl⟩
    obtain ⟨past, present, rfl, hpast, hpresent⟩ := accounts_of_run hrun
    obtain ⟨rest, more, last, rfl, hblock, hmore⟩ := hpresent.exists_more
    exact ⟨past, closed.toList, rest, more, last, rfl, hpast, hblock, hmore⟩
  · rintro ⟨past, definitions, present, more, definition, rfl, hpast, hblock, hmore⟩
    have hdeclare : (past ++ [(⟨.classDecl key, pos⟩ : Token)]).foldlM step {}
        = .ok ⟨#[] ++ definitions.toArray, some { key, pos }⟩ := by
      rw [List.foldlM_append]
      refine bind_eq_ok.mpr ⟨_, foldlM_blocks hpast #[], ?_⟩
      rw [List.foldlM_cons, step_eq_ok.mpr (.declare key pos)]
      rfl
    rw [List.append_cons, List.foldlM_append]
    rcases hblock.cases_beginning hmore with rfl | ⟨digits, id, idPos, tokens, fields, rfl, hid, h⟩
    · exact ⟨_, { key, pos }, bind_eq_ok.mpr ⟨_, hdeclare, rfl⟩, rfl, rfl⟩
    · have hfields := foldlM_fields h (#[] ++ definitions.toArray) key pos id #[]
      refine ⟨_, _, bind_eq_ok.mpr ⟨_, hdeclare, Eq.trans ?_ hfields⟩, rfl, rfl⟩
      rw [List.foldlM_cons, step_eq_ok.mpr (.identify idPos hid)]
      rfl

/-! ## One token that is refused -/

/-- After the number of a definition no key has come, nor after blocks. -/
theorem Accounts.getLast_ne_classDecl {seen : List Token} {assembly : Assembly}
    (h : Accounts seen assembly)
    (hopen : ∀ definition, assembly.open? = some definition → definition.constructorId? ≠ none)
    (key : String) (pos : Position) : seen.getLast? ≠ some ⟨.classDecl key, pos⟩ := by
  intro hlast
  obtain ⟨past, present, rfl, hpast, hpresent⟩ := h
  obtain ⟨closed, open?⟩ := assembly
  cases hpresent with
  | nothing =>
    rw [List.append_nil] at hlast
    obtain ⟨type, hkind⟩ := hpast.getLast_kind hlast
    cases hkind
  | key key pos => exact hopen _ rfl rfl
  | @fields _ digits id fieldTokens fields _ idPos hid hfields =>
    rw [List.getLast?_append_of_ne_nil _ (List.cons_ne_nil _ _), List.getLast?_cons_cons] at hlast
    rcases List.mem_cons.mp (List.mem_of_getLast? hlast) with heq | hmem
    · cases heq
    · have hfield : TokenKind.field? (.classDecl key) ∈ fieldTokens.map (·.kind.field?) :=
        List.mem_map_of_mem hmem
      rw [hfields] at hfield
      simp [TokenKind.field?] at hfield

theorem Accounts.getLast_eq_classDecl {seen : List Token} {closed : Array Definition}
    {definition : OpenDefinition} (h : Accounts seen ⟨closed, some definition⟩)
    (hid : definition.constructorId? = none) :
    seen.getLast? = some ⟨.classDecl definition.key, definition.pos⟩ := by
  obtain ⟨past, present, rfl, -, hpresent⟩ := h
  cases hpresent with
  | key key pos => rw [List.getLast?_append_of_ne_nil _ (List.cons_ne_nil _ _)]; rfl
  | fields => cases hid

theorem misfit_of_classDecl {seen : List Token} {key digits : String} {pos idPos : Position}
    (h : seen.getLast? = some ⟨.classDecl key, pos⟩) :
    misfit seen ⟨.constructorId digits, idPos⟩ = .constructorId digits := by
  unfold misfit
  rw [h]

theorem misfit_of_ne {seen : List Token} {token : Token}
    (h : ∀ key pos, seen.getLast? ≠ some ⟨.classDecl key, pos⟩) :
    misfit seen token = .unexpectedToken token.kind := by
  unfold misfit
  split
  next key pos digits hlast hkind => exact absurd hlast (h key pos)
  next => rfl

/-- A token other than a key is refused where it stands. -/
theorem Accounts.step_eq_error {seen : List Token} {assembly : Assembly} {token : Token}
    {error : SchemaError} (hseen : Accounts seen assembly)
    (hkey : ∀ key, token.kind ≠ .classDecl key) (h : assembly.step token = .error error) :
    error = .parse (misfit seen token) token.pos := by
  have hother := hseen.getLast_ne_classDecl
  obtain ⟨closed, open?⟩ := assembly
  obtain ⟨kind, pos⟩ := token
  rcases open? with - | ⟨key, keyPos, - | id, fields⟩
  · -- no definition is open, so only a key can stand here
    rw [misfit_of_ne (hother fun _ hopen => by cases hopen)]
    cases kind with
    | classDecl key => exact absurd rfl (hkey key)
    | _ =>
      cases h
      rfl
  · -- the number is to come, and a token that is none is out of place
    have hlast := hseen.getLast_eq_classDecl rfl
    cases kind with
    | classDecl key => exact absurd rfl (hkey key)
    | constructorId digits =>
      rw [misfit_of_classDecl hlast]
      simp only [step, identify] at h
      split at h
      · cases h
      · cases h
        rfl
    | _ =>
      cases h
      rw [misfit, hlast]
  · -- fields and the return type can stand here, and a second number cannot
    rw [misfit_of_ne (hother fun _ hopen => by cases hopen; simp)]
    cases kind with
    | classDecl key => exact absurd rfl (hkey key)
    | constructorId digits =>
      cases h
      rfl
    | _ => cases h

theorem run_concat {seen : List Token} {assembly : Assembly}
    (h : seen.foldlM step {} = .ok assembly) (token : Token) :
    (seen ++ [token]).foldlM step {} = assembly.step token := by
  rw [List.foldlM_append, h]
  show [token].foldlM step assembly = _
  rw [List.foldlM_cons]
  exact bind_pure _

end Assembly

/-! ## All tokens -/

/-- Assembling fails at a token that is refused, or at the end inside a definition. -/
theorem Schema.refused_of_eq_error {tokens : List Token} {error : SchemaError}
    (h : ofTokens tokens = .error error) :
    ∃ cause pos, error = .parse cause pos ∧ Refused tokens cause pos := by
  rcases bind_eq_error.mp h with hrun | ⟨⟨closed, open?⟩, hrun, hfinish⟩
  · obtain ⟨seen, token, rest, assembly, heq, hseen, hstep⟩ := foldlM_eq_error.mp hrun
    by_cases hkey : ∃ key, token.kind = .classDecl key
    · obtain ⟨kind, pos⟩ := token
      obtain ⟨key, rfl⟩ := hkey
      obtain ⟨closed, open?⟩ := assembly
      cases open? with
      | none => cases hstep
      | some definition =>
        cases hstep
        have hopen := Assembly.exists_open_iff.mp ⟨closed, definition, hseen, rfl, rfl⟩
        exact ⟨_, _, rfl, .reopened heq hopen⟩
    · have hother : ∀ key, token.kind ≠ .classDecl key := fun key heq => hkey ⟨key, heq⟩
      have herror := (Assembly.accounts_of_run hseen).step_eq_error hother hstep
      refine ⟨_, _, herror, .misplaced heq (Assembly.exists_run_iff.mp ⟨_, hseen⟩) ?_ hother⟩
      intro hviable
      obtain ⟨next, hnext⟩ := Assembly.exists_run_iff.mpr hviable
      rw [Assembly.run_concat hseen, hstep] at hnext
      cases hnext
  · cases open? with
    | none => cases hfinish
    | some definition =>
      cases hfinish
      have hopen := Assembly.exists_open_iff.mp ⟨closed, definition, hrun, rfl, rfl⟩
      exact ⟨_, _, rfl, .unfinished hopen⟩

theorem Refused.ofTokens_eq {tokens : List Token} {cause : ParseCause} {pos : Position}
    (h : Refused tokens cause pos) : Schema.ofTokens tokens = .error (.parse cause pos) := by
  cases h with
  | @misplaced seen rest token heq hseen hnot hkey =>
    obtain ⟨assembly, hrun⟩ := Assembly.exists_run_iff.mpr hseen
    cases hstep : assembly.step token with
    | ok next =>
      rw [← Assembly.run_concat hrun] at hstep
      exact absurd (Assembly.exists_run_iff.mp ⟨next, hstep⟩) hnot
    | error error =>
      have herror := (Assembly.accounts_of_run hrun).step_eq_error hkey hstep
      rw [herror] at hstep
      exact bind_eq_error.mpr (Or.inl (foldlM_eq_error.mpr ⟨_, _, _, _, heq, hrun, hstep⟩))
  | reopened heq hopen =>
    obtain ⟨closed, definition, hrun, rfl, rfl⟩ := Assembly.exists_open_iff.mpr hopen
    exact bind_eq_error.mpr (Or.inl (foldlM_eq_error.mpr ⟨_, _, _, _, heq, hrun, rfl⟩))
  | unfinished hopen =>
    obtain ⟨closed, definition, hrun, rfl, rfl⟩ := Assembly.exists_open_iff.mpr hopen
    exact bind_eq_error.mpr (Or.inr ⟨_, hrun, rfl⟩)

/-- Assembling gives the definitions of blocks, one for each, and refuses all other tokens where
they stop being the beginning of blocks. -/
theorem Schema.ofTokens_decides_blocks (tokens : List Token) :
    (∀ schema, ofTokens tokens = .ok schema ↔
      ∃ definitions, Blocks tokens definitions ∧ schema = .ofDefinitions definitions) ∧
    ∀ error, ofTokens tokens = .error error ↔
      ∃ cause pos, error = .parse cause pos ∧ Refused tokens cause pos := by
  refine ⟨fun schema => ofTokens_eq_ok_iff, fun error => ⟨refused_of_eq_error, ?_⟩⟩
  rintro ⟨cause, pos, rfl, hrefused⟩
  exact hrefused.ofTokens_eq

-- a second number is refused where it stands, and a definition without return type at its key
example : Schema.ofTokens [⟨.classDecl "a.b", ⟨1, 1⟩⟩, ⟨.constructorId "1", ⟨1, 5⟩⟩,
    ⟨.constructorId "x", ⟨1, 7⟩⟩, ⟨.flagsMarker, ⟨1, 9⟩⟩]
      = .error (.parse (.unexpectedToken (.constructorId "x")) ⟨1, 7⟩) := by rfl

example : Schema.ofTokens [⟨.classDecl "a.b", ⟨1, 1⟩⟩, ⟨.constructorId "1", ⟨1, 5⟩⟩,
    ⟨.classDecl "c.d", ⟨2, 1⟩⟩, ⟨.returnType .int32, ⟨2, 5⟩⟩]
      = .error (.parse (.noReturnType "a.b") ⟨1, 1⟩) := by rfl

end TlSchema
