import Mathlib.Data.List.Induction
import TlSchema.Proofs.Places
import TlSchema.Proofs.Transitions

/-!
# Whole scans

From one character to all of them. What every character keeps holds of all tokens; and since the
scanner only remembers where a word starts, what it reads does not depend on where a text stands, so
that texts can be read piece by piece.
-/

namespace TlSchema

open Results

namespace Scan

theorem step_eq_ok {scan scan' : Scan} {c : Char} (h : scan.step c = .ok scan') :
    ∃ token?, scan.state.step scan.here c = .ok (scan'.state, token?) ∧
      scan'.tokens.toList = scan.tokens.toList ++ token?.toList := by
  obtain ⟨⟨state, token?⟩, hstep, hnext⟩ := bind_eq_ok.mp h
  refine ⟨token?, ?_⟩
  cases token? <;> cases hnext <;> simp [hstep]

theorem exists_step {scan : Scan} {c : Char} {state : ScanState} {token? : Option Token}
    (h : scan.state.step scan.here c = .ok (state, token?)) :
    ∃ scan', scan.step c = .ok scan' ∧ scan'.state = state ∧
      scan'.tokens.toList = scan.tokens.toList ++ token?.toList := by
  refine ⟨_, bind_eq_ok.mpr ⟨_, h, rfl⟩, rfl, ?_⟩
  cases token? <;> simp

/-- A scan can end between definitions and in a comment. -/
theorem finish_eq_ok {scan : Scan} {tokens : List Token} :
    scan.finish = .ok tokens ↔
      (scan.state = .start ∨ scan.state = .comment) ∧ scan.tokens.toList = tokens := by
  obtain ⟨state, here, completed⟩ := scan
  cases state <;> simp [finish]

end Scan

theorem Source.tokens_eq_ok {source : Source} {tokens : List Token}
    (h : source.tokens = .ok tokens) :
    ∃ scan, Scan.run {} source.chars = .ok scan ∧
      (scan.state = .start ∨ scan.state = .comment) ∧ scan.tokens.toList = tokens := by
  obtain ⟨scan, hrun, hfinish⟩ := bind_eq_ok.mp h
  refine ⟨scan, hrun, ?_⟩
  split at hfinish
  · cases hfinish
  · exact Scan.finish_eq_ok.mp hfinish

/-- What holds between definitions, and what every character keeps and gives its token, holds of all
tokens. -/
theorem Source.tokens_forall {source : Source} {tokens : List Token} (P : ScanState → Prop)
    {Q : Token → Prop} (hstart : P .start)
    (hmoves : ∀ {here c state state' token?}, ScanState.Moves here c state state' token? →
      P state → P state' ∧ ∀ token, token? = some token → Q token)
    (h : source.tokens = .ok tokens) : ∀ token ∈ tokens, Q token := by
  obtain ⟨scan, hrun, -, rfl⟩ := Source.tokens_eq_ok h
  have hscan : P scan.state ∧ ∀ token ∈ scan.tokens.toList, Q token := by
    refine foldlM_invariant (fun s => P s.state ∧ ∀ token ∈ s.tokens.toList, Q token) hrun
      ⟨hstart, by simp⟩ fun c _ s s' hs hinv => ?_
    obtain ⟨token?, hstate, htokens⟩ := Scan.step_eq_ok hs
    obtain ⟨hP, hQ⟩ := hmoves (ScanState.step_eq_ok.mp hstate) hinv.1
    refine ⟨hP, fun token htoken => ?_⟩
    rw [htokens, List.mem_append, Option.mem_toList] at htoken
    rcases htoken with htoken | htoken
    · exact hinv.2 token htoken
    · exact hQ token htoken
  exact hscan.2

/-! ## Reading apart from places -/

/-- The word of a text, wherever it stands. -/
abbrev Word.bare (text : String) : Word := ⟨.first, text⟩

namespace ScanState

/-- The state without the places of its words. -/
def unplaced : ScanState → ScanState
  | .start => .start
  | .slash word => .slash (.bare word.text)
  | .comment => .comment
  | .className word => .className (.bare word.text)
  | .constructorId word => .constructorId (.bare word.text)
  | .fieldName guard? word => .fieldName guard? (.bare word.text)
  | .fieldType name guard? word => .fieldType (.bare name.text) guard? (.bare word.text)
  | .flagIndex name word => .flagIndex (.bare name.text) (.bare word.text)
  | .returnClause guard? word => .returnClause guard? (.bare word.text)

/-- What the effect of a character says apart from places; nothing if the character is refused. -/
def said (effect : Except SchemaError (ScanState × Option Token)) :
    Option (ScanState × Option TokenKind) :=
  effect.toOption.map fun next => (next.1.unplaced, next.2.map (·.kind))

theorem said_of_moves {here : Position} {c : Char} {state next : ScanState} {token? : Option Token}
    (h : Moves here c state next token?) :
    said (state.step here c) = some (next.unplaced, token?.map (·.kind)) := by
  rw [step_eq_ok.mpr h]
  rfl

theorem unplaced_place (f : Position → Position) (state : ScanState) :
    (state.place f).unplaced = state.unplaced := by
  cases state <;> rfl

theorem said_placeEffect (f : Position → Position)
    (effect : Except SchemaError (ScanState × Option Token)) :
    said (placeEffect f effect) = said effect := by
  cases effect with
  | error e => rfl
  | ok next =>
    obtain ⟨state, token?⟩ := next
    show some ((state.place f).unplaced, _) = some (state.unplaced, _)
    rw [unplaced_place, Option.map_map]
    rfl

/-- What a character does, apart from places, depends on neither the place of the character nor the
places of the words. -/
theorem said_step (state : ScanState) (here : Position) (c : Char) :
    said (state.step here c) = said (state.unplaced.step .first c) := by
  have hplace : state.unplaced = state.place fun _ => .first := by cases state <;> rfl
  rw [hplace, step_place (fun _ => .first) state here c, said_placeEffect]

/-- Reading the characters `cs` leads from one state to another and completes tokens that say
`kinds`, apart from places. -/
inductive Reads : ScanState → List Char → List TokenKind → ScanState → Prop
  | nil (state : ScanState) : Reads state [] [] state
  | cons {state next target : ScanState} {c : Char} {cs : List Char} {kind? : Option TokenKind}
      {kinds : List TokenKind} (hc : said (state.step .first c) = some (next, kind?))
      (hrest : Reads next cs kinds target) : Reads state (c :: cs) (kind?.toList ++ kinds) target

namespace Reads

theorem silent {state next : ScanState} {c : Char}
    (h : said (state.step .first c) = some (next, none)) : Reads state [c] [] next :=
  .cons h (.nil next)

theorem completes {state next : ScanState} {c : Char} {kind : TokenKind}
    (h : said (state.step .first c) = some (next, some kind)) : Reads state [c] [kind] next :=
  .cons h (.nil next)

theorem append {state middle target : ScanState} {cs ds : List Char} {kinds more : List TokenKind}
    (h : Reads state cs kinds middle) (hmore : Reads middle ds more target) :
    Reads state (cs ++ ds) (kinds ++ more) target := by
  induction h with
  | nil state => exact hmore
  | cons hc _ ih =>
    rw [List.cons_append, List.append_assoc]
    exact .cons hc (ih hmore)

/-- A word is read if every character is added to what has been read of it. -/
theorem word (state : String → ScanState) (start : String) (cs : List Char)
    (h : ∀ before c, before ++ [c] <+: cs →
      said ((state (start ++ String.ofList before)).step .first c) =
        some (state ((start ++ String.ofList before).push c), none)) :
    Reads (state start) cs [] (state (start ++ String.ofList cs)) := by
  induction cs using List.reverseRecOn with
  | nil =>
    rw [show start ++ String.ofList [] = start by simp]
    exact .nil _
  | append_singleton before c ih =>
    have hbefore := ih fun first d hfirst => h first d (hfirst.trans (List.prefix_append _ _))
    have hread := hbefore.append (.silent (h before c List.prefix_rfl))
    rwa [show (start ++ String.ofList before).push c = start ++ String.ofList (before ++ [c]) from
      String.ext (by simp)] at hread

theorem wholeWord (state : String → ScanState) (text : String)
    (h : ∀ before c, before ++ [c] <+: text.toList →
      said ((state (String.ofList before)).step .first c) =
        some (state ((String.ofList before).push c), none)) :
    Reads (state "") text.toList [] (state text) := by
  have hread := word state "" text.toList fun before c hbefore => by
    rw [String.empty_append]
    exact h before c hbefore
  rwa [String.empty_append, String.ofList_toList] at hread

/-- A scan reads the characters wherever they stand. -/
theorem run {state target : ScanState} {cs : List Char} {kinds : List TokenKind}
    (h : Reads state cs kinds target) {scan : Scan} (hscan : scan.state.unplaced = state) :
    ∃ scan', scan.run cs = .ok scan' ∧ scan'.state.unplaced = target ∧
      scan'.tokens.toList.map (·.kind) = scan.tokens.toList.map (·.kind) ++ kinds := by
  induction h generalizing scan with
  | nil state => exact ⟨scan, rfl, hscan, (List.append_nil _).symm⟩
  | @cons state next target c cs kind? kinds hc _ ih =>
    rw [← hscan, ← said_step scan.state scan.here c] at hc
    cases hstep : scan.state.step scan.here c with
    | error e =>
      rw [hstep] at hc
      cases hc
    | ok effect =>
      rw [hstep] at hc
      cases hc
      obtain ⟨scan₁, hscan₁, hstate₁, htokens₁⟩ := Scan.exists_step hstep
      obtain ⟨scan₂, hscan₂, hstate₂, htokens₂⟩ := @ih scan₁ (by rw [hstate₁])
      refine ⟨scan₂, bind_eq_ok.mpr ⟨scan₁, hscan₁, hscan₂⟩, hstate₂, ?_⟩
      rw [htokens₂, htokens₁, List.map_append, List.append_assoc]
      cases effect.2 <;> rfl

end Reads

end ScanState

end TlSchema
