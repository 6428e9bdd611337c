import Mathlib.Tactic.SplitIfs
import TlSchema.Token.Scanner

/-!
# Places

The scanner only copies places: into words, from words into tokens, and into errors. If all places
that it is given are moved, so are those in what it does, and nothing else changes. The statement
for one character (`ScanState.step_place`) takes any way of moving places.
-/

namespace TlSchema

variable (f : Position → Position)

/-- The word, moved. -/
def Word.place (word : Word) : Word := ⟨f word.start, word.text⟩

theorem Word.place_push (word : Word) (here : Position) (c : Char) :
    (word.push here c).place f = (word.place f).push (f here) c := by
  unfold push place
  split_ifs <;> rfl

/-- The token, moved. -/
def Token.place (token : Token) : Token := ⟨token.kind, f token.pos⟩

/-- The error, moved, if it has a place. -/
def SchemaError.place : SchemaError → SchemaError
  | .lex phase c pos => .lex phase c (f pos)
  | .unexpectedEnd phase pos => .unexpectedEnd phase (f pos)
  | .parse cause pos => .parse cause (f pos)
  | error => error

namespace ScanState

/-- The state with its words moved. -/
def place : ScanState → ScanState
  | .start => .start
  | .slash word => .slash (word.place f)
  | .comment => .comment
  | .className word => .className (word.place f)
  | .constructorId word => .constructorId (word.place f)
  | .fieldName guard? word => .fieldName guard? (word.place f)
  | .fieldType name guard? word => .fieldType (name.place f) guard? (word.place f)
  | .flagIndex name word => .flagIndex (name.place f) (word.place f)
  | .returnClause guard? word => .returnClause guard? (word.place f)

/-- The effect of a character, moved. -/
def placeEffect : Except SchemaError (ScanState × Option Token) →
    Except SchemaError (ScanState × Option Token)
  | .ok (state, token?) => .ok (state.place f, token?.map (Token.place f))
  | .error error => .error (error.place f)

theorem place_fieldToken (name : Word) (guard? : Option UInt8) (type : ValueType) :
    (fieldToken name guard? type).place f = fieldToken (name.place f) guard? type := by
  cases guard? <;> rfl

/-- Reading a type refers to no place, so neither does its failure. -/
theorem placeEffect_typeOf (word : Word) (next : ValueType → ScanState × Option Token) :
    placeEffect f (typeOf word >>= fun type => pure (next type)) =
      (typeOf (word.place f) >>= fun type =>
        pure ((next type).1.place f, (next type).2.map (Token.place f))) := by
  change placeEffect f ((ValueType.parse word.text).mapError _ >>= _) =
    ((ValueType.parse word.text).mapError _ >>= _)
  cases ValueType.parse word.text <;> rfl

theorem stepClassName_place (word : Word) (here : Position) (c : Char) :
    stepClassName (word.place f) (f here) c = placeEffect f (stepClassName word here c) := by
  unfold stepClassName
  split_ifs
  · rfl
  · rw [← Word.place_push]
    rfl
  · rfl

theorem stepFieldName_place (guard? : Option UInt8) (word : Word) (here : Position) (c : Char) :
    stepFieldName guard? (word.place f) (f here) c =
      placeEffect f (stepFieldName guard? word here c) := by
  have htext : (word.place f).text = word.text := rfl
  unfold stepFieldName
  rw [← Word.place_push, htext]
  split_ifs <;> rfl

theorem stepFieldType_place (name : Word) (guard? : Option UInt8) (word : Word) (here : Position)
    (c : Char) :
    stepFieldType (name.place f) guard? (word.place f) (f here) c =
      placeEffect f (stepFieldType name guard? word here c) := by
  have hname : (name.place f).text = name.text := rfl
  have hword : (word.place f).text = word.text := rfl
  unfold stepFieldType
  rw [← Word.place_push, hname, hword]
  split_ifs
  · rfl
  · rw [placeEffect_typeOf]
    simp only [Option.map_some, place_fieldToken]
    rfl
  all_goals rfl

theorem stepFlagIndex_place (name word : Word) (here : Position) (c : Char) :
    stepFlagIndex (name.place f) (word.place f) (f here) c =
      placeEffect f (stepFlagIndex name word here c) := by
  have hword : (word.place f).text = word.text := rfl
  unfold stepFlagIndex
  rw [← Word.place_push, hword]
  split_ifs
  · rfl
  · cases flagBit? word.text <;> rfl
  · rfl

theorem stepReturnClause_place (guard? : Option UInt8) (word : Word) (here : Position) (c : Char) :
    stepReturnClause guard? (word.place f) (f here) c =
      placeEffect f (stepReturnClause guard? word here c) := by
  unfold stepReturnClause
  rw [← Word.place_push]
  split_ifs
  · rfl
  · rw [placeEffect_typeOf]
    rfl
  · rfl
  · rfl

/-- If the character and the words of the state are moved, so is what the character does. -/
theorem step_place (state : ScanState) (here : Position) (c : Char) :
    (state.place f).step (f here) c = placeEffect f (state.step here c) := by
  cases state with
  | start =>
    change stepStart (f here) c = placeEffect f (stepStart here c)
    unfold stepStart
    split_ifs <;> rfl
  | slash word =>
    change stepSlash (word.place f) (f here) c = placeEffect f (stepSlash word here c)
    unfold stepSlash
    split_ifs
    · rfl
    · exact stepClassName_place f word here c
  | comment =>
    change stepComment c = placeEffect f (stepComment c)
    unfold stepComment
    split_ifs <;> rfl
  | className word => exact stepClassName_place f word here c
  | constructorId word =>
    change stepConstructorId (word.place f) (f here) c =
      placeEffect f (stepConstructorId word here c)
    unfold stepConstructorId
    rw [← Word.place_push]
    split_ifs <;> rfl
  | fieldName guard? word => exact stepFieldName_place f guard? word here c
  | fieldType name guard? word => exact stepFieldType_place f name guard? word here c
  | flagIndex name word => exact stepFlagIndex_place f name word here c
  | returnClause guard? word => exact stepReturnClause_place f guard? word here c

end ScanState

end TlSchema
