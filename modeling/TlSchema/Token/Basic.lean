import TlSchema.ValueType

/-!
# Tokens

A schema is a sequence of definitions, and each definition is a sequence of tokens: the key it
declares, the number of its constructor, its fields and its return type. Every token carries the
position at which its text starts.
-/

namespace TlSchema

/-- A place in a schema text; lines and columns are counted from one. -/
structure Position where
  /-- The line. -/
  line : Nat
  /-- The column, in characters. -/
  column : Nat
  deriving DecidableEq, Repr, Inhabited

namespace Position

/-- The place of the first character of a text. -/
def first : Position := ⟨1, 1⟩

/-- The place after the character `c`: a line break starts the next line. -/
def advance (here : Position) (c : Char) : Position :=
  if c = '\n' then ⟨here.line + 1, 1⟩ else ⟨here.line, here.column + 1⟩

end Position

/-- What a token says. -/
inductive TokenKind where
  /-- The key that a definition declares. -/
  | classDecl (key : String)
  /-- The digits of a constructor's number. -/
  | constructorId (digits : String)
  /-- The declaration of the flags field. -/
  | flagsMarker
  /-- A field that is always present. -/
  | field (name : String) (type : ValueType)
  /-- A field that is present when a bit of the flags is set. -/
  | flagField (name : String) (type : ValueType) (bit : UInt8)
  /-- The type that a definition returns; it ends the definition. -/
  | returnType (type : ValueType)
  deriving DecidableEq, Repr

/-- A token and where it starts. -/
structure Token where
  /-- What it says. -/
  kind : TokenKind
  /-- Where its text starts. -/
  pos : Position
  deriving DecidableEq, Repr

namespace TokenKind

/-- The token as messages show it. -/
def visible : TokenKind → String
  | .classDecl key => Text.Visible.application "ClassDecl" [Text.Visible.string key]
  | .constructorId digits => Text.Visible.application "ConstructorId" [Text.Visible.string digits]
  | .flagsMarker => "FlagsMarker"
  | .field name type =>
    Text.Visible.application "Field" [Text.Visible.string name, type.visible]
  | .flagField name type bit =>
    Text.Visible.application "FlagField"
      [Text.Visible.string name, type.visible, toString bit.toNat]
  | .returnType type => Text.Visible.application "ReturnType" [type.visible]

/-- The token as a document. -/
def toJson : TokenKind → Json
  | .classDecl key => .tagged "ClassDecl" (.str key)
  | .constructorId digits => .tagged "ConstructorId" (.str digits)
  | .flagsMarker => .str "FlagsMarker"
  | .field name type => .tagged "Field" (.arr [.str name, type.toJson])
  | .flagField name type bit =>
    .tagged "FlagField" (.arr [.str name, type.toJson, .nat bit.toNat])
  | .returnType type => .tagged "ReturnType" type.toJson

end TokenKind

/-- The token and its position as a document. -/
def Token.toJson (token : Token) : Json :=
  .obj [("kind", token.kind.toJson), ("line", .nat token.pos.line),
    ("column", .nat token.pos.column)]

end TlSchema
