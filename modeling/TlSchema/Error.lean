import TlSchema.Token.Basic

/-!
# Errors of schemas

Why a schema cannot be compiled. Each error is a cause with the data that explain it; `message` is
its wording for people and `visible` its form as a record.
-/

namespace TlSchema

/-- Where in a definition the scanner of tokens is. -/
inductive Phase where
  /-- Between definitions. -/
  | start
  /-- After one slash. -/
  | maybeComment
  /-- In a comment, up to the end of its line. -/
  | commentLine
  /-- In the key of a definition. -/
  | className
  /-- In the digits of the constructor's number. -/
  | constructor
  /-- Before or in the name of a field. -/
  | fieldName
  /-- In the type of a field. -/
  | fieldType
  /-- In the bit that guards a field. -/
  | flagFieldIndex
  /-- In the type after the equals sign. -/
  | returnClause
  deriving DecidableEq, Repr

/-- The name of a phase. -/
def Phase.name : Phase → String
  | .start => "Start"
  | .maybeComment => "MaybeComment"
  | .commentLine => "CommentLine"
  | .className => "ClassName"
  | .constructor => "Constructor"
  | .fieldName => "FieldName"
  | .fieldType => "FieldType"
  | .flagFieldIndex => "FlagFieldIndex"
  | .returnClause => "ReturnClause"

/-- The greatest bit of the flags that can guard a field. -/
def maxFlagBit : Nat := 31

/-- Why the text or the tokens of a definition do not fit together. -/
inductive ParseCause where
  /-- The digits that guard a field name no bit of the flags. -/
  | flagIndex (digits field : String)
  /-- A definition has not reached its return type. -/
  | noReturnType (key : String)
  /-- A token stands where it cannot stand. -/
  | unexpectedToken (kind : TokenKind)
  /-- The digits of a constructor's number are no 32-bit number. -/
  | constructorId (digits : String)
  deriving DecidableEq, Repr

/-- The wording of the cause. -/
def ParseCause.message : ParseCause → String
  | .flagIndex digits field =>
    "Flag index " ++ Json.quote digits ++ " of field " ++ Json.quote field
      ++ " is outside 0..=" ++ toString maxFlagBit
  | .noReturnType key => "Definition " ++ Json.quote key ++ " has no return type"
  | .unexpectedToken kind => "Unexpected token " ++ kind.visible
  | .constructorId digits => "Invalid constructor id " ++ Json.quote digits

/-- Which rule the fields of a definition break. -/
inductive FieldFault where
  /-- A name is declared twice. -/
  | repeated (field definition : String)
  /-- A field is guarded by a bit of flags that are not declared before it. -/
  | unflagged (field definition : String) (bit : UInt8)
  deriving DecidableEq, Repr

/-- The wording of the fault. -/
def FieldFault.message : FieldFault → String
  | .repeated field definition =>
    "The field " ++ Json.quote field ++ " is declared twice in " ++ Json.quote definition
  | .unflagged field definition bit =>
    "The field " ++ Json.quote field ++ " in " ++ Json.quote definition ++ " is guarded by flags."
      ++ toString bit.toNat ++ " but no flags field precedes it"

/-- Why the settings are refused: the framing tag of vectors is no 32-bit hexadecimal number. -/
structure InvalidTag where
  /-- The tag as it was given. -/
  text : String
  deriving DecidableEq, Repr

/-- The wording of the refusal. -/
def InvalidTag.message (fault : InvalidTag) : String :=
  "vectorFramingTag " ++ Json.quote fault.text ++ " is not a 32-bit hex number"

/-- Why a schema cannot be compiled. -/
inductive SchemaError where
  /-- The source could not be read. -/
  | io (reason : String)
  /-- A character that cannot stand where it does. -/
  | lex (phase : Phase) (c : Char) (pos : Position)
  /-- The source ends inside a definition. -/
  | unexpectedEnd (phase : Phase) (pos : Position)
  /-- A type literal that denotes no type. -/
  | malformedType (fault : MalformedType)
  /-- A definition that does not fit together. -/
  | parse (cause : ParseCause) (pos : Position)
  /-- A field whose type no definition declares. -/
  | unresolved (name field definition : String)
  /-- Fields that break a rule. -/
  | fields (fault : FieldFault)
  /-- Settings with a wrong tag. -/
  | settings (fault : InvalidTag)
  /-- Settings that are not a document of the right form. -/
  | json (reason : String)
  deriving DecidableEq, Repr

namespace SchemaError

/-- The wording of the error. -/
def message : SchemaError → String
  | .io reason => "I/O error: " ++ reason
  | .lex phase c pos =>
    s!"Lexical error at line {pos.line}, column {pos.column}: unexpected "
      ++ Text.Visible.char c ++ " in state " ++ phase.name
  | .unexpectedEnd phase pos =>
    "Unexpected end of input in state " ++ phase.name
      ++ s!" at line {pos.line}, column {pos.column}"
  | .malformedType fault => "Malformed type literal " ++ fault.literal
  | .parse cause pos =>
    s!"Parse error at line {pos.line}, column {pos.column}: " ++ cause.message
  | .unresolved name field definition =>
    s!"Unresolved reference: type {name} of field {field} in {definition} is never defined"
  | .fields fault => "Verifier error: " ++ fault.message
  | .settings fault => "Invalid settings: " ++ fault.message
  | .json reason => "Settings JSON error: " ++ reason

/-- The error as a record. -/
def visible : SchemaError → String
  | .io reason => Text.Visible.application "Io" [reason]
  | .lex phase c pos =>
    Text.Visible.record "Lex" [("state", phase.name), ("ch", Text.Visible.char c),
      ("line", toString pos.line), ("column", toString pos.column)]
  | .unexpectedEnd phase pos =>
    Text.Visible.record "UnexpectedEof" [("state", phase.name),
      ("line", toString pos.line), ("column", toString pos.column)]
  | .malformedType fault =>
    Text.Visible.application "MalformedType" [Text.Visible.string fault.literal]
  | .parse cause pos =>
    Text.Visible.record "ParseError" [("msg", Text.Visible.string cause.message),
      ("line", toString pos.line), ("column", toString pos.column)]
  | .unresolved name field definition =>
    Text.Visible.record "UnresolvedReference" [("name", Text.Visible.string name),
      ("field", Text.Visible.string field), ("definition", Text.Visible.string definition)]
  | .fields fault => Text.Visible.application "VerifierError" [Text.Visible.string fault.message]
  | .settings fault => Text.Visible.application "Settings" [Text.Visible.string fault.message]
  | .json reason => Text.Visible.application "Json" [reason]

end SchemaError

end TlSchema
