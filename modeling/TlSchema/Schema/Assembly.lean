import TlSchema.Error
import TlSchema.Schema.Basic

/-!
# Assembling definitions

Tokens become definitions one by one: a key opens a definition, the constructor's number follows it,
then come the fields, and the return type closes it. `Schema.ofTokens` accepts exactly the sequences
of such definitions and names the first token that does not fit.
-/

namespace TlSchema

/-- The families with one more definition, which joins the family of the type it returns if that
type is a named one. -/
def Families.add (families : Families) (definition : Definition) : Families :=
  match definition.returnType with
  | .named name => families.insert name definition.key
  | _ => families

/-- The schema of some definitions, with the families that they form. -/
def Schema.ofDefinitions (definitions : List Definition) : Schema :=
  ⟨definitions, definitions.foldl Families.add {}⟩

/-- A definition of which the return type has not come yet. -/
structure OpenDefinition where
  /-- The key it declares. -/
  key : String
  /-- Where its key stands. -/
  pos : Position
  /-- The number of its constructor, once it has come. -/
  constructorId? : Option UInt32 := none
  /-- The fields that have come. -/
  fields : Array Field := #[]
  deriving DecidableEq, Repr

/-- The definitions assembled so far and the one that is open. -/
structure Assembly where
  /-- The definitions that are closed. -/
  closed : Array Definition := #[]
  /-- The definition that is open, if one is. -/
  open? : Option OpenDefinition := none
  deriving DecidableEq, Repr

namespace Assembly

/-- The refusal of a token that cannot stand where it does. -/
def unexpected {α : Type} (token : Token) : Except SchemaError α :=
  .error (.parse (.unexpectedToken token.kind) token.pos)

/-- The refusal of a definition that is left open. -/
def unclosed {α : Type} (definition : OpenDefinition) : Except SchemaError α :=
  .error (.parse (.noReturnType definition.key) definition.pos)

/-- Opens a definition. -/
def declare (assembly : Assembly) (token : Token) (key : String) : Except SchemaError Assembly :=
  match assembly.open? with
  | some definition => unclosed definition
  | none => .ok { assembly with open? := some { key, pos := token.pos } }

/-- Gives the open definition the number of its constructor. -/
def identify (assembly : Assembly) (token : Token) (digits : String) :
    Except SchemaError Assembly :=
  match assembly.open? with
  | some ⟨key, pos, none, fields⟩ =>
    match Text.hexWord? digits with
    | some id => .ok { assembly with open? := some ⟨key, pos, some id, fields⟩ }
    | none => .error (.parse (.constructorId digits) token.pos)
  | _ => unexpected token

/-- Adds a field to the open definition. -/
def addField (assembly : Assembly) (token : Token) (field : Field) : Except SchemaError Assembly :=
  match assembly.open? with
  | some ⟨key, pos, some id, fields⟩ =>
    .ok { assembly with open? := some ⟨key, pos, some id, fields.push field⟩ }
  | _ => unexpected token

/-- Closes the open definition. -/
def close (assembly : Assembly) (token : Token) (type : ValueType) : Except SchemaError Assembly :=
  match assembly.open? with
  | some ⟨key, pos, some id, fields⟩ =>
    .ok ⟨assembly.closed.push ⟨key, id, fields.toList, type, pos⟩, none⟩
  | _ => unexpected token

/-- Takes in one token. -/
def step (assembly : Assembly) (token : Token) : Except SchemaError Assembly :=
  match token.kind with
  | .classDecl key => assembly.declare token key
  | .constructorId digits => assembly.identify token digits
  | .flagsMarker => assembly.addField token ⟨flagsName, .int32, none⟩
  | .field name type => assembly.addField token ⟨name, type, none⟩
  | .flagField name type bit => assembly.addField token ⟨name, type, some bit⟩
  | .returnType type => assembly.close token type

/-- The schema of an assembly that has come to the end: no definition is open. -/
def finish (assembly : Assembly) : Except SchemaError Schema :=
  match assembly.open? with
  | some definition => unclosed definition
  | none => .ok (.ofDefinitions assembly.closed.toList)

end Assembly

/-- The schema that a sequence of tokens spells. -/
def Schema.ofTokens (tokens : List Token) : Except SchemaError Schema := do
  let assembly ← tokens.foldlM Assembly.step {}
  assembly.finish

end TlSchema
