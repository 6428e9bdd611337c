import TlSchema.Plan.Builder
import TlSchema.Schema.Assembly
import TlSchema.Token.Reader

/-!
# Compilations

A compiled schema is the schema together with the plans of its definitions.
-/

namespace TlSchema

/-- A schema and its plans. -/
structure Compilation where
  /-- The schema. -/
  schema : Schema
  /-- The plans, one for each definition and in the same order. -/
  plans : List Plan
  deriving DecidableEq, Repr

namespace Compilation

/-- Every definition with its plan. -/
def pairs (compilation : Compilation) : List (Definition × Plan) :=
  compilation.schema.definitions.zip compilation.plans

/-- The first plan with that output name. -/
def plan? (compilation : Compilation) (typeName : String) : Option Plan :=
  compilation.plans.find? (·.typeName = typeName)

/-- The compilation as a document. -/
def toJson (compilation : Compilation) : Json :=
  .obj [("schema", compilation.schema.toJson),
    ("plans", .arr (compilation.plans.map Plan.toJson))]

/-- Compiles the schema that a sequence of tokens spells. -/
def ofTokens (tokens : List Token) (settings : Settings) : Except SchemaError Compilation := do
  let schema ← Schema.ofTokens tokens
  schema.check
  let plans ← schema.plans settings
  return ⟨schema, plans⟩

/-- Compiles the schema of a source. -/
def ofSource (source : Source) (settings : Settings) : Except SchemaError Compilation := do
  let tokens ← source.tokens
  ofTokens tokens settings

/-- Compiles the schema that a reader gives. -/
def ofReader {ρ : Type} [CharReader ρ] (reader : ρ) (settings : Settings) :
    Except SchemaError Compilation := do
  let tokens ← CharReader.tokens reader
  ofTokens tokens settings

/-- Compiles the schema of a text. -/
def ofText (text : String) (settings : Settings) : Except SchemaError Compilation :=
  ofSource (.ofText text) settings

end Compilation

end TlSchema
