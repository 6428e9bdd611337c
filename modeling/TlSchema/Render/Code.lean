import TlSchema.Compilation
import TlSchema.Render.Identifier

/-!
# Generated code

Plans written out as Rust code: for every output name a structure, its default, its reader with the
entry point, and its writer. Code is a list of lines; `code` joins them.

A piece of code is written by a function on the part of the plan it comes from, so that what a plan
says and what the code does can be compared piece by piece.
-/

namespace TlSchema.Render

/-- Lines of code. -/
abbrev Lines := List String

/-! ## Layout -/

/-- Lines one level further in; empty lines stay empty. -/
def indent (lines : Lines) : Lines :=
  lines.map fun line => if line = "" then line else "    " ++ line

/-- Lines between a line that ends with an opening brace and a line with the closing one. -/
def braces (head : String) (body : Lines) : Lines :=
  (head ++ " \x7b") :: indent body ++ ["\x7d"]

/-- A 32-bit word as a number in code. -/
def word (w : UInt32) : String := "0x" ++ Text.hexWord w

/-- A truth value in code. -/
def truth (b : Bool) : String := if b then "true" else "false"

/-- The value of a field in code. -/
def place (field : String) : String := "self." ++ identifier field

/-! ## Types and defaults -/

/-- The type of a field. -/
def typeText : TargetType → String
  | .string => "String"
  | .boolean => "bool"
  | .int32 => "i32"
  | .int64 => "i64"
  | .vector element => "Vec<" ++ typeText element ++ ">"
  | .named _ => "Box<dyn TlObject>"

/-- An expression for a default. -/
def defaultText : DefaultValue → String
  | .string text =>
    if text = "" then "String::new()" else Text.Visible.string text ++ ".to_string()"
  | .int32 n => toString n.toInt
  | .int64 n => toString n.toInt
  | .bool b => truth b
  | .emptyVector => "Vec::new()"
  | .construct typeName => "Box::new(" ++ typeName ++ "::default())"

/-- An expression that says whether a place holds a default. -/
def isDefaultText (place : String) : DefaultValue → String
  | .string text =>
    if text = "" then place ++ ".is_empty()" else place ++ " == " ++ Text.Visible.string text
  | .int32 n => place ++ " == " ++ toString n.toInt
  | .int64 n => place ++ " == " ++ toString n.toInt
  | .bool b => place ++ " == " ++ truth b
  | .emptyVector => place ++ ".is_empty()"
  | .construct typeName => place ++ ".to_bytes()? == " ++ typeName ++ "::default().to_bytes()?"

/-- The structure of a plan. -/
def structDeclaration (plan : Plan) : Lines :=
  ["/// `" ++ plan.key ++ "#" ++ Text.hexWord plan.constructorId ++ "`",
   "#[allow(non_camel_case_types)]",
   "#[derive(Debug)]"]
  ++ braces ("pub struct " ++ plan.typeName) (plan.fields.map fun field =>
      "pub " ++ identifier field.name ++ ": " ++ typeText field.target ++ ",")

/-- The default of a plan's structure. -/
def defaults (plan : Plan) : Lines :=
  braces ("impl Default for " ++ plan.typeName) <| braces "fn default() -> Self" <|
    if plan.fields.isEmpty then [plan.typeName ++ " \x7b\x7d"]
    else braces plan.typeName (plan.fields.map fun field =>
      identifier field.name ++ ": " ++ defaultText field.initial ++ ",")

/-! ## Reading -/

/-- Statements that bind the variable `value` of a depth to the next value. A vector without its
framing tag ends the reading early, or is an error. -/
def readValue (owner : String) (depth : Nat) : Codec → Lines
  | .string => [s!"let value{depth} = stream.read_string()?.into_owned();"]
  | .boolean => [s!"let value{depth} = stream.read_bool()?;"]
  | .int32 => [s!"let value{depth} = stream.read_int32()?;"]
  | .int64 => [s!"let value{depth} = stream.read_int64()?;"]
  | .object typeName =>
    [s!"let tag{depth} = stream.read_uint32()?;",
     s!"let value{depth} = {typeName}::tl_deserialize_boxed(stream, tag{depth}, exception)?",
     s!"    .unwrap_or_else(|| Box::new({typeName}::default()));"]
  | .vector tag element =>
    [s!"let magic{depth} = stream.read_uint32()?;"]
    ++ braces (s!"if magic{depth} != " ++ word tag)
      (braces "if exception"
        (["return Err(WireError::VectorTagMismatch \x7b"]
          ++ indent [s!"found: magic{depth},", "expected: " ++ word tag ++ ",",
            "type_name: " ++ Text.Visible.string owner ++ ".to_string(),"]
          ++ ["\x7d);"])
        ++ ["return Ok(());"])
    ++ [s!"let count{depth} = stream.read_int32()?;", s!"let mut value{depth} = Vec::new();"]
    ++ braces s!"for _ in 0..count{depth}"
      (readValue owner (depth + 1) element ++ [s!"value{depth}.push(value{depth + 1});"])

/-- Statements that read a field. -/
def readField (owner field : String) (codec : Codec) : Lines :=
  readValue owner 0 codec ++ [place field ++ " = value0;"]

/-- Statements of a step of reading. -/
def readStep (owner : String) : DecodeStep → Lines
  | .read field codec => readField owner field codec
  | .readIfFlag bit field codec =>
    braces s!"if (self.flags & (1 << {bit.toNat})) != 0" (readField owner field codec)

/-- The function that reads the fields of an object. -/
def readParams (plan : Plan) : Lines :=
  "#[allow(unused_variables)]" ::
  braces ("pub fn read_params(&mut self, stream: &mut ByteBuffer, exception: bool)"
      ++ " -> Result<(), WireError>")
    (plan.decode.flatMap (readStep plan.typeName) ++ ["Ok(())"])

/-- Statements for a constructor that the entry point does not know. -/
def unrecognized (typeName : String) : Lines :=
  braces "if exception"
    ["return Err(WireError::UnrecognizedConstructor \x7b tag: constructor, type_name: "
      ++ Text.Visible.string typeName ++ ".to_string() \x7d);"]
  ++ ["return Ok(None);"]

/-- The arm of a constructor that the entry point knows. -/
def branchArm (branch : DispatchBranch) : Lines :=
  match branch.action with
  | .decodeSelf =>
    braces (word branch.tag ++ " =>")
      ["let mut result = Self::default();", "result.read_params(stream, exception)?;",
       "Box::new(result)"]
  | .delegate sibling =>
    [word branch.tag ++ " => return " ++ sibling
      ++ "::tl_deserialize_boxed(stream, constructor, exception),"]

/-- Whether the entry point gives objects of several types. -/
def isBoxed (dispatch : Dispatch) : Bool :=
  match dispatch.result with
  | .abstract _ => true
  | .concrete _ => dispatch.delegates

/-- The arguments of an entry point. -/
def entryArguments : String := "(stream: &mut ByteBuffer, constructor: u32, exception: bool)"

/-- The result of an entry point that gives objects of several types. -/
def boxedResult : String := " -> Result<Option<Box<dyn TlObject>>, WireError>"

/-- The entry point. -/
def entryPoint (plan : Plan) : Lines :=
  ("/// Decodes the body following `constructor`. Returns `Ok(None)` for an unknown tag unless "
    ++ "`exception` is set. Declared result: `" ++ plan.dispatch.result.typeName ++ "`.") ::
  if isBoxed plan.dispatch then
    braces ("pub fn tl_deserialize" ++ entryArguments ++ boxedResult)
      (["let result: Box<dyn TlObject> = match constructor \x7b"]
        ++ indent (plan.dispatch.branches.flatMap branchArm
          ++ braces "_ =>" (unrecognized plan.typeName))
        ++ ["\x7d;", "Ok(Some(result))"])
  else
    braces ("pub fn tl_deserialize" ++ entryArguments ++ " -> Result<Option<Self>, WireError>")
      (braces "if constructor != Self::CONSTRUCTOR" (unrecognized plan.typeName)
        ++ ["let mut result = Self::default();", "result.read_params(stream, exception)?;",
          "Ok(Some(result))"])

/-- The entry point with its result made one of several types. -/
def boxedEntryPoint (plan : Plan) : Lines :=
  braces ("pub fn tl_deserialize_boxed" ++ entryArguments ++ boxedResult)
    [if isBoxed plan.dispatch then "Self::tl_deserialize(stream, constructor, exception)"
      else "Ok(Self::tl_deserialize(stream, constructor, exception)?"
        ++ ".map(|result| Box::new(result) as Box<dyn TlObject>))"]

/-- The function that reads the response to an object, if the type of the response is among the
types `known` to the code. -/
def response (known : List String) (plan : Plan) : Lines :=
  match plan.response? with
  | some typeName =>
    if typeName ∈ known then
      "" :: braces ("pub fn deserialize_response" ++ entryArguments ++ boxedResult)
        [typeName ++ "::tl_deserialize_boxed(stream, constructor, exception)"]
    else []
  | none => []

/-- The reader of a plan's structure. -/
def reader (known : List String) (plan : Plan) : Lines :=
  braces ("impl " ++ plan.typeName)
    (["pub const CONSTRUCTOR: u32 = " ++ word plan.constructorId ++ ";", ""]
      ++ readParams plan ++ [""] ++ entryPoint plan ++ [""] ++ boxedEntryPoint plan
      ++ response known plan)

/-! ## Writing -/

/-- What stands before a number that may be reached through a reference. -/
def dereference (isReference : Bool) : String := if isReference then "*" else ""

/-- Statements that write a place, which is a reference inside vectors. -/
def writeValue (place : String) (isReference : Bool) (depth : Nat) : Codec → Lines
  | .string => [s!"stream.write_string(&{place})?;"]
  | .boolean => ["stream.write_bool(" ++ dereference isReference ++ place ++ ");"]
  | .int32 => ["stream.write_int32(" ++ dereference isReference ++ place ++ ");"]
  | .int64 => ["stream.write_int64(" ++ dereference isReference ++ place ++ ");"]
  | .object _ => [place ++ ".serialize_to_stream(stream)?;"]
  | .vector tag element =>
    ["stream.write_uint32(" ++ word tag ++ ");",
     "stream.write_int32(" ++ place ++ ".len() as i32);"]
    ++ braces (s!"for item{depth} in " ++ place ++ ".iter()")
      (writeValue s!"item{depth}" true (depth + 1) element)

/-- Statements that set or clear the bit of a guarded field. -/
def bindingStatements (plan : Plan) (binding : FlagBinding) : Lines :=
  let unset := match plan.field? binding.field with
    | some field => isDefaultText (place field.name) field.initial
    | none => "true"
  ("if " ++ unset ++ " \x7b") :: indent [s!"flags &= !(1 << {binding.bit.toNat});"]
    ++ ["\x7d else \x7b"] ++ indent [s!"flags |= 1 << {binding.bit.toNat};"] ++ ["\x7d"]

/-- Statements of the steps of writing. The field whose flags have been computed comes with them. -/
def writeSteps (plan : Plan) (computed? : Option String) : List EncodeStep → Lines
  | [] => []
  | .writeConstructor _ :: steps =>
    "stream.write_uint32(Self::CONSTRUCTOR);" :: writeSteps plan computed? steps
  | .recomputeFlags flagsField bindings :: steps =>
    ("let mut flags = " ++ place flagsField ++ ";") :: bindings.flatMap (bindingStatements plan)
      ++ writeSteps plan (some flagsField) steps
  | .write field codec :: steps =>
    (if computed? = some field then ["stream.write_int32(flags);"]
      else writeValue (place field) false 0 codec)
      ++ writeSteps plan computed? steps
  | .writeIfFlag bit field codec :: steps =>
    let flags := if computed?.isSome then "flags" else "self.flags"
    braces s!"if ({flags} & (1 << {bit.toNat})) != 0" (writeValue (place field) false 0 codec)
      ++ writeSteps plan computed? steps

/-- The writer of a plan's structure. -/
def writer (plan : Plan) : Lines :=
  braces ("impl TlObject for " ++ plan.typeName)
    (braces "fn constructor_id(&self) -> u32" ["Self::CONSTRUCTOR"] ++ [""]
      ++ braces ("fn serialize_to_stream(&self, stream: &mut ByteBufferMut)"
          ++ " -> Result<(), WireError>")
        (writeSteps plan none plan.encode ++ ["Ok(())"]))

/-! ## Whole compilations -/

/-- All the code of a plan. -/
def planCode (known : List String) (plan : Plan) : Lines :=
  structDeclaration plan ++ [""] ++ defaults plan ++ [""] ++ reader known plan ++ [""]
    ++ writer plan ++ [""]

/-- The plans whose output names are not among those `seen` or before them in the list. -/
def firstOfName (seen : List String) : List Plan → List Plan
  | [] => []
  | plan :: plans =>
    if plan.typeName ∈ seen then firstOfName seen plans
    else plan :: firstOfName (plan.typeName :: seen) plans

/-- The lines before the code of plans. -/
def header : Lines :=
  ["use gram_tl_wire::\x7bByteBuffer, ByteBufferMut, TlObject, WireError\x7d;", ""]

/-- The lines of a compilation: the code of every plan whose output name no plan before it has. -/
def lines (compilation : Compilation) (settings : Settings) : Lines :=
  let known := compilation.plans.map (·.typeName)
  let plans := firstOfName [] (compilation.pairs.map (·.2))
  let body := header ++ plans.flatMap (planCode known)
  let outputNamespace := Text.trim settings.outputNamespace
  if outputNamespace = "" then body
  else ("pub mod " ++ identifier outputNamespace ++ " \x7b") :: body ++ ["\x7d"]

/-- The code of a compilation. -/
def code (compilation : Compilation) (settings : Settings) : String :=
  "\n".intercalate (lines compilation settings)

end TlSchema.Render
