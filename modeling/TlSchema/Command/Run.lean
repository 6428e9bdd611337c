import TlSchema.Command.Arguments
import TlSchema.Command.Glob
import TlSchema.Registry.Decode
import TlSchema.Render.Code

/-!
# Commands

The commands of the program: `tokens`, `plan`, `gen-rust`, `generate` and `decode`. Each reads
schemas from files and prints what it makes of them, or writes it to files.
-/

namespace TlSchema.Command

/-! ## What can be asked -/

/-- The settings given as options. -/
structure SettingsArguments where
  /-- A file with settings. -/
  config? : Option String
  /-- The module that code is wrapped in. -/
  outputNamespace? : Option String
  /-- What every output name starts with. -/
  symbolPrefix? : Option String
  /-- The framing tag of vectors. -/
  vectorTag? : Option String
  deriving DecidableEq, Repr

/-- What the program is asked to do. -/
inductive Request where
  /-- Print the tokens of a schema. -/
  | tokens (input : String)
  /-- Print the definitions, families and plans of a schema. -/
  | plan (input : String) (settings : SettingsArguments)
  /-- Generate code from a schema, to a file or to the output. -/
  | genRust (input : String) (output? : Option String) (settings : SettingsArguments)
  /-- Generate code from every schema in a directory. -/
  | generate (sourceDir outputDir : String) (settings : SettingsArguments)
  /-- Print an object that a file holds. -/
  | decode (input typeName data : String) (response strict : Bool) (settings : SettingsArguments)
  deriving DecidableEq, Repr

/-- The name of the program. -/
def programName : String := "gramtl"

/-- The option for the schema file. -/
def inputOption (about : String) : Opt where
  name := "input"
  letter? := some 'i'
  takes := .path
  placeholder := "INPUT"
  required := true
  about := about

/-- The options for settings. -/
def settingsOptions : List Opt :=
  [{ name := "config", takes := .path, placeholder := "CONFIG"
     about := "JSON settings file (`outputNamespace`, `symbolPrefix`, `vectorFramingTag`)" },
   { name := "namespace", placeholder := "NAMESPACE"
     about := "Module the generated code is wrapped in" },
   { name := "prefix", placeholder := "PREFIX"
     about := "Prefix for every generated type name, e.g. `TL_`" },
   { name := "vector-tag", placeholder := "VECTOR_TAG", about := "Vector framing tag as hex" }]

/-- A command: its name, what it does, its options, and the request that their values make. -/
structure Spec where
  /-- Its name. -/
  name : String
  /-- What it does. -/
  about : String
  /-- Its options. -/
  options : List Opt
  /-- The request made by the values of its options. -/
  request : Given → Request

/-- The value given for an option, or nothing. -/
def value (given : Given) (name : String) : String := (given.lookup name).getD ""

/-- The settings among the values given. -/
def settingsOf (given : Given) : SettingsArguments where
  config? := given.lookup "config"
  outputNamespace? := given.lookup "namespace"
  symbolPrefix? := given.lookup "prefix"
  vectorTag? := given.lookup "vector-tag"

/-- The directory that `generate` searches if none is given. -/
def defaultSourceDir : String := "src/main/tl"

/-- The commands of the program. -/
def specs : List Spec :=
  [{ name := "tokens"
     about := "Print the token stream of a `.tl` file as JSON"
     options := [inputOption "Input `.tl` file"]
     request := fun given => .tokens (value given "input") },
   { name := "plan"
     about := "Print definitions, child map and generation plans of a `.tl` file as JSON"
     options := inputOption "Input `.tl` file" :: settingsOptions
     request := fun given => .plan (value given "input") (settingsOf given) },
   { name := "gen-rust"
     about := "Generate Rust code from a single `.tl` schema"
     options := inputOption "Input `.tl` schema file" ::
       { name := "output", letter? := some 'o', takes := .path, placeholder := "OUTPUT"
         about := "Output `.rs` file (if omitted, prints to stdout)" } :: settingsOptions
     request := fun given =>
       .genRust (value given "input") (given.lookup "output") (settingsOf given) },
   { name := "generate"
     about := "Generate one `.rs` file per `.tl` file found under a directory"
     options :=
       { name := "source-dir", letter? := some 's', takes := .path, placeholder := "SOURCE_DIR"
         initial? := some defaultSourceDir
         about := "Directory searched recursively for `.tl` files" } ::
       { name := "output-dir", letter? := some 'o', takes := .path, placeholder := "OUTPUT_DIR"
         required := true
         about := "Output directory, deleted and recreated on every run" } :: settingsOptions
     request := fun given =>
       .generate ((given.lookup "source-dir").getD defaultSourceDir) (value given "output-dir")
         (settingsOf given) },
   { name := "decode"
     about := "Decode a binary TL object against a schema and print it as JSON"
     options := inputOption "Input `.tl` schema file" ::
       { name := "type", letter? := some 't', placeholder := "TYPE_NAME", required := true
         about := "Generated type name whose entry point decodes the data" } ::
       { name := "data", letter? := some 'd', takes := .path, placeholder := "DATA"
         required := true
         about := "Binary file holding the object, constructor id first" } ::
       { name := "response", takes := .nothing
         about := "Decode as the response to a request of `--type`" } ::
       { name := "exception", takes := .nothing
         about := "Fail on unknown constructors and bad vector tags instead of skipping" } ::
       settingsOptions
     request := fun given =>
       .decode (value given "input") (value given "type") (value given "data")
         (given.lookup "response").isSome (given.lookup "exception").isSome (settingsOf given) }]

/-- The help of the program. -/
def programHelp : String :=
  "\n".intercalate
    (["Tokenize, plan, decode, or generate Rust from TL schemas", "",
      "Usage: " ++ programName ++ " <COMMAND>", "", "Commands:"]
    ++ columns (specs.map (fun spec => (spec.name, spec.about))
      ++ [("help", "Print this message or the help of the given subcommand(s)")])
    ++ ["", "Options:"] ++ columns [("-h, --help", "Print help")])

/-- The help of the command that gives help. -/
def helpHelp : String :=
  "\n".intercalate
    (["Print this message or the help of the given subcommand(s)", "",
      "Usage: " ++ programName ++ " help [COMMAND]...", "", "Arguments:"]
    ++ columns [("[COMMAND]...", "Print help for the subcommand(s)")])

/-- The help of a command. -/
def Spec.help (spec : Spec) : String :=
  optionsHelp programName spec.name spec.about spec.options

/-- What arguments ask for: a request, a help text, or nothing that makes sense. -/
inductive Asked where
  /-- A request. -/
  | request (request : Request)
  /-- A help text. -/
  | help (text : String)
  /-- Nothing that makes sense. -/
  | misuse

/-- What the arguments of the program ask for. -/
def parse (arguments : List String) : Asked :=
  match arguments with
  | [] => .misuse
  | ["help"] => .help programHelp
  | ["help", "help"] => .help helpHelp
  | ["help", name] =>
    match specs.find? (·.name = name) with
    | some spec => .help spec.help
    | none => .misuse
  | name :: rest =>
    match specs.find? (·.name = name) with
    | some spec =>
      match parseOptions spec.options rest with
      | .done given => .request (spec.request given)
      | .help => .help spec.help
      | .misuse => .misuse
    | none =>
      match matchOption [] name with
      | .help => .help programHelp
      | _ => .misuse

/-! ## What can go wrong -/

/-- Why a request fails. -/
inductive CommandError where
  /-- A schema or the settings cannot be used. -/
  | compile (error : SchemaError)
  /-- An object cannot be read. -/
  | codec (error : CodecError)
  /-- The directory to search is no pattern. -/
  | pattern
  /-- The entry point does not know the object. -/
  | noMatch (typeName : String)
  /-- Some schemas could not be used. -/
  | generate (failed total : Nat)
  deriving DecidableEq, Repr

/-- The error as a record. -/
def CommandError.visible : CommandError → String
  | .compile error => Text.Visible.application "Compile" [error.visible]
  | .codec error => Text.Visible.application "Codec" [error.visible]
  | .pattern => Text.Visible.application "Pattern" ["malformed pattern"]
  | .noMatch typeName => Text.Visible.application "NoMatch" [Text.Visible.string typeName]
  | .generate failed total =>
    Text.Visible.record "Generate" [("failed", toString failed), ("total", toString total)]

/-! ## Doing it -/

variable {m : Type → Type} [Monad m] [FileAccess m]

/-- The contents of a file. -/
def readFile (path : String) : ExceptT CommandError m ByteArray := do
  match ← (FileAccess.read path : m _) with
  | .ok contents => return contents
  | .error fault => throw (.compile (.io fault.reason))

/-- Does something to files. -/
def fileAction (action : m (Except FileFault Unit)) : ExceptT CommandError m Unit := do
  match ← (action : m _) with
  | .ok () => return ()
  | .error fault => throw (.compile (.io fault.reason))

/-- Writes a text to a file. -/
def writeFile (path text : String) : ExceptT CommandError m Unit :=
  fileAction (FileAccess.write path text.toUTF8)

/-- Goes on with a result about schemas. -/
def schemaResult {α : Type} (result : Except SchemaError α) : ExceptT CommandError m α :=
  match result with
  | .ok a => pure a
  | .error e => throw (.compile e)

/-- The settings that options ask for: those of a file, with the given ones in their place. -/
def loadSettings (arguments : SettingsArguments) : ExceptT CommandError m Settings := do
  let base ← match arguments.config? with
    | none => pure {}
    | some path => do
      let contents ← readFile path
      if h : contents.IsValidUTF8 then schemaResult (Settings.ofJson (String.fromUTF8 contents h))
      else throw (.compile (.io "stream did not contain valid UTF-8"))
  let settings : Settings :=
    { outputNamespace := arguments.outputNamespace?.getD base.outputNamespace
      symbolPrefix := arguments.symbolPrefix?.getD base.symbolPrefix
      vectorFramingTag := arguments.vectorTag?.getD base.vectorFramingTag }
  let _ ← schemaResult settings.vectorTag
  return settings

/-- Compiles the schema in a file. -/
def compileFile (path : String) (settings : Settings) : ExceptT CommandError m Compilation := do
  let contents ← readFile path
  schemaResult (Compilation.ofReader (ByteStream.ofBytes contents) settings)

/-- Generates the code of one schema file. -/
def generateOne (input output : String) (settings : Settings) : ExceptT CommandError m Unit := do
  let compilation ← compileFile input settings
  fileAction (FileAccess.createParents output)
  writeFile output (Render.code compilation settings)

/-- The file for the code of a schema file: the same path inside the output directory. -/
def outputPath (sourceDir outputDir input : String) : String :=
  Path.withExtension (Path.join outputDir ((Path.relativeTo? sourceDir input).getD input)) "rs"

/-- Makes the output directory anew. -/
def renewDirectory (path : String) : ExceptT CommandError m Unit := do
  if ← (FileAccess.isPresent path : m _) then fileAction (FileAccess.removeDirectory path)
  fileAction (FileAccess.createDirectories path)

/-- What a request prints, and the error that it ends with. -/
structure Report where
  /-- What is printed. -/
  output : String := ""
  /-- The error. -/
  error? : Option CommandError := none

/-- Generates the code of every schema file in a directory. A schema that cannot be used does not
keep the others from being used. -/
def generateAll (sourceDir outputDir : String) (settings : Settings) :
    ExceptT CommandError m Report := do
  renewDirectory outputDir
  let some pattern := Glob.Pattern.ofText? (Path.join (Path.join sourceDir "**") "*.tl")
    | throw .pattern
  let inputs ← (pattern.search : m _)
  let results ← (inputs.mapM fun input =>
    (generateOne input (outputPath sourceDir outputDir input) settings).run : m _)
  let failed := results.countP fun
    | .ok _ => false
    | .error _ => true
  let total := inputs.length
  return {
    output := s!"Generated {total - failed} of {total} schema file(s) into {outputDir}\n"
    error? := if failed = 0 then none else some (.generate failed total) }

/-- What a request prints if nothing goes wrong. -/
def perform (request : Request) : ExceptT CommandError m Report :=
  match request with
  | .tokens input => do
    let contents ← readFile input
    let tokens ← schemaResult (CharReader.tokens (ByteStream.ofBytes contents))
    return { output := (Json.arr (tokens.map Token.toJson)).pretty ++ "\n" }
  | .plan input settings => do
    let settings ← loadSettings settings
    let compilation ← compileFile input settings
    return { output := compilation.toJson.pretty ++ "\n" }
  | .genRust input output? settings => do
    let settings ← loadSettings settings
    let compilation ← compileFile input settings
    let code := Render.code compilation settings
    match output? with
    | some path =>
      writeFile path code
      return { output := s!"Generated Rust code written to {path}\n" }
    | none => return { output := code ++ "\n" }
  | .generate sourceDir outputDir settings => do
    let settings ← loadSettings settings
    generateAll sourceDir outputDir settings
  | .decode input typeName data response strict settings => do
    let settings ← loadSettings settings
    let compilation ← compileFile input settings
    let registry : Registry := ⟨compilation.plans⟩
    let bytes ← readFile data
    let result :=
      if response then registry.decodeResponse bytes typeName strict
      else registry.decode bytes typeName strict
    match result with
    | .error e => throw (.codec e)
    | .ok none => throw (.noMatch typeName)
    | .ok (some value) => return { output := value.toJson.pretty ++ "\n" }

/-- What the program prints and how it ends. -/
structure Outcome where
  /-- The exit status: one after an error, two if the arguments make no sense. -/
  status : Nat
  /-- What is printed. -/
  output : String
  /-- The error as a record. -/
  error? : Option String

/-- Runs the program. -/
def run (arguments : List String) : m Outcome := do
  match parse arguments with
  | .misuse => return ⟨2, "", none⟩
  | .help text => return ⟨0, text ++ "\n", none⟩
  | .request request =>
    match ← (perform request).run with
    | .ok report =>
      return match report.error? with
        | none => ⟨0, report.output, none⟩
        | some e => ⟨1, report.output, some e.visible⟩
    | .error e => return ⟨1, "", some e.visible⟩

end TlSchema.Command
