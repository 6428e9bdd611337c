/-!
# Command line arguments

The options of the commands and how arguments are matched against them. An option has a long name
and may have a letter; its value is the next argument or is attached, as in `--input=a.tl`, `-ia.tl`
and `-i=a.tl`. No option may be given twice.
-/

namespace TlSchema.Command

/-- What an option takes. -/
inductive Takes where
  /-- No value: giving the option says yes. -/
  | nothing
  /-- A text. -/
  | text
  /-- A path, which is never empty. -/
  | path
  deriving DecidableEq, Repr

/-- An option of a command. -/
structure Opt where
  /-- Its long name. -/
  name : String
  /-- Its letter, if it has one. -/
  letter? : Option Char := none
  /-- What it takes. -/
  takes : Takes := .text
  /-- What its value is called. -/
  placeholder : String := ""
  /-- Whether it must be given. -/
  required : Bool := false
  /-- The value it has if it is not given. -/
  initial? : Option String := none
  /-- What it is for. -/
  about : String
  deriving DecidableEq, Repr

/-- What became of arguments. -/
inductive Parsed (α : Type) where
  /-- They were understood. -/
  | done (result : α)
  /-- They ask for help. -/
  | help
  /-- They make no sense. -/
  | misuse
  deriving Repr

/-- The values given for options, by name. -/
abbrev Given := List (String × String)

/-- Takes in the value of an option. -/
def give (given : Given) (opt : Opt) (value : String) : Option Given :=
  if (given.lookup opt.name).isSome then none
  else if opt.takes = .path && value = "" then none
  else some ((opt.name, value) :: given)

/-- Whether an argument is an option and not a value. -/
def isOption (argument : String) : Bool :=
  match argument.toList with
  | '-' :: _ :: _ => true
  | _ => false

/-- The name of a long option and the value attached to it. -/
def splitLong (body : List Char) : String × Option String :=
  let name := body.takeWhile (· ≠ '=')
  match body.drop name.length with
  | [] => (String.ofList name, none)
  | _ :: value => (String.ofList name, some (String.ofList value))

/-- The value attached to a letter: what follows it, without an equals sign before it. -/
def attached? : List Char → Option String
  | [] => none
  | '=' :: value => some (String.ofList value)
  | value => some (String.ofList value)

/-- What an argument that starts with a dash asks for. -/
inductive Matched where
  /-- The option with the value attached to it. -/
  | option (opt : Opt) (value? : Option String)
  /-- The request for help. -/
  | help
  /-- No option of the command. -/
  | unknown

/-- The option that an argument names. -/
def matchOption (options : List Opt) (argument : String) : Matched :=
  match argument.toList with
  | '-' :: '-' :: body =>
    let (name, value?) := splitLong body
    match options.find? (·.name = name) with
    | some opt => .option opt value?
    | none => if name = "help" && value?.isNone then .help else .unknown
  | '-' :: letter :: body =>
    match options.find? (·.letter? = some letter) with
    | some opt => .option opt (attached? body)
    | none => if letter = 'h' then .help else .unknown
  | _ => .unknown

/-- Matches arguments against options, after those in `given`. -/
def matchArguments (options : List Opt) (given : Given) : List String → Parsed Given
  | [] => .done given
  | "--" :: rest => if rest.isEmpty then .done given else .misuse
  | argument :: rest =>
    match matchOption options argument with
    | .help => .help
    | .unknown => .misuse
    | .option opt value? =>
      if opt.takes = .nothing then
        match value?, give given opt "" with
        | none, some given => matchArguments options given rest
        | _, _ => .misuse
      else
        match value?, rest with
        | some value, rest =>
          match give given opt value with
          | some given => matchArguments options given rest
          | none => .misuse
        | none, value :: rest =>
          if isOption value then .misuse
          else match give given opt value with
            | some given => matchArguments options given rest
            | none => .misuse
        | none, [] => .misuse

/-- Matches all arguments of a command and sees to it that nothing required is missing. -/
def parseOptions (options : List Opt) (arguments : List String) : Parsed Given :=
  match matchArguments options [] arguments with
  | .done given =>
    if options.all fun opt => !opt.required || (given.lookup opt.name).isSome then .done given
    else .misuse
  | other => other

/-! ## Help

The help of a command lists its options in two columns. -/

/-- Two columns, the first as wide as its widest entry. -/
def columns (rows : List (String × String)) : List String :=
  let width := rows.foldl (fun width row => max width row.1.length) 0
  rows.map fun (left, right) => "  " ++ left ++ "".pushn ' ' (width - left.length + 2) ++ right

/-- An option with the name of its value. -/
def Opt.form (opt : Opt) : String :=
  if opt.takes = .nothing then "--" ++ opt.name
  else "--" ++ opt.name ++ " <" ++ opt.placeholder ++ ">"

/-- The row of an option. -/
def Opt.row (opt : Opt) : String × String :=
  let letter := match opt.letter? with
    | some c => String.ofList ['-', c, ',', ' ']
    | none => "    "
  let about := match opt.initial? with
    | some value => opt.about ++ " [default: " ++ value ++ "]"
    | none => opt.about
  (letter ++ opt.form, about)

/-- The option that asks for help. -/
def helpOption : Opt where
  name := "help"
  letter? := some 'h'
  takes := .nothing
  about := "Print help"

/-- The help of a command. -/
def optionsHelp (program name about : String) (options : List Opt) : String :=
  let required := options.filter (·.required)
  let usage := ["Usage: " ++ program ++ " " ++ name]
    ++ (if required.length < options.length then ["[OPTIONS]"] else [])
    ++ required.map Opt.form
  "\n".intercalate ([about, "", " ".intercalate usage, "", "Options:"]
    ++ columns ((options ++ [helpOption]).map Opt.row))

end TlSchema.Command
