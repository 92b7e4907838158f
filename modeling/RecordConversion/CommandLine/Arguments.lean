import RecordConversion.Plan.Request
import RecordConversion.Text.Segment

/-!
# Command lines

A command line is a command with options.  An option that takes a value has it after an equals sign,
after a blank, or after the letter of its short name; a flag takes none.  Each may be given once.
Arguments are taken in order and the first that does not fit is refused; asking for help ends the
reading.
-/

namespace RecordConversion

/-- How results are shown. -/
inductive OutputFormat where
  | text
  | yaml
  | json
  deriving DecidableEq, Repr

namespace OutputFormat

/-- The format with a name. -/
def ofName? : String → Option OutputFormat
  | "text" => some text
  | "yaml" => some yaml
  | "json" => some json
  | _ => none

end OutputFormat

/-- What the program is asked to do. -/
inductive Command where
  | init (path : String)
  | validate (catalog : String) (list : Bool)
  | discover (catalog : String) (root : QualifiedName) (shallow : Bool) (format : OutputFormat)
  | plan (catalog : String) (request : PlanRequest) (format : OutputFormat)
  deriving DecidableEq, Repr

/-- A command line that names no command to carry out. -/
inductive Usage where
  /-- Help or the version was asked for. -/
  | shown
  /-- The arguments do not fit. -/
  | refused
  deriving DecidableEq, Repr

namespace Usage

/-- The exit code. -/
def exitCode : Usage → Nat
  | shown => 0
  | refused => 2

end Usage

/-- What an option takes. -/
inductive OptionKind where
  | flag
  | text
  /-- A text that is not empty. -/
  | path
  | format
  deriving DecidableEq, Repr

namespace OptionKind

/-- A value that an option takes. -/
def accepts (kind : OptionKind) (value : String) : Bool :=
  match kind with
  | flag => false
  | text => true
  | path => !value.isEmpty
  | format => (OutputFormat.ofName? value).isSome

end OptionKind

/-- An option of a command. -/
structure OptionSpec where
  name : String
  short? : Option Char
  kind : OptionKind
  required : Bool
  deriving DecidableEq, Repr

/-- The options of a command and the number of its arguments without a name. -/
structure CommandSpec where
  options : List OptionSpec
  arguments : Nat
  deriving Repr

/-- What has been given: options with their values, and arguments without a name. -/
structure Given where
  options : List (String × String)
  arguments : List String
  deriving Repr

namespace Given

/-- The value of an option. -/
def value? (given : Given) (name : String) : Option String :=
  given.options.lookup name

/-- A flag has been given. -/
def has (given : Given) (name : String) : Bool :=
  (given.value? name).isSome

end Given

namespace CommandSpec

/-- The option with a long name. -/
def long? (spec : CommandSpec) (name : String) : Option OptionSpec :=
  spec.options.find? (·.name == name)

/-- The option with a short name. -/
def short? (spec : CommandSpec) (letter : Char) : Option OptionSpec :=
  spec.options.find? (·.short? == some letter)

/-- An option is added with its value, if it takes the value and has not been given before. -/
def give
    (given : Given) (option : OptionSpec) (value : String) : Except Usage Given :=
  if given.has option.name || !option.kind.accepts value then .error .refused
  else .ok { given with options := given.options ++ [(option.name, value)] }

/-- A flag is added, if it has not been given before. -/
def giveFlag
    (given : Given) (option : OptionSpec) : Except Usage Given :=
  if given.has option.name then .error .refused
  else .ok { given with options := given.options ++ [(option.name, "")] }

/-- An argument without a name is added, if there is room for it. -/
def giveArgument
    (spec : CommandSpec) (given : Given) (value : String) : Except Usage Given :=
  if given.arguments.length < spec.arguments && !value.isEmpty then
    .ok { given with arguments := given.arguments ++ [value] }
  else .error .refused

/-- The argument looks like an option and not like a value. -/
def looksLikeOption (argument : String) : Bool :=
  match argument.toList with
  | '-' :: _ :: _ => true
  | _ => false

/-- An option with the value attached to it, or the argument after it; the flag of the answer tells
whether that argument has been taken. -/
def readOption
    (given : Given) (option? : Option OptionSpec) (value? next? : Option String) :
    Except Usage (Given × Bool) :=
  match option? with
  | none => .error .refused
  | some option =>
    match option.kind, value?, next? with
    | .flag, none, _ => (giveFlag given option).map fun given => (given, false)
    | .flag, some _, _ => .error .refused
    | _, some value, _ => (give given option value).map fun given => (given, false)
    | _, none, some value =>
      if looksLikeOption value then .error .refused
      else (give given option value).map fun given => (given, true)
    | _, none, none => .error .refused

/-- One argument, with a look at the one after it. -/
def readArgument
    (spec : CommandSpec) (given : Given) (argument : String) (next? : Option String) :
    Except Usage (Given × Bool) :=
  match argument.toList with
  | '-' :: '-' :: name =>
    let bare := String.ofList (name.takeWhile (· != '='))
    let value? := (name.dropWhile (· != '=')).tail?.map String.ofList
    if bare = "help" && value?.isNone then .error .shown
    else readOption given (spec.long? bare) value? next?
  | '-' :: letter :: attached =>
    let value? :=
      match attached with
      | [] => none
      | '=' :: value => some (String.ofList value)
      | value => some (String.ofList value)
    if letter = 'h' then .error .shown
    else readOption given (spec.short? letter) value? next?
  | _ => (spec.giveArgument given argument).map fun given => (given, false)

/-- The arguments of a command, after those already given; two hyphens end the options. -/
def read
    (spec : CommandSpec) : Given → List String → Except Usage Given
  | given, [] => .ok given
  | given, [argument] =>
    if argument = "--" then .ok given
    else (spec.readArgument given argument none).map Prod.fst
  | given, argument :: next :: rest =>
    if argument = "--" then (next :: rest).foldlM spec.giveArgument given
    else
      match spec.readArgument given argument (some next) with
      | .error usage => .error usage
      | .ok (given, false) => read spec given (next :: rest)
      | .ok (given, true) => read spec given rest

/-- What is given by the arguments of a command, with all that is required. -/
def parse
    (spec : CommandSpec) (arguments : List String) : Except Usage Given :=
  (spec.read ⟨[], []⟩ arguments).bind fun given =>
    if spec.options.all fun option => !option.required || given.has option.name then .ok given
    else .error .refused

end CommandSpec

namespace Command

/-! ## The commands -/

/-- The catalog file that a command works on. -/
def catalogOption : OptionSpec := ⟨"catalog", some 'c', .path, false⟩

/-- The format in which a command shows its result. -/
def formatOption : OptionSpec := ⟨"format", none, .format, false⟩

/-- A text that must be given. -/
def requiredText (name : String) : OptionSpec := ⟨name, none, .text, true⟩

/-- The options and arguments of the commands. -/
def specs : List (String × CommandSpec) :=
  [("init", ⟨[], 1⟩),
   ("validate", ⟨[catalogOption, ⟨"list", none, .flag, false⟩], 0⟩),
   ("discover",
    ⟨[catalogOption, requiredText "path", requiredText "type", ⟨"shallow", none, .flag, false⟩,
      formatOption], 0⟩),
   ("plan",
    ⟨[catalogOption, requiredText "src-type", requiredText "src-path", requiredText "dst-type",
      requiredText "dst-path", ⟨"func-name", none, .text, false⟩,
      ⟨"ignore-fields", none, .text, false⟩, formatOption], 0⟩)]

/-- The entries of a list with commas, without blanks around them; blank entries are left out. -/
def splitNames (text : String) : List String :=
  ((text.toList.splitOnP (· == ',')).map Text.strip).filterMap fun name =>
    if name.isEmpty then none else some (String.ofList name)

/-- The command with a name, of what has been given. -/
def ofGiven? (name : String) (given : Given) : Option Command :=
  let text := fun option : String => (given.value? option).getD ""
  let catalog := (given.value? "catalog").getD "catalog.yaml"
  let format := ((given.value? "format").bind OutputFormat.ofName?).getD .text
  match name with
  | "init" => some (.init (given.arguments.head?.getD "."))
  | "validate" => some (.validate catalog (given.has "list"))
  | "discover" =>
    some (.discover catalog ⟨text "path", text "type"⟩ (given.has "shallow") format)
  | "plan" =>
    some
      (.plan catalog
        { sourcePath := text "src-path"
          sourceType := text "src-type"
          targetPath := text "dst-path"
          targetType := text "dst-type"
          functionName? := given.value? "func-name"
          ignore := splitNames (text "ignore-fields") }
        format)
  | _ => none

/-- Help may be asked for on its own, on a command, and on itself. -/
def helpIsKnown (topics : List String) : Bool :=
  match topics with
  | [] => true
  | [topic] => topic = "help" || (specs.lookup topic).isSome
  | _ => false

/-- The command that a command line names. -/
def parse : List String → Except Usage Command
  | [] => .error .refused
  | name :: arguments =>
    match specs.lookup name with
    | some spec =>
      (spec.parse arguments).bind fun given =>
        match ofGiven? name given with
        | some command => .ok command
        | none => .error .refused
    | none =>
      match name.toList with
      | '-' :: 'h' :: _ | '-' :: 'V' :: _ => .error .shown
      | _ =>
        if ["--help", "--version"].contains name then .error .shown
        else if name = "help" && helpIsKnown arguments then .error .shown
        else .error .refused

end Command
end RecordConversion
