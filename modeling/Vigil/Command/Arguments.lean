import Vigil.Text.Terminal

/-!
# The command line

* `Shell`, `Task`, `Invocation`: what a command line asks for;
* `Halt`, `UsageFault`: command lines that ask for help or a version, and those that are wrong;
* `Reading`: the options of one command while they are read; an option that waits for its value, or
  whose value has not been looked at yet, is pending;
* `parse`: read a whole command line.
-/

namespace Vigil.Command

/-- A shell for which completions can be generated. -/
inductive Shell where
  | bash
  | elvish
  | fish
  | powershell
  | zsh
  deriving DecidableEq, Repr

/-- The shell with a name. -/
def Shell.ofName? : String → Option Shell
  | "bash" => some bash
  | "elvish" => some elvish
  | "fish" => some fish
  | "powershell" => some powershell
  | "zsh" => some zsh
  | _ => none

/-- What is to be done: check the settings file and report on it, perhaps in JSON, or print
completions for a shell. -/
inductive Task where
  | check (json : Bool)
  | completion (shell : Shell)
  deriving DecidableEq, Repr

/-- What a command line asks for: the path of the settings file, whether more is to be recorded,
whether records are written in JSON, and what is to be done. -/
structure Invocation where
  config : String := "memwatch.toml"
  verbose : Bool := false
  logJson : Bool := false
  task : Task
  deriving DecidableEq, Repr

/-- The commands about which help can be had. -/
inductive Page where
  | main
  | check
  | completion
  | help
  deriving DecidableEq, Repr

/-- What can be given to commands. -/
inductive Argument where
  | config
  | verbose
  | logJson
  | json
  | shell
  | help
  | version
  deriving DecidableEq, Repr

/-- An argument as messages show it. -/
def Argument.text : Argument → String
  | config => "--config <CONFIG>"
  | verbose => "--verbose"
  | logJson => "--log-json"
  | json => "--json"
  | shell => "<SHELL>"
  | help => "--help"
  | version => "--version"

/-- What is wrong with a command line.  Nothing is given if it is empty. -/
inductive UsageFault where
  | nothingGiven
  | missingSubcommand
  | unrecognizedSubcommand (name : String)
  | unexpectedArgument (text : String)
  | unexpectedValue (value : String) (argument : Argument)
  | valueRequired (argument : Argument)
  | invalidValue (value : String) (argument : Argument)
  | usedTwice (argument : Argument)
  | missingArguments
  deriving DecidableEq, Repr

/-- Why reading a command line stops early: help or the version was asked for, or something is
wrong. -/
inductive Halt where
  | help (page : Page)
  | version (page : Page)
  | fault (f : UsageFault)
  deriving DecidableEq, Repr

/-! ## Options of one command -/

/-- The options of one command while they are read: the arguments that were read, with their values,
and one that waits for its value, or whose value has not been looked at. -/
structure Reading where
  page : Page
  given : List (Argument × String) := []
  pending : Option (Argument × Option String) := none

namespace Reading

/-- Whether an argument waits for its value. -/
def waits (r : Reading) : Bool := r.pending.any (·.2.isNone)

/-- The options that a command knows by a long name. -/
def long? : Page → String → Option Argument
  | _, "help" => some .help
  | _, "version" => some .version
  | .main, "config" => some .config
  | .main, "verbose" => some .verbose
  | .main, "log-json" => some .logJson
  | .check, "json" => some .json
  | _, _ => none

/-- The options that a command knows by a letter. -/
def short? : Page → Char → Option Argument
  | _, 'h' => some .help
  | _, 'V' => some .version
  | .main, 'c' => some .config
  | .main, 'v' => some .verbose
  | _, _ => none

/-- Whether a value suits an argument. -/
def suits (a : Argument) (value : String) : Except Halt Unit :=
  match a with
  | .config => if value.isEmpty then .error (.fault (.valueRequired a)) else .ok ()
  | .shell =>
    if value.isEmpty then .error (.fault (.valueRequired a))
    else if (Shell.ofName? value).isNone then .error (.fault (.invalidValue value a))
    else .ok ()
  | _ => .ok ()

/-- Accept an argument with its value; each may be given once. -/
def accept (r : Reading) (a : Argument) (value : String) : Except Halt Reading := do
  if r.given.any (·.1 == a) then throw (.fault (.usedTwice a))
  suits a value
  return { r with given := r.given ++ [(a, value)] }

/-- Look at what is pending. -/
def settle (r : Reading) : Except Halt Reading :=
  match r.pending with
  | none => .ok r
  | some (a, none) => .error (.fault (.valueRequired a))
  | some (a, some value) => { r with pending := none }.accept a value

/-- Take an option without a value. -/
def flag (r : Reading) (a : Argument) : Except Halt Reading := do
  let r ← r.settle
  match a with
  | .help => throw (.help r.page)
  | .version => throw (.version r.page)
  | a => r.accept a ""

/-- Take an option whose value, if it is there already, was written with it. -/
def valued (r : Reading) (a : Argument) (attached : Option String) : Except Halt Reading := do
  let r ← r.settle
  match attached with
  | some value => r.accept a value
  | none => return { r with pending := some (a, none) }

/-- Take a long option, without its dashes. -/
def takeLong (r : Reading) (body : List Char) : Except Halt Reading :=
  let name := String.ofList (body.takeWhile (· ≠ '='))
  let attached := match body.dropWhile (· ≠ '=') with
    | _ :: value => some (String.ofList value)
    | [] => none
  match long? r.page name, attached with
  | none, _ => .error (.fault (.unexpectedArgument ("--" ++ name)))
  | some .config, attached => r.valued .config attached
  | some a, some value => .error (.fault (.unexpectedValue value a))
  | some a, none => r.flag a

/-- Take options that are written as letters behind one dash.  What follows the letter of an option
with a value is its value. -/
def takeShort (r : Reading) : List Char → Except Halt Reading
  | [] => .ok r
  | c :: cs =>
    match short? r.page c with
    | none => .error (.fault (.unexpectedArgument (String.ofList ['-', c])))
    | some .config =>
      match cs with
      | [] => r.valued .config none
      | '=' :: value => r.valued .config (some (String.ofList value))
      | value => r.valued .config (some (String.ofList value))
    | some a => do takeShort (← r.flag a) cs

/-- Take a word that begins with a dash; nothing if it does not. -/
def takeOption? (r : Reading) (word : String) : Option (Except Halt Reading) :=
  match word.toList with
  | '-' :: '-' :: body => if body.isEmpty then none else some (r.takeLong body)
  | '-' :: c :: cs => some (r.takeShort (c :: cs))
  | _ => none

/-- Give a word to the argument that waits for it. -/
def feed (r : Reading) (word : String) : Reading :=
  { r with pending := r.pending.map fun p => (p.1, some word) }

/-- Whether an argument was given. -/
def has (r : Reading) (a : Argument) : Bool := r.given.any (·.1 == a)

/-- The value of an argument. -/
def value? (r : Reading) (a : Argument) : Option String :=
  (r.given.find? (·.1 == a)).map (·.2)

end Reading

/-! ## Commands -/

/-- Read the words behind a subcommand.  At most one word that is no option is taken, as the value
of `positional`; behind a double dash no word is an option. -/
def parseWords (positional : Option Argument) (taken trailing : Bool) (r : Reading) :
    List String → Except Halt Reading
  | [] => r.settle
  | word :: words =>
    if !trailing && word == "--" then parseWords positional taken true r words
    else
      match if trailing then none else r.takeOption? word with
      | some next => do parseWords positional taken trailing (← next) words
      | none =>
        match positional with
        | some a =>
          if taken then .error (.fault (.unexpectedArgument word))
          else do
            let r ← r.settle
            parseWords positional true trailing { r with pending := some (a, some word) } words
        | none => .error (.fault (.unexpectedArgument word))

/-- Read the words behind `check`. -/
def parseCheck (words : List String) : Except Halt Task := do
  let r ← parseWords none false false { page := .check } words
  return .check (r.has .json)

/-- Read the words behind `completion`. -/
def parseCompletion (words : List String) : Except Halt Task := do
  let r ← parseWords (some .shell) false false { page := .completion } words
  match r.value? .shell >>= Shell.ofName? with
  | some shell => return .completion shell
  | none => throw (.fault .missingArguments)

/-- The command with a name. -/
def Page.ofName? : String → Option Page
  | "check" => some .check
  | "completion" => some .completion
  | "help" => some .help
  | _ => none

/-- Read the words behind `help`: the command that help is wanted for.  Only the whole program has
commands below it. -/
def parseHelp : List String → Halt
  | [] => .help .main
  | [word] =>
    match Page.ofName? word with
    | some page => .help page
    | none => .fault (.unrecognizedSubcommand word)
  | word :: next :: _ =>
    .fault (.unrecognizedSubcommand (if (Page.ofName? word).isSome then next else word))

/-- Read words up to a subcommand, and with it the rest.  What is pending before a subcommand is
looked at only when the subcommand has been read. -/
def parseMain (trailing : Bool) (r : Reading) : List String → Except Halt (Reading × Task)
  | [] => do
    let r ← r.settle
    if r.given.isEmpty then throw (.fault .nothingGiven) else throw (.fault .missingSubcommand)
  | word :: words =>
    let subcommand := if trailing || r.waits then none else Page.ofName? word
    match subcommand with
    | some .check => do
      let task ← parseCheck words
      return (← r.settle, task)
    | some .completion => do
      let task ← parseCompletion words
      return (← r.settle, task)
    | some _ => .error (parseHelp words)
    | none =>
      if !trailing && word == "--" then parseMain true r words
      else
        match if trailing then none else r.takeOption? word with
        | some next => do parseMain trailing (← next) words
        | none =>
          if !trailing && r.waits then parseMain trailing (r.feed word) words
          else if trailing && (Page.ofName? word).isSome then
            .error (.fault (.unexpectedArgument word))
          else .error (.fault (.unrecognizedSubcommand word))

/-- Read a command line. -/
def parse (words : List String) : Except Halt Invocation := do
  let (r, task) ← parseMain false { page := .main } words
  return {
    config := (r.value? .config).getD "memwatch.toml"
    verbose := r.has .verbose
    logJson := r.has .logJson
    task }

/-! ## Words -/

/-- The version of the program. -/
def version : String := "0.1.0"

/-- The name of the program and of its commands, as the version shows it. -/
def Page.displayName : Page → String
  | main => "memwatch"
  | check => "memwatch-check"
  | completion => "memwatch-completion"
  | help => "memwatch-help"

/-- What a command is for: the first line of its help. -/
def Page.summary : Page → String
  | main => "A process memory watchdog with strike-based remediation"
  | check => "Validate the settings file and print the resolved values"
  | completion => "Generate shell completions"
  | help => "Print this message or the help of the given subcommand(s)"

/-- A word of the command line between single quotes.  Nothing in it may steer the terminal. -/
def cited (word : String) : String := "'" ++ Text.withoutControls word ++ "'"

/-- What is wrong with a command line, in words.  An empty command line is answered by help. -/
def UsageFault.message : UsageFault → String
  | nothingGiven => Page.main.summary
  | missingSubcommand =>
    "error: 'memwatch' requires a subcommand but one was not provided"
  | unrecognizedSubcommand name => "error: unrecognized subcommand " ++ cited name
  | unexpectedArgument text => "error: unexpected argument " ++ cited text ++ " found"
  | unexpectedValue value a =>
    "error: unexpected value " ++ cited value ++ " for '" ++ a.text ++
      "' found; no more were expected"
  | valueRequired a => "error: a value is required for '" ++ a.text ++ "' but none was supplied"
  | invalidValue value a => "error: invalid value " ++ cited value ++ " for '" ++ a.text ++ "'"
  | usedTwice a => "error: the argument '" ++ a.text ++ "' cannot be used multiple times"
  | missingArguments => "error: the following required arguments were not provided:"

/-- The first line of the completions for a shell. -/
def Shell.firstLine : Shell → String
  | bash => "_memwatch() \x7b"
  | elvish => ""
  | fish =>
    "# Print an optspec for argparse to handle cmd's options that are independent of any " ++
      "subcommand."
  | powershell => ""
  | zsh => "#compdef memwatch"

end Vigil.Command
