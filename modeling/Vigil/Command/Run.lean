import Vigil.Command.Arguments
import Vigil.Command.Filter
import Vigil.Settings.Load
import Vigil.Settings.Report

/-!
# Running the program

* `Environment`: what the program can see;
* `Output`: what it prints, and how it failed if it did;
* `run`: what a command line does.
-/

namespace Vigil.Command

/-- What the program can see: files, what the user wants written of the journal, if anything is set,
and the time, as records show it. -/
structure Environment where
  read : String → Except IoFault ByteArray
  filter : Option String
  now : String

/-- How the program failed: the command line is wrong, or what was asked for could not be done. -/
inductive Failure where
  | usage (f : UsageFault)
  | fault (f : Fault)

/-- What the program prints, and how it failed if it did. -/
structure Output where
  stdout : String := ""
  failure : Option Failure := none

/-- The program's answer to its caller: zero, one for a fault, two for a wrong command line. -/
def Output.code (o : Output) : Nat :=
  match o.failure with
  | none => 0
  | some (.fault _) => 1
  | some (.usage _) => 2

/-- What is printed about a failure. -/
def Output.stderr (o : Output) : String :=
  match o.failure with
  | none => ""
  | some (.fault f) => "Error: " ++ f.message ++ "\n"
  | some (.usage f) => f.message ++ "\n"

/-- The filter in effect: what is set, if it can be read, or else all records from a threshold
on. -/
def currentFilter (setting : Option String) (verbose : Bool) : Filter :=
  (setting >>= Filter.parse?).getD (.all (if verbose then .debug else .info))

/-- The record that settings were read from a path. -/
def loaded (path : String) : Record where
  level := .debug
  target := "memwatch"
  message := "memwatch: settings loaded"
  fields := [("path", .text path)]

/-- The line of the journal with the record that settings were read from a path, as text or as
JSON. -/
def loadedLine (json : Bool) (now path : String) : String :=
  let r := loaded path
  if json then
    (Json.object
      [("timestamp", .string now), ("level", .string "DEBUG"),
       ("fields", .object [("message", .string r.message), ("path", .string path)]),
       ("target", .string r.target)]).compact ++ "\n"
  else now ++ " DEBUG " ++ r.target ++ ": " ++ r.message ++ " path=" ++ path ++ "\n"

/-- Check the settings file: the journal's line, if it is to be written, and the report. -/
def check (env : Environment) (i : Invocation) (json : Bool) : Output :=
  match Settings.load env.read i.config with
  | .error f => { failure := some (.fault f) }
  | .ok settings =>
    let line :=
      if (currentFilter env.filter i.verbose).enables (loaded i.config) then
        loadedLine i.logJson env.now i.config
      else ""
    { stdout := line ++ if json then settings.jsonReport else settings.plainReport }

/-- What a command line does. -/
def run (env : Environment) (words : List String) : Output :=
  match parse words with
  | .error (.help page) => { stdout := page.summary ++ "\n" }
  | .error (.version page) => { stdout := page.displayName ++ " " ++ version ++ "\n" }
  | .error (.fault f) => { failure := some (.usage f) }
  | .ok i =>
    match i.task with
    | .check json => check env i json
    | .completion shell => { stdout := shell.firstLine ++ "\n" }

end Vigil.Command
