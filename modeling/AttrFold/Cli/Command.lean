import AttrFold.Cli.Arguments
import AttrFold.Settings.Basic

/-!
The commands of the program and how they are typed.
-/

namespace AttrFold.Cli

/-- What the program is asked to do. -/
inductive Command where
  | scan (path : Text) (language : Option Text) (selections : List Text)
  | show (path : Text) (language : Option Text) (selections : List Text)
  | preview (path place : Text) (language : Option Text)
  | format (classList : Text)
  | toggle
  | watch (directory : Text)
  | showSettings
  | initSettings (force : Bool)
  | setSetting (key value : Text)
  | help
deriving DecidableEq

/-- A command with the options that stand before it. -/
structure Invocation where
  settings : Option Text := none
  isVerbose : Bool := false
  command : Command
deriving DecidableEq

/-- The ways to ask for help. -/
def helpNames : List (Text × Opt) := [("--help", .help)]

/-- The options before the command. -/
def programGrammar : Grammar where
  long := ("--settings", .settings) :: ("--verbose", .verbose) :: helpNames
  short := [('v', .verbose), ('h', .help)]
  isMixed := false

/-- The options of a group of commands. -/
def groupGrammar : Grammar := ⟨helpNames, [('h', .help)], false⟩

/-- The options of commands that have no options of their own. -/
def plainGrammar : Grammar := ⟨helpNames, [('h', .help)], true⟩

/-- The options of commands about a document. -/
def documentGrammar : Grammar := ⟨("--language", .language) :: helpNames, [('h', .help)], true⟩

/-- The options of commands about a document in which something is selected. -/
def selectionGrammar : Grammar :=
  ⟨("--language", .language) :: ("--select", .select) :: helpNames,
    [('s', .select), ('h', .help)], true⟩

/-- The options of the command that writes a new settings file. -/
def initGrammar : Grammar := ⟨("--force", .force) :: helpNames, [('h', .help)], true⟩

/-- Reads the arguments of a command by its grammar. A list of positional arguments for which `make`
has no command lacks an argument when it is shorter than `arity`, and is too long otherwise. -/
def readCommand (g : Grammar) (arity : Nat) (args : List Text)
    (make : Parsed → List Text → Option Command) : Except Misuse Command :=
  match g.parse args with
  | .error e => .error e
  | .ok p =>
    if p.has .help then .ok .help
    else
      match make p p.positional with
      | some c => .ok c
      | none => .error (if p.positional.length < arity then .missingArgument else .other)

/-- Reads a command about the settings file. -/
def readSettingsCommand : List Text → Except Misuse Command
  | [] => .error .other
  | name :: args =>
    if name = "show" then
      readCommand plainGrammar 0 args fun _ positional =>
        if positional.isEmpty then some .showSettings else none
    else if name = "init" then
      readCommand initGrammar 0 args fun p positional =>
        if positional.isEmpty then some (.initSettings (p.has .force)) else none
    else if name = "set" then
      readCommand plainGrammar 2 args fun _ positional =>
        match positional with
        | [key, value] => some (.setSetting key value)
        | _ => none
    else .error .other

/-- Reads a command. -/
def readNamed (name : Text) (args : List Text) : Except Misuse Command :=
  if name = "scan" || name = "show" then
    readCommand selectionGrammar 1 args fun p positional =>
      match positional with
      | [path] =>
        let make := if name = "scan" then Command.scan else Command.show
        some (make path (p.value? .language) (p.values .select))
      | _ => none
  else if name = "preview" then
    readCommand documentGrammar 2 args fun p positional =>
      match positional with
      | [path, place] => some (.preview path place (p.value? .language))
      | _ => none
  else if name = "format" then
    readCommand plainGrammar 1 args fun _ positional =>
      match positional with
      | [classList] => some (.format classList)
      | _ => none
  else if name = "toggle" then
    readCommand plainGrammar 0 args fun _ positional =>
      if positional.isEmpty then some .toggle else none
  else if name = "watch" then
    readCommand plainGrammar 0 args fun _ positional =>
      match positional with
      | [] => some (.watch ".")
      | [directory] => some (.watch directory)
      | _ => none
  else if name = "config" then
    match groupGrammar.parse args with
    | .error e => .error e
    | .ok p => if p.has .help then .ok .help else readSettingsCommand p.positional
  else .error .other

/-- Reads a command line without the name of the program. -/
def Invocation.read (args : List Text) : Except Misuse Invocation :=
  if args.isEmpty then .ok { command := .help }
  else
    match programGrammar.parse args with
    | .error e => .error e
    | .ok p =>
      if p.has .help then .ok { command := .help }
      else
        match p.positional with
        | [] => .error .other
        | name :: args =>
          match readNamed name args with
          | .error e => .error e
          | .ok command => .ok ⟨p.value? .settings, p.has .verbose, command⟩

end AttrFold.Cli
