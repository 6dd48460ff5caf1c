import AttrFold.Cli.Run

/-!
What a command can look at or change: the settings file, and the file or directory that its arguments
name. Nothing else of a file tree has to be known to run it.
-/

namespace AttrFold.Cli

/-- The file or directory that a command is about. -/
def Command.subject? : Command → Option Text
  | .scan path .. | .show path .. | .preview path .. => some path
  | .watch directory => some directory
  | .format _ | .toggle | .showSettings | .initSettings _ | .setSetting .. | .help => none

/-- The paths that a command line leads to. -/
def reach (env : Environment) (args : List Text) : List Path :=
  match Invocation.read args with
  | .error _ => []
  | .ok inv =>
    let subject := inv.command.subject?.toList.map Path.ofText
    match FileStore.path (inv.settings.or env.settings) env.home with
    | .error _ => subject
    | .ok store => store :: subject

/-- Whether the command waits for changes of files. -/
def awaitsChanges (args : List Text) : Bool :=
  match Invocation.read args with
  | .ok ⟨_, _, .watch _⟩ => true
  | _ => false

/-- The places that are passed on the way along a path, the last one included. -/
def placesAlong (current : Location) (p : Path) : List Location :=
  let start := if p.anchor.isEmpty then current else []
  let step (l : Location) (name : Text) := if name = ".." then l.dropLast else l ++ [name]
  (List.range (p.names.length + 1)).map fun i => (p.names.take i).foldl step start

end AttrFold.Cli
