import AttrFold.Cli.Reach

/-!
The program: reads the files that the command line leads to, runs the command, and writes what it
changed and printed. A watching command takes the paths of changed files from the standard input, one
to a line, until it ends.
-/

namespace AttrFold.Main

/-- The name of a place for the operating system. -/
def diskName (l : Location) : String := String.ofList ('/' :: Text.joinWith "/" l)

/-- What lies at a place, when the place above it is a directory. -/
def itemAt? (l : Location) : IO (Option Item) := do
  match ← (IO.FS.readBinFile (diskName l)).toBaseIO with
  | .ok bytes => return some (.file bytes)
  | .error (.inappropriateType ..) => return some .directory
  | .error (.noFileOrDirectory ..) => return none
  | .error e => throw e

/-- Reads what lies along the way of a path, as far as there are directories to enter. -/
def readAlong (fs : Files) : List Location → IO Files
  | [] => return fs
  | l :: ls => do
    match ← itemAt? l with
    | none => return fs
    | some (.file bytes) => return fs.place l (.file bytes)
    | some .directory => readAlong (fs.place l .directory) ls

/-- Reads what lies along the ways of paths. -/
def readPaths (fs : Files) (paths : List Path) : IO Files :=
  paths.foldlM (fun fs p => readAlong fs (Cli.placesAlong fs.current p)) fs

/-- Writes what has changed from one tree to another. -/
def writeChanges (before after : Files) : IO Unit :=
  after.items.forM fun (l, item) => do
    if before.items.get? l ≠ some item then
      match item with
      | .directory => IO.FS.createDir (diskName l)
      | .file bytes => IO.FS.writeBinFile (diskName l) bytes

/-- Reads lines until the input ends. -/
partial def readLines (input : IO.FS.Stream) : IO (List Text) := do
  let line ← input.getLine
  if line.isEmpty then return []
  return Text.dropEndWhile (· = '\n') line.toList :: (← readLines input)

/-- The batch of a file that has changed, or is gone. -/
def batchOf (fs : Files) (p : Path) : Cli.Batch :=
  { changes := [⟨if fs.doesExist p then .modified else .deleted, p⟩] }

/-- The word for a level. -/
def levelWord : Level → String
  | .debug => "DEBUG"
  | .info => "INFO"
  | .warning => "WARNING"
  | .error => "ERROR"

/-- Prints what a command printed and reported. -/
def printOutcome (outcome : Cli.Outcome) : IO Unit := do
  IO.print (String.ofList outcome.output)
  outcome.events.forM fun e => IO.eprintln (levelWord e.level ++ " " ++ String.ofList e.message)
  IO.eprint (String.ofList outcome.errorOutput)
  outcome.failure.forM fun f => IO.eprint (String.ofList f.note)

end AttrFold.Main

open AttrFold in
/-- Runs the program. -/
def main (args : List String) : IO UInt32 := do
  let args := args.map String.toList
  let home := ((← IO.getEnv "HOME").getD "/").toList
  let env : Cli.Environment := ⟨home, (← IO.getEnv "CLASSFOLD_SETTINGS").map String.toList⟩
  let here := Path.ofText (← IO.currentDir).toString.toList
  let changed ← if Cli.awaitsChanges args then Main.readLines (← IO.getStdin) else pure []
  let changed := changed.map Path.ofText
  let above ← Main.readPaths {} [here]
  let before ← Main.readPaths { above with current := here.names } (Cli.reach env args ++ changed)
  let outcome := Cli.run before env (changed.map (Main.batchOf before)) args
  Main.writeChanges before outcome.files
  Main.printOutcome outcome
  return outcome.exitCode.toUInt32
