import AttrFold.Json.Reader
import AttrFold.Json.Writer
import AttrFold.Path
import AttrFold.Settings.Basic

/-!
What the program reports while it runs. Events are kept as what happened; their levels and messages
are made from that.
-/

namespace AttrFold

/-- Why a file cannot be read or written. -/
inductive FileError where
  | notFound
  | alreadyExists
  | isDirectory
  | notDirectory
  | notUtf8
  /-- The text has more of something than its reader takes on. -/
  | excess (e : Json.Excess)
deriving DecidableEq

/-- The name under which an error is reported. -/
def FileError.name : FileError → Text
  | notFound => "FileNotFoundError"
  | alreadyExists => "FileExistsError"
  | isDirectory => "IsADirectoryError"
  | notDirectory => "NotADirectoryError"
  | notUtf8 => "UnicodeDecodeError"
  | excess .depth => "RecursionError"
  | excess .digits => "ValueError"

/-- How grave an event is. -/
inductive Level where
  | debug
  | info
  | warning
  | error
deriving DecidableEq

/-- Something worth reporting. -/
inductive Event where
  /-- The value under a key is no list. -/
  | settingNotList (key : Text) (value : Json)
  /-- The setting under a key does not take its value. -/
  | settingInvalid (key : Text) (value : Json)
  | settingsUnreadable (file : Path)
  | settingsMalformed (file : Path)
  | settingsNotObject (file : Path)
  | settingWritten (key : Text) (value : Json) (file : Path)
  | settingsLoaded (settings : Settings)
  | autoFoldSet (enabled : Bool)
  | scanSkipped (language : Text)
  /-- A scan, by its number, and how many spans it put into each of the groups. -/
  | scanned (number folded faded unfolded : Nat)
  | watchStarted (directory : Path)
  | watchStopped (directory : Path)
  | changesDetected (files : Nat)
  | callbackFailed
  | fileSkipped (file : Path) (error : FileError)

namespace Event

/-- The level of an event. -/
def level : Event → Level
  | settingNotList .. | settingInvalid .. | settingsUnreadable .. | settingsMalformed ..
  | settingsNotObject .. | fileSkipped .. => .warning
  | settingWritten .. | scanSkipped .. | scanned .. => .debug
  | settingsLoaded .. | autoFoldSet .. | watchStarted .. | watchStopped ..
  | changesDetected .. => .info
  | callbackFailed => .error

/-- The message of an event. -/
def message : Event → Text
  | settingNotList key value => "Ignoring " ++ key ++ "=" ++ value.shown ++ ": expected a list"
  | settingInvalid key value =>
    "Ignoring " ++ key ++ "=" ++ value.shown ++ ": falling back to default"
  | settingsUnreadable file => "Could not read settings file " ++ file.text
  | settingsMalformed file =>
    "Ignoring malformed settings file " ++ file.text ++ ": <JSONDecodeError>"
  | settingsNotObject file =>
    "Ignoring settings file " ++ file.text ++ ": top level is not an object"
  | settingWritten key value file =>
    "Wrote " ++ key ++ "=" ++ value.shown ++ " to " ++ file.text
  | settingsLoaded s =>
    "Loaded settings: auto_fold=" ++ (Json.bool s.autoFold).shown ++ " style=" ++ s.foldStyle.word
      ++ " languages="
      ++ (if (Text.joinWith "," s.supportedLanguages).isEmpty then ['-']
        else Text.joinWith "," s.supportedLanguages)
  | autoFoldSet enabled => "Auto fold " ++ (if enabled then "enabled".toList else "disabled".toList)
  | scanSkipped language =>
    "Skipping scan: language " ++ Text.quoted language ++ " is not enabled"
  | scanned number folded faded unfolded =>
    "Scan #" ++ Text.ofNat number ++ ": " ++ Text.ofNat folded ++ " folded, "
      ++ Text.ofNat faded ++ " faded, " ++ Text.ofNat unfolded ++ " unfolded"
  | watchStarted directory => "Watcher started for " ++ directory.text
  | watchStopped directory => "Watcher stopped for " ++ directory.text
  | changesDetected files => "Detected changes in " ++ Text.ofNat files ++ " file(s)"
  | callbackFailed => "Error in watcher callback"
  | fileSkipped file error => "Skipping " ++ file.text ++ ": <" ++ error.name ++ ">"

end Event

end AttrFold
