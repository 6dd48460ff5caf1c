import AttrFold.Json.Basic
import AttrFold.Span

/-!
The settings that decide which spans are folded, the keys that they are stored under and the values
that each of them takes.
-/

namespace AttrFold

/-- How much of an attribute is folded. -/
inductive FoldStyle where
  | all
  | quoted
deriving DecidableEq

namespace FoldStyle

/-- The word for a style in a settings file. -/
def word : FoldStyle → Text
  | all => "ALL"
  | quoted => "QUOTED"

/-- The style of a word. -/
def ofWord? (t : Text) : Option FoldStyle :=
  if t = word all then some all else if t = word quoted then some quoted else none

/-- The spans that a style folds. -/
def mode : FoldStyle → Mode
  | all => .all
  | quoted => .quotedOnly

end FoldStyle

/-- The settings in force. A length threshold keeps shorter texts unfolded, and a positive greatest
length has longer texts faded instead of folded. -/
structure Settings where
  autoFold : Bool := false
  unfoldIfLineSelected : Bool := false
  supportedLanguages : List Text := []
  foldStyle : FoldStyle := .all
  foldLengthThreshold : Int := 0
  foldMaxLength : Int := 0
deriving DecidableEq

/-- The settings, one by one. -/
inductive Setting where
  | autoFold
  | unfoldIfLineSelected
  | supportedLanguages
  | foldStyle
  | foldLengthThreshold
  | foldMaxLength
deriving DecidableEq

namespace Setting

/-- The settings in the order in which they are loaded. -/
def all : List Setting := [
  autoFold, unfoldIfLineSelected, supportedLanguages, foldStyle, foldLengthThreshold, foldMaxLength]

/-- What the keys of the settings begin with. -/
def scope : Text := "classfold"

/-- The key of a setting within the scope. -/
def shortKey : Setting → Text
  | autoFold => "autoFold"
  | unfoldIfLineSelected => "unfoldIfLineSelected"
  | supportedLanguages => "supportedLanguages"
  | foldStyle => "foldStyle"
  | foldLengthThreshold => "foldLengthThreshold"
  | foldMaxLength => "foldMaxLength"

/-- A key with the scope in front of it. -/
def qualify (key : Text) : Text := scope ++ ['.'] ++ key

/-- The key that a setting is stored under. -/
def key (s : Setting) : Text := qualify s.shortKey

/-- The name of a setting where all of them are listed. -/
def label : Setting → Text
  | autoFold => "auto_fold"
  | unfoldIfLineSelected => "unfold_if_line_selected"
  | supportedLanguages => "supported_languages"
  | foldStyle => "fold_style"
  | foldLengthThreshold => "fold_length_threshold"
  | foldMaxLength => "fold_max_length"

/-- The key of the column at which the editor wraps lines. -/
def wrapKey : Text := "editor.wordWrapColumn"

/-- Whether a change under a key can change what is loaded. -/
def isRelevantKey (k : Text) : Bool :=
  k = wrapKey || k = scope || (scope ++ ['.']).isPrefixOf k

end Setting

namespace Settings

/-- Whether documents in a language are folded. -/
def supports (s : Settings) (language : Text) : Bool := s.supportedLanguages.contains language

/-- The value of one setting. -/
def value (s : Settings) : Setting → Json
  | .autoFold => .bool s.autoFold
  | .unfoldIfLineSelected => .bool s.unfoldIfLineSelected
  | .supportedLanguages => .arr (s.supportedLanguages.map .str)
  | .foldStyle => .str s.foldStyle.word
  | .foldLengthThreshold => .int s.foldLengthThreshold
  | .foldMaxLength => .int s.foldMaxLength

/-- The texts of a list, when all of its items are texts. -/
def textsOf? : List Json → Option (List Text)
  | [] => some []
  | .str t :: items => (textsOf? items).map (t :: ·)
  | _ => none

/-- The settings with one of them changed to a value; there are none when the setting does not take
the value. Truth values and numbers do not stand for each other, and no text stands for either. -/
def with? (s : Settings) : Setting → Json → Option Settings
  | .autoFold, .bool b => some { s with autoFold := b }
  | .unfoldIfLineSelected, .bool b => some { s with unfoldIfLineSelected := b }
  | .supportedLanguages, .arr items =>
    (textsOf? items).map fun languages => { s with supportedLanguages := languages }
  | .foldStyle, .str t => (FoldStyle.ofWord? t).map fun style => { s with foldStyle := style }
  | .foldLengthThreshold, .int n => some { s with foldLengthThreshold := n }
  | .foldMaxLength, .int n => some { s with foldMaxLength := n }
  | _, _ => none

/-- The settings that a new settings file starts with. -/
def recommended : Settings where
  autoFold := true
  supportedLanguages := [
    "html", "javascript", "javascriptreact", "typescript", "typescriptreact", "vue", "svelte",
    "astro", "php"]

/-- The settings as the members of a settings file. -/
def members (s : Settings) : Json.Object := Setting.all.map fun k => (k.key, s.value k)

end Settings

end AttrFold
