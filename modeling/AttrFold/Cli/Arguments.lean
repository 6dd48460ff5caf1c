import AttrFold.Text.Basic

/-!
The arguments of a command line: options by long or short names, with or without a value, among
positional arguments. Two hyphens by themselves end the options.
-/

namespace AttrFold.Cli

/-- How a command line is misused. -/
inductive Misuse where
  /-- An option that the command does not have. -/
  | noSuchOption
  /-- An option without its value, or with a value that it does not take. -/
  | badOptionUse
  | missingArgument
  /-- A command that does not exist, none at all, or more arguments than the command takes. -/
  | other
deriving DecidableEq

/-- The options of all commands. -/
inductive Opt where
  | settings
  | verbose
  | help
  | language
  | select
  | force
deriving DecidableEq

/-- Whether a value follows an option. -/
def Opt.takesValue : Opt → Bool
  | settings | language | select => true
  | verbose | help | force => false

/-- The options of one command. Unless options are mixed with positional arguments, the first
positional argument ends them. -/
structure Grammar where
  long : List (Text × Opt)
  short : List (Char × Opt)
  isMixed : Bool

/-- Arguments that were read: the options with their values, in order, and the positional ones. -/
structure Parsed where
  options : List (Opt × Text) := []
  positional : List Text := []
deriving DecidableEq

namespace Parsed

/-- The values of an option, in order. -/
def values (p : Parsed) (o : Opt) : List Text :=
  (p.options.filter fun e => e.1 = o).map Prod.snd

/-- The value of an option that counts once: the last one. -/
def value? (p : Parsed) (o : Opt) : Option Text := (p.values o).getLast?

/-- Whether an option is given. -/
def has (p : Parsed) (o : Opt) : Bool := p.options.any fun e => e.1 = o

end Parsed

namespace Grammar

/-- What an argument that begins with a hyphen stands for: options, and perhaps one more option whose
value is the next argument. -/
structure Reading where
  complete : List (Opt × Text) := []
  awaiting : Option Opt := none

/-- Reads a long option with its value, if it has one. -/
def readLong (o : Opt) (value : Option Text) : Except Misuse Reading :=
  match o.takesValue, value with
  | true, some v => .ok { complete := [(o, v)] }
  | true, none => .ok { awaiting := some o }
  | false, some _ => .error .badOptionUse
  | false, none => .ok { complete := [(o, [])] }

/-- Reads short options that stand together; the rest after one that takes a value is its value. -/
def readShort (g : Grammar) : Text → Except Misuse Reading
  | [] => .ok {}
  | c :: cs =>
    match g.short.lookup c with
    | none => .error .noSuchOption
    | some o =>
      if o.takesValue then
        if cs.isEmpty then .ok { awaiting := some o } else .ok { complete := [(o, cs)] }
      else
        match g.readShort cs with
        | .ok r => .ok { r with complete := (o, []) :: r.complete }
        | .error e => .error e

/-- Reads an argument that begins with a hyphen. -/
def readOption (g : Grammar) (arg : Text) : Except Misuse Reading :=
  let (name, value) := match Text.cut? '=' arg with
    | some (name, value) => (name, some value)
    | none => (arg, none)
  match g.long.lookup name with
  | some o => readLong o value
  | none => if ("--" : Text).isPrefixOf arg then .error .noSuchOption else g.readShort (arg.drop 1)

/-- Adds options in front. -/
def withOptions (options : List (Opt × Text)) : Except Misuse Parsed → Except Misuse Parsed
  | .ok p => .ok { p with options := options ++ p.options }
  | .error e => .error e

/-- Reads arguments. -/
def parse (g : Grammar) : List Text → Except Misuse Parsed
  | [] => .ok {}
  | arg :: rest =>
    if arg = "--" then .ok { positional := rest }
    else if arg.head? = some '-' && 1 < arg.length then
      match g.readOption arg with
      | .error e => .error e
      | .ok ⟨complete, none⟩ => withOptions complete (g.parse rest)
      | .ok ⟨complete, some o⟩ =>
        match rest with
        | [] => .error .badOptionUse
        | value :: rest => withOptions (complete ++ [(o, value)]) (g.parse rest)
    else if g.isMixed then
      match g.parse rest with
      | .ok p => .ok { p with positional := arg :: p.positional }
      | .error e => .error e
    else .ok { positional := arg :: rest }

end Grammar

end AttrFold.Cli
