import AttrFold.Text.LowerCase
import AttrFold.Text.Quoted

/-!
Paths: an anchor, which is empty for a relative path, and the names below it. Empty names and single
dots are dropped when a path is read; two dots are kept.
-/

namespace AttrFold

/-- A path. Its anchor is empty, one slash or two. -/
structure Path where
  anchor : Text
  names : List Text
deriving DecidableEq

namespace Path

/-- The names of a text, between its slashes. -/
def namesOf (t : Text) : List Text := (t.splitOn '/').filter fun n => n ≠ [] && n ≠ ['.']

/-- The anchor of a text: two slashes at the start are kept when they are exactly two. -/
def anchorOf (t : Text) : Text :=
  match (t.takeWhile (· = '/')).length with
  | 0 => []
  | 2 => ['/', '/']
  | _ => ['/']

/-- Reads a path. -/
def ofText (t : Text) : Path := ⟨anchorOf t, namesOf t⟩

instance : Coe String Path := ⟨fun s => ofText s.toList⟩

/-- A path as it is shown; the empty relative path is a single dot. -/
def text (p : Path) : Text :=
  if p.anchor.isEmpty && p.names.isEmpty then ['.'] else p.anchor ++ Text.joinWith "/" p.names

/-- The last name of a path. -/
def name (p : Path) : Text := p.names.getLastD []

/-- The path without its last name. -/
def parent (p : Path) : Path := ⟨p.anchor, p.names.dropLast⟩

/-- The part of a name from its last dot on, when a character comes before that dot and another one
after it. -/
def suffixOf (name : Text) : Text :=
  let extension := (name.reverse.takeWhile (· ≠ '.')).reverse
  let stem := name.length - extension.length
  if 1 < stem && !extension.isEmpty then '.' :: extension else []

/-- The suffix of a path's last name. -/
def suffix (p : Path) : Text := suffixOf p.name

/-- The anchor, if there is one, and the names: what paths are compared by, one after the other. -/
def components (p : Path) : List Text := if p.anchor.isEmpty then p.names else p.anchor :: p.names

/-- A home directory cannot be found. -/
inductive HomeError where
  | unknownUser
deriving DecidableEq

/-- What the message about a missing home directory says. -/
def HomeError.message : HomeError → Text
  | .unknownUser => "Could not determine home directory."

/-- The path with a tilde at its start replaced by the home directory. The home directories of other
users are not known. -/
def expandHome (home : Text) (p : Path) : Except HomeError Path :=
  match p.anchor, p.names with
  | [], ('~' :: user) :: rest =>
    let root := Text.dropEndWhile (· = '/') home
    if !user.isEmpty || root.head? = some '~' then .error .unknownUser
    else
      let base := ofText (if root.isEmpty then ['/'] else root)
      .ok ⟨base.anchor, base.names ++ rest⟩
  | _, _ => .ok p

end Path

end AttrFold
