import AttrFold.Json.Writer
import AttrFold.Path
import AttrFold.Text.Blank

/-!
The languages whose documents can be folded, by the names that people use for them and by the
suffixes of their files.
-/

namespace AttrFold

/-- A language whose documents can be folded. -/
inductive Language where
  | astro
  | blade
  | html
  | javascript
  | javascriptReact
  | markdown
  | mdx
  | php
  | svelte
  | typescript
  | typescriptReact
  | vue
deriving DecidableEq

namespace Language

/-- The languages in the order of their identifiers. -/
def all : List Language := [
  astro, blade, html, javascript, javascriptReact, markdown, mdx, php, svelte, typescript,
  typescriptReact, vue]

/-- The identifier of a language. -/
def id : Language → Text
  | astro => "astro"
  | blade => "blade"
  | html => "html"
  | javascript => "javascript"
  | javascriptReact => "javascriptreact"
  | markdown => "markdown"
  | mdx => "mdx"
  | php => "php"
  | svelte => "svelte"
  | typescript => "typescript"
  | typescriptReact => "typescriptreact"
  | vue => "vue"

/-- Names that stand for a language beside its identifier. -/
def aliases : List (Text × Language) := [
  ("htm", html), ("js", javascript), ("jsx", javascriptReact), ("md", markdown),
  ("ts", typescript), ("tsx", typescriptReact)]

/-- The languages of files by suffix. -/
def suffixes : List (Text × Language) := [
  (".astro", astro), (".cjs", javascript), (".htm", html), (".html", html), (".js", javascript),
  (".jsx", javascriptReact), (".md", markdown), (".markdown", markdown), (".mdx", mdx),
  (".mjs", javascript), (".php", php), (".svelte", svelte), (".ts", typescript),
  (".tsx", typescriptReact), (".vue", vue)]

/-- Why a language cannot be told. -/
inductive Unknown where
  | language (given : Text)
  | suffix (given : Text)
  | unspecified
deriving DecidableEq

/-- What the message about an unknown language says. -/
def Unknown.message : Unknown → Text
  | .language given =>
    "Unsupported language '" ++ given ++ "'. Supported: "
      ++ Json.shown (.arr (all.map fun l => .str l.id))
  | .suffix given => "Unsupported file extension: " ++ given
  | .unspecified => "Language must be provided when no file path is available."

/-- The language of an identifier or another name in its exact spelling. -/
def named? (name : Text) : Option Language :=
  (Entries.get? name aliases).or (all.find? fun l => l.id = name)

/-- The language that a name stands for, in any case and with blanks around it. -/
def ofName (given : Text) : Except Unknown Language :=
  match named? (Text.lower (Text.strip given)) with
  | some l => .ok l
  | none => .error (.language given)

/-- The suffix of a path as languages are told by it. -/
def suffixOf (p : Path) : Text := Text.lower p.suffix

/-- The language of a file. Blade templates have a suffix of two parts. -/
def ofPath (p : Path) : Except Unknown Language :=
  if (".blade.php" : Text).isSuffixOf (Text.lower p.name) then .ok blade
  else match Entries.get? (suffixOf p) suffixes with
    | some l => .ok l
    | none => .error (.suffix (suffixOf p))

/-- The language that is named, and otherwise that of the file; an empty name counts as none. -/
def resolve (given : Option Text) (path : Option Path) : Except Unknown Language :=
  match given.filter (fun t => !t.isEmpty), path with
  | some name, _ => ofName name
  | none, some p => ofPath p
  | none, none => .error .unspecified

/-- Whether a file has a suffix of a known language. -/
def isSupportedFile (p : Path) : Bool := (Entries.get? (suffixOf p) suffixes).isSome

/-- A file with a suffix of a known language has a language. -/
theorem exists_ofPath_of_isSupportedFile {p : Path} (h : isSupportedFile p = true) :
    ∃ l, ofPath p = .ok l := by
  unfold ofPath
  split
  · exact ⟨blade, rfl⟩
  · obtain ⟨l, hl⟩ := Option.isSome_iff_exists.mp h
    exact ⟨l, by rw [hl]⟩

end Language

end AttrFold
