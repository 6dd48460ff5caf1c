import AttrFold.Language
import AttrFold.Proofs.Path
import AttrFold.Proofs.Text.LowerCase

/-!
# Languages that are told by a path

Whether a file is supported is read off its suffix alone, while its language is looked for in its
whole name first: a blade template is known by an ending of two parts.

## The crux

Both look at texts in lower case, but one lowers the whole name and the other one its suffix. The
ending of blade templates is ASCII, so what becomes it in the name becomes it by itself, and the
last dot of the name stands where the dot of the suffix stands in lower case (`suffixOf_of_blade`).

* **`supported_iff_detected`** — a file is supported exactly if its language can be told, and
  languages are resolved once and for all.
-/

namespace AttrFold.Language

/-- **A name that ends as blade templates do has a suffix of its own**, in whatever case it is
written. -/
theorem suffixOf_of_blade {p : Path} (h : (".blade.php" : Text).isSuffixOf (Text.lower p.name) = true) :
    suffixOf p = ".php" := by
  obtain ⟨front, hfront⟩ := List.isSuffixOf_iff_suffix.mp h
  have hparts : Text.lower p.name = (front ++ ".blade".toList) ++ '.' :: "php".toList := by
    rw [List.append_assoc]
    exact hfront.symm
  obtain ⟨stem, ending, hname, hstem, hending, hlower⟩ := Text.exists_ending_of_lower hparts (by simp)
  obtain ⟨dot, extension, hdot, hextension, rfl⟩ := List.forall₂_cons_right_iff.mp hending
  -- the ending begins with the last dot of the name
  obtain rfl : dot = '.' := hdot.eq_of_lt (by decide)
  have hstemNonempty : stem ≠ [] := by
    rintro rfl
    have hnil := hstem.eq_nil_of_nil
    simp at hnil
  have hextensionNonempty : extension ≠ [] := by
    rintro rfl
    cases hextension
  have hnodot : '.' ∉ extension :=
    Text.not_mem_of_forall₂ hextension (by simp) (by decide +kernel) (by decide)
  have hsuffix : p.suffix = '.' :: extension := by
    rw [Path.suffix, hname]
    exact Path.suffixOf_append hstemNonempty hextensionNonempty hnodot
  rw [suffixOf, hsuffix, hlower]
  rfl

/-- A file is supported if a language is found for its path. -/
theorem isSupportedFile_iff (p : Path) : isSupportedFile p = true ↔ ∃ l, ofPath p = .ok l := by
  refine ⟨exists_ofPath_of_isSupportedFile, fun h => ?_⟩
  obtain ⟨l, hl⟩ := h
  unfold ofPath at hl
  unfold isSupportedFile
  split at hl
  · next hblade =>
    -- a blade template is supported as a file of the language that it is written in
    rw [suffixOf_of_blade hblade]
    decide
  · next hother =>
    cases hget : Entries.get? (suffixOf p) suffixes with
    | some m => rfl
    | none =>
      rw [hget] at hl
      cases hl

/-- The identifier of a language is one of its names. -/
theorem ofName_id (l : Language) : ofName l.id = .ok l := by
  cases l <;> decide +kernel

/-- What is resolved to the identifier of a language stays so. -/
theorem resolved_once {e : Except Unknown Language} {given : Text} (h : e.map Language.id = .ok given) :
    (ofName given).map Language.id = .ok given := by
  cases e with
  | error e => cases h
  | ok l =>
    obtain rfl : l.id = given := Except.ok.inj h
    rw [ofName_id]
    rfl

/-- **A file is supported exactly if its language can be told**, whatever its name is. The
identifier that a path or a name is resolved to is resolved to itself. -/
theorem supported_iff_detected :
    (∀ p : Path, isSupportedFile p = true ↔ ∃ l, ofPath p = .ok l) ∧
      (∀ (p : Path) (given : Text), (ofPath p).map Language.id = .ok given →
        (ofName given).map Language.id = .ok given) ∧
      ∀ name given : Text, (ofName name).map Language.id = .ok given →
        (ofName given).map Language.id = .ok given :=
  ⟨isSupportedFile_iff, fun _ _ => resolved_once, fun _ _ => resolved_once⟩

/-- A hidden template in mixed case, a suffix with the sign for kelvin, and a name between blanks. -/
theorem supported_iff_detected_mixed_case :
    let template : Path := "a/.Blade.PHP"
    let page : Path := "a/b.Mar\u212adown"
    let name : Text := " JSX\n"
    isSupportedFile template = true ∧ (∃ l, ofPath template = .ok l) ∧
      (ofPath page).map Language.id = .ok "markdown" ∧
      (ofName "markdown").map Language.id = .ok "markdown" ∧
      (ofName name).map Language.id = .ok "javascriptreact" ∧
      (ofName "javascriptreact").map Language.id = .ok "javascriptreact" := by
  intro template page name
  obtain ⟨hsupported, hpaths, hnames⟩ := supported_iff_detected
  have htemplate : isSupportedFile template = true := by decide +kernel
  have hpage : (ofPath page).map Language.id = .ok "markdown" := by decide +kernel
  have hname : (ofName name).map Language.id = .ok "javascriptreact" := by decide +kernel
  exact ⟨htemplate, (hsupported template).mp htemplate, hpage, hpaths page _ hpage, hname,
    hnames name _ hname⟩

end AttrFold.Language
