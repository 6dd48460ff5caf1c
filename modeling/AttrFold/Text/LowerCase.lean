import AttrFold.Text.CaseTable

/-!
Lower-casing: every character goes to its own lower-case form, and a capital sigma to the final form
at the end of a word.
-/

namespace AttrFold.Text

/-- Whether a character has case. -/
def isCased (c : Char) : Bool := inRanges casedRanges c

/-- Whether a character is passed over when the neighbours of a sigma are looked for. -/
def isCaseIgnorable (c : Char) : Bool := inRanges caseIgnorableRanges c

/-- The lower-case form of a character by itself; only the dotted capital I needs two characters. -/
def lowerChar (c : Char) : Text :=
  if c = 'İ' then ['i', '\u0307']
  else match caseRuns.find? (·.contains c.toNat) with
    | some run => [Char.ofNat (c.toNat + run.shift).toNat]
    | none => [c]

/-- Whether a sigma ends its word: a cased letter comes before it and none follows it, ignorable
characters apart. The text before the sigma is given last character first. -/
def sigmaIsFinal (before after : Text) : Bool :=
  (before.dropWhile isCaseIgnorable).head?.any isCased
    && !(after.dropWhile isCaseIgnorable).head?.any isCased

/-- The lower-case form of a text that follows the characters of `before`, last character first. -/
def lowerAfter (before : Text) : Text → Text
  | [] => []
  | c :: cs =>
    (if c = 'Σ' then [if sigmaIsFinal before cs then 'ς' else 'σ'] else lowerChar c)
      ++ lowerAfter (c :: before) cs

/-- The lower-case form of a text. -/
def lower (t : Text) : Text := lowerAfter [] t

end AttrFold.Text
