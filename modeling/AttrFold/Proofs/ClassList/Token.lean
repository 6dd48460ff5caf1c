import AttrFold.ClassList.Token
import AttrFold.Proofs.Text.Spacing

/-!
# Reading a class list

A class list may still stand in its quotes and braces. Reading it takes them away in a single pass,
which meets two kinds of runs: one at the start of the text, and one that reaches its end. A run
within the text is neither, so the pass keeps it, and in all it comes to the same as trimming both
ends (`dropOuterRuns_eq_trimWhile`). The headlines are `tokens_wrapped`, on the class names of a
text, and `truncate_bounded`, on the line in which a class list is listed.
-/

namespace AttrFold.ClassList

variable {t : Text}

/-! ## The pass over a text

At the start any run is an outer run. After the start only the run that reaches the end is one, so
from there the pass is one induction on the text. -/

/-- At the start of a text the whole run of edge characters is an outer one. -/
theorem outerRun_true (t : Text) : outerRun true t = (t.takeWhile isEdge).length := by
  simp [outerRun]

/-- After the start the run that reaches the end is an outer one. -/
theorem outerRun_false_of_forall (h : ∀ c ∈ t, isEdge c = true) : outerRun false t = t.length := by
  have hrun : t.takeWhile isEdge = t := List.takeWhile_eq_self_iff.mpr h
  simp [outerRun, hrun]

/-- After the start a run that ends before the text does is no outer one. -/
theorem outerRun_false_of_not_forall (h : ¬∀ c ∈ t, isEdge c = true) : outerRun false t = 0 := by
  have hshort : (t.takeWhile isEdge).length ≠ t.length := by
    intro hlength
    have hrun := (List.takeWhile_prefix isEdge).eq_of_length hlength
    exact h (List.takeWhile_eq_self_iff.mp hrun)
  simp [outerRun, hshort]

/-- Characters of a run that was met before are passed over. -/
theorem dropOuterRuns_eq_drop (skip : Nat) (t : Text) :
    dropOuterRuns skip false t = dropOuterRuns 0 false (t.drop skip) := by
  induction skip generalizing t with
  | zero => rfl
  | succ skip ih =>
    cases t with
    | nil => rfl
    | cons c cs => exact ih cs

/-- A pass keeps a character where no outer run begins, and goes on behind the run otherwise. -/
theorem dropOuterRuns_cons (atStart : Bool) (c : Char) (cs : Text) :
    dropOuterRuns 0 atStart (c :: cs)
      = if outerRun atStart (c :: cs) = 0 then c :: dropOuterRuns 0 false cs
        else dropOuterRuns 0 false ((c :: cs).drop (outerRun atStart (c :: cs))) := by
  rw [dropOuterRuns]
  cases outerRun atStart (c :: cs) with
  | zero => rfl
  | succ skip => exact dropOuterRuns_eq_drop skip cs

/-- After the start a pass takes away the edge characters at the end, and nothing else. -/
theorem dropOuterRuns_false (t : Text) : dropOuterRuns 0 false t = Text.dropEndWhile isEdge t := by
  induction t with
  | nil => rfl
  | cons c cs ih =>
    rw [dropOuterRuns_cons]
    by_cases h : ∀ d ∈ c :: cs, isEdge d = true
    · -- the run reaches the end, so nothing is left
      rw [outerRun_false_of_forall h, if_neg (by simp), List.drop_length, Text.dropEndWhile_eq_nil h]
      rfl
    · rw [outerRun_false_of_not_forall h, if_pos rfl, ih, Text.dropEndWhile_cons h]

/-- Leaving out the outer runs trims a text at both ends. -/
theorem dropOuterRuns_eq_trimWhile (t : Text) : dropOuterRuns 0 true t = Text.trimWhile isEdge t := by
  cases t with
  | nil => rfl
  | cons c cs =>
    rw [dropOuterRuns_cons, outerRun_true, dropOuterRuns_false, dropOuterRuns_false]
    unfold Text.trimWhile
    by_cases hc : isEdge c = true
    · rw [if_neg (by simp [hc]), Text.drop_length_takeWhile]
    · -- no run stands at the start, so the one at the end is the only one
      have hkept : ¬∀ d ∈ c :: cs, isEdge d = true := fun h => hc (h c List.mem_cons_self)
      rw [List.takeWhile_cons_of_neg hc, List.length_nil, if_pos rfl, List.dropWhile_cons_of_neg hc,
        Text.dropEndWhile_cons hkept]

/-! ## The class names of a text -/

theorem isEdge_of_isBlank {c : Char} (h : Text.isBlank c = true) : isEdge c = true := by
  rw [isEdge, h, Bool.or_true]

/-- Class names are the words between the edge characters at the two ends. -/
theorem tokens_eq_words_strip (t : Text) :
    tokens t = Text.words (Text.trimWhile isEdge (Text.strip t)) := by
  rw [tokens, dropOuterRuns_eq_trimWhile]

/-- Blanks are edge characters themselves, so they need not be taken away first. -/
theorem tokens_eq (t : Text) : tokens t = Text.words (Text.trimWhile isEdge t) := by
  obtain ⟨front, back, ht, hfront, hback⟩ := Text.exists_eq_append_trimWhile Text.isBlank t
  have htrim : Text.trimWhile isEdge t = Text.trimWhile isEdge (Text.strip t) := by
    have := Text.trimWhile_wrapped (fun c hc => isEdge_of_isBlank (hfront c hc))
      (fun c hc => isEdge_of_isBlank (hback c hc)) (Text.strip t)
    rwa [← show t = front ++ Text.strip t ++ back from ht] at this
  rw [tokens_eq_words_strip, htrim]

/-- Class names hold all characters between the two ends that are not blank. -/
theorem flatten_tokens (t : Text) :
    (tokens t).flatten = Text.visible (Text.trimWhile isEdge t) := by
  rw [tokens_eq, Text.flatten_words]

/-- No blank stands at the ends of what is read. -/
theorem bare_isBlank_trimWhile (t : Text) : Text.Bare Text.isBlank (Text.trimWhile isEdge t) :=
  (Text.bare_trimWhile isEdge t).mono fun _ hc => isEdge_of_isBlank hc

/-- The first class name does not begin with an edge character. -/
theorem isEdge_head_tokens {name : Text} (hname : name ∈ (tokens t).head?) :
    ∀ c ∈ name.head?, isEdge c = false := by
  intro c hc
  obtain ⟨names, hnames⟩ := List.head?_eq_some_iff.mp hname
  have hflatten : (tokens t).flatten.head? = some c := by
    rw [hnames, List.flatten_cons, List.head?_append, show name.head? = some c from hc, Option.some_or]
  rw [flatten_tokens, (bare_isBlank_trimWhile t).head?_visible] at hflatten
  exact (Text.bare_trimWhile isEdge t).head c hflatten

/-- The last class name does not end with an edge character. -/
theorem isEdge_getLast_tokens {name : Text} (hname : name ∈ (tokens t).getLast?) :
    ∀ c ∈ name.getLast?, isEdge c = false := by
  intro c hc
  obtain ⟨names, hnames⟩ := List.getLast?_eq_some_iff.mp hname
  have hflatten : (tokens t).flatten.getLast? = some c := by
    rw [hnames, List.flatten_concat, List.getLast?_append, show name.getLast? = some c from hc,
      Option.some_or]
  rw [flatten_tokens, (bare_isBlank_trimWhile t).getLast?_visible] at hflatten
  exact (Text.bare_trimWhile isEdge t).last c hflatten

/-- **Reading ignores what a class list is wrapped in, and nothing else.** Quotes, braces and blanks
around a text make no difference to its names, which are the words of the trimmed text. Each of them
holds something and no blank, the first one does not begin with an edge character and the last one
does not end with one. Together they hold the characters of the trimmed text but for its blanks, so
a character between two that are no edge characters is kept in its place. -/
theorem tokens_wrapped {front back : Text} (hfront : ∀ c ∈ front, isEdge c = true)
    (hback : ∀ c ∈ back, isEdge c = true) (t : Text) :
    tokens (front ++ t ++ back) = tokens t ∧
      tokens t = Text.words (Text.trimWhile isEdge t) ∧
      (∀ name ∈ tokens t, name ≠ [] ∧ ∀ c ∈ name, Text.isBlank c = false) ∧
      (∀ name ∈ (tokens t).head?, ∀ c ∈ name.head?, isEdge c = false) ∧
      (∀ name ∈ (tokens t).getLast?, ∀ c ∈ name.getLast?, isEdge c = false) ∧
      (tokens t).flatten = (Text.trimWhile isEdge t).filter (fun c => !Text.isBlank c) ∧
      ∀ (before : Text) (c : Char) (after : Text), t = before ++ c :: after → Text.isBlank c = false →
        (∃ d ∈ before, isEdge d = false) → (∃ d ∈ after, isEdge d = false) →
        (tokens t).flatten = Text.visible (before.dropWhile isEdge)
          ++ c :: Text.visible (Text.dropEndWhile isEdge after) := by
  refine ⟨?_, tokens_eq t, fun name hname => ?_, fun name => isEdge_head_tokens,
    fun name => isEdge_getLast_tokens, flatten_tokens t, fun before c after ht hc hbefore hafter => ?_⟩
  · rw [tokens_eq, tokens_eq, Text.trimWhile_wrapped hfront hback]
  · have hword : Text.IsWord name := Text.isWord_of_mem_words hname
    exact ⟨hword.nonempty, hword.no_blank⟩
  · rw [flatten_tokens, ht, Text.trimWhile_append_cons hbefore hafter]
    simp [Text.visible, hc]

/-- A wide space and a quoted name within, and a quote at the start that belongs to no name. -/
theorem tokens_wrapped_around_quoted_name :
    let front : Text := " \x7b\x60"
    let t : Text := "' p-4\u2003'a' \x7bb"
    let back : Text := "\x60\x7d\n\""
    (∀ c ∈ front, isEdge c = true) ∧ '\x60' ∈ front ∧
      (∀ c ∈ back, isEdge c = true) ∧ '\n' ∈ back ∧
      tokens (front ++ t ++ back) = tokens t ∧
      tokens t = ["p-4".toList, "'a'".toList, "\x7bb".toList] ∧
      (tokens t).flatten = Text.visible "p-4\u2003" ++ '\'' :: Text.visible "a' \x7bb" := by
  intro front t back
  have hfront : ∀ c ∈ front, isEdge c = true := List.all_eq_true.mp rfl
  have hback : ∀ c ∈ back, isEdge c = true := List.all_eq_true.mp rfl
  obtain ⟨hwrapped, -, -, -, -, -, hinner⟩ := tokens_wrapped hfront hback t
  have hquote := hinner "' p-4\u2003" '\'' "a' \x7bb" (by decide) (by decide) ⟨'p', by decide⟩
    ⟨'a', by decide⟩
  exact ⟨hfront, by decide, hback, by decide, hwrapped, by decide +kernel, hquote⟩

/-! ## The line of a class list

A listing shows the names of a class list with one space between any two of them. When they take too
much room a prefix of this line is shown with three dots after it, which make a word of their own or
lengthen the last one. Both lines are `Text.SingleSpaced`, and such a line is shown as it is when
there is room. -/

/-- A class list that fits the width is put on a single line and is complete. -/
theorem truncate_of_le {width : Int} (h : (Text.joinWith " " (Text.words t)).length ≤ width) :
    truncate t width = Text.joinWith " " (Text.words t) :=
  if_neg (Int.not_lt.mpr h)

/-- A class list that does not fit the width is cut to make room for three dots. -/
theorem truncate_of_lt {width : Int} (hwidth : 3 ≤ width)
    (h : width < (Text.joinWith " " (Text.words t)).length) :
    truncate t width = (Text.joinWith " " (Text.words t)).take (width - 3).toNat ++ "..." := by
  unfold truncate
  rw [if_pos h, if_pos hwidth]

theorem truncate_of_singleSpaced {width : Int} (h : Text.SingleSpaced t) (hfits : t.length ≤ width) :
    truncate t width = t := by
  rw [truncate_of_le (h.joinWith_words.symm ▸ hfits), h.joinWith_words]

theorem isWord_dots : Text.IsWord "..." := by
  refine ⟨List.cons_ne_nil _ _, fun c hc => ?_⟩
  have hdot : c = '.' := List.eq_of_mem_replicate (n := 3) hc
  rw [hdot]
  rfl

/-- What is cut has words with single blanks between them, the three dots included. -/
theorem singleSpaced_truncate {width : Int} (hwidth : 3 ≤ width) (t : Text) :
    Text.SingleSpaced (truncate t width) := by
  have hline := Text.singleSpaced_joinWith_words t
  by_cases h : width < (Text.joinWith " " (Text.words t)).length
  · rw [truncate_of_lt hwidth h]
    exact hline.take_append isWord_dots _
  · rw [truncate_of_le (Int.not_lt.mp h)]
    exact hline

/-- A class list that is cut takes all of the width. -/
theorem length_truncate_of_lt {width : Int} (hwidth : 3 ≤ width)
    (h : width < (Text.joinWith " " (Text.words t)).length) : (truncate t width).length = width := by
  rw [truncate_of_lt hwidth h, List.length_append, List.length_take_of_le (by omega)]
  show (((width - 3).toNat + 3 : Nat) : Int) = width
  omega

/-- No class list is longer than the width. -/
theorem length_truncate_le {width : Int} (hwidth : 3 ≤ width) (t : Text) :
    (truncate t width).length ≤ width := by
  by_cases h : width < (Text.joinWith " " (Text.words t)).length
  · exact Int.le_of_eq (length_truncate_of_lt hwidth h)
  · rw [truncate_of_le (Int.not_lt.mp h)]
    exact Int.not_lt.mp h

/-- **A listed line keeps to its width, begins as the class list does and is listed as it is.** The
names of a text with one space between any two of them are shown when they have room. Otherwise
exactly the given width is taken up, by the beginning of that line and three dots. No line feed is
shown, nor any other blank but the space, and no two spaces stand side by side. What is shown is
shown unchanged when it is listed again. -/
theorem truncate_bounded {width : Int} (hwidth : 3 ≤ width) (t : Text) :
    let line := Text.joinWith " " (Text.words t)
    let shown := truncate t width
    (line.length ≤ width → shown = line) ∧
      (width < line.length → shown.length = width ∧ "...".toList <:+ shown
        ∧ shown.take (width - 3).toNat = line.take (width - 3).toNat) ∧
      '\n' ∉ shown ∧ (∀ c ∈ shown, Text.isBlank c = true → c = ' ') ∧
      (shown.IsChain fun a b => ¬(Text.isBlank a = true ∧ Text.isBlank b = true)) ∧
      truncate shown width = shown := by
  intro line shown
  have hshown : Text.SingleSpaced shown := singleSpaced_truncate hwidth t
  refine ⟨truncate_of_le, fun h => ?_, hshown.not_mem rfl (by decide),
    fun c hc => hshown.eq_space_of_isBlank hc, hshown.isChain,
    truncate_of_singleSpaced hshown (length_truncate_le hwidth t)⟩
  have hcut : shown = line.take (width - 3).toNat ++ "..." := truncate_of_lt hwidth h
  have hkept : (line.take (width - 3).toNat).length = (width - 3).toNat :=
    List.length_take_of_le (by omega)
  refine ⟨length_truncate_of_lt hwidth h, ?_, ?_⟩
  · rw [hcut]
    exact List.suffix_append _ _
  · rw [hcut, List.take_append_of_le_length hkept.ge, List.take_take, Nat.min_self]

/-- The cut is right after a space, and the text has dots of its own. -/
theorem truncate_bounded_after_space :
    let t : Text := "a\n bc\t..."
    (3 : Int) ≤ 5 ∧ (5 : Int) < (Text.joinWith " " (Text.words t)).length ∧
      truncate t 5 = "a ..." ∧ (truncate t 5).length = (5 : Int) ∧ '\n' ∉ truncate t 5 ∧
      truncate (truncate t 5) 5 = truncate t 5 := by
  intro t
  have hwidth : (3 : Int) ≤ 5 := by decide
  have hlong : (5 : Int) < (Text.joinWith " " (Text.words t)).length := by decide +kernel
  obtain ⟨-, hcut, hfeed, -, -, hagain⟩ := truncate_bounded hwidth t
  exact ⟨hwidth, hlong, by decide +kernel, (hcut hlong).1, hfeed, hagain⟩

/-- A width below three leaves no room for the dots, and the line takes more than it. -/
example : truncate "abcd" 2 = "abc..." := by decide +kernel

end AttrFold.ClassList
