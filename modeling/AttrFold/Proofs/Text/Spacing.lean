import Mathlib.Data.List.Chain
import AttrFold.Proofs.Text.Words

/-!
# Words with single spaces between them

A text is `SingleSpaced` when it is made of words with one space between any two of them. Joining
the words of any text gives such a text (`singleSpaced_joinWith`), and joining the words of such a
text gives it back (`SingleSpaced.joinWith_words`), so these texts are the normal forms of the
joining. A normal form may be cut anywhere: whatever prefix is kept, with a word put after it it is
a normal form again (`SingleSpaced.take_append`). A cut within a word lengthens what is left of the
word, and a cut after a space puts the new word in the place of the next one.
-/

namespace AttrFold.Text

/-- Words with one space between any two of them, and nothing else. -/
inductive SingleSpaced : Text → Prop where
  | nil : SingleSpaced []
  | word {w : Text} (hw : IsWord w) : SingleSpaced w
  | space {w t : Text} (hw : IsWord w) (hne : t ≠ []) (ht : SingleSpaced t) :
      SingleSpaced (w ++ ' ' :: t)

variable {t d : Text}

/-! ## Joining words -/

/-- Words that are joined are not empty. -/
theorem joinWith_ne_nil {ws : List Text} (h : ∀ w ∈ ws, IsWord w) (hne : ws ≠ []) :
    joinWith " " ws ≠ [] := by
  intro hnil
  have hwords : words (joinWith " " ws) = ws := words_joinWith (by decide) h
  rw [hnil, words_nil] at hwords
  exact hne hwords.symm

/-- Words that are joined by blanks are single spaced. -/
theorem singleSpaced_joinWith {ws : List Text} (h : ∀ w ∈ ws, IsWord w) :
    SingleSpaced (joinWith " " ws) := by
  induction ws with
  | nil => exact .nil
  | cons w ws ih =>
    have hw := h w List.mem_cons_self
    have hrest : ∀ v ∈ ws, IsWord v := fun v hv => h v (List.mem_cons_of_mem w hv)
    by_cases hnil : ws = []
    · rw [hnil, joinWith, List.intercalate_singleton]
      exact .word hw
    · rw [joinWith, List.intercalate_cons_of_ne_nil hnil, List.append_assoc]
      exact .space hw (joinWith_ne_nil hrest hnil) (ih hrest)

/-- The normal form of a text: its words with one space between any two of them. -/
theorem singleSpaced_joinWith_words (t : Text) : SingleSpaced (joinWith " " (words t)) :=
  singleSpaced_joinWith fun _ hw => isWord_of_mem_words hw

/-- A single-spaced text is its words joined by blanks. -/
theorem SingleSpaced.joinWith_words (h : SingleSpaced t) : joinWith " " (words t) = t := by
  induction h with
  | nil =>
    rw [words_nil]
    rfl
  | word hw => rw [hw.words_eq, joinWith, List.intercalate_singleton]
  | @space w t hw hne _ ih =>
    have hwords : words t ≠ [] := by
      intro hnil
      rw [hnil] at ih
      exact hne ih.symm
    rw [words_append_blank (by decide), hw.words_eq, List.singleton_append, joinWith,
      List.intercalate_cons_of_ne_nil hwords, List.append_assoc]
    exact congrArg (fun r => w ++ ' ' :: r) ih

/-! ## The blanks of such a text -/

/-- No two blanks stand next to each other in a word. -/
theorem IsWord.isChain {w : Text} (h : IsWord w) :
    w.IsChain fun a b => ¬(isBlank a = true ∧ isBlank b = true) := by
  refine List.Pairwise.isChain (List.pairwise_of_forall_mem_list fun a ha b _ hblank => ?_)
  rw [h.no_blank a ha] at hblank
  exact Bool.false_ne_true hblank.1

/-- The blanks of a single-spaced text are spaces. -/
theorem SingleSpaced.eq_space_of_isBlank (h : SingleSpaced t) {c : Char} (hc : c ∈ t)
    (hblank : isBlank c = true) : c = ' ' := by
  induction h with
  | nil => cases hc
  | word hw =>
    rw [hw.no_blank c hc] at hblank
    cases hblank
  | space hw _ _ ih =>
    rcases List.mem_append.mp hc with hc | hc
    · rw [hw.no_blank c hc] at hblank
      cases hblank
    · rcases List.mem_cons.mp hc with hc | hc
      · exact hc
      · exact ih hc

/-- No other blank is in a single-spaced text. -/
theorem SingleSpaced.not_mem (h : SingleSpaced t) {c : Char} (hblank : isBlank c = true)
    (hc : c ≠ ' ') : c ∉ t :=
  fun hmem => hc (h.eq_space_of_isBlank hmem hblank)

/-- A single-spaced text does not begin with a blank. -/
theorem SingleSpaced.isBlank_head (h : SingleSpaced t) : ∀ c ∈ t.head?, isBlank c = false := by
  have hword {w : Text} (hw : IsWord w) (r : Text) : ∀ c ∈ (w ++ r).head?, isBlank c = false := by
    obtain ⟨d, ds, rfl⟩ := List.exists_cons_of_ne_nil hw.nonempty
    intro c hc
    obtain rfl : d = c := Option.some.inj hc
    exact hw.no_blank d List.mem_cons_self
  cases h with
  | nil => exact fun c hc => by cases hc
  | word hw => simpa using hword hw []
  | space hw _ _ => exact hword hw _

/-- No two blanks stand side by side. -/
theorem SingleSpaced.isChain (h : SingleSpaced t) :
    t.IsChain fun a b => ¬(isBlank a = true ∧ isBlank b = true) := by
  induction h with
  | nil => exact .nil
  | word hw => exact hw.isChain
  | space hw _ ht ih =>
    refine List.isChain_append.mpr ⟨hw.isChain, List.isChain_cons.mpr ⟨fun b hb hblank => ?_, ih⟩,
      fun a ha b _ hblank => ?_⟩
    · -- after the space stands the first character of a word
      rw [ht.isBlank_head b hb] at hblank
      exact Bool.false_ne_true hblank.2
    · -- before it stands the last one of a word
      rw [hw.no_blank a (List.mem_of_getLast? ha)] at hblank
      exact Bool.false_ne_true hblank.1

/-! ## Cuts -/

/-- The first characters of a word and another word make a word. -/
theorem IsWord.take_append {w : Text} (hw : IsWord w) (hd : IsWord d) (k : Nat) :
    IsWord (w.take k ++ d) := by
  refine ⟨fun hnil => hd.nonempty (List.append_eq_nil_iff.mp hnil).2, fun c hc => ?_⟩
  rcases List.mem_append.mp hc with hc | hc
  · exact hw.no_blank c (List.mem_of_mem_take hc)
  · exact hd.no_blank c hc

/-- A word may be put after any prefix of such a text. -/
theorem SingleSpaced.take_append (h : SingleSpaced t) (hd : IsWord d) (k : Nat) :
    SingleSpaced (t.take k ++ d) := by
  induction h generalizing k with
  | nil =>
    rw [List.take_nil]
    exact .word hd
  | word hw => exact .word (hw.take_append hd k)
  | @space w t hw _ _ ih =>
    by_cases hk : k ≤ w.length
    · -- the cut is in the first word, or right after it
      rw [List.take_append_of_le_length hk]
      exact .word (hw.take_append hd k)
    · -- the space is kept, and the cut is in what follows it
      obtain ⟨j, rfl⟩ : ∃ j, k = w.length + (j + 1) := ⟨k - w.length - 1, by omega⟩
      rw [List.take_length_add_append, List.take_succ_cons, List.append_assoc, List.cons_append]
      exact .space hw (fun hnil => hd.nonempty (List.append_eq_nil_iff.mp hnil).2) (ih j)

end AttrFold.Text
