import AttrFold.Text.Blank
import AttrFold.Proofs.Text.Trim

/-!
# Words of a text

A word is a text without blanks that is not empty (`IsWord`), and `Text.words` yields words only
(`isWord_of_mem_words`). A blank ends the word before it, whatever follows (`words_append_blank`),
so words that are written with blanks between them are read back (`words_joinWith`). Blanks at the
ends of a text belong to no word (`words_strip`), and the words of a text hold all of its other
characters (`flatten_words`).
-/

namespace AttrFold.Text

/-- A text that holds something, and no blank. -/
structure IsWord (w : Text) : Prop where
  nonempty : w ≠ []
  no_blank : ∀ c ∈ w, isBlank c = false

/-- No separator is in a part between separators. -/
theorem eq_false_of_mem_splitOnP {p : Char → Bool} {t part : Text} (h : part ∈ t.splitOnP p) :
    ∀ c ∈ part, p c = false := by
  induction t generalizing part with
  | nil =>
    rw [List.splitOnP_nil, List.mem_singleton] at h
    rw [h]
    exact fun _ hc => absurd hc List.not_mem_nil
  | cons d ds ih =>
    rw [List.splitOnP_cons_eq_if_modifyHead] at h
    obtain ⟨first, rest, hparts⟩ := List.exists_cons_of_ne_nil (List.splitOnP_ne_nil p ds)
    by_cases hd : p d = true
    · rw [if_pos hd, List.mem_cons] at h
      rcases h with rfl | h
      · exact fun _ hc => absurd hc List.not_mem_nil
      · exact ih h
    · -- the first character joins the first part of what follows it
      rw [if_neg hd, hparts, List.modifyHead_cons, List.mem_cons] at h
      rcases h with rfl | h
      · intro c hc
        rcases List.mem_cons.mp hc with rfl | hc
        · exact Bool.eq_false_iff.mpr hd
        · exact ih (hparts ▸ List.mem_cons_self) c hc
      · exact ih (hparts ▸ List.mem_cons_of_mem first h)

theorem isWord_of_mem_words {w t : Text} (h : w ∈ words t) : IsWord w := by
  obtain ⟨hpart, hne⟩ := List.mem_filter.mp h
  have hnonempty : w ≠ [] := by simpa using hne
  exact ⟨hnonempty, eq_false_of_mem_splitOnP hpart⟩

theorem words_nil : words [] = [] := by
  rw [words, List.splitOnP_nil]
  rfl

/-- A blank stands between words. -/
theorem words_append_blank {b : Char} (hb : isBlank b = true) (s t : Text) :
    words (s ++ b :: t) = words s ++ words t := by
  unfold words
  rw [List.splitOnP_append_cons s t hb, List.filter_append]

/-- A word has no words but itself. -/
theorem IsWord.words_eq {w : Text} (h : IsWord w) : words w = [w] := by
  unfold words
  rw [List.splitOnP_eq_singleton h.no_blank]
  simp [h.nonempty]

/-- Words that are joined by blanks are taken apart again. -/
theorem words_joinWith {b : Char} (hb : isBlank b = true) {ws : List Text}
    (h : ∀ w ∈ ws, IsWord w) : words (joinWith [b] ws) = ws := by
  unfold joinWith
  induction ws with
  | nil => exact words_nil
  | cons w ws ih =>
    have hw := h w List.mem_cons_self
    have hws := ih fun v hv => h v (List.mem_cons_of_mem w hv)
    cases ws with
    | nil => rw [List.intercalate_singleton, hw.words_eq]
    | cons v vs =>
      rw [List.intercalate_cons_cons, List.append_assoc, List.singleton_append,
        words_append_blank hb, hw.words_eq, hws, List.singleton_append]

/-- A joined text has the characters of its parts and of the separator. -/
theorem mem_joinWith {c : Char} {separator : Text} {ws : List Text} (h : c ∈ joinWith separator ws) :
    c ∈ separator ∨ ∃ w ∈ ws, c ∈ w := by
  unfold joinWith at h
  induction ws with
  | nil => cases h
  | cons w ws ih =>
    cases ws with
    | nil =>
      rw [List.intercalate_singleton] at h
      exact Or.inr ⟨w, List.mem_cons_self, h⟩
    | cons v vs =>
      rw [List.intercalate_cons_cons, List.append_assoc, List.mem_append, List.mem_append] at h
      rcases h with h | h | h
      · exact Or.inr ⟨w, List.mem_cons_self, h⟩
      · exact Or.inl h
      · rcases ih h with h | ⟨x, hx, h⟩
        · exact Or.inl h
        · exact Or.inr ⟨x, List.mem_cons_of_mem w hx, h⟩

/-! ## Blanks at the ends -/

/-- Blanks at the start make no words. -/
theorem words_blanks_append {blanks : Text} (h : ∀ c ∈ blanks, isBlank c = true) (t : Text) :
    words (blanks ++ t) = words t := by
  induction blanks with
  | nil => rfl
  | cons b blanks ih =>
    have hrest := ih fun c hc => h c (List.mem_cons_of_mem b hc)
    have := words_append_blank (h b List.mem_cons_self) [] (blanks ++ t)
    rwa [List.nil_append, words_nil, List.nil_append, hrest] at this

theorem words_append_blanks {blanks : Text} (h : ∀ c ∈ blanks, isBlank c = true) (t : Text) :
    words (t ++ blanks) = words t := by
  cases blanks with
  | nil => rw [List.append_nil]
  | cons b blanks =>
    have hrest := words_blanks_append (fun c hc => h c (List.mem_cons_of_mem b hc)) []
    rw [List.append_nil, words_nil] at hrest
    rw [words_append_blank (h b List.mem_cons_self), hrest, List.append_nil]

/-- A stripped text has the same words. -/
theorem words_strip (t : Text) : words (strip t) = words t := by
  obtain ⟨front, back, ht, hfront, hback⟩ := exists_eq_append_trimWhile isBlank t
  have hwords : words (front ++ trimWhile isBlank t ++ back) = words (trimWhile isBlank t) := by
    rw [words_append_blanks hback, words_blanks_append hfront]
  rw [← ht] at hwords
  exact hwords.symm

/-! ## The characters of the words -/

/-- The characters of a text that are not blank. -/
def visible (t : Text) : Text := t.filter fun c => !isBlank c

theorem visible_append (s t : Text) : visible (s ++ t) = visible s ++ visible t :=
  List.filter_append ..

/-- The parts between separators are all but the separators. -/
theorem flatten_splitOnP (p : Char → Bool) (t : Text) :
    (t.splitOnP p).flatten = t.filter fun c => !p c := by
  induction t with
  | nil => simp
  | cons c cs ih =>
    rw [List.splitOnP_cons_eq_if_modifyHead]
    obtain ⟨first, rest, hparts⟩ := List.exists_cons_of_ne_nil (List.splitOnP_ne_nil p cs)
    rw [hparts, List.flatten_cons] at ih
    by_cases hc : p c = true
    · simp [hc, hparts, ih]
    · simp [hc, hparts, ih]

/-- The words of a text hold its characters, but for the blanks. -/
theorem flatten_words (t : Text) : (words t).flatten = visible t := by
  rw [words, List.flatten_filter_not_isEmpty, flatten_splitOnP]
  rfl

theorem visible_strip (t : Text) : visible (strip t) = visible t := by
  rw [← flatten_words, words_strip, flatten_words]

/-- The first character of a text without blanks at its ends is visible. -/
theorem Bare.head?_visible {t : Text} (h : Bare isBlank t) : (visible t).head? = t.head? := by
  cases t with
  | nil => rfl
  | cons c cs => simp [visible, h.head c rfl]

theorem Bare.getLast?_visible {t : Text} (h : Bare isBlank t) :
    (visible t).getLast? = t.getLast? := by
  cases hlast : t.getLast? with
  | none =>
    rw [List.getLast?_eq_none_iff] at hlast
    rw [hlast]
    rfl
  | some c =>
    obtain ⟨front, rfl⟩ := List.getLast?_eq_some_iff.mp hlast
    simp [visible, h.last c hlast]

/-- A stripped text begins with the first visible character. -/
theorem head?_strip (t : Text) : (strip t).head? = (visible t).head? := by
  rw [← visible_strip]
  exact (bare_trimWhile isBlank t).head?_visible.symm

theorem getLast?_strip (t : Text) : (strip t).getLast? = (visible t).getLast? := by
  rw [← visible_strip]
  exact (bare_trimWhile isBlank t).getLast?_visible.symm

end AttrFold.Text
