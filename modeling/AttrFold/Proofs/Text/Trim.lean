import Mathlib.Data.List.DropRight
import AttrFold.Text.Basic

/-!
# Trimming the ends of a text

Trimming takes characters of one kind from the two ends of a text and nothing else
(`exists_eq_append_trimWhile`). What is left has none of them at its ends (`bare_trimWhile`), and a
text that has none there is left as it is (`Bare.trimWhile_eq`). Hence such characters around a text
make no difference (`trimWhile_wrapped`), and what stands between two others stays where it is
(`trimWhile_append_cons`).
-/

namespace AttrFold.Text

variable {p q : Char → Bool} {t : Text}

/-! ## At the end only -/

/-- What is dropped at the end of a text are characters that are to be dropped. -/
theorem exists_dropEndWhile_append (p : Char → Bool) (t : Text) :
    ∃ r : Text, t = dropEndWhile p t ++ r ∧ ∀ c ∈ r, p c = true := by
  refine ⟨(t.reverse.takeWhile p).reverse, ?_, fun c hc => ?_⟩
  · unfold dropEndWhile
    rw [← List.reverse_append, List.takeWhile_append_dropWhile, List.reverse_reverse]
  · exact List.all_eq_true.mp List.all_takeWhile c (List.mem_reverse.mp hc)

/-- A character that is not to be dropped keeps all that stands before it. -/
theorem lt_length_dropEndWhile {i : Nat} {c : Char} (hi : t[i]? = some c) (hc : p c = false) :
    i < (dropEndWhile p t).length := by
  obtain ⟨r, hr, hdropped⟩ := exists_dropEndWhile_append p t
  refine Nat.lt_of_not_le fun hle => ?_
  rw [hr, List.getElem?_append_right hle] at hi
  rw [hdropped c (List.mem_of_getElem? hi)] at hc
  cases hc

/-- What is to be dropped at the end is dropped. -/
theorem dropEndWhile_append {r : Text} (h : ∀ c ∈ r, p c = true) (t : Text) :
    dropEndWhile p (t ++ r) = dropEndWhile p t := by
  unfold dropEndWhile
  rw [List.reverse_append, List.dropWhile_append_of_pos fun c hc => h c (List.mem_reverse.mp hc)]

theorem dropEndWhile_eq_nil (h : ∀ c ∈ t, p c = true) : dropEndWhile p t = [] :=
  List.rdropWhile_eq_nil_iff.mpr h

/-- A character that is not to be dropped keeps the whole text before it. -/
theorem dropEndWhile_append_of_kept {r : Text} (h : ∃ c ∈ r, p c = false) (t : Text) :
    dropEndWhile p (t ++ r) = t ++ dropEndWhile p r := by
  obtain ⟨c, hc, hkept⟩ := h
  have hne : r.reverse.dropWhile p ≠ [] := fun hnil =>
    Bool.eq_false_iff.mp hkept (List.dropWhile_eq_nil_iff.mp hnil c (List.mem_reverse.mpr hc))
  unfold dropEndWhile
  rw [List.reverse_append, List.dropWhile_append, if_neg (by simpa using hne), List.reverse_append,
    List.reverse_reverse]

/-- The first character stays unless all is dropped. -/
theorem dropEndWhile_cons {c : Char} {cs : Text} (h : ¬∀ d ∈ c :: cs, p d = true) :
    dropEndWhile p (c :: cs) = c :: dropEndWhile p cs := by
  by_cases hcs : ∀ d ∈ cs, p d = true
  · -- then it is the first character that is not to be dropped
    have hc : p c = false := by
      refine Bool.eq_false_iff.mpr fun hc => h fun d hd => ?_
      rcases List.mem_cons.mp hd with rfl | hd
      · exact hc
      · exact hcs d hd
    have hsingle : dropEndWhile p [c] = [c] := by simp [dropEndWhile, hc]
    rw [← List.singleton_append, dropEndWhile_append hcs, dropEndWhile_eq_nil hcs, hsingle]
  · simp only [not_forall, exists_prop, Bool.not_eq_true] at hcs
    exact dropEndWhile_append_of_kept hcs [c]

theorem length_dropEndWhile_le (p : Char → Bool) (t : Text) :
    (dropEndWhile p t).length ≤ t.length :=
  (List.rdropWhile_prefix p t).length_le

/-- What is dropped depends only on which characters of the text are to be dropped. -/
theorem dropEndWhile_congr (h : ∀ c ∈ t, p c = q c) : dropEndWhile p t = dropEndWhile q t := by
  show t.rdropWhile p = t.rdropWhile q
  induction t using List.reverseRecOn with
  | nil => rfl
  | append_singleton t c ih =>
    have hlast := h c (List.mem_append_right t List.mem_cons_self)
    have hrest := ih fun d hd => h d (List.mem_append_left [c] hd)
    rw [List.rdropWhile_concat, List.rdropWhile_concat, hlast, hrest]

/-- Dropping reaches into the first part of a text exactly if it takes all of the second part and
the last character of the first one. -/
theorem length_dropEndWhile_append_lt_iff {s r : Text} :
    (dropEndWhile p (s ++ r)).length < s.length
      ↔ (∃ c, s.getLast? = some c ∧ p c = true) ∧ ∀ c ∈ r, p c = true := by
  rcases List.eq_nil_or_concat s with rfl | ⟨front, last, rfl⟩
  · simp
  · rw [List.concat_eq_append]
    refine ⟨fun h => ⟨⟨last, List.getLast?_concat, ?_⟩, fun c hc => ?_⟩, fun h => ?_⟩
    · by_contra hkept
      have hat : (front ++ [last] ++ r)[front.length]? = some last := by simp
      have := lt_length_dropEndWhile hat (Bool.eq_false_iff.mpr hkept)
      rw [List.length_append, List.length_singleton] at h
      omega
    · by_contra hkept
      obtain ⟨i, hi⟩ := List.getElem?_of_mem hc
      have hat : (front ++ [last] ++ r)[(front ++ [last]).length + i]? = some c := by
        rw [List.getElem?_append_right (by omega), Nat.add_sub_cancel_left, hi]
      have := lt_length_dropEndWhile hat (Bool.eq_false_iff.mpr hkept)
      omega
    · obtain ⟨⟨c, hc, hdropped⟩, hrest⟩ := h
      obtain rfl : last = c := Option.some.inj (List.getLast?_concat.symm.trans hc)
      have hlast : ∀ d ∈ [last], p d = true := fun d hd => List.mem_singleton.mp hd ▸ hdropped
      have := length_dropEndWhile_le p front
      rw [dropEndWhile_append hrest, dropEndWhile_append hlast, List.length_append,
        List.length_singleton]
      omega

/-! ## At both ends -/

/-- A text that neither begins nor ends with a character of a kind. -/
structure Bare (p : Char → Bool) (t : Text) : Prop where
  head : ∀ c, t.head? = some c → p c = false
  last : ∀ c, t.getLast? = some c → p c = false

/-- A text that is bare of some characters is bare of fewer. -/
theorem Bare.mono (h : Bare p t) (himp : ∀ c, q c = true → p c = true) : Bare q t := by
  refine ⟨fun c hc => ?_, fun c hc => ?_⟩
  · exact Bool.eq_false_iff.mpr fun hq => Bool.eq_false_iff.mp (h.head c hc) (himp c hq)
  · exact Bool.eq_false_iff.mpr fun hq => Bool.eq_false_iff.mp (h.last c hc) (himp c hq)

/-- A bare text is left as it is. -/
theorem Bare.trimWhile_eq (h : Bare p t) : trimWhile p t = t := by
  have hkept : t.dropWhile p = t := by
    cases t with
    | nil => rfl
    | cons c cs => simp [h.head c rfl]
  unfold trimWhile
  rw [hkept]
  show t.rdropWhile p = t
  rw [List.rdropWhile_eq_self_iff]
  intro hne
  simp [h.last _ (List.getLast?_eq_getLast_of_ne_nil hne)]

/-- Dropping as many characters as were taken is dropping them. -/
theorem drop_length_takeWhile (p : Char → Bool) (t : Text) :
    t.drop (t.takeWhile p).length = t.dropWhile p := by
  have hdrop : (t.takeWhile p ++ t.dropWhile p).drop (t.takeWhile p).length = t.dropWhile p :=
    List.drop_left
  rwa [List.takeWhile_append_dropWhile] at hdrop

/-- Dropping from the start ends before what follows a character that stays. -/
theorem dropWhile_append_of_kept {s : Text} (h : ∃ c ∈ s, p c = false) (r : Text) :
    (s ++ r).dropWhile p = s.dropWhile p ++ r := by
  obtain ⟨c, hc, hkept⟩ := h
  have hne : s.dropWhile p ≠ [] := fun hnil =>
    Bool.eq_false_iff.mp hkept (List.dropWhile_eq_nil_iff.mp hnil c hc)
  rw [List.dropWhile_append, if_neg (by simpa using hne)]

theorem trimWhile_eq_nil (h : ∀ c ∈ t, p c = true) : trimWhile p t = [] := by
  unfold trimWhile
  rw [List.dropWhile_eq_nil_iff.mpr h]
  rfl

/-- Characters around a text that are to be dropped make no difference to what a trim leaves. -/
theorem trimWhile_wrapped {front back : Text} (hfront : ∀ c ∈ front, p c = true)
    (hback : ∀ c ∈ back, p c = true) (t : Text) :
    trimWhile p (front ++ t ++ back) = trimWhile p t := by
  by_cases ht : ∀ c ∈ t, p c = true
  · have hall : ∀ c ∈ front ++ t ++ back, p c = true := by
      intro c hc
      rcases List.mem_append.mp hc with hc | hc
      · rcases List.mem_append.mp hc with hc | hc
        · exact hfront c hc
        · exact ht c hc
      · exact hback c hc
    rw [trimWhile_eq_nil hall, trimWhile_eq_nil ht]
  · simp only [not_forall, exists_prop, Bool.not_eq_true] at ht
    unfold trimWhile
    rw [List.append_assoc, List.dropWhile_append_of_pos hfront, dropWhile_append_of_kept ht,
      dropEndWhile_append hback]

/-- What stands around a text and is to be dropped is cut off, and the text itself is left as it is. -/
theorem Bare.trimWhile_append {front back : Text} (h : Bare p t) (hfront : ∀ c ∈ front, p c = true)
    (hback : ∀ c ∈ back, p c = true) : trimWhile p (front ++ t ++ back) = t := by
  rw [trimWhile_wrapped hfront hback, h.trimWhile_eq]

/-- Between two characters that are not to be dropped a trim leaves everything in its place. -/
theorem trimWhile_append_cons {before after : Text} (hbefore : ∃ d ∈ before, p d = false)
    (hafter : ∃ d ∈ after, p d = false) (c : Char) :
    trimWhile p (before ++ c :: after) = before.dropWhile p ++ c :: dropEndWhile p after := by
  unfold trimWhile
  rw [dropWhile_append_of_kept hbefore, ← List.singleton_append, ← List.append_assoc,
    dropEndWhile_append_of_kept hafter, List.append_assoc, List.singleton_append]

/-- What is cut off at the ends of a text are characters that are to be dropped. -/
theorem exists_eq_append_trimWhile (p : Char → Bool) (t : Text) :
    ∃ front back : Text, t = front ++ trimWhile p t ++ back
      ∧ (∀ c ∈ front, p c = true) ∧ ∀ c ∈ back, p c = true := by
  obtain ⟨back, hback, hdropped⟩ := exists_dropEndWhile_append p (t.dropWhile p)
  refine ⟨t.takeWhile p, back, ?_, fun c hc => ?_, hdropped⟩
  · show t = t.takeWhile p ++ dropEndWhile p (t.dropWhile p) ++ back
    rw [List.append_assoc, ← hback, List.takeWhile_append_dropWhile]
  · exact List.all_eq_true.mp List.all_takeWhile c hc

/-- What is trimmed is bare. -/
theorem bare_trimWhile (p : Char → Bool) (t : Text) : Bare p (trimWhile p t) := by
  refine ⟨fun c hc => ?_, fun c hc => ?_⟩
  · -- the first character is that of the text without its front, since only its back is cut off
    obtain ⟨back, hback, -⟩ := exists_dropEndWhile_append p (t.dropWhile p)
    have hhead : (t.dropWhile p).head? = some c := by
      rw [hback, List.head?_append]
      simp [show (dropEndWhile p (t.dropWhile p)).head? = some c from hc]
    have := List.head?_dropWhile_not p t
    rwa [hhead] at this
  · have hne : trimWhile p t ≠ [] := by
      intro hnil
      rw [hnil] at hc
      cases hc
    rw [List.getLast?_eq_getLast_of_ne_nil hne, Option.some_inj] at hc
    exact Bool.eq_false_iff.mpr (hc ▸ List.rdropWhile_last_not p (t.dropWhile p) hne)

end AttrFold.Text
