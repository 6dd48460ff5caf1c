import Mathlib.Data.List.Forall2
import Mathlib.Data.List.Induction
import AttrFold.Text.LowerCase

/-!
# Endings in lower case

What a capital sigma becomes depends on its neighbours, so the lower-case form of a text is not put
together from those of its parts. Every character becomes one of a few texts all the same
(`LowersTo`), and no other characters than those of a text lie behind an ending of its lower-case
form (`Lowers.exists_append`). When the ending is ASCII there is no sigma behind it, and it is the
lower-case form of these characters by themselves (`exists_ending_of_lower`).
-/

namespace AttrFold.Text

/-! ## One character -/

/-- The table leads to characters only, and to none before the small letters. -/
theorem valid_of_mem_caseRuns : ∀ r ∈ caseRuns, 97 ≤ r.first + r.shift ∧
    (r.last + r.shift < 0xd800 ∨ 0xdfff < r.first + r.shift ∧ r.last + r.shift < 0x110000) := by
  decide +kernel

/-- A character is lowered to itself, to a character that is not below the small letters, or to a
dotted i. -/
theorem lowerChar_cases (c : Char) :
    lowerChar c = ['i', '\u0307'] ∨ lowerChar c = [c] ∨
      ∃ x : Char, lowerChar c = [x] ∧ 97 ≤ x.toNat := by
  unfold lowerChar
  by_cases hdotted : c = 'İ'
  · exact Or.inl (if_pos hdotted)
  rw [if_neg hdotted]
  cases hfind : caseRuns.find? (·.contains c.toNat) with
  | none => exact Or.inr (Or.inl rfl)
  | some r =>
    have hcontains := List.find?_some hfind
    simp only [CaseRun.contains, Bool.and_eq_true, decide_eq_true_eq] at hcontains
    obtain ⟨hmin, hvalid⟩ := valid_of_mem_caseRuns r (List.mem_of_find?_eq_some hfind)
    -- the form stands in the table, so it is a character and not a replacement for none
    have hchar : ((c.toNat : Int) + r.shift).toNat.isValidChar := by
      unfold Nat.isValidChar
      omega
    have hform : (Char.ofNat ((c.toNat : Int) + r.shift).toNat).toNat
        = ((c.toNat : Int) + r.shift).toNat := by
      rw [Char.ofNat, dif_pos hchar]
      rfl
    refine Or.inr (Or.inr ⟨_, rfl, ?_⟩)
    rw [hform]
    omega

/-- The texts that a character can become: a capital sigma has two forms, every other character its
own. -/
inductive LowersTo : Char → Text → Prop
  | sigma : LowersTo 'Σ' ['σ']
  | finalSigma : LowersTo 'Σ' ['ς']
  | other {c : Char} (h : c ≠ 'Σ') : LowersTo c (lowerChar c)

variable {c x : Char} {s t u w : Text}

theorem LowersTo.cases (h : LowersTo c t) :
    t = ['i', '\u0307'] ∨ t = [c] ∨ ∃ x : Char, t = [x] ∧ 97 ≤ x.toNat := by
  cases h with
  | sigma => exact Or.inr (Or.inr ⟨'σ', rfl, by decide⟩)
  | finalSigma => exact Or.inr (Or.inr ⟨'ς', rfl, by decide⟩)
  | other => exact lowerChar_cases c

/-- What comes before the small letters stands for itself. -/
theorem LowersTo.eq_of_lt (h : LowersTo c [x]) (hx : x.toNat < 97) : c = x := by
  rcases h.cases with heq | heq | ⟨y, heq, hy⟩
  · cases heq
  · exact (List.singleton_inj.mp heq).symm
  · rw [List.singleton_inj.mp heq] at hx
    omega

/-- What lowers to an ASCII character does so wherever it stands, and is no sigma. -/
theorem LowersTo.lowerChar_eq (h : LowersTo c [x]) (hx : x.toNat < 128) :
    c ≠ 'Σ' ∧ lowerChar c = [x] := by
  generalize heq : [x] = t at h
  cases h with
  | other hc => exact ⟨hc, rfl⟩
  | _ =>
    -- both small sigmas lie outside ASCII
    obtain rfl := List.singleton_inj.mp heq
    exact absurd hx (by decide)

/-! ## Texts -/

/-- The second text can be what the first one becomes, character by character. -/
inductive Lowers : Text → Text → Prop
  | nil : Lowers [] []
  | cons {c : Char} {s t u : Text} (hc : LowersTo c u) (ht : Lowers s t) : Lowers (c :: s) (u ++ t)

/-- A text is lowered character by character. -/
theorem lowers_lowerAfter (before t : Text) : Lowers t (lowerAfter before t) := by
  induction t generalizing before with
  | nil => exact .nil
  | cons c cs ih =>
    rw [lowerAfter]
    refine .cons ?_ (ih (c :: before))
    by_cases hc : c = 'Σ'
    · rw [if_pos hc, hc]
      split
      · exact .finalSigma
      · exact .sigma
    · rw [if_neg hc]
      exact .other hc

theorem Lowers.eq_nil_of_nil (h : Lowers [] t) : t = [] := by
  cases h
  rfl

theorem Lowers.eq_nil (h : Lowers t []) : t = [] := by
  generalize hu : ([] : Text) = u at h
  cases h with
  | nil => rfl
  | cons hc ht =>
    -- no character vanishes
    obtain ⟨rfl, -⟩ := List.nil_eq_append_iff.mp hu
    rcases hc.cases with heq | heq | ⟨x, heq, -⟩ <;> cases heq

/-- When the lower-case form ends in ASCII, its last character is that of the last character. -/
theorem Lowers.exists_concat (h : Lowers t (u ++ [x])) (hx : x.toNat < 128) :
    ∃ s c, t = s ++ [c] ∧ Lowers s u ∧ LowersTo c [x] := by
  generalize hv : u ++ [x] = v at h
  induction h generalizing u with
  | nil => exact absurd hv (by simp)
  | @cons c s v l hc ht ih =>
    rcases List.eq_nil_or_concat v with rfl | ⟨v, y, rfl⟩
    · obtain rfl := ht.eq_nil
      rw [List.append_nil] at hv
      rcases hc.cases with rfl | rfl | ⟨y, rfl, -⟩
      · -- the text of the dotted capital I ends outside ASCII
        have hlast : x = '\u0307' := by simpa using congrArg List.getLast? hv
        rw [hlast] at hx
        exact absurd hx (by decide)
      all_goals
        replace hv : u ++ [x] = [] ++ [_] := hv
        obtain ⟨rfl, hxy⟩ := List.append_inj' hv rfl
        rw [← hxy] at hc
        exact ⟨[], c, rfl, .nil, hc⟩
    · rw [List.concat_eq_append, ← List.append_assoc] at hv
      obtain ⟨rfl, hxy⟩ := List.append_inj' hv rfl
      obtain ⟨s, d, rfl, hs, hd⟩ := ih (u := v) (by rw [hxy, List.concat_eq_append])
      exact ⟨c :: s, d, rfl, .cons hc hs, hd⟩

/-- An ASCII ending of the lower-case form is that of an ending, character by character. -/
theorem Lowers.exists_append (h : Lowers t (u ++ w)) (hw : ∀ x ∈ w, x.toNat < 128) :
    ∃ s r, t = s ++ r ∧ Lowers s u ∧ List.Forall₂ (fun c x => LowersTo c [x]) r w := by
  induction w using List.reverseRecOn generalizing t with
  | nil => exact ⟨t, [], (List.append_nil t).symm, by rwa [List.append_nil] at h, .nil⟩
  | append_singleton w x ih =>
    obtain ⟨hfront, hx⟩ := List.forall_mem_append.mp hw
    rw [← List.append_assoc] at h
    obtain ⟨t, c, rfl, ht, hc⟩ := h.exists_concat (hx x List.mem_cons_self)
    obtain ⟨s, r, rfl, hs, hr⟩ := ih ht hfront
    exact ⟨s, r ++ [c], List.append_assoc s r [c], hs, List.rel_append hr (.cons hc .nil)⟩

/-- A text that lowers to ASCII characters one by one is lowered to them, whatever stands before it.
-/
theorem lowerAfter_of_forall₂ (h : List.Forall₂ (fun c x => LowersTo c [x]) t w)
    (hw : ∀ x ∈ w, x.toNat < 128) (before : Text) : lowerAfter before t = w := by
  induction h generalizing before with
  | nil => rfl
  | @cons c x t w hc ht ih =>
    obtain ⟨hx, hrest⟩ := List.forall_mem_cons.mp hw
    obtain ⟨hsigma, hlower⟩ := hc.lowerChar_eq hx
    rw [lowerAfter, if_neg hsigma, hlower, ih hrest]
    rfl

/-- A character that stands for itself does not get lost. -/
theorem not_mem_of_forall₂ (h : List.Forall₂ (fun c x => LowersTo c [x]) t w)
    (hw : ∀ x ∈ w, x.toNat < 128) (hc : lowerChar c = [c]) (hnot : c ∉ w) : c ∉ t := by
  induction h with
  | nil => exact List.not_mem_nil
  | @cons d x t w hd ht ih =>
    obtain ⟨hx, hrest⟩ := List.forall_mem_cons.mp hw
    rw [List.mem_cons, not_or] at hnot ⊢
    refine ⟨?_, ih hrest hnot.2⟩
    rintro rfl
    have hform := (hd.lowerChar_eq hx).2
    rw [hc] at hform
    exact hnot.1 (List.singleton_inj.mp hform)

/-- **An ASCII ending of the lower-case form of a text is the lower-case form of an ending of it.** -/
theorem exists_ending_of_lower (h : lower t = u ++ w) (hw : ∀ x ∈ w, x.toNat < 128) :
    ∃ s r, t = s ++ r ∧ Lowers s u ∧ List.Forall₂ (fun c x => LowersTo c [x]) r w ∧ lower r = w := by
  have hlowers : Lowers t (u ++ w) := h ▸ lowers_lowerAfter [] t
  obtain ⟨s, r, ht, hs, hr⟩ := hlowers.exists_append hw
  exact ⟨s, r, ht, hs, hr, lowerAfter_of_forall₂ hr hw []⟩

end AttrFold.Text
