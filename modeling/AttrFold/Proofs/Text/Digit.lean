import Mathlib.Data.List.Basic
import Mathlib.Data.Nat.Digits.Defs
import AttrFold.Text.Blank
import AttrFold.Text.Digit

/-!
# Decimal numerals

Numbers are written with the ten ASCII digits and without zeros in front. What is read as a number
is more than that: digits of every script, and zeros in front.

## The crux

`Denotes` says which number a text is in decimal, by the values of its digits alone, and the reader
finds just this number (`numeral?_eq_some_iff`). A written number denotes itself (`denotes_ofNat`).
No digit is a blank, a colon or a hyphen, so whatever is put around a numeral can be told from it.
-/

namespace AttrFold.Text

/-! ## Written numbers -/

/-- The digits of a number begin with a zero only if the number is zero. -/
theorem exists_cons_ofNat (n : Nat) :
    ∃ c cs, ofNat n = c :: cs ∧ c.isDigit = true ∧ (c = '0' → n = 0) := by
  induction n using Nat.strongRecOn with
  | _ n ih =>
    unfold ofNat at ih ⊢
    rw [Nat.toDigits_eq_if (by decide)]
    by_cases hn : n < 10
    · rw [if_pos hn]
      refine ⟨n.digitChar, [], rfl, ?_, Nat.digitChar_eq_zero.mp⟩
      rw [Nat.isDigit_digitChar, decide_eq_true_iff]
      exact hn
    · rw [if_neg hn]
      obtain ⟨c, cs, hcs, hdigit, hzero⟩ := ih (n / 10) (by omega)
      refine ⟨c, cs ++ [(n % 10).digitChar], by rw [hcs, List.cons_append], hdigit, fun hc => ?_⟩
      have := hzero hc
      omega

theorem isDigit_of_mem_ofNat {n : Nat} {c : Char} (h : c ∈ ofNat n) : c.isDigit = true :=
  Nat.isDigit_of_mem_toDigits (by decide) (by decide) h

/-! ## Digits of every script

A script is a run of ten characters from its zero on, and the value of a digit is its distance from
there. -/

section Digits

variable {c : Char} {d : Nat}

/-- A digit is at most nine characters behind the zero of its script. -/
theorem exists_zero_of_digitValue? (h : digitValue? c = some d) :
    ∃ z ∈ digitZeros, c.toNat = z + d ∧ d < 10 := by
  obtain ⟨z, hfind, rfl⟩ := Option.map_eq_some_iff.mp h
  have hrun := List.find?_some hfind
  rw [Bool.and_eq_true, decide_eq_true_iff, decide_eq_true_iff] at hrun
  exact ⟨z, List.mem_of_find?_eq_some hfind, by omega, by omega⟩

/-- The ASCII digits come first in the list of scripts. -/
theorem digitValue?_of_isDigit (h : c.isDigit = true) : digitValue? c = some (c.toNat - 48) := by
  obtain ⟨hzero, hnine⟩ := Char.isDigit_iff_toNat.mp h
  have hrun : (decide (0x30 ≤ c.toNat) && decide (c.toNat < 0x30 + 10)) = true := by
    rw [Bool.and_eq_true, decide_eq_true_iff, decide_eq_true_iff]
    exact ⟨hzero, Nat.lt_succ_of_le hnine⟩
  have hfind : digitZeros.find? (fun z => z ≤ c.toNat && c.toNat < z + 10) = some 0x30 :=
    List.find?_cons_of_pos hrun
  rw [digitValue?, hfind]
  rfl

/-- Between the blanks there is room for some of the scripts, but no script has a blank among its
digits. -/
theorem isBlank_of_digitValue? (h : digitValue? c = some d) : isBlank c = false := by
  obtain ⟨z, hz, hcode, hd⟩ := exists_zero_of_digitValue? h
  have hgaps : ∀ z ∈ digitZeros, (0x20 < z ∧ z + 10 ≤ 0x85) ∨ (0xa0 < z ∧ z + 10 ≤ 0x1680)
      ∨ (0x1680 < z ∧ z + 10 ≤ 0x2000) ∨ 0x3000 < z := by decide
  have hgap := hgaps z hz
  simp only [isBlank, Bool.or_eq_false_iff, Bool.and_eq_false_iff, decide_eq_false_iff_not,
    beq_eq_false_iff_ne]
  omega

end Digits

/-! ## What a text denotes

The digits of one numeral may come from several scripts, since each of them counts by its value
alone. -/

/-- The number that a text is in decimal: it consists of one digit or more, the most significant one
first. -/
def Denotes (t : Text) (n : Nat) : Prop :=
  t ≠ [] ∧ ∃ digits : List Nat, t.map digitValue? = digits.map some ∧ Nat.ofDigits 10 digits.reverse = n

variable {t : Text} {n : Nat}

/-- The value of a numeral is that of its digits, whatever scripts they are from. -/
theorem numeralValue_eq_ofDigits {digits : List Nat} (h : t.map digitValue? = digits.map some) :
    numeralValue t = Nat.ofDigits 10 digits.reverse := by
  have hfold : numeralValue t = (t.map digitValue?).foldl (fun n d => 10 * n + d.getD 0) 0 := by
    rw [List.foldl_map]
    rfl
  -- the reader begins with the most significant digit, `ofDigits` with the least significant one
  rw [hfold, h, List.foldl_map, Nat.ofDigits_eq_foldr, List.foldr_reverse]
  simp only [Option.getD_some, Nat.cast_id, Nat.add_comm]

namespace Denotes

/-- A numeral has digits only. -/
theorem exists_digitValue? (h : Denotes t n) {c : Char} (hc : c ∈ t) : ∃ d, digitValue? c = some d := by
  obtain ⟨-, digits, hvalues, -⟩ := h
  have hmem : digitValue? c ∈ digits.map some := hvalues ▸ List.mem_map_of_mem hc
  obtain ⟨d, -, hd⟩ := List.mem_map.mp hmem
  exact ⟨d, hd.symm⟩

theorem isBlank_eq_false (h : Denotes t n) {c : Char} (hc : c ∈ t) : isBlank c = false := by
  obtain ⟨d, hd⟩ := h.exists_digitValue? hc
  exact isBlank_of_digitValue? hd

/-- A character that is no digit does not stand in a numeral. -/
theorem not_mem (h : Denotes t n) {c : Char} (hc : digitValue? c = none) : c ∉ t := by
  intro hmem
  obtain ⟨d, hd⟩ := h.exists_digitValue? hmem
  rw [hc] at hd
  cases hd

end Denotes

/-- **The reader finds the number that a text denotes**, and none in any other text. -/
theorem numeral?_eq_some_iff : numeral? t = some n ↔ Denotes t n := by
  have hdigits : (!t.isEmpty && t.all isDigit) = true ↔ t ≠ [] ∧ ∀ c ∈ t, isDigit c = true := by
    rw [Bool.and_eq_true, Bool.not_eq_true', List.isEmpty_eq_false_iff, List.all_eq_true]
  unfold numeral?
  constructor
  · intro h
    split at h
    · next hcond =>
      obtain ⟨hne, hall⟩ := hdigits.mp hcond
      have hvalues : t.map digitValue? = (t.map fun c => (digitValue? c).getD 0).map some := by
        rw [List.map_map]
        refine List.map_congr_left fun c hc => ?_
        obtain ⟨d, hd⟩ := Option.isSome_iff_exists.mp (hall c hc)
        rw [Function.comp_apply, hd, Option.getD_some]
      refine ⟨hne, _, hvalues, ?_⟩
      rw [← numeralValue_eq_ofDigits hvalues]
      exact Option.some.inj h
    · cases h
  · intro h
    have hall : ∀ c ∈ t, isDigit c = true := fun c hc =>
      Option.isSome_iff_exists.mpr (h.exists_digitValue? hc)
    obtain ⟨hne, digits, hvalues, rfl⟩ := h
    rw [if_pos (hdigits.mpr ⟨hne, hall⟩), numeralValue_eq_ofDigits hvalues]

/-- **A written number denotes itself.** -/
theorem denotes_ofNat (n : Nat) : Denotes (ofNat n) n := by
  have hdigit : ∀ c ∈ ofNat n, digitValue? c = some (c.toNat - 48) :=
    fun c hc => digitValue?_of_isDigit (isDigit_of_mem_ofNat hc)
  have hvalues : (ofNat n).map digitValue? = ((ofNat n).map (·.toNat - 48)).map some := by
    rw [List.map_map]
    exact List.map_congr_left hdigit
  -- on ASCII digits the two ways to evaluate a numeral take the same steps
  have hvalue : numeralValue (ofNat n) = Nat.ofDigitChars 10 (ofNat n) 0 := by
    refine List.foldl_ext _ _ _ fun m c hc => ?_
    rw [hdigit c hc]
    rfl
  obtain ⟨c, cs, hcs, -⟩ := exists_cons_ofNat n
  refine ⟨hcs ▸ List.cons_ne_nil c cs, _, hvalues, ?_⟩
  rw [← numeralValue_eq_ofDigits hvalues, hvalue]
  exact Nat.ofDigitChars_ten_toDigits

end AttrFold.Text
