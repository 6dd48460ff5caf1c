import AttrFold.Json.Reader
import AttrFold.Json.Writer
import AttrFold.Proofs.Text.Digit

/-!
# Numbers and strings in JSON text

An integer is read back from its decimal digits, whatever follows that does not go on with the number
(`readScalar_ofInt`), and a string from the escapes of its characters (`readString_flatMap_escapeChar`).

## The crux

A character above `0xffff` is written as two escapes by number, and these are two codes when they
are read. `codesOf` says which codes stand for a character, and `textOfCodes_codesOf` that they are
put together again at the right places: no other character has the code of a half
(`textOfCodes_cons`).
-/

namespace AttrFold

/-! ## Hexadecimal digits -/

namespace Text

/-- A code of four hexadecimal digits is written digit by digit. -/
theorem hex_four {n : Nat} (h : n < 0x10000) :
    hex 4 n = [(n / 4096).digitChar, (n / 256 % 16).digitChar, (n / 16 % 16).digitChar,
      (n % 16).digitChar] := by
  have hlast : ∀ m, m < 16 → Nat.toDigits 16 m = [m.digitChar] :=
    fun m hm => Nat.toDigits_of_lt_base hm
  have hmore : ∀ m, 16 ≤ m →
      Nat.toDigits 16 m = Nat.toDigits 16 (m / 16) ++ [(m % 16).digitChar] :=
    fun m hm => Nat.toDigits_of_base_le (by decide) hm
  unfold hex
  -- one case for each number of digits; the missing ones are zeros
  by_cases h1 : n < 16
  · have e1 : n / 4096 = 0 := by omega
    have e2 : n / 256 % 16 = 0 := by omega
    have e3 : n / 16 % 16 = 0 := by omega
    have e4 : n % 16 = n := by omega
    rw [e1, e2, e3, e4, hlast n h1]
    rfl
  by_cases h2 : n < 256
  · have e1 : n / 4096 = 0 := by omega
    have e2 : n / 256 % 16 = 0 := by omega
    have e3 : n / 16 % 16 = n / 16 := by omega
    rw [e1, e2, e3, hmore n (by omega), hlast (n / 16) (by omega)]
    rfl
  by_cases h3 : n < 4096
  · have e1 : n / 4096 = 0 := by omega
    have e2 : n / 256 % 16 = n / 16 / 16 := by omega
    rw [e1, e2, hmore n (by omega), hmore (n / 16) (by omega), hlast (n / 16 / 16) (by omega)]
    rfl
  · have e1 : n / 4096 = n / 16 / 16 / 16 := by omega
    have e2 : n / 256 % 16 = n / 16 / 16 % 16 := by omega
    rw [e1, e2, hmore n (by omega), hmore (n / 16) (by omega), hmore (n / 16 / 16) (by omega),
      hlast (n / 16 / 16 / 16) (by omega)]
    rfl

end Text

namespace Json

/-- What follows a number does not go on with it. -/
def EndsNumber (rest : Text) : Prop :=
  ∀ c ∈ rest.head?, c.isDigit = false ∧ c ≠ '.' ∧ c ≠ 'e' ∧ c ≠ 'E'

section Numbers

variable {rest : Text}

/-- The whole digits of a number that ends are its digits. -/
theorem wholeDigits_ofNat (n : Nat) (h : EndsNumber rest) :
    wholeDigits (Text.ofNat n ++ rest) = Text.ofNat n := by
  have hstop : rest.takeWhile Char.isDigit = [] := by
    cases rest with
    | nil => rfl
    | cons c cs => exact List.takeWhile_cons_of_neg (by simp [(h c rfl).1])
  have htake : (Text.ofNat n ++ rest).takeWhile Char.isDigit = Text.ofNat n := by
    rw [List.takeWhile_append_of_pos fun c hc => Text.isDigit_of_mem_ofNat hc, hstop,
      List.append_nil]
  by_cases hn : n = 0
  · subst hn
    rfl
  · obtain ⟨c, cs, hcs, -, hzero⟩ := Text.exists_cons_ofNat n
    rw [hcs] at htake ⊢
    unfold wholeDigits
    split
    · next heq =>
      -- a numeral that begins with a zero is that of zero
      exact absurd (hzero (List.cons.inj heq).1) hn
    · exact htake

theorem fractionDigits_of_endsNumber (h : EndsNumber rest) : fractionDigits rest = [] := by
  unfold fractionDigits
  split
  · exact absurd rfl (h '.' rfl).2.1
  · rfl

theorem readExponent_of_endsNumber (h : EndsNumber rest) : readExponent rest = (none, rest) := by
  unfold readExponent
  cases rest with
  | nil => rfl
  | cons c cs =>
    obtain ⟨-, -, he, hE⟩ := h c rfl
    simp [he, hE]

/-- The numeral of a whole number is read up to its end, as digits of a whole part and nothing else. -/
theorem readNumeral_ofNat (n : Nat) (h : EndsNumber rest) :
    readNumeral (Text.ofNat n ++ rest) = .ok (⟨Text.ofNat n, [], none⟩, rest) := by
  have hne : (Text.ofNat n).isEmpty = false := by
    obtain ⟨c, cs, hcs, -⟩ := Text.exists_cons_ofNat n
    rw [hcs]
    rfl
  unfold readNumeral
  simp only [wholeDigits_ofNat n h, hne, List.drop_left, fractionDigits_of_endsNumber h]
  simp [readExponent_of_endsNumber h]

/-- The digits of a number are read as that number, with the sign given. -/
theorem readMagnitude_ofNat (isNegative : Bool) (n : Nat) (h : EndsNumber rest) :
    readMagnitude {} isNegative (Text.ofNat n ++ rest)
      = .ok (.int (if isNegative then -(n : Int) else n), rest) := by
  have hvalue : (⟨Text.ofNat n, [], none⟩ : Numeral).value {} isNegative
      = .ok (.int (if isNegative then -(n : Int) else n)) := by
    simp [Numeral.value, Limits.admitsDigits, Text.ofNat, Nat.ofDigitChars_ten_toDigits]
  simp only [readMagnitude, readNumeral_ofNat n h, ok_bind, hvalue]
  rfl

/-- No word begins with a digit. -/
theorem find?_words_of_isDigit {c : Char} (h : c.isDigit = true) (cs : Text) :
    words.find? (fun word => word.1.isPrefixOf (c :: cs)) = none := by
  rw [List.find?_eq_none]
  intro word hword hprefix
  have hprefix := List.isPrefixOf_iff_prefix.mp hprefix
  simp only [words, List.mem_cons, List.not_mem_nil, or_false] at hword
  rcases hword with rfl | rfl | rfl | rfl | rfl | rfl <;>
    · obtain ⟨rfl, -⟩ := List.cons_prefix_cons.mp hprefix
      exact absurd h (by decide)

theorem find?_words_of_minus {c : Char} (h : c.isDigit = true) (cs : Text) :
    words.find? (fun word => word.1.isPrefixOf ('-' :: c :: cs)) = none := by
  rw [List.find?_eq_none]
  intro word hword hprefix
  have hprefix := List.isPrefixOf_iff_prefix.mp hprefix
  simp only [words, List.mem_cons, List.not_mem_nil, or_false] at hword
  rcases hword with rfl | rfl | rfl | rfl | rfl | rfl
  case inr.inr.inr.inr.inr =>
    -- minus infinity goes on with a letter
    obtain ⟨rfl, -⟩ := List.cons_prefix_cons.mp (List.cons_prefix_cons.mp hprefix).2
    exact absurd h (by decide)
  all_goals exact absurd (List.cons_prefix_cons.mp hprefix).1 (by decide)

/-- The digits of an integer are read as that integer. -/
theorem readScalar_ofInt (n : Int) (h : EndsNumber rest) :
    readScalar {} (Text.ofInt n ++ rest) = .ok (.int n, rest) := by
  unfold readScalar
  cases n with
  | ofNat n =>
    obtain ⟨c, cs, hcs, hdigit, -⟩ := Text.exists_cons_ofNat n
    have hread := readMagnitude_ofNat false n h
    rw [hcs] at hread
    rw [Text.ofInt, hcs, List.cons_append, find?_words_of_isDigit hdigit]
    have hminus : c ≠ '-' := by
      rintro rfl
      exact absurd hdigit (by decide)
    simp only
    split
    · next heq => exact absurd (List.cons.inj heq).1 hminus
    · exact hread
  | negSucc n =>
    obtain ⟨c, cs, hcs, hdigit, -⟩ := Text.exists_cons_ofNat (n + 1)
    have hread := readMagnitude_ofNat true (n + 1) h
    rw [hcs] at hread
    rw [Text.ofInt, hcs, List.cons_append, List.cons_append, find?_words_of_minus hdigit]
    exact hread

end Numbers

/-! ## Strings -/

/-- The codes that a character is written by: its own, or those of the two halves of a pair. -/
def codesOf (c : Char) : List Nat :=
  if c.toNat < 0x10000 then [c.toNat]
  else [0xd800 + (c.toNat - 0x10000) / 1024, 0xdc00 + (c.toNat - 0x10000) % 1024]

/-- What is written for a character inside a string. -/
theorem escapeChar_cases (c : Char) :
    (∃ e, e ≠ 'u' ∧ shortEscape? e = some c.toNat ∧ c.toNat < 127 ∧ escapeChar c = ['\\', e])
      ∨ (c ≠ '"' ∧ c ≠ '\\' ∧ 32 ≤ c.toNat ∧ c.toNat < 127 ∧ escapeChar c = [c])
      ∨ escapeChar c = (codesOf c).flatMap codeEscape := by
  -- the characters with a short escape come first, in the writer's order
  by_cases hquote : c = '"'
  · subst hquote
    exact Or.inl ⟨'"', by decide, rfl, by decide, rfl⟩
  by_cases hslash : c = '\\'
  · subst hslash
    exact Or.inl ⟨'\\', by decide, rfl, by decide, rfl⟩
  by_cases hfeed : c = '\n'
  · subst hfeed
    exact Or.inl ⟨'n', by decide, rfl, by decide, rfl⟩
  by_cases hreturn : c = '\r'
  · subst hreturn
    exact Or.inl ⟨'r', by decide, rfl, by decide, rfl⟩
  by_cases htab : c = '\t'
  · subst htab
    exact Or.inl ⟨'t', by decide, rfl, by decide, rfl⟩
  by_cases hform : c.toNat = 12
  · exact Or.inl ⟨'f', by decide, by rw [hform]; rfl, by omega, by simp [escapeChar, *]⟩
  by_cases hback : c.toNat = 8
  · exact Or.inl ⟨'b', by decide, by rw [hback]; rfl, by omega, by simp [escapeChar, *]⟩
  by_cases hplain : 32 ≤ c.toNat ∧ c.toNat < 127
  · exact Or.inr (Or.inl ⟨hquote, hslash, hplain.1, hplain.2, by simp [escapeChar, *]⟩)
  · right
    right
    unfold codesOf
    split
    · simp [escapeChar, *]
    · simp [escapeChar, *]

/-- A hexadecimal digit is read as it was written. -/
theorem hexDigit?_digitChar : ∀ k < 16, hexDigit? k.digitChar = some k := by
  decide

theorem hexUnit?_digitChars {n : Nat} (h : n < 0x10000) :
    hexUnit? (n / 4096).digitChar (n / 256 % 16).digitChar (n / 16 % 16).digitChar
      (n % 16).digitChar = some n := by
  have hsum : 4096 * (n / 4096) + 256 * (n / 256 % 16) + 16 * (n / 16 % 16) + n % 16 = n := by
    omega
  unfold hexUnit?
  rw [hexDigit?_digitChar _ (by omega), hexDigit?_digitChar _ (by omega),
    hexDigit?_digitChar _ (by omega), hexDigit?_digitChar _ (by omega)]
  exact congrArg some hsum

section Codes

variable (cs : Text)

/-- A short escape stands for its code. -/
theorem readCodes_shortEscape {e : Char} {n : Nat} (he : e ≠ 'u') (h : shortEscape? e = some n) :
    readCodes ('\\' :: e :: cs) = (readCodes cs).map fun r => (n :: r.1, r.2) := by
  rw [readCodes]
  · simp only [h]
    cases readCodes cs <;> rfl
  · exact fun _ _ _ _ _ hu _ => he hu

/-- A character that needs no escape stands for itself. -/
theorem readCodes_plain {c : Char} (hquote : c ≠ '"') (hslash : c ≠ '\\') (hmin : 32 ≤ c.toNat) :
    readCodes (c :: cs) = (readCodes cs).map fun r => (c.toNat :: r.1, r.2) := by
  rw [readCodes.eq_def]
  simp only [if_neg hquote, if_neg hslash, if_neg (Nat.not_lt.mpr hmin)]
  cases readCodes cs <;> rfl

/-- An escape by digits stands for its code. -/
theorem readCodes_codeEscape {n : Nat} (h : n < 0x10000) :
    readCodes (codeEscape n ++ cs) = (readCodes cs).map fun r => (n :: r.1, r.2) := by
  unfold codeEscape
  rw [Text.hex_four h]
  show readCodes ('\\' :: 'u' :: _ :: _ :: _ :: _ :: cs) = _
  rw [readCodes]
  simp only [hexUnit?_digitChars h]
  cases readCodes cs <;> rfl

/-- The codes of a character have four hexadecimal digits. -/
theorem lt_of_mem_codesOf {c : Char} {n : Nat} (h : n ∈ codesOf c) : n < 0x10000 := by
  have hvalid : c.toNat < 0xd800 ∨ 0xdfff < c.toNat ∧ c.toNat < 0x110000 := c.valid
  unfold codesOf at h
  split at h
  · next hlt => rwa [List.mem_singleton.mp h]
  · rcases List.mem_cons.mp h with rfl | h
    · omega
    · rw [List.mem_singleton.mp h]
      omega

/-- Escapes by digits stand for their codes, one after the other. -/
theorem readCodes_flatMap_codeEscape {codes : List Nat} (h : ∀ n ∈ codes, n < 0x10000) :
    readCodes (codes.flatMap codeEscape ++ cs)
      = (readCodes cs).map fun r => (codes ++ r.1, r.2) := by
  induction codes with
  | nil =>
    rw [List.flatMap_nil, List.nil_append]
    cases readCodes cs <;> rfl
  | cons n codes ih =>
    rw [List.flatMap_cons, List.append_assoc, readCodes_codeEscape _ (h n List.mem_cons_self),
      ih fun m hm => h m (List.mem_cons_of_mem n hm), Option.map_map]
    rfl

/-- However a character is written, it is read as its codes. -/
theorem readCodes_escapeChar (c : Char) :
    readCodes (escapeChar c ++ cs) = (readCodes cs).map fun r => (codesOf c ++ r.1, r.2) := by
  rcases escapeChar_cases c with ⟨e, he, hcode, hmax, hc⟩ | ⟨hquote, hslash, hmin, hmax, hc⟩ | hc
  · have hcodes : codesOf c = [c.toNat] := if_pos (by omega)
    rw [hc, hcodes]
    exact readCodes_shortEscape cs he hcode
  · have hcodes : codesOf c = [c.toNat] := if_pos (by omega)
    rw [hc, hcodes]
    exact readCodes_plain cs hquote hslash hmin
  · rw [hc]
    exact readCodes_flatMap_codeEscape cs fun n hn => lt_of_mem_codesOf hn

/-- A text that is written and closed is read as the codes of its characters. -/
theorem readCodes_flatMap_escapeChar (t : Text) :
    readCodes (t.flatMap escapeChar ++ '"' :: cs) = some (t.flatMap codesOf, cs) := by
  induction t with
  | nil =>
    rw [List.flatMap_nil, List.nil_append, readCodes.eq_def]
    rfl
  | cons c t ih =>
    rw [List.flatMap_cons, List.append_assoc, readCodes_escapeChar, ih]
    rfl

end Codes

/-- A code that is no first half stands for a character by itself. -/
theorem textOfCodes_cons {n : Nat} (h : isHighHalf n = false) (codes : List Nat) :
    textOfCodes (n :: codes) = charOfCode n :: textOfCodes codes := by
  cases codes with
  | nil => rfl
  | cons m codes => simp [textOfCodes, h]

/-- The codes of a character stand for it. -/
theorem textOfCodes_codesOf (c : Char) (codes : List Nat) :
    textOfCodes (codesOf c ++ codes) = c :: textOfCodes codes := by
  have hvalid : c.toNat < 0xd800 ∨ 0xdfff < c.toNat ∧ c.toNat < 0x110000 := c.valid
  unfold codesOf
  split
  · -- a character is no half of a pair
    have hhigh : isHighHalf c.toNat = false := by
      simp only [isHighHalf, Bool.and_eq_false_iff, decide_eq_false_iff_not]
      omega
    have hlow : isLowHalf c.toNat = false := by
      simp only [isLowHalf, Bool.and_eq_false_iff, decide_eq_false_iff_not]
      omega
    rw [List.singleton_append, textOfCodes_cons hhigh, charOfCode, hhigh, hlow]
    exact congrArg (· :: _) (Char.ofNat_toNat c)
  · have hhigh : isHighHalf (0xd800 + (c.toNat - 0x10000) / 1024) = true := by
      simp only [isHighHalf, Bool.and_eq_true, decide_eq_true_eq]
      omega
    have hlow : isLowHalf (0xdc00 + (c.toNat - 0x10000) % 1024) = true := by
      simp only [isLowHalf, Bool.and_eq_true, decide_eq_true_eq]
      omega
    have hcode : 0x10000 + 1024 * (0xd800 + (c.toNat - 0x10000) / 1024 - 0xd800)
        + (0xdc00 + (c.toNat - 0x10000) % 1024 - 0xdc00) = c.toNat := by
      omega
    show textOfCodes (_ :: _ :: codes) = _
    rw [textOfCodes, hhigh, hlow, hcode]
    exact congrArg (· :: _) (Char.ofNat_toNat c)

/-- A string is read back from what is written for it. -/
theorem readString_flatMap_escapeChar (t rest : Text) :
    readString (t.flatMap escapeChar ++ '"' :: rest) = .ok (t, rest) := by
  have htext : textOfCodes (t.flatMap codesOf) = t := by
    induction t with
    | nil => rfl
    | cons c t ih => rw [List.flatMap_cons, textOfCodes_codesOf, ih]
  rw [readString, readCodes_flatMap_escapeChar]
  exact congrArg (fun u => Except.ok (u, rest)) htext

end Json

end AttrFold
