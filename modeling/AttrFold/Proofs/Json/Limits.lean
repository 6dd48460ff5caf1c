import Mathlib.Algebra.Group.Nat.Defs
import Mathlib.Data.List.TakeWhile
import AttrFold.Proofs.Json.Reading

/-!
# Reading within limits

A reader with limits stops where these are met, and otherwise reads what a reader without limits reads.

## The crux

Which limits are met first depends on all that was read before, so that nothing short of the reader
says where that is. What can be said is how readers compare: two of them go through one text in
lockstep, with limits of which the second ones are no lower, and with any bounds that are high
enough for the text (`lockstep`). They part only where the first one meets its limits. With one and
the same limits they never part, so a bound that is high enough does not matter.

* **`readWithin_mono`** — higher limits change nothing unless limits were met.
* **`fits_of_readWithin`** — what is read fits the limits.
* **`settled_readWithin`** — no limits are met in a text that has no more brackets and digits than
  they admit.
-/

namespace AttrFold.Json

/-! ## Two readers in lockstep -/

namespace Limits

/-- Limits are no lower than others when they bound nothing more, and that no more tightly. -/
instance : LE Limits :=
  ⟨fun l m => (∀ n ∈ m.depth, ∃ k ∈ l.depth, k ≤ n) ∧ ∀ n ∈ m.digits, ∃ k ∈ l.digits, k ≤ n⟩

variable {l m : Limits}

protected theorem le_refl (l : Limits) : l ≤ l :=
  ⟨fun n hn => ⟨n, hn, Nat.le_refl n⟩, fun n hn => ⟨n, hn, Nat.le_refl n⟩⟩

theorem le_unbounded (l : Limits) : l ≤ {} := ⟨nofun, nofun⟩

/-- An integer is admitted if it has no more digits than the limit says, if there is one. -/
theorem admitsDigits_iff {n : Nat} : l.admitsDigits n = true ↔ ∀ k ∈ l.digits, n ≤ k := by
  simp [admitsDigits, Option.all_eq_true]

theorem admitsDigits_mono (h : l ≤ m) {n : Nat} (hn : l.admitsDigits n = true) :
    m.admitsDigits n = true := by
  rw [admitsDigits_iff] at hn ⊢
  intro k hk
  obtain ⟨j, hj, hle⟩ := h.2 k hk
  exact Nat.le_trans (hn j hj) hle

/-- What the limits inside are: one level less, where levels are bounded. -/
theorem inner_eq_ok_iff {l' : Limits} : l.inner = .ok l' ↔
    l.depth = none ∧ l' = l ∨ ∃ n, l.depth = some (n + 1) ∧ l' = { l with depth := some n } := by
  unfold inner
  split <;> simp_all [eq_comm]

/-- Nothing is admitted below the last level. -/
theorem inner_eq_error_iff {s : Stop} : l.inner = .error s ↔ l.depth = some 0 ∧ s = .excess .depth := by
  unfold inner
  split <;> simp_all [eq_comm]

/-- Where the lower limits let a reader in, the higher ones do so too. -/
theorem inner_mono {l' : Limits} (h : l ≤ m) (hinner : l.inner = .ok l') :
    ∃ m', m.inner = .ok m' ∧ l' ≤ m' ∧ (l = m → l' = m') := by
  obtain ⟨hdepths, hdigits⟩ := h
  cases hm : m.depth with
  | none =>
    refine ⟨m, inner_eq_ok_iff.mpr (.inl ⟨hm, rfl⟩), ?_⟩
    rcases inner_eq_ok_iff.mp hinner with ⟨-, rfl⟩ | ⟨k, hl, rfl⟩
    · exact ⟨⟨hdepths, hdigits⟩, id⟩
    · refine ⟨⟨by simp [hm], hdigits⟩, ?_⟩
      rintro rfl
      simp [hl] at hm
  | some n =>
    obtain ⟨k, hk, hkn⟩ := hdepths n hm
    rcases inner_eq_ok_iff.mp hinner with ⟨hl, -⟩ | ⟨j, hl, rfl⟩
    · simp [hl] at hk
    · obtain rfl : j + 1 = k := by simpa [hl] using hk
      obtain ⟨i, rfl⟩ : ∃ i, n = i + 1 := ⟨n - 1, by omega⟩
      refine ⟨{ m with depth := some i }, inner_eq_ok_iff.mpr (.inr ⟨i, hm, rfl⟩), ⟨?_, hdigits⟩, ?_⟩
      · intro n hn
        obtain rfl : i = n := Option.mem_some_iff.mp hn
        exact ⟨j, rfl, by omega⟩
      · rintro rfl
        simpa [hl] using hm

end Limits

/-- Two outcomes are the same, unless it is that the first reader met its limits, which it does only
if `p`. -/
def Agree (p : Prop) {α : Type} (a b : Except Stop α) : Prop :=
  a = b ∨ p ∧ ∃ e, a = .error (.excess e)

section Agree

variable {p : Prop} {α β : Type} {l m : Limits} {t : Text}

theorem Agree.refl (a : Except Stop α) : Agree p a a := .inl rfl

/-- Readers agree step by step: the second step need only agree on what the first one gave. -/
theorem Agree.bind {x y : Except Stop α} {f g : α → Except Stop β} (h : Agree p x y)
    (hf : ∀ a, y = .ok a → Agree p (f a) (g a)) : Agree p (x >>= f) (y >>= g) := by
  rcases h with rfl | ⟨hp, e, rfl⟩
  · cases x with
    | error s => exact .refl _
    | ok a => exact hf a rfl
  · exact .inr ⟨hp, e, rfl⟩

/-- Series agree when their items do, and what follows each separator. -/
theorem agree_readSeries {closing : Char} {item item' : Text → Except Stop (α × Text)}
    {more more' : Text → Except Stop (List α × Text)} (hitem : Agree p (item t) (item' t))
    (hmore : ∀ {a next u}, item' t = .ok (a, next) → readSeparator closing next = .ok (true, u) →
      Agree p (more u) (more' u)) :
    Agree p (readSeries closing item more t) (readSeries closing item' more' t) := by
  refine hitem.bind fun ⟨a, next⟩ hfirst => ?_
  refine Agree.bind (.refl _) fun ⟨isMore, u⟩ hseparator => ?_
  cases isMore with
  | false => exact .refl _
  | true => exact (hmore hfirst hseparator).bind fun _ _ => .refl _

theorem agree_readMember {value value' : Text → Except Stop (Json × Text)}
    (h : ∀ {k valued}, readKey t = .ok (k, valued) → Agree p (value valued) (value' valued)) :
    Agree p (readMember value t) (readMember value' t) := by
  refine Agree.bind (.refl _) fun ⟨k, valued⟩ hkey => ?_
  exact (h hkey).bind fun _ _ => .refl _

variable (hlm : l ≤ m) (hp : l ≠ m → p)

include hlm hp

/-- Bracketed series agree when the series do, one level further in. -/
theorem agree_readBracketed {closing : Char}
    {series series' : Limits → Text → Except Stop (List α × Text)}
    (h : ∀ {l' m'}, l' ≤ m' → (l' ≠ m' → p) →
      Agree p (series l' (skipSpacing t)) (series' m' (skipSpacing t))) :
    Agree p (readBracketed closing series l t) (readBracketed closing series' m t) := by
  cases hinner : l.inner with
  | error s =>
    obtain ⟨hdepth, rfl⟩ := Limits.inner_eq_error_iff.mp hinner
    by_cases heq : l = m
    · subst heq
      unfold readBracketed
      rw [hinner]
      exact .refl _
    · refine .inr ⟨hp heq, .depth, ?_⟩
      rw [readBracketed, hinner]
      rfl
  | ok l' =>
    obtain ⟨m', hinner', hle, hsame⟩ := Limits.inner_mono hlm hinner
    unfold readBracketed
    rw [hinner, hinner', ok_bind, ok_bind]
    cases closed? closing t with
    | some rest => exact .refl _
    | none => exact h hle fun hne => hp fun heq => hne (hsame heq)

/-- Two limits make no difference to a numeral, unless the first is met. -/
theorem agree_value (n : Numeral) (isNegative : Bool) :
    Agree p (n.value l isNegative) (n.value m isNegative) := by
  unfold Numeral.value
  split
  · by_cases hl : l.admitsDigits n.whole.length = true
    · rw [if_pos hl, if_pos (Limits.admitsDigits_mono hlm hl)]
      exact .refl _
    · by_cases heq : l = m
      · rw [heq]
        exact .refl _
      · rw [if_neg hl]
        exact .inr ⟨hp heq, .digits, rfl⟩
  · exact .refl _

/-- Two limits make no difference to a number, unless the first is met. -/
theorem agree_readMagnitude (isNegative : Bool) (t : Text) :
    Agree p (readMagnitude l isNegative t) (readMagnitude m isNegative t) :=
  Agree.bind (.refl _) fun ⟨n, _⟩ _ => (agree_value hlm hp n isNegative).bind fun _ _ => .refl _

/-- Two limits make no difference to what has no brackets, unless the first is met. -/
theorem agree_readScalar (t : Text) : Agree p (readScalar l t) (readScalar m t) := by
  unfold readScalar
  split
  · exact .refl _
  · split
    · exact agree_readMagnitude hlm hp true _
    · exact agree_readMagnitude hlm hp false _

end Agree

/-- Two readers agree, of which the second one is given no lower limits, on all texts that their
bounds are high enough for. -/
structure Lockstep (fuel : Nat) : Prop where
  value : ∀ {p : Prop} {fuel' l m t}, l ≤ m → (l ≠ m → p) → 2 * t.length < fuel → 2 * t.length < fuel' →
    Agree p (readValue fuel l t) (readValue fuel' m t)
  items : ∀ {p : Prop} {fuel' l m t}, l ≤ m → (l ≠ m → p) → 2 * t.length + 1 < fuel →
    2 * t.length + 1 < fuel' → Agree p (readItems fuel l t) (readItems fuel' m t)
  members : ∀ {p : Prop} {fuel' l m t}, l ≤ m → (l ≠ m → p) → 2 * t.length + 1 < fuel →
    2 * t.length + 1 < fuel' → Agree p (readMembers fuel l t) (readMembers fuel' m t)

/-- Within any bound of steps, two readers agree on values, items and members. -/
theorem lockstep (fuel : Nat) : Lockstep fuel := by
  induction fuel with
  | zero =>
    constructor
    all_goals
      intro _ _ _ _ _ _ _ hfuel
      exact absurd hfuel (Nat.not_lt_zero _)
  | succ fuel ih =>
    constructor
    · intro p fuel' l m t hlm hp hfuel hfuel'
      obtain ⟨fuel', rfl⟩ := Nat.exists_eq_add_one_of_ne_zero (Nat.ne_zero_of_lt hfuel')
      rw [readValue.eq_def, readValue.eq_def (fuel' + 1)]
      dsimp only
      split
      · -- a string has no limits
        exact .refl _
      · next cs =>
        -- the spacing is behind the bracket, so that both bounds still suffice for what follows
        have hskip := (skipSpacing_suffix cs).length_le
        rw [List.length_cons] at hfuel hfuel'
        exact (agree_readBracketed hlm hp fun hlm' hp' => ih.items hlm' hp' (by omega) (by omega)).bind
          fun _ _ => .refl _
      · next cs =>
        have hskip := (skipSpacing_suffix cs).length_le
        rw [List.length_cons] at hfuel hfuel'
        exact (agree_readBracketed hlm hp fun hlm' hp' =>
          ih.members hlm' hp' (by omega) (by omega)).bind
          fun _ _ => .refl _
      · exact agree_readScalar hlm hp t
    · intro p fuel' l m t hlm hp hfuel hfuel'
      obtain ⟨fuel', rfl⟩ := Nat.exists_eq_add_one_of_ne_zero (Nat.ne_zero_of_lt hfuel')
      rw [readItems, readItems]
      refine agree_readSeries (ih.value hlm hp (by omega) (by omega))
        fun {v next u} hfirst hseparator => ?_
      -- the first item and the separator after it shorten the text by two characters
      have hnext := (readsOn fuel').value hfirst |>.shorter
      have hrest := (remains_of_readSeparator hseparator).shorter
      exact ih.items hlm hp (by omega) (by omega)
    · intro p fuel' l m t hlm hp hfuel hfuel'
      obtain ⟨fuel', rfl⟩ := Nat.exists_eq_add_one_of_ne_zero (Nat.ne_zero_of_lt hfuel')
      rw [readMembers, readMembers]
      refine agree_readSeries (agree_readMember fun {k valued} hkey => ?_)
        fun {v next u} hfirst hseparator => ?_
      · have hvalued := (remains_of_readKey hkey).shorter
        exact ih.value hlm hp (by omega) (by omega)
      · have hnext := (remains_of_readMember (readsOn fuel').value hfirst).shorter
        have hrest := (remains_of_readSeparator hseparator).shorter
        exact ih.members hlm hp (by omega) (by omega)

/-- The bound of a reader does not matter, if it is above twice the length of the text. -/
theorem readValue_eq_of_lt {fuel fuel' : Nat} (l : Limits) {t : Text} (h : 2 * t.length < fuel)
    (h' : 2 * t.length < fuel') : readValue fuel l t = readValue fuel' l t :=
  ((lockstep fuel).value (p := False) l.le_refl (absurd rfl ·) h h').resolve_right And.left

/-- Higher limits change nothing, unless limits were met. -/
theorem readWithin_mono {l m : Limits} (h : l ≤ m) (t : Text) :
    readWithin l t = readWithin m t ∨ ∃ e, readWithin l t = .error (.excess e) := by
  have hfuel : 2 * (skipSpacing t).length < 2 * t.length + 1 := by
    have hskip := (skipSpacing_suffix t).length_le
    omega
  have hagree := ((lockstep _).value (p := True) h (fun _ => trivial) hfuel hfuel).bind
    (f := fun r => if (skipSpacing r.2).isEmpty then .ok r.1 else .error .malformed) fun _ _ => .refl _
  exact hagree.imp id And.right

-- The third bracket comes before the digits that are too many, and before the text breaks off.
example : readWithin { depth := some 2, digits := some 3 } "[[[1234" = .error (.excess .depth) := by
  cbv

/-! ## What fits limits -/

/-- A value fits limits when no integer in it has more digits, and nothing lies deeper, than they
admit. -/
inductive Fits : Limits → Json → Prop
  | null {l : Limits} : Fits l .null
  | bool {l : Limits} (b : Bool) : Fits l (.bool b)
  | int {l : Limits} {n : Int} (h : ∀ k ∈ l.digits, n.natAbs < 10 ^ k) : Fits l (.int n)
  | float {l : Limits} (x : Binary64) : Fits l (.float x)
  | str {l : Limits} (t : Text) : Fits l (.str t)
  | arr {l m : Limits} {items : List Json} (hinner : l.inner = .ok m) (h : ∀ v ∈ items, Fits m v) :
      Fits l (.arr items)
  | obj {l m : Limits} {members : List (Text × Json)} (hinner : l.inner = .ok m)
      (h : ∀ p ∈ members, Fits m p.2) : Fits l (.obj members)

theorem isDigit_of_mem_wholeDigits {t : Text} {c : Char} (h : c ∈ wholeDigits t) :
    c.isDigit = true := by
  unfold wholeDigits at h
  split at h
  · rw [List.mem_singleton.mp h]
    rfl
  · exact List.mem_takeWhile_imp h

theorem prefix_wholeDigits (t : Text) : wholeDigits t <+: t := by
  unfold wholeDigits
  split
  · exact ⟨_, rfl⟩
  · exact List.takeWhile_prefix _

/-- A number of so many digits is below that power of ten. -/
theorem ofDigitChars_lt {t : Text} (h : ∀ c ∈ t, c.isDigit = true) :
    Nat.ofDigitChars 10 t 0 < 10 ^ t.length := by
  induction t with
  | nil => decide
  | cons c t ih =>
    obtain ⟨hc, ht⟩ := List.forall_mem_cons.mp h
    have hdigit : c.toNat - '0'.toNat ≤ 9 := by
      have hmax : c.toNat ≤ '9'.toNat := (Char.isDigit_iff_toNat.mp hc).2
      have hnine : '9'.toNat = 57 := rfl
      have hzero : '0'.toNat = 48 := rfl
      omega
    rw [Nat.ofDigitChars_cons, Nat.ofDigitChars_eq_ofDigitChars_zero, List.length_cons, Nat.pow_succ]
    calc 10 ^ t.length * (10 * 0 + (c.toNat - '0'.toNat)) + Nat.ofDigitChars 10 t 0
        ≤ 10 ^ t.length * 9 + Nat.ofDigitChars 10 t 0 :=
          Nat.add_le_add_right (Nat.mul_le_mul_left _ (by omega)) _
      _ < 10 ^ t.length * 9 + 10 ^ t.length := Nat.add_lt_add_left (ih ht) _
      _ = 10 ^ t.length * 10 := by omega

/-- An integer that is read fits the limit on digits. -/
theorem fits_of_readScalar {l : Limits} {t rest : Text} {v : Json}
    (h : readScalar l t = .ok (v, rest)) :
    Fits l v := by
  cases scalarRead_of_readScalar h with
  | word hmem =>
    simp only [words, List.mem_cons, Prod.mk.injEq, List.not_mem_nil, or_false] at hmem
    rcases hmem with ⟨-, rfl⟩ | ⟨-, rfl⟩ | ⟨-, rfl⟩ | ⟨-, rfl⟩ | ⟨-, rfl⟩ | ⟨-, rfl⟩ <;> constructor
  | @number _ u _ _ _ _ hread hvalue =>
    rcases intOrFloat_of_value hvalue with ⟨k, rfl, hk, hadmits⟩ | ⟨x, rfl⟩
    · refine .int fun d hd => ?_
      have hwhole := (whole_of_readNumeral hread).1
      rw [hk, hwhole]
      rw [hwhole] at hadmits
      calc Nat.ofDigitChars 10 (wholeDigits u) 0
          < 10 ^ (wholeDigits u).length := ofDigitChars_lt fun c hc => isDigit_of_mem_wholeDigits hc
        _ ≤ 10 ^ d := Nat.pow_le_pow_right (by decide) (Limits.admitsDigits_iff.mp hadmits d hd)
    · exact .float x

/-- What is read fits the limits where it stands. -/
theorem inherited_fits : Inherited Fits where
  scalar := fits_of_readScalar
  str := .str
  arr hinner h := .arr hinner h
  obj hinner h := .obj hinner fun p hp => h p (Entries.mem_of_mem_ofPairs hp)

/-- **What is read within limits fits them.** -/
theorem fits_of_readWithin {l : Limits} {t : Text} {v : Json} (h : readWithin l t = .ok v) : Fits l v :=
  inherited_fits.of_readWithin h

/-- A value that does not fit limits is not read within them, though a text holds it. -/
theorem excess_of_not_fits {l : Limits} {t : Text} {v : Json} (h : read? t = some v) (hv : ¬Fits l v) :
    ∃ e, readWithin l t = .error (.excess e) := by
  refine (readWithin_mono l.le_unbounded t).resolve_left fun hread => hv ?_
  exact fits_of_readWithin (hread.trans (read?_eq_some_iff.mp h))

/-! ## Texts within limits -/

/-- Whether a character opens an array or an object. -/
def isOpening (c : Char) : Bool := c = '[' || c = '\x7b'

/-- A text has no more opening brackets and braces, and nowhere more digits in a row, than limits
admit. -/
structure Limits.Admit (l : Limits) (t : Text) : Prop where
  depth : ∀ n ∈ l.depth, t.countP isOpening ≤ n
  digits : ∀ n ∈ l.digits, ∀ run, run <:+: t → (∀ c ∈ run, c.isDigit = true) → run.length ≤ n

/-- No limits were met. -/
def Settled {α : Type} (a : Except Stop α) : Prop := ∀ e, a ≠ .error (.excess e)

namespace Limits.Admit

variable {l : Limits} {t rest : Text}

theorem unbounded (t : Text) : ({} : Limits).Admit t := ⟨nofun, nofun⟩

/-- Limits that admit a text admit all ends of it. -/
theorem suffix (h : l.Admit t) (hrest : rest <:+ t) : l.Admit rest where
  depth n hn := Nat.le_trans hrest.sublist.countP_le (h.depth n hn)
  digits n hn run hrun := h.digits n hn run (hrun.trans hrest.isInfix)

/-- A text that begins with an opening bracket or brace is admitted with all that follows inside of
it. -/
theorem inner {c : Char} (h : l.Admit (c :: t)) (hc : isOpening c = true) :
    ∃ m, l.inner = .ok m ∧ m.Admit t := by
  have hcount : (c :: t).countP isOpening = t.countP isOpening + 1 := List.countP_cons_of_pos hc
  have htail : l.Admit t := h.suffix (List.suffix_cons c t)
  cases hl : l.depth with
  | none => exact ⟨l, Limits.inner_eq_ok_iff.mpr (.inl ⟨hl, rfl⟩), htail⟩
  | some n =>
    have hn : t.countP isOpening + 1 ≤ n := hcount ▸ h.depth n hl
    obtain ⟨k, rfl⟩ : ∃ k, n = k + 1 := ⟨n - 1, by omega⟩
    refine ⟨{ l with depth := some k }, Limits.inner_eq_ok_iff.mpr (.inr ⟨k, hl, rfl⟩), ?_,
      htail.digits⟩
    intro j hj
    obtain rfl : k = j := Option.mem_some_iff.mp hj
    exact Nat.le_of_succ_le_succ hn

end Limits.Admit

section Settled

variable {α β : Type} {l : Limits} {t : Text}

theorem Settled.of_ok (a : α) : Settled (.ok a) := nofun

theorem Settled.of_malformed : Settled (.error .malformed : Except Stop α) := nofun

/-- Limits are not met in two steps if they are in neither. -/
theorem Settled.bind {x : Except Stop α} {f : α → Except Stop β} (hx : Settled x)
    (hf : ∀ a, x = .ok a → Settled (f a)) : Settled (x >>= f) := by
  cases x with
  | error s => exact fun e h => hx e (congrArg Except.error (Except.error.inj h))
  | ok a => exact hf a rfl

/-- A string is read without limits. -/
theorem settled_readString (t : Text) : Settled (readString t) := by
  unfold readString
  split
  · exact .of_ok _
  · exact .of_malformed

theorem settled_readSeparator (closing : Char) (t : Text) : Settled (readSeparator closing t) := by
  unfold readSeparator
  split
  · split
    · exact .of_ok _
    · split
      · exact .of_ok _
      · exact .of_malformed
  · exact .of_malformed

theorem settled_readKey (t : Text) : Settled (readKey t) := by
  rw [readKey.eq_def]
  split
  · refine (settled_readString _).bind fun _ _ => ?_
    dsimp only
    split
    · exact .of_ok _
    · exact .of_malformed
  · exact .of_malformed

/-- A series meets limits in an item, or not at all. -/
theorem settled_readSeries {closing : Char} {item : Text → Except Stop (α × Text)}
    {more : Text → Except Stop (List α × Text)} (hitem : Settled (item t))
    (hmore : ∀ {a next u}, item t = .ok (a, next) → readSeparator closing next = .ok (true, u) →
      Settled (more u)) : Settled (readSeries closing item more t) := by
  refine hitem.bind fun ⟨a, next⟩ hfirst => ?_
  refine (settled_readSeparator closing next).bind fun ⟨isMore, u⟩ hseparator => ?_
  cases isMore with
  | false => exact .of_ok _
  | true => exact (hmore hfirst hseparator).bind fun _ _ => .of_ok _

theorem settled_readMember {value : Text → Except Stop (Json × Text)}
    (h : ∀ {k valued}, readKey t = .ok (k, valued) → Settled (value valued)) :
    Settled (readMember value t) := by
  refine (settled_readKey t).bind fun ⟨k, valued⟩ hkey => ?_
  exact (h hkey).bind fun _ _ => .of_ok _

/-- Between brackets the inner limits admit what the outer ones admit with the bracket before it. -/
theorem settled_readBracketed {c closing : Char} {series : Limits → Text → Except Stop (List α × Text)}
    (h : l.Admit (c :: t)) (hc : isOpening c = true)
    (hseries : ∀ {m}, m.Admit (skipSpacing t) → Settled (series m (skipSpacing t))) :
    Settled (readBracketed closing series l t) := by
  obtain ⟨m, hinner, hm⟩ := h.inner hc
  unfold readBracketed
  rw [hinner, ok_bind]
  split
  · exact .of_ok _
  · exact hseries (hm.suffix (skipSpacing_suffix t))

/-- A numeral is taken apart without limits. -/
theorem settled_readNumeral (t : Text) : Settled (readNumeral t) := by
  unfold readNumeral
  dsimp only
  split
  · exact .of_malformed
  · exact .of_ok _

/-- A number meets no limits that admit its text: its digits are a run of digits there. -/
theorem settled_readMagnitude (h : l.Admit t) (isNegative : Bool) :
    Settled (readMagnitude l isNegative t) := by
  refine (settled_readNumeral t).bind fun ⟨n, rest⟩ hread => ?_
  refine Settled.bind ?_ fun _ _ => .of_ok _
  -- the digits of the whole part are a run of digits in the text
  have hadmits : l.admitsDigits n.whole.length = true := by
    rw [Limits.admitsDigits_iff, (whole_of_readNumeral hread).1]
    exact fun k hk => h.digits k hk _ (prefix_wholeDigits t).isInfix fun c hc =>
      isDigit_of_mem_wholeDigits hc
  unfold Numeral.value
  rw [if_pos hadmits]
  split
  · exact .of_ok _
  · exact .of_ok _

/-- What has no brackets meets no limits that admit its text. -/
theorem settled_readScalar (h : l.Admit t) : Settled (readScalar l t) := by
  unfold readScalar
  split
  · exact .of_ok _
  · split
    · exact settled_readMagnitude (h.suffix (List.suffix_cons _ _)) true
    · exact settled_readMagnitude h false

end Settled

/-- The three readers meet no limits in a text that the limits admit. -/
structure ReadsSettled (fuel : Nat) : Prop where
  value : ∀ {l t}, l.Admit t → Settled (readValue fuel l t)
  items : ∀ {l t}, l.Admit t → Settled (readItems fuel l t)
  members : ∀ {l t}, l.Admit t → Settled (readMembers fuel l t)

/-- Within any bound of steps, a reader meets no limits that admit its text: a bracket takes a
level, and leaves a text with one bracket less. -/
theorem readsSettled (fuel : Nat) : ReadsSettled fuel := by
  induction fuel with
  | zero =>
    constructor <;> intro l t _
    · rw [readValue]
      exact .of_malformed
    · rw [readItems]
      exact .of_malformed
    · rw [readMembers]
      exact .of_malformed
  | succ fuel ih =>
    constructor <;> intro l t h
    · rw [readValue.eq_def]
      dsimp only
      split
      · exact (settled_readString _).bind fun _ _ => .of_ok _
      · exact (settled_readBracketed h rfl ih.items).bind fun _ _ => .of_ok _
      · exact (settled_readBracketed h rfl ih.members).bind fun _ _ => .of_ok _
      · exact settled_readScalar h
    · rw [readItems]
      refine settled_readSeries (ih.value h) fun {v next u} hfirst hseparator => ih.items (h.suffix ?_)
      -- what the limits admit is admitted of the rest too
      exact ((remains_of_readSeparator hseparator).trans ((readsOn fuel).value hfirst)).suffix
    · rw [readMembers]
      refine settled_readSeries (settled_readMember fun hkey =>
        ih.value (h.suffix (remains_of_readKey hkey).suffix))
        fun {m next u} hfirst hseparator => ih.members (h.suffix ?_)
      exact ((remains_of_readSeparator hseparator).trans
        (remains_of_readMember (readsOn fuel).value hfirst)).suffix

/-- **No limits are met in a text that has no more brackets and digits than they admit.** -/
theorem settled_readWithin {l : Limits} {t : Text} (h : l.Admit t) : Settled (readWithin l t) := by
  refine ((readsSettled _).value (h.suffix (skipSpacing_suffix t))).bind fun ⟨v, rest⟩ _ => ?_
  show Settled (if (skipSpacing rest).isEmpty then .ok v else .error .malformed)
  split
  · exact .of_ok v
  · exact .of_malformed

/-- Without limits none are met. -/
theorem settled_readWithin_unbounded (t : Text) : Settled (readWithin {} t) :=
  settled_readWithin (.unbounded t)

/-- A text holds no value exactly if a reader without limits finds it malformed. -/
theorem read?_eq_none_iff {t : Text} : read? t = none ↔ readWithin {} t = .error .malformed := by
  have hsettled := settled_readWithin_unbounded t
  unfold read?
  cases hread : readWithin {} t with
  | ok v => simp [Except.toOption]
  | error s =>
    cases s with
    | malformed => simp [Except.toOption]
    | excess e => exact absurd hread (hsettled e)

end AttrFold.Json
