import AttrFold.Json.Reader
import AttrFold.Proofs.Json.Sorted

/-!
# What is read

A value that is read has each key of each object once, however often the text has it
(`distinct_of_read?`).

## The crux

The three readers call each other, so an induction goes through all of them. It is made twice: once
for the rest of the text, which each reader leaves shorter than it found it (`readsOn`), and once for
any property that a value has from its parts (`Inherited.of_readWithin`). How each reader comes to
what it reads is taken apart before both (`ValueRead`, `SeriesRead`).

* **`Remains`** — what a reader leaves is an end of the text, and not all of it.
* **`Inherited`** — what has to be shown of parts, for a property to hold of all that is read.
-/

namespace AttrFold.Json

/-! ## What a reader has read -/

/-- How a word or a number is read from a text. -/
inductive ScalarRead (l : Limits) : Text → Json → Text → Prop
  | word {word t : Text} {v : Json} (hmem : (word, v) ∈ words) : ScalarRead l (word ++ t) v t
  | number (sign : Text) {t rest : Text} {n : Numeral} {v : Json} {isNegative : Bool}
      (hread : readNumeral t = .ok (n, rest)) (hvalue : n.value l isNegative = .ok v) :
      ScalarRead l (sign ++ t) v rest

/-- How a series is read: the first item, and more where a comma follows. -/
inductive SeriesRead {α : Type} (closing : Char) (item : Text → Except Stop (α × Text))
    (more : Text → Except Stop (List α × Text)) (t : Text) : List α → Text → Prop
  | last {a : α} {following rest : Text} (hfirst : item t = .ok (a, following))
      (hseparator : readSeparator closing following = .ok (false, rest)) :
      SeriesRead closing item more t [a] rest
  | more {a : α} {as : List α} {following next rest : Text} (hfirst : item t = .ok (a, following))
      (hseparator : readSeparator closing following = .ok (true, next))
      (hmore : more next = .ok (as, rest)) :
      SeriesRead closing item more t (a :: as) rest

/-- How a value is read from a text, with a bound on what is read inside of it. -/
inductive ValueRead (fuel : Nat) (l : Limits) : Text → Json → Text → Prop
  | str {cs s rest : Text} (hread : readString cs = .ok (s, rest)) :
      ValueRead fuel l ('"' :: cs) (.str s) rest
  | arr {cs rest : Text} {items : List Json}
      (hread : readBracketed ']' (readItems fuel) l cs = .ok (items, rest)) :
      ValueRead fuel l ('[' :: cs) (.arr items) rest
  | obj {cs rest : Text} {members : List (Text × Json)}
      (hread : readBracketed '\x7d' (readMembers fuel) l cs = .ok (members, rest)) :
      ValueRead fuel l ('\x7b' :: cs) (.obj (Entries.ofPairs members)) rest
  | scalar {t rest : Text} {v : Json} (hread : readScalar l t = .ok (v, rest)) :
      ValueRead fuel l t v rest

section Inversion

variable {fuel : Nat} {l : Limits} {t rest : Text}

/-- A number is the value of its numeral. -/
theorem magnitudeRead_of_readMagnitude {isNegative : Bool} {v : Json}
    (h : readMagnitude l isNegative t = .ok (v, rest)) :
    ∃ n, readNumeral t = .ok (n, rest) ∧ n.value l isNegative = .ok v := by
  obtain ⟨⟨n, cs⟩, hread, h⟩ := exists_of_bind_eq_ok h
  obtain ⟨w, hvalue, heq⟩ := exists_of_bind_eq_ok h
  cases heq
  exact ⟨n, hread, hvalue⟩

/-- What is read without brackets is a word or a number. -/
theorem scalarRead_of_readScalar {v : Json} (h : readScalar l t = .ok (v, rest)) :
    ScalarRead l t v rest := by
  unfold readScalar at h
  split at h
  · next word value hfind =>
    cases h
    have hprefix : word.isPrefixOf t = true :=
      List.find?_some (p := fun word : Text × Json => word.1.isPrefixOf t) hfind
    obtain ⟨cs, rfl⟩ := List.isPrefixOf_iff_prefix.mp hprefix
    rw [List.drop_left]
    exact .word (List.mem_of_find?_eq_some hfind)
  · split at h
    · obtain ⟨n, hread, hvalue⟩ := magnitudeRead_of_readMagnitude h
      exact .number ['-'] hread hvalue
    · obtain ⟨n, hread, hvalue⟩ := magnitudeRead_of_readMagnitude h
      exact .number [] hread hvalue

/-- A numeral is an integer that has no more digits than the limits admit, or a floating-point
number. -/
theorem intOrFloat_of_value {n : Numeral} {isNegative : Bool} {v : Json}
    (h : n.value l isNegative = .ok v) :
    (∃ k : Int, v = .int k ∧ k.natAbs = Nat.ofDigitChars 10 n.whole 0 ∧
      l.admitsDigits n.whole.length = true) ∨ ∃ x, v = .float x := by
  unfold Numeral.value at h
  split at h
  · split at h
    · next hadmits =>
      cases h
      refine .inl ⟨_, rfl, ?_, hadmits⟩
      split <;> simp
    · cases h
  · cases h
    exact .inr ⟨_, rfl⟩

/-- A series is its first item and what follows the separator after it. -/
theorem seriesRead_of_readSeries {α : Type} {closing : Char} {item : Text → Except Stop (α × Text)}
    {more : Text → Except Stop (List α × Text)} {as : List α}
    (h : readSeries closing item more t = .ok (as, rest)) : SeriesRead closing item more t as rest := by
  obtain ⟨⟨a, following⟩, hfirst, h⟩ := exists_of_bind_eq_ok h
  obtain ⟨⟨isMore, next⟩, hseparator, h⟩ := exists_of_bind_eq_ok h
  cases isMore with
  | false =>
    cases h
    exact .last hfirst hseparator
  | true =>
    obtain ⟨⟨bs, cs⟩, hmore, heq⟩ := exists_of_bind_eq_ok h
    cases heq
    exact .more hfirst hseparator hmore

/-- Between brackets there is nothing, or a series that is read with the limits inside of them. -/
theorem exists_of_readBracketed {α : Type} {closing : Char}
    {series : Limits → Text → Except Stop (List α × Text)} {as : List α}
    (h : readBracketed closing series l t = .ok (as, rest)) :
    ∃ m, l.inner = .ok m ∧
      (as = [] ∧ closed? closing t = some rest ∨ series m (skipSpacing t) = .ok (as, rest)) := by
  obtain ⟨m, hinner, h⟩ := exists_of_bind_eq_ok h
  refine ⟨m, hinner, ?_⟩
  split at h
  · next hclosed =>
    cases h
    exact .inl ⟨rfl, hclosed⟩
  · exact .inr h

/-- A key is a string before a colon. -/
theorem exists_of_readKey {k : Text} (h : readKey t = .ok (k, rest)) :
    ∃ cs following, t = '"' :: cs ∧ readString cs = .ok (k, following) ∧
      ∃ ds, skipSpacing following = ':' :: ds ∧ rest = skipSpacing ds := by
  rw [readKey.eq_def] at h
  split at h
  · next cs =>
    obtain ⟨⟨s, following⟩, hread, h⟩ := exists_of_bind_eq_ok h
    dsimp only at h
    split at h
    · next ds hskip =>
      cases h
      exact ⟨cs, following, rfl, hread, ds, hskip, rfl⟩
    · cases h
  · cases h

/-- A member is a key and the value behind it. -/
theorem exists_of_readMember {value : Text → Except Stop (Json × Text)} {m : Text × Json}
    (h : readMember value t = .ok (m, rest)) :
    ∃ valued, readKey t = .ok (m.1, valued) ∧ value valued = .ok (m.2, rest) := by
  obtain ⟨⟨k, valued⟩, hkey, h⟩ := exists_of_bind_eq_ok h
  obtain ⟨⟨v, cs⟩, hvalue, heq⟩ := exists_of_bind_eq_ok h
  cases heq
  exact ⟨valued, hkey, hvalue⟩

/-- A value is a string, an array, an object, or has no brackets. -/
theorem valueRead_of_readValue {v : Json} (h : readValue (fuel + 1) l t = .ok (v, rest)) :
    ValueRead fuel l t v rest := by
  rw [readValue.eq_def] at h
  simp only at h
  -- a string, an array, an object, and else a word or a number
  split at h
  · obtain ⟨⟨s, cs⟩, hread, heq⟩ := exists_of_bind_eq_ok h
    cases heq
    exact .str hread
  · obtain ⟨⟨items, cs⟩, hread, heq⟩ := exists_of_bind_eq_ok h
    cases heq
    exact .arr hread
  · obtain ⟨⟨members, cs⟩, hread, heq⟩ := exists_of_bind_eq_ok h
    cases heq
    exact .obj hread
  · exact .scalar h

/-- With a bound of zero nothing is read. -/
theorem readValue_zero_ne_ok {r : Json × Text} : readValue 0 l t ≠ .ok r := by
  rw [readValue]
  exact nofun

theorem readItems_zero_ne_ok {r : List Json × Text} : readItems 0 l t ≠ .ok r := by
  rw [readItems]
  exact nofun

theorem readMembers_zero_ne_ok {r : List (Text × Json) × Text} : readMembers 0 l t ≠ .ok r := by
  rw [readMembers]
  exact nofun

/-- A text that is read begins with a value, and only spacing follows. -/
theorem exists_of_readWithin {v : Json} (h : readWithin l t = .ok v) :
    ∃ rest, readValue (2 * t.length + 1) l (skipSpacing t) = .ok (v, rest) ∧ skipSpacing rest = [] := by
  obtain ⟨⟨w, rest⟩, hread, h⟩ := exists_of_bind_eq_ok h
  rcases ite_eq_iff.mp h with ⟨hrest, heq⟩ | ⟨-, heq⟩
  · cases heq
    exact ⟨rest, hread, List.isEmpty_iff.mp hrest⟩
  · cases heq

/-- Reading a text is reading it without limits. -/
theorem read?_eq_some_iff {v : Json} : read? t = some v ↔ readWithin {} t = .ok v := by
  unfold read?
  cases readWithin {} t with
  | error e => simp [Except.toOption]
  | ok w => simp [Except.toOption]

end Inversion

/-! ## What is left of a text

Every reader leaves less than it was given, and what it leaves is the end of it. -/

/-- What is left of a text after something was read from it. -/
structure Remains (rest t : Text) : Prop where
  suffix : rest <:+ t
  shorter : rest.length < t.length

namespace Remains

variable {rest next t : Text}

/-- Passing over a character and more moves on. -/
theorem of_cons {c : Char} (h : rest <:+ t) : Remains rest (c :: t) :=
  ⟨h.trans (List.suffix_cons c t), Nat.lt_succ_of_le h.length_le⟩

/-- Moving on after a step that moved on does so too. -/
theorem suffix_left (h : Remains rest t) (hnext : next <:+ rest) : Remains next t :=
  ⟨hnext.trans h.suffix, Nat.lt_of_le_of_lt hnext.length_le h.shorter⟩

theorem suffix_right (h : Remains next rest) (hrest : rest <:+ t) : Remains next t :=
  ⟨h.suffix.trans hrest, Nat.lt_of_lt_of_le h.shorter hrest.length_le⟩

theorem trans (h : Remains next rest) (hrest : Remains rest t) : Remains next t :=
  hrest.suffix_left h.suffix

theorem drop {n : Nat} (hn : n ≠ 0) (ht : t ≠ []) : Remains (t.drop n) t := by
  refine ⟨List.drop_suffix n t, ?_⟩
  have hpos : 0 < t.length := List.length_pos_iff.mpr ht
  rw [List.length_drop]
  omega

end Remains

section Rest

variable {l : Limits} {t rest : Text}

theorem skipSpacing_suffix (t : Text) : skipSpacing t <:+ t := List.dropWhile_suffix _

/-- The codes of a string move on at least over its closing quote. -/
theorem remains_of_readCodes {codes : List Nat} (h : readCodes t = some (codes, rest)) :
    Remains rest t := by
  fun_induction readCodes t generalizing codes rest with
  | case2 cs =>
    cases h
    exact .of_cons List.suffix_rfl
  | case4 w x y z cs n codes' rest' hread hunit _ _ ih =>
    cases h
    have hescape : cs <:+ '\\' :: 'u' :: w :: x :: y :: z :: cs := ⟨['\\', 'u', w, x, y, z], rfl⟩
    exact (ih hread).suffix_right hescape
  | case6 e cs _ n codes' rest' hread hshort _ _ ih =>
    cases h
    exact (ih hread).suffix_right ⟨['\\', e], rfl⟩
  | case9 c cs _ _ _ codes' rest' hread ih =>
    cases h
    exact (ih hread).suffix_right (List.suffix_cons c cs)
  | _ => cases h

/-- Reading a string moves on. -/
theorem remains_of_readString {s : Text} (h : readString t = .ok (s, rest)) : Remains rest t := by
  unfold readString at h
  split at h
  · next hread =>
    cases h
    exact remains_of_readCodes hread
  · cases h

theorem readSign_suffix (t : Text) : (readSign t).2 <:+ t := by
  unfold readSign
  split
  · exact List.suffix_cons _ _
  · exact List.suffix_cons _ _
  · exact List.suffix_rfl

theorem readExponent_suffix (t : Text) : (readExponent t).2 <:+ t := by
  unfold readExponent
  split
  · next e cs =>
    split
    · dsimp only
      split
      · exact List.suffix_rfl
      · exact ((List.drop_suffix _ _).trans (readSign_suffix cs)).trans (List.suffix_cons e cs)
    · exact List.suffix_rfl
  · exact List.suffix_rfl

/-- A numeral begins with the digits of its whole part, of which there is one at least. -/
theorem whole_of_readNumeral {n : Numeral} (h : readNumeral t = .ok (n, rest)) :
    n.whole = wholeDigits t ∧ n.whole ≠ [] ∧ rest <:+ t.drop n.whole.length := by
  unfold readNumeral at h
  rcases ite_eq_iff.mp h with ⟨-, h⟩ | ⟨hwhole, h⟩
  · cases h
  · cases h
    refine ⟨rfl, fun hnil => hwhole (List.isEmpty_iff.mpr hnil), ?_⟩
    refine (readExponent_suffix _).trans ?_
    split
    · exact List.suffix_rfl
    · exact List.drop_suffix _ _

/-- Reading a numeral moves on: there is no numeral without digits. -/
theorem remains_of_readNumeral {n : Numeral} (h : readNumeral t = .ok (n, rest)) : Remains rest t := by
  obtain ⟨hwhole, hne, hrest⟩ := whole_of_readNumeral h
  have ht : t ≠ [] := by
    rintro rfl
    exact hne hwhole
  exact (Remains.drop (fun hzero => hne (List.length_eq_zero_iff.mp hzero)) ht).suffix_left hrest

theorem remains_of_readScalar {v : Json} (h : readScalar l t = .ok (v, rest)) : Remains rest t := by
  cases scalarRead_of_readScalar h with
  | @word word _ _ hmem =>
    have hword : word ≠ [] := by
      rintro rfl
      simp [words] at hmem
    refine ⟨List.suffix_append word rest, ?_⟩
    have hpos : 0 < word.length := List.length_pos_iff.mpr hword
    rw [List.length_append]
    omega
  | number _ hread => exact (remains_of_readNumeral hread).suffix_right (List.suffix_append _ _)

theorem remains_of_closed? {closing : Char} (h : closed? closing t = some rest) : Remains rest t := by
  unfold closed? at h
  split at h
  · next c cs hskip =>
    split at h
    · cases h
      have hcons : Remains rest (c :: rest) := .of_cons List.suffix_rfl
      exact hcons.suffix_right (hskip ▸ skipSpacing_suffix t)
    · cases h
  · cases h

theorem remains_of_readSeparator {closing : Char} {isMore : Bool}
    (h : readSeparator closing t = .ok (isMore, rest)) : Remains rest t := by
  unfold readSeparator at h
  split at h
  · next c cs hskip =>
    have hcons : c :: cs <:+ t := hskip ▸ skipSpacing_suffix t
    split at h
    · cases h
      exact (Remains.of_cons (skipSpacing_suffix cs)).suffix_right hcons
    · split at h
      · cases h
        exact (Remains.of_cons List.suffix_rfl).suffix_right hcons
      · cases h
  · cases h

theorem remains_of_readKey {k : Text} (h : readKey t = .ok (k, rest)) : Remains rest t := by
  obtain ⟨cs, following, rfl, hread, hskip⟩ := exists_of_readKey h
  have hfollowing : rest <:+ following := by
    obtain ⟨ds, hds, rfl⟩ := hskip
    exact ((skipSpacing_suffix ds).trans (List.suffix_cons ':' ds)).trans
      (hds ▸ skipSpacing_suffix following)
  exact ((remains_of_readString hread).suffix_left hfollowing).suffix_right (List.suffix_cons '"' cs)

end Rest

/-- What the three readers leave within a bound is the end of what they were given. -/
structure ReadsOn (fuel : Nat) : Prop where
  value : ∀ {l t rest v}, readValue fuel l t = .ok (v, rest) → Remains rest t
  items : ∀ {l t rest vs}, readItems fuel l t = .ok (vs, rest) → Remains rest t
  members : ∀ {l t rest ms}, readMembers fuel l t = .ok (ms, rest) → Remains rest t

section Series

variable {α : Type} {closing : Char} {t rest : Text} {as : List α}

/-- Reading a series moves on if reading its items does. -/
theorem remains_of_readSeries {item : Text → Except Stop (α × Text)}
    {more : Text → Except Stop (List α × Text)}
    (hitem : ∀ {a next}, item t = .ok (a, next) → Remains next t)
    (hmore : ∀ {as next u}, more u = .ok (as, next) → Remains next u)
    (h : readSeries closing item more t = .ok (as, rest)) : Remains rest t := by
  cases seriesRead_of_readSeries h with
  | last hfirst hseparator => exact (remains_of_readSeparator hseparator).trans (hitem hfirst)
  | more hfirst hseparator hrest =>
    exact (hmore hrest).trans ((remains_of_readSeparator hseparator).trans (hitem hfirst))

/-- Reading what is in brackets moves on. -/
theorem remains_of_readBracketed {series : Limits → Text → Except Stop (List α × Text)} {l : Limits}
    (hseries : ∀ {m as next u}, series m u = .ok (as, next) → Remains next u)
    (h : readBracketed closing series l t = .ok (as, rest)) : Remains rest t := by
  obtain ⟨m, -, ⟨-, hclosed⟩ | hread⟩ := exists_of_readBracketed h
  · exact remains_of_closed? hclosed
  · exact (hseries hread).suffix_right (skipSpacing_suffix t)

/-- Reading a member moves on if reading its value does. -/
theorem remains_of_readMember {value : Text → Except Stop (Json × Text)} {m : Text × Json}
    (hvalue : ∀ {v next u}, value u = .ok (v, next) → Remains next u)
    (h : readMember value t = .ok (m, rest)) : Remains rest t := by
  obtain ⟨valued, hkey, hread⟩ := exists_of_readMember h
  exact (hvalue hread).trans (remains_of_readKey hkey)

end Series

/-- Within any bound of steps, reading values, items and members moves on. -/
theorem readsOn (fuel : Nat) : ReadsOn fuel := by
  induction fuel with
  | zero =>
    exact {
      value := fun h => absurd h readValue_zero_ne_ok
      items := fun h => absurd h readItems_zero_ne_ok
      members := fun h => absurd h readMembers_zero_ne_ok }
  | succ fuel ih =>
    constructor
    · intro l t rest v h
      cases valueRead_of_readValue h with
      | str hread => exact (remains_of_readString hread).suffix_right (List.suffix_cons _ _)
      | arr hread => exact (remains_of_readBracketed ih.items hread).suffix_right (List.suffix_cons _ _)
      | obj hread =>
        exact (remains_of_readBracketed ih.members hread).suffix_right (List.suffix_cons _ _)
      | scalar hread => exact remains_of_readScalar hread
    · intro l t rest vs h
      rw [readItems] at h
      exact remains_of_readSeries ih.value ih.items h
    · intro l t rest ms h
      rw [readMembers] at h
      exact remains_of_readSeries (remains_of_readMember ih.value) ih.members h

/-! ## What holds of all that is read

A property of values that comes from the parts of a value holds of every value that is read. The
limits are those where the value stands, so that inside of arrays and objects they are the inner
ones. -/

/-- A property holds of what is read when it holds of its parts, and of all that has no parts. -/
structure Inherited (P : Limits → Json → Prop) : Prop where
  scalar : ∀ {l t v rest}, readScalar l t = .ok (v, rest) → P l v
  str : ∀ {l} s, P l (.str s)
  arr : ∀ {l m items}, l.inner = .ok m → (∀ v ∈ items, P m v) → P l (.arr items)
  obj : ∀ {l m members}, l.inner = .ok m → (∀ p ∈ members, P m p.2) →
    P l (.obj (Entries.ofPairs members))

/-- The property holds of what the three readers read within a bound. -/
structure ReadsOnly (P : Limits → Json → Prop) (fuel : Nat) : Prop where
  value : ∀ {l t rest v}, readValue fuel l t = .ok (v, rest) → P l v
  items : ∀ {l t rest vs}, readItems fuel l t = .ok (vs, rest) → ∀ v ∈ vs, P l v
  members : ∀ {l t rest ms}, readMembers fuel l t = .ok (ms, rest) → ∀ m ∈ ms, P l m.2

namespace ReadsOnly

variable {P : Limits → Json → Prop} {fuel : Nat} {l : Limits} {t rest : Text}

/-- A value has the property as its parts have it. -/
theorem readValue_succ (hP : Inherited P) (ih : ReadsOnly P fuel) {v : Json}
    (h : readValue (fuel + 1) l t = .ok (v, rest)) : P l v := by
  cases valueRead_of_readValue h with
  | str => exact hP.str _
  | arr hread =>
    obtain ⟨m, hinner, ⟨rfl, -⟩ | hread⟩ := exists_of_readBracketed hread
    · exact hP.arr hinner fun _ hv => absurd hv List.not_mem_nil
    · exact hP.arr hinner (ih.items hread)
  | obj hread =>
    obtain ⟨m, hinner, ⟨rfl, -⟩ | hread⟩ := exists_of_readBracketed hread
    · exact hP.obj hinner fun _ hm => absurd hm List.not_mem_nil
    · exact hP.obj hinner (ih.members hread)
  | scalar hread => exact hP.scalar hread

/-- Each item has the property: the first is a value, the others are items. -/
theorem readItems_succ (ih : ReadsOnly P fuel) {vs : List Json}
    (h : readItems (fuel + 1) l t = .ok (vs, rest)) : ∀ v ∈ vs, P l v := by
  rw [readItems] at h
  cases seriesRead_of_readSeries h with
  | last hfirst => exact List.forall_mem_singleton.mpr (ih.value hfirst)
  | more hfirst _ hmore => exact List.forall_mem_cons.mpr ⟨ih.value hfirst, ih.items hmore⟩

theorem readMembers_succ (ih : ReadsOnly P fuel) {ms : List (Text × Json)}
    (h : readMembers (fuel + 1) l t = .ok (ms, rest)) : ∀ m ∈ ms, P l m.2 := by
  rw [readMembers] at h
  cases seriesRead_of_readSeries h with
  | last hfirst =>
    obtain ⟨valued, -, hvalue⟩ := exists_of_readMember hfirst
    exact List.forall_mem_singleton.mpr (ih.value hvalue)
  | more hfirst _ hmore =>
    obtain ⟨valued, -, hvalue⟩ := exists_of_readMember hfirst
    exact List.forall_mem_cons.mpr ⟨ih.value hvalue, ih.members hmore⟩

end ReadsOnly

/-- The three readers call each other with a smaller bound, so the induction is on the bound and goes
through all of them at once. -/
theorem Inherited.readsOnly {P : Limits → Json → Prop} (hP : Inherited P) (fuel : Nat) :
    ReadsOnly P fuel := by
  induction fuel with
  | zero =>
    exact {
      value := fun h => absurd h readValue_zero_ne_ok
      items := fun h => absurd h readItems_zero_ne_ok
      members := fun h => absurd h readMembers_zero_ne_ok }
  | succ fuel ih => exact ⟨ih.readValue_succ hP, ih.readItems_succ, ih.readMembers_succ⟩

/-- What is read from a text has each property that is inherited. -/
theorem Inherited.of_readWithin {P : Limits → Json → Prop} (hP : Inherited P) {l : Limits} {t : Text}
    {v : Json} (h : readWithin l t = .ok v) : P l v := by
  obtain ⟨rest, hread, -⟩ := exists_of_readWithin h
  exact (hP.readsOnly _).value hread

/-! ## Each key once -/

/-- What has no members has no key twice. -/
theorem distinct_of_readScalar {l : Limits} {t rest : Text} {v : Json}
    (h : readScalar l t = .ok (v, rest)) : v.Distinct := by
  cases scalarRead_of_readScalar h with
  | word hmem =>
    simp only [words, List.mem_cons, Prod.mk.injEq, List.not_mem_nil, or_false] at hmem
    rcases hmem with ⟨-, rfl⟩ | ⟨-, rfl⟩ | ⟨-, rfl⟩ | ⟨-, rfl⟩ | ⟨-, rfl⟩ | ⟨-, rfl⟩ <;> constructor
  | number _ _ hvalue =>
    rcases intOrFloat_of_value hvalue with ⟨k, rfl, -⟩ | ⟨x, rfl⟩
    · exact .int k
    · exact .float x

/-- Objects are made of pairs, of which a later one replaces an earlier one with its key. -/
theorem distinct_ofPairs {pairs : List (Text × Json)} (h : ∀ m ∈ pairs, m.2.Distinct) :
    (Json.obj (Entries.ofPairs pairs)).Distinct :=
  .obj Entries.nodup_keys_ofPairs fun m hm => h m (Entries.mem_of_mem_ofPairs hm)

/-- No key is twice in what is read, since members are put in one by one. -/
theorem inherited_distinct : Inherited fun _ v => v.Distinct where
  scalar := distinct_of_readScalar
  str := .str
  arr _ h := .arr h
  obj _ h := distinct_ofPairs h

/-- A value that is read has each key of each object once. -/
theorem distinct_of_read? {t : Text} {v : Json} (h : read? t = some v) : v.Distinct :=
  inherited_distinct.of_readWithin (read?_eq_some_iff.mp h)

end AttrFold.Json
