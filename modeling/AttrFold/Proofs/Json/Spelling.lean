import AttrFold.Proofs.Json.Sorted
import AttrFold.Proofs.Json.Token

/-!
# Spellings of values

`Spells t v` says that a text spells a value, with any gaps between the tokens of arrays and
objects, and `Spells.reads` that what is spelled is read.

## The crux

Reading is bounded by a number that goes down with each value, item and member. A text is longer
than its parts, so its length bounds the reading of all of them: `Reads` is stated for every bound
above the length. What follows a value matters only for numbers, which end where no digit, point or
exponent comes next (`EndsNumber`).
-/

namespace AttrFold.Json

/-! ## Values -/

/-- What layouts put between the tokens: spaces and line feeds. -/
def IsGap (t : Text) : Prop := ∀ c ∈ t, c = ' ' ∨ c = '\n'

/-- The text of a member from those of its key and its value. -/
def memberText (space key value : Text) : Text := stringText key ++ ':' :: space ++ value

/-- The text spells the value in one of the layouts that values are written in: the tokens of arrays and
objects stand apart by any gaps. -/
inductive Spells : Text → Json → Prop
  | null : Spells "null" .null
  | bool (b : Bool) : Spells (if b then "true".toList else "false".toList) (.bool b)
  | int (n : Int) : Spells (Text.ofInt n) (.int n)
  | str (t : Text) : Spells (stringText t) (.str t)
  | arr {items : List (Text × Json)} {opening between closing : Text} (hopening : IsGap opening)
      (hbetween : IsGap between) (hclosing : IsGap closing) (h : ∀ i ∈ items, Spells i.1 i.2) :
      Spells ('[' :: opening ++ Text.joinWith (',' :: between) (items.map Prod.fst) ++ closing ++ [']'])
        (.arr (items.map Prod.snd))
  | obj {members : List (Text × Text × Json)} {opening between space closing : Text}
      (hopening : IsGap opening) (hbetween : IsGap between) (hspace : IsGap space)
      (hclosing : IsGap closing) (h : ∀ m ∈ members, Spells m.2.1 m.2.2) :
      Spells ('\x7b' :: opening
          ++ Text.joinWith (',' :: between) (members.map fun m => memberText space m.1 m.2.1)
          ++ closing ++ ['\x7d'])
        (.obj (Entries.ofPairs (members.map fun m => (m.1, m.2.2))))

/-! ## Reading what is spelled -/

/-- A gap is skipped. -/
theorem skipSpacing_append {gap : Text} (h : IsGap gap) (t : Text) :
    skipSpacing (gap ++ t) = skipSpacing t := by
  refine List.dropWhile_append_of_pos fun c hc => ?_
  rcases h c hc with rfl | rfl <;> rfl

theorem skipSpacing_cons {c : Char} (h : isSpacing c = false) (cs : Text) :
    skipSpacing (c :: cs) = c :: cs :=
  List.dropWhile_cons_of_neg (by rw [h]; decide)

theorem endsNumber_cons {c : Char} (hc : c.isDigit = false ∧ c ≠ '.' ∧ c ≠ 'e' ∧ c ≠ 'E') (cs : Text) :
    EndsNumber (c :: cs) := by
  intro d hd
  obtain rfl : c = d := Option.some.inj hd
  exact hc

/-- A gap before a character that is of no number ends one. -/
theorem endsNumber_gap_append {gap : Text} (h : IsGap gap) {c : Char}
    (hc : c.isDigit = false ∧ c ≠ '.' ∧ c ≠ 'e' ∧ c ≠ 'E') (cs : Text) :
    EndsNumber (gap ++ c :: cs) := by
  cases gap with
  | nil => exact endsNumber_cons hc cs
  | cons g gap =>
    intro d hd
    obtain rfl : g = d := Option.some.inj hd
    rcases h g List.mem_cons_self with rfl | rfl <;> decide

/-- A spelling begins with a token that closes nothing. -/
theorem Spells.exists_cons {t : Text} {v : Json} (h : Spells t v) :
    ∃ c cs, t = c :: cs ∧ isSpacing c = false ∧ c ≠ ']' := by
  cases h with
  | null => exact ⟨_, _, rfl, rfl, by decide⟩
  | bool b => cases b <;> exact ⟨_, _, rfl, rfl, by decide⟩
  | int n =>
    cases n with
    | ofNat n =>
      obtain ⟨c, cs, hcs, hdigit, -⟩ := Text.exists_cons_ofNat n
      refine ⟨c, cs, hcs, ?_, ?_⟩
      · rw [← Bool.not_eq_true]
        intro hspacing
        simp only [isSpacing, Bool.or_eq_true, decide_eq_true_eq] at hspacing
        rcases hspacing with ((rfl | rfl) | rfl) | rfl <;> exact absurd hdigit (by decide)
      · rintro rfl
        exact absurd hdigit (by decide)
    | negSucc n => exact ⟨'-', _, rfl, rfl, by decide⟩
  | str t => exact ⟨_, _, rfl, rfl, by decide⟩
  | arr => exact ⟨_, _, rfl, rfl, by decide⟩
  | obj => exact ⟨_, _, rfl, rfl, by decide⟩

/-- No spelling begins with a gap. -/
theorem Spells.skipSpacing_append {t : Text} {v : Json} (h : Spells t v) (rest : Text) :
    skipSpacing (t ++ rest) = t ++ rest := by
  obtain ⟨c, cs, rfl, hc, -⟩ := h.exists_cons
  exact skipSpacing_cons hc (cs ++ rest)

/-- The text is read as the value, whatever follows that ends a number. -/
def Reads (t : Text) (v : Json) : Prop :=
  ∀ fuel rest, t.length < fuel → EndsNumber rest → readValue fuel {} (t ++ rest) = .ok (v, rest)

/-- An integer is read from its digits. -/
theorem reads_int (n : Int) : Reads (Text.ofInt n) (.int n) := by
  intro fuel rest hfuel hrest
  obtain ⟨c, cs, hcs, hc⟩ : ∃ c cs, Text.ofInt n = c :: cs ∧ (c.isDigit = true ∨ c = '-') := by
    cases n with
    | ofNat n =>
      obtain ⟨c, cs, hcs, hdigit, -⟩ := Text.exists_cons_ofNat n
      exact ⟨c, cs, hcs, Or.inl hdigit⟩
    | negSucc n => exact ⟨'-', _, rfl, Or.inr rfl⟩
  have hscalar := readScalar_ofInt n hrest
  obtain ⟨fuel, rfl⟩ := Nat.exists_eq_add_one_of_ne_zero (Nat.ne_zero_of_lt hfuel)
  rw [hcs, List.cons_append] at hscalar ⊢
  rw [readValue, hscalar]
  -- a number begins with no quote, bracket or brace
  all_goals
    intro _ heq
    obtain ⟨rfl, -⟩ := List.cons.inj heq
    exact absurd hc (by decide)

/-- A word is read as soon as the reader of scalars reads it. -/
theorem reads_word {word : Text} {v : Json}
    (hword : ∀ rest, readScalar {} (word ++ rest) = .ok (v, rest))
    (hhead : word.head?.any Char.isAlpha = true) :
    Reads word v := by
  intro fuel rest hfuel hrest
  obtain ⟨fuel, rfl⟩ := Nat.exists_eq_add_one_of_ne_zero (Nat.ne_zero_of_lt hfuel)
  cases word with
  | nil => cases hhead
  | cons c cs =>
    have hc : c.isAlpha = true := hhead
    have hscalar := hword rest
    rw [List.cons_append] at hscalar ⊢
    rw [readValue, hscalar]
    all_goals
      intro _ heq
      obtain ⟨rfl, -⟩ := List.cons.inj heq
      exact absurd hc (by decide)

/-- A string is read from the text that is written for it. -/
theorem reads_str (t : Text) : Reads (stringText t) (.str t) := by
  intro fuel rest hfuel hrest
  obtain ⟨fuel, rfl⟩ := Nat.exists_eq_add_one_of_ne_zero (Nat.ne_zero_of_lt hfuel)
  show readValue (fuel + 1) {} ('"' :: t.flatMap escapeChar ++ ['"'] ++ rest) = _
  rw [List.append_assoc, List.singleton_append, List.cons_append, readValue,
    readString_flatMap_escapeChar]
  rfl

/-- A series of texts is the first one and, for each other one, a separator and the text. -/
theorem joinWith_cons (separator t : Text) (ts : List Text) :
    Text.joinWith separator (t :: ts) = t ++ ts.flatMap fun u => separator ++ u := by
  unfold Text.joinWith
  induction ts generalizing t with
  | nil => rw [List.intercalate_singleton, List.flatMap_nil, List.append_nil]
  | cons u us ih =>
    rw [List.intercalate_cons_cons, ih, List.flatMap_cons, List.append_assoc, List.append_assoc]

/-! ## Series

Arrays and objects are read by one reader of series. Its lemmas are about any items that can be told
from what closes the series. -/

/-- What closes a series is no spacing, no comma, and ends a number. -/
structure Closes (c : Char) : Prop where
  isSpacing : isSpacing c = false
  ne_comma : c ≠ ','
  endsNumber : c.isDigit = false ∧ c ≠ '.' ∧ c ≠ 'e' ∧ c ≠ 'E'

theorem closes_bracket : Closes ']' := ⟨by decide, by decide, by decide⟩

theorem closes_brace : Closes '\x7d' := ⟨by decide, by decide, by decide⟩

section Series

variable {c : Char} {between closing rest : Text}

/-- After a comma there is one more item, past the gap. -/
theorem readSeparator_comma (c : Char) {following : Text} (hbetween : IsGap between)
    (hfollowing : skipSpacing following = following) :
    readSeparator c (',' :: (between ++ following)) = .ok (true, following) := by
  rw [readSeparator, skipSpacing_cons (by decide)]
  simp only [skipSpacing_append hbetween, hfollowing]
  rfl

/-- What closes a series ends its items, past the gap. -/
theorem readSeparator_closing (hc : Closes c) (hclosing : IsGap closing) :
    readSeparator c (closing ++ c :: rest) = .ok (false, rest) := by
  rw [readSeparator, skipSpacing_append hclosing, skipSpacing_cons hc.isSpacing]
  simp only [if_neg hc.ne_comma, if_true]

/-- A closing bracket is read behind a gap. -/
theorem closed?_gap (hc : Closes c) (hclosing : IsGap closing) :
    closed? c (closing ++ c :: rest) = some rest := by
  rw [closed?, skipSpacing_append hclosing, skipSpacing_cons hc.isSpacing]
  simp only [if_true]

/-- Where something else stands behind a gap, nothing is closed. -/
theorem closed?_eq_none {d : Char} {inside : Text} (h : skipSpacing inside = d :: rest) (hd : d ≠ c) :
    closed? c inside = none := by
  rw [closed?, h]
  simp only [if_neg hd]

variable {α : Type} {item : Nat → Text → Except Stop (α × Text)}
  {series : Nat → Limits → Text → Except Stop (List α × Text)}

/-- The text is read as the item, whatever follows that ends a number, and it is not taken for what
closes the series. -/
structure ReadsItem (c : Char) (item : Nat → Text → Except Stop (α × Text)) (t : Text) (a : α) :
    Prop where
  exists_cons : ∃ d ds, t = d :: ds ∧ isSpacing d = false ∧ d ≠ c
  reads : ∀ fuel rest, t.length < fuel → EndsNumber rest → item fuel (t ++ rest) = .ok (a, rest)

theorem ReadsItem.skipSpacing_append {t : Text} {a : α} (h : ReadsItem c item t a) (rest : Text) :
    skipSpacing (t ++ rest) = t ++ rest := by
  obtain ⟨d, ds, rfl, hd, -⟩ := h.exists_cons
  exact skipSpacing_cons hd (ds ++ rest)

variable (hseries : ∀ fuel t, series (fuel + 1) {} t = readSeries c (item fuel) (series fuel {}) t)
  (hc : Closes c) (hbetween : IsGap between) (hclosing : IsGap closing)

include hseries hc hbetween hclosing

/-- A series is read from the texts of its items with commas and gaps between them. -/
theorem series_append {i : Text × α} {items : List (Text × α)}
    (hreads : ∀ j ∈ i :: items, ReadsItem c item j.1 j.2) {fuel : Nat}
    (hfuel : (i.1 ++ items.flatMap fun j => ',' :: between ++ j.1).length + 1 < fuel) :
    series fuel {} ((i.1 ++ items.flatMap fun j => ',' :: between ++ j.1) ++ closing ++ c :: rest)
      = .ok ((i :: items).map Prod.snd, rest) := by
  obtain ⟨fuel, rfl⟩ := Nat.exists_eq_add_one_of_ne_zero (Nat.ne_zero_of_lt hfuel)
  rw [List.length_append] at hfuel
  have hread := (hreads i List.mem_cons_self).reads fuel
  induction items generalizing i fuel with
  | nil =>
    -- behind the last item stands the closing bracket
    have hends : EndsNumber (closing ++ c :: rest) := endsNumber_gap_append hclosing hc.endsNumber rest
    rw [List.flatMap_nil, List.append_nil, List.append_assoc, hseries, readSeries,
      hread _ (by omega) hends]
    simp only [ok_bind, readSeparator_closing hc hclosing]
    rfl
  | cons j items ih =>
    have htail : ∀ k ∈ j :: items, ReadsItem c item k.1 k.2 :=
      fun k hk => hreads k (List.mem_cons_of_mem i hk)
    have hnext := htail j List.mem_cons_self
    rw [List.flatMap_cons, List.length_append, List.length_append, List.length_cons] at hfuel
    obtain ⟨fuel, rfl⟩ := Nat.exists_eq_add_one_of_ne_zero (n := fuel) (by omega)
    have hrest := ih htail fuel (by omega) (hnext.reads fuel)
    -- behind each other item stands a comma, and then an item again
    let following := (j.1 ++ items.flatMap fun k => ',' :: between ++ k.1) ++ closing ++ c :: rest
    have htext : (i.1 ++ (j :: items).flatMap fun k => ',' :: between ++ k.1) ++ closing ++ c :: rest
        = i.1 ++ ',' :: (between ++ following) := by
      simp [following]
    have hskip : skipSpacing following = following := by
      simpa [following] using hnext.skipSpacing_append _
    have hends : EndsNumber (',' :: (between ++ following)) := endsNumber_cons (by decide) _
    rw [htext, hseries, readSeries, hread _ (by omega) hends]
    simp only [ok_bind, readSeparator_comma c hbetween hskip, if_true]
    rw [hrest]
    rfl

/-- A series is read up to what closes it, the empty one too. -/
theorem readBracketed_append {opening : Text} (hopening : IsGap opening) {items : List (Text × α)}
    (hreads : ∀ j ∈ items, ReadsItem c item j.1 j.2) {fuel : Nat}
    (hfuel : (Text.joinWith (',' :: between) (items.map Prod.fst)).length + 1 < fuel) :
    readBracketed c (series fuel) {}
        (opening ++ Text.joinWith (',' :: between) (items.map Prod.fst) ++ closing ++ c :: rest)
      = .ok (items.map Prod.snd, rest) := by
  cases items with
  | nil =>
    -- with no items the two gaps are one
    have hgap : IsGap (opening ++ closing) :=
      fun d hd => (List.mem_append.mp hd).elim (hopening d) (hclosing d)
    have htext : opening ++ Text.joinWith (',' :: between) [] ++ closing ++ c :: rest
        = (opening ++ closing) ++ c :: rest := by
      simp [Text.joinWith]
    rw [List.map_nil, htext]
    simp only [readBracketed, Limits.inner, ok_bind, closed?_gap hc hgap]
    rfl
  | cons i items =>
    have hjoin : Text.joinWith (',' :: between) ((i :: items).map Prod.fst)
        = i.1 ++ items.flatMap fun j => ',' :: between ++ j.1 := by
      rw [List.map_cons, joinWith_cons, List.flatMap_map]
    rw [hjoin] at hfuel ⊢
    let inside := (i.1 ++ items.flatMap fun j => ',' :: between ++ j.1) ++ closing ++ c :: rest
    have htext :
        opening ++ (i.1 ++ items.flatMap fun j => ',' :: between ++ j.1) ++ closing ++ c :: rest
          = opening ++ inside := by
      simp [inside]
    -- the first item begins with neither spacing nor the closing bracket, so the series is entered
    obtain ⟨d, ds, hds, hspacing, hne⟩ := (hreads i List.mem_cons_self).exists_cons
    obtain ⟨es, hes⟩ : ∃ es, inside = d :: es := by
      simp [inside, hds]
    have hskip : skipSpacing (opening ++ inside) = inside := by
      rw [skipSpacing_append hopening, hes, skipSpacing_cons hspacing]
    rw [htext]
    simp only [readBracketed, Limits.inner, ok_bind, closed?_eq_none (hskip.trans hes) hne, hskip]
    exact series_append hseries hc hbetween hclosing hreads hfuel

end Series

/-! ## Arrays and objects -/

/-- An array is read from the spellings of its items. -/
theorem reads_arr {items : List (Text × Json)} {opening between closing : Text}
    (hopening : IsGap opening) (hbetween : IsGap between) (hclosing : IsGap closing)
    (hspells : ∀ i ∈ items, Spells i.1 i.2) (hreads : ∀ i ∈ items, Reads i.1 i.2) :
    Reads ('[' :: opening ++ Text.joinWith (',' :: between) (items.map Prod.fst) ++ closing ++ [']'])
      (.arr (items.map Prod.snd)) := by
  intro fuel rest hfuel hrest
  obtain ⟨fuel, rfl⟩ := Nat.exists_eq_add_one_of_ne_zero (Nat.ne_zero_of_lt hfuel)
  have hitems : ∀ i ∈ items, ReadsItem ']' (fun fuel => readValue fuel {}) i.1 i.2 :=
    fun i hi => ⟨(hspells i hi).exists_cons, hreads i hi⟩
  simp only [List.length_append, List.length_cons, List.length_nil] at hfuel
  have hread : readBracketed ']' (readItems fuel) {}
      (opening ++ Text.joinWith (',' :: between) (items.map Prod.fst) ++ closing ++ ']' :: rest)
        = .ok (items.map Prod.snd, rest) :=
    readBracketed_append (fun _ _ => by rw [readItems]) closes_bracket hbetween hclosing hopening hitems
      (by omega)
  rw [List.append_assoc, List.cons_append, List.cons_append, List.cons_append, readValue]
  simp only [List.singleton_append, hread, ok_bind]
  rfl

/-- A member begins with a quote, and it is read as its key and its value. -/
theorem readsItem_memberText {space t : Text} {v : Json} (k : Text) (hspace : IsGap space)
    (hspells : Spells t v) (hreads : Reads t v) :
    ReadsItem '\x7d' (fun fuel => readMember (readValue fuel {})) (memberText space k t) (k, v) := by
  have htext : ∀ rest, memberText space k t ++ rest
      = '"' :: (k.flatMap escapeChar ++ '"' :: ':' :: (space ++ (t ++ rest))) := by
    simp [memberText, stringText]
  refine ⟨⟨'"', _, by simpa using htext [], by decide, by decide⟩, fun fuel rest hfuel hrest => ?_⟩
  have hlength : t.length < fuel := by
    rw [memberText, List.length_append] at hfuel
    omega
  have hvalue : skipSpacing (space ++ (t ++ rest)) = t ++ rest := by
    rw [skipSpacing_append hspace, hspells.skipSpacing_append]
  have hkey : readKey (memberText space k t ++ rest) = .ok (k, t ++ rest) := by
    rw [htext, readKey, readString_flatMap_escapeChar]
    simp only [ok_bind, skipSpacing_cons (show isSpacing ':' = false by decide), hvalue]
    rfl
  simp only [readMember, hkey, ok_bind, hreads fuel rest hlength hrest]
  rfl

/-- An object is read from its keys and the spellings of their values. -/
theorem reads_obj {members : List (Text × Text × Json)} {opening between space closing : Text}
    (hopening : IsGap opening) (hbetween : IsGap between) (hspace : IsGap space)
    (hclosing : IsGap closing) (hspells : ∀ m ∈ members, Spells m.2.1 m.2.2)
    (hreads : ∀ m ∈ members, Reads m.2.1 m.2.2) :
    Reads ('\x7b' :: opening
        ++ Text.joinWith (',' :: between) (members.map fun m => memberText space m.1 m.2.1)
        ++ closing ++ ['\x7d'])
      (.obj (Entries.ofPairs (members.map fun m => (m.1, m.2.2)))) := by
  intro fuel rest hfuel hrest
  obtain ⟨fuel, rfl⟩ := Nat.exists_eq_add_one_of_ne_zero (Nat.ne_zero_of_lt hfuel)
  -- a member is an item whose value is the key with its value
  let items := members.map fun m => (memberText space m.1 m.2.1, (m.1, m.2.2))
  have hitems : ∀ i ∈ items, ReadsItem '\x7d' (fun fuel => readMember (readValue fuel {})) i.1 i.2 := by
    intro i hi
    obtain ⟨m, hm, rfl⟩ := List.mem_map.mp hi
    exact readsItem_memberText m.1 hspace (hspells m hm) (hreads m hm)
  have hfst : (members.map fun m => memberText space m.1 m.2.1) = items.map Prod.fst := by
    rw [List.map_map]
    rfl
  have hsnd : (members.map fun m => (m.1, m.2.2)) = items.map Prod.snd := by
    rw [List.map_map]
    rfl
  rw [hfst] at hfuel ⊢
  rw [hsnd]
  simp only [List.length_append, List.length_cons, List.length_nil] at hfuel
  have hread : readBracketed '\x7d' (readMembers fuel) {}
      (opening ++ Text.joinWith (',' :: between) (items.map Prod.fst) ++ closing ++ '\x7d' :: rest)
        = .ok (items.map Prod.snd, rest) :=
    readBracketed_append (fun _ _ => by rw [readMembers]) closes_brace hbetween hclosing hopening hitems
      (by omega)
  rw [List.append_assoc, List.cons_append, List.cons_append, List.cons_append, readValue]
  simp only [List.singleton_append, hread, ok_bind]
  rfl

/-- **What is spelled is read.** -/
theorem Spells.reads {t : Text} {v : Json} (h : Spells t v) : Reads t v := by
  induction h with
  | null => exact reads_word (fun _ => rfl) rfl
  | bool b => cases b <;> exact reads_word (fun _ => rfl) rfl
  | int n => exact reads_int n
  | str t => exact reads_str t
  | arr hopening hbetween hclosing h ih => exact reads_arr hopening hbetween hclosing h ih
  | obj hopening hbetween hspace hclosing h ih =>
    exact reads_obj hopening hbetween hspace hclosing h ih

/-- A text that spells a value and may end in a gap holds this value. -/
theorem Spells.read? {t : Text} {v : Json} (h : Spells t v) {gap : Text} (hgap : IsGap gap) :
    Json.read? (t ++ gap) = some v := by
  have hends : EndsNumber gap := by
    intro c hc
    rcases hgap c (List.mem_of_mem_head? hc) with rfl | rfl <;> decide
  have hread := h.reads (2 * (t ++ gap).length + 1) gap
    (by rw [List.length_append]; omega) hends
  have hgap' : skipSpacing gap = [] := by
    have := Json.skipSpacing_append hgap []
    rwa [List.append_nil] at this
  unfold Json.read? readWithin
  rw [h.skipSpacing_append, hread]
  simp only [ok_bind, hgap']
  rfl

end AttrFold.Json
