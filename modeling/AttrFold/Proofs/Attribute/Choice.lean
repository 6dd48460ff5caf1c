import AttrFold.Proofs.Attribute.Reader

/-!
# Which attribute is read

A text may begin with several attributes of the grammar: a call and a quoted text can overlap, an inner
part can be closed early or late, and a blank after a colon can belong to the separator or to the
opening. `Attribute.Chosen` states the rules that single one of them out.

## The crux

The rules speak of all attributes of the grammar at a place, the reader tries a fixed order of heads,
separators and values. The two meet because heads and separators hardly compete: the text fixes the head
(`head_eq_of_separator`), and the two separators of a colon differ in one blank, with which no call
begins (`exists_blanks_of_body?`).

* **`read?_eq_none_iff`** — nothing is read only where no attribute of the grammar stands.
* **`read?_eq_some_iff_chosen`** — the attribute that is read is the one that the rules single out.
-/

namespace AttrFold.Attribute

open Text (isBlank)

/-- The value of an attribute. -/
def body (a : Attribute) : Body := ⟨a.opening, a.inner, a.closer, a.form⟩

/-- The length of what stands before the value of an attribute. -/
def valueOffset (a : Attribute) : Nat := a.head.length + a.separator.length

theorem wellFormed_iff {a : Attribute} :
    a.WellFormed ↔ IsHead a.head ∧ IsSeparator a.separator ∧ a.body.WellFormed :=
  ⟨fun h => ⟨h.head, h.separator, h.body⟩, fun h => ⟨h.1, h.2.1, h.2.2⟩⟩

/-- The parts of an attribute stand at the beginning of a text one after the other. -/
theorem text_prefix_iff {a : Attribute} {t : Text} :
    a.text <+: t ↔ a.head <+: t ∧ a.separator <+: t.drop a.head.length ∧
      a.body.text <+: t.drop a.valueOffset := by
  have htext : a.text = a.head ++ (a.separator ++ a.body.text) := by
    simp [text, lead, Body.text, body]
  rw [htext, valueOffset]
  refine ⟨fun h => ?_, fun h => ?_⟩
  · obtain ⟨r, rfl⟩ := h
    refine ⟨⟨a.separator ++ a.body.text ++ r, by simp⟩, ⟨a.body.text ++ r, ?_⟩, ⟨r, ?_⟩⟩
    · rw [List.append_assoc, List.drop_left, List.append_assoc]
    · rw [List.append_assoc, ← List.drop_drop, List.drop_left, List.append_assoc, List.drop_left]
  · obtain ⟨⟨r, rfl⟩, hsep, hbody⟩ := h
    rw [← List.drop_drop, List.drop_left] at hbody
    rw [List.drop_left] at hsep
    obtain ⟨r, rfl⟩ := hsep
    rw [List.drop_left] at hbody
    rw [List.prefix_append_right_inj, List.prefix_append_right_inj]
    exact hbody

/-! ## Separators

Two separators can stand at one place, a colon with and without a blank. The one without is tried
first. -/

/-- A separator is an equals sign, a colon, or a colon with the one blank after it. -/
theorem IsSeparator.cases_cons {s : Text} {c : Char} {cs : Text} (hs : IsSeparator s)
    (h : s <+: c :: cs) :
    c = '=' ∧ s = ['='] ∨ c = ':' ∧ (s = [':'] ∨ ∃ b bs, cs = b :: bs ∧ isBlank b ∧ s = [':', b]) := by
  cases hs with
  | equals =>
    obtain ⟨rfl, -⟩ := List.cons_prefix_cons.mp (show '=' :: [] <+: c :: cs from h)
    exact .inl ⟨rfl, rfl⟩
  | colon =>
    obtain ⟨rfl, -⟩ := List.cons_prefix_cons.mp (show ':' :: [] <+: c :: cs from h)
    exact .inr ⟨rfl, .inl rfl⟩
  | colonBlank b hb =>
    obtain ⟨rfl, r, rfl⟩ := List.cons_prefix_cons.mp h
    exact .inr ⟨rfl, .inr ⟨b, r, rfl, hb, rfl⟩⟩

theorem bodyAfter?_eq_some_iff {s t separator : Text} {b : Body} :
    bodyAfter? separator t = some (s, b) ↔ s = separator ∧ body? t = some b := by
  unfold bodyAfter?
  simp only [Option.map_eq_some_iff, Prod.mk.injEq]
  refine ⟨fun h => ?_, fun h => ?_⟩
  · obtain ⟨b, hb, rfl, rfl⟩ := h
    exact ⟨rfl, hb⟩
  · obtain ⟨rfl, hb⟩ := h
    exact ⟨b, hb, rfl, rfl⟩

/-- A blank is read as part of the separator only if no value can be read that begins with it. -/
theorem separated?_eq_some_iff {t s : Text} {b : Body} :
    separated? t = some (s, b) ↔ IsSeparator s ∧ s <+: t ∧ body? (t.drop s.length) = some b ∧
      ∀ c, s = [':', c] → body? (t.drop 1) = none := by
  cases t with
  | nil =>
    simp only [separated?, reduceCtorEq, List.prefix_nil, false_iff, not_and]
    rintro hs rfl
    cases hs
  | cons c cs =>
    refine ⟨fun h => ?_, fun h => ?_⟩
    · simp only [separated?] at h
      split at h
      · next hc =>
        obtain ⟨rfl, hbody⟩ := bodyAfter?_eq_some_iff.mp h
        subst hc
        exact ⟨.equals, List.prefix_append _ cs, hbody, fun _ hc => absurd hc (by simp)⟩
      · split at h
        · next hc =>
          subst hc
          -- after a colon the value is tried with the blank first, then without it
          rcases Option.or_eq_some_iff.mp h with hfirst | ⟨hnone, hsecond⟩
          · obtain ⟨rfl, hbody⟩ := bodyAfter?_eq_some_iff.mp hfirst
            exact ⟨.colon, List.prefix_append _ cs, hbody, fun _ hc => absurd hc (by simp)⟩
          · cases cs with
            | nil => cases hsecond
            | cons d ds =>
              obtain ⟨hd, hsecond⟩ := Option.ite_none_right_eq_some.mp hsecond
              obtain ⟨rfl, hbody⟩ := bodyAfter?_eq_some_iff.mp hsecond
              exact ⟨.colonBlank d hd, List.prefix_append _ ds, hbody,
                fun _ _ => Option.map_eq_none_iff.mp hnone⟩
        · cases h
    · obtain ⟨hs, hpre, hbody, hfirst⟩ := h
      rcases hs.cases_cons hpre with ⟨rfl, rfl⟩ | ⟨rfl, rfl | ⟨d, ds, rfl, hd, rfl⟩⟩
      · exact bodyAfter?_eq_some_iff.mpr ⟨rfl, hbody⟩
      · exact Option.or_eq_some_iff.mpr (.inl (bodyAfter?_eq_some_iff.mpr ⟨rfl, hbody⟩))
      · refine Option.or_eq_some_iff.mpr (.inr ⟨Option.map_eq_none_iff.mpr (hfirst d rfl), ?_⟩)
        exact (if_pos hd).trans (bodyAfter?_eq_some_iff.mpr ⟨rfl, hbody⟩)

/-- A separator and a value are read as soon as some stand there. -/
theorem separated?_eq_none_iff {t : Text} :
    separated? t = none ↔ ∀ s, IsSeparator s → s <+: t → body? (t.drop s.length) = none := by
  constructor
  · intro h s hs hpre
    refine Option.eq_none_iff_forall_ne_some.mpr fun b hb => ?_
    by_cases hfirst : ∃ c, s = [':', c] ∧ body? (t.drop 1) ≠ none
    · -- the value that begins with the blank is read instead
      obtain ⟨c, rfl, hne⟩ := hfirst
      obtain ⟨b', hb'⟩ := Option.ne_none_iff_exists'.mp hne
      obtain ⟨r, rfl⟩ := hpre
      have := separated?_eq_some_iff.mpr
        ⟨.colon, List.prefix_append [':'] (c :: r), hb', fun _ hc => absurd hc (by simp)⟩
      exact absurd (this.symm.trans h) (Option.some_ne_none _)
    · have hnone : ∀ c, s = [':', c] → body? (t.drop 1) = none := fun c hc =>
        Decidable.byContradiction fun hne => hfirst ⟨c, hc, hne⟩
      have := separated?_eq_some_iff.mpr ⟨hs, hpre, hb, hnone⟩
      exact absurd (this.symm.trans h) (Option.some_ne_none _)
  · intro h
    refine Option.eq_none_iff_forall_ne_some.mpr fun ⟨s, b⟩ hsb => ?_
    obtain ⟨hs, hpre, hbody, -⟩ := separated?_eq_some_iff.mp hsb
    exact absurd (hbody.symm.trans (h s hs hpre)) (Option.some_ne_none _)

/-! ## Heads

Both names can stand at one place, but a separator only after one of them. -/

/-- With its name given, an attribute is read if the name stands there and a separator and a value
after it. -/
theorem readWith?_eq_some_iff {head t : Text} {a : Attribute} :
    readWith? head t = some a ↔ a.head = head ∧ head <+: t ∧
      separated? (t.drop head.length) = some (a.separator, a.body) := by
  unfold readWith?
  refine ⟨fun h => ?_, fun h => ?_⟩
  · split at h
    · cases h
    · next rest hrest =>
      obtain rfl := Text.afterPrefix?_eq_some_iff.mp hrest
      obtain ⟨⟨s, b⟩, hsep, rfl⟩ := Option.map_eq_some_iff.mp h
      refine ⟨rfl, List.prefix_append head rest, ?_⟩
      rw [List.drop_left]
      exact hsep
  · obtain ⟨rfl, ⟨rest, rfl⟩, hsep⟩ := h
    rw [List.drop_left] at hsep
    rw [Text.afterPrefix?_eq_some_iff.mpr rfl]
    exact Option.map_eq_some_iff.mpr ⟨_, hsep, rfl⟩

/-- The longer of the two names is not the shorter one with a separator. -/
theorem head_eq_of_separator {h h' s s' t : Text} (hh : IsHead h) (hh' : IsHead h')
    (hs : IsSeparator s) (hs' : IsSeparator s') (ht : h ++ s <+: t) (ht' : h' ++ s' <+: t) :
      h = h' := by
  have hlong : ∀ s r : Text, IsSeparator s → ¬("class" : Text) ++ s <+: ("className" : Text) ++ r := by
    intro s r hs hpre
    have hN : s <+: 'N' :: (("ame" : Text) ++ r) :=
      (List.prefix_append_right_inj ("class" : Text)).mp hpre
    rcases hs.cases_cons hN with ⟨h, -⟩ | ⟨h, -⟩ <;> exact absurd h (by decide)
  cases hh <;> cases hh'
  · rfl
  · obtain ⟨r, rfl⟩ := (List.prefix_append _ _).trans ht'
    exact absurd ht (hlong s r hs)
  · obtain ⟨r, rfl⟩ := (List.prefix_append _ _).trans ht
    exact absurd ht' (hlong s' r hs')
  · rfl

/-- The two names do not get in each other's way: an attribute is read by whichever of them its
separator follows. -/
theorem read?_eq_some_iff {t : Text} {a : Attribute} :
    read? t = some a ↔ IsHead a.head ∧ a.head <+: t ∧
      separated? (t.drop a.head.length) = some (a.separator, a.body) := by
  unfold read?
  rw [Option.or_eq_some_iff, readWith?_eq_some_iff]
  refine ⟨fun h => ?_, fun h => ?_⟩
  · rcases h with ⟨hhead, hpre, hsep⟩ | ⟨-, h⟩
    · rw [hhead]
      exact ⟨.class, hpre, hsep⟩
    · obtain ⟨hhead, hpre, hsep⟩ := readWith?_eq_some_iff.mp h
      rw [hhead]
      exact ⟨.className, hpre, hsep⟩
  · obtain ⟨hhead, hpre, hsep⟩ := h
    generalize ha : a.head = head at hhead hpre hsep
    cases hhead with
    | «class» => exact .inl ⟨rfl, hpre, hsep⟩
    | className =>
      refine .inr ⟨?_, readWith?_eq_some_iff.mpr ⟨ha, hpre, hsep⟩⟩
      refine Option.eq_none_iff_forall_ne_some.mpr fun b hb => ?_
      obtain ⟨-, hpre', hsep'⟩ := readWith?_eq_some_iff.mp hb
      obtain ⟨hs, ⟨r, hr⟩, -⟩ := separated?_eq_some_iff.mp hsep
      obtain ⟨hs', ⟨r', hr'⟩, -⟩ := separated?_eq_some_iff.mp hsep'
      have := head_eq_of_separator .class .className hs' hs (t := t)
        ⟨r', by rw [List.append_assoc, hr', List.prefix_iff_eq_append.mp hpre']⟩
        ⟨r, by rw [List.append_assoc, hr, List.prefix_iff_eq_append.mp hpre]⟩
      exact absurd this (by decide)

/-- What is read is an attribute of the grammar, and it stands there. -/
theorem wellFormed_of_read? {t : Text} {a : Attribute} (h : read? t = some a) :
    a.WellFormed ∧ a.text <+: t := by
  obtain ⟨hhead, hpre, hsep⟩ := read?_eq_some_iff.mp h
  obtain ⟨hs, hspre, hbody, -⟩ := separated?_eq_some_iff.mp hsep
  obtain ⟨hwf, hstands⟩ := Body.wellFormed_of_body? hbody
  rw [List.drop_drop] at hstands
  exact ⟨wellFormed_iff.mpr ⟨hhead, hs, hwf⟩, text_prefix_iff.mpr ⟨hpre, hspre, hstands⟩⟩

/-- **An attribute is read wherever one of the grammar stands.** -/
theorem read?_eq_none_iff {t : Text} :
    read? t = none ↔ ∀ a : Attribute, a.WellFormed → ¬a.text <+: t := by
  constructor
  · intro h a hwf hstands
    obtain ⟨hhead, hs, hbwf⟩ := wellFormed_iff.mp hwf
    obtain ⟨hpre, hspre, hbody⟩ := text_prefix_iff.mp hstands
    have hne : separated? (t.drop a.head.length) ≠ none := by
      intro hnone
      have := separated?_eq_none_iff.mp hnone a.separator hs hspre
      rw [List.drop_drop] at this
      exact body?_eq_none_iff.mp this a.body hbwf hbody
    obtain ⟨⟨s, b⟩, hsep⟩ := Option.ne_none_iff_exists'.mp hne
    have hread : read? t = some ⟨a.head, s, b.opening, b.inner, b.closer, b.form⟩ :=
      read?_eq_some_iff.mpr ⟨hhead, hpre, hsep⟩
    exact absurd (hread.symm.trans h) (Option.some_ne_none _)
  · intro h
    refine Option.eq_none_iff_forall_ne_some.mpr fun a ha => ?_
    obtain ⟨hwf, hstands⟩ := wellFormed_of_read? ha
    exact h a hwf hstands

/-! ## The rules of choice

What the rules ask of one attribute among all that stand at the beginning of a text. -/

/-- The attribute that is singled out among all that stand at the beginning of a text. -/
structure Chosen (a : Attribute) (t : Text) : Prop where
  wellFormed : a.WellFormed
  stands : a.text <+: t
  /-- A call comes first, even if it ends later. -/
  callFirst : a.form = .callArguments ↔
    ∃ b : Attribute, b.WellFormed ∧ b.text <+: t ∧ b.form = .callArguments
  call : a.form = .callArguments → a.body.FirstCall (t.drop a.valueOffset)
  quoted : a.form = .quotedContent → ∃ quote, a.body.FirstQuoted quote (t.drop a.valueOffset)
  /-- Blanks between a colon and a quote all belong to the opening if it can be closed like that. -/
  blanksInOpening : ∀ b bs quote, isBlank b → Blanks bs → isQuote quote →
    a.head ++ ':' :: b :: bs ++ [quote] <+: t →
    (∃ k, ClosesQuoted (b :: bs ++ [quote]) quote
      (t.drop (a.head.length + 1 + ((b :: bs ++ [quote]).length + k)))) →
    a.separator = [':'] ∧ a.opening = b :: bs ++ [quote]
  /-- Otherwise the first of them belongs to the separator. -/
  blankInSeparator : ∀ b bs quote, isBlank b → Blanks bs → isQuote quote →
    a.head ++ ':' :: b :: bs ++ [quote] <+: t →
    (¬∃ k, ClosesQuoted (b :: bs ++ [quote]) quote
      (t.drop (a.head.length + 1 + ((b :: bs ++ [quote]).length + k)))) →
    a.separator = [':', b] ∧ a.opening = bs ++ [quote]

theorem IsCallOpening.exists_brace {opening t : Text} (h : IsCallOpening opening)
    (ht : opening <+: t) : ∃ r, t = '{' :: r := by
  obtain ⟨blanks, callee, -, -⟩ := h
  obtain ⟨r, rfl⟩ := ht
  exact ⟨blanks ++ callee ++ ['('] ++ r, by simp⟩

theorem Body.WellFormed.isCallOpening {b : Body} (h : b.WellFormed) (hform : b.form = .callArguments) :
    IsCallOpening b.opening := by
  unfold Body.WellFormed at h
  rw [hform] at h
  cases h with
  | call hopen _ => exact hopen

/-- A text has at most one opening of a quoted text at its beginning. -/
theorem IsQuotedOpening.unique {opening opening' t : Text} {quote quote' : Char}
    (h : IsQuotedOpening quote opening) (ht : opening <+: t)
    (h' : IsQuotedOpening quote' opening') (ht' : opening' <+: t) :
    opening = opening' ∧ quote = quote' := by
  have hread := quotedOpening?_eq_some_iff.mpr ⟨h, ht⟩
  have hread' := quotedOpening?_eq_some_iff.mpr ⟨h', ht'⟩
  exact Prod.mk.inj (Option.some.inj (hread.symm.trans hread'))

/-- An opening that begins with a blank has no brace. -/
theorem IsQuotedOpening.eq_blanks {opening t : Text} {quote c : Char}
    (h : IsQuotedOpening quote opening) (ht : opening <+: c :: t) (hc : isBlank c = true) :
    ∃ bs, Blanks bs ∧ isQuote quote = true ∧ opening = c :: bs ++ [quote] := by
  cases h with
  | plain blanks hq hblanks =>
    cases blanks with
    | nil =>
      obtain ⟨rfl, -⟩ := List.cons_prefix_cons.mp ht
      rw [not_isBlank_of_isQuote hq] at hc
      cases hc
    | cons b bs =>
      obtain ⟨rfl, -⟩ := List.cons_prefix_cons.mp ht
      exact ⟨bs, fun x hx => hblanks x (List.mem_cons_of_mem _ hx), hq, rfl⟩
  | braced blanks hq hblanks =>
    obtain ⟨rfl, -⟩ := List.cons_prefix_cons.mp ht
    exact absurd hc (by decide)

/-- A value that begins with a blank is a quoted text whose opening takes the blank. -/
theorem exists_blanks_of_body? {t : Text} {c : Char} {b : Body} (h : body? (c :: t) = some b)
    (hc : isBlank c = true) : ∃ bs quote, Blanks bs ∧ isQuote quote = true ∧
      b.opening = c :: bs ++ [quote] ∧ c :: bs ++ [quote] <+: c :: t := by
  rcases body?_eq_some_iff.mp h with hcall | ⟨-, quote, hquoted⟩
  · -- a call begins with a brace
    obtain ⟨r, hr⟩ := hcall.opening.exists_brace (Body.text_prefix_iff.mp hcall.stands).1
    obtain ⟨rfl, -⟩ := List.cons.inj hr
    exact absurd hc (by decide)
  · have hpre := (Body.text_prefix_iff.mp hquoted.stands).1
    obtain ⟨bs, hbs, hq, hopening⟩ := hquoted.opening.eq_blanks hpre hc
    rw [hopening] at hpre
    exact ⟨bs, quote, hbs, hq, hopening, hpre⟩

/-- A value that begins with blanks and a quote is no call. -/
theorem callBody?_of_blanks {t blanks : Text} {quote : Char} (hblanks : Blanks blanks)
    (hq : isQuote quote = true) (ht : blanks ++ [quote] <+: t) : callBody? t = none := by
  refine Option.eq_none_iff_forall_ne_some.mpr fun b hb => ?_
  have hfirst := callBody?_eq_some_iff.mp hb
  obtain ⟨r, rfl⟩ := hfirst.opening.exists_brace (Body.text_prefix_iff.mp hfirst.stands).1
  exact not_blanks_quote_prefix_brace hblanks hq ht

/-- A value that begins with blanks and a quote is a quoted text with that opening, and one is read as
soon as the opening can be closed. -/
theorem body?_of_blanks {t blanks : Text} {quote : Char} (hblanks : Blanks blanks)
    (hq : isQuote quote = true) (ht : blanks ++ [quote] <+: t) :
    (∀ b, body? t = some b → b.opening = blanks ++ [quote]) ∧
      (body? t ≠ none ↔
        ∃ k, ClosesQuoted (blanks ++ [quote]) quote (t.drop ((blanks ++ [quote]).length + k))) := by
  have hopen : IsQuotedOpening quote (blanks ++ [quote]) := .plain blanks hq hblanks
  unfold body?
  rw [callBody?_of_blanks hblanks hq ht, Option.none_or]
  constructor
  · intro b hb
    obtain ⟨quote', hfirst⟩ := quotedBody?_eq_some_iff.mp hb
    exact (hfirst.opening.unique (Body.text_prefix_iff.mp hfirst.stands).1 hopen ht).1
  · rw [Option.ne_none_iff_exists', exists_quotedBody?_iff]
    refine ⟨fun h => ?_, fun h => ?_⟩
    · obtain ⟨opening, quote', k, hopen', hpre, hcloses⟩ := h
      obtain ⟨rfl, rfl⟩ := hopen'.unique hpre hopen ht
      exact ⟨k, hcloses⟩
    · obtain ⟨k, hcloses⟩ := h
      exact ⟨blanks ++ [quote], quote, k, hopen, ht, hcloses⟩

/-! ## The reader follows the rules

First that what is read obeys each rule, then that the rules leave nothing else: of two attributes that
obey them, the reader would have read both. -/

theorem head_separator_prefix_of_text {a : Attribute} {t : Text} (h : a.text <+: t) :
    a.head ++ a.separator <+: t := by
  refine List.IsPrefix.trans ⟨a.opening ++ a.inner ++ a.closer, ?_⟩ h
  simp [text, lead]

/-- Where a call stands, the value that is read is a call. -/
theorem form_of_body? {t : Text} {x b : Body} (h : body? t = some x) (hb : b.WellFormed)
    (hform : b.form = .callArguments) (hstands : b.text <+: t) : x.form = .callArguments := by
  rcases body?_eq_some_iff.mp h with hfirst | ⟨hnone, -⟩
  · exact hfirst.form
  · exact absurd hstands (callBody?_eq_none_iff.mp hnone b hb hform)

/-- Where a call stands, a call is read. The separators of the two may differ in a blank; no value that
begins with the blank is read then, since a brace follows it. -/
theorem form_of_read? {t : Text} {a b : Attribute} (h : read? t = some a) (hb : b.WellFormed)
    (hstands : b.text <+: t) (hform : b.form = .callArguments) : a.form = .callArguments := by
  obtain ⟨hawf, hastands⟩ := wellFormed_of_read? h
  obtain ⟨-, -, hsep⟩ := read?_eq_some_iff.mp h
  obtain ⟨hs, hspre, hbody, hfirst⟩ := separated?_eq_some_iff.mp hsep
  have hhead : a.head = b.head := head_eq_of_separator hawf.head hb.head hs hb.separator
    (head_separator_prefix_of_text hastands) (head_separator_prefix_of_text hstands)
  obtain ⟨-, hspre', hbstands⟩ := text_prefix_iff.mp hstands
  rw [valueOffset, ← List.drop_drop] at hbstands
  rw [← hhead] at hspre' hbstands
  have hbwf : b.body.WellFormed := (wellFormed_iff.mp hb).2.2
  generalize t.drop a.head.length = r at *
  cases r with
  | nil =>
    rw [List.prefix_nil.mp hspre] at hs
    cases hs
  | cons c cs =>
    -- three separators on either side; those with different first characters exclude each other
    rcases hs.cases_cons hspre with ⟨rfl, hsa⟩ | ⟨rfl, hsa | ⟨d, ds, rfl, hd, hsa⟩⟩ <;>
      rcases hb.separator.cases_cons hspre' with ⟨hc, hsb⟩ | ⟨hc, hsb | ⟨e, es, hes, he, hsb⟩⟩
    · -- the same separator on both sides, here and in the cases that end alike
      rw [hsa] at hbody
      rw [hsb] at hbstands
      exact form_of_body? hbody hbwf hform hbstands
    · cases hc
    · cases hc
    · cases hc
    · rw [hsa] at hbody
      rw [hsb] at hbstands
      exact form_of_body? hbody hbwf hform hbstands
    · -- the given call follows the blank, so the text there is a blank and a brace
      subst hes
      rw [hsa] at hbody
      rw [hsb] at hbstands
      obtain ⟨r, rfl⟩ := (hbwf.isCallOpening hform).exists_brace (Body.text_prefix_iff.mp hbstands).1
      obtain ⟨bs, quote, hbs, hq, -, hpre⟩ := exists_blanks_of_body? hbody he
      exact absurd (List.cons_prefix_cons.mp hpre).2 (not_blanks_quote_prefix_brace hbs hq)
    · cases hc
    · -- the given call begins with the blank, where nothing is read
      rw [hsb] at hbstands
      exact absurd hbstands (body?_eq_none_iff.mp (hfirst d hsa) b.body hbwf)
    · rw [List.cons.injEq] at hes
      obtain ⟨rfl, rfl⟩ := hes
      rw [hsa] at hbody
      rw [hsb] at hbstands
      exact form_of_body? hbody hbwf hform hbstands

/-- The rule for blanks between a colon and a quote, for the attribute that is read. -/
theorem blank_of_read? {t : Text} {a : Attribute} {b quote : Char} {bs : Text} (h : read? t = some a)
    (hb : isBlank b = true) (hbs : Blanks bs) (hq : isQuote quote = true)
    (ht : a.head ++ ':' :: b :: bs ++ [quote] <+: t) :
    (∃ k, ClosesQuoted (b :: bs ++ [quote]) quote
        (t.drop (a.head.length + 1 + ((b :: bs ++ [quote]).length + k)))) ∧
        a.separator = [':'] ∧ a.opening = b :: bs ++ [quote] ∨
      (¬∃ k, ClosesQuoted (b :: bs ++ [quote]) quote
        (t.drop (a.head.length + 1 + ((b :: bs ++ [quote]).length + k)))) ∧
        a.separator = [':', b] ∧ a.opening = bs ++ [quote] := by
  obtain ⟨hhead, -, hsep⟩ := read?_eq_some_iff.mp h
  obtain ⟨hs, hspre, hbody, hfirst⟩ := separated?_eq_some_iff.mp hsep
  obtain ⟨rest, rfl⟩ := ht
  have hdrop : (a.head ++ ':' :: b :: bs ++ [quote] ++ rest).drop a.head.length
      = ':' :: b :: (bs ++ [quote] ++ rest) := by
    rw [List.append_assoc, List.append_assoc, List.drop_left]
    simp
  rw [hdrop] at hspre hbody hfirst
  -- the two openings that can stand here, with and without the first blank
  have hlong : b :: bs ++ [quote] <+: b :: (bs ++ [quote] ++ rest) := ⟨rest, by simp⟩
  have hshort : bs ++ [quote] <+: bs ++ [quote] ++ rest := List.prefix_append _ rest
  obtain ⟨hopening, hcloses⟩ := body?_of_blanks (List.forall_mem_cons.mpr ⟨hb, hbs⟩) hq hlong
  simp only [← List.drop_drop, hdrop, List.drop_succ_cons, List.drop_zero] at hcloses ⊢
  rw [← hcloses]
  rcases hs.cases_cons hspre with ⟨hc, -⟩ | ⟨-, hsep | ⟨d, ds, hds, -, hsep⟩⟩
  · cases hc
  · rw [hsep] at hbody
    exact .inl ⟨Option.ne_none_iff_exists'.mpr ⟨_, hbody⟩, hsep, hopening _ hbody⟩
  · obtain ⟨rfl, -⟩ := List.cons.inj hds
    have hnone := hfirst b hsep
    rw [hsep] at hbody
    exact .inr ⟨fun hne => hne hnone, hsep, (body?_of_blanks hbs hq hshort).1 _ hbody⟩

/-- The attribute that is read is singled out by the rules. -/
theorem chosen_of_read? {t : Text} {a : Attribute} (h : read? t = some a) : a.Chosen t := by
  obtain ⟨hwf, hstands⟩ := wellFormed_of_read? h
  obtain ⟨-, -, hsep⟩ := read?_eq_some_iff.mp h
  obtain ⟨-, -, hbody, -⟩ := separated?_eq_some_iff.mp hsep
  rw [List.drop_drop] at hbody
  have hvalue := body?_eq_some_iff.mp hbody
  refine ⟨hwf, hstands, ⟨fun hform => ⟨a, hwf, hstands, hform⟩, ?_⟩, ?_, ?_, ?_, ?_⟩
  · intro h
    obtain ⟨b, hb, hbstands, hform⟩ := h
    exact form_of_read? h hb hbstands hform
  · intro hform
    rcases hvalue with hcall | ⟨-, quote, hquoted⟩
    · exact hcall
    · cases hform.symm.trans hquoted.form
  · intro hform
    rcases hvalue with hcall | ⟨-, hquoted⟩
    · cases hform.symm.trans hcall.form
    · exact hquoted
  · intro b bs quote hb hbs hq ht hcloses
    rcases blank_of_read? h hb hbs hq ht with ⟨-, hsplit⟩ | ⟨hnot, -⟩
    · exact hsplit
    · exact absurd hcloses hnot
  · intro b bs quote hb hbs hq ht hnot
    rcases blank_of_read? h hb hbs hq ht with ⟨hcloses, -⟩ | ⟨-, hsplit⟩
    · exact absurd hcloses hnot
    · exact hsplit

/-- What the rules single out is read: the attribute that is read instead would have the same name,
form, opening and end. -/
theorem read?_of_chosen {t : Text} {a : Attribute} (h : a.Chosen t) : read? t = some a := by
  obtain ⟨hhead, hs, hbwf⟩ := wellFormed_iff.mp h.wellFormed
  obtain ⟨hpre, hspre, hbstands⟩ := text_prefix_iff.mp h.stands
  refine read?_eq_some_iff.mpr ⟨hhead, hpre, separated?_eq_some_iff.mpr ⟨hs, hspre, ?_, ?_⟩⟩
  · rw [List.drop_drop]
    refine body?_eq_some_iff.mpr ?_
    cases hform : a.form with
    | callArguments => exact .inl (h.call hform)
    | quotedContent =>
      refine .inr ⟨callBody?_eq_none_iff.mpr fun b hb hbform hstands => ?_, h.quoted hform⟩
      -- a call there would be an attribute with the same head and separator
      have hcall : a.form = .callArguments := h.callFirst.mpr
        ⟨⟨a.head, a.separator, b.opening, b.inner, b.closer, b.form⟩,
          wellFormed_iff.mpr ⟨hhead, hs, hb⟩, text_prefix_iff.mpr ⟨hpre, hspre, hstands⟩, hbform⟩
      cases hcall.symm.trans hform
  · -- a value that begins with the blank would have taken it from the separator
    intro c hc
    refine Option.eq_none_iff_forall_ne_some.mpr fun b hb => ?_
    rw [hc] at hs hspre
    obtain ⟨rest, hrest⟩ := hspre
    have hvalue : (t.drop a.head.length).drop 1 = c :: rest := by
      rw [← hrest]
      rfl
    have hblank : isBlank c = true := by
      cases hs with
      | colonBlank _ h => exact h
    rw [hvalue] at hb
    obtain ⟨bs, quote, hbs, hq, -, hopen⟩ := exists_blanks_of_body? hb hblank
    have ht : a.head ++ ':' :: c :: bs ++ [quote] <+: t := by
      rw [← List.prefix_iff_eq_append.mp hpre, ← hrest, List.append_assoc]
      exact (List.prefix_append_right_inj _).mpr (List.cons_prefix_cons.mpr ⟨rfl, hopen⟩)
    have hcloses := (body?_of_blanks (List.forall_mem_cons.mpr ⟨hblank, hbs⟩) hq hopen).2.mp
      (Option.ne_none_iff_exists'.mpr ⟨b, hb⟩)
    simp only [← hvalue, List.drop_drop] at hcloses
    cases hc.symm.trans (h.blanksInOpening c bs quote hblank hbs hq ht hcloses).1

/-- **The attribute that is read is the one that the rules single out.** -/
theorem read?_eq_some_iff_chosen {t : Text} {a : Attribute} : read? t = some a ↔ a.Chosen t :=
  ⟨chosen_of_read?, read?_of_chosen⟩

end AttrFold.Attribute
