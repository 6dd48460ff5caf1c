import AttrFold.Proofs.Text.Search

/-!
# What the reader of attributes reads

The reader against the grammar of `Attribute.Basic`. Each of its parts gets one equivalence that says
what it gives, in terms of the grammar and of first places (`Body.FirstCall`, `Body.FirstQuoted`), and
one that says when it gives nothing: exactly when the grammar has nothing there.

## The crux

The reader never goes back: it takes the first parenthesis as the end of a callee and the first closer
as the end of a value. The grammar allows any of them. Nothing is missed that way, because whatever can
be closed after a later parenthesis can also be closed after the first one, and a text has at most one
opening of a quoted text at its beginning.

* **`callBody?_eq_some_iff`**, **`quotedBody?_eq_some_iff`** — the body that is read is the one that
  starts at the first parenthesis and ends at the first closer.
* **`body?_eq_none_iff`** — nothing is read only where no body of the grammar stands.
-/

namespace AttrFold.Attribute

open Text (isBlank)

/-! ## Closers

Both closers are read by looking at the blanks after one character. A quoted text may also be closed by
its opening once more, which is tried first. -/

/-- Whether a text begins with the end of a call. -/
def ClosesCall (t : Text) : Prop := ∃ closer, IsBraceCloser ')' closer ∧ closer <+: t

/-- Whether a text begins with the end of a quoted text. -/
def ClosesQuoted (opening : Text) (quote : Char) (t : Text) : Prop :=
  opening <+: t ∨ ∃ closer, IsBraceCloser quote closer ∧ closer <+: t

/-- A closing brace is read after a character and any blanks, and these are all that is read. -/
theorem braceCloser?_eq_some_iff {c : Char} {t closer : Text} :
    braceCloser? c t = some closer ↔ IsBraceCloser c closer ∧ closer <+: t := by
  cases t with
  | nil =>
    simp only [braceCloser?, reduceCtorEq, List.prefix_nil, false_iff, not_and]
    rintro ⟨blanks, -⟩ h
    cases h
  | cons d ds =>
    have hspan := fun blanks => Text.blanks_then_iff ds blanks (show isBlank '}' = false by decide)
    unfold braceCloser?
    simp only [Bool.and_eq_true, decide_eq_true_eq, Option.ite_none_right_eq_some,
      Option.some.injEq]
    refine ⟨fun h => ?_, fun h => ?_⟩
    · obtain ⟨⟨rfl, hhead⟩, rfl⟩ := h
      obtain ⟨hblanks, hpre⟩ := (hspan _).mp ⟨rfl, hhead⟩
      exact ⟨.intro _ hblanks, List.cons_prefix_cons.mpr ⟨rfl, hpre⟩⟩
    · obtain ⟨⟨blanks, hblanks⟩, hpre⟩ := h
      obtain ⟨rfl, htail⟩ := List.cons_prefix_cons.mp hpre
      obtain ⟨rfl, hhead⟩ := (hspan blanks).mpr ⟨hblanks, htail⟩
      exact ⟨⟨rfl, hhead⟩, rfl⟩

theorem braceCloser?_eq_none_iff {c : Char} {t : Text} :
    braceCloser? c t = none ↔ ¬∃ closer, IsBraceCloser c closer ∧ closer <+: t := by
  simp only [Option.eq_none_iff_forall_ne_some, ne_eq, braceCloser?_eq_some_iff, not_exists]

/-- The opening once more closes a quoted text before its quote, blanks and a brace do. -/
theorem quotedCloser?_eq_some_iff {opening t closer : Text} {quote : Char} :
    quotedCloser? opening quote t = some closer ↔
      (opening <+: t ∧ closer = opening) ∨
        (¬opening <+: t ∧ IsBraceCloser quote closer ∧ closer <+: t) := by
  unfold quotedCloser?
  by_cases h : opening <+: t
  · rw [if_pos (List.isPrefixOf_iff_prefix.mpr h)]
    simp [h, eq_comm]
  · rw [if_neg (fun hp => h (List.isPrefixOf_iff_prefix.mp hp)), braceCloser?_eq_some_iff]
    simp [h]

theorem quotedCloser?_eq_none_iff {opening t : Text} {quote : Char} :
    quotedCloser? opening quote t = none ↔ ¬ClosesQuoted opening quote t := by
  unfold quotedCloser? ClosesQuoted
  by_cases h : opening <+: t
  · rw [if_pos (List.isPrefixOf_iff_prefix.mpr h)]
    simp [h]
  · rw [if_neg (fun hp => h (List.isPrefixOf_iff_prefix.mp hp)), braceCloser?_eq_none_iff]
    simp [h]

/-! ## Openings

The callee of a call is cut at the first parenthesis, so the opening that is read is a first part of
every other one that stands there. -/

/-- The callee of a call may hold a line feed among the blanks at its start only. -/
theorem isCallOpening_iff {opening : Text} :
    IsCallOpening opening ↔
      ∃ callee, opening = '{' :: callee ++ ['('] ∧ '\n' ∉ callee.dropWhile isBlank := by
  refine ⟨fun h => ?_, fun h => ?_⟩
  · obtain ⟨blanks, callee, hblanks, hline⟩ := h
    refine ⟨blanks ++ callee, rfl, ?_⟩
    rw [List.dropWhile_append_of_pos hblanks]
    exact fun h => hline ((List.dropWhile_sublist _).subset h)
  · obtain ⟨callee, rfl, hline⟩ := h
    have := IsCallOpening.intro (callee.takeWhile isBlank) (callee.dropWhile isBlank)
      (fun b hb => List.all_eq_true.mp List.all_takeWhile b hb) hline
    rwa [List.cons_append, List.takeWhile_append_dropWhile] at this

/-- The opening of a call is read up to its first parenthesis. -/
theorem callOpening?_eq_some_iff {t opening : Text} :
    callOpening? t = some opening ↔
      IsCallOpening opening ∧ '(' ∉ opening.dropLast ∧ opening <+: t := by
  rw [isCallOpening_iff]
  cases t with
  | nil =>
    simp only [callOpening?, reduceCtorEq, List.prefix_nil, false_iff, not_and]
    rintro ⟨callee, rfl, -⟩ -
    simp
  | cons c cs =>
    simp only [callOpening?]
    refine ⟨fun h => ?_, fun h => ?_⟩
    · split at h
      · next hc =>
        split at h
        · next callee rest hcut =>
          obtain ⟨rfl, hmem⟩ := Text.cut?_eq_some_iff.mp hcut
          split at h
          · cases h
          · next hline =>
            obtain rfl := Option.some.inj h
            subst hc
            refine ⟨⟨callee, rfl, by simpa using hline⟩, ?_, rest, by simp⟩
            rw [List.dropLast_concat]
            simp [hmem]
        · cases h
      · cases h
    · obtain ⟨⟨callee, rfl, hline⟩, hmem, rest, hrest⟩ := h
      rw [List.dropLast_concat] at hmem
      simp only [List.cons_append, List.append_assoc, List.cons.injEq, List.nil_append] at hrest
      obtain ⟨rfl, rfl⟩ := hrest
      -- the callee has no parenthesis, so the cut is where it ends
      have hcut : Text.cut? '(' (callee ++ '(' :: rest) = some (callee, rest) :=
        Text.cut?_eq_some_iff.mpr ⟨rfl, fun h => hmem (List.mem_cons_of_mem _ h)⟩
      simp [hcut, hline]

/-- Where an opening of a call stands, one is read that ends no later. -/
theorem exists_callOpening?_of_prefix {t opening : Text} (h : IsCallOpening opening)
    (ht : opening <+: t) : ∃ o, callOpening? t = some o ∧ o <+: opening := by
  obtain ⟨callee, rfl, hline⟩ := isCallOpening_iff.mp h
  obtain ⟨rest, rfl⟩ := ht
  obtain ⟨first, r, hcut, hfirst⟩ := Text.exists_cut?_of_append (c := '(') (a := callee) (b := rest)
  obtain ⟨hsplit, hmem⟩ := Text.cut?_eq_some_iff.mp hcut
  refine ⟨'{' :: first ++ ['('], callOpening?_eq_some_iff.mpr ⟨isCallOpening_iff.mpr ⟨first, rfl, ?_⟩,
    ?_, r, ?_⟩, ?_⟩
  · -- the callee that is read is a first part of the given one
    obtain ⟨more, rfl⟩ := hfirst
    intro hin
    refine hline ?_
    rw [List.dropWhile_append]
    split
    · next hempty => simp [List.isEmpty_iff.mp hempty] at hin
    · exact List.mem_append_left _ hin
  · rw [List.dropLast_concat]
    simp [hmem]
  · simp [hsplit]
  · -- both end with the first parenthesis or go beyond it
    have hread : '{' :: first ++ ['('] <+: '{' :: (callee ++ '(' :: rest) := ⟨r, by simp [hsplit]⟩
    have hgiven : '{' :: callee ++ ['('] <+: '{' :: (callee ++ '(' :: rest) := ⟨rest, by simp⟩
    refine List.prefix_of_prefix_length_le hread hgiven ?_
    have := hfirst.length_le
    simp only [List.length_append, List.length_cons, List.length_nil]
    omega

theorem not_isBlank_of_isQuote {c : Char} (h : isQuote c = true) : isBlank c = false := by
  simp only [isQuote, Bool.or_eq_true, decide_eq_true_eq] at h
  rcases h with (rfl | rfl) | rfl <;> decide

/-- Blanks and a quote are read as they stand; a quote is no blank, so there is one way to do so. -/
theorem quoteAfterBlanks?_eq_some_iff {t opening : Text} {quote : Char} :
    quoteAfterBlanks? t = some (opening, quote) ↔
      isQuote quote ∧ ∃ blanks, Blanks blanks ∧ opening = blanks ++ [quote] ∧ opening <+: t := by
  have hspan := fun blanks (hq : isQuote quote = true) =>
    Text.blanks_then_iff t blanks (not_isBlank_of_isQuote hq)
  unfold quoteAfterBlanks?
  refine ⟨fun h => ?_, fun h => ?_⟩
  · split at h
    · next q hhead =>
      split at h
      · next hq =>
        cases h
        obtain ⟨hblanks, hpre⟩ := (hspan _ hq).mp ⟨rfl, hhead⟩
        exact ⟨hq, _, hblanks, rfl, hpre⟩
      · cases h
    · cases h
  · obtain ⟨hq, blanks, hblanks, rfl, hpre⟩ := h
    obtain ⟨rfl, hhead⟩ := (hspan _ hq).mpr ⟨hblanks, hpre⟩
    rw [hhead]
    simp [hq]

/-- No opening without a brace stands at a brace. -/
theorem not_blanks_quote_prefix_brace {blanks t : Text} {quote : Char} (hblanks : Blanks blanks)
    (hq : isQuote quote = true) : ¬blanks ++ [quote] <+: '{' :: t := by
  cases blanks with
  | nil =>
    intro h
    obtain ⟨rfl, -⟩ := List.cons_prefix_cons.mp h
    exact absurd hq (by decide)
  | cons b bs =>
    intro h
    obtain ⟨rfl, -⟩ := List.cons_prefix_cons.mp h
    exact absurd (hblanks _ List.mem_cons_self) (by decide)

/-- The opening of a quoted text is read wherever one stands, with its brace or without one. -/
theorem quotedOpening?_eq_some_iff {t opening : Text} {quote : Char} :
    quotedOpening? t = some (opening, quote) ↔ IsQuotedOpening quote opening ∧ opening <+: t := by
  unfold quotedOpening?
  cases hbrace : Text.afterPrefix? "\x7b" t with
  | some rest =>
    obtain rfl : t = '{' :: rest := Text.afterPrefix?_eq_some_iff.mp hbrace
    simp only [Option.map_eq_some_iff]
    refine ⟨fun h => ?_, fun h => ?_⟩
    · obtain ⟨⟨o, q⟩, hread, heq⟩ := h
      cases heq
      obtain ⟨hq, blanks, hblanks, rfl, hpre⟩ := quoteAfterBlanks?_eq_some_iff.mp hread
      exact ⟨.braced blanks hq hblanks, List.cons_prefix_cons.mpr ⟨rfl, hpre⟩⟩
    · obtain ⟨hopening, hpre⟩ := h
      -- a brace is no blank, so the opening has to be the one with a brace
      cases hopening with
      | plain blanks hq hblanks => exact absurd hpre (not_blanks_quote_prefix_brace hblanks hq)
      | braced blanks hq hblanks =>
        obtain ⟨-, hpre⟩ := List.cons_prefix_cons.mp hpre
        exact ⟨(blanks ++ [quote], quote),
          quoteAfterBlanks?_eq_some_iff.mpr ⟨hq, blanks, hblanks, rfl, hpre⟩, rfl⟩
  | none =>
    simp only [quoteAfterBlanks?_eq_some_iff]
    refine ⟨fun h => ?_, fun h => ?_⟩
    · obtain ⟨hq, blanks, hblanks, rfl, hpre⟩ := h
      exact ⟨.plain blanks hq hblanks, hpre⟩
    · obtain ⟨hopening, hpre⟩ := h
      cases hopening with
      | plain blanks hq hblanks => exact ⟨hq, blanks, hblanks, rfl, hpre⟩
      | braced blanks hq hblanks =>
        obtain ⟨rest, rfl⟩ := hpre
        have hsome : Text.afterPrefix? "\x7b" ('{' :: blanks ++ [quote] ++ rest)
            = some (blanks ++ [quote] ++ rest) := Text.afterPrefix?_eq_some_iff.mpr rfl
        exact absurd (hsome.symm.trans hbrace) (Option.some_ne_none _)

/-! ## Bodies

A body is an opening, an inner part and a closer, one after the other. `FirstCall` and `FirstQuoted`
hold what the grammar says of them and, beyond it, that no earlier place would do. -/

namespace Body

/-- The body as it is written. -/
def text (b : Body) : Text := b.opening ++ b.inner ++ b.closer

/-- The grammar of bodies. -/
def WellFormed (b : Body) : Prop := IsBody b.form b.opening b.inner b.closer

/-- A call at the beginning of a text that starts its inner part at the first parenthesis and ends at
the first place where a call can be closed. -/
structure FirstCall (b : Body) (t : Text) : Prop where
  form : b.form = .callArguments
  opening : IsCallOpening b.opening
  parenthesis : '(' ∉ b.opening.dropLast
  closer : IsBraceCloser ')' b.closer
  stands : b.text <+: t
  first : ∀ k < b.inner.length, ¬ClosesCall (t.drop (b.opening.length + k))

/-- A quoted text at the beginning of a text that ends at the first place where its opening recurs or
its quote, blanks and a brace follow; of the two the opening comes first. -/
structure FirstQuoted (b : Body) (quote : Char) (t : Text) : Prop where
  form : b.form = .quotedContent
  opening : IsQuotedOpening quote b.opening
  stands : b.text <+: t
  first : ∀ k < b.inner.length, ¬ClosesQuoted b.opening quote (t.drop (b.opening.length + k))
  repeated : b.opening <+: t.drop (b.opening.length + b.inner.length) → b.closer = b.opening
  braced : ¬b.opening <+: t.drop (b.opening.length + b.inner.length) → IsBraceCloser quote b.closer

theorem FirstCall.wellFormed {b : Body} {t : Text} (h : b.FirstCall t) : b.WellFormed := by
  unfold WellFormed
  rw [h.form]
  exact .call h.opening h.closer

theorem FirstQuoted.wellFormed {b : Body} {t : Text} {quote : Char} (h : b.FirstQuoted quote t) :
    b.WellFormed := by
  unfold WellFormed
  rw [h.form]
  by_cases hopen : b.opening <+: t.drop (b.opening.length + b.inner.length)
  · rw [h.repeated hopen]
    exact .repeated h.opening
  · exact .braced h.opening (h.braced hopen)

/-- The parts of a body stand at the beginning of a text one after the other. -/
theorem text_prefix_iff {b : Body} {t : Text} :
    b.text <+: t ↔ b.opening <+: t ∧ b.inner <+: t.drop b.opening.length ∧
      b.closer <+: t.drop (b.opening.length + b.inner.length) := by
  unfold text
  refine ⟨fun h => ?_, fun h => ?_⟩
  · obtain ⟨r, rfl⟩ := h
    refine ⟨⟨b.inner ++ b.closer ++ r, by simp⟩, ⟨b.closer ++ r, ?_⟩, ⟨r, ?_⟩⟩
    · rw [List.append_assoc, List.append_assoc, List.drop_left]
    · rw [List.append_assoc, ← List.length_append, List.drop_left]
  · obtain ⟨⟨r, rfl⟩, hinner, hcloser⟩ := h
    rw [List.drop_left] at hinner
    obtain ⟨r, rfl⟩ := hinner
    rw [← List.append_assoc, ← List.length_append, List.drop_left] at hcloser
    rw [← List.append_assoc]
    exact (List.prefix_append_right_inj _).mpr hcloser

end Body

/-- A call is read from the first parenthesis to the first place where a call can be closed. -/
theorem callBody?_eq_some_iff {t : Text} {b : Body} : callBody? t = some b ↔ b.FirstCall t := by
  unfold callBody?
  refine ⟨fun h => ?_, fun h => ?_⟩
  · split at h
    · cases h
    · next opening hopening =>
      obtain ⟨⟨inner, closer⟩, hupto, rfl⟩ := Option.map_eq_some_iff.mp h
      obtain ⟨hopen, hparen, hpre⟩ := callOpening?_eq_some_iff.mp hopening
      obtain ⟨hinner, hclose, hfirst⟩ := Text.upTo?_eq_some_iff.mp hupto
      rw [List.drop_drop] at hclose
      obtain ⟨hcloser, hstands⟩ := braceCloser?_eq_some_iff.mp hclose
      -- the places are counted from the end of the opening here, from the start of the text there
      refine ⟨rfl, hopen, hparen, hcloser, Body.text_prefix_iff.mpr ⟨hpre, hinner, hstands⟩, ?_⟩
      intro k hk
      have := hfirst k hk
      rw [List.drop_drop] at this
      exact braceCloser?_eq_none_iff.mp this
  · obtain ⟨opening, inner, closer, form⟩ := b
    obtain ⟨hpre, hinner, hstands⟩ := Body.text_prefix_iff.mp h.stands
    obtain rfl : form = .callArguments := h.form
    rw [callOpening?_eq_some_iff.mpr ⟨h.opening, h.parenthesis, hpre⟩]
    refine Option.map_eq_some_iff.mpr ⟨(inner, closer), Text.upTo?_eq_some_iff.mpr ⟨hinner, ?_, ?_⟩,
      rfl⟩
    · rw [List.drop_drop]
      exact braceCloser?_eq_some_iff.mpr ⟨h.closer, hstands⟩
    · intro k hk
      rw [List.drop_drop]
      exact braceCloser?_eq_none_iff.mpr (h.first k hk)

/-- No call is read only where none of the grammar stands. -/
theorem callBody?_eq_none_iff {t : Text} :
    callBody? t = none ↔ ∀ b : Body, b.WellFormed → b.form = .callArguments → ¬b.text <+: t := by
  constructor
  · rintro h ⟨opening, inner, closer, form⟩ hwf hform hstands
    obtain rfl : form = .callArguments := hform
    obtain ⟨hpre, -, hclose⟩ := Body.text_prefix_iff.mp hstands
    cases hwf with
    | call hopen hcloser =>
      -- the opening that is read ends no later, so the closer also comes after it
      obtain ⟨o, ho, hle⟩ := exists_callOpening?_of_prefix hopen hpre
      unfold callBody? at h
      rw [ho] at h
      have hlen : o.length ≤ opening.length := hle.length_le
      have hnone := Text.upTo?_eq_none_iff.mp (Option.map_eq_none_iff.mp h)
        (opening.length - o.length + inner.length)
      rw [List.drop_drop, show o.length + (opening.length - o.length + inner.length)
        = opening.length + inner.length from by omega] at hnone
      exact braceCloser?_eq_none_iff.mp hnone ⟨closer, hcloser, hclose⟩
  · intro h
    refine Option.eq_none_iff_forall_ne_some.mpr fun b hb => ?_
    have hfirst := callBody?_eq_some_iff.mp hb
    exact h b hfirst.wellFormed hfirst.form hfirst.stands

/-- A call is read as soon as its opening stands, with one parenthesis, and can be closed somewhere
after it. -/
theorem exists_callBody?_of_closes {t opening : Text} {k : Nat} (hopen : IsCallOpening opening)
    (hparen : '(' ∉ opening.dropLast) (hpre : opening <+: t)
    (hcloses : ClosesCall (t.drop (opening.length + k))) : ∃ b, callBody? t = some b := by
  unfold callBody?
  rw [callOpening?_eq_some_iff.mpr ⟨hopen, hparen, hpre⟩]
  refine Option.ne_none_iff_exists'.mp fun hnone => ?_
  have := Text.upTo?_eq_none_iff.mp (Option.map_eq_none_iff.mp hnone) k
  rw [List.drop_drop] at this
  exact braceCloser?_eq_none_iff.mp this hcloses

/-- A quoted text is read up to the first place where it can be closed. -/
theorem quotedBody?_eq_some_iff {t : Text} {b : Body} :
    quotedBody? t = some b ↔ ∃ quote, b.FirstQuoted quote t := by
  unfold quotedBody?
  refine ⟨fun h => ?_, fun h => ?_⟩
  · split at h
    · cases h
    · next opening quote hopening =>
      obtain ⟨⟨inner, closer⟩, hupto, rfl⟩ := Option.map_eq_some_iff.mp h
      obtain ⟨hopen, hpre⟩ := quotedOpening?_eq_some_iff.mp hopening
      obtain ⟨hinner, hclose, hfirst⟩ := Text.upTo?_eq_some_iff.mp hupto
      rw [List.drop_drop] at hclose
      have hnot : ∀ k < inner.length, ¬ClosesQuoted opening quote (t.drop (opening.length + k)) := by
        intro k hk
        have := hfirst k hk
        rw [List.drop_drop] at this
        exact quotedCloser?_eq_none_iff.mp this
      -- the closer is the opening once more, or else the quote with a brace
      rcases quotedCloser?_eq_some_iff.mp hclose with ⟨hrep, rfl⟩ | ⟨hrep, hbrace, hstands⟩
      · exact ⟨quote, rfl, hopen, Body.text_prefix_iff.mpr ⟨hpre, hinner, hrep⟩, hnot,
          fun _ => rfl, fun hne => absurd hrep hne⟩
      · exact ⟨quote, rfl, hopen, Body.text_prefix_iff.mpr ⟨hpre, hinner, hstands⟩, hnot,
          fun hrep' => absurd hrep' hrep, fun _ => hbrace⟩
  · obtain ⟨quote, h⟩ := h
    obtain ⟨opening, inner, closer, form⟩ := b
    obtain ⟨hpre, hinner, hstands⟩ := Body.text_prefix_iff.mp h.stands
    obtain rfl : form = .quotedContent := h.form
    rw [quotedOpening?_eq_some_iff.mpr ⟨h.opening, hpre⟩]
    refine Option.map_eq_some_iff.mpr ⟨(inner, closer), Text.upTo?_eq_some_iff.mpr ⟨hinner, ?_, ?_⟩,
      rfl⟩
    · rw [List.drop_drop]
      refine quotedCloser?_eq_some_iff.mpr ?_
      by_cases hrep : opening <+: t.drop (opening.length + inner.length)
      · exact .inl ⟨hrep, h.repeated hrep⟩
      · exact .inr ⟨hrep, h.braced hrep, hstands⟩
    · intro k hk
      rw [List.drop_drop]
      exact quotedCloser?_eq_none_iff.mpr (h.first k hk)

/-- A quoted text is read as soon as its opening stands and can be closed somewhere after it. -/
theorem exists_quotedBody?_iff {t : Text} :
    (∃ b, quotedBody? t = some b) ↔ ∃ opening quote k, IsQuotedOpening quote opening ∧
      opening <+: t ∧ ClosesQuoted opening quote (t.drop (opening.length + k)) := by
  refine ⟨fun h => ?_, fun h => ?_⟩
  · obtain ⟨b, hb⟩ := h
    obtain ⟨quote, h⟩ := quotedBody?_eq_some_iff.mp hb
    obtain ⟨hpre, -, hclose⟩ := Body.text_prefix_iff.mp h.stands
    refine ⟨b.opening, quote, b.inner.length, h.opening, hpre, ?_⟩
    by_cases hrep : b.opening <+: t.drop (b.opening.length + b.inner.length)
    · exact .inl hrep
    · exact .inr ⟨b.closer, h.braced hrep, hclose⟩
  · obtain ⟨opening, quote, k, hopen, hpre, hcloses⟩ := h
    unfold quotedBody?
    rw [quotedOpening?_eq_some_iff.mpr ⟨hopen, hpre⟩]
    refine Option.ne_none_iff_exists'.mp fun hnone => ?_
    have := Text.upTo?_eq_none_iff.mp (Option.map_eq_none_iff.mp hnone) k
    rw [List.drop_drop] at this
    exact quotedCloser?_eq_none_iff.mp this hcloses

/-- No quoted text is read only where none of the grammar stands. -/
theorem quotedBody?_eq_none_iff {t : Text} :
    quotedBody? t = none ↔ ∀ b : Body, b.WellFormed → b.form = .quotedContent → ¬b.text <+: t := by
  constructor
  · rintro h ⟨opening, inner, closer, form⟩ hwf hform hstands
    obtain rfl : form = .quotedContent := hform
    obtain ⟨hpre, -, hclose⟩ := Body.text_prefix_iff.mp hstands
    refine Option.ne_none_iff_exists'.mpr (exists_quotedBody?_iff.mpr ?_) h
    cases hwf with
    | repeated hopen => exact ⟨opening, _, inner.length, hopen, hpre, .inl hclose⟩
    | braced hopen hbrace =>
      exact ⟨opening, _, inner.length, hopen, hpre, .inr ⟨closer, hbrace, hclose⟩⟩
  · intro h
    refine Option.eq_none_iff_forall_ne_some.mpr fun b hb => ?_
    obtain ⟨quote, hfirst⟩ := quotedBody?_eq_some_iff.mp hb
    exact h b hfirst.wellFormed hfirst.form hfirst.stands

/-- A value is a call where there is one, and a quoted text otherwise. -/
theorem body?_eq_some_iff {t : Text} {b : Body} :
    body? t = some b ↔ b.FirstCall t ∨ callBody? t = none ∧ ∃ quote, b.FirstQuoted quote t := by
  unfold body?
  rw [Option.or_eq_some_iff, callBody?_eq_some_iff, quotedBody?_eq_some_iff]

/-- A value is read wherever one of the grammar stands. -/
theorem body?_eq_none_iff {t : Text} : body? t = none ↔ ∀ b : Body, b.WellFormed → ¬b.text <+: t := by
  unfold body?
  rw [Option.or_eq_none_iff, callBody?_eq_none_iff, quotedBody?_eq_none_iff]
  constructor
  · rintro ⟨hcall, hquoted⟩ b hwf
    cases hform : b.form with
    | callArguments => exact hcall b hwf hform
    | quotedContent => exact hquoted b hwf hform
  · intro h
    exact ⟨fun b hwf _ => h b hwf, fun b hwf _ => h b hwf⟩

/-- The value that is read is one of the grammar, and it stands there. -/
theorem Body.wellFormed_of_body? {t : Text} {b : Body} (h : body? t = some b) :
    b.WellFormed ∧ b.text <+: t := by
  rcases body?_eq_some_iff.mp h with hfirst | ⟨-, quote, hfirst⟩
  · exact ⟨hfirst.wellFormed, hfirst.stands⟩
  · exact ⟨hfirst.wellFormed, hfirst.stands⟩

end AttrFold.Attribute
