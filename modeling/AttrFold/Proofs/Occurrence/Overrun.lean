import AttrFold.Proofs.Occurrence

/-!
# Attributes that run past their end

Two kinds of values are not held to what they look like. A callee is any text up to a parenthesis on
its line, so the braces of a value can be over, or hold a quoted text, before the call begins. And
blanks before a quote belong to the opening, so that the quote alone does not close the text.

## The crux

Both come down to what stands first. The parenthesis of a call is the first one after the first
brace, and whatever lies between them is the callee (`callee_unique`); so a call leaves its braces
exactly where they end too early. A quoted text is closed at its first quote or not before the next
one (`closesQuoted_iff`); so it holds no quote of its own exactly where that first one can close it.

* **`leavesBraces_iff_overruns`** — the calls that reach beyond their braces are those at which the
  braces end before the first parenthesis, on its line.
* **`plain_quote_ends`** — a quoted text without a brace ends at its own quote exactly if the blanks
  of its opening stand before that quote, or a closing brace comes after it.
-/

namespace AttrFold

namespace Attribute

open Text (isBlank)

/-! ## Callees

A callee is what stands between a brace and the first parenthesis after it. -/

/-- What stands between the brace of a call and its parenthesis. -/
def callee (a : Attribute) : Text := a.opening.tail.dropLast

/-- A character at which braces hold no call: the one that closes them, or a quote. -/
def EndsBraces (c : Char) : Prop := c = '}' ∨ isQuote c = true

/-- A call that does not begin in its own braces, or begins behind a quote. -/
def LeavesBraces (a : Attribute) : Prop := a.form = .callArguments ∧ ∃ c ∈ a.callee, EndsBraces c

/-- An attribute up to the parenthesis of a call. -/
def callLead (head separator callee : Text) : Text := head ++ separator ++ ('{' :: callee ++ ['('])

/-- A text begins with an attribute whose braces are closed, or hold a quote, before the first
parenthesis. That parenthesis is still on the line, and a call can be closed somewhere behind it. -/
def Overruns (t : Text) : Prop :=
  ∃ head separator inside c beyond k, IsHead head ∧ IsSeparator separator ∧ EndsBraces c ∧
    '(' ∉ inside ++ c :: beyond ∧ '\n' ∉ inside.dropWhile isBlank ∧ '\n' ∉ beyond ∧
    callLead head separator (inside ++ c :: beyond) <+: t ∧
    ClosesCall (t.drop ((callLead head separator (inside ++ c :: beyond)).length + k))

theorem EndsBraces.not_isBlank {c : Char} (h : EndsBraces c) : isBlank c = false := by
  rcases h with rfl | hquote
  · decide
  · exact not_isBlank_of_isQuote hquote

/-- Line feeds may only stand among the blanks at the start of a callee, so none comes after a character
that ends the braces. -/
theorem EndsBraces.line_iff {inside beyond : Text} {c : Char} (h : EndsBraces c) :
    '\n' ∉ (inside ++ c :: beyond).dropWhile isBlank ↔
      '\n' ∉ inside.dropWhile isBlank ∧ '\n' ∉ beyond := by
  have hblank : isBlank c = false := h.not_isBlank
  have hline : '\n' ≠ c := by
    rintro rfl
    exact absurd hblank (by decide)
  have hdrop : (inside ++ c :: beyond).dropWhile isBlank
      = inside.dropWhile isBlank ++ c :: beyond := by
    rw [List.dropWhile_append]
    split
    · next hempty =>
      rw [List.isEmpty_iff.mp hempty, List.dropWhile_cons_of_neg (by simp [hblank]), List.nil_append]
    · rfl
  rw [hdrop, List.mem_append, List.mem_cons, not_or, not_or]
  exact ⟨fun hmem => ⟨hmem.1, hmem.2.2⟩, fun hmem => ⟨hmem.1, hline, hmem.2⟩⟩

/-- There is no brace before the value of an attribute. -/
theorem brace_not_mem_name {head separator : Text} (hhead : IsHead head)
    (hsep : IsSeparator separator) : '{' ∉ head ++ separator := by
  rw [List.mem_append, not_or]
  constructor
  · cases hhead <;> decide
  · cases hsep with
    | equals | colon => decide
    | colonBlank b hb =>
      rw [List.mem_cons, List.mem_singleton, not_or]
      refine ⟨by decide, ?_⟩
      rintro rfl
      exact absurd hb (by decide)

/-- A text has at most one callee at its beginning: its first brace comes before it, and the first
parenthesis after the brace behind it. -/
theorem callee_unique {head head' separator separator' callee callee' t : Text}
    (hhead : IsHead head) (hsep : IsSeparator separator) (hparen : '(' ∉ callee)
    (hpre : callLead head separator callee <+: t)
    (hhead' : IsHead head') (hsep' : IsSeparator separator') (hparen' : '(' ∉ callee')
    (hpre' : callLead head' separator' callee' <+: t) : callee = callee' := by
  obtain ⟨rest, rfl⟩ := hpre
  obtain ⟨rest', hrest⟩ := hpre'
  have hparts : head' ++ separator' ++ '{' :: (callee' ++ '(' :: rest')
      = head ++ separator ++ '{' :: (callee ++ '(' :: rest) := by
    simpa [callLead] using hrest
  obtain ⟨-, hbraces⟩ := Text.eq_of_first (brace_not_mem_name hhead' hsep')
    (brace_not_mem_name hhead hsep) hparts
  exact (Text.eq_of_first hparen' hparen hbraces).1.symm

/-- What a call that is read begins with, by its callee. -/
theorem lead_eq_callLead {a : Attribute} {t : Text} (h : a.body.FirstCall t) :
    a.lead = callLead a.head a.separator a.callee ∧ '(' ∉ a.callee ∧
      '\n' ∉ a.callee.dropWhile isBlank := by
  have hopen : IsCallOpening a.opening := h.opening
  have hparen : '(' ∉ a.opening.dropLast := h.parenthesis
  obtain ⟨callee, hopening, hline⟩ := isCallOpening_iff.mp hopen
  have hcallee : a.callee = callee := by
    rw [Attribute.callee, hopening]
    exact List.dropLast_concat
  rw [hopening, List.dropLast_concat] at hparen
  rw [hcallee, lead, hopening]
  exact ⟨rfl, fun hmem => hparen (List.mem_cons_of_mem _ hmem), hline⟩

/-- Where a callee stands, whatever it holds, and a call can be closed after it, a call is read. -/
theorem form_of_callLead {a : Attribute} {t head separator callee : Text} {k : Nat}
    (hread : read? t = some a) (hhead : IsHead head) (hsep : IsSeparator separator)
    (hparen : '(' ∉ callee) (hline : '\n' ∉ callee.dropWhile isBlank)
    (hpre : callLead head separator callee <+: t)
    (hcloses : ClosesCall (t.drop ((callLead head separator callee).length + k))) :
    a.form = .callArguments := by
  obtain ⟨rest, rfl⟩ := hpre
  have hvalue : (callLead head separator callee ++ rest).drop (head ++ separator).length
      = '{' :: callee ++ ['('] ++ rest := by
    rw [callLead, List.append_assoc, List.drop_left]
  have hparen' : '(' ∉ ('{' :: callee ++ ['(']).dropLast := by
    rw [List.dropLast_concat, List.mem_cons, not_or]
    exact ⟨by decide, hparen⟩
  -- a body is read behind the separator, and it makes an attribute of the grammar
  obtain ⟨b, hb⟩ : ∃ b, callBody? ('{' :: callee ++ ['('] ++ rest) = some b := by
    refine exists_callBody?_of_closes (k := k) (isCallOpening_iff.mpr ⟨callee, rfl, hline⟩) hparen'
      (List.prefix_append _ rest) ?_
    rwa [← hvalue, List.drop_drop, ← Nat.add_assoc, ← List.length_append]
  have hfirst := callBody?_eq_some_iff.mp hb
  have hstands := hfirst.stands
  rw [← hvalue, List.length_append] at hstands
  apply form_of_read? hread (b := ⟨head, separator, b.opening, b.inner, b.closer, b.form⟩)
  · exact wellFormed_iff.mpr ⟨hhead, hsep, hfirst.wellFormed⟩
  · refine text_prefix_iff.mpr ⟨?_, ?_, hstands⟩
    · exact ⟨separator ++ ('{' :: callee ++ ['(']) ++ rest, by simp [callLead]⟩
    · exact ⟨'{' :: callee ++ ['('] ++ rest, by simp [callLead]⟩
  · exact hfirst.form

/-- The lead of an attribute stands where the attribute does, and its closer behind the inner part. -/
theorem lead_closer_prefix {a : Attribute} {t : Text} (h : a.text <+: t) :
    a.lead <+: t ∧ a.closer <+: t.drop (a.lead.length + a.inner.length) := by
  obtain ⟨rest, rfl⟩ := h
  rw [Attribute.text]
  constructor
  · exact ⟨a.inner ++ a.closer ++ rest, by simp⟩
  · rw [← List.length_append, List.append_assoc, List.drop_left]
    exact List.prefix_append _ rest

/-! ## Quoted texts without a brace

The opening of such a text is blanks and a quote. It recurs, or the quote and a brace follow, at the
first quote behind the opening or not before the next one. -/

/-- A text begins with blanks and a closing brace. -/
def BraceFollows (t : Text) : Prop := ∃ gap, Blanks gap ∧ gap ++ ['}'] <+: t

section FirstQuote

variable {blanks rest after : Text} {quote : Char} (hrest : quote ∉ rest)

include hrest

/-- An opening without a brace recurs at a quote if the blanks before the quote are its own. -/
theorem opening_recurs_iff (hblanks : Blanks blanks) (hq : isQuote quote = true) :
    blanks ++ [quote] <+: rest ++ quote :: after ↔ rest = blanks := by
  constructor
  · rintro ⟨r, hr⟩
    have hnot : quote ∉ blanks := by
      intro hmem
      have hblank := hblanks quote hmem
      rw [not_isBlank_of_isQuote hq] at hblank
      cases hblank
    rw [List.append_assoc, List.singleton_append] at hr
    exact (Text.eq_of_first hnot hrest hr).1.symm
  · rintro rfl
    exact ⟨after, by simp⟩

/-- A quote closes with a brace only if it stands right there and the brace follows. -/
theorem exists_braceCloser_iff :
    (∃ closer, IsBraceCloser quote closer ∧ closer <+: rest ++ quote :: after) ↔
      rest = [] ∧ BraceFollows after := by
  constructor
  · rintro ⟨closer, ⟨gap, hgap⟩, hpre⟩
    cases rest with
    | nil => exact ⟨rfl, gap, hgap, (List.cons_prefix_cons.mp hpre).2⟩
    | cons d ds =>
      obtain ⟨rfl, -⟩ := List.cons_prefix_cons.mp hpre
      exact absurd List.mem_cons_self hrest
  · rintro ⟨rfl, gap, hgap, hpre⟩
    exact ⟨_, .intro gap hgap, List.cons_prefix_cons.mpr ⟨rfl, hpre⟩⟩

/-- Before its first quote a text can be closed where just the blanks of the opening are left, and
at the quote itself where a brace follows. -/
theorem closesQuoted_iff (hblanks : Blanks blanks) (hq : isQuote quote = true) :
    ClosesQuoted (blanks ++ [quote]) quote (rest ++ quote :: after) ↔
      rest = blanks ∨ rest = [] ∧ BraceFollows after :=
  or_congr (opening_recurs_iff hrest hblanks hq) (exists_braceCloser_iff hrest)

end FirstQuote

theorem IsQuotedOpening.quote_mem {quote : Char} {opening : Text}
    (h : IsQuotedOpening quote opening) : quote ∈ opening := by
  cases h <;> exact List.mem_append_right _ List.mem_cons_self

theorem IsBraceCloser.quote_mem {quote : Char} {closer : Text} (h : IsBraceCloser quote closer) :
    quote ∈ closer := by
  cases h
  exact List.mem_cons_self

/-- What closes a quoted text stands behind its opening and holds its quote. -/
theorem Body.FirstQuoted.quote_mem_drop {b : Body} {quote : Char} {u : Text}
    (h : b.FirstQuoted quote u) : quote ∈ u.drop b.opening.length := by
  obtain ⟨-, -, hcloser⟩ := Body.text_prefix_iff.mp h.stands
  have hquote : quote ∈ b.closer := by
    by_cases hrep : b.opening <+: u.drop (b.opening.length + b.inner.length)
    · rw [h.repeated hrep]
      exact h.opening.quote_mem
    · exact (h.braced hrep).quote_mem
  rw [← List.drop_drop] at hcloser
  exact List.mem_of_mem_drop (hcloser.subset hquote)

/-- How a quoted text ends whose opening is blanks and a quote, when `before` and `after` stand
around the first such quote behind the opening. -/
structure EndsPlain (a : Attribute) (blanks : Text) (quote : Char) (before after : Text) : Prop where
  opening : a.opening = blanks ++ [quote]
  gap : Blanks blanks
  mark : isQuote quote = true
  first : quote ∉ before
  /-- The inner part is free of its own quote exactly if the first one can close it. -/
  free_iff : quote ∉ a.inner ↔ blanks <:+ before ∨ BraceFollows after
  closed : quote ∉ a.inner →
    a.inner ++ blanks = before ∧ a.closer = a.opening ∨ a.inner = before ∧ IsBraceCloser quote a.closer
  /-- Otherwise the inner part goes on behind that quote. -/
  passed : quote ∈ a.inner → before ++ [quote] <+: a.inner

section PlainQuote

variable {a : Attribute} {u blanks before after : Text} {quote : Char}

/-- Dropping some of what stands before a quote leaves the rest of it before the quote. -/
theorem drop_add_of_split {o k : Nat} (hsplit : u.drop o = before ++ quote :: after)
    (hk : k ≤ before.length) : u.drop (o + k) = before.drop k ++ quote :: after := by
  rw [← List.drop_drop, hsplit, List.drop_append_of_le_length hk]

/-- The inner part of a quoted text stands behind its opening. -/
theorem Body.FirstQuoted.inner_prefix_of_split (h : a.body.FirstQuoted quote u)
    (hsplit : u.drop a.opening.length = before ++ quote :: after) :
    a.inner <+: before ++ quote :: after := by
  rw [← hsplit]
  exact (Body.text_prefix_iff.mp h.stands).2.1

/-- An inner part that ends by the first quote is closed there, in one of the two ways. -/
theorem Body.FirstQuoted.closed_by_first (h : a.body.FirstQuoted quote u)
    (hopening : a.opening = blanks ++ [quote]) (hblanks : Blanks blanks) (hq : isQuote quote = true)
    (hsplit : u.drop a.opening.length = before ++ quote :: after) (hfirst : quote ∉ before)
    (hle : a.inner.length ≤ before.length) :
    quote ∉ a.inner ∧ (a.inner ++ blanks = before ∧ a.closer = a.opening ∨
      (a.inner = before ∧ IsBraceCloser quote a.closer) ∧ BraceFollows after) := by
  have hsub : a.inner <+: before :=
    List.prefix_of_prefix_length_le (h.inner_prefix_of_split hsplit) (List.prefix_append _ _) hle
  have hwhole : a.inner ++ before.drop a.inner.length = before := List.prefix_iff_eq_append.mp hsub
  have hrest : quote ∉ before.drop a.inner.length := fun hmem => hfirst (List.mem_of_mem_drop hmem)
  have hdrop := drop_add_of_split hsplit hle
  refine ⟨fun hmem => hfirst (hsub.subset hmem), ?_⟩
  have hrecurs : a.opening <+: u.drop (a.opening.length + a.inner.length) ↔
      before.drop a.inner.length = blanks := by
    rw [hdrop, hopening]
    exact opening_recurs_iff hrest hblanks hq
  by_cases heq : before.drop a.inner.length = blanks
  · rw [heq] at hwhole
    exact .inl ⟨hwhole, h.repeated (hrecurs.mpr heq)⟩
  · have hbrace : IsBraceCloser quote a.closer := h.braced fun hrep => heq (hrecurs.mp hrep)
    have hstands : a.closer <+: u.drop (a.opening.length + a.inner.length) :=
      (Body.text_prefix_iff.mp h.stands).2.2
    rw [hdrop] at hstands
    obtain ⟨hnil, hfollows⟩ := (exists_braceCloser_iff hrest).mp ⟨a.closer, hbrace, hstands⟩
    rw [hnil, List.append_nil] at hwhole
    exact .inr ⟨⟨hwhole, hbrace⟩, hfollows⟩

/-- An inner part that goes on behind the first quote could be closed at no place up to it. -/
theorem Body.FirstQuoted.passes_first (h : a.body.FirstQuoted quote u)
    (hopening : a.opening = blanks ++ [quote]) (hblanks : Blanks blanks) (hq : isQuote quote = true)
    (hsplit : u.drop a.opening.length = before ++ quote :: after) (hfirst : quote ∉ before)
    (hlt : before.length < a.inner.length) :
    before ++ [quote] <+: a.inner ∧ ¬(blanks <:+ before ∨ BraceFollows after) := by
  constructor
  · refine List.prefix_of_prefix_length_le ⟨after, by simp⟩ (h.inner_prefix_of_split hsplit) ?_
    rw [List.length_append, List.length_singleton]
    omega
  · have hopen : ∀ k ≤ before.length,
        ¬(before.drop k = blanks ∨ before.drop k = [] ∧ BraceFollows after) := by
      intro k hk hcloses
      have hrest : quote ∉ before.drop k := fun hmem => hfirst (List.mem_of_mem_drop hmem)
      apply h.first k (Nat.lt_of_le_of_lt hk hlt)
      show ClosesQuoted a.opening quote (u.drop (a.opening.length + k))
      rw [drop_add_of_split hsplit hk, hopening]
      exact (closesQuoted_iff hrest hblanks hq).mpr hcloses
    rintro (⟨front, rfl⟩ | hfollows)
    · refine hopen front.length ?_ (.inl List.drop_left)
      rw [List.length_append]
      omega
    · exact hopen before.length (Nat.le_refl _) (.inr ⟨List.drop_length, hfollows⟩)

/-- A quoted text without a brace ends at the first quote behind its opening if it can be closed
there, and goes on behind it otherwise. -/
theorem Body.FirstQuoted.endsPlain (h : a.body.FirstQuoted quote u)
    (hopening : a.opening = blanks ++ [quote]) (hblanks : Blanks blanks) (hq : isQuote quote = true)
    (hsplit : u.drop a.opening.length = before ++ quote :: after) (hfirst : quote ∉ before) :
    a.EndsPlain blanks quote before after := by
  by_cases hle : a.inner.length ≤ before.length
  · obtain ⟨hfree, hends⟩ := h.closed_by_first hopening hblanks hq hsplit hfirst hle
    refine ⟨hopening, hblanks, hq, hfirst, iff_of_true hfree ?_, fun _ => hends.imp_right And.left,
      fun hmem => absurd hmem hfree⟩
    rcases hends with ⟨hrep, -⟩ | ⟨-, hfollows⟩
    · exact .inl ⟨a.inner, hrep⟩
    · exact .inr hfollows
  · obtain ⟨hpassed, hopen⟩ := h.passes_first hopening hblanks hq hsplit hfirst (Nat.lt_of_not_le hle)
    have hmem : quote ∈ a.inner := hpassed.subset (List.mem_append_right _ List.mem_cons_self)
    exact ⟨hopening, hblanks, hq, hfirst, iff_of_false (fun hfree => hfree hmem) hopen,
      fun hfree => absurd hmem hfree, fun _ => hpassed⟩

end PlainQuote

end Attribute

namespace Occurrence

open Attribute

variable {t : Text} {m : Occurrence}

/-- **A call leaves its braces exactly where they end before the first parenthesis on the line.** -/
theorem leavesBraces_iff_overruns (hm : m ∈ all t) :
    m.found.LeavesBraces ↔ Overruns (t.drop m.offset) := by
  have hread := read?_of_mem_all hm
  have hchosen := chosen_of_read? hread
  obtain ⟨hhead, hsep, -⟩ := wellFormed_iff.mp hchosen.wellFormed
  obtain ⟨hpre, hcloser⟩ := lead_closer_prefix hchosen.stands
  constructor
  · rintro ⟨hform, c, hmem, hends⟩
    have hfirst := hchosen.call hform
    obtain ⟨hlead, hparen, hline⟩ := lead_eq_callLead hfirst
    obtain ⟨inside, beyond, hsplit⟩ := List.append_of_mem hmem
    rw [hlead] at hpre hcloser
    rw [hsplit] at hparen hline hpre hcloser
    obtain ⟨hinside, hbeyond⟩ := hends.line_iff.mp hline
    exact ⟨_, _, inside, c, beyond, m.found.inner.length, hhead, hsep, hends, hparen, hinside,
      hbeyond, hpre, m.found.closer, hfirst.closer, hcloser⟩
  · rintro ⟨head, separator, inside, c, beyond, k, hhead', hsep', hends, hparen, hinside, hbeyond,
      hpre', hcloses⟩
    have hline := hends.line_iff.mpr ⟨hinside, hbeyond⟩
    have hform := form_of_callLead hread hhead' hsep' hparen hline hpre' hcloses
    -- the call that is read has that callee, since no other one stands there
    obtain ⟨hlead, hparen', -⟩ := lead_eq_callLead (hchosen.call hform)
    rw [hlead] at hpre
    have hcallee := callee_unique hhead hsep hparen' hpre hhead' hsep' hparen hpre'
    refine ⟨hform, c, ?_, hends⟩
    rw [hcallee]
    exact List.mem_append_right _ List.mem_cons_self

/-- The quoted text stands on a line of its own, and the call takes its parenthesis from behind it. -/
theorem leavesBraces_iff_overruns_later_line :
    let t : Text := "className=\x7b\n'x y'\x7d f(1)\x7d"
    let m : Occurrence :=
      ⟨0, ⟨"className", ['='], "\x7b\n'x y'\x7d f(", "1", ")\x7d", .callArguments⟩⟩
    m ∈ all t ∧ m.found.LeavesBraces ∧ Overruns t := by
  intro t m
  have hm : m ∈ all t := by decide +kernel
  have hleaves : m.found.LeavesBraces := ⟨rfl, '\'', by decide +kernel, .inr rfl⟩
  exact ⟨hm, hleaves, (leavesBraces_iff_overruns hm).mp hleaves⟩

/-- A class list in braces is passed over for the call of a later attribute. -/
theorem call_in_later_attribute :
    let t : Text := "<a className=\x7b'x y'\x7d onClick=\x7bf(1)\x7d>"
    let m : Occurrence :=
      ⟨3, ⟨"className", ['='], "\x7b'x y'\x7d onClick=\x7bf(", "1", ")\x7d", .callArguments⟩⟩
    m ∈ all t ∧ m.found.form = .callArguments ∧ '}' ∈ m.found.callee ∧ '\'' ∈ m.found.callee := by
  decide +kernel

/-- **A quoted text without a brace ends at its own quote exactly if the first one can close it.** -/
theorem plain_quote_ends (hm : m ∈ all t) (hform : m.found.form = .quotedContent)
    (hplain : '{' ∉ m.found.opening) : ∃ blanks quote before after,
      t.drop (m.offset + m.found.lead.length) = before ++ quote :: after ∧
        m.found.EndsPlain blanks quote before after := by
  have hchosen := chosen_of_read? (read?_of_mem_all hm)
  obtain ⟨quote, hfirst⟩ := hchosen.quoted hform
  have hdrop : t.drop (m.offset + m.found.lead.length)
      = ((t.drop m.offset).drop m.found.valueOffset).drop m.found.opening.length := by
    rw [List.drop_drop, List.drop_drop, lead, List.length_append, List.length_append, valueOffset,
      Nat.add_assoc]
  generalize (t.drop m.offset).drop m.found.valueOffset = u at hdrop hfirst
  have hopen : IsQuotedOpening quote m.found.opening := hfirst.opening
  generalize hopening : m.found.opening = opening at hopen hplain
  cases hopen with
  | braced blanks hq hblanks => exact absurd List.mem_cons_self hplain
  | plain blanks hq hblanks =>
    have hmem : quote ∈ u.drop m.found.opening.length := hfirst.quote_mem_drop
    obtain ⟨before, after, hsplit, hbefore⟩ := List.eq_append_cons_of_mem hmem
    exact ⟨blanks, quote, before, after, hdrop.trans hsplit,
      hfirst.endsPlain hopening hblanks hq hsplit hbefore⟩

/-- The opening takes the blank, and a brace closes the text at its first quote. -/
theorem plain_quote_ends_before_brace :
    let t : Text := "\x7b class: 'p q' \x7d"
    let m : Occurrence := ⟨2, ⟨"class", [':'], " '", "p q", "' \x7d", .quotedContent⟩⟩
    m ∈ all t ∧ m.found.form = .quotedContent ∧ '{' ∉ m.found.opening ∧
      ∃ blanks quote before after, t.drop (m.offset + m.found.lead.length) = before ++ quote :: after ∧
        m.found.EndsPlain blanks quote before after := by
  intro t m
  have hm : m ∈ all t := by decide +kernel
  have hplain : '{' ∉ m.found.opening := by decide
  exact ⟨hm, rfl, hplain, plain_quote_ends hm rfl hplain⟩

/-- The opening takes the blank, which does not stand before the first quote but before a later one. -/
theorem quote_in_plain_content :
    let t : Text := "const a = \x7b class: 'p q', id: 'r' \x7d"
    let m : Occurrence := ⟨12, ⟨"class", [':'], " '", "p q', id:", " '", .quotedContent⟩⟩
    m ∈ all t ∧ m.found.form = .quotedContent ∧ '{' ∉ m.found.opening ∧
      '\'' ∈ m.found.opening ∧ '\'' ∈ m.found.inner := by
  decide +kernel

end Occurrence

end AttrFold
