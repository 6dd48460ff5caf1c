import AttrFold.Proofs.Json.Spelling
import AttrFold.Proofs.Text.Words

/-!
# Written values are read back

A value without floating-point numbers that is written over several lines is read back with its members
sorted (`Distinct.read?_indented`); one that is written on a single line is read back as it is
(`Distinct.read?_compact`).
-/

namespace AttrFold.Json

/-! ## Writing spells -/

theorem isGap_nil : IsGap [] := fun _ h => absurd h List.not_mem_nil

theorem isGap_space : IsGap [' '] := by
  intro c hc
  exact Or.inl (List.mem_singleton.mp hc)

/-- A line feed and its indent are a gap. -/
theorem isGap_newLine (depth : Nat) : IsGap (newLine depth) := by
  intro c hc
  rcases List.mem_cons.mp hc with rfl | hc
  · exact Or.inr rfl
  · exact Or.inl (List.eq_of_mem_replicate hc)

/-- A block of spelled items spells their array. -/
theorem spells_block_arr {items : List (Text × Json)} (depth : Nat) (h : ∀ i ∈ items, Spells i.1 i.2) :
    Spells (block "[" "]" depth (items.map Prod.fst)) (.arr (items.map Prod.snd)) := by
  cases items with
  | nil => exact Spells.arr isGap_nil isGap_nil isGap_nil h
  | cons i items =>
    exact Spells.arr (isGap_newLine (depth + 1)) (isGap_newLine (depth + 1)) (isGap_newLine depth) h

/-- A block of keys and spelled values spells their object. -/
theorem spells_block_obj {members : List (Text × Text × Json)} (depth : Nat)
    (h : ∀ m ∈ members, Spells m.2.1 m.2.2) :
    Spells (block "\x7b" "\x7d" depth (members.map fun m => stringText m.1 ++ ": " ++ m.2.1))
      (.obj (Entries.ofPairs (members.map fun m => (m.1, m.2.2)))) := by
  have hlines : (members.map fun m => stringText m.1 ++ ": ".toList ++ m.2.1)
      = members.map fun m => memberText [' '] m.1 m.2.1 := by
    refine List.map_congr_left fun m _ => ?_
    simp [memberText]
  rw [hlines]
  cases members with
  | nil => exact Spells.obj isGap_nil isGap_nil isGap_space isGap_nil h
  | cons m members =>
    exact Spells.obj (isGap_newLine (depth + 1)) (isGap_newLine (depth + 1)) isGap_space
      (isGap_newLine depth) h

/-- **A value over several lines spells the sorted value.** -/
theorem Distinct.spells_indented {v : Json} (h : v.Distinct) (hfree : v.FloatFree) (depth : Nat) :
    Spells (indented depth v) v.sorted := by
  induction h generalizing depth with
  | null => exact .null
  | bool b => exact .bool b
  | int n => exact .int n
  | float x => cases hfree
  | str t => exact .str t
  | @arr items h ih =>
    cases hfree with
    | arr hfree =>
      let spelled := items.map fun v => (indented (depth + 1) v, v.sorted)
      have hspelled : ∀ i ∈ spelled, Spells i.1 i.2 := by
        intro i hi
        obtain ⟨v, hv, rfl⟩ := List.mem_map.mp hi
        exact ih v hv (hfree v hv) (depth + 1)
      have htexts : spelled.map Prod.fst = indentedItems (depth + 1) items := by
        rw [indentedItems_eq, List.map_map]
        rfl
      have hvalues : spelled.map Prod.snd = sortedItems items := by
        rw [sortedItems_eq, List.map_map]
        rfl
      rw [indented, Json.sorted, ← htexts, ← hvalues]
      exact spells_block_arr depth hspelled
  | @obj members hkeys h ih =>
    cases hfree with
    | obj hfree =>
      -- texts and values go through one sort by the keys
      let spelled := sortKeys (members.map fun m => (m.1, indented (depth + 1) m.2, m.2.sorted))
      have hspelled : ∀ m ∈ spelled, Spells m.2.1 m.2.2 := by
        intro m hm
        obtain ⟨n, hn, rfl⟩ := List.mem_map.mp ((sortKeys_perm _).mem_iff.mp hm)
        exact ih n hn (hfree n hn) (depth + 1)
      have htexts : spelled.map (fun m => (m.1, m.2.1))
          = sortMembers (indentedMembers (depth + 1) members) := by
        rw [indentedMembers_eq, map_sortKeys, List.map_map]
        rfl
      have hvalues : spelled.map (fun m => (m.1, m.2.2)) = sortedObject members := by
        rw [sortedObject, sortedMembers_eq, map_sortKeys, List.map_map]
        rfl
      have hnodup := (keys_sortedObject_perm members).nodup_iff.mpr hkeys
      have hblock := spells_block_obj depth hspelled
      rw [hvalues, Entries.ofPairs_of_nodup hnodup] at hblock
      rw [indented, Json.sorted, ← htexts, List.map_map]
      exact hblock

theorem inlineItems_eq (s : Spelling) (items : List Json) :
    inlineItems s items = items.map (inline s) := by
  induction items with
  | nil => rfl
  | cons v vs ih => rw [inlineItems, ih, List.map_cons]

theorem inlineMembers_eq (s : Spelling) (members : Object) :
    inlineMembers s members = members.map fun m => s.string m.1 ++ ": ".toList ++ inline s m.2 := by
  induction members with
  | nil => rfl
  | cons m ms ih => rw [inlineMembers, ih, List.map_cons]

/-- **A value on one line spells the value as it is.** -/
theorem Distinct.spells_compact {v : Json} (h : v.Distinct) (hfree : v.FloatFree) :
    Spells v.compact v := by
  induction h with
  | null => exact .null
  | bool b => exact .bool b
  | int n => exact .int n
  | float x => cases hfree
  | str t => exact .str t
  | @arr items h ih =>
    cases hfree with
    | arr hfree =>
      -- each item with its text, so that texts and values are two views of one list
      let spelled := items.map fun v => (v.compact, v)
      have hspelled : ∀ i ∈ spelled, Spells i.1 i.2 :=
        List.forall_mem_map.mpr fun v hv => ih v hv (hfree v hv)
      have htexts : spelled.map Prod.fst = inlineItems .json items := by
        rw [inlineItems_eq, List.map_map]
        rfl
      have hvalues : spelled.map Prod.snd = items := by
        rw [List.map_map]
        exact List.map_id items
      have hspells := Spells.arr isGap_nil isGap_space isGap_nil hspelled
      rw [htexts, hvalues, List.append_nil] at hspells
      exact hspells
  | @obj members hkeys h ih =>
    cases hfree with
    | obj hfree =>
      let spelled := members.map fun m => (m.1, m.2.compact, m.2)
      have hspelled : ∀ m ∈ spelled, Spells m.2.1 m.2.2 :=
        List.forall_mem_map.mpr fun m hm => ih m hm (hfree m hm)
      have htexts : spelled.map (fun m => memberText [' '] m.1 m.2.1)
          = inlineMembers .json members := by
        rw [inlineMembers_eq, List.map_map]
        exact List.map_congr_left fun m _ => by simp [memberText, Spelling.json, compact]
      have hvalues : Entries.ofPairs (spelled.map fun m => (m.1, m.2.2)) = members := by
        rw [List.map_map]
        -- reading puts members one by one, which changes nothing as their keys differ
        exact (congrArg _ (List.map_id members)).trans (Entries.ofPairs_of_nodup hkeys)
      have hspells := Spells.obj isGap_nil isGap_space isGap_space isGap_nil hspelled
      rw [htexts, hvalues, List.append_nil] at hspells
      exact hspells

/-! ## Spellings hold no carriage returns

So they are unchanged when the ends of lines are unified. -/

theorem return_not_mem_gap {gap : Text} (h : IsGap gap) : '\r' ∉ gap := by
  intro hmem
  rcases h '\r' hmem with heq | heq <;> exact absurd heq (by decide)

theorem return_not_mem_ofInt (n : Int) : '\r' ∉ Text.ofInt n := by
  intro hmem
  cases n with
  | ofNat n => exact absurd (Text.isDigit_of_mem_ofNat hmem) (by decide)
  | negSucc n =>
    rcases List.mem_cons.mp hmem with heq | hmem
    · exact absurd heq (by decide)
    · exact absurd (Text.isDigit_of_mem_ofNat hmem) (by decide)

/-- A character is written without a return; a return is escaped. -/
theorem return_not_mem_escapeChar (c : Char) : '\r' ∉ escapeChar c := by
  intro hmem
  rcases escapeChar_cases c with ⟨e, -, hcode, -, hc⟩ | ⟨-, -, hmin, -, hc⟩ | hc
  · rw [hc, List.mem_cons, List.mem_singleton] at hmem
    rcases hmem with heq | rfl
    · exact absurd heq (by decide)
    · cases hcode
  · rw [hc, List.mem_singleton] at hmem
    rw [← hmem] at hmin
    exact absurd hmin (by decide)
  · rw [hc] at hmem
    obtain ⟨n, hn, hmem⟩ := List.mem_flatMap.mp hmem
    rw [codeEscape, Text.hex_four (lt_of_mem_codesOf hn)] at hmem
    simp [eq_comm (a := '\r'), Nat.digitChar_ne] at hmem

/-- A string is written without a return. -/
theorem return_not_mem_stringText (t : Text) : '\r' ∉ stringText t := by
  intro hmem
  simp only [stringText, List.cons_append, List.mem_cons, List.mem_append, List.not_mem_nil,
    or_false] at hmem
  rcases hmem with heq | hmem | heq
  · exact absurd heq (by decide)
  · obtain ⟨c, -, hmem⟩ := List.mem_flatMap.mp hmem
    exact return_not_mem_escapeChar c hmem
  · exact absurd heq (by decide)

/-- Texts without returns are joined to one without returns. -/
theorem return_not_mem_joinWith {between : Text} (h : IsGap between) {texts : List Text}
    (htexts : ∀ t ∈ texts, '\r' ∉ t) : '\r' ∉ Text.joinWith (',' :: between) texts := by
  intro hmem
  rcases Text.mem_joinWith hmem with hmem | ⟨t, ht, hmem⟩
  · rcases List.mem_cons.mp hmem with heq | hmem
    · exact absurd heq (by decide)
    · exact return_not_mem_gap h hmem
  · exact htexts t ht hmem

/-- No spelling has a return. -/
theorem Spells.return_not_mem {t : Text} {v : Json} (h : Spells t v) : '\r' ∉ t := by
  induction h with
  | null => decide
  | bool b => cases b <;> decide
  | int n => exact return_not_mem_ofInt n
  | str t => exact return_not_mem_stringText t
  | arr hopening hbetween hclosing h ih =>
    have hitems := return_not_mem_joinWith hbetween (List.forall_mem_map.mpr ih)
    simp [hitems, return_not_mem_gap hopening, return_not_mem_gap hclosing]
  | @obj members opening between space closing hopening hbetween hspace hclosing h ih =>
    have htexts : ∀ t ∈ members.map fun m => memberText space m.1 m.2.1, '\r' ∉ t := by
      intro t ht
      obtain ⟨m, hm, rfl⟩ := List.mem_map.mp ht
      simp [memberText, return_not_mem_stringText, return_not_mem_gap hspace, ih m hm]
    have hmembers := return_not_mem_joinWith hbetween htexts
    simp [hmembers, return_not_mem_gap hopening, return_not_mem_gap hclosing]

/-- A value that is written over several lines is read back sorted. -/
theorem Distinct.read?_indented {v : Json} (h : v.Distinct) (hfree : v.FloatFree) :
    read? (indented 0 v ++ ['\n']) = some v.sorted :=
  (h.spells_indented hfree 0).read? fun _ hc => Or.inr (List.mem_singleton.mp hc)

/-- A value that is written on one line is read back as it is. -/
theorem Distinct.read?_compact {v : Json} (h : v.Distinct) (hfree : v.FloatFree) :
    read? v.compact = some v := by
  have hread := (h.spells_compact hfree).read? isGap_nil
  rwa [List.append_nil] at hread

end AttrFold.Json
