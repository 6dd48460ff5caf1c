import Mathlib.Data.List.Induction
import Mathlib.Data.List.Nodup
import AttrFold.Entries

/-!
# Entries with different keys

Every key occurs once in entries that are made by putting (`nodup_keys_put`, `nodup_keys_ofPairs`),
and then a look-up finds what is listed (`mem_iff_get?`), in whatever order the entries are
(`get?_of_perm`). A new key goes to the end (`put_of_not_mem`), so entries that are made of pairs
with different keys are these pairs, in their order (`ofPairs_of_nodup`). Of pairs with any keys the
places of the first ones and the values of the last ones count (`keys_ofPairs`, `get?_ofPairs`).
Entries that are tabulated from their keys are looked up by tabulating (`get?_map_of_mem`), and a
key's value is changed by tabulating anew (`put_map_of_mem`).

Before that, what is left of a list when of each element only the first appearance is kept.
-/

namespace AttrFold

/-! ## First appearances -/

section FirstAppearances

variable {α : Type} [BEq α] [LawfulBEq α] {xs : List α} {x : α}

/-- An element that was there before is not kept again. -/
theorem eraseDups_concat_of_mem (h : x ∈ xs) : (xs ++ [x]).eraseDups = xs.eraseDups := by
  rw [List.eraseDups_append]
  simp [List.removeAll, h]

/-- A new element is kept at the end. -/
theorem eraseDups_concat_of_not_mem (h : x ∉ xs) : (xs ++ [x]).eraseDups = xs.eraseDups ++ [x] := by
  rw [List.eraseDups_append]
  simp [List.removeAll, h, List.eraseDups_cons]

theorem nodup_eraseDups (xs : List α) : xs.eraseDups.Nodup := by
  induction xs using List.reverseRecOn with
  | nil => simp
  | append_singleton xs x ih =>
    by_cases hx : x ∈ xs
    · rw [eraseDups_concat_of_mem hx]
      exact ih
    · rw [eraseDups_concat_of_not_mem hx]
      refine List.nodup_append.mpr ⟨ih, List.nodup_singleton x, fun y hy z hz heq => hx ?_⟩
      rw [List.mem_singleton.mp hz] at heq
      exact List.mem_eraseDups.mp (heq ▸ hy)

/-- Blocks of elements with one key each, and another one for each block, show their keys in the
order of the blocks. -/
theorem eraseDups_map_flatMap {β : Type} {ks : List α} (hnodup : ks.Nodup) {block : α → List β}
    {key : β → α} (hne : ∀ k ∈ ks, block k ≠ []) (hkey : ∀ k ∈ ks, ∀ y ∈ block k, key y = k) :
    ((ks.flatMap block).map key).eraseDups = ks := by
  induction ks with
  | nil => rfl
  | cons k ks ih =>
    obtain ⟨hk, hks⟩ := List.nodup_cons.mp hnodup
    have ih := ih hks (fun l hl => hne l (List.mem_cons_of_mem k hl))
      (fun l hl => hkey l (List.mem_cons_of_mem k hl))
    obtain ⟨y, ys, hblock⟩ := List.exists_cons_of_ne_nil (hne k List.mem_cons_self)
    have hall := hkey k List.mem_cons_self
    rw [hblock] at hall
    have hy : key y = k := hall y List.mem_cons_self
    -- the rest of the first block has the key that was met already, and no later block has it
    have hfirst : (ys.map key).filter (fun l => !l == k) = [] := by
      refine List.filter_eq_nil_iff.mpr fun l hl => ?_
      obtain ⟨z, hz, rfl⟩ := List.mem_map.mp hl
      simp [hall z (List.mem_cons_of_mem y hz)]
    have hlater : ((ks.flatMap block).map key).filter (fun l => !l == k)
        = (ks.flatMap block).map key := by
      refine List.filter_eq_self.mpr fun l hl => ?_
      obtain ⟨z, hz, rfl⟩ := List.mem_map.mp hl
      obtain ⟨m, hm, hz⟩ := List.mem_flatMap.mp hz
      have hne : key z ≠ k := by
        rw [hkey m (List.mem_cons_of_mem k hm) z hz]
        exact fun heq => hk (heq ▸ hm)
      simp [hne]
    rw [List.flatMap_cons, hblock, List.cons_append, List.map_cons, hy, List.eraseDups_cons,
      List.map_append, List.filter_append, hfirst, hlater, List.nil_append, ih]

end FirstAppearances

namespace Entries

variable {κ α : Type} [DecidableEq κ] {es news : Entries κ α}

/-- A new key is put at the end. -/
theorem put_of_not_mem {k : κ} (v : α) (h : k ∉ keys es) : put k v es = es ++ [(k, v)] := by
  induction es with
  | nil => rfl
  | cons e es ih =>
    have hne : e.1 ≠ k := fun heq => h (heq ▸ List.mem_cons_self)
    have hrest : k ∉ keys es := fun hmem => h (List.mem_cons_of_mem _ hmem)
    rw [put, if_neg hne, ih hrest, List.cons_append]

/-- Pairs with new and different keys are added as they are. -/
theorem putAll_of_nodup (hnodup : (keys news).Nodup) (hnew : ∀ k ∈ keys news, k ∉ keys es) :
    putAll news es = es ++ news := by
  induction news generalizing es with
  | nil => exact (List.append_nil es).symm
  | cons e news ih =>
    obtain ⟨hfirst, hrest⟩ := List.nodup_cons.mp hnodup
    have hput := put_of_not_mem e.2 (hnew e.1 List.mem_cons_self)
    -- the first key is among the old ones from now on, and differs from all that follow
    have hkeys : ∀ k ∈ keys news, k ∉ keys (put e.1 e.2 es) := by
      intro k hk hmem
      rw [hput, keys, List.map_append, List.mem_append] at hmem
      rcases hmem with hold | hlast
      · exact hnew k (List.mem_cons_of_mem _ hk) hold
      · obtain rfl : k = e.1 := List.mem_singleton.mp hlast
        exact hfirst hk
    show putAll news (put e.1 e.2 es) = es ++ e :: news
    rw [ih hrest hkeys, hput, List.append_assoc]
    rfl

/-- Pairs with different keys are the entries as they are. -/
theorem ofPairs_of_nodup (hnodup : (keys news).Nodup) : ofPairs news = news :=
  putAll_of_nodup hnodup fun _ _ => List.not_mem_nil

theorem get?_of_not_mem {k : κ} (h : k ∉ keys es) : get? k es = none := by
  induction es with
  | nil => rfl
  | cons e es ih =>
    have hne : e.1 ≠ k := fun heq => h (heq ▸ List.mem_cons_self)
    rw [get?, if_neg hne]
    exact ih fun hmem => h (List.mem_cons_of_mem _ hmem)

/-! ## Keys and members of what is put -/

/-- Putting a value for a key that is there leaves the keys as they are. -/
theorem keys_put_of_mem {k : κ} (v : α) (h : k ∈ keys es) : keys (put k v es) = keys es := by
  induction es with
  | nil => cases h
  | cons e es ih =>
    rw [put]
    by_cases hk : e.1 = k
    · rw [if_pos hk]
      rfl
    · rw [if_neg hk]
      have hrest := ih ((List.mem_cons.mp h).resolve_left fun heq => hk heq.symm)
      exact congrArg (e.1 :: ·) hrest

theorem nodup_keys_put (k : κ) (v : α) (h : (keys es).Nodup) : (keys (put k v es)).Nodup := by
  by_cases hk : k ∈ keys es
  · rw [keys_put_of_mem v hk]
    exact h
  · rw [put_of_not_mem v hk, keys, List.map_append, List.nodup_append]
    refine ⟨h, List.pairwise_singleton _ k, fun l hl m hm heq => hk ?_⟩
    obtain rfl : m = k := List.mem_singleton.mp hm
    exact heq ▸ hl

/-- Putting a value adds no entry but its own. -/
theorem eq_or_mem_of_mem_put {e : κ × α} {k : κ} {v : α} (h : e ∈ put k v es) :
    e = (k, v) ∨ e ∈ es := by
  induction es with
  | nil => exact Or.inl (List.mem_singleton.mp h)
  | cons f es ih =>
    rw [put] at h
    split at h
    · next hk =>
      rcases List.mem_cons.mp h with rfl | h
      · exact Or.inl (congrArg (·, v) hk)
      · exact Or.inr (List.mem_cons_of_mem f h)
    · rcases List.mem_cons.mp h with rfl | h
      · exact Or.inr List.mem_cons_self
      · exact (ih h).imp_right (List.mem_cons_of_mem f)

/-- Of two values for one key the later one counts. -/
theorem put_put (k : κ) (v w : α) (es : Entries κ α) : put k v (put k w es) = put k v es := by
  induction es with
  | nil => exact if_pos rfl
  | cons e es ih =>
    rw [put, put]
    by_cases hk : e.1 = k
    · rw [if_pos hk, put, if_pos hk, if_pos hk]
    · rw [if_neg hk, put, if_neg hk, if_neg hk, ih]

/-- Binding a key to the value that it has changes nothing. -/
theorem put_of_get? {k : κ} {v : α} (h : get? k es = some v) : put k v es = es := by
  induction es with
  | nil => cases h
  | cons e es ih =>
    rw [get?] at h
    rw [put]
    by_cases hk : e.1 = k
    · rw [if_pos hk] at h ⊢
      rw [← Option.some.inj h]
    · rw [if_neg hk] at h ⊢
      rw [ih h]

theorem nodup_keys_putAll (h : (keys es).Nodup) : (keys (putAll news es)).Nodup := by
  induction news generalizing es with
  | nil => exact h
  | cons e news ih => exact ih (nodup_keys_put e.1 e.2 h)

/-- Putting many values adds no entries but these. -/
theorem mem_of_mem_putAll {e : κ × α} (h : e ∈ putAll news es) : e ∈ news ∨ e ∈ es := by
  induction news generalizing es with
  | nil => exact Or.inr h
  | cons f news ih =>
    rcases ih h with h | h
    · exact Or.inl (List.mem_cons_of_mem f h)
    · rcases eq_or_mem_of_mem_put h with rfl | h
      · exact Or.inl List.mem_cons_self
      · exact Or.inr h

theorem nodup_keys_ofPairs : (keys (ofPairs news)).Nodup := nodup_keys_putAll List.nodup_nil

theorem mem_of_mem_ofPairs {e : κ × α} (h : e ∈ ofPairs news) : e ∈ news :=
  (mem_of_mem_putAll h).resolve_right List.not_mem_nil

/-! ## Entries that are made of pairs

Going through the pairs from the end: the last pair either takes the place of its key or goes to the
end. -/

/-- The last pair is put after all others. -/
theorem ofPairs_concat (k : κ) (v : α) : ofPairs (news ++ [(k, v)]) = put k v (ofPairs news) :=
  List.foldl_concat ..

/-- The keys are those of the pairs as they first appear. -/
theorem keys_ofPairs (news : List (κ × α)) : keys (ofPairs news) = (keys news).eraseDups := by
  induction news using List.reverseRecOn with
  | nil => rfl
  | append_singleton news e ih =>
    obtain ⟨k, v⟩ := e
    have hkeys : keys (news ++ [(k, v)]) = keys news ++ [k] := List.map_append
    rw [ofPairs_concat, hkeys]
    by_cases hk : k ∈ keys news
    · have hold : k ∈ keys (ofPairs news) := by
        rw [ih]
        exact List.mem_eraseDups.mpr hk
      rw [keys_put_of_mem v hold, ih, eraseDups_concat_of_mem hk]
    · have hnew : k ∉ keys (ofPairs news) := by
        rw [ih]
        exact fun hmem => hk (List.mem_eraseDups.mp hmem)
      rw [put_of_not_mem v hnew, eraseDups_concat_of_not_mem hk, ← ih]
      exact List.map_append

/-- The value under a key is that of the last pair with it. -/
theorem get?_ofPairs (k : κ) (news : List (κ × α)) :
    get? k (ofPairs news) = (news.filter fun e => e.1 = k).getLast?.map Prod.snd := by
  induction news using List.reverseRecOn with
  | nil => rfl
  | append_singleton news e ih =>
    obtain ⟨l, v⟩ := e
    rw [ofPairs_concat, List.filter_append]
    by_cases hl : l = k
    · subst hl
      rw [get?_put_self, List.filter_cons_of_pos (by simp), List.filter_nil, List.getLast?_concat]
      rfl
    · rw [get?_put_of_ne (Ne.symm hl), List.filter_cons_of_neg (by simpa using hl), List.filter_nil,
        List.append_nil, ih]

/-! ## Look-ups as membership -/

/-- With different keys, the entries are the keys with their values. -/
theorem mem_iff_get? (hnodup : (keys es).Nodup) {k : κ} {v : α} :
    (k, v) ∈ es ↔ get? k es = some v := by
  induction es with
  | nil => simp [get?]
  | cons e es ih =>
    obtain ⟨hfirst, hrest⟩ := List.nodup_cons.mp hnodup
    rw [get?, List.mem_cons]
    by_cases hk : e.1 = k
    · subst hk
      -- the key does not occur a second time
      have hout : (e.1, v) ∉ es := fun h => hfirst (List.mem_map.mpr ⟨_, h, rfl⟩)
      rw [if_pos rfl, Option.some_inj, or_iff_left hout, Prod.ext_iff, and_iff_right rfl, eq_comm]
    · have hne : (k, v) ≠ e := fun heq => hk (heq ▸ rfl)
      rw [if_neg hk, or_iff_right hne, ih hrest]

/-- With different keys, values do not depend on the order of entries. -/
theorem get?_of_perm (hnodup : (keys es).Nodup) (h : es.Perm news) (k : κ) :
    get? k es = get? k news := by
  have hnodup' : (keys news).Nodup := (h.map Prod.fst).nodup_iff.mp hnodup
  refine Option.ext fun v => ?_
  rw [← mem_iff_get? hnodup, ← mem_iff_get? hnodup', h.mem_iff]

/-- A change of all values changes the value of each key. -/
theorem get?_mapValues {β : Type} (f : α → β) (k : κ) (es : Entries κ α) :
    get? k (es.map fun e => (e.1, f e.2)) = (get? k es).map f := by
  induction es with
  | nil => rfl
  | cons e es ih =>
    rw [List.map_cons, get?, get?]
    split
    · rfl
    · exact ih

/-! ## Look-ups after several keys are put -/

/-- A key that is not among the new ones keeps its value. -/
theorem get?_putAll_of_not_mem {k : κ} (h : k ∉ keys news) (es : Entries κ α) :
    get? k (putAll news es) = get? k es := by
  induction news generalizing es with
  | nil => rfl
  | cons e news ih =>
    have hne : k ≠ e.1 := fun heq => h (heq ▸ List.mem_cons_self)
    have hrest : k ∉ keys news := fun hmem => h (List.mem_cons_of_mem _ hmem)
    exact (ih hrest _).trans (get?_put_of_ne hne e.2 es)

/-- A key that is among the new ones has its new value. -/
theorem get?_putAll_of_mem {k : κ} {v : α} (hnodup : (keys news).Nodup) (h : (k, v) ∈ news)
    (es : Entries κ α) : get? k (putAll news es) = some v := by
  induction news generalizing es with
  | nil => cases h
  | cons e news ih =>
    obtain ⟨hfirst, hrest⟩ := List.nodup_cons.mp hnodup
    rcases List.mem_cons.mp h with rfl | h
    · exact (get?_putAll_of_not_mem hfirst _).trans (get?_put_self k v es)
    · exact ih hrest h _

/-- Pairs with different keys may be put in any order. -/
theorem get?_putAll_of_perm {others : Entries κ α} (hnodup : (keys news).Nodup) (h : news.Perm others)
    (es : Entries κ α) (k : κ) : get? k (putAll news es) = get? k (putAll others es) := by
  have hnodup' : (keys others).Nodup := (h.map Prod.fst).nodup_iff.mp hnodup
  by_cases hk : k ∈ keys news
  · obtain ⟨e, he, rfl⟩ := List.mem_map.mp hk
    rw [get?_putAll_of_mem hnodup he, get?_putAll_of_mem hnodup' (h.mem_iff.mp he)]
  · have hk' : k ∉ keys others := fun hmem => hk ((h.map Prod.fst).mem_iff.mpr hmem)
    rw [get?_putAll_of_not_mem hk, get?_putAll_of_not_mem hk']

/-! ## Entries that are tabulated from their keys -/

variable {ks : List κ} {f : κ → α} {k : κ}

omit [DecidableEq κ] in
theorem keys_map : keys (ks.map fun l => (l, f l)) = ks := by
  unfold keys
  rw [List.map_map]
  exact List.map_id ks

/-- Tabulated keys have the values of the function. -/
theorem get?_map_of_mem (h : k ∈ ks) : get? k (ks.map fun l => (l, f l)) = some (f k) := by
  induction ks with
  | nil => cases h
  | cons l ls ih =>
    rw [List.map_cons, get?]
    by_cases hl : l = k
    · rw [if_pos hl, hl]
    · rw [if_neg hl]
      exact ih ((List.mem_cons.mp h).resolve_left fun heq => hl heq.symm)

/-- Putting a value into a table changes the function at its key. -/
theorem put_map_of_mem (hnodup : ks.Nodup) (h : k ∈ ks) (v : α) :
    put k v (ks.map fun l => (l, f l)) = ks.map fun l => (l, if l = k then v else f l) := by
  induction ks with
  | nil => cases h
  | cons l ls ih =>
    obtain ⟨hl, hls⟩ := List.nodup_cons.mp hnodup
    rw [List.map_cons, List.map_cons, put]
    by_cases hk : l = k
    · subst hk
      rw [if_pos rfl, if_pos rfl]
      -- the key does not occur again, so the rest is tabulated as before
      refine congrArg (List.cons _) (List.map_congr_left fun m hm => ?_)
      have hne : m ≠ l := fun heq => hl (heq ▸ hm)
      rw [if_neg hne]
    · rw [if_neg hk, if_neg hk, ih hls ((List.mem_cons.mp h).resolve_left fun heq => hk heq.symm)]

end Entries

end AttrFold
