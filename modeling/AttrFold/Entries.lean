/-!
Entries under keys, in the order in which the keys were first put. Putting a key again changes its
value and keeps its place.
-/

namespace AttrFold

/-- A finite map that remembers the order of its keys. -/
abbrev Entries (κ α : Type) := List (κ × α)

namespace Entries

variable {κ α : Type} [DecidableEq κ]

/-- The value under a key. -/
def get? (k : κ) : Entries κ α → Option α
  | [] => none
  | (l, v) :: es => if l = k then some v else get? k es

/-- Binds a key to a value, in the key's old place or at the end. -/
def put (k : κ) (v : α) : Entries κ α → Entries κ α
  | [] => [(k, v)]
  | (l, w) :: es => if l = k then (l, v) :: es else (l, w) :: put k v es

/-- Removes a key. -/
def erase (k : κ) (es : Entries κ α) : Entries κ α := es.filter fun e => e.1 ≠ k

/-- The keys in their order. -/
def keys (es : Entries κ α) : List κ := es.map Prod.fst

/-- Binds the keys of `news`, one after the other. -/
def putAll (news : List (κ × α)) (es : Entries κ α) : Entries κ α :=
  news.foldl (fun acc e => put e.1 e.2 acc) es

/-- Entries with each key once, from pairs of which a later one counts. -/
def ofPairs (pairs : List (κ × α)) : Entries κ α := putAll pairs []

/-- A key has the value that was put for it. -/
theorem get?_put_self (k : κ) (v : α) (es : Entries κ α) : get? k (put k v es) = some v := by
  induction es with
  | nil => simp [put, get?]
  | cons e es ih => by_cases h : e.1 = k <;> simp [put, get?, h, ih]

/-- Other keys keep their values. -/
theorem get?_put_of_ne {k l : κ} (h : l ≠ k) (v : α) (es : Entries κ α) :
    get? l (put k v es) = get? l es := by
  induction es with
  | nil => simp [put, get?, h.symm]
  | cons e es ih =>
    by_cases hk : e.1 = k
    · have : e.1 ≠ l := fun he => h (he ▸ hk)
      simp [put, get?, hk, h.symm]
    · by_cases hl : e.1 = l <;> simp [put, get?, hk, hl, h, ih]

end Entries

end AttrFold
