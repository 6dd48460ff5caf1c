import Mathlib.Data.List.Forall2
import Mathlib.Data.List.Nodup
import AttrFold.Json.Writer
import AttrFold.Proofs.Entries

/-!
# Values up to the order of members

A settings file is written with the members of every object sorted by their keys, so what is read
from it is a sorted value (`Json.sorted`). Sorting changes nothing that can be looked up: a value
agrees with its sorted one (`agrees_sorted`), and with no value that has another sorted form
(`agrees_iff_sorted_eq`).

## The crux

`sortedObject_congr`: objects in which the same is found under every key have one sorted form.
Writing goes through the sorted form (`indented_sorted`), so a settings file depends on nothing but
its look-ups.
-/

namespace AttrFold

/-! ## The order of texts -/

namespace Text

theorem le_total (s t : Text) : (le s t || le t s) = true := by
  induction s generalizing t with
  | nil => rfl
  | cons c s ih =>
    cases t with
    | nil => rfl
    | cons d t =>
      rw [le, le]
      by_cases hcd : c = d
      · rw [if_pos hcd, if_pos hcd.symm]
        exact ih t
      · have hne : c.toNat ≠ d.toNat := fun h => hcd (Char.toNat_inj.mp h)
        rw [if_neg hcd, if_neg (Ne.symm hcd), Bool.or_eq_true, decide_eq_true_iff, decide_eq_true_iff]
        omega

theorem le_antisymm {s t : Text} (hst : le s t = true) (hts : le t s = true) : s = t := by
  induction s generalizing t with
  | nil =>
    cases t with
    | nil => rfl
    | cons d t => cases hts
  | cons c s ih =>
    cases t with
    | nil => cases hst
    | cons d t =>
      rw [le] at hst hts
      by_cases hcd : c = d
      · rw [if_pos hcd] at hst
        rw [if_pos hcd.symm] at hts
        rw [hcd, ih hst hts]
      · rw [if_neg hcd, decide_eq_true_iff] at hst
        rw [if_neg (Ne.symm hcd), decide_eq_true_iff] at hts
        omega

theorem le_trans {s t u : Text} (hst : le s t = true) (htu : le t u = true) : le s u = true := by
  induction s generalizing t u with
  | nil => rfl
  | cons c s ih =>
    cases t with
    | nil => cases hst
    | cons d t =>
      cases u with
      | nil => cases htu
      | cons e u =>
        rw [le] at hst htu ⊢
        by_cases hcd : c = d
        · subst hcd
          rw [if_pos rfl] at hst
          by_cases hce : c = e
          · rw [if_pos hce] at htu ⊢
            exact ih hst htu
          · rwa [if_neg hce] at htu ⊢
        · rw [if_neg hcd, decide_eq_true_iff] at hst
          by_cases hde : d = e
          · subst hde
            rwa [if_neg hcd, decide_eq_true_iff]
          · rw [if_neg hde, decide_eq_true_iff] at htu
            have hce : c ≠ e := by
              rintro rfl
              omega
            rw [if_neg hce, decide_eq_true_iff]
            omega

end Text

namespace Json

/-! ## Kinds of values -/

/-- No number in the value is a floating-point number. -/
inductive FloatFree : Json → Prop
  | null : FloatFree .null
  | bool (b : Bool) : FloatFree (.bool b)
  | int (n : Int) : FloatFree (.int n)
  | str (t : Text) : FloatFree (.str t)
  | arr {items : List Json} (h : ∀ v ∈ items, FloatFree v) : FloatFree (.arr items)
  | obj {members : Object} (h : ∀ m ∈ members, FloatFree m.2) : FloatFree (.obj members)

/-- Every object in the value has each of its keys once. -/
inductive Distinct : Json → Prop
  | null : Distinct .null
  | bool (b : Bool) : Distinct (.bool b)
  | int (n : Int) : Distinct (.int n)
  | float (x : Binary64) : Distinct (.float x)
  | str (t : Text) : Distinct (.str t)
  | arr {items : List Json} (h : ∀ v ∈ items, Distinct v) : Distinct (.arr items)
  | obj {members : Object} (hkeys : (Entries.keys members).Nodup) (h : ∀ m ∈ members, Distinct m.2) :
      Distinct (.obj members)

/-- The values are equal up to the order of members: in objects the same is found under every key. -/
inductive Agrees : Json → Json → Prop
  | null : Agrees .null .null
  | bool (b : Bool) : Agrees (.bool b) (.bool b)
  | int (n : Int) : Agrees (.int n) (.int n)
  | float (x : Binary64) : Agrees (.float x) (.float x)
  | str (t : Text) : Agrees (.str t) (.str t)
  | arr {vs ws : List Json} (h : List.Forall₂ Agrees vs ws) : Agrees (.arr vs) (.arr ws)
  | obj {ms ns : Object} (h : ∀ k, Option.Rel Agrees (Entries.get? k ms) (Entries.get? k ns)) :
      Agrees (.obj ms) (.obj ns)

theorem FloatFree.empty : FloatFree (.obj []) := .obj fun _ hm => absurd hm List.not_mem_nil

theorem Distinct.empty : Distinct (.obj []) :=
  .obj List.nodup_nil fun _ hm => absurd hm List.not_mem_nil

/-- The members of an object have different keys. -/
theorem Distinct.nodup_keys {members : Object} (h : (Json.obj members).Distinct) :
    (Entries.keys members).Nodup := by
  cases h with
  | obj hkeys _ => exact hkeys

/-- Objects that agree have agreeing values for each key. -/
theorem Agrees.get? {ms ns : Object} (h : Agrees (.obj ms) (.obj ns)) (k : Text) :
    Option.Rel Agrees (Entries.get? k ms) (Entries.get? k ns) := by
  cases h with
  | obj h => exact h k

section Put

variable {members : Object} {k : Text} {v : Json}

theorem FloatFree.put (h : (Json.obj members).FloatFree) (hv : v.FloatFree) :
    (Json.obj (Entries.put k v members)).FloatFree := by
  cases h with
  | obj hmembers =>
    refine .obj fun m hm => ?_
    rcases Entries.eq_or_mem_of_mem_put hm with rfl | hm
    · exact hv
    · exact hmembers m hm

theorem Distinct.put (h : (Json.obj members).Distinct) (hv : v.Distinct) :
    (Json.obj (Entries.put k v members)).Distinct := by
  cases h with
  | obj hkeys hmembers =>
    refine .obj (Entries.nodup_keys_put k v hkeys) fun m hm => ?_
    rcases Entries.eq_or_mem_of_mem_put hm with rfl | hm
    · exact hv
    · exact hmembers m hm

theorem FloatFree.putAll {news : List (Text × Json)} (h : (Json.obj members).FloatFree)
    (hnews : ∀ m ∈ news, m.2.FloatFree) : (Json.obj (Entries.putAll news members)).FloatFree := by
  cases h with
  | obj hmembers => exact .obj fun m hm => (Entries.mem_of_mem_putAll hm).elim (hnews m) (hmembers m)

theorem Distinct.putAll {news : List (Text × Json)} (h : (Json.obj members).Distinct)
    (hnews : ∀ m ∈ news, m.2.Distinct) : (Json.obj (Entries.putAll news members)).Distinct := by
  cases h with
  | obj hkeys hmembers =>
    refine .obj (Entries.nodup_keys_putAll hkeys) fun m hm => ?_
    exact (Entries.mem_of_mem_putAll hm).elim (hnews m) (hmembers m)

end Put

/-! ## Sorted values -/

/-- Members in the order of their keys, whatever they hold. -/
def sortKeys {α : Type} (members : List (Text × α)) : List (Text × α) :=
  members.mergeSort fun a b => Text.le a.1 b.1

mutual

/-- A value with the members of every object in the order of their keys. -/
def sorted : Json → Json
  | .arr items => .arr (sortedItems items)
  | .obj members => .obj (sortKeys (sortedMembers members))
  | .null => .null
  | .bool b => .bool b
  | .int n => .int n
  | .float x => .float x
  | .str t => .str t

/-- The items of an array, each of them sorted. -/
def sortedItems : List Json → List Json
  | [] => []
  | v :: vs => sorted v :: sortedItems vs

/-- The members of an object where they are, each value sorted. -/
def sortedMembers : List (Text × Json) → List (Text × Json)
  | [] => []
  | (k, v) :: ms => (k, sorted v) :: sortedMembers ms

end

/-- The members of a sorted object. -/
def sortedObject (members : Object) : Object := sortKeys (sortedMembers members)

/-- The items of a list are sorted one by one. -/
theorem sortedItems_eq (items : List Json) : sortedItems items = items.map sorted := by
  induction items with
  | nil => rfl
  | cons v vs ih => rw [sortedItems, ih, List.map_cons]

theorem sortedMembers_eq (members : Object) :
    sortedMembers members = members.map fun m => (m.1, sorted m.2) := by
  induction members with
  | nil => rfl
  | cons m ms ih => rw [sortedMembers, ih, List.map_cons]

section SortKeys

variable {α β : Type}

theorem sortKeys_perm (members : List (Text × α)) : (sortKeys members).Perm members :=
  List.mergeSort_perm _ _

theorem pairwise_sortKeys (members : List (Text × α)) :
    (sortKeys members).Pairwise fun a b => Text.le a.1 b.1 = true := by
  apply List.pairwise_mergeSort
  · intro a b c hab hbc
    exact Text.le_trans hab hbc
  · intro a b
    exact Text.le_total a.1 b.1

/-- Sorting by keys twice does nothing more. -/
theorem sortKeys_sortKeys (members : List (Text × α)) :
    sortKeys (sortKeys members) = sortKeys members :=
  List.mergeSort_of_pairwise (pairwise_sortKeys members)

/-- Sorting by keys does not look at values. -/
theorem map_sortKeys (f : α → β) (members : List (Text × α)) :
    (sortKeys members).map (fun m => (m.1, f m.2)) = sortKeys (members.map fun m => (m.1, f m.2)) :=
  List.map_mergeSort fun _ _ _ _ => rfl

end SortKeys

/-- Sorting by keys changes no value of a key. -/
theorem get?_sortKeys {members : Object} (hkeys : (Entries.keys members).Nodup) (k : Text) :
    Entries.get? k (sortKeys members) = Entries.get? k members :=
  (Entries.get?_of_perm hkeys (sortKeys_perm members).symm k).symm

/-- Sorting the values of members keeps their keys. -/
theorem keys_sortedMembers (members : Object) :
    Entries.keys (sortedMembers members) = Entries.keys members := by
  rw [sortedMembers_eq, Entries.keys, List.map_map]
  rfl

/-- The values of a sorted object are the sorted values. -/
theorem get?_sortedObject {members : Object} (hkeys : (Entries.keys members).Nodup) (k : Text) :
    Entries.get? k (sortedObject members) = (Entries.get? k members).map sorted := by
  rw [sortedObject, get?_sortKeys ((keys_sortedMembers members).symm ▸ hkeys), sortedMembers_eq,
    Entries.get?_mapValues]

/-- A sorted object has the keys of the object. -/
theorem keys_sortedObject_perm (members : Object) :
    (Entries.keys (sortedObject members)).Perm (Entries.keys members) := by
  rw [← keys_sortedMembers members]
  exact (sortKeys_perm _).map Prod.fst

/-- Objects in which the same is found under every key have one sorted form. -/
theorem sortedObject_congr {ms ns : Object} (hms : (Entries.keys ms).Nodup)
    (hns : (Entries.keys ns).Nodup)
    (h : ∀ k, (Entries.get? k ms).map sorted = (Entries.get? k ns).map sorted) :
    sortedObject ms = sortedObject ns := by
  have hms' : (Entries.keys (sortedObject ms)).Nodup := (keys_sortedObject_perm ms).nodup_iff.mpr hms
  have hns' : (Entries.keys (sortedObject ns)).Nodup := (keys_sortedObject_perm ns).nodup_iff.mpr hns
  have hmem : ∀ e, e ∈ sortedObject ms ↔ e ∈ sortedObject ns := by
    intro e
    rw [Entries.mem_iff_get? hms', Entries.mem_iff_get? hns', get?_sortedObject hms,
      get?_sortedObject hns, h]
  have hperm : (sortedObject ms).Perm (sortedObject ns) :=
    (List.perm_ext_iff_of_nodup (hms'.of_map Prod.fst) (hns'.of_map Prod.fst)).mpr hmem
  refine List.Perm.eq_of_pairwise (fun a b ha hb hab hba => ?_) (pairwise_sortKeys _)
    (pairwise_sortKeys _) hperm
  -- each key stands before the other, so it is one key, and there is one member with it
  have hkey : a.1 = b.1 := Text.le_antisymm hab hba
  have hfind := (Entries.mem_iff_get? hns').mp ((hmem a).mp ha)
  rw [hkey, (Entries.mem_iff_get? hns').mp hb] at hfind
  exact Prod.ext hkey (Option.some.inj hfind).symm

/-! ## Sorting keeps what a value is -/

section Values

variable {v : Json}

theorem FloatFree.sorted (h : v.FloatFree) : v.sorted.FloatFree := by
  induction h with
  | arr h ih =>
    rw [Json.sorted, sortedItems_eq]
    refine .arr fun w hw => ?_
    obtain ⟨u, hu, rfl⟩ := List.mem_map.mp hw
    exact ih u hu
  | obj h ih =>
    rw [Json.sorted, sortedMembers_eq]
    refine .obj fun m hm => ?_
    obtain ⟨n, hn, rfl⟩ := List.mem_map.mp ((sortKeys_perm _).mem_iff.mp hm)
    exact ih n hn
  | _ => constructor

theorem Distinct.sorted (h : v.Distinct) : v.sorted.Distinct := by
  induction h with
  | arr h ih =>
    rw [Json.sorted, sortedItems_eq]
    refine .arr fun w hw => ?_
    obtain ⟨u, hu, rfl⟩ := List.mem_map.mp hw
    exact ih u hu
  | @obj members hkeys h ih =>
    refine .obj ((keys_sortedObject_perm members).nodup_iff.mpr hkeys) fun m hm => ?_
    rw [sortedMembers_eq] at hm
    obtain ⟨n, hn, rfl⟩ := List.mem_map.mp ((sortKeys_perm _).mem_iff.mp hm)
    exact ih n hn
  | _ => constructor

/-- Sorting twice does nothing more. -/
theorem Distinct.sorted_sorted (h : v.Distinct) : v.sorted.sorted = v.sorted := by
  induction h with
  | @arr items h ih =>
    rw [Json.sorted, Json.sorted, sortedItems_eq, sortedItems_eq, List.map_map]
    exact congrArg Json.arr (List.map_congr_left ih)
  | @obj members hkeys h ih =>
    rw [Json.sorted, Json.sorted, sortedMembers_eq, sortedMembers_eq]
    rw [map_sortKeys, sortKeys_sortKeys, List.map_map]
    refine congrArg Json.obj (congrArg sortKeys (List.map_congr_left fun m hm => ?_))
    exact congrArg (Prod.mk m.1) (ih m hm)
  | _ => rfl

/-- A value agrees with its sorted one. -/
theorem Distinct.agrees_sorted (h : v.Distinct) : v.Agrees v.sorted := by
  induction h with
  | @arr items h ih =>
    rw [Json.sorted, sortedItems_eq]
    refine .arr (List.forall₂_map_right_iff.mpr (List.forall₂_same.mpr ih))
  | @obj members hkeys h ih =>
    refine .obj fun k => ?_
    show Option.Rel Agrees _ (Entries.get? k (sortedObject members))
    rw [get?_sortedObject hkeys]
    cases hfind : Entries.get? k members with
    | none => exact .none
    | some w => exact .some (ih _ ((Entries.mem_iff_get? hkeys).mpr hfind))
  | _ => constructor

/-- What is found in an object agrees with what is found in the sorted one. -/
theorem rel_map_sorted {members : Object} (h : (Json.obj members).Distinct) (k : Text) :
    Option.Rel Agrees (Entries.get? k members) ((Entries.get? k members).map Json.sorted) := by
  have hagrees : Agrees (.obj members) (.obj (sortedObject members)) := h.agrees_sorted
  rw [← get?_sortedObject h.nodup_keys]
  exact hagrees.get? k

end Values

/-! ## Values are told apart by their sorted forms

Up to the order of members, that is: what agrees is exactly what has one sorted form. -/

section Told

variable {α β : Type} {R : α → α → Prop} {f : α → β}

/-- Where a relation is that of having one image, optional values are related if their images are
equal. -/
theorem rel_iff_map_eq {a b : Option α} (h : ∀ x y, a = some x → b = some y → (R x y ↔ f x = f y)) :
    Option.Rel R a b ↔ a.map f = b.map f := by
  cases a with
  | none => cases b <;> simp
  | some x =>
    cases b with
    | none => simp
    | some y => simpa using h x y rfl rfl

/-- Where a relation is that of having one image, lists are related if their images are equal. -/
theorem forall₂_iff_map_eq {xs ys : List α} (h : ∀ x ∈ xs, ∀ y ∈ ys, (R x y ↔ f x = f y)) :
    List.Forall₂ R xs ys ↔ xs.map f = ys.map f := by
  induction xs generalizing ys with
  | nil => cases ys <;> simp
  | cons x xs ih =>
    cases ys with
    | nil => simp
    | cons y ys =>
      have hfirst := h x List.mem_cons_self y List.mem_cons_self
      have hrest := ih fun x' hx' y' hy' =>
        h x' (List.mem_cons_of_mem x hx') y' (List.mem_cons_of_mem y hy')
      rw [List.forall₂_cons, List.map_cons, List.map_cons, List.cons.injEq, hfirst, hrest]

end Told

/-- Sorted objects are equal exactly if they have the same sorted values. -/
theorem sortedObject_eq_iff {ms ns : Object} (hms : (Entries.keys ms).Nodup)
    (hns : (Entries.keys ns).Nodup) : sortedObject ms = sortedObject ns ↔
      ∀ k, (Entries.get? k ms).map sorted = (Entries.get? k ns).map sorted := by
  refine ⟨fun h k => ?_, sortedObject_congr hms hns⟩
  rw [← get?_sortedObject hms, ← get?_sortedObject hns, h]

/-- **Values agree exactly if they have one sorted form.** -/
theorem Distinct.agrees_iff_sorted_eq {v w : Json} (hv : v.Distinct) (hw : w.Distinct) :
    v.Agrees w ↔ v.sorted = w.sorted := by
  induction hv generalizing w with
  | @arr vs hvs ih =>
    cases hw with
    | @arr ws hws =>
      have hagrees : (Json.arr vs).Agrees (.arr ws) ↔ List.Forall₂ Agrees vs ws :=
        ⟨fun h => by cases h with | arr h => exact h, .arr⟩
      rw [hagrees, forall₂_iff_map_eq fun v hv w hw => ih v hv (hws w hw), Json.sorted, Json.sorted,
        sortedItems_eq, sortedItems_eq, Json.arr.injEq]
    | _ => exact ⟨fun h => (nomatch h), fun h => by simp [Json.sorted] at h⟩
  | @obj ms hms h ih =>
    cases hw with
    | @obj ns hns h' =>
      have hagrees : (Json.obj ms).Agrees (.obj ns) ↔
          ∀ k, Option.Rel Agrees (Entries.get? k ms) (Entries.get? k ns) :=
        ⟨Agrees.get?, .obj⟩
      show _ ↔ Json.obj (sortedObject ms) = Json.obj (sortedObject ns)
      rw [hagrees, Json.obj.injEq, sortedObject_eq_iff hms hns]
      refine forall_congr' fun k => rel_iff_map_eq fun v w hv hw => ?_
      exact ih _ ((Entries.mem_iff_get? hms).mpr hv) (h' _ ((Entries.mem_iff_get? hns).mpr hw))
    | _ => exact ⟨fun h => (nomatch h), fun h => by simp [Json.sorted] at h⟩
  | _ =>
    -- a value without parts is its own sorted form
    refine ⟨fun h => ?_, fun h => ?_⟩
    · cases h
      rfl
    · cases hw <;> simp only [Json.sorted, reduceCtorEq, Json.bool.injEq, Json.int.injEq,
        Json.float.injEq, Json.str.injEq] at h
      subst_vars
      constructor

/-! ## Sorting before something is put

It makes no difference to the sorted form. -/

section Put

variable {members : Object}

/-- Sorting an object before a value is put in and sorting it again makes no difference. -/
theorem sortedObject_put_sortedObject (h : (Json.obj members).Distinct) (k : Text) (v : Json) :
    sortedObject (Entries.put k v (sortedObject members)) = sortedObject (Entries.put k v members) := by
  cases h with
  | obj hkeys hmembers =>
    have hkeys' := (keys_sortedObject_perm members).nodup_iff.mpr hkeys
    refine sortedObject_congr (Entries.nodup_keys_put k v hkeys') (Entries.nodup_keys_put k v hkeys)
      fun l => ?_
    by_cases hl : l = k
    · rw [hl, Entries.get?_put_self, Entries.get?_put_self]
    · rw [Entries.get?_put_of_ne hl, Entries.get?_put_of_ne hl, get?_sortedObject hkeys, Option.map_map]
      refine Option.map_congr fun w hw => ?_
      exact (hmembers _ ((Entries.mem_iff_get? hkeys).mpr hw)).sorted_sorted

/-- Sorting an object before many values are put in and sorting it again makes no difference. -/
theorem sortedObject_putAll_sortedObject {news : List (Text × Json)} (hnews : ∀ m ∈ news, m.2.Distinct)
    (h : (Json.obj members).Distinct) :
    sortedObject (Entries.putAll news (sortedObject members))
      = sortedObject (Entries.putAll news members) := by
  induction news generalizing members with
  | nil => exact Json.obj.inj h.sorted_sorted
  | cons m news ih =>
    obtain ⟨hm, hrest⟩ := List.forall_mem_cons.mp hnews
    show sortedObject (Entries.putAll news (Entries.put m.1 m.2 (sortedObject members)))
      = sortedObject (Entries.putAll news (Entries.put m.1 m.2 members))
    have hsorted : (Json.obj (sortedObject members)).Distinct := h.sorted
    rw [← ih hrest (h.put hm), ← sortedObject_put_sortedObject h, ih hrest (hsorted.put hm)]

end Put

/-! ## Writing sorts -/

theorem indentedItems_eq (depth : Nat) (items : List Json) :
    indentedItems depth items = items.map (indented depth) := by
  induction items with
  | nil => rfl
  | cons v vs ih => rw [indentedItems, ih, List.map_cons]

theorem indentedMembers_eq (depth : Nat) (members : Object) :
    indentedMembers depth members = members.map fun m => (m.1, indented depth m.2) := by
  induction members with
  | nil => rfl
  | cons m ms ih => rw [indentedMembers, ih, List.map_cons]

/-- A sorted value is written as the value is. -/
theorem Distinct.indented_sorted {v : Json} (h : v.Distinct) (depth : Nat) :
    indented depth v.sorted = indented depth v := by
  induction h generalizing depth with
  | @arr items h ih =>
    rw [Json.sorted, indented, indented, indentedItems_eq, indentedItems_eq, sortedItems_eq,
      List.map_map]
    exact congrArg _ (List.map_congr_left fun v hv => ih v hv _)
  | @obj members hkeys h ih =>
    have hmembers : sortMembers (indentedMembers (depth + 1) (sortKeys (sortedMembers members)))
        = sortMembers (indentedMembers (depth + 1) members) := by
      rw [indentedMembers_eq, indentedMembers_eq, sortedMembers_eq, map_sortKeys, List.map_map]
      refine Eq.trans (sortKeys_sortKeys _) ?_
      refine congrArg sortKeys (List.map_congr_left fun m hm => ?_)
      exact congrArg (Prod.mk m.1) (ih m hm _)
    rw [Json.sorted, indented, indented, hmembers]
  | _ => rfl

end Json

end AttrFold
