import AttrFold.Event

/-!
Loading settings from a store. Each setting is read by itself: a value that it does not take is
reported and leaves its default in force, whatever the other settings hold. The values that were read
are then put in force together, which cannot fail, since what a setting takes does not depend on the
other settings (`isSome_withAll?`).
-/

namespace AttrFold

/-- What is known of a settings store while it is read: the value under each key, and the events that
every single look-up causes. A key with the value null counts as absent. -/
structure Source where
  lookup : Text → Option Json
  events : List Event

namespace Source

/-- A source that is read without incident. -/
def ofObject (o : Json.Object) : Source := ⟨fun k => o.get? k, []⟩

/-- The value under a key, unless it is null. -/
def value? (src : Source) (k : Text) : Option Json :=
  match src.lookup k with
  | some .null => none
  | v => v

end Source

namespace Settings

/-- Whether a setting takes a value. -/
def takes (k : Setting) (v : Json) : Bool := (({} : Settings).with? k v).isSome

/-- The settings with several of them changed to values; there are none when one of the values is not
taken. -/
def withAll? (s : Settings) : List (Setting × Json) → Option Settings
  | [] => some s
  | (k, v) :: rest => (s.with? k v).bind fun t => t.withAll? rest

/-- The event that reports a value which a setting does not take. -/
def refusal (k : Setting) (v : Json) : Event :=
  match k, v with
  | .supportedLanguages, .str _ => .settingNotList k.key v
  | _, _ => .settingInvalid k.key v

/-- What is read for one setting: its value, if there is one and the setting takes it, and what is
reported meanwhile. -/
def readOne (src : Source) (k : Setting) : List (Setting × Json) × List Event :=
  match src.value? k.key with
  | none => ([], src.events)
  | some v =>
    if takes k v then ([(k, v)], src.events) else ([], src.events ++ [refusal k v])

/-- What is read for some settings, one after the other. -/
def readEach (src : Source) : List Setting → List (Setting × Json) × List Event
  | [] => ([], [])
  | k :: ks =>
    let (first, events) := readOne src k
    let (rest, more) := readEach src ks
    (first ++ rest, events ++ more)

/-- Which values a setting takes does not depend on the settings in force. -/
theorem isSome_with? (s t : Settings) (k : Setting) (v : Json) :
    (s.with? k v).isSome = (t.with? k v).isSome := by
  cases k <;> cases v <;> first | rfl | simp only [with?, Option.isSome_map]

/-- Values that are taken one by one are taken together. -/
theorem isSome_withAll? {values : List (Setting × Json)} (h : ∀ m ∈ values, takes m.1 m.2 = true)
    (s : Settings) : (s.withAll? values).isSome = true := by
  induction values generalizing s with
  | nil => rfl
  | cons m rest ih =>
    obtain ⟨hfirst, hrest⟩ := List.forall_mem_cons.mp h
    rw [takes, isSome_with? _ s] at hfirst
    obtain ⟨t, ht⟩ := Option.isSome_iff_exists.mp hfirst
    rw [withAll?, ht]
    exact ih hrest t

section Read

variable {src : Source} {m : Setting × Json}

/-- A setting is read with a value that it takes. -/
theorem takes_of_mem_readOne {k : Setting} (hm : m ∈ (readOne src k).1) : takes m.1 m.2 = true := by
  unfold readOne at hm
  split at hm
  · cases hm
  · split at hm
    · next htakes =>
      rw [List.mem_singleton.mp hm]
      exact htakes
    · cases hm

/-- All settings are read with values that they take. -/
theorem takes_of_mem_readEach {ks : List Setting} (hm : m ∈ (readEach src ks).1) :
    takes m.1 m.2 = true := by
  induction ks with
  | nil => cases hm
  | cons k ks ih =>
    rcases List.mem_append.mp hm with hm | hm
    · exact takes_of_mem_readOne hm
    · exact ih hm

end Read

/-- The settings of a source, and what is reported while they are loaded. -/
def load (src : Source) : Settings × List Event :=
  ((({} : Settings).withAll? (readEach src Setting.all).1).get
      (isSome_withAll? (fun _ => takes_of_mem_readEach) _),
    (readEach src Setting.all).2)

/-- A positive whole number. -/
def columnOf? : Json → Option Int
  | .int n => if 0 < n then some n else none
  | _ => none

/-- The column at which the editor of a source wraps lines. -/
def wrapColumn (src : Source) : Option Int × List Event :=
  ((src.lookup Setting.wrapKey).bind columnOf?, src.events)

end Settings

end AttrFold
