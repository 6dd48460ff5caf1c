import Mathlib.Data.List.Chain
import Mathlib.Data.List.Forall2
import AttrFold.Proofs.Entries
import AttrFold.Watch

/-!
# What a watcher hands on

A watcher is started, stopped and waited for in any order. What such a run comes to is read off the
requests alone: whether the watcher runs in the end (`Request.leaves`), whether it was waited for
while it ran (`waits`), and which of the requests had an effect at all (`effective`).

## The crux

A watcher that has handed on all batches still counts as running, and one that was stopped before it
was waited for has seen none. So a batch is handed on at the first wait that finds the watcher
running, wherever starts and stops stand before it (`pending_run`, `calls_run`), and since nothing
is left then, never again.

* **`Watcher.hands_on_each_batch_once`** — which batches are handed on after any requests and as
  which files, what a call that fails changes, and when the watcher counts as running.
-/

namespace AttrFold

/-- Changes as they are announced: what happened, and at which path. -/
abbrev Announcement := List (ChangeKind × Text)

namespace Announcement

/-- The changes of an announcement, with their paths read. -/
def changes (a : Announcement) : List Change := a.map fun e => ⟨e.1, .ofText e.2⟩

/-- An announcement concerns a file when it is supported and something but its removal is announced. -/
def Concerns (a : Announcement) (p : Path) : Prop :=
  ∃ e ∈ a, e.1 ≠ .deleted ∧ Path.ofText e.2 = p ∧ Language.isSupportedFile p = true

/-- Whether an announcement concerns any file. -/
def isRelevant (a : Announcement) : Bool :=
  a.any fun e => e.1 ≠ .deleted && Language.isSupportedFile (.ofText e.2)

variable {a : Announcement} {p : Path}

/-- An announcement is relevant if it concerns a file. -/
theorem isRelevant_iff : a.isRelevant = true ↔ ∃ p, a.Concerns p := by
  simp only [isRelevant, List.any_eq_true, Bool.and_eq_true, decide_eq_true_eq]
  constructor
  · rintro ⟨e, he, hkind, hsupported⟩
    exact ⟨_, e, he, hkind, rfl, hsupported⟩
  · rintro ⟨p, e, he, hkind, rfl, hsupported⟩
    exact ⟨e, he, hkind, hsupported⟩

/-- An announcement is reported as the files that it concerns. -/
theorem mem_reported_changes : p ∈ Change.reported a.changes ↔ a.Concerns p := by
  simp only [Change.reported, List.mem_eraseDups, List.mem_map, List.mem_filter, changes,
    Change.isReported, Bool.and_eq_true, decide_eq_true_eq]
  constructor
  · rintro ⟨c, ⟨⟨e, he, rfl⟩, hkind, hsupported⟩, rfl⟩
    exact ⟨e, he, hkind, rfl, hsupported⟩
  · rintro ⟨e, he, hkind, rfl, hsupported⟩
    exact ⟨_, ⟨⟨e, he, rfl⟩, hkind, hsupported⟩, rfl⟩

theorem nodup_reported (changes : List Change) : (Change.reported changes).Nodup := nodup_eraseDups _

/-- Nothing is reported of an announcement exactly if it is not relevant. -/
theorem isEmpty_reported_changes : (Change.reported a.changes).isEmpty = !a.isRelevant := by
  rw [Bool.eq_iff_iff, List.isEmpty_iff, List.eq_nil_iff_forall_not_mem, Bool.not_eq_true',
    Bool.eq_false_iff, ne_eq, isRelevant_iff, not_exists]
  exact forall_congr' fun p => not_congr mem_reported_changes

end Announcement

/-- What is asked of a watcher. -/
inductive Request where
  | start
  | stop
  | wait
deriving DecidableEq

namespace Request

/-- Whether a watcher runs after a request, when it is known whether it ran before. -/
def leaves (running : Bool) : Request → Bool
  | start => true
  | stop => false
  | wait => running

/-- The request that makes a watcher run, or makes it run no more. -/
def toward (running : Bool) : Request := if running then start else stop

/-- Whether a watcher is waited for, at any of the requests, while it runs. -/
def waits (running : Bool) : List Request → Bool
  | [] => false
  | r :: rs => (running && r = wait) || waits (r.leaves running) rs

/-- The requests that have an effect: starts of a watcher that does not run, and stops of one that
does. -/
def effective (running : Bool) : List Request → List Request
  | [] => []
  | r :: rs =>
    if r.leaves running = running then effective running rs
    else r :: effective (r.leaves running) rs

variable {running : Bool} {r : Request} {rs : List Request}

/-- A list of requests waits if one of them is to wait at a time when the watcher runs. -/
theorem waits_iff : waits running rs = true ↔
    ∃ before later, rs = before ++ wait :: later ∧ before.foldl leaves running = true := by
  induction rs generalizing running with
  | nil => simp [waits]
  | cons r rs ih =>
    simp only [waits, Bool.or_eq_true, Bool.and_eq_true, decide_eq_true_eq, ih]
    constructor
    · rintro (⟨hrunning, rfl⟩ | ⟨before, later, rfl, hrunning⟩)
      · exact ⟨[], rs, rfl, hrunning⟩
      · exact ⟨r :: before, later, rfl, hrunning⟩
    · rintro ⟨before, later, heq, hrunning⟩
      cases before with
      | nil =>
        obtain ⟨rfl, rfl⟩ := List.cons.inj heq
        exact Or.inl ⟨hrunning, rfl⟩
      | cons r' before =>
        obtain ⟨rfl, rfl⟩ := List.cons.inj heq
        exact Or.inr ⟨before, later, rfl, hrunning⟩

/-- A request with an effect is the one toward what it leaves. -/
theorem eq_toward_leaves (h : r.leaves running ≠ running) : r = toward (r.leaves running) := by
  cases r with
  | start | stop => rfl
  | wait => exact absurd rfl h

theorem ne_wait_of_mem_effective (h : r ∈ effective running rs) : r ≠ wait := by
  induction rs generalizing running with
  | nil => exact absurd h List.not_mem_nil
  | cons r' rs ih =>
    rw [effective] at h
    split at h
    · exact ih h
    · next hleaves =>
      rcases List.mem_cons.mp h with rfl | h
      · exact fun hwait => hleaves (hwait ▸ rfl)
      · exact ih h

theorem toward_ne {a b : Bool} (h : a ≠ b) : toward a ≠ toward b := by
  revert a b
  decide

/-- Requests with an effect alternate, beginning with the one that changes what is at first. -/
theorem isChain_effective (running : Bool) (rs : List Request) :
    (toward running :: effective running rs).IsChain (· ≠ ·) := by
  induction rs generalizing running with
  | nil => exact List.isChain_singleton _
  | cons r rs ih =>
    rw [effective]
    split
    · exact ih running
    · next h =>
      have hr := eq_toward_leaves h
      have hrest := ih (r.leaves running)
      rw [← hr] at hrest
      refine List.IsChain.cons_cons ?_ hrest
      rw [hr]
      exact toward_ne (Ne.symm h)

/-- The last request with an effect tells whether the watcher runs. -/
theorem getLast?_effective (running : Bool) (rs : List Request) :
    (effective running rs).getLast?.getD (toward running) = toward (rs.foldl leaves running) := by
  induction rs generalizing running with
  | nil => rfl
  | cons r rs ih =>
    rw [effective, List.foldl_cons]
    split
    · next h => rw [ih, h]
    · next h =>
      have hrest := ih (r.leaves running)
      rw [← eq_toward_leaves h] at hrest
      rw [List.getLast?_cons, Option.getD_some, hrest]

/-- A watcher that did not run at first runs if the last request with an effect was a start. -/
theorem foldl_leaves_iff :
    rs.foldl leaves false = true ↔ (effective false rs).getLast? = some start := by
  have hlast := getLast?_effective false rs
  generalize (effective false rs).getLast? = last at hlast ⊢
  generalize rs.foldl leaves false = running at hlast ⊢
  cases last with
  | none => cases running <;> simp_all [toward]
  | some r => cases running <;> simp_all [toward]

/-- The first request with an effect starts a watcher that did not run. -/
theorem eq_start_of_head? (h : r ∈ (effective false rs).head?) : r = start := by
  have hne : toward false ≠ r := (List.isChain_cons.mp (isChain_effective false rs)).1 r h
  have hwait := ne_wait_of_mem_effective (List.mem_of_mem_head? h)
  cases r with
  | start => rfl
  | stop => exact absurd rfl hne
  | wait => exact absurd rfl hwait

end Request

/-- The request that an event reports, if it reports that one had an effect. -/
def Event.request? : Event → Option Request
  | .watchStarted _ => some .start
  | .watchStopped _ => some .stop
  | _ => none

namespace Watcher

open Request (leaves toward waits effective)

/-! ## Handing on batches -/

/-- The calls that batches lead to: one for each of them that has files to hand on. -/
def callsOf (batches : List (List Change)) : List (List Path) :=
  (batches.map Change.reported).filter fun files => !files.isEmpty

/-- Delivering batches calls back once for each that reports something, whatever fails. -/
theorem calls_deliver (fails : Nat → Bool) (number : Nat) (batches : List (List Change)) :
    (deliver fails number batches).calls = callsOf batches := by
  induction batches generalizing number with
  | nil => rfl
  | cons batch batches ih =>
    rw [callsOf, List.map_cons]
    cases hempty : (Change.reported batch).isEmpty with
    | true =>
      rw [List.filter_cons_of_neg (by simp [hempty]), deliver, if_pos hempty]
      exact ih number
    | false =>
      rw [List.filter_cons_of_pos (by simp [hempty]), deliver, if_neg (by simp [hempty])]
      exact congrArg (Change.reported batch :: ·) (ih (number + 1))

/-- Delivering batches records no request. -/
theorem request?_deliver (fails : Nat → Bool) (number : Nat) (batches : List (List Change)) :
    (deliver fails number batches).events.filterMap Event.request? = [] := by
  induction batches generalizing number with
  | nil => rfl
  | cons batch batches ih =>
    rw [deliver]
    cases (Change.reported batch).isEmpty with
    | true => exact ih number
    | false =>
      cases hfails : fails number with
      | true => simpa [hfails, Event.request?] using ih (number + 1)
      | false => simpa [hfails, Event.request?] using ih (number + 1)

/-- Each call is made for the batch of an announcement that concerns a file, and with all files that it
concerns. -/
theorem forall₂_callsOf (announced : List Announcement) :
    List.Forall₂ (fun (a : Announcement) files => files.Nodup ∧ ∀ p, p ∈ files ↔ a.Concerns p)
      (announced.filter Announcement.isRelevant) (callsOf (announced.map Announcement.changes)) := by
  have hcalls : callsOf (announced.map Announcement.changes)
      = (announced.filter Announcement.isRelevant).map fun a => Change.reported a.changes := by
    rw [callsOf, List.map_map, List.filter_map]
    refine congrArg _ (List.filter_congr fun a _ => ?_)
    simp only [Function.comp_apply, Announcement.isEmpty_reported_changes, Bool.not_not]
  rw [hcalls, List.forall₂_map_right_iff, List.forall₂_same]
  exact fun a _ => ⟨Announcement.nodup_reported a.changes, fun p => Announcement.mem_reported_changes⟩

/-! ## One request -/

/-- Does what is asked. -/
def answer (fails : Nat → Bool) (w : Watcher) : Request → Watcher × Deliveries
  | .start => w.start
  | .stop => w.stop
  | .wait => w.wait fails

variable {fails : Nat → Bool} {w : Watcher} {r : Request}

/-- After a request the watcher runs as the request leaves it. -/
theorem isRunning_answer : (w.answer fails r).1.isRunning = r.leaves w.isRunning := by
  cases r with
  | start => cases hrunning : w.isRunning <;> simp [answer, start, leaves, hrunning]
  | stop => cases hrunning : w.isRunning <;> simp [answer, stop, leaves, hrunning]
  | wait => cases hrunning : w.isRunning <;> simp [answer, wait, leaves, hrunning]

/-- Only a wait for a watcher that runs takes batches, and it takes all of them. -/
theorem pending_answer : (w.answer fails r).1.pending
    = if w.isRunning && r = .wait then [] else w.pending := by
  cases r with
  | start => cases hrunning : w.isRunning <;> simp [answer, start, hrunning]
  | stop => cases hrunning : w.isRunning <;> simp [answer, stop, hrunning]
  | wait => cases hrunning : w.isRunning <;> simp [answer, wait, hrunning]

/-- Only waiting while running calls back, for all batches that are pending. -/
theorem calls_answer : (w.answer fails r).2.calls
    = if w.isRunning && r = .wait then callsOf w.pending else [] := by
  cases r with
  | start => cases hrunning : w.isRunning <;> simp [answer, start, hrunning]
  | stop => cases hrunning : w.isRunning <;> simp [answer, stop, hrunning]
  | wait => cases hrunning : w.isRunning <;> simp [answer, wait, hrunning, calls_deliver]

/-- A request is reported if it has an effect. -/
theorem request?_answer : (w.answer fails r).2.events.filterMap Event.request?
    = if r.leaves w.isRunning = w.isRunning then [] else [r] := by
  cases r with
  | start => cases hrunning : w.isRunning <;> simp [answer, start, leaves, Event.request?, hrunning]
  | stop => cases hrunning : w.isRunning <;> simp [answer, stop, leaves, Event.request?, hrunning]
  | wait => cases hrunning : w.isRunning <;> simp [answer, wait, leaves, hrunning, request?_deliver]

/-- The number of a call decides whether it fails, but not what the watcher does else. -/
theorem answer_congr (fails fails' : Nat → Bool) : (w.answer fails r).1 = (w.answer fails' r).1 := by
  cases r with
  | start | stop => rfl
  | wait => simp only [answer, wait, calls_deliver]; split <;> rfl

/-! ## Any number of requests -/

/-- The watcher after requests, one after the other, and what it did on the way. -/
def run (fails : Nat → Bool) (w : Watcher) : List Request → Watcher × Deliveries
  | [] => (w, {})
  | r :: rs =>
    let (w, first) := w.answer fails r
    let (w, rest) := w.run fails rs
    (w, ⟨first.calls ++ rest.calls, first.events ++ rest.events⟩)

variable {rs : List Request}

theorem run_cons (fails : Nat → Bool) (w : Watcher) (r : Request) (rs : List Request) :
    w.run fails (r :: rs) = (((w.answer fails r).1.run fails rs).1,
      ⟨(w.answer fails r).2.calls ++ ((w.answer fails r).1.run fails rs).2.calls,
        (w.answer fails r).2.events ++ ((w.answer fails r).1.run fails rs).2.events⟩) := rfl

theorem isRunning_run : (w.run fails rs).1.isRunning = rs.foldl leaves w.isRunning := by
  induction rs generalizing w with
  | nil => rfl
  | cons r rs ih => rw [run_cons, ih, isRunning_answer, List.foldl_cons]

/-- A run that waits leaves no batch pending, and another one leaves them all. -/
theorem pending_run : (w.run fails rs).1.pending
    = if waits w.isRunning rs then [] else w.pending := by
  induction rs generalizing w with
  | nil => rfl
  | cons r rs ih =>
    rw [run_cons, ih, pending_answer, isRunning_answer, waits]
    cases w.isRunning && r = .wait <;> simp

/-- Batches lead to calls once: after a wait that found the watcher running none is left. -/
theorem calls_run : (w.run fails rs).2.calls
    = if waits w.isRunning rs then callsOf w.pending else [] := by
  induction rs generalizing w with
  | nil => rfl
  | cons r rs ih =>
    rw [run_cons, ih, calls_answer, pending_answer, isRunning_answer, waits]
    cases w.isRunning && r = .wait <;> simp [callsOf]

/-- A run records the requests that take effect. -/
theorem request?_run :
    (w.run fails rs).2.events.filterMap Event.request? = effective w.isRunning rs := by
  induction rs generalizing w with
  | nil => rfl
  | cons r rs ih =>
    rw [run_cons, List.filterMap_append, request?_answer, ih, isRunning_answer, effective]
    split
    · next h => rw [h, List.nil_append]
    · rfl

/-- Which calls fail makes no difference to the state of the watcher. -/
theorem run_congr (fails fails' : Nat → Bool) (w : Watcher) (rs : List Request) :
    (w.run fails rs).1 = (w.run fails' rs).1 := by
  induction rs generalizing w with
  | nil => rfl
  | cons r rs ih => rw [run_cons, run_cons, ih, answer_congr fails fails']

/-- **Every batch is handed on once, in order and as the files that it concerns.** None is taken
before the watcher is waited for while it runs, and all of them are then. Calls that fail change
nothing else. The watcher runs if the last request with an effect was a start, and these requests
alternate and are all reported. -/
theorem hands_on_each_batch_once (directory : Path) (announced : List Announcement)
    (fails : Nat → Bool) (requests : List Request) :
    let w : Watcher := { directory, pending := announced.map Announcement.changes }
    let after := (w.run fails requests).1
    let done := (w.run fails requests).2
    let waited := ∃ before later, requests = before ++ .wait :: later ∧
      (w.run fails before).1.isRunning = true
    (∃ taken left, announced = taken ++ left ∧ after.pending = left.map Announcement.changes ∧
      (¬waited → taken = []) ∧ (waited → left = []) ∧
      List.Forall₂ (fun (a : Announcement) files => files.Nodup ∧ ∀ p, p ∈ files ↔ a.Concerns p)
        (taken.filter Announcement.isRelevant) done.calls) ∧
      (∀ fails', (w.run fails' requests).1 = after ∧ (w.run fails' requests).2.calls = done.calls) ∧
      let reported := done.events.filterMap Event.request?
      reported = effective false requests ∧ reported.IsChain (· ≠ ·) ∧
        (∀ r ∈ reported.head?, r = .start) ∧
        (after.isRunning = true ↔ reported.getLast? = some .start) := by
  intro w after done waited
  -- the first request to wait while running hands on all that is pending, and no other does
  have hwaited : waits false requests = true ↔ waited := by
    simp only [Request.waits_iff, waited, isRunning_run, w]
  have hcalls : done.calls = if waits false requests then callsOf w.pending else [] := calls_run
  have hpending : after.pending = if waits false requests then [] else w.pending := pending_run
  refine ⟨?_, fun fails' => ⟨run_congr fails' fails w requests, ?_⟩, ?_⟩
  · cases hwaits : waits false requests with
    | true =>
      rw [hwaits] at hcalls hpending
      refine ⟨announced, [], (List.append_nil _).symm, hpending, fun hnot => ?_, fun _ => rfl, ?_⟩
      · exact absurd (hwaited.mp hwaits) hnot
      · rw [hcalls]
        exact forall₂_callsOf announced
    | false =>
      rw [hwaits] at hcalls hpending
      refine ⟨[], announced, rfl, hpending, fun _ => rfl, fun hwait => ?_, ?_⟩
      · rw [hwaited.mpr hwait] at hwaits
        cases hwaits
      · rw [hcalls]
        exact .nil
  · -- what is handed on does not depend on which calls fail
    exact calls_run.trans hcalls.symm
  · intro reported
    have hreported : reported = effective false requests := request?_run
    have hrunning : after.isRunning = requests.foldl leaves false := isRunning_run
    rw [hreported, hrunning]
    exact ⟨rfl, (Request.isChain_effective false requests).tail, fun r => Request.eq_start_of_head?,
      Request.foldl_leaves_iff⟩

end Watcher

end AttrFold
