import AttrFold.Event
import AttrFold.Language

/-!
Watching a directory. Changes arrive in batches while the watcher is waited for; each batch that
touches supported files is handed on once, as the set of these files. Deleted files are not handed on.
-/

namespace AttrFold

/-- What happened to a file. -/
inductive ChangeKind where
  | added
  | modified
  | deleted
deriving DecidableEq

/-- A change of a file. -/
structure Change where
  kind : ChangeKind
  path : Path
deriving DecidableEq

namespace Change

/-- Whether a change is handed on. -/
def isReported (c : Change) : Bool := c.kind ≠ .deleted && Language.isSupportedFile c.path

/-- The files that a batch of changes hands on, each of them once. -/
def reported (changes : List Change) : List Path :=
  ((changes.filter isReported).map Change.path).eraseDups

end Change

/-- A watcher of a directory, with the batches that are still to come and the number of those that
were handed on. -/
structure Watcher where
  directory : Path
  pending : List (List Change)
  isRunning : Bool := false
  calls : Nat := 0

namespace Watcher

/-- What a watcher does: the files that it hands on, call by call, and what it reports. -/
structure Deliveries where
  calls : List (List Path) := []
  events : List Event := []

/-- Hands on batches, one after the other. A call that fails is reported and the next batch is handed
on all the same. Calls are numbered from `number` on. -/
def deliver (fails : Nat → Bool) (number : Nat) : List (List Change) → Deliveries
  | [] => {}
  | batch :: batches =>
    let files := Change.reported batch
    if files.isEmpty then deliver fails number batches
    else
      let rest := deliver fails (number + 1) batches
      ⟨files :: rest.calls,
        .changesDetected files.length :: (if fails number then [.callbackFailed] else [])
          ++ rest.events⟩

/-- Starts watching; a watcher that is running goes on as before. -/
def start (w : Watcher) : Watcher × Deliveries :=
  if w.isRunning then (w, {})
  else ({ w with isRunning := true }, { events := [.watchStarted w.directory] })

/-- Stops watching; batches that were not waited for stay for a later start. -/
def stop (w : Watcher) : Watcher × Deliveries :=
  if w.isRunning then ({ w with isRunning := false }, { events := [.watchStopped w.directory] })
  else (w, {})

/-- Waits until no more batches come. A watcher that is not running is not waited for. -/
def wait (fails : Nat → Bool) (w : Watcher) : Watcher × Deliveries :=
  if w.isRunning then
    let deliveries := deliver fails w.calls w.pending
    ({ w with pending := [], calls := w.calls + deliveries.calls.length }, deliveries)
  else (w, {})

end Watcher

end AttrFold
