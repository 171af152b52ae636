import TagInventory.Notice
import TagInventory.Tag.View

/-!
# The five views of an inventory

* `snapshot`: the tags at the end of the last completed cycle
* `inProgress`: the tags of the cycle in progress
* `pending`: the tags streamed for the buffer read in flight
* `accumulated`: every tag of the current run
* `occurrences`: every tag since occurrences were last counted anew, with their number

`TagViews.record` takes over one observation; the cycles move tags from `pending` to
`inProgress` and from there to `snapshot`, and `TagViews.difference` compares the two.
-/

namespace TagInventory

/-- Tags that came and went between two cycles. -/
structure Difference where
  added : List String
  removed : List String
  deriving DecidableEq, Repr

namespace Difference

/-- Nothing came and nothing went. -/
def isEmpty (difference : Difference) : Bool :=
  difference.added.isEmpty && difference.removed.isEmpty

end Difference

/-- The views that an inventory keeps. -/
structure TagViews where
  snapshot : View
  inProgress : View
  pending : View
  accumulated : View
  occurrences : View
  deriving DecidableEq

namespace TagViews

def initial : TagViews where
  snapshot := .empty
  inProgress := .empty
  pending := .empty
  accumulated := .empty
  occurrences := .empty

/-- A run starts; a diagnostic one counts occurrences anew. -/
def beginRun (views : TagViews) (countOccurrences : Bool) : TagViews :=
  { views with
    accumulated := .empty
    occurrences := if countOccurrences then .empty else views.occurrences }

def beginCycle (views : TagViews) : TagViews :=
  { views with inProgress := .empty }

/-- The buffer of the reader is about to be streamed. -/
def beginBufferRead (views : TagViews) : TagViews :=
  { views with pending := .empty }

/-- The observation that stands for a tag from now on: the first one since occurrences
were counted anew, with the number of times that the tag was seen. -/
def observed (views : TagViews) (read : TagRead) : TagRead :=
  match views.occurrences.find? read.key with
  | some known => { known with seen := known.seen + 1 }
  | none => { read with seen := 1 }

def record (views : TagViews) (read : TagRead) : TagViews :=
  let tag := views.observed read
  { views with
    occurrences := views.occurrences.insert read.key tag
    accumulated := views.accumulated.insert read.key tag
    pending := views.pending.insert read.key tag }

/-- The buffer read in flight becomes part of the cycle in progress. -/
def absorb (views : TagViews) : TagViews :=
  { views with
    inProgress := views.inProgress.merge views.pending
    pending := .empty }

/-- The cycle in progress becomes the snapshot. -/
def commit (views : TagViews) : TagViews :=
  { views with snapshot := views.inProgress }

/-- What the cycle in progress changes in the snapshot. -/
def difference (views : TagViews) : Difference where
  added := views.inProgress.keys.filter fun key => !views.snapshot.contains key
  removed := views.snapshot.keys.filter fun key => !views.inProgress.contains key

/-- The number of tags of the buffer read in flight. -/
def received (views : TagViews) : Nat :=
  views.pending.size

end TagViews

/-! ### Operations as data -/

/-- Something done to the views. -/
inductive TagOperation
  | beginRun (countOccurrences : Bool)
  | beginCycle
  | beginBufferRead
  | record (read : TagRead)
  | absorb
  | commit
  deriving DecidableEq, Repr

namespace TagViews

def after (views : TagViews) : TagOperation → TagViews
  | .beginRun countOccurrences => views.beginRun countOccurrences
  | .beginCycle => views.beginCycle
  | .beginBufferRead => views.beginBufferRead
  | .record read => views.record read
  | .absorb => views.absorb
  | .commit => views.commit

/-- The views after a history of operations. -/
def afterAll (views : TagViews) (history : List TagOperation) : TagViews :=
  history.foldl after views

def noticesOf (views : TagViews) : TagOperation → List Notice
  | .beginRun countOccurrences =>
    .accumulatedCleared views.accumulated.size ::
      if countOccurrences then [.occurrencesCleared views.occurrences.size] else []
  | .record read =>
    [.tagRecorded (views.pending.size + 1) read.key (views.observed read).seen]
  | .commit => [.snapshotSaved views.inProgress.size]
  | .beginCycle | .beginBufferRead | .absorb => []

/-- What a comparison adds to the log. -/
def differenceNotices (views : TagViews) : List Notice :=
  let difference := views.difference
  .cyclesCompared views.snapshot.size views.inProgress.size ::
    ((if difference.added.isEmpty then [] else [.tagsAdded difference.added]) ++
      if difference.removed.isEmpty then [] else [.tagsRemoved difference.removed])

@[simp] theorem afterAll_nil (views : TagViews) : views.afterAll [] = views := rfl

@[simp] theorem afterAll_cons (views : TagViews) (operation : TagOperation)
    (history : List TagOperation) :
    views.afterAll (operation :: history) = (views.after operation).afterAll history := rfl

theorem afterAll_append (views : TagViews) (first second : List TagOperation) :
    views.afterAll (first ++ second) = (views.afterAll first).afterAll second := by
  simp [afterAll]

end TagViews

end TagInventory
