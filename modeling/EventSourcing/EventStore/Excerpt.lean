import EventSourcing.EventStore.Pages
import EventSourcing.EventStream.Stage

/-!
# Excerpts of histories

A history need not be read to its end.  An excerpt holds the first items that
come out of a pipeline, tells whether there are more, and says how many batches
had been fetched at each point: reading less fetches less.
-/

namespace EventSourcing

/-- The beginning of a history. -/
structure Excerpt (Payload : Type) where
  items : List (StreamItem Payload)
  /-- The number of batches fetched before the first item was taken. -/
  fetchesAtOpening : Nat
  /-- The number of batches fetched when the last item had been taken. -/
  fetchesAtEnd : Nat
  /-- Whether there is another item. -/
  more : Bool

namespace Excerpt

variable {Payload : Type}

def events (excerpt : Excerpt Payload) : List (DomainEvent Payload) :=
  excerpt.items.filterMap Except.toOption

/-- The failures among the items, with their places. -/
def failures (excerpt : Excerpt Payload) : List (Nat × StreamError) :=
  excerpt.items.zipIdx.filterMap fun (item, index) =>
    match item with
    | .ok _ => none
    | .error error => some (index, error)

end Excerpt

namespace EventStream

variable {Payload Note : Type}

/-- Reads all events that come out of a pipeline. -/
def readAll (stream : EventStream (ReadMark Note) Payload) (stages : List (Stage Payload))
    (backend : Backend) : Except StreamError (List (DomainEvent Payload)) × Backend :=
  let (built, stream) := Stage.applyAll stages stream
  let (marks, events) := stream.collect
  (events, backend.settle (built ++ marks))

/-- Reads at most a number of items that come out of a pipeline, and then looks
whether there are more. -/
def excerpt (stream : EventStream (ReadMark Note) Payload) (stages : List (Stage Payload))
    (count : Nat) (backend : Backend) : Excerpt Payload × Backend :=
  let (built, stream) := Stage.applyAll stages stream
  let opened := backend.settle built
  let (marks, items, stream) := stream.take count
  let taken := opened.settle marks
  let (marks, more, _) := stream.hasNext
  ({ items, fetchesAtOpening := opened.fetches, fetchesAtEnd := taken.fetches, more },
    taken.settle marks)

end EventStream

end EventSourcing
