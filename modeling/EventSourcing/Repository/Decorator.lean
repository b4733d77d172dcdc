import EventSourcing.EventStore.Pages

/-!
# Decorators

A decorator changes the events of an aggregate on their way to the store, and
the stream of its history on the way back.  In a stack the first decorator is
the outermost layer: it sees a stored stream first, and events to be stored
last, so that what one layer does on the way in is undone in the right order on
the way out.
-/

namespace EventSourcing

/-- A change of events to be stored and of streams that have been stored.  A
decorator may look ahead in a stream; it tells the marks that this performs. -/
structure Decorator (Payload Note : Type) where
  onAppend : StreamKey → List (DomainEvent Payload) → List (DomainEvent Payload) :=
    fun _ events => events
  onRead : StreamKey → EventStream (ReadMark Note) Payload →
      List (ReadMark Note) × EventStream (ReadMark Note) Payload :=
    fun _ stream => ([], stream)

namespace Decorator

variable {Payload Note : Type}

def inert : Decorator Payload Note := {}

/-- The decorator that adds metadata to the events to be stored; what an event
says itself counts more. -/
def addMetadata (metadata : Metadata) : Decorator Payload Note where
  onAppend _ events := events.map fun event =>
    event.withMetadata (metadata.merge event.metadata)

/-- The events that a stack of decorators gives to the store. -/
def appendAll (decorators : List (Decorator Payload Note)) (key : StreamKey)
    (events : List (DomainEvent Payload)) : List (DomainEvent Payload) :=
  decorators.foldr (fun decorator events => decorator.onAppend key events) events

/-- The stream that a stack of decorators makes of a stored one, with the marks
performed meanwhile. -/
def readAll (key : StreamKey) : List (Decorator Payload Note) →
    EventStream (ReadMark Note) Payload →
      List (ReadMark Note) × EventStream (ReadMark Note) Payload
  | [], stream => ([], stream)
  | decorator :: rest, stream =>
    let (marks, stream) := decorator.onRead key stream
    let (more, stream) := readAll key rest stream
    (marks ++ more, stream)

end Decorator

end EventSourcing
