import EventSourcing.Aggregate.Configuration

/-!
# Guards of aggregates

A guard keeps the state of one aggregate together with its version, the
sequence number of its last committed event, and the queue of events that were
applied since.  Applied events are numbered behind the queue; committing hands
the queue out once; replaying rebuilds the state from a history, in which a
snapshot replaces everything before it.
-/

namespace EventSourcing

/-- An aggregate with its version and its queue of uncommitted events. -/
structure Guard (Payload State : Type) where
  state : State
  version : Option Nat := none
  uncommitted : List (DomainEvent Payload) := []
  eventsSinceSnapshot : Nat := 0
  markedDeleted : Bool := false
deriving DecidableEq

namespace Guard

variable {Payload : Type} [PayloadFamily Payload] {State : Type}

/-- A guard around an aggregate without history. -/
def ofState (state : State) : Guard Payload State := { state }

/-- The number of the most recent event, committed or not. -/
def lastSequenceNumber? (guard : Guard Payload State) : Option Nat :=
  (guard.uncommitted.getLast?.map DomainEvent.sequenceNumber).or guard.version

/-- The number of the event that is applied next.  There is no overflow, since sequence
numbers stay below `2 ^ 64 - 1`. -/
def nextSequenceNumber (guard : Guard Payload State) : Nat :=
  match guard.lastSequenceNumber? with
  | some last => last + 1
  | none => 0

def markDeleted (guard : Guard Payload State) : Guard Payload State :=
  { guard with markedDeleted := true }

/-- Starts counting events since the last snapshot anew. -/
def resetSnapshotCounter (guard : Guard Payload State) : Guard Payload State :=
  { guard with eventsSinceSnapshot := 0 }

/-- The identifier of the aggregate, if it is assigned. -/
def identifier (configuration : AggregateConfiguration Payload State)
    (guard : Guard Payload State) : Option AggregateId :=
  configuration.identifier guard.state

/-- Whether the aggregate is deleted, by mark or by its own state. -/
def isDeleted (configuration : AggregateConfiguration Payload State)
    (guard : Guard Payload State) : Bool :=
  guard.markedDeleted || configuration.isDeleted guard.state

/-- Applies the first event of an aggregate without identifier.  The event is
handled before it is numbered, and it has to assign the identifier; if it does
not, its effect on the state remains but no event is queued. -/
def applyCreation (configuration : AggregateConfiguration Payload State) (stamp : Stamp)
    (payload : Payload) (metadata : Metadata) (guard : Guard Payload State) :
    Except DomainError Unit × Guard Payload State :=
  if !guard.uncommitted.isEmpty || guard.version.isSome then
    (.error (.incompatible (.eventsWithoutIdentifier configuration.typeIdentifier)), guard)
  else
    let provisional := DomainEvent.ofStamp stamp ⟨""⟩ 0 payload metadata
    let guard := { guard with state := configuration.evolve guard.state provisional }
    match guard.identifier configuration with
    | none =>
      (.error (.incompatible (.unassignedIdentifier configuration.typeIdentifier
        (typeOf payload).simpleName)), guard)
    | some id =>
      (.ok (), { guard with
        uncommitted := guard.uncommitted ++ [{ provisional with aggregateId := id }] })

/-- Applies an event: it is numbered, handled and queued. -/
def apply (configuration : AggregateConfiguration Payload State) (stamp : Stamp)
    (payload : Payload) (metadata : Metadata) (guard : Guard Payload State) :
    Except DomainError Unit × Guard Payload State :=
  match guard.identifier configuration with
  | none => guard.applyCreation configuration stamp payload metadata
  | some id =>
    let event := DomainEvent.ofStamp stamp id guard.nextSequenceNumber payload metadata
    (.ok (), { guard with
      state := configuration.evolve guard.state event
      uncommitted := guard.uncommitted ++ [event] })

/-- Hands out the queued events and advances the version to the last of them. -/
def commit (guard : Guard Payload State) : List (DomainEvent Payload) × Guard Payload State :=
  (guard.uncommitted, { guard with
    version := guard.lastSequenceNumber?
    uncommitted := []
    eventsSinceSnapshot := guard.eventsSinceSnapshot + guard.uncommitted.length })

/-- Takes one event of a history: a snapshot replaces the state and restarts
the count of events, any other event is handled and counted. -/
def replayEvent (configuration : AggregateConfiguration Payload State)
    (guard : Guard Payload State) (event : DomainEvent Payload) : Guard Payload State :=
  match configuration.snapshotKind.project event.payload with
  | some state =>
    { guard with state, eventsSinceSnapshot := 0, version := some event.sequenceNumber }
  | none =>
    { guard with
      state := configuration.evolve guard.state event
      eventsSinceSnapshot := guard.eventsSinceSnapshot + 1
      version := some event.sequenceNumber }

/-- Takes the items of a history up to the first failure. -/
def replayItems (configuration : AggregateConfiguration Payload State) :
    Guard Payload State → List (StreamItem Payload) →
      Except DomainError Unit × Guard Payload State
  | guard, [] => (.ok (), guard)
  | guard, .ok event :: rest =>
    replayItems configuration (guard.replayEvent configuration event) rest
  | guard, .error error :: _ => (.error (.stream error), guard)

/-- Rebuilds the state from a history.  Queued events would be lost, so there
must not be any.  Also tells the marks performed while the history was read. -/
def replay {Mark : Type} (configuration : AggregateConfiguration Payload State)
    (stream : EventStream Mark Payload) (guard : Guard Payload State) :
    Except DomainError Unit × Guard Payload State × List Mark :=
  if guard.uncommitted.isEmpty then
    let (result, guard) := replayItems configuration guard stream.items
    (result, guard, stream.collect.1)
  else
    (.error (.incompatible (.pendingEvents configuration.typeIdentifier guard.uncommitted.length)),
      guard, [])

/-- A snapshot of an aggregate that has a version and an identifier. -/
def snapshot? (configuration : AggregateConfiguration Payload State) (stamp : Stamp)
    (guard : Guard Payload State) : Option (DomainEvent Payload) := do
  let version ← guard.version
  let id ← guard.identifier configuration
  return DomainEvent.ofStamp stamp id version (configuration.snapshotKind.inject guard.state) .empty

end Guard

end EventSourcing
