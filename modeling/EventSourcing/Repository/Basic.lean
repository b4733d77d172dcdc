import EventSourcing.Aggregate.Guard
import EventSourcing.EventBus
import EventSourcing.EventStore.Basic
import EventSourcing.Repository.Decorator
import EventSourcing.Repository.Error

/-!
# Repositories

A repository loads an aggregate by replaying its history, through the
decorators, into a fresh one, and saves it by storing the events in its queue,
through the decorators.  Only when the events are stored does it commit the
queue, store a snapshot if one is due, and publish the events.  A snapshot that
cannot be stored is of no consequence.  A failure of the publication is
reported, but the events remain stored and the queue committed.
-/

namespace EventSourcing

/-- When a snapshot is due. -/
inductive SnapshotTrigger where
  | never
  /-- When there are so many events since the last snapshot, but at least one. -/
  | eventCount (threshold : Nat)
deriving DecidableEq, Inhabited

def SnapshotTrigger.isDue : SnapshotTrigger → Nat → Bool
  | .never, _ => false
  | .eventCount threshold, count => max threshold 1 ≤ count

/-- A place to publish events, with a state of its own. -/
structure Publisher (Payload Bus : Type) where
  publish : List (Event Payload) → Bus → Except EventBusError Unit × Bus

namespace Publisher

variable {Payload Bus : Type}

/-- The publisher that fails in the same way each time. -/
def failing (error : EventBusError) : Publisher Payload Bus where
  publish _ bus := (.error error, bus)

/-- Publishes on an event bus and keeps a record of what happens. -/
def recorded : Publisher Payload (EventBus Payload × List (Occurrence Payload)) where
  publish events state :=
    let (occurrences, bus) := state.1.publish events
    (.ok (), (bus, state.2 ++ occurrences))

end Publisher

/-- How aggregates of one type are loaded and saved. -/
structure Repository (Payload State Note Bus : Type) [PayloadFamily Payload] where
  store : EventStore Payload
  configuration : AggregateConfiguration Payload State
  /-- The aggregate without any history. -/
  fresh : State
  decorators : List (Decorator Payload Note) := []
  trigger : SnapshotTrigger := .never
  publisher : Option (Publisher Payload Bus) := none

namespace Repository

variable {Payload State Note Bus : Type} [DocumentFamily Payload]

def typeIdentifier (repository : Repository Payload State Note Bus) : String :=
  repository.configuration.typeIdentifier

def streamKey (repository : Repository Payload State Note Bus) (id : AggregateId) : StreamKey :=
  ⟨repository.typeIdentifier, id⟩

/-- A guard around an aggregate without history. -/
def newAggregate (repository : Repository Payload State Note Bus) : Guard Payload State :=
  .ofState repository.fresh

/-! ## Loading -/

/-- Replays a stored stream into a new aggregate.  Also tells the marks
performed on the way. -/
def rebuild (repository : Repository Payload State Note Bus) (key : StreamKey)
    (stream : EventStream (ReadMark Note) Payload) :
    Except DomainError Unit × Guard Payload State × List (ReadMark Note) :=
  let (marks, stream) := Decorator.readAll key repository.decorators stream
  let (result, guard, more) := repository.newAggregate.replay repository.configuration stream
  (result, guard, marks ++ more)

/-- Accepts a loaded aggregate that is not deleted and is at the expected
version. -/
def accept (repository : Repository Payload State Note Bus) (id : AggregateId)
    (expected : ExpectedVersion) (guard : Guard Payload State) :
    Except RepositoryError (Guard Payload State) :=
  if guard.isDeleted repository.configuration then .error (.aggregateDeleted id)
  else if expected.isMetBy guard.version then .ok guard
  else .error (.conflictingVersion id expected guard.version)

/-- Loads an aggregate.  Also tells the notes that decorators took. -/
def load (repository : Repository Payload State Note Bus) (id : AggregateId)
    (expected : ExpectedVersion) (backend : Backend) :
    Except RepositoryError (Guard Payload State) × List Note × Backend :=
  let key := repository.streamKey id
  match repository.store.read key backend with
  | (.error (.streamNotFound _), backend) => (.error (.aggregateNotFound id), [], backend)
  | (.error error, backend) => (.error (.store error), [], backend)
  | (.ok stream, backend) =>
    let (result, guard, marks) := repository.rebuild key stream
    let backend := backend.settle marks
    match result with
    | .error error => (.error (.domain error), ReadMark.notes marks, backend)
    | .ok () => (repository.accept id expected guard, ReadMark.notes marks, backend)

/-! ## Saving -/

/-- Stores the queue of a guard, through the decorators, and commits it.  Tells
the events as stored. -/
def write (repository : Repository Payload State Note Bus) (id : AggregateId)
    (guard : Guard Payload State) (backend : Backend) :
    Except RepositoryError (List (DomainEvent Payload)) × Guard Payload State × Backend :=
  let events :=
    Decorator.appendAll repository.decorators (repository.streamKey id) guard.uncommitted
  match repository.store.append repository.typeIdentifier events backend with
  | (.error error, backend) => (.error (.store error), guard, backend)
  | (.ok (), backend) => (.ok events, guard.commit.2, backend)

/-- Stores a snapshot if one is due; if it is stored, events are counted anew. -/
def snapshotIfDue (repository : Repository Payload State Note Bus) (stamp : Stamp)
    (guard : Guard Payload State) (backend : Backend) : Guard Payload State × Backend :=
  if repository.trigger.isDue guard.eventsSinceSnapshot then
    match guard.snapshot? repository.configuration stamp with
    | none => (guard, backend)
    | some snapshot =>
      match repository.store.appendSnapshot repository.typeIdentifier snapshot backend with
      | (.ok (), backend) => (guard.resetSnapshotCounter, backend)
      | (.error _, backend) => (guard, backend)
  else (guard, backend)

/-- Publishes stored events, if there is a publisher. -/
def publish (repository : Repository Payload State Note Bus)
    (events : List (DomainEvent Payload)) (bus : Bus) : Except RepositoryError Unit × Bus :=
  match repository.publisher with
  | none => (.ok (), bus)
  | some publisher =>
    match publisher.publish (events.map .domain) bus with
    | (.ok (), bus) => (.ok (), bus)
    | (.error error, bus) => (.error (.publish error), bus)

/-- Saves an aggregate and tells the events as stored.  The stamp is for a
snapshot. -/
def save (repository : Repository Payload State Note Bus) (stamp : Stamp)
    (guard : Guard Payload State) (backend : Backend) (bus : Bus) :
    Except RepositoryError (List (DomainEvent Payload)) × Guard Payload State × Backend × Bus :=
  if guard.uncommitted.isEmpty then (.ok [], guard, backend, bus)
  else
    match guard.identifier repository.configuration with
    | none => (.error .missingIdentifier, guard, backend, bus)
    | some id =>
      match repository.write id guard backend with
      | (.error error, guard, backend) => (.error error, guard, backend, bus)
      | (.ok events, guard, backend) =>
        let (guard, backend) := repository.snapshotIfDue stamp guard backend
        match repository.publish events bus with
        | (.ok (), bus) => (.ok events, guard, backend, bus)
        | (.error error, bus) => (.error error, guard, backend, bus)

end Repository

end EventSourcing
