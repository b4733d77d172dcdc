import EventSourcing.Repository.Basic

/-!
# Dispatching commands

A command is aimed at one aggregate.  Its decision is made by a handler, which
looks at the aggregate and applies events to it; what it applies is saved only
if it succeeds and the aggregate is still, or has become, the one that the
command is aimed at.  A command without expectations creates an aggregate that
has no history.
-/

namespace EventSourcing

abbrev CommandHandler (Payload State : Type) :=
  Guard Payload State → Except DomainError Unit × Guard Payload State

/-- A request to change one aggregate. -/
structure Command (Payload State : Type) where
  target : AggregateId
  expected : ExpectedVersion := .any
  handler : CommandHandler Payload State

/-- The outcome of a command: its result, the notes that decorators took, and
store and bus as they are afterwards. -/
structure DispatchOutcome (Payload Note Bus : Type) where
  result : Except DispatchError (List (DomainEvent Payload))
  notes : List Note
  backend : Backend
  bus : Bus

namespace Repository

variable {Payload State Note Bus : Type} [DocumentFamily Payload]

/-- The aggregate that a command is to work on: the loaded one, or a new one if
there is no history and nothing is expected of it. -/
def obtain (repository : Repository Payload State Note Bus) (id : AggregateId)
    (expected : ExpectedVersion) (backend : Backend) :
    Except RepositoryError (Guard Payload State) × List Note × Backend :=
  match repository.load id expected backend with
  | (.error (.aggregateNotFound missing), notes, backend) =>
    if expected = .any then (.ok repository.newAggregate, notes, backend)
    else (.error (.aggregateNotFound missing), notes, backend)
  | loaded => loaded

/-- What is to be done with an aggregate after a command was handled: it has to
be saved, or there is nothing to be done, or it belongs to another command. -/
def checkTarget (repository : Repository Payload State Note Bus) (target : AggregateId)
    (guard : Guard Payload State) : Except DispatchError Bool :=
  match guard.identifier repository.configuration with
  | some id =>
    if id = target then .ok true
    else
      .error (.validation
        ("command for " ++ target.text ++ " produced events for " ++ id.text))
  | none =>
    if guard.uncommitted.isEmpty then .ok false
    else .error (.ofRepository .missingIdentifier)

/-- Carries out a command and tells the events as stored.  The stamp is for a
snapshot. -/
def dispatch (repository : Repository Payload State Note Bus) (stamp : Stamp)
    (command : Command Payload State) (backend : Backend) (bus : Bus) :
    DispatchOutcome Payload Note Bus :=
  match repository.obtain command.target command.expected backend with
  | (.error error, notes, backend) => ⟨.error (.ofRepository error), notes, backend, bus⟩
  | (.ok guard, notes, backend) =>
    match command.handler guard with
    | (.error error, _) => ⟨.error (.ofDomain error), notes, backend, bus⟩
    | (.ok (), guard) =>
      match repository.checkTarget command.target guard with
      | .error error => ⟨.error error, notes, backend, bus⟩
      | .ok false => ⟨.ok [], notes, backend, bus⟩
      | .ok true =>
        match repository.save stamp guard backend bus with
        | (.ok events, _, backend, bus) => ⟨.ok events, notes, backend, bus⟩
        | (.error error, _, backend, bus) => ⟨.error (.ofRepository error), notes, backend, bus⟩

end Repository

end EventSourcing
