import EventSourcing.Repository.Decorator
import EventSourcing.Payload

/-!
# Decorators that can be undone

A decorator is reversible if it restores, when a history is read, the batches that it was
given to store, and leaves every event its place (`Decorator.Reversible`).  Nobody passes
a snapshot to a decorator to be stored, yet every decorator is given the latest one in
front of a history.  Only a decorator that lets it through
(`Decorator.PassesSnapshots`) restores a history behind a snapshot.  Stacks of
decorators do what each of them does.
-/

namespace EventSourcing

/-- What tells an event apart: its identity, its aggregate and its number. -/
def DomainEvent.place {Payload : Type} (event : DomainEvent Payload) :
    EventId × AggregateId × Nat :=
  (event.id, event.aggregateId, event.sequenceNumber)

namespace Decorator

variable {Payload State Note : Type}

/-- Whatever batches have been stored, they are read back as they were before. -/
structure Reversible (decorator : Decorator Payload Note) : Prop where
  restores (key : StreamKey) (batches : List (List (DomainEvent Payload)))
    (stream : EventStream (ReadMark Note) Payload)
    (stored : stream.items = (batches.flatMap (decorator.onAppend key)).map .ok) :
    (decorator.onRead key stream).2.items = batches.flatten.map .ok
  keepsPlaces (key : StreamKey) (events : List (DomainEvent Payload)) :
    (decorator.onAppend key events).map DomainEvent.place = events.map DomainEvent.place

/-- A snapshot in front of stored batches comes through with its state and number, and
does not keep the batches from being read back. -/
def PassesSnapshots [PayloadFamily Payload] (kind : PayloadKind Payload State)
    (decorator : Decorator Payload Note) : Prop :=
  ∀ (key : StreamKey) (snapshot : DomainEvent Payload) (state : State)
    (batches : List (List (DomainEvent Payload))) (stream : EventStream (ReadMark Note) Payload),
    snapshot.payload = kind.inject state →
      stream.items = (snapshot :: batches.flatMap (decorator.onAppend key)).map .ok →
        ∃ passed : DomainEvent Payload, passed.payload = snapshot.payload ∧
          passed.sequenceNumber = snapshot.sequenceNumber ∧
          (decorator.onRead key stream).2.items = (passed :: batches.flatten).map .ok

variable {decorators : List (Decorator Payload Note)} {key : StreamKey}
  {batches : List (List (DomainEvent Payload))} {stream : EventStream (ReadMark Note) Payload}

/-- The outermost decorator stores batches that the others have made. -/
theorem flatMap_appendAll_cons (decorator : Decorator Payload Note)
    (rest : List (Decorator Payload Note)) (key : StreamKey)
    (batches : List (List (DomainEvent Payload))) :
    batches.flatMap (appendAll (decorator :: rest) key) =
      (batches.map (appendAll rest key)).flatMap (decorator.onAppend key) := by
  rw [List.flatMap_map]
  rfl

theorem appendAll_keepsPlaces (reversible : ∀ decorator ∈ decorators, decorator.Reversible)
    (key : StreamKey) (events : List (DomainEvent Payload)) :
    (appendAll decorators key events).map DomainEvent.place = events.map DomainEvent.place := by
  induction decorators with
  | nil => rfl
  | cons decorator rest ih =>
    have restReversible : ∀ other ∈ rest, other.Reversible := fun other isRest =>
      reversible other (List.mem_cons_of_mem _ isRest)
    exact ((reversible decorator List.mem_cons_self).keepsPlaces key _).trans (ih restReversible)

/-- Events of one aggregate remain events of this aggregate in a stack that can be undone. -/
theorem appendAll_aggregateId (reversible : ∀ decorator ∈ decorators, decorator.Reversible)
    (key : StreamKey) {events : List (DomainEvent Payload)} {id : AggregateId}
    (own : ∀ event ∈ events, event.aggregateId = id) :
    ∀ event ∈ appendAll decorators key events, event.aggregateId = id := by
  intro event isEvent
  have placed : event.place ∈ events.map DomainEvent.place := by
    rw [← appendAll_keepsPlaces reversible key events]
    exact List.mem_map_of_mem isEvent
  obtain ⟨original, isOriginal, samePlace⟩ := List.mem_map.mp placed
  have sameOwner := congrArg (fun place => place.2.1) samePlace
  exact sameOwner.symm.trans (own original isOriginal)

theorem readAll_restores (reversible : ∀ decorator ∈ decorators, decorator.Reversible)
    (stored : stream.items = (batches.flatMap (appendAll decorators key)).map .ok) :
    (readAll key decorators stream).2.items = batches.flatten.map .ok := by
  induction decorators generalizing stream with
  | nil =>
    rw [List.flatten_eq_flatMap]
    exact stored
  | cons decorator rest ih =>
    have restReversible : ∀ other ∈ rest, other.Reversible := fun other isRest =>
      reversible other (List.mem_cons_of_mem _ isRest)
    rw [flatMap_appendAll_cons] at stored
    have outer := (reversible decorator List.mem_cons_self).restores key _ stream stored
    rw [← List.flatMap_def] at outer
    exact ih restReversible outer

theorem readAll_passesSnapshots [PayloadFamily Payload] {kind : PayloadKind Payload State}
    (pass : ∀ decorator ∈ decorators, decorator.PassesSnapshots kind)
    {snapshot : DomainEvent Payload} {state : State}
    (isState : snapshot.payload = kind.inject state)
    (stored : stream.items = (snapshot :: batches.flatMap (appendAll decorators key)).map .ok) :
    ∃ passed : DomainEvent Payload, passed.payload = snapshot.payload ∧
      passed.sequenceNumber = snapshot.sequenceNumber ∧
      (readAll key decorators stream).2.items = (passed :: batches.flatten).map .ok := by
  induction decorators generalizing stream snapshot with
  | nil =>
    refine ⟨snapshot, rfl, rfl, ?_⟩
    rw [List.flatten_eq_flatMap]
    exact stored
  | cons decorator rest ih =>
    have restPass : ∀ other ∈ rest, other.PassesSnapshots kind := fun other isRest =>
      pass other (List.mem_cons_of_mem _ isRest)
    rw [flatMap_appendAll_cons] at stored
    obtain ⟨outer, samePayload, sameNumber, outerItems⟩ :=
      pass decorator List.mem_cons_self key snapshot state _ stream isState stored
    rw [← List.flatMap_def] at outerItems
    obtain ⟨passed, outerPayload, outerNumber, items⟩ :=
      ih restPass (samePayload.trans isState) outerItems
    exact ⟨passed, outerPayload.trans samePayload, outerNumber.trans sameNumber, items⟩

end Decorator

end EventSourcing
