import EventSourcing.Proofs.Aggregate.Replay
import EventSourcing.Proofs.EventStore.RoundTrip
import EventSourcing.Repository.Dispatcher
import Mathlib.Data.List.Infix

/-!
# Lives of aggregates

The events of an aggregate are numbered without gaps, belong to it, and leave it
under its identifier from the first one on (`Repository.Lifetime`).  A guard
carries such a life: a part of it that is stored, and its queue behind it
(`Repository.Carries`).  Applying an event makes the life longer, and committing
the queue moves it into the stored part.
-/

namespace EventSourcing

namespace Repository

variable {Payload State Note Bus : Type} [DocumentFamily Payload]
  {repository : Repository Payload State Note Bus} {id : AggregateId}

/-- What is asked of a repository and its aggregate type: events go to the store as
they are, handlers look at what happened and not at whom it is said of, an
identifier is never changed, and a state that can be written is read back. -/
structure WellBehaved (repository : Repository Payload State Note Bus) : Prop where
  undecorated : repository.decorators = []
  direct : repository.store.codec.upcasters = []
  ignoresAggregateId : repository.configuration.entity.IgnoresAggregateId
  keepsIdentifier {state : State} {id : AggregateId}
    (assigned : repository.configuration.identifier state = some id)
    (event : DomainEvent Payload) :
    repository.configuration.identifier (repository.configuration.evolve state event) = some id
  statesReadBack {state : State} {document : Document}
    (written : repository.store.codec.serializer.serialize
      (repository.configuration.snapshotKind.inject state) = .ok document) :
    repository.store.codec.serializer.deserialize document =
      .ok (repository.configuration.snapshotKind.inject state)

/-- The part of this that has nothing to do with decorators. -/
structure Faithful (repository : Repository Payload State Note Bus) : Prop where
  direct : repository.store.codec.upcasters = []
  ignoresAggregateId : repository.configuration.entity.IgnoresAggregateId
  keepsIdentifier {state : State} {id : AggregateId}
    (assigned : repository.configuration.identifier state = some id)
    (event : DomainEvent Payload) :
    repository.configuration.identifier (repository.configuration.evolve state event) = some id
  statesReadBack {state : State} {document : Document}
    (written : repository.store.codec.serializer.serialize
      (repository.configuration.snapshotKind.inject state) = .ok document) :
    repository.store.codec.serializer.deserialize document =
      .ok (repository.configuration.snapshotKind.inject state)

theorem WellBehaved.faithful (wellBehaved : repository.WellBehaved) : repository.Faithful where
  direct := wellBehaved.direct
  ignoresAggregateId := wellBehaved.ignoresAggregateId
  keepsIdentifier := wellBehaved.keepsIdentifier
  statesReadBack := wellBehaved.statesReadBack

/-- When snapshots are taken makes no difference. -/
theorem WellBehaved.withTrigger (wellBehaved : repository.WellBehaved)
    (trigger : SnapshotTrigger) : WellBehaved { repository with trigger } where
  undecorated := wellBehaved.undecorated
  direct := wellBehaved.direct
  ignoresAggregateId := wellBehaved.ignoresAggregateId
  keepsIdentifier := wellBehaved.keepsIdentifier
  statesReadBack := wellBehaved.statesReadBack

/-- Whether a payload may be applied: it is no state, and it can be written and
read back. -/
structure Admits (repository : Repository Payload State Note Bus) (payload : Payload) :
    Prop where
  plain : repository.configuration.snapshotKind.project payload = none
  roundTrips : repository.store.codec.serializer.RoundTrips payload

theorem Admits.withTrigger {payload : Payload} (admits : repository.Admits payload)
    (trigger : SnapshotTrigger) : Admits { repository with trigger } payload :=
  ⟨admits.plain, admits.roundTrips⟩

/-- The state after the events of an aggregate. -/
def stateAfter (repository : Repository Payload State Note Bus)
    (events : List (DomainEvent Payload)) : State :=
  events.foldl repository.configuration.evolve repository.fresh

@[simp] theorem stateAfter_concat (events : List (DomainEvent Payload))
    (event : DomainEvent Payload) :
    repository.stateAfter (events ++ [event]) =
      repository.configuration.evolve (repository.stateAfter events) event := by
  simp [stateAfter]

/-! ## Lives -/

omit [DocumentFamily Payload] in
theorem numbered_of_prefix {events past : List (DomainEvent Payload)}
    (numbered : events.map DomainEvent.sequenceNumber = List.range events.length)
    (front : past <+: events) :
    past.map DomainEvent.sequenceNumber = List.range past.length := by
  obtain ⟨later, rfl⟩ := front
  have beginning := congrArg (List.take past.length) numbered
  rwa [List.map_append, List.take_left' (List.length_map _), List.take_range,
    List.length_append, Nat.min_eq_left (Nat.le_add_right _ _)] at beginning

/-- The events of one aggregate from its first one on. -/
structure Lifetime (repository : Repository Payload State Note Bus) (id : AggregateId)
    (events : List (DomainEvent Payload)) : Prop where
  numbered : events.map DomainEvent.sequenceNumber = List.range events.length
  attributed : ∀ event ∈ events, event.aggregateId = id
  admitted : ∀ event ∈ events, repository.Admits event.payload
  identified : ∀ past, past <+: events → past ≠ [] →
    repository.configuration.identifier (repository.stateAfter past) = some id

theorem lifetime_nil : repository.Lifetime id [] where
  numbered := rfl
  attributed _ member := by simp at member
  admitted _ member := by simp at member
  identified past front nonempty := absurd (List.prefix_nil.mp front) nonempty

theorem Lifetime.beginning {events past : List (DomainEvent Payload)}
    (lifetime : repository.Lifetime id events) (front : past <+: events) :
    repository.Lifetime id past where
  numbered := numbered_of_prefix lifetime.numbered front
  attributed event member := lifetime.attributed event (front.subset member)
  admitted event member := lifetime.admitted event (front.subset member)
  identified earlier isEarlier := lifetime.identified earlier (isEarlier.trans front)

theorem Lifetime.push {events : List (DomainEvent Payload)} {event : DomainEvent Payload}
    (lifetime : repository.Lifetime id events) (next : event.sequenceNumber = events.length)
    (own : event.aggregateId = id) (admits : repository.Admits event.payload)
    (identifies : repository.configuration.identifier
      (repository.stateAfter (events ++ [event])) = some id) :
    repository.Lifetime id (events ++ [event]) where
  numbered := by
    rw [List.map_append, lifetime.numbered, List.map_singleton, next, List.length_append,
      List.length_singleton, List.range_succ]
  attributed other member := by
    rcases List.mem_append.mp member with earlier | isEvent
    · exact lifetime.attributed other earlier
    · exact List.mem_singleton.mp isEvent ▸ own
  admitted other member := by
    rcases List.mem_append.mp member with earlier | isEvent
    · exact lifetime.admitted other earlier
    · exact List.mem_singleton.mp isEvent ▸ admits
  identified past front nonempty := by
    rcases List.prefix_concat_iff.mp front with rfl | earlier
    · exact identifies
    · exact lifetime.identified past earlier nonempty

theorem Lifetime.getLast?_sequenceNumber {events : List (DomainEvent Payload)}
    (lifetime : repository.Lifetime id events) :
    events.getLast?.map DomainEvent.sequenceNumber =
      if events = [] then none else some (events.length - 1) := by
  rw [← List.getLast?_map, lifetime.numbered, List.getLast?_range]
  simp only [List.length_eq_zero_iff]

/-! ## Guards that carry a life -/

/-- A guard whose queue follows a stored part of the life of an aggregate. -/
structure Carries (repository : Repository Payload State Note Bus) (id : AggregateId)
    (past : List (DomainEvent Payload)) (guard : Guard Payload State) : Prop where
  lifetime : repository.Lifetime id (past ++ guard.uncommitted)
  state : guard.state = repository.stateAfter (past ++ guard.uncommitted)
  version : guard.version = past.getLast?.map DomainEvent.sequenceNumber

variable {past : List (DomainEvent Payload)} {guard next : Guard Payload State}

theorem carries_newAggregate : repository.Carries id [] repository.newAggregate where
  lifetime := lifetime_nil
  state := rfl
  version := rfl

/-- Marks and counts of a guard do not matter. -/
theorem Carries.of_same (carries : repository.Carries id past guard)
    (state : next.state = guard.state) (version : next.version = guard.version)
    (uncommitted : next.uncommitted = guard.uncommitted) : repository.Carries id past next where
  lifetime := uncommitted ▸ carries.lifetime
  state := by rw [state, uncommitted, carries.state]
  version := by rw [version, carries.version]

theorem Carries.lastSequenceNumber?_eq (carries : repository.Carries id past guard) :
    guard.lastSequenceNumber? =
      (past ++ guard.uncommitted).getLast?.map DomainEvent.sequenceNumber :=
  Guard.lastSequenceNumber?_of_version carries.version

theorem Carries.nextSequenceNumber_eq (carries : repository.Carries id past guard) :
    guard.nextSequenceNumber = (past ++ guard.uncommitted).length :=
  Guard.nextSequenceNumber_of_numbered carries.version carries.lifetime.numbered

theorem Carries.identifier_eq (carries : repository.Carries id past guard)
    (nonempty : past ++ guard.uncommitted ≠ []) :
    guard.identifier repository.configuration = some id := by
  rw [Guard.identifier, carries.state]
  exact carries.lifetime.identified _ List.prefix_rfl nonempty

theorem Carries.commit (carries : repository.Carries id past guard) :
    repository.Carries id (past ++ guard.uncommitted) guard.commit.2 where
  lifetime := by simpa [Guard.commit] using carries.lifetime
  state := by simpa [Guard.commit] using carries.state
  version := carries.lastSequenceNumber?_eq

/-- An accepted event continues the life that a guard carries, or begins one. -/
theorem Carries.apply (faithful : repository.Faithful)
    (carries : repository.Carries id past guard) {stamp : Stamp} {payload : Payload}
    {metadata : Metadata} (admits : repository.Admits payload)
    (applied : guard.apply repository.configuration stamp payload metadata = (.ok (), next)) :
    ∃ owner, (owner = id ∨ past = []) ∧ repository.Carries owner past next := by
  obtain ⟨owner, rfl, attribution⟩ := Guard.apply_eq_ok faithful.ignoresAggregateId applied
  have isOwner : owner = id ∨ past ++ guard.uncommitted = [] := by
    by_cases empty : past ++ guard.uncommitted = []
    · exact .inr empty
    · have assigned := carries.identifier_eq empty
      rcases attribution with same | ⟨unassigned, -⟩
      · exact .inl (Option.some.inj (same.symm.trans assigned))
      · exact absurd (unassigned.symm.trans assigned) nofun
  have lifetime : repository.Lifetime owner (past ++ guard.uncommitted) := by
    rcases isOwner with rfl | empty
    · exact carries.lifetime
    · exact empty ▸ lifetime_nil
  refine ⟨owner, isOwner.imp_right fun empty => (List.append_eq_nil_iff.mp empty).1, ?_⟩
  have state : repository.configuration.evolve guard.state (DomainEvent.ofStamp stamp owner
      guard.nextSequenceNumber payload metadata) = repository.stateAfter
        (past ++ guard.uncommitted ++ [DomainEvent.ofStamp stamp owner guard.nextSequenceNumber
          payload metadata]) := by
    rw [stateAfter_concat, carries.state]
  constructor
  case lifetime =>
    rw [← List.append_assoc]
    refine lifetime.push carries.nextSequenceNumber_eq rfl admits ?_
    rw [← state]
    rcases attribution with assigned | ⟨-, -, -, created⟩
    · exact faithful.keepsIdentifier assigned _
    · exact created
  case state => rw [← List.append_assoc, ← state]
  case version => exact carries.version

end Repository

end EventSourcing
