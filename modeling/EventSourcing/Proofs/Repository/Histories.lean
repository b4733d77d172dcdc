import EventSourcing.Proofs.Repository.Archives

/-!
# Stored histories

A store records the lives of aggregates when the history of each of them holds its
events in order, and when each snapshot is the state after a beginning of such a
life (`Repository.Records`).  This is an archive without decorators, in which every
event may be the last one of a batch, so loading gives the state after the whole life
(`Repository.Records.load_spec`).
-/

namespace EventSourcing

namespace Repository

variable {Payload State Note Bus : Type} [DocumentFamily Payload]
  {repository : Repository Payload State Note Bus} {id : AggregateId}

/-- The lives of aggregates, as a store holds them. -/
structure Records (repository : Repository Payload State Note Bus) (entries : EntryStore)
    (histories : AggregateId → List (DomainEvent Payload)) : Prop where
  consistent : entries.Consistent
  lifetime (id : AggregateId) : repository.Lifetime id (histories id)
  written (id : AggregateId) :
    repository.Written (histories id) (entries.history (repository.streamKey id))
  foreign (key : StreamKey) :
    key.aggregateType ≠ repository.typeIdentifier → entries.history key = []
  snapshots (key : StreamKey) (entry : Entry) : entries.HasSnapshot key entry →
    ∃ id past, key = repository.streamKey id ∧ past <+: histories id ∧
      repository.IsSnapshotOf past entry

variable {entries : EntryStore} {histories : AggregateId → List (DomainEvent Payload)}

theorem records_empty : repository.Records .empty fun _ => [] where
  consistent := EntryStore.consistent_empty
  lifetime _ := lifetime_nil
  written _ := .nil
  foreign _ _ := rfl
  snapshots key entry has := by
    obtain ⟨number, found⟩ := has
    simp [EntryStore.empty, EntryStore.snapshotsOf] at found

theorem Records.numbered (records : repository.Records entries histories) (key : StreamKey) :
    (entries.history key).map Entry.sequenceNumber =
      List.range (entries.history key).length := by
  by_cases own : key.aggregateType = repository.typeIdentifier
  · have written := records.written key.aggregateId
    have isKey : repository.streamKey key.aggregateId = key := by
      rw [streamKey, ← own]
    rw [isKey] at written
    rw [written.map_sequenceNumber, (records.lifetime key.aggregateId).numbered,
      written.length_eq]
  · rw [records.foreign key own]
    rfl

/-- Every event is taken for a batch of its own. -/
theorem Records.archives (undecorated : repository.decorators = [])
    (records : repository.Records entries histories) :
    repository.Archives entries fun id => (histories id).map fun event => [event] where
  consistent := records.consistent
  lifetime id := by
    rw [← List.flatMap_def, List.flatMap_singleton']
    exact records.lifetime id
  written id := by
    rw [decorated_of_undecorated undecorated, ← List.flatMap_def, List.flatMap_singleton']
    exact records.written id
  snapshots key entry has := by
    obtain ⟨id, past, isKey, front, isSnapshot⟩ := records.snapshots key entry has
    refine ⟨id, past.map fun event => [event], isKey, front.map _, ?_⟩
    rwa [← List.flatMap_def, List.flatMap_singleton']

/-- Loading an aggregate accepts the guard that its whole life leads to, and changes
nothing that is stored. -/
theorem Records.load_spec (wellBehaved : repository.WellBehaved) {backend : Backend}
    (reliable : backend.Reliable) (records : repository.Records backend.entries histories)
    (id : AggregateId) (expected : ExpectedVersion) :
    (repository.load id expected backend).2.2.entries = backend.entries ∧
      (repository.load id expected backend).2.2.Reliable ∧
      ((histories id = [] ∧
          (repository.load id expected backend).1 = .error (.aggregateNotFound id)) ∨
        (histories id ≠ [] ∧ ∃ counted, (repository.load id expected backend).1 =
          repository.accept id expected (repository.loaded (histories id) counted))) := by
  refine ⟨repository.entries_load id expected backend,
    repository.reliable_load reliable id expected, ?_⟩
  have outcome := (records.archives wellBehaved.undecorated).load_spec wellBehaved.faithful
    wellBehaved.wellDecorated reliable id expected
  rwa [← List.flatMap_def, List.flatMap_singleton'] at outcome

end Repository

end EventSourcing
