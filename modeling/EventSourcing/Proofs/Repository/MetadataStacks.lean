import EventSourcing.Proofs.Metadata
import EventSourcing.Proofs.Repository.ReversibleStacks
import EventSourcing.Proofs.Repository.SaveAnswers

/-!
# Stacks that add metadata

A decorator lays its metadata under those of an event, and the decorators of a repository are
asked from the last to the first.  So an event is stored with its own value under a key, or
else with that of the last decorator that has the key, and is otherwise as it has been queued
(`Repository.save_layers_metadata`).  That a stack adds up to this is due to the laws of
merging alone.
-/

namespace EventSourcing

/-- The event with layers of metadata under its own; nothing else of it is changed. -/
structure DomainEvent.Labelled {Payload : Type} (layers : List Metadata)
    (event labelled : DomainEvent Payload) : Prop where
  unchanged : labelled = event.withMetadata labelled.metadata
  metadata : ∀ key, labelled.metadata.get? key = Metadata.layered layers event.metadata key

namespace Decorator

variable {Payload Note : Type}

/-- A stack of decorators that add metadata merges them all into each event. -/
theorem appendAll_addMetadata (layers : List Metadata) (key : StreamKey)
    (events : List (DomainEvent Payload)) :
    appendAll (layers.map (addMetadata : Metadata → Decorator Payload Note)) key events =
      events.map fun event =>
        event.withMetadata (layers.foldr Metadata.merge event.metadata) := by
  induction layers with
  | nil => exact (List.map_id events).symm
  | cons layer rest ih =>
    have outermost : appendAll
          ((layer :: rest).map (addMetadata : Metadata → Decorator Payload Note)) key events =
        (appendAll (rest.map (addMetadata : Metadata → Decorator Payload Note)) key events).map
          fun event => event.withMetadata (layer.merge event.metadata) := rfl
    rw [outermost, ih, List.map_map]
    rfl

theorem labelled_appendAll (layers : List Metadata) (key : StreamKey)
    (events : List (DomainEvent Payload)) :
    List.Forall₂ (DomainEvent.Labelled layers) events
      (appendAll (layers.map (addMetadata : Metadata → Decorator Payload Note)) key events) := by
  rw [appendAll_addMetadata, List.forall₂_map_right_iff, List.forall₂_same]
  intro event _
  exact ⟨rfl, Metadata.get?_foldr_merge layers event.metadata⟩

end Decorator

namespace Repository

variable {Payload State Note Bus : Type} [DocumentFamily Payload]
  {repository : Repository Payload State Note Bus} {layers : List Metadata}
  {guard : Guard Payload State}

/-- The entry that an event is stored as when its metadata have been laid on layers. -/
structure StoresLabelled (repository : Repository Payload State Note Bus)
    (layers : List Metadata) (event : DomainEvent Payload) (entry : Entry) : Prop where
  eventId : entry.eventId = event.id
  streamKey : entry.streamKey = repository.streamKey event.aggregateId
  sequenceNumber : entry.sequenceNumber = event.sequenceNumber
  timestamp : entry.timestamp = event.timestamp
  payload : repository.store.codec.serializer.serialize event.payload = .ok entry.payload
  metadata : ∃ metadata, Serializer.decodeMetadata entry.metadata = .ok metadata ∧
    ∀ key, metadata.get? key = Metadata.layered layers event.metadata key

theorem storesLabelled_of_encode {event labelled : DomainEvent Payload} {entry : Entry}
    (isLabelled : event.Labelled layers labelled)
    (encoded : repository.store.codec.encode repository.typeIdentifier labelled = .ok entry) :
    repository.StoresLabelled layers event entry := by
  obtain ⟨document, serialized, rfl⟩ := EventCodec.encode_eq_ok_iff.mp encoded
  have labels := isLabelled.metadata
  rw [isLabelled.unchanged] at serialized
  rw [isLabelled.unchanged]
  exact ⟨rfl, rfl, rfl, rfl, serialized, labelled.metadata,
    Serializer.decodeMetadata_encodeMetadata _, labels⟩

/-- Entries written for labelled events store what has been labelled. -/
theorem Written.storesLabelled {events labelled : List (DomainEvent Payload)}
    {batch : List Entry} (written : repository.Written labelled batch)
    (isLabelled : List.Forall₂ (DomainEvent.Labelled layers) events labelled) :
    List.Forall₂ (repository.StoresLabelled layers) events batch := by
  induction isLabelled generalizing batch with
  | nil =>
    cases written
    exact .nil
  | cons head tail ih =>
    cases written with
    | cons encoded rest => exact .cons (storesLabelled_of_encode head encoded) (ih rest)

/-- A save that tells so has written some events behind the log, and tells no others: those
that the decorators make of the queue, or none if nothing is queued. -/
theorem save_appends {stamp : Stamp} {backend : Backend} {bus : Bus}
    (stored : tellsStored (repository.save stamp guard backend bus).1 = true) :
    ∃ events batch,
      (guard.uncommitted = [] ∧ events = [] ∨
        ∃ key, events = Decorator.appendAll repository.decorators key guard.uncommitted) ∧
      repository.Written events batch ∧
      (repository.save stamp guard backend bus).2.2.1.entries.log.toList =
        backend.entries.log.toList ++ batch ∧
      ∀ told, (repository.save stamp guard backend bus).1 = .ok told → told = events := by
  by_cases queued : guard.uncommitted = []
  · rw [repository.nothingToSave_of_nothingQueued queued stamp backend bus]
    refine ⟨[], [], .inl ⟨queued, rfl⟩, .nil, (List.append_nil _).symm, ?_⟩
    rintro told ⟨⟩
    rfl
  cases owned : guard.identifier repository.configuration with
  | none =>
    have nonempty : guard.uncommitted.isEmpty = false := by simpa using queued
    simp [save, nonempty, owned, tellsStored] at stored
  | some id =>
    rcases repository.write_outcome id guard backend with
      ⟨error, after, refused, -⟩ | ⟨events, batch, after, writes, isEvents, written, pushed⟩
    · rw [save_of_refused queued owned refused] at stored
      cases stored
    · obtain ⟨answer, busAfter, saves, answers⟩ := save_of_stored queued owned writes stamp bus
      obtain ⟨snapshots, left⟩ := repository.entries_snapshotIfDue stamp guard.commit.2 after
      rw [saves]
      refine ⟨events, batch, .inr ⟨_, isEvents⟩, written, ?_, ?_⟩
      · rw [left, pushed]
        exact EntryStore.toList_log_pushAll backend.entries batch
      · intro told isTold
        rcases answers with rfl | ⟨error, rfl⟩
        · exact (Except.ok.inj isTold).symm
        · cases isTold

/-- Metadata are a monoid under merging, in which the right side comes first, and keys may be
removed on either side of it.  So whatever decorators add metadata to the events of a
repository, each event in a queue that has been stored has its own value under a key, or else
that of the last decorator that has the key, and neither the number and order of the events
nor anything else about them is changed. -/
theorem save_layers_metadata (repository : Repository Payload State Note Bus)
    (layers : List Metadata) :
    (∀ first second third : Metadata,
      (first.merge second).merge third = first.merge (second.merge third)) ∧
    (∀ metadata : Metadata, metadata.merge .empty = metadata ∧
      Metadata.empty.merge metadata = metadata) ∧
    (∀ first second : Metadata,
      first.merge second = ⟨first.entries.union second.entries⟩) ∧
    (∀ (first second : Metadata) (key : String), (first.merge second).get? key =
      if second.contains key then second.get? key else first.get? key) ∧
    (∀ (first second : Metadata) (keys : List String),
      (first.merge second).without keys = (first.without keys).merge (second.without keys)) ∧
    let stacked : Repository Payload State Note Bus :=
      { repository with decorators := layers.map .addMetadata }
    ∀ (stamp : Stamp) (guard : Guard Payload State) (backend : Backend) (bus : Bus),
      let saved := stacked.save stamp guard backend bus
      tellsStored saved.1 = true →
        ∃ batch, saved.2.2.1.entries.log.toList = backend.entries.log.toList ++ batch ∧
          List.Forall₂ (stacked.StoresLabelled layers) guard.uncommitted batch ∧
          ∀ told, saved.1 = .ok told →
            List.Forall₂ (DomainEvent.Labelled layers) guard.uncommitted told := by
  refine ⟨Metadata.merge_assoc, fun metadata => ⟨metadata.merge_empty, metadata.empty_merge⟩,
    Metadata.merge_eq_union, Metadata.get?_merge_eq_ite, Metadata.merge_without, ?_⟩
  intro stacked stamp guard backend bus saved stored
  obtain ⟨events, batch, isEvents, written, appended, tells⟩ := save_appends stored
  have isLabelled : List.Forall₂ (DomainEvent.Labelled layers) guard.uncommitted events := by
    rcases isEvents with ⟨nothingQueued, rfl⟩ | ⟨key, rfl⟩
    · rw [nothingQueued]
      exact .nil
    · exact Decorator.labelled_appendAll layers key guard.uncommitted
  refine ⟨batch, appended, written.storesLabelled isLabelled, ?_⟩
  intro told isTold
  rw [tells told isTold]
  exact isLabelled

/-- A meter whose events have no author is stored with the author of the last layer. -/
theorem save_layers_metadata_of_meter :
    let layers := [Metadata.single "by" (.string "reader"), .single "by" (.string "writer")]
    let stacked : Repository MeterPayload Meter Unit Unit :=
      { Meter.repository with decorators := layers.map .addMetadata }
    let guard := (stacked.newAggregate.callAll Meter.configuration Meter.firstCalls).2
    let saved := stacked.save ⟨EventId.ofNat 9, default⟩ guard .empty ()
    tellsStored saved.1 = true ∧
      saved.2.2.1.entries.log.toList.map Entry.eventId = guard.uncommitted.map (·.id) ∧
      ∀ entry ∈ saved.2.2.1.entries.log.toList, ∃ metadata,
        Serializer.decodeMetadata entry.metadata = .ok metadata ∧
          metadata.get? "by" = some (.string "writer") := by
  intro layers stacked guard saved
  have stored : tellsStored saved.1 = true := by decide +kernel
  have anonymous : ∀ event ∈ guard.uncommitted, event.metadata = .empty := by decide
  obtain ⟨-, -, -, -, -, layered⟩ := save_layers_metadata Meter.repository layers
  obtain ⟨batch, appended, matched, -⟩ :=
    layered ⟨EventId.ofNat 9, default⟩ guard .empty () stored
  refine ⟨stored, by decide +kernel, ?_⟩
  intro entry isEntry
  change _ = batch at appended
  rw [appended] at isEntry
  obtain ⟨place, inBatch, rfl⟩ := List.getElem_of_mem isEntry
  obtain ⟨sameLength, stores⟩ := List.forall₂_iff_get.mp matched
  have inQueue : place < guard.uncommitted.length := by omega
  obtain ⟨metadata, decoded, values⟩ := (stores place inQueue inBatch).metadata
  refine ⟨metadata, decoded, ?_⟩
  rw [values, anonymous _ (List.get_mem _ _)]
  decide

end Repository

end EventSourcing
