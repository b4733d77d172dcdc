import EventSourcing.Proofs.Repository.Decorators
import EventSourcing.Proofs.Repository.Lifetimes
import EventSourcing.Proofs.Repository.Loading

/-!
# Archives

An archive holds what has been saved, batch by batch, as the decorators have made it, and
snapshots that were taken between two batches (`Repository.Archives`).  Decorators that
can be undone give the life of an aggregate back, from whichever snapshot it is loaded
and in whatever batches it is read (`Repository.Archives.load_spec`).
-/

namespace EventSourcing

namespace Repository

variable {Payload State Note Bus : Type} [DocumentFamily Payload]
  {repository : Repository Payload State Note Bus} {id : AggregateId}

theorem streamKey_inj {first second : AggregateId}
    (same : repository.streamKey first = repository.streamKey second) : first = second :=
  congrArg StreamKey.aggregateId same

/-! ## Events and their entries -/

/-- Events and the entries that they are stored as. -/
def Written (repository : Repository Payload State Note Bus) (events : List (DomainEvent Payload))
    (entries : List Entry) : Prop :=
  List.Forall₂ (fun event entry =>
    repository.store.codec.encode repository.typeIdentifier event = .ok entry) events entries

section Written

variable {events : List (DomainEvent Payload)} {entries : List Entry}

theorem exists_written (admitted : ∀ event ∈ events, repository.Admits event.payload) :
    ∃ entries, repository.Written events entries := by
  induction events with
  | nil => exact ⟨[], .nil⟩
  | cons event rest ih =>
    obtain ⟨others, restWritten⟩ := ih fun other member =>
      admitted other (List.mem_cons_of_mem _ member)
    have writable := (admitted event List.mem_cons_self).roundTrips.imp fun _ => And.left
    obtain ⟨entry, encoded⟩ :=
      EventCodec.exists_encode_eq_ok writable repository.typeIdentifier
    exact ⟨entry :: others, .cons encoded restWritten⟩

theorem Written.map_sequenceNumber (written : repository.Written events entries) :
    entries.map Entry.sequenceNumber = events.map DomainEvent.sequenceNumber := by
  induction written with
  | nil => rfl
  | cons encoded rest ih =>
    obtain ⟨document, -, rfl⟩ := EventCodec.encode_eq_ok_iff.mp encoded
    rw [List.map_cons, List.map_cons, ih]

theorem Written.streamKey_eq (written : repository.Written events entries)
    (attributed : ∀ event ∈ events, event.aggregateId = id) :
    ∀ entry ∈ entries, entry.streamKey = repository.streamKey id := by
  induction written with
  | nil => simp
  | @cons event entry _ _ encoded rest ih =>
    intro other member
    rcases List.mem_cons.mp member with rfl | later
    · obtain ⟨document, -, rfl⟩ := EventCodec.encode_eq_ok_iff.mp encoded
      exact congrArg repository.streamKey (attributed event List.mem_cons_self)
    · exact ih (fun event isLater => attributed event (List.mem_cons_of_mem _ isLater)) other later

end Written

/-- From entries that are numbered without gaps, those from a number on are those
behind as many entries. -/
theorem filter_le_sequenceNumber_eq_drop {entries : List Entry}
    (numbered : entries.map Entry.sequenceNumber = List.range entries.length) (first : Nat) :
    (entries.filter fun entry => first ≤ entry.sequenceNumber) = entries.drop first := by
  have place (index : Nat) (inside : index < entries.length) :
      entries[index].sequenceNumber = index := by
    have same := congrArg (fun numbers : List Nat => numbers[index]?) numbered
    simpa [inside] using same
  conv_lhs => rw [← List.take_append_drop first entries]
  apply filter_append_eq_right
  · intro entry member
    obtain ⟨index, inside, rfl⟩ := List.mem_iff_getElem.mp member
    rw [List.length_take] at inside
    rw [List.getElem_take, place, decide_eq_false_iff_not]
    omega
  · intro entry member
    obtain ⟨index, inside, rfl⟩ := List.mem_iff_getElem.mp member
    rw [List.getElem_drop, place, decide_eq_true_eq]
    omega

/-! ## Replaying from a snapshot -/

/-- A snapshot entry holds the state after a beginning of a life. -/
def IsSnapshotOf (repository : Repository Payload State Note Bus)
    (past : List (DomainEvent Payload)) (entry : Entry) : Prop :=
  ∃ snapshot, repository.store.codec.decode entry = .ok [snapshot] ∧
    snapshot.payload = repository.configuration.snapshotKind.inject (repository.stateAfter past) ∧
    snapshot.sequenceNumber + 1 = past.length

/-- The guard that loading a history gives; from where it has counted depends on the
snapshot it started from. -/
def loaded (repository : Repository Payload State Note Bus) (events : List (DomainEvent Payload))
    (counted : Nat) : Guard Payload State :=
  { state := repository.stateAfter events
    version := events.getLast?.map DomainEvent.sequenceNumber
    eventsSinceSnapshot := counted }

/-- Replaying events behind others goes on where these have led. -/
theorem replayEvents_loaded (past : List (DomainEvent Payload)) (counted : Nat)
    {events : List (DomainEvent Payload)}
    (admitted : ∀ event ∈ events, repository.Admits event.payload) :
    (repository.loaded past counted).replayEvents repository.configuration events =
      repository.loaded (past ++ events) (counted + events.length) := by
  induction events generalizing past counted with
  | nil => simp [Guard.replayEvents]
  | cons event rest ih =>
    have step : (repository.loaded past counted).replayEvent repository.configuration event =
        repository.loaded (past ++ [event]) (counted + 1) := by
      rw [Guard.replayEvent_of_project_eq_none (admitted event List.mem_cons_self).plain, loaded,
        loaded, stateAfter_concat, List.getLast?_concat]
      rfl
    change ((repository.loaded past counted).replayEvent repository.configuration
      event).replayEvents repository.configuration rest = _
    rw [step, ih _ _ fun other member => admitted other (List.mem_cons_of_mem _ member),
      List.append_assoc, List.singleton_append, List.length_cons, Nat.add_assoc, Nat.add_comm 1]

theorem replayEvent_snapshot {past : List (DomainEvent Payload)}
    (lifetime : repository.Lifetime id past) {snapshot : DomainEvent Payload}
    (payload : snapshot.payload =
      repository.configuration.snapshotKind.inject (repository.stateAfter past))
    (number : snapshot.sequenceNumber + 1 = past.length) :
    repository.newAggregate.replayEvent repository.configuration snapshot =
      repository.loaded past 0 := by
  have nonempty : past ≠ [] := List.ne_nil_of_length_pos (by omega)
  have version : some snapshot.sequenceNumber =
      past.getLast?.map DomainEvent.sequenceNumber := by
    rw [lifetime.getLast?_sequenceNumber, if_neg nonempty, ← number, Nat.add_sub_cancel]
  simp only [Guard.replayEvent, payload, PayloadKind.project_inject, loaded, version]
  rfl

/-- From the state after a beginning of a life, the rest leads where the life leads. -/
theorem Lifetime.replay_snapshot {past later : List (DomainEvent Payload)}
    (lifetime : repository.Lifetime id (past ++ later)) {snapshot : DomainEvent Payload}
    (payload : snapshot.payload =
      repository.configuration.snapshotKind.inject (repository.stateAfter past))
    (number : snapshot.sequenceNumber + 1 = past.length) :
    repository.newAggregate.replayEvents repository.configuration (snapshot :: later) =
      repository.loaded (past ++ later) later.length := by
  have started := replayEvent_snapshot (lifetime.beginning (List.prefix_append past later))
    payload number
  change (repository.newAggregate.replayEvent repository.configuration
    snapshot).replayEvents repository.configuration later = _
  rw [started, replayEvents_loaded past 0 fun event member =>
    lifetime.admitted event (List.mem_append_right past member), Nat.zero_add]

/-! ## What is held, and in which form -/

/-- The decorators can be undone, let snapshots through, and what they store of admitted
events reads back. -/
structure WellDecorated (repository : Repository Payload State Note Bus) : Prop where
  reversible : ∀ decorator ∈ repository.decorators, decorator.Reversible
  passesSnapshots : ∀ decorator ∈ repository.decorators,
    decorator.PassesSnapshots repository.configuration.snapshotKind
  readsBack (key : StreamKey) (events : List (DomainEvent Payload)) :
    (∀ event ∈ events, repository.Admits event.payload) →
      ∀ stored ∈ Decorator.appendAll repository.decorators key events, ∀ document,
        repository.store.codec.serializer.serialize stored.payload = .ok document →
          repository.store.codec.serializer.deserialize document = .ok stored.payload

theorem WellBehaved.wellDecorated (wellBehaved : repository.WellBehaved) :
    repository.WellDecorated where
  reversible decorator isDecorator := by
    rw [wellBehaved.undecorated] at isDecorator
    exact absurd isDecorator List.not_mem_nil
  passesSnapshots decorator isDecorator := by
    rw [wellBehaved.undecorated] at isDecorator
    exact absurd isDecorator List.not_mem_nil
  readsBack key events admitted stored isStored document written := by
    rw [wellBehaved.undecorated] at isStored
    exact (admitted stored isStored).roundTrips.readBack written

/-- Batches as the decorators store them. -/
def decorated (repository : Repository Payload State Note Bus) (id : AggregateId)
    (batches : List (List (DomainEvent Payload))) : List (DomainEvent Payload) :=
  batches.flatMap (Decorator.appendAll repository.decorators (repository.streamKey id))

theorem decorated_append (front back : List (List (DomainEvent Payload))) :
    repository.decorated id (front ++ back) =
      repository.decorated id front ++ repository.decorated id back :=
  List.flatMap_append

theorem decorated_of_undecorated (undecorated : repository.decorators = [])
    (batches : List (List (DomainEvent Payload))) :
    repository.decorated id batches = batches.flatten := by
  rw [decorated, undecorated, List.flatMap_def]
  exact congrArg List.flatten (List.map_id batches)

/-- Decorators leave every event its place. -/
theorem map_place_decorated
    (reversible : ∀ decorator ∈ repository.decorators, decorator.Reversible) (id : AggregateId)
    (batches : List (List (DomainEvent Payload))) :
    (repository.decorated id batches).map DomainEvent.place =
      batches.flatten.map DomainEvent.place := by
  rw [decorated, List.map_flatMap, List.map_flatten, List.flatMap_def]
  refine congrArg List.flatten (List.map_congr_left fun batch _ => ?_)
  exact Decorator.appendAll_keepsPlaces reversible _ batch

theorem map_sequenceNumber_decorated
    (reversible : ∀ decorator ∈ repository.decorators, decorator.Reversible) (id : AggregateId)
    (batches : List (List (DomainEvent Payload))) :
    (repository.decorated id batches).map DomainEvent.sequenceNumber =
      batches.flatten.map DomainEvent.sequenceNumber := by
  have numbers := congrArg (List.map fun place => place.2.2)
    (map_place_decorated reversible id batches)
  rw [List.map_map, List.map_map] at numbers
  exact numbers

theorem WellDecorated.length_decorated (wellDecorated : repository.WellDecorated)
    (id : AggregateId) (batches : List (List (DomainEvent Payload))) :
    (repository.decorated id batches).length = batches.flatten.length := by
  have places := congrArg List.length (map_place_decorated wellDecorated.reversible id batches)
  simpa only [List.length_map] using places

theorem WellDecorated.map_sequenceNumber (wellDecorated : repository.WellDecorated)
    (id : AggregateId) (batches : List (List (DomainEvent Payload))) :
    (repository.decorated id batches).map DomainEvent.sequenceNumber =
      batches.flatten.map DomainEvent.sequenceNumber :=
  map_sequenceNumber_decorated wellDecorated.reversible id batches

/-- The batches that have been saved of each aggregate, as a store holds them. -/
structure Archives (repository : Repository Payload State Note Bus) (entries : EntryStore)
    (saves : AggregateId → List (List (DomainEvent Payload))) : Prop where
  consistent : entries.Consistent
  lifetime (id : AggregateId) : repository.Lifetime id (saves id).flatten
  written (id : AggregateId) : repository.Written (repository.decorated id (saves id))
    (entries.history (repository.streamKey id))
  snapshots (key : StreamKey) (entry : Entry) : entries.HasSnapshot key entry →
    ∃ id front, key = repository.streamKey id ∧ front <+: saves id ∧
      repository.IsSnapshotOf front.flatten entry

variable {entries : EntryStore} {saves : AggregateId → List (List (DomainEvent Payload))}

/-! ## Loading -/

/-- What is read behind some batches are the others. -/
theorem Archives.decodeAll_entriesFrom (archives : repository.Archives entries saves)
    (faithful : repository.Faithful) (wellDecorated : repository.WellDecorated)
    {front back : List (List (DomainEvent Payload))} (split : saves id = front ++ back) :
    repository.store.codec.decodeAll
        (entries.entriesFrom (repository.streamKey id) front.flatten.length) =
      .ok (repository.decorated id back) := by
  have written := archives.written id
  have numbered : (entries.history (repository.streamKey id)).map Entry.sequenceNumber =
      List.range (entries.history (repository.streamKey id)).length := by
    rw [written.map_sequenceNumber, wellDecorated.map_sequenceNumber,
      (archives.lifetime id).numbered, ← written.length_eq, wellDecorated.length_decorated]
  have ascending : (entries.history (repository.streamKey id)).Pairwise fun entry later =>
      entry.sequenceNumber < later.sequenceNumber := by
    rw [← List.pairwise_map (f := Entry.sequenceNumber), numbered]
    exact List.pairwise_lt_range
  rw [archives.consistent.entriesFrom_eq ascending, filter_le_sequenceNumber_eq_drop numbered]
  have behind := List.forall₂_drop front.flatten.length written
  rw [split, decorated_append, ← wellDecorated.length_decorated id front, List.drop_left] at behind
  rw [← wellDecorated.length_decorated id front]
  refine EventCodec.decodeAll_of_forall₂ faithful.direct behind ?_
  intro stored isStored
  obtain ⟨batch, isBatch, inBatch⟩ := List.mem_flatMap.mp isStored
  refine wellDecorated.readsBack _ batch (fun event isEvent => ?_) stored inBatch
  apply (archives.lifetime id).admitted
  rw [split]
  exact List.mem_flatten_of_mem (List.mem_append_right front isBatch) isEvent

/-- What is read of a history leads where the life leads, behind the decorators. -/
theorem Archives.eventsRead_spec (faithful : repository.Faithful)
    (wellDecorated : repository.WellDecorated) (archives : repository.Archives entries saves)
    (id : AggregateId) :
    ∃ stored counted,
      repository.store.eventsRead entries (repository.streamKey id) = .ok stored ∧
        (stored = [] ↔ (saves id).flatten = []) ∧
        ∀ stream : EventStream (ReadMark Note) Payload, stream.items = stored.map .ok →
          ∃ events, (Decorator.readAll (repository.streamKey id) repository.decorators
              stream).2.items = events.map .ok ∧
            repository.newAggregate.replayEvents repository.configuration events =
              repository.loaded (saves id).flatten counted := by
  cases latest : (entries.lastSnapshot? (repository.streamKey id)).bind
      repository.store.snapshotEvent? with
  | some snapshot =>
    obtain ⟨entry, isLast, opened⟩ := Option.bind_eq_some_iff.mp latest
    obtain ⟨owner, front, ownKey, ⟨back, split⟩, taken, decoded, payload, number⟩ :=
      archives.snapshots _ entry (EntryStore.hasSnapshot_of_lastSnapshot? isLast)
    obtain rfl := streamKey_inj ownKey
    obtain rfl : taken = snapshot := EventStore.eq_of_snapshotEvent? decoded opened
    have behind := archives.decodeAll_entriesFrom faithful wellDecorated split.symm
    rw [← number] at behind
    have nonempty : (saves id).flatten ≠ [] := by
      rw [← split, List.flatten_append]
      refine List.append_ne_nil_of_left_ne_nil (List.ne_nil_of_length_pos ?_) _
      omega
    simp only [EventStore.eventsRead, latest, behind]
    refine ⟨_, back.flatten.length, rfl, by simp [nonempty], fun stream items => ?_⟩
    obtain ⟨passed, samePayload, sameNumber, delivered⟩ :=
      Decorator.readAll_passesSnapshots wellDecorated.passesSnapshots payload items
    refine ⟨_, delivered, ?_⟩
    have lifetime := archives.lifetime id
    rw [← split, List.flatten_append] at lifetime ⊢
    exact lifetime.replay_snapshot (samePayload.trans payload) (sameNumber ▸ number)
  | none =>
    have whole := archives.decodeAll_entriesFrom faithful wellDecorated
      (List.nil_append (saves id)).symm
    simp only [List.flatten_nil, List.length_nil] at whole
    simp only [EventStore.eventsRead, latest, whole]
    refine ⟨_, 0 + (saves id).flatten.length, rfl, ?_, fun stream items => ?_⟩
    · rw [← List.length_eq_zero_iff, wellDecorated.length_decorated, List.length_eq_zero_iff]
    · exact ⟨_, Decorator.readAll_restores wellDecorated.reversible items,
        replayEvents_loaded [] 0 (archives.lifetime id).admitted⟩

/-- Loading an aggregate accepts the guard that its whole life leads to. -/
theorem Archives.load_spec (faithful : repository.Faithful)
    (wellDecorated : repository.WellDecorated) {backend : Backend} (reliable : backend.Reliable)
    (archives : repository.Archives backend.entries saves) (id : AggregateId)
    (expected : ExpectedVersion) :
    ((saves id).flatten = [] ∧
        (repository.load id expected backend).1 = .error (.aggregateNotFound id)) ∨
      ((saves id).flatten ≠ [] ∧ ∃ counted, (repository.load id expected backend).1 =
        repository.accept id expected (repository.loaded (saves id).flatten counted)) := by
  obtain ⟨stored, counted, isRead, alike, delivers⟩ :=
    archives.eventsRead_spec faithful wellDecorated id
  by_cases nothing : stored = []
  · exact .inl ⟨alike.mp nothing, load_of_nothing reliable (nothing ▸ isRead) expected⟩
  · exact .inr ⟨mt alike.mpr nothing, counted,
      load_of_delivered reliable nothing isRead delivers expected⟩

end Repository

end EventSourcing
