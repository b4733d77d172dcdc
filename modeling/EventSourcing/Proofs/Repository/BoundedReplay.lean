import EventSourcing.Proofs.EventStore.SnapshotReading
import EventSourcing.Proofs.Repository.LostUpdates

/-!
# Bounded replay

Every guard counts events since the last snapshot on its own: loading, committing and taking
a snapshot change the count.  A guard that can still save has counted at least the events
behind the latest snapshot (`Repository.Counts`), since every save by somebody else makes it
stale.  So as long as saves run undisturbed, whoever has stored a queue takes a snapshot in
time, and no stored stream ever has more events behind its latest snapshot than the trigger
allows (`Repository.Undisturbed.replay_bounded`).
-/

namespace EventSourcing

/-! ## What snapshots stand for -/

namespace EntryStore

variable {store : EntryStore} {key : StreamKey}

/-- The number of events that the latest snapshot of a history stands for. -/
def covered (store : EntryStore) (key : StreamKey) : Nat :=
  match store.lastSnapshot? key with
  | some snapshot => snapshot.sequenceNumber + 1
  | none => 0

/-- The entries of a history behind its latest snapshot, all of them if there is none. -/
def behindSnapshot (store : EntryStore) (key : StreamKey) : List Entry :=
  match store.lastSnapshot? key with
  | some snapshot =>
    (store.history key).filter fun entry => snapshot.sequenceNumber < entry.sequenceNumber
  | none => store.history key

theorem covered_of_lastSnapshot? {snapshot : Entry}
    (last : store.lastSnapshot? key = some snapshot) :
    store.covered key = snapshot.sequenceNumber + 1 := by
  rw [covered, last]

theorem covered_congr {other : EntryStore}
    (same : other.lastSnapshot? key = store.lastSnapshot? key) :
    other.covered key = store.covered key := by
  rw [covered, covered, same]

@[simp] theorem covered_pushAll (store : EntryStore) (batch : List Entry) (key : StreamKey) :
    (store.pushAll batch).covered key = store.covered key :=
  covered_congr (by rw [lastSnapshot?, lastSnapshot?, snapshotsOf, snapshotsOf, snapshots_pushAll])

theorem length_behindSnapshot
    (numbered : (store.history key).map Entry.sequenceNumber =
      List.range (store.history key).length) :
    (store.behindSnapshot key).length = (store.history key).length - store.covered key := by
  cases last : store.lastSnapshot? key with
  | none => simp [behindSnapshot, covered, last]
  | some snapshot =>
    have behind := Repository.filter_le_sequenceNumber_eq_drop numbered
      (snapshot.sequenceNumber + 1)
    simp only [Nat.succ_le_iff] at behind
    simp only [behindSnapshot, covered, last, behind, List.length_drop]

end EntryStore

namespace Repository

variable {Payload State Note Bus : Type} [DocumentFamily Payload]
  {repository : Repository Payload State Note Bus} {id : AggregateId}
  {entries : EntryStore} {histories : AggregateId → List (DomainEvent Payload)}
  {past : List (DomainEvent Payload)} {guard : Guard Payload State} {backend : Backend}

theorem IsSnapshotOf.sequenceNumber_eq {entry : Entry}
    (isSnapshot : repository.IsSnapshotOf past entry) :
    entry.sequenceNumber + 1 = past.length := by
  obtain ⟨snapshot, decoded, -, number⟩ := isSnapshot
  rwa [← EventCodec.sequenceNumber_of_decode decoded]

/-- A snapshot stands for events that are stored. -/
theorem Records.sequenceNumber_lt (records : repository.Records entries histories) {entry : Entry}
    (has : entries.HasSnapshot (repository.streamKey id) entry) :
    entry.sequenceNumber < (histories id).length := by
  obtain ⟨owner, past, ownKey, front, isSnapshot⟩ := records.snapshots _ entry has
  obtain rfl := streamKey_inj ownKey
  have number := isSnapshot.sequenceNumber_eq
  have atMost := front.length_le
  omega

theorem Records.covered_le (records : repository.Records entries histories) (id : AggregateId) :
    entries.covered (repository.streamKey id) ≤ (histories id).length := by
  cases last : entries.lastSnapshot? (repository.streamKey id) with
  | none => simp [EntryStore.covered, last]
  | some snapshot =>
    rw [EntryStore.covered_of_lastSnapshot? last]
    exact records.sequenceNumber_lt (EntryStore.hasSnapshot_of_lastSnapshot? last)

theorem Records.length_behindSnapshot (records : repository.Records entries histories)
    (id : AggregateId) :
    (entries.behindSnapshot (repository.streamKey id)).length =
      (histories id).length - entries.covered (repository.streamKey id) := by
  rw [EntryStore.length_behindSnapshot (records.numbered _), (records.written id).length_eq]

/-- A snapshot of the last event covers its history as long as any snapshots are kept; the
others remain covered as they are. -/
theorem Records.covered_of_snapshot (records : repository.Records entries histories)
    (filed : entries.Filed) {entry : Entry} (ownKey : entry.streamKey = repository.streamKey id)
    (number : entry.sequenceNumber + 1 = (histories id).length) {keep : Nat}
    (keepsAny : 1 ≤ keep) (pruned : StreamKey) (other : AggregateId) :
    ((entries.persistSnapshot entry).pruneSnapshots pruned keep).2.covered
        (repository.streamKey other) =
      if other = id then (histories id).length
      else entries.covered (repository.streamKey other) := by
  rw [EntryStore.covered_congr (EntryStore.lastSnapshot?_pruneSnapshots _ _ _ keepsAny)]
  by_cases own : other = id
  · have greatest (stored : Entry) (has : entries.HasSnapshot entry.streamKey stored) :
        stored.sequenceNumber ≤ entry.sequenceNumber := by
      have behind := records.sequenceNumber_lt (ownKey ▸ has)
      omega
    rw [if_pos own, own, ← ownKey,
      EntryStore.covered_of_lastSnapshot? (filed.lastSnapshot?_persistSnapshot greatest), number]
  · rw [if_neg own, EntryStore.covered_congr (EntryStore.lastSnapshot?_persistSnapshot_of_ne ?_)]
    rw [ownKey]
    exact mt streamKey_inj own

/-! ## What a loaded guard has counted -/

theorem Records.decodeAll_entriesFrom (wellBehaved : repository.WellBehaved)
    (records : repository.Records entries histories) {later : List (DomainEvent Payload)}
    (split : histories id = past ++ later) :
    repository.store.codec.decodeAll
      (entries.entriesFrom (repository.streamKey id) past.length) = .ok later := by
  have archives := records.archives wellBehaved.undecorated
  have singles (events : List (DomainEvent Payload)) :
      (events.map fun event => [event]).flatten = events := by
    rw [← List.flatMap_def, List.flatMap_singleton']
  have behind := archives.decodeAll_entriesFrom wellBehaved.faithful wellBehaved.wellDecorated
    ((congrArg (List.map fun event => [event]) split).trans List.map_append)
  rwa [decorated_of_undecorated wellBehaved.undecorated, singles, singles] at behind

/-- A guard that has replayed what there is to be read has counted at least the events
behind the latest snapshot, and more only if this snapshot was of no use. -/
theorem Records.counts_replay (wellBehaved : repository.WellBehaved)
    (records : repository.Records entries histories) {events : List (DomainEvent Payload)}
    (isRead : repository.store.eventsRead entries (repository.streamKey id) = .ok events)
    (isReplayed : guard = repository.newAggregate.replayEvents repository.configuration events) :
    (histories id).length ≤
      entries.covered (repository.streamKey id) + guard.eventsSinceSnapshot := by
  have lifetime := records.lifetime id
  cases latest : (entries.lastSnapshot? (repository.streamKey id)).bind
      repository.store.snapshotEvent? with
  | none =>
    have whole := records.decodeAll_entriesFrom wellBehaved (List.nil_append (histories id)).symm
    simp only [EventStore.eventsRead, latest] at isRead
    obtain rfl : histories id = events := Except.ok.inj (whole.symm.trans isRead)
    have replayed := replayEvents_loaded [] 0 lifetime.admitted
    change repository.newAggregate.replayEvents repository.configuration (histories id) = _
      at replayed
    simp only [isReplayed, replayed, loaded]
    omega
  | some snapshot =>
    obtain ⟨entry, isLast, opened⟩ := Option.bind_eq_some_iff.mp latest
    obtain ⟨owner, past, ownKey, ⟨later, split⟩, isSnapshot⟩ :=
      records.snapshots _ entry (EntryStore.hasSnapshot_of_lastSnapshot? isLast)
    obtain rfl := streamKey_inj ownKey
    have isCovered := EntryStore.covered_of_lastSnapshot? isLast
    rw [isSnapshot.sequenceNumber_eq] at isCovered
    obtain ⟨taken, decoded, payload, number⟩ := isSnapshot
    obtain rfl : taken = snapshot := EventStore.eq_of_snapshotEvent? decoded opened
    have behind := records.decodeAll_entriesFrom wellBehaved split.symm
    rw [← number] at behind
    simp only [EventStore.eventsRead, latest, behind] at isRead
    obtain rfl : taken :: later = events := Except.ok.inj isRead
    rw [← split] at lifetime
    rw [isReplayed, lifetime.replay_snapshot payload number, isCovered, ← split,
      List.length_append, loaded]

/-- A guard holds a part of a life, and if this is the whole life, it has counted at least
the events behind the latest snapshot. -/
def Counts (repository : Repository Payload State Note Bus) (entries : EntryStore)
    (histories : AggregateId → List (DomainEvent Payload)) (guard : Guard Payload State) : Prop :=
  ∃ id past, past <+: histories id ∧ repository.Carries id past guard ∧
    (past = histories id → past.length ≤
      entries.covered (repository.streamKey id) + guard.eventsSinceSnapshot)

theorem counts_newAggregate : repository.Counts entries histories repository.newAggregate :=
  ⟨⟨""⟩, [], List.nil_prefix, carries_newAggregate, fun _ => Nat.zero_le _⟩

theorem Counts.of_same {next : Guard Payload State}
    (counts : repository.Counts entries histories guard) (state : next.state = guard.state)
    (version : next.version = guard.version) (uncommitted : next.uncommitted = guard.uncommitted)
    (counted : next.eventsSinceSnapshot = guard.eventsSinceSnapshot) :
    repository.Counts entries histories next := by
  obtain ⟨id, past, front, carries, atLeast⟩ := counts
  exact ⟨id, past, front, carries.of_same state version uncommitted, counted ▸ atLeast⟩

theorem Counts.apply (wellBehaved : repository.WellBehaved) {next : Guard Payload State}
    (counts : repository.Counts entries histories guard) {stamp : Stamp} {payload : Payload}
    {metadata : Metadata} (admits : repository.Admits payload)
    (applied : guard.apply repository.configuration stamp payload metadata = (.ok (), next)) :
    repository.Counts entries histories next := by
  obtain ⟨id, past, front, carries, atLeast⟩ := counts
  obtain ⟨owner, isOwner, continued⟩ := carries.apply wellBehaved.faithful admits applied
  obtain ⟨_, _, isNext, _⟩ := Guard.apply_cases applied
  have counted : next.eventsSinceSnapshot = guard.eventsSinceSnapshot := by rw [isNext]
  rcases isOwner with rfl | rfl
  · exact ⟨owner, past, front, continued, counted ▸ atLeast⟩
  · exact ⟨owner, [], List.nil_prefix, continued, fun _ => Nat.zero_le _⟩

theorem Sound.counts_load (wellBehaved : repository.WellBehaved)
    (sound : repository.Sound backend histories) {expected : ExpectedVersion}
    (accepted : (repository.load id expected backend).1 = .ok guard) :
    repository.Counts backend.entries histories guard := by
  rcases loaded : repository.load id expected backend with ⟨result, notes, after⟩
  rw [loaded] at accepted
  obtain rfl : result = .ok guard := accepted
  have obtained : repository.obtain id expected backend = (.ok guard, notes, after) := by
    simp only [Repository.obtain, loaded]
  obtain ⟨events, isRead, isReplayed⟩ :=
    exists_events_of_obtain wellBehaved.undecorated sound.reliable obtained
  have counted := sound.records.counts_replay wellBehaved isRead isReplayed
  obtain ⟨-, -, ⟨-, missing⟩ | ⟨-, number, found⟩⟩ :=
    sound.records.load_spec wellBehaved sound.reliable id expected
  · rw [loaded] at missing
    cases missing
  · rw [loaded] at found
    refine ⟨id, histories id, List.prefix_rfl, ?_, fun _ => counted⟩
    rw [accept_eq_ok found.symm]
    exact carries_loaded (sound.records.lifetime id) number

theorem Sound.counts_obtain (wellBehaved : repository.WellBehaved)
    (sound : repository.Sound backend histories) {expected : ExpectedVersion} {notes : List Note}
    {after : Backend}
    (obtained : repository.obtain id expected backend = (.ok guard, notes, after)) :
    repository.Counts backend.entries histories guard := by
  rcases obtain_eq_ok obtained with loaded | ⟨-, -, rfl⟩
  · exact sound.counts_load wellBehaved (congrArg Prod.fst loaded)
  · exact counts_newAggregate

theorem Handling.counts (wellBehaved : repository.WellBehaved) {live : Guard Payload State}
    (handling : repository.Handling guard live)
    (counts : repository.Counts entries histories guard) :
    repository.Counts entries histories live := by
  induction handling with
  | start => exact counts
  | apply before stamp payload metadata admits applied ih =>
    exact ih.apply wellBehaved admits applied
  | delete before ih => exact ih.of_same rfl rfl rfl rfl

theorem Counts.exists_identifier (counts : repository.Counts entries histories guard)
    (queued : guard.uncommitted ≠ []) :
    ∃ id, guard.identifier repository.configuration = some id := by
  obtain ⟨id, past, -, carries, -⟩ := counts
  exact ⟨id, carries.identifier_eq (List.append_ne_nil_of_right_ne_nil _ queued)⟩

/-- A queue is refused, and nothing changes, or its guard is at the end of a life and has
counted enough. -/
theorem Counts.write_cases (wellBehaved : repository.WellBehaved)
    (sound : repository.Sound backend histories)
    (counts : repository.Counts backend.entries histories guard)
    (queued : guard.uncommitted ≠ [])
    (owned : guard.identifier repository.configuration = some id) :
    (∃ error, repository.write id guard backend = (.error error, guard, backend)) ∨
    ∃ batch, repository.write id guard backend = (.ok guard.uncommitted, guard.commit.2,
        { backend with entries := backend.entries.pushAll batch }) ∧
      repository.Carries id (histories id) guard ∧
      (histories id).length ≤
        backend.entries.covered (repository.streamKey id) + guard.eventsSinceSnapshot ∧
      repository.Records (backend.entries.pushAll batch)
        (Function.update histories id (histories id ++ guard.uncommitted)) := by
  obtain ⟨owner, past, front, carries, counted⟩ := counts
  have identified := carries.identifier_eq (List.append_ne_nil_of_right_ne_nil _ queued)
  obtain rfl : owner = id := Option.some.inj (identified.symm.trans owned)
  by_cases current : past = histories owner
  · subst current
    rcases carries.write_pushes wellBehaved sound.reliable sound.records queued with
      ⟨event, refused⟩ | ⟨batch, stored, -, -, records, -⟩
    · exact .inl ⟨_, refused⟩
    · exact .inr ⟨batch, stored, carries, counted rfl, records⟩
  · exact .inl ⟨_, carries.write_stale wellBehaved sound.reliable sound.records front queued
      current⟩

/-! ## Taking a snapshot in time -/

/-- What is asked of the snapshots of a repository: they are taken after a number of events,
every state can be written and read back, and the latest snapshot is kept. -/
structure TakesSnapshots (repository : Repository Payload State Note Bus) (threshold : Nat) :
    Prop where
  triggered : repository.trigger = .eventCount threshold
  statesRoundTrip (state : State) : repository.store.codec.serializer.RoundTrips
    (repository.configuration.snapshotKind.inject state)
  keepsAny : 1 ≤ repository.store.config.maxSnapshots

variable {threshold : Nat}

/-- A snapshot can be taken of every guard that is at a version, and be written. -/
theorem Carries.exists_snapshot (takes : repository.TakesSnapshots threshold)
    (carries : repository.Carries id past guard) (nonempty : past ≠ []) (stamp : Stamp) :
    ∃ snapshot entry, guard.snapshot? repository.configuration stamp = some snapshot ∧
      repository.store.codec.encode repository.typeIdentifier snapshot = .ok entry := by
  have version : guard.version = some (past.getLast nonempty).sequenceNumber := by
    rw [carries.version, List.getLast?_eq_some_getLast nonempty]
    rfl
  have owned := carries.identifier_eq (List.append_ne_nil_of_left_ne_nil nonempty _)
  let snapshot : DomainEvent Payload := .ofStamp stamp id (past.getLast nonempty).sequenceNumber
    (repository.configuration.snapshotKind.inject guard.state) .empty
  have writable : ∃ document,
      repository.store.codec.serializer.serialize snapshot.payload = .ok document :=
    (takes.statesRoundTrip guard.state).imp fun _ => And.left
  obtain ⟨entry, encoded⟩ := EventCodec.exists_encode_eq_ok writable repository.typeIdentifier
  refine ⟨snapshot, entry, ?_, encoded⟩
  rw [Guard.snapshot?, version, owned]
  rfl

/-- What a guard that has stored its queue leaves behind when it has taken a snapshot, if
one was due. -/
structure Covers (repository : Repository Payload State Note Bus) (threshold : Nat)
    (events : List (DomainEvent Payload)) (id : AggregateId) (before : EntryStore)
    (saved : Guard Payload State) (after : EntryStore) : Prop where
  filed : after.Filed
  carries : repository.Carries id events saved
  grows (other : AggregateId) : before.covered (repository.streamKey other) ≤
    after.covered (repository.streamKey other)
  within : events.length < after.covered (repository.streamKey id) + max threshold 1
  counted : events.length ≤
    after.covered (repository.streamKey id) + saved.eventsSinceSnapshot
  latest (key : StreamKey) (entry : Entry) : after.HasSnapshot key entry →
    before.HasSnapshot key entry ∨
      key = repository.streamKey id ∧ entry.sequenceNumber + 1 = events.length

theorem Sound.covers_snapshotIfDue (wellBehaved : repository.WellBehaved)
    (takes : repository.TakesSnapshots threshold) (sound : repository.Sound backend histories)
    (filed : backend.entries.Filed) (carries : repository.Carries id (histories id) guard)
    (nothingQueued : guard.uncommitted = []) (nonempty : histories id ≠ [])
    (counted : (histories id).length ≤
      backend.entries.covered (repository.streamKey id) + guard.eventsSinceSnapshot)
    (stamp : Stamp) :
    let (saved, after) := repository.snapshotIfDue stamp guard backend
    repository.Covers threshold (histories id) id backend.entries saved after.entries := by
  by_cases isDue : max threshold 1 ≤ guard.eventsSinceSnapshot
  · obtain ⟨snapshot, entry, taken, encoded⟩ := carries.exists_snapshot takes nonempty stamp
    have triggered : repository.trigger.isDue guard.eventsSinceSnapshot = true := by
      rw [takes.triggered]
      exact decide_eq_true isDue
    obtain ⟨ownKey, isSnapshot⟩ := carries.isSnapshotOf wellBehaved.faithful nothingQueued taken
      encoded
    have number := isSnapshot.sequenceNumber_eq
    have covered := sound.records.covered_of_snapshot filed ownKey number takes.keepsAny
      ⟨repository.typeIdentifier, snapshot.aggregateId⟩
    rw [snapshotIfDue_of_due sound.reliable triggered taken encoded]
    constructor
    case filed => exact (filed.persistSnapshot entry).pruneSnapshots _ _
    case carries => exact carries.of_same rfl rfl rfl
    case grows =>
      intro other
      rw [covered]
      split
      next own => exact own ▸ sound.records.covered_le other
      next => exact Nat.le_refl _
    case within =>
      rw [covered, if_pos rfl]
      omega
    case counted =>
      rw [covered, if_pos rfl]
      exact Nat.le_add_right _ _
    case latest =>
      intro key other has
      rcases has.of_pruneSnapshots.of_persistSnapshot with ⟨rfl, rfl⟩ | before
      · exact .inr ⟨ownKey, number⟩
      · exact .inl before
  · have passes : repository.snapshotIfDue stamp guard backend = (guard, backend) := by
      rw [Repository.snapshotIfDue, takes.triggered, SnapshotTrigger.isDue,
        if_neg (by simpa using isDue)]
    rw [passes]
    exact
      { filed
        carries
        grows := fun _ => Nat.le_refl _
        within := by omega
        counted
        latest := fun _ _ has => .inl has }

/-! ## Saving -/

/-- A store in which no history has more events behind its latest snapshot than the trigger
allows. -/
structure Bounded (repository : Repository Payload State Note Bus) (threshold : Nat)
    (backend : Backend) (histories : AggregateId → List (DomainEvent Payload)) : Prop where
  sound : repository.Sound backend histories
  filed : backend.entries.Filed
  within (id : AggregateId) : (histories id).length <
    backend.entries.covered (repository.streamKey id) + max threshold 1

theorem bounded_empty : repository.Bounded threshold .empty fun _ => [] where
  sound := ⟨Backend.reliable_empty, records_empty⟩
  filed := EntryStore.filed_empty
  within _ := by
    rw [List.length_nil]
    omega

theorem Bounded.of_entries {after : Backend}
    (bounded : repository.Bounded threshold backend histories) (reliable : after.Reliable)
    (same : after.entries = backend.entries) : repository.Bounded threshold after histories where
  sound := ⟨reliable, same ▸ bounded.sound.records⟩
  filed := same ▸ bounded.filed
  within id := by
    rw [same]
    exact bounded.within id

/-- Every snapshot that has been stored in between is of the last event of the aggregate. -/
def LastPictured (repository : Repository Payload State Note Bus) (guard : Guard Payload State)
    (before after : EntryStore) : Prop :=
  ∀ key entry, after.HasSnapshot key entry → before.HasSnapshot key entry ∨
    ∃ id, guard.identifier repository.configuration = some id ∧ key = repository.streamKey id ∧
      after.lastNumber? key = some entry.sequenceNumber

/-- What a save keeps, of the store and of the guards in use. -/
structure KeepsCount (repository : Repository Payload State Note Bus) (threshold : Nat)
    (guard : Guard Payload State) (before : Backend)
    (histories : AggregateId → List (DomainEvent Payload)) (saved : Guard Payload State)
    (after : Backend) (later : AggregateId → List (DomainEvent Payload)) : Prop where
  bounded : repository.Bounded threshold after later
  counts : repository.Counts after.entries later saved
  others (other : Guard Payload State) : repository.Counts before.entries histories other →
    repository.Counts after.entries later other
  pictured : repository.LastPictured guard before.entries after.entries

theorem keepsCount_of_unchanged (bounded : repository.Bounded threshold backend histories)
    (counts : repository.Counts backend.entries histories guard) :
    repository.KeepsCount threshold guard backend histories guard backend histories where
  bounded := bounded
  counts := counts
  others _ counted := counted
  pictured _ _ has := .inl has

/-- Whoever has stored a queue takes a snapshot in time; all other guards of the aggregate
are stale from then on. -/
theorem Bounded.keepsCount_of_stored (wellBehaved : repository.WellBehaved)
    (takes : repository.TakesSnapshots threshold)
    (bounded : repository.Bounded threshold backend histories)
    (carries : repository.Carries id (histories id) guard) (queued : guard.uncommitted ≠ [])
    (counted : (histories id).length ≤
      backend.entries.covered (repository.streamKey id) + guard.eventsSinceSnapshot)
    {batch : List Entry}
    (records : repository.Records (backend.entries.pushAll batch)
      (Function.update histories id (histories id ++ guard.uncommitted))) (stamp : Stamp) :
    let (saved, after) := repository.snapshotIfDue stamp guard.commit.2
      { backend with entries := backend.entries.pushAll batch }
    repository.KeepsCount threshold guard backend histories saved after
      (Function.update histories id (histories id ++ guard.uncommitted)) := by
  generalize isLater : Function.update histories id (histories id ++ guard.uncommitted) = later
    at records
  have own : later id = histories id ++ guard.uncommitted := by
    rw [← isLater, Function.update_self]
  have foreign {other : AggregateId} (different : other ≠ id) : later other = histories other := by
    rw [← isLater, Function.update_of_ne different]
  have longer : (histories id).length < (later id).length := by
    rw [own, List.length_append]
    exact Nat.lt_add_of_pos_right (List.length_pos_iff.mpr queued)
  have nonempty : later id ≠ [] := List.ne_nil_of_length_pos (by omega)
  have owned := carries.identifier_eq (own ▸ nonempty)
  have sound : repository.Sound { backend with entries := backend.entries.pushAll batch } later :=
    ⟨bounded.sound.reliable, records⟩
  have committed : repository.Carries id (later id) guard.commit.2 := own ▸ carries.commit
  have counted' : (later id).length ≤
      (backend.entries.pushAll batch).covered (repository.streamKey id) +
        guard.commit.2.eventsSinceSnapshot := by
    rw [EntryStore.covered_pushAll, own, List.length_append]
    change _ ≤ _ + (guard.eventsSinceSnapshot + guard.uncommitted.length)
    omega
  have covers := sound.covers_snapshotIfDue wellBehaved takes (bounded.filed.pushAll batch)
    committed rfl nonempty counted' stamp
  have soundAfter := (sound.snapshotIfDue wellBehaved
    ⟨id, later id, List.prefix_rfl, committed⟩ rfl stamp).1
  rcases outcome : repository.snapshotIfDue stamp guard.commit.2
    { backend with entries := backend.entries.pushAll batch } with ⟨saved, after⟩
  rw [outcome] at covers soundAfter
  have grows (other : AggregateId) : backend.entries.covered (repository.streamKey other) ≤
      after.entries.covered (repository.streamKey other) := by
    rw [← EntryStore.covered_pushAll backend.entries batch]
    exact covers.grows other
  constructor
  case bounded =>
    refine ⟨soundAfter, covers.filed, fun other => ?_⟩
    by_cases same : other = id
    · rw [same]
      exact covers.within
    · rw [foreign same]
      have before := bounded.within other
      have atLeast := grows other
      omega
  case counts => exact ⟨id, later id, List.prefix_rfl, covers.carries, fun _ => covers.counted⟩
  case others =>
    rintro other ⟨owner, past, front, carried, atLeast⟩
    by_cases same : owner = id
    · subst same
      have stale : past.length < (later owner).length := Nat.lt_of_le_of_lt front.length_le longer
      refine ⟨owner, past, ?_, carried, ?_⟩
      · rw [own]
        exact front.trans (List.prefix_append _ _)
      · rintro rfl
        exact absurd stale (Nat.lt_irrefl _)
    · rw [← foreign same] at front atLeast
      refine ⟨owner, past, front, carried, fun current => (atLeast current).trans ?_⟩
      exact Nat.add_le_add_right (grows owner) _
  case pictured =>
    intro key entry has
    rcases covers.latest key entry has with before | ⟨rfl, number⟩
    · rw [EntryStore.HasSnapshot, EntryStore.snapshotsOf, EntryStore.snapshots_pushAll] at before
      exact .inl before
    · refine .inr ⟨id, owned, rfl, ?_⟩
      rw [soundAfter.records.lastNumber?_eq,
        (soundAfter.records.lifetime id).getLast?_sequenceNumber, if_neg nonempty, ← number,
        Nat.add_sub_cancel]

theorem Bounded.save (wellBehaved : repository.WellBehaved)
    (takes : repository.TakesSnapshots threshold)
    (bounded : repository.Bounded threshold backend histories)
    (counts : repository.Counts backend.entries histories guard) (stamp : Stamp) (bus : Bus) :
    let (_, saved, after, _) := repository.save stamp guard backend bus
    ∃ later, repository.KeepsCount threshold guard backend histories saved after later := by
  have unchanged := keepsCount_of_unchanged bounded counts
  by_cases queued : guard.uncommitted = []
  · have nothing : repository.save stamp guard backend bus = (.ok [], guard, backend, bus) := by
      simp [Repository.save, queued]
    rw [nothing]
    exact ⟨histories, unchanged⟩
  obtain ⟨id, owned⟩ := counts.exists_identifier queued
  rcases counts.write_cases wellBehaved bounded.sound queued owned with
    ⟨error, refused⟩ | ⟨batch, stored, carries, counted, records⟩
  · rw [save_of_refused queued owned refused]
    exact ⟨histories, unchanged⟩
  · obtain ⟨answer, busAfter, saves, -⟩ := save_of_stored queued owned stored stamp bus
    rw [saves]
    exact ⟨_, bounded.keepsCount_of_stored wellBehaved takes carries queued counted records stamp⟩

/-! ## Clients whose saves run undisturbed -/

variable {Name : Type} [DecidableEq Name]

/-- No client is in the middle of a save. -/
def World.Quiet (world : World Name Payload State) : Prop :=
  ∀ name, world.clients name = .idle ∨ ∃ guard, world.clients name = .working guard

/-- What clients can bring about if their saves run undisturbed. -/
def Undisturbed (repository : Repository Payload State Note Bus) :
    World Name Payload State → Prop :=
  Relation.ReflTransGen (fun world next => repository.Step world next ∧ next.Quiet) World.start

/-- The store is bounded, and every guard in use has counted enough. -/
structure World.Counted (repository : Repository Payload State Note Bus) (threshold : Nat)
    (world : World Name Payload State)
    (histories : AggregateId → List (DomainEvent Payload)) : Prop where
  quiet : world.Quiet
  store : repository.Bounded threshold world.backend histories
  counts (name : Name) (guard : Guard Payload State) : world.clients name = .working guard →
    repository.Counts world.backend.entries histories guard

omit [DecidableEq Name] in
theorem World.counted_start :
    (World.start : World Name Payload State).Counted repository threshold fun _ => [] where
  quiet _ := .inl rfl
  store := bounded_empty
  counts _ _ works := by cases works

/-- One client goes on, and what the others have counted still counts. -/
theorem World.Counted.update {world : World Name Payload State}
    (counted : world.Counted repository threshold histories)
    {later : AggregateId → List (DomainEvent Payload)} {after : Backend}
    (store : repository.Bounded threshold after later)
    (others : ∀ other, repository.Counts world.backend.entries histories other →
      repository.Counts after.entries later other)
    {name : Name} {client : Client Payload State}
    (quiet : World.Quiet ⟨after, Function.update world.clients name client⟩)
    (counts : ∀ guard, client = .working guard → repository.Counts after.entries later guard) :
    World.Counted repository threshold ⟨after, Function.update world.clients name client⟩
      later where
  quiet := quiet
  store := store
  counts other guard works := by
    by_cases own : other = name
    · subst own
      exact counts guard ((Function.update_self other client world.clients).symm.trans works)
    · exact others guard (counted.counts other guard
        ((Function.update_of_ne own client world.clients).symm.trans works))

theorem World.Counted.updateClient {world : World Name Payload State}
    (counted : world.Counted repository threshold histories) {name : Name}
    {guard : Guard Payload State}
    (quiet : World.Quiet
      { world with clients := Function.update world.clients name (.working guard) })
    (counts : repository.Counts world.backend.entries histories guard) :
    World.Counted repository threshold
      { world with clients := Function.update world.clients name (.working guard) } histories := by
  refine counted.update counted.store (fun _ before => before) quiet fun other isGuard => ?_
  cases isGuard
  exact counts

omit [DecidableEq Name] in
theorem World.Counted.dispatch (wellBehaved : repository.WellBehaved)
    (takes : repository.TakesSnapshots threshold) {world : World Name Payload State}
    (counted : world.Counted repository threshold histories) (stamp : Stamp)
    (command : Command Payload State) (bus : Bus)
    (handles : ∀ guard live,
      (repository.obtain command.target command.expected world.backend).1 = .ok guard →
        command.handler guard = (.ok (), live) → repository.Handling guard live) :
    ∃ later, World.Counted repository threshold { world with
      backend := (repository.dispatch stamp command world.backend bus).backend } later := by
  have reliable := repository.reliable_load counted.store.sound.reliable command.target
    command.expected
  have sameEntries := repository.entries_load command.target command.expected world.backend
  rw [← repository.backend_obtain] at reliable sameEntries
  have obtainedBounded := counted.store.of_entries reliable sameEntries
  rcases repository.dispatch_cases stamp command world.backend bus with
    ⟨left, -⟩ | ⟨guard, notes, after, live, obtained, handled, -, left, -⟩
  · rw [left]
    refine ⟨histories, counted.quiet, obtainedBounded, fun name guard works => ?_⟩
    rw [sameEntries]
    exact counted.counts name guard works
  · have counts := (handles guard live (by rw [obtained]) handled).counts wellBehaved
      (counted.store.sound.counts_obtain wellBehaved obtained)
    rw [obtained] at sameEntries obtainedBounded
    rw [← sameEntries] at counts
    obtain ⟨later, keeps⟩ := obtainedBounded.save wellBehaved takes counts stamp bus
    rw [left]
    refine ⟨later, counted.quiet, keeps.bounded, fun name other works => keeps.others other ?_⟩
    rw [sameEntries]
    exact counted.counts name other works

/-- A step after which nobody is in the middle of a save keeps the count. -/
theorem Step.counted (wellBehaved : repository.WellBehaved)
    (takes : repository.TakesSnapshots threshold) {world next : World Name Payload State}
    (step : repository.Step world next) (quiet : next.Quiet)
    (counted : world.Counted repository threshold histories) :
    ∃ later, next.Counted repository threshold later := by
  cases step with
  | create name => exact ⟨histories, counted.updateClient quiet counts_newAggregate⟩
  | load name id expected =>
    have sameEntries := repository.entries_load id expected world.backend
    have reliable := repository.reliable_load counted.store.sound.reliable id expected
    refine ⟨histories, counted.update (counted.store.of_entries reliable sameEntries)
      (fun other before => by rwa [sameEntries]) quiet fun guard isLoaded => ?_⟩
    rw [sameEntries]
    cases found : (repository.load id expected world.backend).1 with
    | error error =>
      rw [found] at isLoaded
      cases isLoaded
    | ok loaded =>
      rw [found] at isLoaded
      cases isLoaded
      exact counted.store.sound.counts_load wellBehaved found
  | @apply name guard live works stamp payload metadata admits applied =>
    exact ⟨histories, counted.updateClient quiet
      ((counted.counts name guard works).apply wellBehaved admits applied)⟩
  | @delete name guard works =>
    exact ⟨histories, counted.updateClient quiet
      ((counted.counts name guard works).of_same rfl rfl rfl rfl)⟩
  | @write name guard id works queued owned =>
    have counts := counted.counts name guard works
    -- A queue that is stored on its own leaves the client in the middle of a save.
    rcases counts.write_cases wellBehaved counted.store.sound queued owned with
      ⟨error, refused⟩ | ⟨batch, stored, -⟩
    · rw [refused] at quiet ⊢
      exact ⟨histories, counted.updateClient quiet counts⟩
    · rw [stored] at quiet
      have atWork := quiet name
      simp [Client.ofWrite] at atWork
  | @passSnapshot name guard stores =>
    have atWork := counted.quiet name
    simp [stores] at atWork
  | @storeSnapshot name guard snapshot entry stores =>
    have atWork := counted.quiet name
    simp [stores] at atWork
  | @pruneSnapshots name key guard prunes =>
    have atWork := counted.quiet name
    simp [prunes] at atWork
  | @save name guard works stamp bus =>
    obtain ⟨later, keeps⟩ := counted.store.save wellBehaved takes (counted.counts name guard works)
      stamp bus
    refine ⟨later, counted.update keeps.bounded keeps.others quiet fun saved isSaved => ?_⟩
    cases isSaved
    exact keeps.counts
  | dispatch stamp command bus handles =>
    exact counted.dispatch wellBehaved takes stamp command bus handles

theorem Undisturbed.counted (wellBehaved : repository.WellBehaved)
    (takes : repository.TakesSnapshots threshold) {world : World Name Payload State}
    (undisturbed : repository.Undisturbed world) :
    ∃ histories, world.Counted repository threshold histories := by
  induction undisturbed with
  | refl => exact ⟨_, World.counted_start⟩
  | tail _ step ih =>
    obtain ⟨histories, counted⟩ := ih
    exact step.1.counted wellBehaved takes step.2 counted

theorem Bounded.length_behindSnapshot_lt
    (bounded : repository.Bounded threshold backend histories) (id : AggregateId) :
    (backend.entries.behindSnapshot (repository.streamKey id)).length < max threshold 1 := by
  rw [bounded.sound.records.length_behindSnapshot]
  have within := bounded.within id
  omega

/-- However clients interleave, as long as their saves run undisturbed: no stored stream
has more events behind its latest snapshot, or at all without one, than the trigger allows,
before a save and after it, and the snapshots that a save has stored are of the last event
of the saved stream. -/
theorem Undisturbed.replay_bounded (wellBehaved : repository.WellBehaved)
    (takes : repository.TakesSnapshots threshold) {world : World Name Payload State}
    (undisturbed : repository.Undisturbed world) :
    (∀ id, (world.backend.entries.behindSnapshot (repository.streamKey id)).length <
      max threshold 1) ∧
    ∀ name guard, world.clients name = .working guard → guard.uncommitted ≠ [] →
      ∃ id, guard.identifier repository.configuration = some id ∧ ∀ stamp bus,
        let (_, _, after, _) := repository.save stamp guard world.backend bus
        (after.entries.behindSnapshot (repository.streamKey id)).length < max threshold 1 ∧
        ∀ key entry, after.entries.HasSnapshot key entry →
          world.backend.entries.HasSnapshot key entry ∨
            key = repository.streamKey id ∧
              after.entries.lastNumber? key = some entry.sequenceNumber := by
  obtain ⟨histories, counted⟩ := undisturbed.counted wellBehaved takes
  refine ⟨counted.store.length_behindSnapshot_lt, fun name guard works queued => ?_⟩
  have counts := counted.counts name guard works
  obtain ⟨id, owned⟩ := counts.exists_identifier queued
  refine ⟨id, owned, fun stamp bus => ?_⟩
  obtain ⟨later, keeps⟩ := counted.store.save wellBehaved takes counts stamp bus
  refine ⟨keeps.bounded.length_behindSnapshot_lt id, fun key entry has => ?_⟩
  refine (keeps.pictured key entry has).imp_right ?_
  rintro ⟨owner, isOwner, isKey, isLast⟩
  obtain rfl := Option.some.inj (isOwner.symm.trans owned)
  exact ⟨isKey, isLast⟩

/-- A meter is installed; its only event is covered by the only snapshot. -/
theorem Undisturbed.replay_bounded_of_meter :
    ∃ (world : World Unit MeterPayload Meter) (guard : Guard MeterPayload Meter),
      Meter.repository.Undisturbed world ∧ world.clients () = .working guard ∧
        guard.uncommitted.length = 1 ∧
        let (_, _, after, _) :=
          Meter.repository.save ⟨EventId.ofNat 2, default⟩ guard world.backend ()
        after.entries.behindSnapshot ⟨"Meter", ⟨"m"⟩⟩ = [] ∧
          after.entries.snapshotCount ⟨"Meter", ⟨"m"⟩⟩ = 1 := by
  have takes : Meter.repository.TakesSnapshots 1 :=
    { triggered := rfl
      statesRoundTrip := fun meter =>
        ⟨_, rfl, Meter.repository_wellBehaved.statesReadBack rfl⟩
      keepsAny := by decide }
  have begun : Meter.repository.Undisturbed (World.start : World Unit MeterPayload Meter) := .refl
  have created := begun.tail ⟨.create _ (), fun _ => .inr ⟨_, rfl⟩⟩
  have installed := created.tail ⟨.apply () rfl ⟨EventId.ofNat 1, default⟩
    (.installed ⟨"m"⟩ 2) .empty (Meter.admits_installed _ _) rfl, fun _ => .inr ⟨_, rfl⟩⟩
  obtain ⟨id, owned, saves⟩ :=
    (Undisturbed.replay_bounded Meter.repository_wellBehaved takes installed).2 () _ rfl nofun
  obtain rfl : ⟨"m"⟩ = id := Option.some.inj owned
  obtain ⟨few, -⟩ := saves ⟨EventId.ofNat 2, default⟩ ()
  exact ⟨_, _, installed, rfl, rfl, List.length_eq_zero_iff.mp (Nat.lt_one_iff.mp few),
    by decide +kernel⟩

end Repository

end EventSourcing
