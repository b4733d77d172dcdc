import EventSourcing.Proofs.Repository.Histories

/-!
# Saving

The queue of a guard is numbered behind the guard's version.  If the life of its
aggregate has gone on since, the first of these numbers is taken and the save is
refused as a whole; otherwise the queue is stored behind the life, or refused
because of an identity that is in use (`Repository.Carries.write_stale`,
`Repository.Carries.write_current`).  A snapshot is taken of a guard without a
queue, whose state is the one after its stored past.
-/

namespace EventSourcing

namespace EntryStore

/-- Free and different positions leave only identities to be in conflict. -/
theorem exists_event_of_conflict? {store : EntryStore} {batch : List Entry}
    {conflict : KeyConflict}
    (free : ∀ entry ∈ batch,
      (store.positions entry.streamKey).contains entry.sequenceNumber = false)
    (ascending : batch.Pairwise fun entry later => entry.sequenceNumber < later.sequenceNumber)
    (found : store.conflict? [] batch = some conflict) : ∃ id, conflict = .event id := by
  induction batch generalizing store with
  | nil => simp [conflict?] at found
  | cons entry rest ih =>
    obtain ⟨behind, restAscending⟩ := List.pairwise_cons.mp ascending
    have freeEntry := free entry List.mem_cons_self
    by_cases used : entry.eventId ∈ store.eventIds
    · refine ⟨entry.eventId, ?_⟩
      simp [conflict?, freeEntry, used] at found
      exact found.symm
    · have later : (store.push entry).conflict? [] rest = some conflict := by
        rw [conflict?_push, List.nil_append, ← found]
        simp [conflict?, freeEntry, used]
      refine ih ?_ restAscending later
      intro other member
      have notHere : other.sequenceNumber ≠ entry.sequenceNumber :=
        Nat.ne_of_gt (behind other member)
      have freeOther := free other (List.mem_cons_of_mem _ member)
      rw [OrderedMap.contains, get?_positions_push, if_neg fun same => notHere same.2]
      exact freeOther

/-- A batch of one history leaves the others as they are. -/
theorem history_pushAll_of_own (store : EntryStore) {own : StreamKey} {batch : List Entry}
    (ownKey : ∀ entry ∈ batch, entry.streamKey = own) (key : StreamKey) :
    (store.pushAll batch).history key =
      store.history key ++ if key = own then batch else [] := by
  rw [history_pushAll]
  by_cases isOwn : key = own
  · rw [if_pos isOwn, List.filter_eq_self.mpr fun entry member =>
      decide_eq_true ((ownKey entry member).trans isOwn.symm)]
  · rw [if_neg isOwn, List.filter_eq_nil_iff.mpr fun entry member same =>
      isOwn ((of_decide_eq_true same).symm.trans (ownKey entry member))]

end EntryStore

namespace Repository

variable {Payload State Note Bus : Type} [DocumentFamily Payload]
  {repository : Repository Payload State Note Bus} {id : AggregateId}
  {entries : EntryStore} {histories : AggregateId → List (DomainEvent Payload)}
  {past : List (DomainEvent Payload)} {guard : Guard Payload State}

/-! ## Snapshots -/

/-- Snapshots may be exchanged for any others that hold states of lives. -/
theorem Records.withSnapshots (records : repository.Records entries histories)
    {snapshots : Table StreamKey (OrderedMap Nat Entry)}
    (sound : ∀ key entry, ({ entries with snapshots } : EntryStore).HasSnapshot key entry →
      ∃ id past, key = repository.streamKey id ∧ past <+: histories id ∧
        repository.IsSnapshotOf past entry) :
    repository.Records { entries with snapshots } histories where
  consistent := records.consistent.withSnapshots snapshots
  lifetime := records.lifetime
  written := records.written
  foreign := records.foreign
  snapshots := sound

theorem Records.pruneSnapshots (records : repository.Records entries histories)
    (key : StreamKey) (keep : Nat) :
    repository.Records (entries.pruneSnapshots key keep).2 histories := by
  have fewer (other : StreamKey) (entry : Entry)
      (has : (entries.pruneSnapshots key keep).2.HasSnapshot other entry) :=
    records.snapshots other entry has.of_pruneSnapshots
  obtain ⟨snapshots, pruned⟩ := entries.pruneSnapshots_eq key keep
  rw [pruned] at fewer ⊢
  exact records.withSnapshots fewer

/-- A snapshot that is taken of a guard without a queue holds the state after its past. -/
theorem Carries.isSnapshotOf (faithful : repository.Faithful)
    (carries : repository.Carries id past guard) (nothingQueued : guard.uncommitted = [])
    {stamp : Stamp} {snapshot : DomainEvent Payload} {entry : Entry}
    (taken : guard.snapshot? repository.configuration stamp = some snapshot)
    (encoded : repository.store.codec.encode repository.typeIdentifier snapshot = .ok entry) :
    entry.streamKey = repository.streamKey id ∧ repository.IsSnapshotOf past entry := by
  obtain ⟨version, isVersion, owner, isOwner, rfl⟩ : ∃ version, guard.version = some version ∧
      ∃ owner, guard.identifier repository.configuration = some owner ∧
        snapshot = DomainEvent.ofStamp stamp owner version
          (repository.configuration.snapshotKind.inject guard.state) .empty := by
    simp only [Guard.snapshot?, Option.bind_eq_bind, Option.bind_eq_some_iff, Option.pure_def,
      Option.some.injEq] at taken
    obtain ⟨version, isVersion, owner, isOwner, same⟩ := taken
    exact ⟨version, isVersion, owner, isOwner, same.symm⟩
  have state := carries.state
  have lifetime := carries.lifetime
  have identifier := carries.identifier_eq
  rw [nothingQueued, List.append_nil] at state lifetime identifier
  have number : version + 1 = past.length := by
    have last := lifetime.getLast?_sequenceNumber
    rw [← carries.version, isVersion] at last
    by_cases empty : past = []
    · simp [empty] at last
    · have positive := List.length_pos_iff.mpr empty
      rw [if_neg empty, Option.some.injEq] at last
      omega
  have nonempty : past ≠ [] := List.ne_nil_of_length_pos (by omega)
  obtain rfl : owner = id := Option.some.inj (isOwner.symm.trans (identifier nonempty))
  have decoded := EventCodec.decode_of_encode faithful.direct encoded fun document written =>
    faithful.statesReadBack written
  refine ⟨?_, _, decoded, congrArg _ state, number⟩
  obtain ⟨document, -, rfl⟩ := EventCodec.encode_eq_ok_iff.mp encoded
  rfl

/-- Storing the state of a guard without a queue leaves a record of lives. -/
theorem Records.persistSnapshot (wellBehaved : repository.WellBehaved)
    (records : repository.Records entries histories) (carries : repository.Carries id past guard)
    (front : past <+: histories id) (nothingQueued : guard.uncommitted = []) {stamp : Stamp}
    {snapshot : DomainEvent Payload} {entry : Entry}
    (taken : guard.snapshot? repository.configuration stamp = some snapshot)
    (encoded : repository.store.codec.encode repository.typeIdentifier snapshot = .ok entry) :
    repository.Records (entries.persistSnapshot entry) histories := by
  obtain ⟨ownKey, isSnapshot⟩ := carries.isSnapshotOf wellBehaved.faithful nothingQueued taken
    encoded
  refine records.withSnapshots fun key other has => ?_
  rcases EntryStore.HasSnapshot.of_persistSnapshot has with ⟨rfl, rfl⟩ | before
  · exact ⟨id, past, ownKey, front, isSnapshot⟩
  · exact records.snapshots key other before

/-! ## Storing a queue -/

theorem write_of_refused {backend : Backend} (reliable : backend.Reliable)
    {events : List (DomainEvent Payload)} {batch : List Entry}
    (decorated : Decorator.appendAll repository.decorators (repository.streamKey id)
      guard.uncommitted = events)
    (queued : events ≠ []) (written : repository.Written events batch) {conflict : KeyConflict}
    (refused : backend.entries.persist batch = .error (.duplicateKey conflict)) :
    repository.write id guard backend =
      (.error (.store (.concurrency conflict)), guard, backend) := by
  have nonempty : events.isEmpty = false := by simpa using queued
  simp only [write, decorated, EventStore.append, nonempty, Bool.false_eq_true, ↓reduceIte,
    mapM_eq_ok_of_forall₂ written, reliable.persist_of_error refused, EventStoreError.ofStorage]

theorem write_of_stored {backend : Backend} (reliable : backend.Reliable)
    {events : List (DomainEvent Payload)} {batch : List Entry}
    (decorated : Decorator.appendAll repository.decorators (repository.streamKey id)
      guard.uncommitted = events)
    (queued : events ≠ []) (written : repository.Written events batch) {next : EntryStore}
    (stored : backend.entries.persist batch = .ok next) :
    repository.write id guard backend =
      (.ok events, guard.commit.2, { backend with entries := next }) := by
  have nonempty : events.isEmpty = false := by simpa using queued
  simp only [write, decorated, EventStore.append, nonempty, Bool.false_eq_true, ↓reduceIte,
    mapM_eq_ok_of_forall₂ written, reliable.persist_of_ok stored]

theorem appendAll_of_undecorated (undecorated : repository.decorators = []) (key : StreamKey)
    (events : List (DomainEvent Payload)) :
    Decorator.appendAll repository.decorators key events = events := by
  rw [undecorated]
  rfl

/-- The queue of a guard is written as entries of its aggregate that are numbered
behind its past. -/
theorem Carries.exists_batch (carries : repository.Carries id past guard) :
    ∃ batch, repository.Written guard.uncommitted batch ∧
      (∀ entry ∈ batch, entry.streamKey = repository.streamKey id) ∧
      batch.map Entry.sequenceNumber = List.range' past.length batch.length := by
  obtain ⟨batch, written⟩ := exists_written fun event member =>
    carries.lifetime.admitted event (List.mem_append_right past member)
  refine ⟨batch, written, written.streamKey_eq fun event member =>
    carries.lifetime.attributed event (List.mem_append_right past member), ?_⟩
  have numbered := congrArg (List.drop past.length) carries.lifetime.numbered
  rw [List.map_append, List.drop_left' (List.length_map _), List.range_eq_range',
    List.drop_range'] at numbered
  rw [written.map_sequenceNumber, numbered, List.length_append, ← written.length_eq]
  simp

/-- The numbers of a recorded life are taken, and no others. -/
theorem Records.contains_iff (records : repository.Records entries histories)
    (id : AggregateId) (number : Nat) :
    (entries.positions (repository.streamKey id)).contains number = true ↔
      number < (histories id).length := by
  have taken : (∃ entry ∈ entries.history (repository.streamKey id),
      entry.sequenceNumber = number) ↔
        number ∈ (entries.history (repository.streamKey id)).map Entry.sequenceNumber :=
    List.mem_map.symm
  rw [records.consistent.contains_iff, taken, records.numbered, List.mem_range,
    ← (records.written id).length_eq]

/-- The queue of a guard whose past is not the whole life is refused, and nothing
changes. -/
theorem Carries.write_stale (wellBehaved : repository.WellBehaved) {backend : Backend}
    (reliable : backend.Reliable) (records : repository.Records backend.entries histories)
    (carries : repository.Carries id past guard) (front : past <+: histories id)
    (queued : guard.uncommitted ≠ []) (stale : past ≠ histories id) :
    repository.write id guard backend =
      (.error (.store (.concurrency (.position (repository.streamKey id) past.length))),
        guard, backend) := by
  obtain ⟨batch, written, ownKey, numbered⟩ := carries.exists_batch
  refine write_of_refused reliable (appendAll_of_undecorated wellBehaved.undecorated _ _) queued
    written ?_
  have behind : past.length < (histories id).length :=
    Nat.lt_of_le_of_ne front.length_le fun same => stale (front.eq_of_length same)
  cases batch with
  | nil => exact absurd (List.length_eq_zero_iff.mp written.length_eq) queued
  | cons entry rest =>
    have isKey := ownKey entry List.mem_cons_self
    have isNumber : entry.sequenceNumber = past.length := by
      have first := congrArg List.head? numbered
      simpa [List.range'_succ] using first
    have taken : (backend.entries.positions entry.streamKey).contains entry.sequenceNumber =
        true := by
      rw [isKey, isNumber]
      exact (records.contains_iff id past.length).mpr behind
    rw [EntryStore.persist_of_taken taken, isKey, isNumber]

/-- Lives go on. -/
def GoOn (histories later : AggregateId → List (DomainEvent Payload)) : Prop :=
  ∀ id, histories id <+: later id

omit [DocumentFamily Payload] in
theorem goOn_refl (histories : AggregateId → List (DomainEvent Payload)) :
    GoOn histories histories := fun _ => List.prefix_rfl

theorem Records.pushAll (records : repository.Records entries histories)
    {events : List (DomainEvent Payload)} {batch : List Entry}
    (lifetime : repository.Lifetime id (histories id ++ events))
    (written : repository.Written events batch)
    (ownKey : ∀ entry ∈ batch, entry.streamKey = repository.streamKey id)
    (free : entries.conflict? [] batch = none) :
    repository.Records (entries.pushAll batch)
        (Function.update histories id (histories id ++ events)) ∧
      GoOn histories (Function.update histories id (histories id ++ events)) := by
  have goOn : GoOn histories (Function.update histories id (histories id ++ events)) := by
    intro other
    by_cases own : other = id
    · subst own
      rw [Function.update_self]
      exact List.prefix_append _ _
    · rw [Function.update_of_ne own]
  have extended := EntryStore.history_pushAll_of_own entries ownKey
  refine ⟨?_, goOn⟩
  constructor
  case consistent => exact records.consistent.pushAll free
  case lifetime =>
    intro other
    by_cases own : other = id
    · subst own
      rwa [Function.update_self]
    · rw [Function.update_of_ne own]
      exact records.lifetime other
  case written =>
    intro other
    rw [extended]
    by_cases own : other = id
    · subst own
      rw [Function.update_self, if_pos rfl]
      exact List.rel_append (records.written other) written
    · rw [Function.update_of_ne own, if_neg fun same => own (streamKey_inj same), List.append_nil]
      exact records.written other
  case foreign =>
    intro key otherType
    have foreignKey : key ≠ repository.streamKey id := by
      rintro rfl
      exact otherType rfl
    rw [extended, if_neg foreignKey, List.append_nil]
    exact records.foreign key otherType
  case snapshots =>
    intro key entry has
    rw [EntryStore.HasSnapshot, EntryStore.snapshotsOf, EntryStore.snapshots_pushAll] at has
    obtain ⟨owner, beginning, isKey, front, isSnapshot⟩ := records.snapshots key entry has
    exact ⟨owner, beginning, isKey, front.trans (goOn owner), isSnapshot⟩

/-- The queue of a guard whose past is the whole life is pushed behind it, unless an
identity in it is in use. -/
theorem Carries.write_pushes (wellBehaved : repository.WellBehaved) {backend : Backend}
    (reliable : backend.Reliable) (records : repository.Records backend.entries histories)
    (carries : repository.Carries id (histories id) guard) (queued : guard.uncommitted ≠ []) :
    (∃ event, repository.write id guard backend =
      (.error (.store (.concurrency (.event event))), guard, backend)) ∨
    ∃ batch, repository.write id guard backend = (.ok guard.uncommitted, guard.commit.2,
        { backend with entries := backend.entries.pushAll batch }) ∧
      repository.Written guard.uncommitted batch ∧
      (∀ entry ∈ batch, entry.streamKey = repository.streamKey id) ∧
      repository.Records (backend.entries.pushAll batch)
        (Function.update histories id (histories id ++ guard.uncommitted)) ∧
      GoOn histories (Function.update histories id (histories id ++ guard.uncommitted)) := by
  obtain ⟨batch, written, ownKey, numbered⟩ := carries.exists_batch
  have undecorated := appendAll_of_undecorated wellBehaved.undecorated (repository.streamKey id)
    guard.uncommitted
  cases conflicts : backend.entries.conflict? [] batch with
  | some conflict =>
    have atLeast : ∀ entry ∈ batch, (histories id).length ≤ entry.sequenceNumber := by
      intro entry member
      have listed := List.mem_map_of_mem (f := Entry.sequenceNumber) member
      rw [numbered, List.mem_range'_1] at listed
      exact listed.1
    have free : ∀ entry ∈ batch, (backend.entries.positions entry.streamKey).contains
        entry.sequenceNumber = false := by
      intro entry member
      rw [ownKey entry member, ← Bool.not_eq_true, records.contains_iff, Nat.not_lt]
      exact atLeast entry member
    have ascending : batch.Pairwise fun entry later =>
        entry.sequenceNumber < later.sequenceNumber := by
      rw [← List.pairwise_map (f := Entry.sequenceNumber), numbered]
      exact List.pairwise_lt_range'
    obtain ⟨event, rfl⟩ := EntryStore.exists_event_of_conflict? free ascending conflicts
    have refused : backend.entries.persist batch = .error (.duplicateKey (.event event)) := by
      simp only [EntryStore.persist, conflicts]
    exact .inl ⟨event, write_of_refused reliable undecorated queued written refused⟩
  | none =>
    have stored : backend.entries.persist batch = .ok (backend.entries.pushAll batch) :=
      EntryStore.persist_eq_ok_iff.mpr ⟨conflicts, rfl⟩
    have longer := records.pushAll carries.lifetime written ownKey conflicts
    exact .inr ⟨batch, write_of_stored reliable undecorated queued written stored, written, ownKey,
      longer⟩

/-- A history goes on with the entries of a queue that is stored. -/
theorem Carries.write_current (wellBehaved : repository.WellBehaved) {backend : Backend}
    (reliable : backend.Reliable) (records : repository.Records backend.entries histories)
    (carries : repository.Carries id (histories id) guard) (queued : guard.uncommitted ≠ []) :
    (∃ event, repository.write id guard backend =
      (.error (.store (.concurrency (.event event))), guard, backend)) ∨
    ∃ next batch, repository.write id guard backend =
        (.ok guard.uncommitted, guard.commit.2, { backend with entries := next }) ∧
      repository.Written guard.uncommitted batch ∧
      next.history (repository.streamKey id) =
        backend.entries.history (repository.streamKey id) ++ batch ∧
      repository.Records next
        (Function.update histories id (histories id ++ guard.uncommitted)) ∧
      GoOn histories (Function.update histories id (histories id ++ guard.uncommitted)) := by
  refine (carries.write_pushes wellBehaved reliable records queued).imp_right ?_
  rintro ⟨batch, stored, written, ownKey, longer⟩
  refine ⟨_, batch, stored, written, ?_, longer⟩
  rw [EntryStore.history_pushAll_of_own backend.entries ownKey, if_pos rfl]

/-! ## What loading and saving keep -/

/-- A backend that never fails and records lives. -/
structure Sound (repository : Repository Payload State Note Bus) (backend : Backend)
    (histories : AggregateId → List (DomainEvent Payload)) : Prop where
  reliable : backend.Reliable
  records : repository.Records backend.entries histories

/-- A guard whose past is part of a recorded life. -/
def Holds (repository : Repository Payload State Note Bus)
    (histories : AggregateId → List (DomainEvent Payload)) (guard : Guard Payload State) : Prop :=
  ∃ id past, past <+: histories id ∧ repository.Carries id past guard

variable {backend : Backend} {later : AggregateId → List (DomainEvent Payload)}

theorem Holds.goOn (holds : repository.Holds histories guard) (goOn : GoOn histories later) :
    repository.Holds later guard := by
  obtain ⟨id, past, front, carries⟩ := holds
  exact ⟨id, past, front.trans (goOn id), carries⟩

theorem holds_newAggregate : repository.Holds histories repository.newAggregate :=
  ⟨⟨""⟩, [], List.nil_prefix, carries_newAggregate⟩

theorem Holds.of_same {next : Guard Payload State} (holds : repository.Holds histories guard)
    (state : next.state = guard.state) (version : next.version = guard.version)
    (uncommitted : next.uncommitted = guard.uncommitted) : repository.Holds histories next := by
  obtain ⟨id, past, front, carries⟩ := holds
  exact ⟨id, past, front, carries.of_same state version uncommitted⟩

theorem Holds.apply (wellBehaved : repository.WellBehaved) {next : Guard Payload State}
    (holds : repository.Holds histories guard) {stamp : Stamp} {payload : Payload}
    {metadata : Metadata} (admits : repository.Admits payload)
    (applied : guard.apply repository.configuration stamp payload metadata = (.ok (), next)) :
    repository.Holds histories next := by
  obtain ⟨id, past, front, carries⟩ := holds
  obtain ⟨owner, isOwner, continued⟩ := carries.apply wellBehaved.faithful admits applied
  refine ⟨owner, past, ?_, continued⟩
  rcases isOwner with rfl | rfl
  · exact front
  · exact List.nil_prefix

theorem carries_loaded {events : List (DomainEvent Payload)}
    (lifetime : repository.Lifetime id events) (counted : Nat) :
    repository.Carries id events (repository.loaded events counted) where
  lifetime := by simpa [loaded] using lifetime
  state := by simp [loaded]
  version := rfl

theorem Sound.load (wellBehaved : repository.WellBehaved)
    (sound : repository.Sound backend histories) (id : AggregateId) (expected : ExpectedVersion) :
    repository.Sound (repository.load id expected backend).2.2 histories ∧
      ∀ guard, (repository.load id expected backend).1 = .ok guard →
        repository.Holds histories guard := by
  obtain ⟨sameEntries, reliable, outcome⟩ :=
    sound.records.load_spec wellBehaved sound.reliable id expected
  refine ⟨⟨reliable, sameEntries ▸ sound.records⟩, ?_⟩
  intro guard accepted
  rcases outcome with ⟨-, missing⟩ | ⟨-, counted, found⟩
  · exact absurd (missing.symm.trans accepted) nofun
  · rw [found] at accepted
    obtain rfl := accept_eq_ok accepted
    exact ⟨id, histories id, List.prefix_rfl, carries_loaded (sound.records.lifetime id) counted⟩

theorem Sound.write (wellBehaved : repository.WellBehaved)
    (sound : repository.Sound backend histories) (holds : repository.Holds histories guard)
    (owned : guard.identifier repository.configuration = some id)
    (queued : guard.uncommitted ≠ []) :
    ∃ later, GoOn histories later ∧
      repository.Sound (repository.write id guard backend).2.2 later ∧
      repository.Holds later (repository.write id guard backend).2.1 ∧
      ∀ events, (repository.write id guard backend).1 = .ok events →
        (repository.write id guard backend).2.1.uncommitted = [] := by
  obtain ⟨owner, past, front, carries⟩ := holds
  have nonempty : past ++ guard.uncommitted ≠ [] := fun empty =>
    queued (List.append_eq_nil_iff.mp empty).2
  obtain rfl : owner = id := Option.some.inj ((carries.identifier_eq nonempty).symm.trans owned)
  have unchanged := goOn_refl histories
  by_cases current : past = histories owner
  · rcases (current ▸ carries).write_current wellBehaved sound.reliable sound.records queued with
      ⟨event, refused⟩ | ⟨next, batch, stored, -, -, records, goOn⟩
    · rw [refused]
      exact ⟨histories, unchanged, sound, ⟨owner, past, front, carries⟩, nofun⟩
    · rw [stored]
      refine ⟨_, goOn, ⟨sound.reliable, records⟩, ⟨owner, past ++ guard.uncommitted, ?_,
        carries.commit⟩, fun _ _ => rfl⟩
      rw [Function.update_self, current]
  · rw [carries.write_stale wellBehaved sound.reliable sound.records front queued current]
    exact ⟨histories, unchanged, sound, ⟨owner, past, front, carries⟩, nofun⟩

end Repository

end EventSourcing
