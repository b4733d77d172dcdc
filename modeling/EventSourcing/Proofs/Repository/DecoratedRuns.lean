import EventSourcing.Proofs.Repository.InvisibleSnapshots

/-!
# Commands behind decorators

Whatever commands are dispatched, the store holds an archive of the batches that have
been saved (`Repository.Dispatched.archiving`), for a command works on what has just been
loaded, and its batch is stored as a whole or not at all.  So where decorators let
snapshots through, it does not matter whether there are any
(`Repository.Dispatched.snapshots_invisible`).
-/

namespace EventSourcing

namespace Repository

variable {Payload State Note Bus : Type} [DocumentFamily Payload]
  {repository : Repository Payload State Note Bus} {id : AggregateId}
  {entries : EntryStore} {backend : Backend}
  {saves : AggregateId → List (List (DomainEvent Payload))}
  {past : List (DomainEvent Payload)} {guard : Guard Payload State}

/-! ## Changing an archive -/

theorem archives_empty : repository.Archives .empty fun _ => [] where
  consistent := EntryStore.consistent_empty
  lifetime _ := lifetime_nil
  written _ := .nil
  snapshots key entry has := by
    obtain ⟨number, found⟩ := has
    simp [EntryStore.empty, EntryStore.snapshotsOf] at found

theorem Archives.withSnapshots (archives : repository.Archives entries saves)
    {snapshots : Table StreamKey (OrderedMap Nat Entry)}
    (sound : ∀ key entry, ({ entries with snapshots } : EntryStore).HasSnapshot key entry →
      ∃ id front, key = repository.streamKey id ∧ front <+: saves id ∧
        repository.IsSnapshotOf front.flatten entry) :
    repository.Archives { entries with snapshots } saves where
  consistent := archives.consistent.withSnapshots snapshots
  lifetime := archives.lifetime
  written := archives.written
  snapshots := sound

theorem Archives.pruneSnapshots (archives : repository.Archives entries saves)
    (key : StreamKey) (keep : Nat) :
    repository.Archives (entries.pruneSnapshots key keep).2 saves := by
  have fewer (other : StreamKey) (entry : Entry)
      (has : (entries.pruneSnapshots key keep).2.HasSnapshot other entry) :=
    archives.snapshots other entry has.of_pruneSnapshots
  obtain ⟨snapshots, pruned⟩ := entries.pruneSnapshots_eq key keep
  rw [pruned] at fewer ⊢
  exact archives.withSnapshots fewer

/-- A snapshot is taken when everything of its aggregate has been saved. -/
theorem Archives.persistSnapshot (faithful : repository.Faithful)
    (archives : repository.Archives entries saves)
    (carries : repository.Carries id (saves id).flatten guard)
    (nothingQueued : guard.uncommitted = []) {stamp : Stamp} {snapshot : DomainEvent Payload}
    {entry : Entry}
    (taken : guard.snapshot? repository.configuration stamp = some snapshot)
    (encoded : repository.store.codec.encode repository.typeIdentifier snapshot = .ok entry) :
    repository.Archives (entries.persistSnapshot entry) saves := by
  obtain ⟨ownKey, isSnapshot⟩ := carries.isSnapshotOf faithful nothingQueued taken encoded
  refine archives.withSnapshots fun key other has => ?_
  rcases EntryStore.HasSnapshot.of_persistSnapshot has with ⟨rfl, rfl⟩ | before
  · exact ⟨id, saves id, ownKey, List.prefix_rfl, isSnapshot⟩
  · exact archives.snapshots key other before

/-- One batch more has been saved of an aggregate. -/
def saveMore (saves : AggregateId → List (List (DomainEvent Payload))) (id : AggregateId)
    (batch : List (DomainEvent Payload)) : AggregateId → List (List (DomainEvent Payload)) :=
  Function.update saves id (saves id ++ [batch])

omit [DocumentFamily Payload] in
theorem saveMore_self (saves : AggregateId → List (List (DomainEvent Payload)))
    (id : AggregateId) (batch : List (DomainEvent Payload)) :
    saveMore saves id batch id = saves id ++ [batch] := Function.update_self ..

omit [DocumentFamily Payload] in
theorem saveMore_of_ne (saves : AggregateId → List (List (DomainEvent Payload)))
    {id other : AggregateId} (batch : List (DomainEvent Payload)) (different : other ≠ id) :
    saveMore saves id batch other = saves other := Function.update_of_ne different ..

omit [DocumentFamily Payload] in
theorem mem_saveMore_iff {saves : AggregateId → List (List (DomainEvent Payload))}
    {id other : AggregateId} {batch member : List (DomainEvent Payload)} :
    member ∈ saveMore saves id batch other ↔
      member ∈ saves other ∨ other = id ∧ member = batch := by
  by_cases own : other = id
  · subst own
    simp [saveMore_self]
  · simp [saveMore_of_ne saves batch own, own]

/-- One batch more extends the history of its aggregate, as the decorators have made it, and
no other. -/
theorem written_pushAll
    (written : ∀ other, repository.Written (repository.decorated other (saves other))
      (entries.history (repository.streamKey other)))
    {events : List (DomainEvent Payload)} {batch : List Entry}
    (batchWritten : repository.Written
      (Decorator.appendAll repository.decorators (repository.streamKey id) events) batch)
    (ownKey : ∀ entry ∈ batch, entry.streamKey = repository.streamKey id)
    (other : AggregateId) :
    repository.Written (repository.decorated other (saveMore saves id events other))
      ((entries.pushAll batch).history (repository.streamKey other)) := by
  rw [EntryStore.history_pushAll_of_own entries ownKey]
  by_cases own : other = id
  · subst own
    rw [saveMore_self, decorated_append, if_pos rfl]
    refine List.rel_append (written other) ?_
    rw [decorated, List.flatMap_singleton]
    exact batchWritten
  · rw [saveMore_of_ne saves events own, if_neg fun same => own (streamKey_inj same),
      List.append_nil]
    exact written other

theorem Archives.pushAll (archives : repository.Archives entries saves)
    {events : List (DomainEvent Payload)} {batch : List Entry}
    (lifetime : repository.Lifetime id ((saves id).flatten ++ events))
    (written : repository.Written
      (Decorator.appendAll repository.decorators (repository.streamKey id) events) batch)
    (ownKey : ∀ entry ∈ batch, entry.streamKey = repository.streamKey id)
    (free : entries.conflict? [] batch = none) :
    repository.Archives (entries.pushAll batch) (saveMore saves id events) := by
  constructor
  case consistent => exact archives.consistent.pushAll free
  case lifetime =>
    intro other
    by_cases own : other = id
    · subst own
      rw [saveMore_self, List.flatten_append, List.flatten_singleton]
      exact lifetime
    · rw [saveMore_of_ne saves events own]
      exact archives.lifetime other
  case written => exact written_pushAll archives.written written ownKey
  case snapshots =>
    intro key entry has
    rw [EntryStore.HasSnapshot, EntryStore.snapshotsOf, EntryStore.snapshots_pushAll] at has
    obtain ⟨owner, front, isKey, isFront, isSnapshot⟩ := archives.snapshots key entry has
    refine ⟨owner, front, isKey, ?_, isSnapshot⟩
    by_cases own : owner = id
    · subst own
      rw [saveMore_self]
      exact isFront.trans (List.prefix_append _ _)
    · rwa [saveMore_of_ne saves events own]

/-! ## One command -/

/-- A backend that never fails and holds an archive. -/
structure Archiving (repository : Repository Payload State Note Bus) (backend : Backend)
    (saves : AggregateId → List (List (DomainEvent Payload))) : Prop where
  reliable : backend.Reliable
  archives : repository.Archives backend.entries saves

theorem Archiving.obtain (archiving : repository.Archiving backend saves) (id : AggregateId)
    (expected : ExpectedVersion) :
    repository.Archiving (repository.obtain id expected backend).2.2 saves := by
  rw [repository.backend_obtain]
  refine ⟨repository.reliable_load archiving.reliable id expected, ?_⟩
  rw [repository.entries_load]
  exact archiving.archives

/-- An aggregate to work on carries all that has been saved of it. -/
theorem Archiving.carries_obtain (faithful : repository.Faithful)
    (wellDecorated : repository.WellDecorated) (archiving : repository.Archiving backend saves)
    {expected : ExpectedVersion} {notes : List Note} {after : Backend}
    (obtained : repository.obtain id expected backend = (.ok guard, notes, after)) :
    repository.Carries id (saves id).flatten guard := by
  have outcome := archiving.archives.load_spec faithful wellDecorated archiving.reliable id expected
  rcases obtain_eq_ok obtained with loaded | ⟨missing, loaded, rfl⟩
  · rw [loaded] at outcome
    rcases outcome with ⟨-, failed⟩ | ⟨-, counted, found⟩
    · exact absurd failed nofun
    · rw [accept_eq_ok found.symm]
      exact carries_loaded (archiving.archives.lifetime id) counted
  · rw [loaded] at outcome
    rcases outcome with ⟨nothing, -⟩ | ⟨-, counted, found⟩
    · rw [nothing]
      exact carries_newAggregate
    · exact absurd found.symm (accept_ne_notFound _ _ _)

/-- The queue of a guard that carries all that has been saved becomes a batch of the
archive, or nothing is stored. -/
theorem Archiving.write (wellDecorated : repository.WellDecorated)
    (archiving : repository.Archiving backend saves)
    (carries : repository.Carries id (saves id).flatten guard) (queued : guard.uncommitted ≠ []) :
    (∃ error, repository.write id guard backend = (.error error, guard, backend)) ∨
    ∃ events after, repository.write id guard backend = (.ok events, guard.commit.2, after) ∧
      repository.Archiving after (saveMore saves id guard.uncommitted) := by
  generalize isEvents : Decorator.appendAll repository.decorators (repository.streamKey id)
    guard.uncommitted = events
  have places : events.map DomainEvent.place = guard.uncommitted.map DomainEvent.place := by
    rw [← isEvents]
    exact Decorator.appendAll_keepsPlaces wellDecorated.reversible _ _
  have something : events ≠ [] := by
    rintro rfl
    exact queued (List.map_eq_nil_iff.mp places.symm)
  cases encoded : events.mapM (repository.store.codec.encode repository.typeIdentifier) with
  | error error =>
    have nonempty : events.isEmpty = false := by simpa using something
    refine .inl ⟨.store (.document error), ?_⟩
    simp only [Repository.write, isEvents, EventStore.append, nonempty, Bool.false_eq_true,
      ↓reduceIte, encoded]
  | ok batch =>
    have written : repository.Written events batch := forall₂_of_mapM_eq_ok encoded
    have ownKey : ∀ entry ∈ batch, entry.streamKey = repository.streamKey id := by
      apply written.streamKey_eq
      rw [← isEvents]
      exact Decorator.appendAll_aggregateId wellDecorated.reversible _ fun event isQueued =>
        carries.lifetime.attributed event (List.mem_append_right _ isQueued)
    cases conflicts : backend.entries.conflict? [] batch with
    | some conflict =>
      have refused : backend.entries.persist batch = .error (.duplicateKey conflict) := by
        simp only [EntryStore.persist, conflicts]
      exact .inl ⟨_, write_of_refused archiving.reliable isEvents something written refused⟩
    | none =>
      have stored : backend.entries.persist batch = .ok (backend.entries.pushAll batch) :=
        EntryStore.persist_eq_ok_iff.mpr ⟨conflicts, rfl⟩
      rw [← isEvents] at written something
      exact .inr ⟨_, _, write_of_stored archiving.reliable rfl something written stored,
        archiving.reliable, archiving.archives.pushAll carries.lifetime written ownKey conflicts⟩

theorem Archiving.snapshotIfDue (faithful : repository.Faithful)
    (archiving : repository.Archiving backend saves)
    (carries : repository.Carries id (saves id).flatten guard)
    (nothingQueued : guard.uncommitted = []) (stamp : Stamp) :
    repository.Archiving (repository.snapshotIfDue stamp guard backend).2 saves := by
  rcases repository.snapshotIfDue_cases archiving.reliable guard stamp with
    nothing | ⟨snapshot, entry, key, taken, encoded, stored⟩
  · rw [nothing]
    exact archiving
  · have persisted := archiving.archives.persistSnapshot faithful carries nothingQueued taken
      encoded
    rw [stored]
    exact ⟨archiving.reliable, persisted.pruneSnapshots key _⟩

theorem Archiving.save (faithful : repository.Faithful) (wellDecorated : repository.WellDecorated)
    (archiving : repository.Archiving backend saves)
    (carries : repository.Carries id (saves id).flatten guard) (queued : guard.uncommitted ≠ [])
    (stamp : Stamp) (bus : Bus) :
    ∃ later, repository.Archiving (repository.save stamp guard backend bus).2.2.1 later := by
  have owned := carries.identifier_eq (List.append_ne_nil_of_right_ne_nil _ queued)
  rcases archiving.write wellDecorated carries queued with
    ⟨error, refused⟩ | ⟨events, after, stored, archivingAfter⟩
  · rw [save_of_refused queued owned refused]
    exact ⟨saves, archiving⟩
  · obtain ⟨result, busAfter, saved, -⟩ := save_of_stored queued owned stored stamp bus
    have carriesMore : repository.Carries id (saveMore saves id guard.uncommitted id).flatten
        guard.commit.2 := by
      rw [saveMore_self, List.flatten_append, List.flatten_singleton]
      exact carries.commit
    rw [saved]
    exact ⟨_, archivingAfter.snapshotIfDue faithful carriesMore rfl stamp⟩

theorem Archiving.dispatch (faithful : repository.Faithful)
    (wellDecorated : repository.WellDecorated) (archiving : repository.Archiving backend saves)
    (stamp : Stamp) (command : Command Payload State) (bus : Bus)
    (handles : ∀ guard live,
      (repository.obtain command.target command.expected backend).1 = .ok guard →
        command.handler guard = (.ok (), live) → repository.Handling guard live) :
    ∃ later, repository.Archiving (repository.dispatch stamp command backend bus).backend
      later := by
  have archivingAfter := archiving.obtain command.target command.expected
  rcases repository.dispatch_cases stamp command backend bus with
    ⟨left, -⟩ | ⟨guard, notes, after, live, obtained, handled, owned, left, -⟩
  · rw [left]
    exact ⟨saves, archivingAfter⟩
  rw [obtained] at archivingAfter handles
  have carries := archiving.carries_obtain faithful wellDecorated obtained
  have deciding := (handles guard live rfl handled).deciding
  obtain ⟨owner, isOwner, carried⟩ := deciding.carries faithful carries
  rw [left]
  by_cases queued : live.uncommitted = []
  · refine ⟨saves, ?_⟩
    simp only [Repository.save, queued, List.isEmpty_nil, ↓reduceIte]
    exact archivingAfter
  · have identified := carried.identifier_eq (List.append_ne_nil_of_right_ne_nil _ queued)
    obtain rfl : owner = command.target := Option.some.inj (identified.symm.trans owned)
    exact archivingAfter.save faithful wellDecorated carried queued stamp bus

/-! ## Runs -/

/-- What a store can be after commands have been dispatched one after another, whose
handlers only apply events, each of them with success. -/
inductive Dispatched (repository : Repository Payload State Note Bus) : Backend → Prop
  | start : Dispatched repository .empty
  | dispatch {held} (before : Dispatched repository held) (stamp : Stamp)
      (command : Command Payload State) (bus : Bus)
      (handles : ∀ found live,
        (repository.obtain command.target command.expected held).1 = .ok found →
          command.handler found = (.ok (), live) → repository.Handling found live) :
      Dispatched repository (repository.dispatch stamp command held bus).backend

theorem Dispatched.archiving (faithful : repository.Faithful)
    (wellDecorated : repository.WellDecorated) (dispatched : repository.Dispatched backend) :
    ∃ saves, repository.Archiving backend saves := by
  induction dispatched with
  | start => exact ⟨_, Backend.reliable_empty, archives_empty⟩
  | dispatch before stamp command bus handles ih =>
    obtain ⟨saves, archiving⟩ := ih
    exact archiving.dispatch faithful wellDecorated stamp command bus handles

theorem Archiving.withoutSnapshots (archiving : repository.Archiving backend saves) :
    repository.Archiving backend.withoutSnapshots saves where
  reliable := archiving.reliable
  archives := by
    refine archiving.archives.withSnapshots fun key entry has => ?_
    obtain ⟨number, found⟩ := has
    simp [EntryStore.snapshotsOf] at found

/-- What a load finds is what the life of the aggregate says. -/
theorem Archiving.load_eq (faithful : repository.Faithful)
    (wellDecorated : repository.WellDecorated) (archiving : repository.Archiving backend saves)
    (id : AggregateId) (expected : ExpectedVersion) :
    (repository.load id expected backend).1.map Guard.resetSnapshotCounter =
      if (saves id).flatten.isEmpty then .error (.aggregateNotFound id)
      else repository.accept id expected (repository.loaded (saves id).flatten 0) :=
  map_resetSnapshotCounter_of_outcome
    (archiving.archives.load_spec faithful wellDecorated archiving.reliable id expected)

/-- Behind decorators that can be undone and let snapshots through, loading fails alike
with and without snapshots, or gives the same guard but for the events counted since the
last snapshot. -/
theorem Dispatched.snapshots_invisible (faithful : repository.Faithful)
    (wellDecorated : repository.WellDecorated) (dispatched : repository.Dispatched backend)
    (id : AggregateId) (expected : ExpectedVersion) :
    (repository.load id expected backend).1.map Guard.resetSnapshotCounter =
      (repository.load id expected backend.withoutSnapshots).1.map
        Guard.resetSnapshotCounter := by
  obtain ⟨saves, archiving⟩ := dispatched.archiving faithful wellDecorated
  rw [archiving.load_eq faithful wellDecorated,
    archiving.withoutSnapshots.load_eq faithful wellDecorated]

end Repository

end EventSourcing
