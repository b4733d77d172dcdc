import EventSourcing.Proofs.Aggregate.Replay
import EventSourcing.Proofs.EventStore.PagedReading
import EventSourcing.Repository.Dispatcher

/-!
# Loading

Loading replays what there is to be read of a history, behind the decorators, into a
new aggregate (`Repository.load_of_events`).  It changes nothing that is stored.
-/

namespace EventSourcing

namespace Repository

variable {Payload State Note Bus : Type} [DocumentFamily Payload]
  {repository : Repository Payload State Note Bus} {id : AggregateId} {backend : Backend}

/-- Behind the decorators, the events of a stream are replayed into a new aggregate. -/
theorem rebuild_of_items {key : StreamKey} {stream : EventStream (ReadMark Note) Payload}
    {events : List (DomainEvent Payload)}
    (delivers : (Decorator.readAll key repository.decorators stream).2.items = events.map .ok) :
    ∃ marks, repository.rebuild key stream =
      (.ok (), repository.newAggregate.replayEvents repository.configuration events, marks) := by
  have fresh : repository.newAggregate.uncommitted = [] := rfl
  rcases decorated : Decorator.readAll key repository.decorators stream with ⟨marks, read⟩
  rw [decorated] at delivers
  simp only [rebuild, decorated, Guard.replay_of_items fresh delivers]
  exact ⟨_, rfl⟩

/-- A stream that ends with a failure cannot be replayed. -/
theorem rebuild_of_failure {key : StreamKey} {stream : EventStream (ReadMark Note) Payload}
    {error : StreamError}
    (fails : .error error ∈ (Decorator.readAll key repository.decorators stream).2.items) :
    ∃ cause rest, repository.rebuild key stream = (.error cause, rest) := by
  rcases decorated : Decorator.readAll key repository.decorators stream with ⟨marks, read⟩
  rw [decorated] at fails
  rcases replayed : repository.newAggregate.replay repository.configuration read with
    ⟨result, guard, more⟩
  cases result with
  | error cause =>
    exact ⟨cause, (guard, marks ++ more), by simp only [rebuild, decorated, replayed]⟩
  | ok =>
    obtain ⟨events, delivers, -⟩ := Guard.exists_events_of_replay_eq_ok replayed
    simp [delivers] at fails

/-! ## What loading keeps -/

/-- Loading changes nothing that is stored, whether it fails or not. -/
@[simp] theorem entries_load (repository : Repository Payload State Note Bus) (id : AggregateId)
    (expected : ExpectedVersion) (backend : Backend) :
    (repository.load id expected backend).2.2.entries = backend.entries := by
  have unchanged : (repository.store.read (repository.streamKey id) backend :
      Except EventStoreError (EventStream (ReadMark Note) Payload) × Backend).2.entries =
        backend.entries := EventStore.entries_read _ _ _
  simp only [load]
  split
  next read => rw [read] at unchanged; exact unchanged
  next read => rw [read] at unchanged; exact unchanged
  next stream after read =>
    rw [read] at unchanged
    rcases repository.rebuild (repository.streamKey id) stream with ⟨error | _, guard, marks⟩
    · exact (Backend.entries_settle after marks).trans unchanged
    · exact (Backend.entries_settle after marks).trans unchanged

theorem reliable_load (repository : Repository Payload State Note Bus)
    (reliable : backend.Reliable) (id : AggregateId) (expected : ExpectedVersion) :
    (repository.load id expected backend).2.2.Reliable := by
  obtain ⟨after, -, stillReliable, outcome⟩ :=
    repository.store.read_spec Note (repository.streamKey id) reliable
  rcases outcome with ⟨-, read⟩ | ⟨-, stream, read, -⟩
  · simp only [load, read]
    exact stillReliable
  · rcases rebuilt : repository.rebuild (repository.streamKey id) stream with
      ⟨error | _, guard, marks⟩
    · simp only [load, read, rebuilt]
      exact stillReliable.settle marks
    · simp only [load, read, rebuilt]
      exact stillReliable.settle marks

/-! ## What loading gives -/

theorem load_of_nothing (reliable : backend.Reliable)
    (nothing : repository.store.eventsRead backend.entries (repository.streamKey id) = .ok [])
    (expected : ExpectedVersion) :
    (repository.load id expected backend).1 = .error (.aggregateNotFound id) := by
  obtain ⟨after, -, -, outcome⟩ :=
    repository.store.read_spec Note (repository.streamKey id) reliable
  rcases outcome with ⟨-, read⟩ | ⟨something, -⟩
  · simp only [load, read]
  · exact absurd nothing something

/-- Loading accepts the aggregate that the events lead to, as the decorators deliver them. -/
theorem load_of_delivered (reliable : backend.Reliable) {stored : List (DomainEvent Payload)}
    (something : stored ≠ [])
    (isRead : repository.store.eventsRead backend.entries (repository.streamKey id) = .ok stored)
    {guard : Guard Payload State}
    (delivers : ∀ stream : EventStream (ReadMark Note) Payload, stream.items = stored.map .ok →
      ∃ events, (Decorator.readAll (repository.streamKey id) repository.decorators
          stream).2.items = events.map .ok ∧
        repository.newAggregate.replayEvents repository.configuration events = guard)
    (expected : ExpectedVersion) :
    (repository.load id expected backend).1 = repository.accept id expected guard := by
  obtain ⟨after, -, -, outcome⟩ :=
    repository.store.read_spec Note (repository.streamKey id) reliable
  rw [isRead] at outcome
  rcases outcome with ⟨nothing, -⟩ | ⟨-, stream, read, storedItems⟩
  · exact absurd (Except.ok.inj nothing) something
  · obtain ⟨events, decorated, rfl⟩ := delivers stream storedItems
    obtain ⟨marks, rebuilt⟩ := rebuild_of_items decorated
    simp only [load, read, rebuilt]

section Undecorated

variable (undecorated : repository.decorators = [])

include undecorated

theorem load_of_events (reliable : backend.Reliable) {events : List (DomainEvent Payload)}
    (something : events ≠ [])
    (isRead : repository.store.eventsRead backend.entries (repository.streamKey id) = .ok events)
    (expected : ExpectedVersion) :
    (repository.load id expected backend).1 = repository.accept id expected
      (repository.newAggregate.replayEvents repository.configuration events) := by
  refine load_of_delivered reliable something isRead (fun stream items => ?_) expected
  rw [undecorated]
  exact ⟨events, items, rfl⟩

theorem load_of_unreadable (reliable : backend.Reliable) {error : DocumentError}
    (unreadable : repository.store.eventsRead backend.entries (repository.streamKey id) =
      .error error) (expected : ExpectedVersion) :
    ∃ cause, (repository.load id expected backend).1 = .error (.domain cause) := by
  obtain ⟨after, -, -, outcome⟩ :=
    repository.store.read_spec Note (repository.streamKey id) reliable
  rw [unreadable] at outcome
  rcases outcome with ⟨nothing, -⟩ | ⟨-, stream, read, events, delivers⟩
  · exact absurd nothing nofun
  · have decorated : .error (EventStoreError.document error).toStreamError ∈
        (Decorator.readAll (repository.streamKey id) repository.decorators stream).2.items := by
      rw [undecorated]
      change _ ∈ stream.items
      simp [delivers]
    obtain ⟨cause, rest, rebuilt⟩ := rebuild_of_failure decorated
    refine ⟨cause, ?_⟩
    simp only [load, read, rebuilt]

end Undecorated

/-! ## Obtaining an aggregate -/

theorem accept_eq_ok {expected : ExpectedVersion} {found guard : Guard Payload State}
    (accepted : repository.accept id expected found = .ok guard) : guard = found := by
  unfold accept at accepted
  split at accepted
  · simp at accepted
  · split at accepted
    · exact (Except.ok.inj accepted).symm
    · simp at accepted

theorem accept_ne_notFound (expected : ExpectedVersion) (found : Guard Payload State)
    (missing : AggregateId) :
    repository.accept id expected found ≠ .error (.aggregateNotFound missing) := by
  unfold accept
  split
  · simp
  · split <;> simp

/-- An aggregate to work on is a loaded one, or a new one if there is no history. -/
theorem obtain_eq_ok {expected : ExpectedVersion} {guard : Guard Payload State}
    {notes : List Note} {after : Backend}
    (obtained : repository.obtain id expected backend = (.ok guard, notes, after)) :
    repository.load id expected backend = (.ok guard, notes, after) ∨
      ∃ missing, repository.load id expected backend =
          (.error (.aggregateNotFound missing), notes, after) ∧
        guard = repository.newAggregate := by
  unfold obtain at obtained
  split at obtained
  next missing notesRead afterRead loaded =>
    split at obtained
    · simp only [Prod.mk.injEq, Except.ok.injEq] at obtained
      obtain ⟨rfl, rfl, rfl⟩ := obtained
      exact .inr ⟨missing, loaded, rfl⟩
    · simp at obtained
  next => exact .inl obtained

/-- An aggregate to work on is rebuilt from events, so nothing is queued in it. -/
theorem uncommitted_obtain {expected : ExpectedVersion} {guard : Guard Payload State}
    {notes : List Note} {after : Backend}
    (obtained : repository.obtain id expected backend = (.ok guard, notes, after)) :
    guard.uncommitted = [] := by
  rcases obtain_eq_ok obtained with loaded | ⟨missing, -, rfl⟩
  · simp only [load] at loaded
    split at loaded
    · simp at loaded
    · simp at loaded
    next stream opened read =>
      rcases decorated : Decorator.readAll (repository.streamKey id) repository.decorators stream
        with ⟨marks, delivered⟩
      rcases replayed : repository.newAggregate.replay repository.configuration delivered with
        ⟨error | _, rebuilt, more⟩
      · simp [rebuild, decorated, replayed] at loaded
      · obtain ⟨events, -, rfl⟩ := Guard.exists_events_of_replay_eq_ok replayed
        simp only [rebuild, decorated, replayed, Prod.mk.injEq] at loaded
        rw [accept_eq_ok loaded.1, Guard.uncommitted_replayEvents]
        rfl
  · rfl

/-- An aggregate to work on is what can be read of its history, be it nothing. -/
theorem exists_events_of_obtain (undecorated : repository.decorators = [])
    (reliable : backend.Reliable) {expected : ExpectedVersion} {guard : Guard Payload State}
    {notes : List Note} {after : Backend}
    (obtained : repository.obtain id expected backend = (.ok guard, notes, after)) :
    ∃ events,
      repository.store.eventsRead backend.entries (repository.streamKey id) = .ok events ∧
        guard = repository.newAggregate.replayEvents repository.configuration events := by
  have outcome : (repository.load id expected backend).1 = .ok guard ∨
      ∃ missing, (repository.load id expected backend).1 = .error (.aggregateNotFound missing) ∧
        guard = repository.newAggregate :=
    (obtain_eq_ok obtained).imp (congrArg Prod.fst) fun ⟨missing, loaded, isNew⟩ =>
      ⟨missing, congrArg Prod.fst loaded, isNew⟩
  cases isRead : repository.store.eventsRead backend.entries (repository.streamKey id) with
  | error error =>
    obtain ⟨cause, failed⟩ := load_of_unreadable undecorated reliable isRead expected
    rw [failed] at outcome
    simp at outcome
  | ok events =>
    refine ⟨events, rfl, ?_⟩
    by_cases nothing : events = []
    · subst nothing
      rw [load_of_nothing reliable isRead] at outcome
      rcases outcome with found | ⟨-, -, isNew⟩
      · simp at found
      · exact isNew
    · rw [load_of_events undecorated reliable nothing isRead] at outcome
      rcases outcome with accepted | ⟨missing, failed, -⟩
      · exact accept_eq_ok accepted
      · exact absurd failed (accept_ne_notFound _ _ _)

theorem exists_obtain_of_events (undecorated : repository.decorators = [])
    (reliable : backend.Reliable) {events : List (DomainEvent Payload)} (something : events ≠ [])
    (isRead : repository.store.eventsRead backend.entries (repository.streamKey id) = .ok events)
    {expected : ExpectedVersion} {guard : Guard Payload State}
    (accepted : repository.accept id expected
      (repository.newAggregate.replayEvents repository.configuration events) = .ok guard) :
    ∃ notes after, repository.obtain id expected backend = (.ok guard, notes, after) := by
  have found := load_of_events undecorated reliable something isRead expected
  rw [accepted] at found
  rcases loaded : repository.load id expected backend with ⟨result, notes, after⟩
  rw [loaded] at found
  obtain rfl : result = .ok guard := found
  exact ⟨notes, after, by simp only [obtain, loaded]⟩

/-- Obtaining an aggregate leaves the backend as loading it does. -/
theorem backend_obtain (repository : Repository Payload State Note Bus) (id : AggregateId)
    (expected : ExpectedVersion) (backend : Backend) :
    (repository.obtain id expected backend).2.2 = (repository.load id expected backend).2.2 := by
  unfold obtain
  split
  next loaded =>
    rw [loaded]
    split <;> rfl
  next => rfl

end Repository

end EventSourcing
