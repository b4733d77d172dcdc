import EventSourcing.Proofs.Repository.Ownership

/-!
# What the answer to a save tells

A save encodes and stores a queue, commits it, may take a snapshot, and publishes.  Each of
these steps may fail, and the answer tells how far it has come: a failure of the publication
tells, as success does, that the queue is stored and the guard is without one, and any other
failure that nothing has changed (`Repository.save_tells`).  So a save after a save that has
stored the queue finds nothing to do, whatever has become of snapshot and publication.
-/

namespace EventSourcing

namespace Repository

variable {Payload State Note Bus : Type} [DocumentFamily Payload]
  {repository : Repository Payload State Note Bus} {id : AggregateId}
  {guard saved : Guard Payload State} {backend after : Backend}
  {events : List (DomainEvent Payload)}

/-- The queue of a guard has been stored, once and through the decorators, and the guard is
at the version of the last event of the queue. -/
structure Persisted (repository : Repository Payload State Note Bus)
    (guard : Guard Payload State) (before : Backend) (events : List (DomainEvent Payload))
    (saved : Guard Payload State) (after : Backend) : Prop where
  decorated : ∃ id, guard.identifier repository.configuration = some id ∧
    events = Decorator.appendAll repository.decorators (repository.streamKey id) guard.uncommitted
  appended : ∃ batch snapshots, repository.Written events batch ∧
    after.entries = { before.entries.pushAll batch with snapshots }
  nothingQueued : saved.uncommitted = []
  version : saved.version = guard.uncommitted.getLast?.map DomainEvent.sequenceNumber
  state : saved.state = guard.state

/-- Saving a guard would change nothing and tell of nothing, now or ever. -/
def NothingToSave (repository : Repository Payload State Note Bus)
    (guard : Guard Payload State) : Prop :=
  ∀ stamp backend bus, repository.save stamp guard backend bus = (.ok [], guard, backend, bus)

theorem nothingToSave_of_nothingQueued (repository : Repository Payload State Note Bus)
    (nothingQueued : guard.uncommitted = []) : repository.NothingToSave guard := by
  intro stamp backend bus
  simp [save, nothingQueued]

/-- What the answer to a save tells. -/
def Tells (repository : Repository Payload State Note Bus) (guard : Guard Payload State)
    (before : Backend) (bus : Bus) (saved : Guard Payload State) (after : Backend)
    (busAfter : Bus) : Except RepositoryError (List (DomainEvent Payload)) → Prop
  | .ok events =>
    repository.NothingToSave saved ∧
      if guard.uncommitted = [] then
        events = [] ∧ saved = guard ∧ after = before ∧ busAfter = bus
      else
        repository.Persisted guard before events saved after ∧
          repository.publish events bus = (.ok (), busAfter)
  | .error (.publish error) =>
    repository.NothingToSave saved ∧
      ∃ events, repository.Persisted guard before events saved after ∧
        repository.publish events bus = (.error (.publish error), busAfter)
  | .error _ => saved = guard ∧ after.entries = before.entries ∧ busAfter = bus

/-! ## The steps of a save -/

/-- Whatever becomes of a snapshot, a guard only forgets how many events it has counted. -/
theorem guard_snapshotIfDue (repository : Repository Payload State Note Bus) (stamp : Stamp)
    (guard : Guard Payload State) (backend : Backend) :
    (repository.snapshotIfDue stamp guard backend).1 = guard ∨
      (repository.snapshotIfDue stamp guard backend).1 = guard.resetSnapshotCounter := by
  unfold snapshotIfDue
  split
  · cases guard.snapshot? repository.configuration stamp with
    | none => exact .inl rfl
    | some snapshot =>
      rcases stored : repository.store.appendSnapshot repository.typeIdentifier snapshot backend
        with ⟨error | _, after⟩
      · exact .inl (by simp only [stored])
      · exact .inr (by simp only [stored])
  · exact .inl rfl

/-- Storing a queue fails and changes nothing, or stores the queue and commits it. -/
theorem write_outcome (repository : Repository Payload State Note Bus) (id : AggregateId)
    (guard : Guard Payload State) (backend : Backend) :
    (∃ error after, repository.write id guard backend = (.error (.store error), guard, after) ∧
      after.entries = backend.entries) ∨
    ∃ events batch after, repository.write id guard backend = (.ok events, guard.commit.2, after) ∧
      events = Decorator.appendAll repository.decorators (repository.streamKey id)
        guard.uncommitted ∧
      repository.Written events batch ∧ after.entries = backend.entries.pushAll batch := by
  generalize isEvents : Decorator.appendAll repository.decorators (repository.streamKey id)
    guard.uncommitted = events
  rcases repository.store.append_pushes repository.typeIdentifier events backend with
    ⟨error, after, refused, unchanged⟩ | ⟨batch, after, appended, written, pushed⟩
  · exact .inl ⟨error, after, by simp only [write, isEvents, refused], unchanged⟩
  · exact .inr ⟨events, batch, after, by simp only [write, isEvents, appended], rfl, written,
      pushed⟩

theorem publish_cases (repository : Repository Payload State Note Bus)
    (events : List (DomainEvent Payload)) (bus : Bus) :
    (∃ busAfter, repository.publish events bus = (.ok (), busAfter)) ∨
      ∃ error busAfter, repository.publish events bus = (.error (.publish error), busAfter) := by
  unfold publish
  cases repository.publisher with
  | none => exact .inl ⟨bus, rfl⟩
  | some publisher =>
    rcases published : publisher.publish (events.map .domain) bus with ⟨error | _, busAfter⟩
    · exact .inr ⟨error, busAfter, by simp only [published]⟩
    · exact .inl ⟨busAfter, by simp only [published]⟩

/-- Behind a stored queue, a save persists it, with or without a snapshot. -/
theorem persisted_snapshotIfDue {batch : List Entry} (queued : guard.uncommitted ≠ [])
    (owned : guard.identifier repository.configuration = some id)
    (isEvents : events = Decorator.appendAll repository.decorators (repository.streamKey id)
      guard.uncommitted)
    (written : repository.Written events batch)
    (pushed : after.entries = backend.entries.pushAll batch) (stamp : Stamp) :
    repository.Persisted guard backend events
      (repository.snapshotIfDue stamp guard.commit.2 after).1
      (repository.snapshotIfDue stamp guard.commit.2 after).2 := by
  obtain ⟨snapshots, left⟩ := repository.entries_snapshotIfDue stamp guard.commit.2 after
  have last : guard.lastSequenceNumber? =
      guard.uncommitted.getLast?.map DomainEvent.sequenceNumber := by
    rw [Guard.lastSequenceNumber?, List.getLast?_eq_some_getLast queued]
    rfl
  have appended : ∃ batch snapshots, repository.Written events batch ∧
      (repository.snapshotIfDue stamp guard.commit.2 after).2.entries =
        { backend.entries.pushAll batch with snapshots } :=
    ⟨batch, snapshots, written, by rw [left, pushed]⟩
  rcases repository.guard_snapshotIfDue stamp guard.commit.2 after with same | forgetful
  · rw [same]
    exact ⟨⟨id, owned, isEvents⟩, appended, rfl, last, rfl⟩
  · rw [forgetful]
    exact ⟨⟨id, owned, isEvents⟩, appended, rfl, last, rfl⟩

/-! ## The answer -/

/-- A save of any guard, whatever fails, answers with what it has done: it tells the events
that it has stored and published, or that only the publication of what it has stored has
failed, or it has done nothing.  In the first two cases there is nothing left to save. -/
theorem save_tells (repository : Repository Payload State Note Bus) (stamp : Stamp)
    (guard : Guard Payload State) (backend : Backend) (bus : Bus) :
    let (answer, saved, after, busAfter) := repository.save stamp guard backend bus
    repository.Tells guard backend bus saved after busAfter answer := by
  by_cases queued : guard.uncommitted = []
  · have nothingToSave := repository.nothingToSave_of_nothingQueued queued
    rw [nothingToSave stamp backend bus]
    refine ⟨nothingToSave, ?_⟩
    rw [if_pos queued]
    exact ⟨rfl, rfl, rfl, rfl⟩
  have nonempty : guard.uncommitted.isEmpty = false := by simpa using queued
  cases owned : guard.identifier repository.configuration with
  | none =>
    simp only [save, nonempty, Bool.false_eq_true, ↓reduceIte, owned]
    exact ⟨rfl, rfl, rfl⟩
  | some id =>
    rcases repository.write_outcome id guard backend with
      ⟨error, after, refused, unchanged⟩ | ⟨events, batch, after, stored, isEvents, written, pushed⟩
    · rw [save_of_refused queued owned refused]
      exact ⟨rfl, unchanged, rfl⟩
    have persisted := persisted_snapshotIfDue queued owned isEvents written pushed stamp
    have nothingLeft := repository.nothingToSave_of_nothingQueued persisted.nothingQueued
    rcases repository.publish_cases events bus with
      ⟨busAfter, published⟩ | ⟨error, busAfter, failed⟩
    · simp only [save, nonempty, Bool.false_eq_true, ↓reduceIte, owned, stored, published]
      refine ⟨nothingLeft, ?_⟩
      rw [if_neg queued]
      exact ⟨persisted, published⟩
    · simp only [save, nonempty, Bool.false_eq_true, ↓reduceIte, owned, stored, failed]
      exact ⟨nothingLeft, events, persisted, failed⟩

/-- A bus that fails does not keep a meter from being stored. -/
example :
    let repository : Repository MeterPayload Meter Unit Unit :=
      { Meter.repository with publisher := some (.failing .poisoned) }
    let (_, installed) := repository.newAggregate.apply Meter.configuration
      ⟨EventId.ofNat 1, default⟩ (.installed ⟨"m"⟩ 2) .empty
    let (answer, saved, after, _) := repository.save ⟨EventId.ofNat 2, default⟩ installed .empty ()
    answer = .error (.publish .poisoned) ∧ after.entries.eventCount = 1 ∧ saved.version = some 0 :=
  ⟨rfl, rfl, rfl⟩

end Repository

end EventSourcing
