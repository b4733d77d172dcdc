import EventSourcing.EventStore.Pages
import EventSourcing.Proofs.Storage.ConsistentLog

/-!
# What calls to a backend do

A call that fails changes nothing that is stored.  Where no failures are planned every
call is answered out of the entries, and changes them as an entry store does.  Snapshots
stand beside the log: storing and removing them leaves every history as it is.
-/

namespace EventSourcing

namespace EntryStore

/-- Whether a store holds a snapshot of a history. -/
def HasSnapshot (store : EntryStore) (key : StreamKey) (entry : Entry) : Prop :=
  ∃ number, (store.snapshotsOf key).get? number = some entry

theorem hasSnapshot_of_lastSnapshot? {store : EntryStore} {key : StreamKey} {entry : Entry}
    (last : store.lastSnapshot? key = some entry) : store.HasSnapshot key entry := by
  obtain ⟨⟨number, _⟩, found, rfl⟩ := Option.map_eq_some_iff.mp last
  exact ⟨number, OrderedMap.get?_eq_some_iff.mpr (List.mem_of_getLast? found)⟩

theorem get?_snapshotsOf_persistSnapshot (store : EntryStore) (stored : Entry) (key : StreamKey)
    (number : Nat) :
    ((store.persistSnapshot stored).snapshotsOf key).get? number =
      if key = stored.streamKey ∧ number = stored.sequenceNumber then some stored
      else (store.snapshotsOf key).get? number := by
  by_cases own : key = stored.streamKey
  · subst own
    simp [persistSnapshot, snapshotsOf]
  · simp [persistSnapshot, snapshotsOf, own]

/-- A snapshot that is there after another one was stored is this one or was there
before. -/
theorem HasSnapshot.of_persistSnapshot {store : EntryStore} {key : StreamKey}
    {entry stored : Entry} (has : (store.persistSnapshot stored).HasSnapshot key entry) :
    key = stored.streamKey ∧ entry = stored ∨ store.HasSnapshot key entry := by
  obtain ⟨number, found⟩ := has
  rw [get?_snapshotsOf_persistSnapshot] at found
  split at found
  next own => exact .inl ⟨own.1, (Option.some.inj found).symm⟩
  next other => exact .inr ⟨number, found⟩

theorem get?_snapshotsOf_of_pruneSnapshots {store : EntryStore} {key pruned : StreamKey}
    {keep number : Nat} {entry : Entry}
    (found : ((store.pruneSnapshots pruned keep).2.snapshotsOf key).get? number = some entry) :
    (store.snapshotsOf key).get? number = some entry := by
  unfold pruneSnapshots at found
  cases kept : store.snapshots.get? pruned with
  | none => simpa only [kept] using found
  | some snapshots =>
    simp only [kept, snapshotsOf, Table.get?_put] at found
    by_cases own : key = pruned
    · subst own
      simp only [↓reduceIte, Option.getD_some] at found
      have listed := List.mem_of_mem_drop (OrderedMap.get?_eq_some_iff.mp found)
      rw [snapshotsOf, kept]
      exact OrderedMap.get?_eq_some_iff.mpr listed
    · simpa only [own, ↓reduceIte, snapshotsOf] using found

theorem HasSnapshot.of_pruneSnapshots {store : EntryStore} {key pruned : StreamKey} {keep : Nat}
    {entry : Entry} (has : (store.pruneSnapshots pruned keep).2.HasSnapshot key entry) :
    store.HasSnapshot key entry := by
  obtain ⟨number, found⟩ := has
  exact ⟨number, get?_snapshotsOf_of_pruneSnapshots found⟩

theorem Consistent.withSnapshots {store : EntryStore} (consistent : store.Consistent)
    (snapshots : Table StreamKey (OrderedMap Nat Entry)) :
    ({ store with snapshots } : EntryStore).Consistent :=
  ⟨consistent.indexed, consistent.identified⟩

theorem pruneSnapshots_eq (store : EntryStore) (key : StreamKey) (keep : Nat) :
    ∃ snapshots, (store.pruneSnapshots key keep).2 = { store with snapshots } := by
  unfold pruneSnapshots
  cases store.snapshots.get? key with
  | none => exact ⟨_, rfl⟩
  | some snapshots => exact ⟨_, rfl⟩

@[simp] theorem history_pruneSnapshots (store : EntryStore) (key : StreamKey) (keep : Nat)
    (other : StreamKey) :
    (store.pruneSnapshots key keep).2.history other = store.history other := by
  obtain ⟨snapshots, pruned⟩ := store.pruneSnapshots_eq key keep
  rw [pruned]
  rfl

end EntryStore

namespace Backend

/-- No failures are planned. -/
def Reliable (backend : Backend) : Prop :=
  ∀ operation, backend.faults.get? operation = none

theorem reliable_empty : Backend.empty.Reliable := fun _ => rfl

variable {backend : Backend}

@[simp] theorem entries_query {Answer : Type} (operation : StorageOperation)
    (answer : EntryStore → Answer) (backend : Backend) :
    (backend.query operation answer).2.entries = backend.entries := by
  have unchanged := entries_attempt operation backend
  unfold query
  rcases attempted : backend.attempt operation with ⟨_ | error, after⟩
  · rw [attempted] at unchanged
    exact unchanged
  · rw [attempted] at unchanged
    exact unchanged

/-! ## Calls that may fail -/

/-- A batch is stored as a whole, or nothing is. -/
theorem persist_cases (backend : Backend) (batch : List Entry) :
    (∃ error after, backend.persist batch = (.error error, after) ∧
      after.entries = backend.entries) ∨
    ∃ after, backend.persist batch = (.ok (), after) ∧
      backend.entries.persist batch = .ok after.entries := by
  have unchanged := entries_attempt .persistEvents backend
  rcases attempted : backend.attempt .persistEvents with ⟨_ | error, after⟩
  · rw [attempted] at unchanged
    cases stored : after.entries.persist batch with
    | error error =>
      refine .inl ⟨error, after, ?_, unchanged⟩
      simp only [persist, attempted, stored]
    | ok entries =>
      refine .inr ⟨{ after with entries }, ?_, ?_⟩
      · simp only [persist, attempted, stored]
      · rw [← unchanged, stored]
  · rw [attempted] at unchanged
    refine .inl ⟨error, after, ?_, unchanged⟩
    simp only [persist, attempted]

/-- Storing a snapshot leaves everything but the snapshots as it is. -/
theorem entries_persistSnapshot (entry : Entry) (backend : Backend) :
    ∃ snapshots,
      (backend.persistSnapshot entry).2.entries = { backend.entries with snapshots } := by
  have unchanged := entries_attempt .persistSnapshot backend
  rcases attempted : backend.attempt .persistSnapshot with ⟨_ | error, after⟩
  · rw [attempted] at unchanged
    simp only [persistSnapshot, attempted, ← unchanged]
    exact ⟨_, rfl⟩
  · rw [attempted] at unchanged
    simp only [persistSnapshot, attempted, ← unchanged]
    exact ⟨_, rfl⟩

theorem entries_pruneSnapshots (key : StreamKey) (keep : Nat) (backend : Backend) :
    ∃ snapshots,
      (backend.pruneSnapshots key keep).2.entries = { backend.entries with snapshots } := by
  have unchanged := entries_attempt .pruneSnapshots backend
  rcases attempted : backend.attempt .pruneSnapshots with ⟨_ | error, after⟩
  · rw [attempted] at unchanged
    simp only [pruneSnapshots, attempted, ← unchanged]
    exact after.entries.pruneSnapshots_eq key keep
  · rw [attempted] at unchanged
    simp only [pruneSnapshots, attempted, ← unchanged]
    exact ⟨_, rfl⟩

/-! ## Other snapshots -/

/-- The backend with other snapshots. -/
def withSnapshots (backend : Backend)
    (snapshots : Table StreamKey (OrderedMap Nat Entry)) : Backend :=
  { backend with entries := { backend.entries with snapshots } }

/-- Whether a call fails does not depend on the snapshots. -/
theorem attempt_withSnapshots (operation : StorageOperation) (backend : Backend)
    (snapshots : Table StreamKey (OrderedMap Nat Entry)) :
    (backend.withSnapshots snapshots).attempt operation =
      ((backend.attempt operation).1, (backend.attempt operation).2.withSnapshots snapshots) := by
  unfold attempt plan withSnapshots
  dsimp only
  split
  · rfl
  · split
    · rfl
    · split <;> rfl

theorem attemptFetch_withSnapshots (backend : Backend)
    (snapshots : Table StreamKey (OrderedMap Nat Entry)) :
    (backend.withSnapshots snapshots).attemptFetch =
      (backend.attemptFetch.1, backend.attemptFetch.2.withSnapshots snapshots) :=
  attempt_withSnapshots .fetchBatch { backend with fetches := backend.fetches + 1 } snapshots

/-- Backends that a relation puts together fetch the same batches, or fail alike, and stay
together. -/
structure FetchesAlike (Together : Backend → Backend → Prop) : Prop where
  attempt : ∀ {first second after : Backend} {answer : Option StorageError},
    Together first second → first.attemptFetch = (answer, after) →
      ∃ other, second.attemptFetch = (answer, other) ∧ Together after other
  sameBatch : ∀ {first second : Backend}, Together first second → ∀ key number size,
    second.entries.fetchBatch key number size = first.entries.fetchBatch key number size

theorem fetchesAlike_withSnapshots (snapshots : Table StreamKey (OrderedMap Nat Entry)) :
    FetchesAlike fun first second => second = first.withSnapshots snapshots where
  attempt := by
    rintro first _ after answer rfl attempted
    refine ⟨after.withSnapshots snapshots, ?_, rfl⟩
    rw [attemptFetch_withSnapshots, attempted]
  sameBatch := by
    rintro first _ rfl key number size
    rfl

/-! ## Calls that do not fail -/

theorem Reliable.attempt (reliable : backend.Reliable) (operation : StorageOperation) :
    backend.attempt operation = (none, backend) := by
  simp only [Backend.attempt, reliable operation]

theorem Reliable.attemptFetch (reliable : backend.Reliable) :
    backend.attemptFetch = (none, { backend with fetches := backend.fetches + 1 }) := by
  have counted : ({ backend with fetches := backend.fetches + 1 } : Backend).Reliable := reliable
  exact counted.attempt .fetchBatch

theorem Reliable.settle {Note : Type} (reliable : backend.Reliable)
    (marks : List (ReadMark Note)) : (backend.settle marks).Reliable := by
  induction marks generalizing backend with
  | nil => exact reliable
  | cons mark rest ih =>
    cases mark with
    | fetched =>
      have fetched : backend.attemptFetch.2.Reliable := by
        rw [reliable.attemptFetch]
        exact reliable
      exact ih fetched
    | noted note => exact ih reliable

@[simp] theorem entries_settle {Note : Type} (backend : Backend) (marks : List (ReadMark Note)) :
    (backend.settle marks).entries = backend.entries := by
  induction marks generalizing backend with
  | nil => rfl
  | cons mark rest ih =>
    cases mark with
    | fetched => exact (ih backend.attemptFetch.2).trans (entries_attemptFetch backend)
    | noted note => exact ih backend

theorem Reliable.fetchBatch (reliable : backend.Reliable) (key : StreamKey) (first size : Nat) :
    (backend.fetchBatch key first size).1 = .ok (backend.entries.fetchBatch key first size) := by
  simp only [Backend.fetchBatch, reliable.attemptFetch]

theorem Reliable.fetchTracked (reliable : backend.Reliable) (after : Option TrackingToken)
    (limit : Nat) :
    backend.fetchTracked after limit =
      (.ok (backend.entries.fetchTracked after limit), backend) := by
  simp only [Backend.fetchTracked, query, reliable.attempt]

theorem Reliable.loadLastSnapshot (reliable : backend.Reliable) (key : StreamKey) :
    backend.loadLastSnapshot key = (.ok (backend.entries.lastSnapshot? key), backend) := by
  simp only [Backend.loadLastSnapshot, query, reliable.attempt]

theorem Reliable.persist_of_ok (reliable : backend.Reliable) {batch : List Entry}
    {entries : EntryStore} (taken : backend.entries.persist batch = .ok entries) :
    backend.persist batch = (.ok (), { backend with entries }) := by
  simp only [Backend.persist, reliable.attempt, taken]

theorem Reliable.persist_of_error (reliable : backend.Reliable) {batch : List Entry}
    {error : StorageError} (refused : backend.entries.persist batch = .error error) :
    backend.persist batch = (.error error, backend) := by
  simp only [Backend.persist, reliable.attempt, refused]

theorem Reliable.persistSnapshot (reliable : backend.Reliable) (entry : Entry) :
    backend.persistSnapshot entry =
      (.ok (), { backend with entries := backend.entries.persistSnapshot entry }) := by
  simp only [Backend.persistSnapshot, reliable.attempt]

theorem Reliable.pruneSnapshots (reliable : backend.Reliable) (key : StreamKey) (keep : Nat) :
    (backend.pruneSnapshots key keep).2 =
      { backend with entries := (backend.entries.pruneSnapshots key keep).2 } := by
  simp only [Backend.pruneSnapshots, reliable.attempt]

end Backend

end EventSourcing
