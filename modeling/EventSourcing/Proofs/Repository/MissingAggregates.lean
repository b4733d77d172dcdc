import EventSourcing.Proofs.EventStore.SnapshotReading
import EventSourcing.Proofs.Repository.Loading
import EventSourcing.Proofs.Repository.MeterRepository

/-!
# Missing aggregates

A history of which nothing is stored is reported as missing, and so is the aggregate
when it is loaded.  Whether there is anything is decided by the events that are read, so
there is one exception: a history is reported as missing, too, if the store forgets it,
that is if upcasters drop all its records and no snapshot can be used
(`Repository.missing_changeAll`).
-/

namespace EventSourcing

/-- Something is stored of a history: an entry or a snapshot. -/
def EntryStore.Knows (entries : EntryStore) (key : StreamKey) : Prop :=
  (∃ entry ∈ entries.log, entry.streamKey = key) ∨ ∃ snapshot, entries.HasSnapshot key snapshot

namespace EventStore

variable {Payload Note : Type} [DocumentFamily Payload] {store : EventStore Payload}
  {entries : EntryStore} {key : StreamKey} {backend : Backend}

/-- Something is stored of a history, but all of its records are dropped when they are
read, and its latest snapshot, if there is one, does not stand for an event. -/
structure Forgets (store : EventStore Payload) (entries : EntryStore) (key : StreamKey) :
    Prop where
  known : entries.Knows key
  dropped (entry : Entry) : entry ∈ entries.log → entry.streamKey = key →
    store.codec.decode entry = .ok []
  unusable (latest : Entry) (snapshot : DomainEvent Payload) :
    entries.IsLatestSnapshot key latest → ¬store.StandsFor latest snapshot

/-- There is nothing to be read if every record is dropped and no snapshot can be used. -/
theorem eventsRead_eq_nil_iff (coherent : entries.Coherent) :
    store.eventsRead entries key = .ok [] ↔
      (∀ record ∈ entries.history key, store.codec.decode record = .ok []) ∧
        store.latestSnapshot? entries key = none := by
  have fromStart (unusable : store.latestSnapshot? entries key = none) :
      store.firstNumber entries key = 0 := by
    rw [firstNumber, unusable, Option.elim_none]
  have listed_iff (record : Entry) :
      record ∈ entries.entriesFrom key 0 ↔ record ∈ entries.history key := by
    rw [coherent.consistent.mem_entriesFrom_iff]
    exact and_iff_left (Nat.zero_le _)
  rw [eventsRead_eq_ok_iff, List.append_eq_nil_iff, Option.toList_eq_nil_iff,
    List.flatMap_eq_nil_iff]
  constructor
  · rintro ⟨readable, unusable, noEvents⟩
    rw [fromStart unusable] at readable noEvents
    refine ⟨?_, unusable⟩
    intro record inHistory
    have listed := (listed_iff record).mpr inHistory
    obtain ⟨found, decoded⟩ := readable record listed
    have nothing := noEvents record listed
    rw [EventCodec.eventsOf_of_decode decoded] at nothing
    rw [decoded, nothing]
  · rintro ⟨dropped, unusable⟩
    rw [fromStart unusable]
    refine ⟨?_, unusable, ?_⟩
    · intro record listed
      exact ⟨[], dropped record ((listed_iff record).mp listed)⟩
    · intro record listed
      exact EventCodec.eventsOf_of_decode (dropped record ((listed_iff record).mp listed))

theorem eventsRead_eq_nil_iff_forgets (coherent : entries.Coherent) (filed : entries.Filed) :
    store.eventsRead entries key = .ok [] ↔ ¬entries.Knows key ∨ store.Forgets entries key := by
  rw [eventsRead_eq_nil_iff coherent, latestSnapshot?_eq_none_iff filed]
  simp only [EntryStore.mem_history_iff, Array.mem_toList_iff, and_imp]
  constructor
  · rintro ⟨dropped, unusable⟩
    by_cases known : entries.Knows key
    · exact .inr ⟨known, dropped, unusable⟩
    · exact .inl known
  · rintro (unknown | forgets)
    · constructor
      · intro entry stored own
        exact absurd (.inl ⟨entry, stored, own⟩) unknown
      · intro latest snapshot isLatest
        exact absurd (.inr ⟨latest, isLatest.stored⟩) unknown
    · exact ⟨forgets.dropped, forgets.unusable⟩

variable (Note) in
/-- A history is not found if there is nothing to be read of it. -/
theorem read_eq_notFound_iff (reliable : backend.Reliable) :
    (@read Payload Note _ store key backend).1 = .error (.streamNotFound key) ↔
      store.eventsRead backend.entries key = .ok [] := by
  obtain ⟨after, -, -, outcome⟩ := read_spec Note store key reliable
  rcases outcome with ⟨nothing, isRead⟩ | ⟨something, stream, isRead, -⟩
  · rw [isRead]
    exact ⟨fun _ => nothing, fun _ => rfl⟩
  · rw [isRead]
    exact ⟨nofun, fun nothing => absurd nothing something⟩

end EventStore

namespace Repository

variable {Payload State Note Bus : Type} [DocumentFamily Payload]
  {repository : Repository Payload State Note Bus} {id : AggregateId} {backend : Backend}

/-- Whatever decorators make of a stream, an aggregate is missing only if its history
is. -/
theorem load_eq_notFound_iff (reliable : backend.Reliable) (expected : ExpectedVersion) :
    (repository.load id expected backend).1 = .error (.aggregateNotFound id) ↔
      repository.store.eventsRead backend.entries (repository.streamKey id) = .ok [] := by
  obtain ⟨after, -, -, outcome⟩ :=
    repository.store.read_spec Note (repository.streamKey id) reliable
  rcases outcome with ⟨nothing, -⟩ | ⟨something, stream, isRead, -⟩
  · exact ⟨fun _ => nothing, fun _ => load_of_nothing reliable nothing expected⟩
  · refine ⟨fun notFound => ?_, fun nothing => absurd nothing something⟩
    rcases rebuilt : repository.rebuild (repository.streamKey id) stream with
      ⟨error | _, guard, marks⟩
    · simp only [load, isRead, rebuilt] at notFound
      cases notFound
    · simp only [load, isRead, rebuilt] at notFound
      exact absurd notFound (accept_ne_notFound expected guard id)

/-- Whatever an in-memory store has gone through, and however entries are read: a history
is not found, and its aggregate is reported as missing, exactly if nothing is stored of
it or the store forgets it. -/
theorem missing_changeAll (repository : Repository Payload State Note Bus)
    (changes : List StorageChange) :
    let backend := Backend.empty.changeAll changes
    let entries := backend.entries
    let store := repository.store
    (∀ key, (@EventStore.read Payload Note _ store key backend).1 =
        .error (.streamNotFound key) ↔ ¬entries.Knows key ∨ store.Forgets entries key) ∧
    ∀ id expected, (repository.load id expected backend).1 = .error (.aggregateNotFound id) ↔
      ¬entries.Knows (repository.streamKey id) ∨
        store.Forgets entries (repository.streamKey id) := by
  intro backend entries store
  have sound : backend.Sound := Backend.sound_changeAll changes
  have filed : entries.Filed := Backend.filed_changeAll changes
  constructor
  · intro key
    rw [EventStore.read_eq_notFound_iff Note sound.reliable]
    exact EventStore.eventsRead_eq_nil_iff_forgets sound.coherent filed
  · intro id expected
    rw [load_eq_notFound_iff sound.reliable]
    exact EventStore.eventsRead_eq_nil_iff_forgets sound.coherent filed

/-- A meter of which only a measurement is stored is reported as missing where
measurements are forgotten, though a part of its history can be asked for. -/
theorem forgotten_missing :
    let backend := Meter.stored [.measured 1]
    let key := Meter.forgetfulRepository.streamKey ⟨"m"⟩
    let store := Meter.forgetfulRepository.store
    (∃ entry ∈ backend.entries.log, entry.streamKey = key) ∧
      (@EventStore.read _ Unit _ store key backend).1 = .error (.streamNotFound key) ∧
      (Meter.forgetfulRepository.load ⟨"m"⟩ .any backend).1 =
        .error (.aggregateNotFound ⟨"m"⟩) ∧
      ∃ stream, (@EventStore.readRange _ Unit _ store key 0 none backend).1 = .ok stream := by
  intro backend key store
  have sound : backend.Sound := Meter.sound_stored _
  have nothing : store.eventsRead backend.entries key = .ok [] := rfl
  have stored : backend.entries.history key ≠ [] := by decide
  refine ⟨?_, ?_, ?_, ?_⟩
  · obtain ⟨entry, inHistory⟩ := List.exists_mem_of_ne_nil _ stored
    obtain ⟨inLog, own⟩ := EntryStore.mem_history_iff.mp inHistory
    exact ⟨entry, Array.mem_toList_iff.mp inLog, own⟩
  · exact (EventStore.read_eq_notFound_iff Unit sound.reliable).mpr nothing
  · exact load_of_nothing sound.reliable nothing .any
  · rcases EventStore.readRange_of_sound Unit sound store key 0 none with
      ⟨isEmpty, -⟩ | ⟨-, stream, isFound, -⟩
    · exact absurd isEmpty stored
    · exact ⟨stream, isFound⟩

end Repository

end EventSourcing
