import EventSourcing.Proofs.EventStore.PagedReading
import EventSourcing.Proofs.EventStore.RoundTrip
import EventSourcing.Proofs.Storage.AtomicBatches
import Mathlib.Data.List.Pairwise

/-!
# Ends of histories

A reader of a history goes on behind the last event that it has read.  This is the end of
the history, unless the last record is dropped when it is read and no snapshot tells of
it (`EventStore.hidesEnd_iff`).
-/

namespace EventSourcing

namespace EntryStore

/-- The records of a history are numbered from zero on without gaps. -/
def GapFree (entries : EntryStore) (key : StreamKey) : Prop :=
  ∀ number, (∃ record ∈ entries.history key, record.sequenceNumber = number) ↔
    number < (entries.history key).length

theorem gapFree_of_numbered {entries : EntryStore} {key : StreamKey}
    (numbered : (entries.history key).map Entry.sequenceNumber =
      List.range (entries.history key).length) : entries.GapFree key := by
  intro number
  rw [← List.mem_map, numbered, List.mem_range]

theorem Coherent.eq_of_sequenceNumber_eq {entries : EntryStore} (coherent : entries.Coherent)
    {key : StreamKey} {record other : Entry} (inHistory : record ∈ entries.history key)
    (otherInHistory : other ∈ entries.history key)
    (same : record.sequenceNumber = other.sequenceNumber) : record = other :=
  List.inj_on_of_nodup_map (coherent.nodup_sequenceNumber key) inHistory otherInHistory same

end EntryStore

namespace EventStore

variable {Payload : Type} [DocumentFamily Payload] {store : EventStore Payload}
  {entries : EntryStore} {key : StreamKey} {events : List (DomainEvent Payload)}

/-- The snapshot from which a history is read. -/
def latestSnapshot? (store : EventStore Payload) (entries : EntryStore) (key : StreamKey) :
    Option (DomainEvent Payload) :=
  (entries.lastSnapshot? key).bind store.snapshotEvent?

/-- The number from which on the records of a history are read. -/
def firstNumber (store : EventStore Payload) (entries : EntryStore) (key : StreamKey) : Nat :=
  (store.latestSnapshot? entries key).elim 0 fun snapshot => snapshot.sequenceNumber + 1

theorem eventsRead_eq_ok_iff :
    store.eventsRead entries key = .ok events ↔
      (∀ record ∈ entries.entriesFrom key (store.firstNumber entries key),
        ∃ found, store.codec.decode record = .ok found) ∧
      (store.latestSnapshot? entries key).toList ++
        (entries.entriesFrom key (store.firstNumber entries key)).flatMap store.codec.eventsOf =
          events := by
  unfold eventsRead firstNumber latestSnapshot?
  cases (entries.lastSnapshot? key).bind store.snapshotEvent? with
  | none => exact EventCodec.decodeAll_eq_ok_iff
  | some snapshot =>
    simp only [Option.elim_some, Option.toList_some, List.singleton_append]
    cases decoded : store.codec.decodeAll
        (entries.entriesFrom key (snapshot.sequenceNumber + 1)) with
    | error error =>
      constructor
      · intro isRead
        cases isRead
      · rintro ⟨readable, -⟩
        have readsAll := EventCodec.decodeAll_eq_ok_iff.mpr ⟨readable, rfl⟩
        cases decoded.symm.trans readsAll
    | ok behind =>
      obtain ⟨readable, rfl⟩ := EventCodec.decodeAll_eq_ok_iff.mp decoded
      exact ⟨fun isRead => ⟨readable, Except.ok.inj isRead⟩, fun isRead => congrArg _ isRead.2⟩

/-- What is read of a history comes in the order of the numbers. -/
theorem eventsRead_ascending (isRead : store.eventsRead entries key = .ok events) :
    events.Pairwise fun event later => event.sequenceNumber ≤ later.sequenceNumber := by
  obtain ⟨-, rfl⟩ := eventsRead_eq_ok_iff.mp isRead
  rw [List.pairwise_append]
  refine ⟨?_, List.pairwise_flatMap.mpr ⟨?_, ?_⟩, ?_⟩
  · cases store.latestSnapshot? entries key <;> simp
  · intro record _
    rw [List.pairwise_iff_forall_sublist]
    intro event later both
    have isEvent : event ∈ store.codec.eventsOf record := both.subset (by simp)
    have isLater : later ∈ store.codec.eventsOf record := both.subset (by simp)
    have sameNumber := (EventCodec.sequenceNumber_of_mem_eventsOf isEvent).trans
      (EventCodec.sequenceNumber_of_mem_eventsOf isLater).symm
    exact Nat.le_of_eq sameNumber
  · refine (entries.entriesFrom_ascending key _).imp ?_
    intro record other below event isEvent later isLater
    rw [EventCodec.sequenceNumber_of_mem_eventsOf isEvent,
      EventCodec.sequenceNumber_of_mem_eventsOf isLater]
    exact Nat.le_of_lt below
  · intro snapshot isSnapshot event isEvent
    obtain ⟨record, listed, fromRecord⟩ := List.mem_flatMap.mp isEvent
    have behind := EntryStore.mem_entriesFrom_le listed
    rw [firstNumber, Option.mem_toList.mp isSnapshot, Option.elim_some] at behind
    rw [EventCodec.sequenceNumber_of_mem_eventsOf fromRecord]
    omega

/-- The number behind the last of some events. -/
def nextNumber (events : List (DomainEvent Payload)) : Nat :=
  events.getLast?.elim 0 fun event => event.sequenceNumber + 1

omit [DocumentFamily Payload] in
theorem nextNumber_le_iff
    (ascending : events.Pairwise fun event later => event.sequenceNumber ≤ later.sequenceNumber)
    (number : Nat) :
    nextNumber events ≤ number ↔ ∀ event ∈ events, event.sequenceNumber < number := by
  rcases List.eq_nil_or_concat events with rfl | ⟨front, last, rfl⟩
  · simp [nextNumber]
  · simp only [List.concat_eq_append, List.pairwise_append, List.mem_singleton] at ascending
    simp only [nextNumber, List.concat_eq_append, List.getLast?_concat, Option.elim_some]
    constructor
    · intro below event isEvent
      rcases List.mem_append.mp isEvent with earlier | isLast
      · have ordered := ascending.2.2 event earlier last rfl
        omega
      · rw [List.mem_singleton.mp isLast]
        exact below
    · intro below
      exact below last (by simp)

/-- The last record of a history is dropped when it is read, and no snapshot tells of it. -/
def HidesEnd (store : EventStore Payload) (entries : EntryStore) (key : StreamKey) : Prop :=
  ∃ record ∈ entries.history key,
    record.sequenceNumber + 1 = (entries.history key).length ∧
    store.codec.decode record = .ok [] ∧
    ∀ snapshot, store.latestSnapshot? entries key = some snapshot →
      snapshot.sequenceNumber < record.sequenceNumber

/-- A reader of a history goes on in front of its end only if the end is hidden. -/
theorem hidesEnd_iff (coherent : entries.Coherent) (gapFree : entries.GapFree key)
    (isRead : store.eventsRead entries key = .ok events) :
    store.HidesEnd entries key ↔ nextNumber events < (entries.history key).length := by
  have ascending := eventsRead_ascending isRead
  obtain ⟨readable, isEvents⟩ := eventsRead_eq_ok_iff.mp isRead
  constructor
  · rintro ⟨record, inHistory, isLast, dropped, beyondSnapshot⟩
    rw [← isLast, Nat.lt_succ_iff, nextNumber_le_iff ascending]
    intro event isEvent
    rw [← isEvents, List.mem_append] at isEvent
    rcases isEvent with isSnapshot | fromRecords
    · exact beyondSnapshot event (Option.mem_toList.mp isSnapshot)
    · obtain ⟨other, listed, fromOther⟩ := List.mem_flatMap.mp fromRecords
      have otherInHistory := ((coherent.consistent.mem_entriesFrom_iff ..).mp listed).1
      have inside := (gapFree other.sequenceNumber).mp ⟨other, otherInHistory, rfl⟩
      have different : other.sequenceNumber ≠ record.sequenceNumber := by
        intro same
        obtain rfl := coherent.eq_of_sequenceNumber_eq otherInHistory inHistory same
        simp [EventCodec.eventsOf_of_decode dropped] at fromOther
      rw [EventCodec.sequenceNumber_of_mem_eventsOf fromOther]
      omega
  · intro early
    have positive : 0 < (entries.history key).length := Nat.zero_lt_of_lt early
    obtain ⟨record, inHistory, isLast⟩ :=
      (gapFree ((entries.history key).length - 1)).mpr (by omega)
    have below : ∀ event ∈ events, event.sequenceNumber < record.sequenceNumber := by
      rw [← nextNumber_le_iff ascending, isLast]
      omega
    have beyondSnapshot : ∀ snapshot, store.latestSnapshot? entries key = some snapshot →
        snapshot.sequenceNumber < record.sequenceNumber := by
      intro snapshot latest
      apply below
      rw [← isEvents, latest]
      simp
    have listed : record ∈ entries.entriesFrom key (store.firstNumber entries key) := by
      rw [coherent.consistent.mem_entriesFrom_iff]
      refine ⟨inHistory, ?_⟩
      unfold firstNumber
      cases latest : store.latestSnapshot? entries key with
      | none => exact Nat.zero_le _
      | some snapshot => exact beyondSnapshot snapshot latest
    obtain ⟨found, decoded⟩ := readable record listed
    refine ⟨record, inHistory, by omega, ?_, beyondSnapshot⟩
    cases found with
    | nil => exact decoded
    | cons event rest =>
      have isEvent : event ∈ store.codec.eventsOf record := by
        rw [EventCodec.eventsOf_of_decode decoded]
        exact List.mem_cons_self
      have isBelow := below event (by
        rw [← isEvents]
        exact List.mem_append_right _ (List.mem_flatMap.mpr ⟨record, listed, isEvent⟩))
      rw [EventCodec.sequenceNumber_of_mem_eventsOf isEvent] at isBelow
      exact absurd isBelow (Nat.lt_irrefl _)

end EventStore

end EventSourcing
