import EventSourcing.Proofs.EventStore.HiddenEnds
import EventSourcing.Proofs.EventStore.RangeReading

/-!
# Reading from a snapshot

Every snapshot stands under its own history and number (`EntryStore.Filed`), so the one
that is loaded is the latest.  If it stands for an event, reading a history gives this
event and then what the range behind it reads as; otherwise the history is read as a
whole, and the snapshot is as good as none (`EventStore.read_changeAll`).
-/

namespace EventSourcing

/-! ## The latest snapshot -/

namespace OrderedMap

variable {Value : Type} {map : OrderedMap Nat Value} {number greatest : Nat} {value last : Value}

theorem get?_of_last? (isLast : map.last? = some (greatest, last)) :
    map.get? greatest = some last :=
  get?_eq_some_iff.mpr (List.mem_of_getLast? isLast)

/-- Entries are listed by key, so all others stand in front of the last one. -/
theorem le_of_last? (isLast : map.last? = some (greatest, last))
    (found : map.get? number = some value) : number ≤ greatest := by
  obtain ⟨front, split⟩ := List.getLast?_eq_some_iff.mp isLast
  have sorted := map.sorted
  have listed := get?_eq_some_iff.mp found
  rw [split] at sorted listed
  rcases List.mem_append.mp listed with earlier | itself
  · have below := (List.pairwise_append.mp sorted).2.2 _ earlier _ (List.mem_singleton_self _)
    exact Nat.le_of_lt (Nat.compare_eq_lt.mp below)
  · obtain ⟨rfl, -⟩ := Prod.mk.inj (List.mem_singleton.mp itself)
    exact Nat.le_refl _

end OrderedMap

namespace EntryStore

variable {store : EntryStore} {key : StreamKey} {latest : Entry}

/-- Snapshots stand under their own history and number. -/
def Filed (store : EntryStore) : Prop :=
  ∀ key number entry, (store.snapshotsOf key).get? number = some entry →
    entry.streamKey = key ∧ entry.sequenceNumber = number

theorem filed_empty : EntryStore.empty.Filed := by
  intro key number entry found
  simp [empty, snapshotsOf] at found

theorem Filed.pushAll (filed : store.Filed) (batch : List Entry) :
    (store.pushAll batch).Filed := by
  intro key number entry found
  rw [snapshotsOf, snapshots_pushAll] at found
  exact filed key number entry found

theorem Filed.persistSnapshot (filed : store.Filed) (stored : Entry) :
    (store.persistSnapshot stored).Filed := by
  intro key number entry found
  rw [get?_snapshotsOf_persistSnapshot] at found
  split at found
  next own =>
    obtain ⟨rfl, rfl⟩ := own
    obtain rfl := Option.some.inj found
    exact ⟨rfl, rfl⟩
  next other => exact filed key number entry found

theorem Filed.pruneSnapshots (filed : store.Filed) (pruned : StreamKey) (keep : Nat) :
    (store.pruneSnapshots pruned keep).2.Filed := by
  intro key number entry found
  exact filed key number entry (get?_snapshotsOf_of_pruneSnapshots found)

/-- The snapshot of a history with the greatest number. -/
structure IsLatestSnapshot (store : EntryStore) (key : StreamKey) (latest : Entry) : Prop where
  stored : store.HasSnapshot key latest
  greatest (other : Entry) : store.HasSnapshot key other →
    other.sequenceNumber ≤ latest.sequenceNumber

theorem lastSnapshot?_eq_none_iff :
    store.lastSnapshot? key = none ↔ ∀ entry, ¬store.HasSnapshot key entry := by
  rw [lastSnapshot?, Option.map_eq_none_iff, OrderedMap.last?, List.getLast?_eq_none_iff,
    List.eq_nil_iff_forall_not_mem]
  constructor
  · rintro nothing entry ⟨number, found⟩
    exact nothing (number, entry) (OrderedMap.get?_eq_some_iff.mp found)
  · intro nothing place listed
    exact nothing place.2 ⟨place.1, OrderedMap.get?_eq_some_iff.mpr listed⟩

theorem Filed.isLatest_of_lastSnapshot? (filed : store.Filed)
    (last : store.lastSnapshot? key = some latest) : store.IsLatestSnapshot key latest := by
  refine ⟨hasSnapshot_of_lastSnapshot? last, ?_⟩
  rintro other ⟨number, found⟩
  obtain ⟨⟨greatest, snapshot⟩, isLast, isLatest⟩ := Option.map_eq_some_iff.mp last
  obtain rfl : snapshot = latest := isLatest
  have isNumber := (filed key number other found).2
  have isGreatest := (filed key greatest snapshot (OrderedMap.get?_of_last? isLast)).2
  rw [isNumber, isGreatest]
  exact OrderedMap.le_of_last? isLast found

/-- The snapshot that is loaded is the latest one. -/
theorem Filed.lastSnapshot?_eq_some_iff (filed : store.Filed) :
    store.lastSnapshot? key = some latest ↔ store.IsLatestSnapshot key latest := by
  constructor
  · exact filed.isLatest_of_lastSnapshot?
  · intro isLatest
    cases last : store.lastSnapshot? key with
    | none => exact absurd isLatest.stored (lastSnapshot?_eq_none_iff.mp last latest)
    | some loaded =>
      have isLoaded := filed.isLatest_of_lastSnapshot? last
      have sameNumber := Nat.le_antisymm (isLatest.greatest loaded isLoaded.stored)
        (isLoaded.greatest latest isLatest.stored)
      obtain ⟨number, found⟩ := isLatest.stored
      obtain ⟨other, otherFound⟩ := isLoaded.stored
      rw [← (filed key other loaded otherFound).2, sameNumber,
        (filed key number latest found).2, found] at otherFound
      exact otherFound.symm

theorem lastSnapshot?_persistSnapshot_of_ne {stored : Entry} (different : key ≠ stored.streamKey) :
    (store.persistSnapshot stored).lastSnapshot? key = store.lastSnapshot? key := by
  simp [lastSnapshot?, snapshotsOf, persistSnapshot, different]

/-- A snapshot that is not behind others becomes the latest one. -/
theorem Filed.lastSnapshot?_persistSnapshot (filed : store.Filed) {stored : Entry}
    (greatest : ∀ other, store.HasSnapshot stored.streamKey other →
      other.sequenceNumber ≤ stored.sequenceNumber) :
    (store.persistSnapshot stored).lastSnapshot? stored.streamKey = some stored := by
  refine (filed.persistSnapshot stored).lastSnapshot?_eq_some_iff.mpr ⟨?_, ?_⟩
  · refine ⟨stored.sequenceNumber, ?_⟩
    rw [get?_snapshotsOf_persistSnapshot, if_pos ⟨rfl, rfl⟩]
  · intro other has
    rcases HasSnapshot.of_persistSnapshot has with ⟨-, rfl⟩ | before
    · exact Nat.le_refl _
    · exact greatest other before

/-- As long as any are kept, the latest snapshot is not removed. -/
theorem lastSnapshot?_pruneSnapshots (store : EntryStore) (pruned key : StreamKey) {keep : Nat}
    (keepsAny : 1 ≤ keep) :
    (store.pruneSnapshots pruned keep).2.lastSnapshot? key = store.lastSnapshot? key := by
  unfold pruneSnapshots
  cases kept : store.snapshots.get? pruned with
  | none => rfl
  | some snapshots =>
    by_cases own : key = pruned
    · subst own
      simp only [lastSnapshot?, snapshotsOf, Table.get?_put, ↓reduceIte, Option.getD_some, kept,
        OrderedMap.last?, OrderedMap.drop, OrderedMap.size, List.getLast?_drop]
      congr 1
      split
      next tooMany =>
        have nothing : snapshots.toList = [] := List.length_eq_zero_iff.mp (by omega)
        rw [nothing, List.getLast?_nil]
      next => rfl
    · simp [lastSnapshot?, snapshotsOf, own]

end EntryStore

namespace Backend

variable {backend : Backend}

theorem Sound.filed_change (sound : backend.Sound) (filed : backend.entries.Filed)
    (change : StorageChange) : (backend.change change).entries.Filed := by
  cases change with
  | persist batch =>
    by_cases fits : backend.entries.Fits batch
    · simp only [Backend.change, sound.persist_of_fits fits]
      exact filed.pushAll batch
    · obtain ⟨conflict, refused⟩ := sound.persist_of_not_fits fits
      simpa only [Backend.change, refused] using filed
  | persistSnapshot entry =>
    simp only [Backend.change, sound.reliable.persistSnapshot]
    exact filed.persistSnapshot entry
  | pruneSnapshots key keep =>
    simp only [Backend.change, sound.reliable.pruneSnapshots]
    exact filed.pruneSnapshots key keep

theorem filed_changeAll (changes : List StorageChange) :
    (Backend.empty.changeAll changes).entries.Filed := by
  have kept : ∀ {backend : Backend}, backend.Sound → backend.entries.Filed →
      (backend.changeAll changes).entries.Filed := by
    induction changes with
    | nil => exact fun _ filed => filed
    | cons change rest ih =>
      exact fun sound filed => ih (sound.change change) (sound.filed_change filed change)
  exact kept sound_empty EntryStore.filed_empty

end Backend

namespace EventStore

variable {Payload Note : Type} [DocumentFamily Payload] {store : EventStore Payload}
  {key : StreamKey} {backend : Backend}

/-! ## Snapshots that can be used -/

/-- An entry stands for an event if it reads as this one alone, and its payload is
known. -/
def StandsFor (store : EventStore Payload) (entry : Entry) (event : DomainEvent Payload) :
    Prop :=
  store.codec.decode entry = .ok [event] ∧ isUnreadable event.payload = false

theorem snapshotEvent?_eq_some_iff {entry : Entry} {event : DomainEvent Payload} :
    store.snapshotEvent? entry = some event ↔ store.StandsFor entry event := by
  unfold snapshotEvent? StandsFor
  split
  next found decoded =>
    rw [decoded]
    cases unreadable : isUnreadable found.payload with
    | false =>
      constructor
      · intro same
        obtain rfl : found = event := Option.some.inj same
        exact ⟨rfl, unreadable⟩
      · rintro ⟨same, -⟩
        obtain ⟨rfl, -⟩ := List.cons.inj (Except.ok.inj same)
        rfl
    | true =>
      constructor
      · nofun
      · rintro ⟨same, readable⟩
        obtain ⟨rfl, -⟩ := List.cons.inj (Except.ok.inj same)
        rw [unreadable] at readable
        cases readable
  next other =>
    constructor
    · nofun
    · rintro ⟨decoded, -⟩
      exact absurd decoded (other event)

theorem StandsFor.sequenceNumber_eq {entry : Entry} {event : DomainEvent Payload}
    (stands : store.StandsFor entry event) : event.sequenceNumber = entry.sequenceNumber :=
  EventCodec.sequenceNumber_of_decode stands.1

/-- The snapshot from which a history is read is the latest one, if that stands for an
event. -/
theorem latestSnapshot?_eq_some_iff {entries : EntryStore} (filed : entries.Filed)
    {snapshot : DomainEvent Payload} :
    store.latestSnapshot? entries key = some snapshot ↔
      ∃ latest, entries.IsLatestSnapshot key latest ∧ store.StandsFor latest snapshot := by
  simp only [latestSnapshot?, Option.bind_eq_some_iff, filed.lastSnapshot?_eq_some_iff,
    snapshotEvent?_eq_some_iff]

theorem latestSnapshot?_eq_none_iff {entries : EntryStore} (filed : entries.Filed) :
    store.latestSnapshot? entries key = none ↔ ∀ latest snapshot,
      entries.IsLatestSnapshot key latest → ¬store.StandsFor latest snapshot := by
  rw [Option.eq_none_iff_forall_ne_some]
  constructor
  · intro unusable latest snapshot isLatest stands
    exact unusable snapshot ((latestSnapshot?_eq_some_iff filed).mpr ⟨latest, isLatest, stands⟩)
  · intro unusable snapshot usable
    obtain ⟨latest, isLatest, stands⟩ := (latestSnapshot?_eq_some_iff filed).mp usable
    exact unusable latest snapshot isLatest stands

theorem eventsRead_of_latestSnapshot? {entries : EntryStore} {snapshot : DomainEvent Payload}
    (latest : store.latestSnapshot? entries key = some snapshot) :
    store.eventsRead entries key = (snapshot :: ·) <$>
      store.codec.decodeAll (entries.entriesFrom key (snapshot.sequenceNumber + 1)) := by
  unfold latestSnapshot? at latest
  simp only [eventsRead, latest]

theorem eventsRead_of_noSnapshot {entries : EntryStore}
    (unusable : store.latestSnapshot? entries key = none) :
    store.eventsRead entries key = store.codec.decodeAll (entries.entriesFrom key 0) := by
  unfold latestSnapshot? at unusable
  simp only [eventsRead, unusable]

/-- A snapshot that does not stand for an event is as good as none. -/
theorem read_withSnapshots (unusable : store.latestSnapshot? backend.entries key = none)
    {snapshots : Table StreamKey (OrderedMap Nat Entry)}
    (nothing : (backend.withSnapshots snapshots).entries.lastSnapshot? key = none) :
    (@read Payload Note _ store key (backend.withSnapshots snapshots)).1 =
      (store.read key backend).1 := by
  have unchanged := Backend.entries_attempt .loadLastSnapshot backend
  -- The call for the snapshot fails with all snapshots or with none.
  rcases attempted : backend.attempt .loadLastSnapshot with ⟨_ | error, after⟩
  · rw [attempted] at unchanged
    have loaded : backend.loadLastSnapshot key =
        (.ok (after.entries.lastSnapshot? key), after) := by
      simp only [Backend.loadLastSnapshot, Backend.query, attempted]
    have loadedToo : (backend.withSnapshots snapshots).loadLastSnapshot key =
        (.ok none, after.withSnapshots snapshots) := by
      have nothingThen : (after.withSnapshots snapshots).entries.lastSnapshot? key = none := nothing
      simp only [Backend.loadLastSnapshot, Backend.query, Backend.attempt_withSnapshots, attempted,
        nothingThen]
    have unusableThen : (after.entries.lastSnapshot? key).bind store.snapshotEvent? = none := by
      rw [unchanged]
      exact unusable
    simp only [read, loaded, loadedToo, unusableThen, Option.bind_none, openStream, stream,
      pages_withSnapshots]
    rcases Pull.uncons (EventStream.ofPulls (store.pages key 0 none after)).pulls with
      ⟨marks, _ | item, rest⟩
    · rfl
    · rfl
  · have loaded : backend.loadLastSnapshot key = (.error error, after) := by
      simp only [Backend.loadLastSnapshot, Backend.query, attempted]
    have loadedToo : (backend.withSnapshots snapshots).loadLastSnapshot key =
        (.error error, after.withSnapshots snapshots) := by
      simp only [Backend.loadLastSnapshot, Backend.query, Backend.attempt_withSnapshots, attempted]
    simp only [read, loaded, loadedToo]

/-! ## Snapshots and ranges -/

variable (Note) in
/-- From a snapshot a history can always be read, even if there is nothing behind it. -/
theorem read_of_latestSnapshot? (sound : backend.Sound) {snapshot : DomainEvent Payload}
    (latest : store.latestSnapshot? backend.entries key = some snapshot) :
    ∃ stream : EventStream (ReadMark Note) Payload, (store.read key backend).1 = .ok stream ∧
      Delivers stream.items ((snapshot :: ·) <$> store.codec.decodeAll
        (backend.entries.recordsBetween key (snapshot.sequenceNumber + 1) none)) := by
  obtain ⟨after, -, -, outcome⟩ := read_spec Note store key sound.reliable
  rw [eventsRead_of_latestSnapshot? latest, entriesFrom_eq_recordsBetween sound.coherent]
    at outcome
  rcases outcome with ⟨nothing, -⟩ | ⟨-, stream, isRead, delivers⟩
  · exact absurd nothing map_cons_ne_nil
  · exact ⟨stream, congrArg Prod.fst isRead, delivers⟩

/-- Without a snapshot all records of a history are read, and there are some. -/
theorem read_of_noSnapshot (sound : backend.Sound)
    (unusable : store.latestSnapshot? backend.entries key = none)
    {stream : EventStream (ReadMark Note) Payload}
    (isRead : (store.read key backend).1 = .ok stream) :
    backend.entries.history key ≠ [] ∧
      Delivers stream.items
        (store.codec.decodeAll (backend.entries.recordsBetween key 0 none)) := by
  obtain ⟨after, -, -, outcome⟩ := read_spec Note store key sound.reliable
  rw [eventsRead_of_noSnapshot unusable, entriesFrom_eq_recordsBetween sound.coherent] at outcome
  rcases outcome with ⟨-, notFound⟩ | ⟨something, found, isFound, delivers⟩
  · rw [notFound] at isRead
    cases isRead
  · rw [isFound] at isRead
    obtain rfl := Except.ok.inj isRead
    refine ⟨?_, delivers⟩
    intro isEmpty
    apply something
    rw [EntryStore.recordsBetween_of_history_eq_nil isEmpty]
    rfl

/-- Whatever an in-memory store has gone through, and however entries are read: if the
latest snapshot of a history stands for an event, a stream is returned, and what is
collected from it is this event followed by what is collected from the range behind it,
that is by the events of the records with greater numbers, or the error of the first of
them that cannot be read.  If there is no such snapshot, a stream that is returned
collects like the range from the start, and the answer is the same as without any
snapshot. -/
theorem read_changeAll (Note : Type) (store : EventStore Payload) (changes : List StorageChange)
    (key : StreamKey) :
    let backend := Backend.empty.changeAll changes
    let entries := backend.entries
    let answer : Except EventStoreError (EventStream (ReadMark Note) Payload) :=
      (store.read key backend).1
    let range (first : Nat) : Except EventStoreError (EventStream (ReadMark Note) Payload) :=
      (store.readRange key first none backend).1
    (∀ latest snapshot, entries.IsLatestSnapshot key latest → store.StandsFor latest snapshot →
      ∃ stream, answer = .ok stream ∧
        ((∀ entry ∈ entries.log, entry.streamKey ≠ key) → stream.collect.2 = .ok [snapshot]) ∧
        ((∃ entry ∈ entries.log, entry.streamKey = key) →
          ∃ behind, range (latest.sequenceNumber + 1) = .ok behind ∧
            stream.collect.2 = (snapshot :: ·) <$> behind.collect.2) ∧
        stream.collect.2 = ((snapshot :: ·) <$> store.codec.decodeAll
          (entries.recordsBetween key (latest.sequenceNumber + 1) none)).mapError fun error =>
            (EventStoreError.document error).toStreamError) ∧
    ((∀ latest snapshot, entries.IsLatestSnapshot key latest →
        ¬store.StandsFor latest snapshot) →
      (∀ stream, answer = .ok stream →
        ∃ whole, range 0 = .ok whole ∧ stream.collect.2 = whole.collect.2) ∧
      ∀ snapshots, (∀ entry, ¬(backend.withSnapshots snapshots).entries.HasSnapshot key entry) →
        (store.read key (backend.withSnapshots snapshots)).1 = answer) := by
  intro backend entries answer range
  have sound : backend.Sound := Backend.sound_changeAll changes
  have filed : entries.Filed := Backend.filed_changeAll changes
  constructor
  · intro latest snapshot isLatest stands
    have usable := (latestSnapshot?_eq_some_iff filed).mpr ⟨latest, isLatest, stands⟩
    obtain ⟨stream, isRead, delivers⟩ := read_of_latestSnapshot? Note sound usable
    rw [stands.sequenceNumber_eq] at delivers
    refine ⟨stream, isRead, ?_, ?_, delivers.collect⟩
    · intro nothingStored
      have isEmpty := EntryStore.history_eq_nil_iff.mpr nothingStored
      rw [delivers.collect, EntryStore.recordsBetween_of_history_eq_nil isEmpty]
      rfl
    · rintro ⟨entry, stored, own⟩
      rcases readRange_of_sound Note sound store key (latest.sequenceNumber + 1) none with
        ⟨isEmpty, -⟩ | ⟨-, behind, isRange, behindDelivers⟩
      · exact absurd own (EntryStore.history_eq_nil_iff.mp isEmpty entry stored)
      · refine ⟨behind, isRange, ?_⟩
        rw [delivers.collect, behindDelivers.collect]
        cases store.codec.decodeAll
          (backend.entries.recordsBetween key (latest.sequenceNumber + 1) none) <;> rfl
  · intro unusable
    rw [← latestSnapshot?_eq_none_iff filed] at unusable
    constructor
    · intro stream isRead
      obtain ⟨something, delivers⟩ := read_of_noSnapshot sound unusable isRead
      rcases readRange_of_sound Note sound store key 0 none with
        ⟨isEmpty, -⟩ | ⟨-, whole, isRange, wholeDelivers⟩
      · exact absurd isEmpty something
      · exact ⟨whole, isRange, delivers.collect.trans wholeDelivers.collect.symm⟩
    · intro snapshots nothing
      exact read_withSnapshots unusable (EntryStore.lastSnapshot?_eq_none_iff.mpr nothing)

end EventStore

end EventSourcing
