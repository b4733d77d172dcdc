import EventSourcing.Proofs.EventStore.ForgetfulStore
import EventSourcing.Proofs.EventStore.RangeReading
import EventSourcing.Proofs.EventStore.SnapshotArchive
import EventSourcing.Proofs.EventStore.Visiting

/-!
# Snapshots do not interfere with events

Two backends that differ in their snapshots alone answer every call about events alike, and
differ in nothing else afterwards (`Backend.Alike`).  Storing a snapshot is a step that one of
them can take without the other.  So nobody who does not ask for snapshots can tell from the
answers of an event store whether, where and how often any have been stored
(`EventStore.snapshots_doNotInterfere`).
-/

namespace EventSourcing

/-! ## Stores with other snapshots -/

namespace EntryStore

variable (store : EntryStore) (snapshots : Table StreamKey (OrderedMap Nat Entry))

theorem conflict?_withSnapshots (earlier batch : List Entry) :
    ({ store with snapshots } : EntryStore).conflict? earlier batch =
      store.conflict? earlier batch := by
  induction batch generalizing earlier with
  | nil => rfl
  | cons entry rest ih =>
    simp only [conflict?, ih]
    rfl

theorem pushAll_withSnapshots (batch : List Entry) :
    ({ store with snapshots } : EntryStore).pushAll batch =
      { store.pushAll batch with snapshots } := by
  induction batch generalizing store with
  | nil => rfl
  | cons entry rest ih => exact ih (store.push entry)

/-- Whether a batch is taken depends on the events that are stored. -/
theorem persist_withSnapshots (batch : List Entry) :
    ({ store with snapshots } : EntryStore).persist batch =
      (store.persist batch).map fun entries => { entries with snapshots } := by
  rw [persist, persist, conflict?_withSnapshots]
  cases store.conflict? [] batch with
  | some conflict => rfl
  | none => exact congrArg Except.ok (store.pushAll_withSnapshots snapshots batch)

end EntryStore

/-! ## Backends that are alike -/

namespace Backend

/-- Two backends that never fail and hold the same events, whatever their snapshots are and
however often they have been read. -/
structure Alike (first second : Backend) : Prop where
  firstReliable : first.Reliable
  secondReliable : second.Reliable
  sameEvents : ∃ snapshots, second.entries = { first.entries with snapshots }

namespace Alike

variable {first second : Backend}

theorem refl (reliable : first.Reliable) : first.Alike first :=
  ⟨reliable, reliable, first.entries.snapshots, rfl⟩

theorem symm (alike : first.Alike second) : second.Alike first := by
  obtain ⟨firstReliable, secondReliable, snapshots, same⟩ := alike
  exact ⟨secondReliable, firstReliable, first.entries.snapshots, by rw [same]⟩

theorem trans {third : Backend} (alike : first.Alike second) (further : second.Alike third) :
    first.Alike third := by
  obtain ⟨firstReliable, -, snapshots, same⟩ := alike
  obtain ⟨-, thirdReliable, others, stillSame⟩ := further
  exact ⟨firstReliable, thirdReliable, others, by rw [stillSame, same]⟩

/-- What has been done to one of two backends does not show if it leaves the events. -/
theorem of_left {after : Backend} (alike : first.Alike second) (reliable : after.Reliable)
    (sameEvents : ∃ snapshots, after.entries = { first.entries with snapshots }) :
    after.Alike second := by
  obtain ⟨-, secondReliable, snapshots, same⟩ := alike
  obtain ⟨others, stillSame⟩ := sameEvents
  exact ⟨reliable, secondReliable, snapshots, by rw [same, stillSame]⟩

theorem of_both {firstAfter secondAfter : Backend} (alike : first.Alike second)
    (firstReliable : firstAfter.Reliable) (secondReliable : secondAfter.Reliable)
    (firstUnchanged : firstAfter.entries = first.entries)
    (secondUnchanged : secondAfter.entries = second.entries) : firstAfter.Alike secondAfter := by
  obtain ⟨-, -, snapshots, same⟩ := alike
  exact ⟨firstReliable, secondReliable, snapshots, by rw [firstUnchanged, secondUnchanged, same]⟩

theorem fetchBatch_eq (alike : first.Alike second) (key : StreamKey) (number size : Nat) :
    second.entries.fetchBatch key number size = first.entries.fetchBatch key number size := by
  obtain ⟨snapshots, same⟩ := alike.sameEvents
  rw [same]
  rfl

theorem fetched (alike : first.Alike second) :
    Backend.Alike { first with fetches := first.fetches + 1 }
      { second with fetches := second.fetches + 1 } :=
  alike.of_both alike.firstReliable alike.secondReliable rfl rfl

theorem fetchFiltered_eq (alike : first.Alike second) (criteria : Criteria)
    (after : Option EntryPosition) (size : Nat) :
    second.entries.fetchFiltered criteria after size =
      first.entries.fetchFiltered criteria after size := by
  obtain ⟨snapshots, same⟩ := alike.sameEvents
  rw [same]
  rfl

theorem fetchTracked_eq (alike : first.Alike second) (after : Option TrackingToken)
    (limit : Nat) :
    second.entries.fetchTracked after limit = first.entries.fetchTracked after limit := by
  obtain ⟨snapshots, same⟩ := alike.sameEvents
  rw [same]
  rfl

theorem persist (alike : first.Alike second) (batch : List Entry) :
    (first.persist batch).1 = (second.persist batch).1 ∧
      (first.persist batch).2.Alike (second.persist batch).2 := by
  obtain ⟨firstReliable, secondReliable, snapshots, same⟩ := alike
  have stored := first.entries.persist_withSnapshots snapshots batch
  rw [← same] at stored
  cases taken : first.entries.persist batch with
  | error error =>
    rw [taken] at stored
    rw [firstReliable.persist_of_error taken, secondReliable.persist_of_error stored]
    exact ⟨rfl, firstReliable, secondReliable, snapshots, same⟩
  | ok entries =>
    rw [taken] at stored
    rw [firstReliable.persist_of_ok taken, secondReliable.persist_of_ok stored]
    exact ⟨rfl, firstReliable, secondReliable, snapshots, rfl⟩

end Alike

/-- Backends that are alike fetch the same batches and stay alike. -/
theorem fetchesAlike_alike : FetchesAlike Alike where
  attempt := by
    intro first second after answer alike attempted
    rw [alike.firstReliable.attemptFetch] at attempted
    obtain ⟨rfl, rfl⟩ := Prod.mk.inj attempted
    exact ⟨_, alike.secondReliable.attemptFetch, alike.fetched⟩
  sameBatch := Alike.fetchBatch_eq

end Backend

namespace EventStore

variable {Payload Note : Type} [DocumentFamily Payload] {first second : Backend}

theorem append_alike (alike : first.Alike second) (store : EventStore Payload)
    (aggregateType : String) (events : List (DomainEvent Payload)) :
    (store.append aggregateType events first).1 = (store.append aggregateType events second).1 ∧
      (store.append aggregateType events first).2.Alike
        (store.append aggregateType events second).2 := by
  unfold append
  by_cases nothing : events.isEmpty = true
  · simp only [nothing, ↓reduceIte]
    exact ⟨trivial, alike⟩
  simp only [nothing, Bool.false_eq_true, ↓reduceIte]
  cases events.mapM (store.codec.encode aggregateType) with
  | error error => exact ⟨rfl, alike⟩
  | ok batch =>
    dsimp only
    have persisted := alike.persist batch
    generalize first.persist batch = firstStored at persisted ⊢
    generalize second.persist batch = secondStored at persisted ⊢
    obtain ⟨answer, firstAfter⟩ := firstStored
    obtain ⟨other, secondAfter⟩ := secondStored
    obtain ⟨rfl, alikeAfter⟩ := persisted
    cases answer <;> exact ⟨rfl, alikeAfter⟩

/-- The pulls of a history are the same wherever its events are. -/
theorem pages_alike (alike : first.Alike second) (store : EventStore Payload) (key : StreamKey)
    (number : Nat) (last : Option Nat) :
    (store.pages key number last second : List (Pull (ReadMark Note) (StreamItem Payload))) =
      store.pages key number last first :=
  pages_together Backend.fetchesAlike_alike alike fun _ _ => rfl

omit [DocumentFamily Payload] in
/-- Opening a stream finds in it what is in it, whatever the backend is. -/
theorem openStream_alike (alike : first.Alike second)
    (stream : EventStream (ReadMark Note) Payload) :
    (openStream stream first).1 = (openStream stream second).1 ∧
      (openStream stream first).2.Alike (openStream stream second).2 := by
  have alikeAfter : (openStream stream first).2.Alike (openStream stream second).2 :=
    alike.of_both (openStream_spec stream alike.firstReliable).2.1
      (openStream_spec stream alike.secondReliable).2.1 (entries_openStream stream first)
      (entries_openStream stream second)
  refine ⟨?_, alikeAfter⟩
  unfold openStream
  rcases Pull.uncons stream.pulls with ⟨marks, _ | item, rest⟩ <;> rfl

theorem readRange_alike (alike : first.Alike second) (store : EventStore Payload)
    (key : StreamKey) (number : Nat) (last : Option Nat) :
    (@readRange Payload Note _ store key number last first).1 =
        (store.readRange key number last second).1 ∧
      (@readRange Payload Note _ store key number last first).2.Alike
        (@readRange Payload Note _ store key number last second).2 := by
  have sameStream : (store.stream key number last second : EventStream (ReadMark Note) Payload) =
      store.stream key number last first :=
    congrArg EventStream.ofPulls (pages_alike alike store key number last)
  unfold readRange
  rw [sameStream]
  generalize (store.stream key number last first : EventStream (ReadMark Note) Payload) = stream
  have opened := openStream_alike alike stream
  generalize openStream stream first = firstOpening at opened ⊢
  generalize openStream stream second = secondOpening at opened ⊢
  obtain ⟨found, firstOpened⟩ := firstOpening
  obtain ⟨other, secondOpened⟩ := secondOpening
  obtain ⟨rfl, alikeOpened⟩ := opened
  cases found with
  | some stream => exact ⟨rfl, alikeOpened⟩
  | none =>
    simp only [Backend.fetchBatch, alikeOpened.firstReliable.attemptFetch,
      alikeOpened.secondReliable.attemptFetch, alikeOpened.fetchBatch_eq]
    cases firstOpened.entries.fetchBatch key 0 1 with
    | nil => exact ⟨rfl, alikeOpened.fetched⟩
    | cons entry rest => exact ⟨rfl, alikeOpened.fetched⟩

/-- A visit meets the same events in the same order wherever they are, and changes nothing. -/
theorem visitPages_alike (alike : first.Alike second) (store : EventStore Payload)
    (criteria : Criteria) (after : Option EntryPosition) :
    let visited := store.visitPages criteria after first
    store.visitPages criteria after second = (visited.1, visited.2.1, second) := by
  fun_induction store.visitPages criteria after first with
  | case1 after first error next attempted =>
    rw [alike.firstReliable.attempt] at attempted
    cases attempted
  | case2 after first next attempted unchanged batch events error failed =>
    rw [visitPages_unfold, alike.secondReliable.attempt]
    simp only [batch] at failed
    simp only [alike.fetchFiltered_eq, failed]
  | case3 after first next attempted unchanged batch events read short =>
    rw [visitPages_unfold, alike.secondReliable.attempt]
    simp only [batch] at read
    simp only [alike.fetchFiltered_eq, read]
    exact if_pos short
  | case4 after first next attempted unchanged batch events read full nothing =>
    rw [List.getLast?_eq_none_iff] at nothing
    rw [nothing] at full
    exact absurd store.batchSize_pos full
  | case5 after first next attempted unchanged batch events read full last found member _ others
      result final visitedRest ih =>
    rw [alike.firstReliable.attempt] at attempted
    obtain ⟨-, rfl⟩ := Prod.mk.inj attempted
    have rest := ih alike
    simp only [visitedRest] at rest
    rw [visitPages_unfold, alike.secondReliable.attempt]
    simp only [batch] at read found
    simp only [alike.fetchFiltered_eq, read, found, rest]
    exact if_neg full

theorem visit_alike (alike : first.Alike second) (store : EventStore Payload)
    (criteria : Criteria) :
    (store.visit criteria first).1 = (store.visit criteria second).1 ∧
      (store.visit criteria first).2.1 = (store.visit criteria second).2.1 ∧
      (store.visit criteria first).2.2.Alike (store.visit criteria second).2.2 := by
  have here := visitPages_alike (.refl alike.firstReliable) store criteria none
  have there := visitPages_alike alike store criteria none
  have unchanged : (store.visit criteria first).2.2 = first := congrArg (fun left => left.2.2) here
  have answered : store.visit criteria second =
      ((store.visit criteria first).1, (store.visit criteria first).2.1, second) := there
  rw [answered, unchanged]
  exact ⟨rfl, rfl, alike⟩

theorem readTracked_alike (alike : first.Alike second) (store : EventStore Payload)
    (after : Option TrackingToken) (limit : Nat) :
    (store.readTracked after limit first).1 = (store.readTracked after limit second).1 ∧
      (store.readTracked after limit first).2.Alike (store.readTracked after limit second).2 := by
  simp only [readTracked, alike.firstReliable.fetchTracked, alike.secondReliable.fetchTracked,
    alike.fetchTracked_eq]
  cases store.decodeTracked (first.entries.fetchTracked after limit) <;> exact ⟨rfl, alike⟩

/-- Reading a whole history, from a snapshot or not, changes no events. -/
theorem read_alike (alike : first.Alike second) (store : EventStore Payload) (key : StreamKey) :
    (@read Payload Note _ store key first).2.Alike (@read Payload Note _ store key second).2 := by
  have stillReliable {backend : Backend} (reliable : backend.Reliable) :
      (@read Payload Note _ store key backend).2.Reliable := by
    obtain ⟨after, -, reliableAfter, ⟨-, isRead⟩ | ⟨-, stream, isRead, -⟩⟩ :=
      store.read_spec Note key reliable
    · rw [isRead]
      exact reliableAfter
    · rw [isRead]
      exact reliableAfter
  exact alike.of_both (stillReliable alike.firstReliable) (stillReliable alike.secondReliable)
    (entries_read store key first) (entries_read store key second)

/-- Storing a snapshot in one of two backends leaves them alike. -/
theorem appendSnapshot_alike (alike : first.Alike second) (store : EventStore Payload)
    (aggregateType : String) (snapshot : DomainEvent Payload) :
    (store.appendSnapshot aggregateType snapshot first).2.Alike second := by
  unfold appendSnapshot
  cases store.codec.encode aggregateType snapshot with
  | error error => exact alike
  | ok entry =>
    have reliable : ({ first with entries := first.entries.persistSnapshot entry } :
        Backend).Reliable := alike.firstReliable
    simp only [alike.firstReliable.persistSnapshot, reliable.pruneSnapshots]
    obtain ⟨snapshots, pruned⟩ := (first.entries.persistSnapshot entry).pruneSnapshots_eq
      ⟨aggregateType, snapshot.aggregateId⟩ store.config.maxSnapshots
    apply alike.of_left
    · exact alike.firstReliable
    · exact ⟨snapshots, pruned⟩

end EventStore

/-! ## Runs -/

/-- A call of an event store. -/
inductive StoreCall (Payload : Type) where
  | append (aggregateType : String) (events : List (DomainEvent Payload))
  | appendSnapshot (maxSnapshots : Nat) (aggregateType : String) (snapshot : DomainEvent Payload)
  | read (key : StreamKey)
  | readRange (key : StreamKey) (first : Nat) (last : Option Nat)
  | visit (criteria : Criteria)
  | readTracked (after : Option TrackingToken) (limit : Nat)

/-- What is answered to a call about events: the outcome, the stream, or what has been
visited and how the visit has ended. -/
inductive StoreAnswer (Note Payload : Type) where
  | appended (result : Except EventStoreError Unit)
  | range (result : Except EventStoreError (EventStream (ReadMark Note) Payload))
  | visited (events : List (DomainEvent Payload)) (result : Except EventStoreError Unit)
  | tracked (result : Except EventStoreError (List (TrackedEvent Payload)))

/-- Whether a call stores a snapshot. -/
def StoreCall.isSnapshot {Payload : Type} : StoreCall Payload → Bool
  | .appendSnapshot _ _ _ => true
  | _ => false

namespace EventStore

variable {Payload Note : Type} [DocumentFamily Payload] {first second : Backend}

variable (Note) in
/-- What is answered to a call, unless it is about snapshots: storing one, or reading a whole
history from the latest one.  A snapshot is stored with an archive of any size. -/
def perform (store : EventStore Payload) (backend : Backend) :
    StoreCall Payload → List (StoreAnswer Note Payload) × Backend
  | .append aggregateType events =>
    let (result, backend) := store.append aggregateType events backend
    ([.appended result], backend)
  | .appendSnapshot maxSnapshots aggregateType snapshot =>
    ([], ((store.withMaxSnapshots maxSnapshots).appendSnapshot aggregateType snapshot backend).2)
  | .read key => ([], (@read Payload Note _ store key backend).2)
  | .readRange key first last =>
    let (result, backend) := store.readRange key first last backend
    ([.range result], backend)
  | .visit criteria =>
    let (events, result, backend) := store.visit criteria backend
    ([.visited events result], backend)
  | .readTracked after limit =>
    let (result, backend) := store.readTracked after limit backend
    ([.tracked result], backend)

variable (Note) in
/-- The answers to one call after another. -/
def performAll (store : EventStore Payload) (backend : Backend) :
    List (StoreCall Payload) → List (StoreAnswer Note Payload) × Backend
  | [] => ([], backend)
  | call :: rest =>
    let (answers, backend) := store.perform Note backend call
    let (others, backend) := store.performAll backend rest
    (answers ++ others, backend)

/-- A call is answered alike by backends that are alike, and leaves them so. -/
theorem perform_alike (alike : first.Alike second) (store : EventStore Payload)
    (call : StoreCall Payload) :
    (store.perform Note first call).1 = (store.perform Note second call).1 ∧
      (store.perform Note first call).2.Alike (store.perform Note second call).2 := by
  cases call with
  | append aggregateType events =>
    obtain ⟨sameAnswer, alikeAfter⟩ := append_alike alike store aggregateType events
    exact ⟨congrArg (fun result => [StoreAnswer.appended result]) sameAnswer, alikeAfter⟩
  | appendSnapshot maxSnapshots aggregateType snapshot =>
    have once := appendSnapshot_alike alike (store.withMaxSnapshots maxSnapshots) aggregateType
      snapshot
    exact ⟨rfl, (appendSnapshot_alike once.symm (store.withMaxSnapshots maxSnapshots)
      aggregateType snapshot).symm⟩
  | read key => exact ⟨rfl, read_alike alike store key⟩
  | readRange key number last =>
    obtain ⟨sameAnswer, alikeAfter⟩ :=
      @readRange_alike Payload Note _ _ _ alike store key number last
    exact ⟨congrArg (fun result => [StoreAnswer.range result]) sameAnswer, alikeAfter⟩
  | visit criteria =>
    obtain ⟨sameEvents, sameResult, alikeAfter⟩ := visit_alike alike store criteria
    refine ⟨?_, alikeAfter⟩
    exact congrArg₂ (fun events result => [StoreAnswer.visited events result]) sameEvents sameResult
  | readTracked after limit =>
    obtain ⟨sameAnswer, alikeAfter⟩ := readTracked_alike alike store after limit
    exact ⟨congrArg (fun result => [StoreAnswer.tracked result]) sameAnswer, alikeAfter⟩

/-- A call that stores a snapshot answers nothing and leaves no trace in the events. -/
theorem perform_snapshot_alike (alike : first.Alike second) (store : EventStore Payload)
    {call : StoreCall Payload} (isSnapshot : call.isSnapshot = true) :
    (store.perform Note first call).1 = [] ∧ (store.perform Note first call).2.Alike second := by
  cases call with
  | appendSnapshot maxSnapshots aggregateType snapshot =>
    exact ⟨rfl, appendSnapshot_alike alike (store.withMaxSnapshots maxSnapshots) aggregateType
      snapshot⟩
  | _ => cases isSnapshot

/-- A run answers what it answers without the calls that store snapshots. -/
theorem performAll_alike (alike : first.Alike second) (store : EventStore Payload)
    (calls : List (StoreCall Payload)) :
    (store.performAll Note first calls).1 =
        (store.performAll Note second (calls.filter fun call => !call.isSnapshot)).1 ∧
      (store.performAll Note first calls).2.Alike
        (store.performAll Note second (calls.filter fun call => !call.isSnapshot)).2 := by
  have further (backend : Backend) (call : StoreCall Payload) (rest : List (StoreCall Payload)) :
      store.performAll Note backend (call :: rest) =
        ((store.perform Note backend call).1 ++
            (store.performAll Note (store.perform Note backend call).2 rest).1,
          (store.performAll Note (store.perform Note backend call).2 rest).2) := rfl
  -- A call that stores a snapshot is a step of the first backend alone; the others are steps of
  -- both, so that the backends are alike before each of them.
  induction calls generalizing first second with
  | nil => exact ⟨rfl, alike⟩
  | cons call rest ih =>
    cases isSnapshot : call.isSnapshot with
    | true =>
      obtain ⟨silent, alikeAfter⟩ := @perform_snapshot_alike Payload Note _ _ _ alike store call
        isSnapshot
      have erased : (call :: rest).filter (fun call => !call.isSnapshot) =
          rest.filter fun call => !call.isSnapshot := List.filter_cons_of_neg (by simp [isSnapshot])
      rw [erased, further, silent, List.nil_append]
      exact ih alikeAfter
    | false =>
      obtain ⟨sameAnswers, alikeAfter⟩ := @perform_alike Payload Note _ _ _ alike store call
      have kept : (call :: rest).filter (fun call => !call.isSnapshot) =
          call :: rest.filter fun call => !call.isSnapshot :=
        List.filter_cons_of_pos (by simp [isSnapshot])
      obtain ⟨sameOthers, alikeAtEnd⟩ := ih alikeAfter
      rw [kept, further, further, sameAnswers, sameOthers]
      exact ⟨rfl, alikeAtEnd⟩

variable (Note) in
/-- Two runs that differ in the snapshots that are stored, at any time, of any history, under
any identity and number and in archives of any size, have the same answers to all calls about
events, and leave the same events behind. -/
theorem snapshots_doNotInterfere (store : EventStore Payload) (entries : EntryStore)
    {calls others : List (StoreCall Payload)}
    (sameCalls : calls.filter (fun call => !call.isSnapshot) =
      others.filter fun call => !call.isSnapshot) :
    let run := store.performAll Note (.ofEntries entries) calls
    let otherRun := store.performAll Note (.ofEntries entries) others
    run.1 = otherRun.1 ∧
      ∃ snapshots, otherRun.2.entries = { run.2.entries with snapshots } := by
  have alike : (Backend.ofEntries entries).Alike (.ofEntries entries) := .refl fun _ => rfl
  obtain ⟨sameAnswers, alikeAfter⟩ := @performAll_alike Payload Note _ _ _ alike store calls
  obtain ⟨sameOthers, alikeOther⟩ := @performAll_alike Payload Note _ _ _ alike store others
  rw [sameCalls] at sameAnswers alikeAfter
  exact ⟨sameAnswers.trans sameOthers.symm, (alikeAfter.trans alikeOther.symm).sameEvents⟩

/-- A snapshot of a meter has the identity and the number of an event that is stored.  The
event behind it is taken, and nobody who reads the events can tell. -/
theorem snapshots_doNotInterfere_of_meter :
    let store : EventStore MeterPayload := .ofSerializer Meter.serializer
    let key : StreamKey := ⟨"Meter", ⟨"m"⟩⟩
    let events := Meter.history [.installed ⟨"m"⟩ 1, .measured 5, .measured 7]
    let snapshot := Meter.readingEvent 1
    let others : List (StoreCall MeterPayload) :=
      [.append "Meter" (events.take 2), .append "Meter" (events.drop 2)]
    let calls : List (StoreCall MeterPayload) :=
      [.append "Meter" (events.take 2), .appendSnapshot 3 "Meter" snapshot,
        .append "Meter" (events.drop 2)]
    let reads : List (StoreCall MeterPayload) :=
      [.readRange key 0 none, .visit {}, .readTracked none 9]
    (∃ event ∈ events, event.id = snapshot.id ∧
      event.sequenceNumber = snapshot.sequenceNumber) ∧
    (store.performAll Unit .empty calls).2.entries.snapshotCount key = 1 ∧
    (store.performAll Unit .empty calls).2.entries.eventCount = 3 ∧
    (store.performAll Unit .empty others).2.entries.snapshotCount key = 0 ∧
    (store.performAll Unit .empty (calls ++ reads)).1 =
      (store.performAll Unit .empty (others ++ reads)).1 := by
  intro store key events snapshot others calls reads
  have sameCalls : (calls ++ reads).filter (fun call => !call.isSnapshot) =
      (others ++ reads).filter fun call => !call.isSnapshot := rfl
  exact ⟨by decide, by decide +kernel, by decide +kernel, by decide +kernel,
    (snapshots_doNotInterfere Unit store .empty sameCalls).1⟩

end EventStore

end EventSourcing
