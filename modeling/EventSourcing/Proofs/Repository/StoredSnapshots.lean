import EventSourcing.Proofs.Repository.MeterRepository
import EventSourcing.Proofs.Repository.Remnants

/-!
# Stored snapshots

Commands are dispatched one after another, by handlers that may carry on when an event is
refused.  Every snapshot that is stored on the way holds the state to which the stored
events lead up to its number, from what refused creations have left of a fresh aggregate
(`Repository.Commanded.snapshots_replay`).  If they have left nothing, it holds just what
the events lead to.
-/

namespace EventSourcing

namespace Repository

variable {Payload State Note Bus : Type} [DocumentFamily Payload]
  {repository : Repository Payload State Note Bus} {leaves : State → Prop} {id : AggregateId}
  {past : List (DomainEvent Payload)} {guard : Guard Payload State}

/-! ## Snapshots -/

/-- A snapshot entry holds a state that comes from events. -/
def Pictures (repository : Repository Payload State Note Bus) (leaves : State → Prop)
    (past : List (DomainEvent Payload)) (entry : Entry) : Prop :=
  ∃ state snapshot, repository.ComesFrom leaves past state ∧
    repository.store.codec.decode entry = .ok [snapshot] ∧
    snapshot.payload = repository.configuration.snapshotKind.inject state ∧
    snapshot.sequenceNumber = entry.sequenceNumber ∧ entry.sequenceNumber + 1 = past.length

omit [DocumentFamily Payload] in
theorem getLast?_sequenceNumber_eq_some_iff {past : List (DomainEvent Payload)}
    (numbered : past.map DomainEvent.sequenceNumber = List.range past.length) {number : Nat} :
    past.getLast?.map DomainEvent.sequenceNumber = some number ↔ number + 1 = past.length := by
  rw [← List.getLast?_map, numbered, List.getLast?_range]
  by_cases empty : past.length = 0
  · simp [empty]
  · simp only [empty, ↓reduceIte, Option.some.injEq]
    omega

/-- A snapshot that is taken of a guard without a queue holds the state of the guard. -/
theorem Stems.pictures (wellBehaved : repository.WellBehaved)
    (stems : repository.Stems leaves past guard) (nothingQueued : guard.uncommitted = [])
    {stamp : Stamp} {snapshot : DomainEvent Payload} {entry : Entry}
    (owned : guard.identifier repository.configuration = some id)
    (taken : guard.snapshot? repository.configuration stamp = some snapshot)
    (encoded : repository.store.codec.encode repository.typeIdentifier snapshot = .ok entry) :
    entry.streamKey = repository.streamKey id ∧ repository.Pictures leaves past entry := by
  have numbered := stems.numbered
  have comes := stems.comes
  rw [nothingQueued, List.append_nil] at numbered comes
  simp only [Guard.snapshot?, owned, Option.bind_eq_bind, Option.bind_eq_some_iff,
    Option.pure_def, Option.some.injEq, exists_eq_left'] at taken
  obtain ⟨version, isVersion, rfl⟩ := taken
  have decoded := EventCodec.decode_of_encode wellBehaved.direct encoded fun document written =>
    wellBehaved.statesReadBack written
  obtain ⟨document, -, rfl⟩ := EventCodec.encode_eq_ok_iff.mp encoded
  exact ⟨rfl, guard.state, _, comes, decoded, rfl, rfl,
    (getLast?_sequenceNumber_eq_some_iff numbered).mp (stems.version.symm.trans isVersion)⟩

/-! ## What a store holds -/

/-- The events of aggregates as a store holds them, and pictures of what they lead to. -/
structure Logs (repository : Repository Payload State Note Bus) (leaves : State → Prop)
    (entries : EntryStore) (histories : AggregateId → List (DomainEvent Payload)) : Prop where
  consistent : entries.Consistent
  numbered (id : AggregateId) : (histories id).map DomainEvent.sequenceNumber =
    List.range (histories id).length
  admitted (id : AggregateId) : ∀ event ∈ histories id, repository.Admits event.payload
  written (id : AggregateId) :
    repository.Written (histories id) (entries.history (repository.streamKey id))
  pictured (key : StreamKey) (entry : Entry) : entries.HasSnapshot key entry →
    ∃ id past, key = repository.streamKey id ∧ past <+: histories id ∧
      repository.Pictures leaves past entry

variable {entries : EntryStore} {histories : AggregateId → List (DomainEvent Payload)}

theorem logs_empty : repository.Logs leaves .empty fun _ => [] where
  consistent := EntryStore.consistent_empty
  numbered _ := rfl
  admitted _ _ isEvent := absurd isEvent List.not_mem_nil
  written _ := .nil
  pictured key entry has := by
    obtain ⟨number, found⟩ := has
    simp [EntryStore.empty, EntryStore.snapshotsOf] at found

theorem Logs.withSnapshots (logs : repository.Logs leaves entries histories)
    {snapshots : Table StreamKey (OrderedMap Nat Entry)}
    (pictured : ∀ key entry, ({ entries with snapshots } : EntryStore).HasSnapshot key entry →
      ∃ id past, key = repository.streamKey id ∧ past <+: histories id ∧
        repository.Pictures leaves past entry) :
    repository.Logs leaves { entries with snapshots } histories :=
  { logs with
    consistent := logs.consistent.withSnapshots snapshots
    pictured := pictured }

theorem Logs.pruneSnapshots (logs : repository.Logs leaves entries histories) (key : StreamKey)
    (keep : Nat) : repository.Logs leaves (entries.pruneSnapshots key keep).2 histories := by
  have fewer (other : StreamKey) (entry : Entry)
      (has : (entries.pruneSnapshots key keep).2.HasSnapshot other entry) :=
    logs.pictured other entry has.of_pruneSnapshots
  obtain ⟨snapshots, pruned⟩ := entries.pruneSnapshots_eq key keep
  rw [pruned] at fewer ⊢
  exact logs.withSnapshots fewer

theorem Logs.persistSnapshot (logs : repository.Logs leaves entries histories) {entry : Entry}
    (ownKey : entry.streamKey = repository.streamKey id)
    (pictures : repository.Pictures leaves (histories id) entry) :
    repository.Logs leaves (entries.persistSnapshot entry) histories := by
  refine logs.withSnapshots fun key other has => ?_
  rcases EntryStore.HasSnapshot.of_persistSnapshot has with ⟨rfl, rfl⟩ | before
  · exact ⟨id, histories id, ownKey, List.prefix_rfl, pictures⟩
  · exact logs.pictured key other before

/-- A batch goes behind the events of its aggregate. -/
theorem Logs.pushAll (logs : repository.Logs leaves entries histories)
    (stems : repository.Stems leaves (histories id) guard) {batch : List Entry}
    (written : repository.Written guard.uncommitted batch)
    (ownKey : ∀ entry ∈ batch, entry.streamKey = repository.streamKey id)
    (free : entries.conflict? [] batch = none) :
    repository.Logs leaves (entries.pushAll batch)
      (Function.update histories id (histories id ++ guard.uncommitted)) := by
  have extended := EntryStore.history_pushAll_of_own entries ownKey
  constructor
  case consistent => exact logs.consistent.pushAll free
  case numbered =>
    intro other
    by_cases own : other = id
    · subst own
      rw [Function.update_self]
      exact stems.numbered
    · rw [Function.update_of_ne own]
      exact logs.numbered other
  case admitted =>
    intro other
    by_cases own : other = id
    · subst own
      rw [Function.update_self]
      exact stems.admitted
    · rw [Function.update_of_ne own]
      exact logs.admitted other
  case written =>
    intro other
    rw [extended]
    by_cases own : other = id
    · subst own
      rw [Function.update_self, if_pos rfl]
      exact List.rel_append (logs.written other) written
    · rw [Function.update_of_ne own, if_neg fun same => own (streamKey_inj same), List.append_nil]
      exact logs.written other
  case pictured =>
    intro key entry has
    rw [EntryStore.HasSnapshot, EntryStore.snapshotsOf, EntryStore.snapshots_pushAll] at has
    obtain ⟨owner, beginning, isKey, front, pictures⟩ := logs.pictured key entry has
    refine ⟨owner, beginning, isKey, ?_, pictures⟩
    by_cases own : owner = id
    · subst own
      rw [Function.update_self]
      exact front.trans (List.prefix_append _ _)
    · rwa [Function.update_of_ne own]

/-! ## Reading -/

theorem Logs.map_sequenceNumber (logs : repository.Logs leaves entries histories)
    (id : AggregateId) :
    (entries.history (repository.streamKey id)).map Entry.sequenceNumber =
      List.range (entries.history (repository.streamKey id)).length := by
  rw [(logs.written id).map_sequenceNumber, logs.numbered, (logs.written id).length_eq]

theorem Logs.decodeAll_entriesFrom (wellBehaved : repository.WellBehaved)
    (logs : repository.Logs leaves entries histories) {later : List (DomainEvent Payload)}
    (split : histories id = past ++ later) :
    repository.store.codec.decodeAll
      (entries.entriesFrom (repository.streamKey id) past.length) = .ok later := by
  have numbered := logs.map_sequenceNumber id
  have ascending : (entries.history (repository.streamKey id)).Pairwise fun entry later =>
      entry.sequenceNumber < later.sequenceNumber := by
    rw [← List.pairwise_map (f := Entry.sequenceNumber), numbered]
    exact List.pairwise_lt_range
  rw [logs.consistent.entriesFrom_eq ascending, filter_le_sequenceNumber_eq_drop numbered]
  have behind := List.forall₂_drop past.length (logs.written id)
  rw [split, List.drop_left] at behind
  refine EventCodec.decodeAll_of_forall₂ wellBehaved.direct behind fun event isLater _ written => ?_
  refine (logs.admitted id event ?_).roundTrips.readBack written
  rw [split]
  exact List.mem_append_right past isLater

/-- What is read of a history leads where its events lead. -/
theorem Logs.stems_read (wellBehaved : repository.WellBehaved)
    (logs : repository.Logs leaves entries histories) {events : List (DomainEvent Payload)}
    (isRead : repository.store.eventsRead entries (repository.streamKey id) = .ok events) :
    repository.Stems leaves (histories id)
      (repository.newAggregate.replayEvents repository.configuration events) := by
  have version : (repository.newAggregate.replayEvents repository.configuration events).version =
      events.getLast?.map DomainEvent.sequenceNumber := by
    rw [Guard.version_replayEvents]
    exact Option.or_none
  have leads : repository.ComesFrom leaves (histories id)
        (repository.newAggregate.replayEvents repository.configuration events).state ∧
      events.getLast?.map DomainEvent.sequenceNumber =
        (histories id).getLast?.map DomainEvent.sequenceNumber := by
    cases latest : (entries.lastSnapshot? (repository.streamKey id)).bind
        repository.store.snapshotEvent? with
    | none =>
      have whole := logs.decodeAll_entriesFrom wellBehaved (List.nil_append (histories id)).symm
      simp only [EventStore.eventsRead, latest] at isRead
      obtain rfl : histories id = events := Except.ok.inj (whole.symm.trans isRead)
      exact ⟨comesFrom_fresh _, rfl⟩
    | some snapshot =>
      obtain ⟨entry, isLast, opened⟩ := Option.bind_eq_some_iff.mp latest
      obtain ⟨owner, past, ownKey, front, state, taken, comes, decoded, payload, number, isPast⟩ :=
        logs.pictured _ entry (EntryStore.hasSnapshot_of_lastSnapshot? isLast)
      obtain rfl : id = owner := streamKey_inj ownKey
      obtain ⟨later, split⟩ := front
      obtain rfl : taken = snapshot := EventStore.eq_of_snapshotEvent? decoded opened
      have behind := logs.decodeAll_entriesFrom wellBehaved split.symm
      rw [← isPast, ← number] at behind
      simp only [EventStore.eventsRead, latest, behind] at isRead
      obtain rfl : taken :: later = events := Except.ok.inj isRead
      have restarted : (repository.newAggregate.replayEvent repository.configuration taken).state =
          (Guard.ofState state : Guard Payload State).state := by
        simp only [Guard.replayEvent, payload, PayloadKind.project_inject, Guard.ofState]
      have further : (repository.newAggregate.replayEvents repository.configuration
          (taken :: later)).state = repository.stateFrom state later :=
        Guard.state_replayEvents_congr restarted later
      have numbered : past.map DomainEvent.sequenceNumber = List.range past.length :=
        numbered_of_prefix (logs.numbered id) ⟨later, split⟩
      have ended : past.getLast?.map DomainEvent.sequenceNumber = some taken.sequenceNumber :=
        (getLast?_sequenceNumber_eq_some_iff numbered).mpr (number ▸ isPast)
      rw [← split, further, List.getLast?_cons, List.getLast?_append]
      refine ⟨comes.append later, ?_⟩
      cases later.getLast? with
      | none => exact ended.symm
      | some event => rfl
  exact stems_of_nothingQueued (Guard.uncommitted_replayEvents _ _ _) (logs.numbered id)
    (logs.admitted id) leads.1 (version.trans leads.2)

/-! ## One command -/

variable {backend : Backend}

/-- A backend that never fails and holds logs. -/
structure Logging (repository : Repository Payload State Note Bus) (leaves : State → Prop)
    (backend : Backend) (histories : AggregateId → List (DomainEvent Payload)) : Prop where
  reliable : backend.Reliable
  logs : repository.Logs leaves backend.entries histories

theorem Logging.obtain (logging : repository.Logging leaves backend histories)
    (id : AggregateId) (expected : ExpectedVersion) :
    repository.Logging leaves (repository.obtain id expected backend).2.2 histories := by
  rw [repository.backend_obtain]
  refine ⟨repository.reliable_load logging.reliable id expected, ?_⟩
  rw [repository.entries_load]
  exact logging.logs

theorem Logging.stems_obtain (wellBehaved : repository.WellBehaved)
    (logging : repository.Logging leaves backend histories) {expected : ExpectedVersion}
    {notes : List Note} {after : Backend}
    (obtained : repository.obtain id expected backend = (.ok guard, notes, after)) :
    repository.Stems leaves (histories id) guard := by
  obtain ⟨events, isRead, rfl⟩ :=
    exists_events_of_obtain wellBehaved.undecorated logging.reliable obtained
  exact logging.logs.stems_read wellBehaved isRead

/-- The queue of a guard goes behind the events of its aggregate, or nothing is stored. -/
theorem Logging.write (wellBehaved : repository.WellBehaved)
    (logging : repository.Logging leaves backend histories)
    (stems : repository.Stems leaves (histories id) guard) (queued : guard.uncommitted ≠ [])
    (owned : guard.identifier repository.configuration = some id) :
    (∃ error, repository.write id guard backend = (.error error, guard, backend)) ∨
    ∃ after, repository.write id guard backend = (.ok guard.uncommitted, guard.commit.2, after) ∧
      repository.Logging leaves after
        (Function.update histories id (histories id ++ guard.uncommitted)) := by
  obtain ⟨batch, written⟩ := exists_written fun event isQueued =>
    stems.admitted event (List.mem_append_right _ isQueued)
  have ownKey : ∀ entry ∈ batch, entry.streamKey = repository.streamKey id :=
    written.streamKey_eq fun event isQueued =>
      Option.some.inj ((stems.owned event isQueued).symm.trans owned)
  have undecorated := appendAll_of_undecorated wellBehaved.undecorated (repository.streamKey id)
    guard.uncommitted
  cases conflicts : backend.entries.conflict? [] batch with
  | some conflict =>
    have refused : backend.entries.persist batch = .error (.duplicateKey conflict) := by
      simp only [EntryStore.persist, conflicts]
    exact .inl ⟨_, write_of_refused logging.reliable undecorated queued written refused⟩
  | none =>
    have stored : backend.entries.persist batch = .ok (backend.entries.pushAll batch) :=
      EntryStore.persist_eq_ok_iff.mpr ⟨conflicts, rfl⟩
    exact .inr ⟨_, write_of_stored logging.reliable undecorated queued written stored,
      logging.reliable, logging.logs.pushAll stems written ownKey conflicts⟩

theorem Logging.snapshotIfDue (wellBehaved : repository.WellBehaved)
    (logging : repository.Logging leaves backend histories)
    (stems : repository.Stems leaves (histories id) guard)
    (nothingQueued : guard.uncommitted = [])
    (owned : guard.identifier repository.configuration = some id) (stamp : Stamp) :
    repository.Logging leaves (repository.snapshotIfDue stamp guard backend).2 histories := by
  rcases repository.snapshotIfDue_cases logging.reliable guard stamp with
    nothing | ⟨snapshot, entry, key, taken, encoded, stored⟩
  · rw [nothing]
    exact logging
  · obtain ⟨ownKey, pictures⟩ := stems.pictures wellBehaved nothingQueued owned taken encoded
    have persisted := logging.logs.persistSnapshot ownKey pictures
    rw [stored]
    exact ⟨logging.reliable, persisted.pruneSnapshots key _⟩

theorem Logging.save (wellBehaved : repository.WellBehaved)
    (logging : repository.Logging leaves backend histories)
    (stems : repository.Stems leaves (histories id) guard) (queued : guard.uncommitted ≠ [])
    (owned : guard.identifier repository.configuration = some id) (stamp : Stamp) (bus : Bus) :
    ∃ later,
      repository.Logging leaves (repository.save stamp guard backend bus).2.2.1 later := by
  rcases logging.write wellBehaved stems queued owned with
    ⟨error, refused⟩ | ⟨after, stored, loggingAfter⟩
  · rw [save_of_refused queued owned refused]
    exact ⟨histories, logging⟩
  · obtain ⟨result, busAfter, saved, -⟩ := save_of_stored queued owned stored stamp bus
    have longer : repository.Stems leaves
        (Function.update histories id (histories id ++ guard.uncommitted) id) guard.commit.2 := by
      rw [Function.update_self]
      exact stems.commit
    rw [saved]
    exact ⟨_, loggingAfter.snapshotIfDue wellBehaved longer rfl owned stamp⟩

theorem Logging.dispatch (wellBehaved : repository.WellBehaved)
    (logging : repository.Logging leaves backend histories) (stamp : Stamp)
    (command : Command Payload State) (bus : Bus)
    (handles : ∀ guard live,
      (repository.obtain command.target command.expected backend).1 = .ok guard →
        command.handler guard = (.ok (), live) → repository.Attempting leaves guard live) :
    ∃ later,
      repository.Logging leaves (repository.dispatch stamp command backend bus).backend later := by
  have loggingAfter := logging.obtain command.target command.expected
  rcases repository.dispatch_cases stamp command backend bus with
    ⟨left, -⟩ | ⟨guard, notes, after, live, obtained, handled, owned, left, -⟩
  · rw [left]
    exact ⟨histories, loggingAfter⟩
  have stems := logging.stems_obtain wellBehaved obtained
  rw [obtained] at loggingAfter handles
  have attempted := (handles guard live rfl handled).stems wellBehaved stems
  rw [left]
  by_cases queued : live.uncommitted = []
  · refine ⟨histories, ?_⟩
    simp only [Repository.save, queued, List.isEmpty_nil, ↓reduceIte]
    exact loggingAfter
  · exact loggingAfter.save wellBehaved attempted queued owned stamp bus

/-! ## Runs -/

/-- What a store can be after commands have been dispatched one after another, whose
handlers may carry on when an event is refused. -/
inductive Commanded (repository : Repository Payload State Note Bus) (leaves : State → Prop) :
    Backend → Prop
  | start : Commanded repository leaves .empty
  | dispatch {held} (before : Commanded repository leaves held) (stamp : Stamp)
      (command : Command Payload State) (bus : Bus)
      (handles : ∀ found live,
        (repository.obtain command.target command.expected held).1 = .ok found →
          command.handler found = (.ok (), live) →
            repository.Attempting leaves found live) :
      Commanded repository leaves (repository.dispatch stamp command held bus).backend

theorem Commanded.logging (wellBehaved : repository.WellBehaved)
    (commanded : repository.Commanded leaves backend) :
    ∃ histories, repository.Logging leaves backend histories := by
  induction commanded with
  | start => exact ⟨_, Backend.reliable_empty, logs_empty⟩
  | dispatch before stamp command bus handles ih =>
    obtain ⟨histories, logging⟩ := ih
    exact logging.dispatch wellBehaved stamp command bus handles

/-- Of entries that are numbered without gaps, those up to a number are the first ones. -/
theorem filter_sequenceNumber_le_eq_take {entries : List Entry}
    (numbered : entries.map Entry.sequenceNumber = List.range entries.length) (last : Nat) :
    (entries.filter fun entry => entry.sequenceNumber ≤ last) = entries.take (last + 1) := by
  have front : ∀ entry ∈ entries.take (last + 1), entry.sequenceNumber ≤ last := by
    intro entry isFront
    have listed := List.mem_map_of_mem (f := Entry.sequenceNumber) isFront
    rw [List.map_take, numbered, List.take_range, List.mem_range] at listed
    omega
  have behind : ∀ entry ∈ entries.drop (last + 1), last + 1 ≤ entry.sequenceNumber := by
    rw [← filter_le_sequenceNumber_eq_drop numbered]
    intro entry isBehind
    exact of_decide_eq_true (List.mem_filter.mp isBehind).2
  conv_lhs => rw [← List.take_append_drop (last + 1) entries]
  rw [List.filter_append, List.filter_eq_self.mpr, List.filter_eq_nil_iff.mpr, List.append_nil]
  · intro entry isBehind
    have later := behind entry isBehind
    rw [decide_eq_true_eq]
    omega
  · exact fun entry isFront => decide_eq_true (front entry isFront)

/-- Every snapshot that is stored holds the state to which the stored events lead up to its
number.  They do not lead there from a fresh aggregate, but from what refused creations have
left of it. -/
theorem Commanded.snapshots_replay (wellBehaved : repository.WellBehaved)
    (commanded : repository.Commanded leaves backend) {key : StreamKey} {entry : Entry}
    (has : backend.entries.HasSnapshot key entry) :
    ∃ events origin snapshot, key.aggregateType = repository.typeIdentifier ∧
      repository.store.codec.decodeAll ((backend.entries.history key).filter fun stored =>
        stored.sequenceNumber ≤ entry.sequenceNumber) = .ok events ∧
      events.map DomainEvent.sequenceNumber = List.range (entry.sequenceNumber + 1) ∧
      repository.store.codec.decode entry = .ok [snapshot] ∧
      snapshot.payload = repository.configuration.snapshotKind.inject
        ((Guard.ofState origin).replayEvents repository.configuration events).state ∧
      repository.Remnant origin ∧ (origin = repository.fresh ∨ leaves origin) := by
  obtain ⟨histories, -, logs⟩ := commanded.logging wellBehaved
  obtain ⟨id, past, rfl, ⟨later, split⟩, state, snapshot, ⟨origin, remnant, isLeft, rfl⟩, decoded,
    payload, -, number⟩ := logs.pictured key entry has
  have written := List.forall₂_take (entry.sequenceNumber + 1) (logs.written id)
  rw [number, ← split, List.take_left, ← number] at written
  refine ⟨past, origin, snapshot, rfl, ?_, ?_, decoded, payload, remnant, isLeft⟩
  · rw [filter_sequenceNumber_le_eq_take (logs.map_sequenceNumber id)]
    refine EventCodec.decodeAll_of_forall₂ wellBehaved.direct written fun event isPast _ stored => ?_
    refine (logs.admitted id event ?_).roundTrips.readBack stored
    rw [← split]
    exact List.mem_append_left later isPast
  · rw [number]
    exact numbered_of_prefix (logs.numbered id) ⟨later, split⟩

end Repository

/-! ## Meters that measure too early -/

theorem eq_ok_of_toOption {Failure Value : Type} {result : Except Failure Value}
    {value : Value} (found : result.toOption = some value) : result = .ok value := by
  cases result with
  | error error => exact absurd found nofun
  | ok other => exact congrArg Except.ok (Option.some.inj found)

theorem Repository.obtain_empty {Payload State Note Bus : Type} [DocumentFamily Payload]
    (repository : Repository Payload State Note Bus) (id : AggregateId) :
    (repository.obtain id .any .empty).1 = .ok repository.newAggregate := by
  have nothing : repository.store.eventsRead Backend.empty.entries (repository.streamKey id) =
      .ok [] := rfl
  have missing := load_of_nothing Backend.reliable_empty nothing .any
  rcases loaded : repository.load id .any Backend.empty with ⟨result, notes, after⟩
  rw [loaded] at missing
  obtain rfl : result = .error (.aggregateNotFound id) := missing
  simp only [obtain, loaded, ↓reduceIte]

namespace Meter

open MeterPayload

/-- Measures something, ignores that this may be refused, and installs the meter "m". -/
def measureFirst (configuration : AggregateConfiguration MeterPayload Meter) :
    CommandHandler MeterPayload Meter := fun guard =>
  let measured := (guard.apply configuration ⟨EventId.ofNat 1, default⟩ (.measured 5) .empty).2
  measured.apply configuration ⟨EventId.ofNat 2, default⟩ (.installed ⟨"m"⟩ 1) .empty

/-- The store after a meter has measured something too early. -/
def measuredFirst (repository : Repository MeterPayload Meter Unit Unit) : Backend :=
  (repository.dispatch ⟨EventId.ofNat 3, default⟩
    { target := ⟨"m"⟩, handler := measureFirst repository.configuration } .empty ()).backend

theorem commanded_measuredFirst {repository : Repository MeterPayload Meter Unit Unit}
    {leaves : Meter → Prop} {error : DomainError} {measured : Guard MeterPayload Meter}
    (refused : repository.newAggregate.apply repository.configuration ⟨EventId.ofNat 1, default⟩
      (.measured 5) .empty = (.error error, measured))
    (left : measured.state = repository.fresh ∨ leaves measured.state)
    (admits : repository.Admits (.installed ⟨"m"⟩ 1)) :
    repository.Commanded leaves (measuredFirst repository) := by
  refine .dispatch .start _ _ _ fun found live isFound handled => ?_
  obtain rfl : repository.newAggregate = found := 
    Except.ok.inj ((repository.obtain_empty ⟨"m"⟩).symm.trans isFound)
  simp only [measureFirst, refused] at handled
  exact .accept (.refuse .start _ _ _ refused left) _ _ _ admits handled

/-- The repository of meters that come with a register. -/
def equipped : Repository MeterPayload Meter Unit Unit :=
  { repository with
    configuration := { configuration with
      entity := EntityModel.empty.on installation (fun meter installed =>
        { meter with id := meter.id.or (some installed.1) }) |>.withChildren registerAccess register }
    fresh := { registers := [0] } }

theorem equipped_wellBehaved : equipped.WellBehaved where
  undecorated := rfl
  direct := rfl
  ignoresAggregateId := by
    apply EntityModel.ignoresAggregateId_withChildren
    · exact EntityModel.ignoresAggregateId_on EntityModel.ignoresAggregateId_empty _ _
    · exact EntityModel.ignoresAggregateId_on EntityModel.ignoresAggregateId_empty _ _
  keepsIdentifier := by
    intro meter id installed event
    change meter.id = some id at installed
    obtain ⟨⟨eventId, time, metadata, payload⟩, aggregateId, number⟩ := event
    cases payload with
    | installed other count =>
      change (meter.id.or (some other)) = some id
      rw [installed]
      rfl
    | measured amount => exact installed
    | reading other => exact installed
    | unreadable document => exact installed
  statesReadBack := repository_wellBehaved.statesReadBack

end Meter

namespace Repository

/-- A meter without registers measures nothing, so nothing is left of the refused event. -/
theorem Commanded.snapshots_replay_of_meter :
    Meter.repository.Commanded (fun _ => False) (Meter.measuredFirst Meter.repository) ∧
      ∃ entry,
        (Meter.measuredFirst Meter.repository).entries.HasSnapshot ⟨"Meter", ⟨"m"⟩⟩ entry ∧
        ∃ events snapshot, events.map DomainEvent.sequenceNumber = [0] ∧
          Meter.repository.store.codec.decode entry = .ok [snapshot] ∧
          snapshot.payload = .reading (Meter.repository.newAggregate.replayEvents
            Meter.repository.configuration events).state := by
  have commanded : Meter.repository.Commanded (fun _ => False)
      (Meter.measuredFirst Meter.repository) :=
    Meter.commanded_measuredFirst rfl (.inl rfl) ⟨rfl, _, rfl, rfl⟩
  have number : (((Meter.measuredFirst Meter.repository).entries.snapshotsOf
      ⟨"Meter", ⟨"m"⟩⟩).get? 0).map Entry.sequenceNumber = some 0 := by decide +kernel
  obtain ⟨entry, found, isFirst⟩ := Option.map_eq_some_iff.mp number
  refine ⟨commanded, entry, ⟨0, found⟩, ?_⟩
  obtain ⟨events, origin, snapshot, -, -, numbered, decoded, payload, -, rfl | isLeft⟩ :=
    Commanded.snapshots_replay Meter.repository_wellBehaved commanded ⟨0, found⟩
  · rw [isFirst] at numbered
    exact ⟨events, snapshot, numbered, decoded, payload⟩
  · exact isLeft.elim

/-- A meter that comes with a register has counted what it was refused to measure.  Its
snapshot holds the count, but the only event that is stored does not lead to it. -/
theorem snapshot_holds_remnant :
    Meter.equipped.WellBehaved ∧
    Meter.equipped.Commanded (fun _ => True) (Meter.measuredFirst Meter.equipped) ∧
      ∃ entry snapshot events,
        (Meter.measuredFirst Meter.equipped).entries.HasSnapshot ⟨"Meter", ⟨"m"⟩⟩ entry ∧
        Meter.equipped.store.codec.decode entry = .ok [snapshot] ∧
        Meter.equipped.store.codec.decodeAll
          (((Meter.measuredFirst Meter.equipped).entries.history ⟨"Meter", ⟨"m"⟩⟩).filter
            fun stored => stored.sequenceNumber ≤ entry.sequenceNumber) = .ok events ∧
        snapshot.payload ≠ .reading (Meter.equipped.newAggregate.replayEvents
          Meter.equipped.configuration events).state := by
  refine ⟨Meter.equipped_wellBehaved, Meter.commanded_measuredFirst rfl (.inr trivial)
    ⟨rfl, _, rfl, rfl⟩, ?_⟩
  have counted : (((Meter.measuredFirst Meter.equipped).entries.snapshotsOf
      ⟨"Meter", ⟨"m"⟩⟩).get? 0).map (fun entry => (entry.sequenceNumber,
        (Meter.equipped.store.codec.decode entry).toOption.map
          (List.map fun event => event.payload))) =
      some (0, some [MeterPayload.reading ⟨some ⟨"m"⟩, [5]⟩]) := by decide +kernel
  have replayed : (Meter.equipped.store.codec.decodeAll
      (((Meter.measuredFirst Meter.equipped).entries.history ⟨"Meter", ⟨"m"⟩⟩).filter
        fun stored => stored.sequenceNumber ≤ 0)).toOption.map (fun events =>
          (Meter.equipped.newAggregate.replayEvents Meter.equipped.configuration events).state) =
      some ⟨some ⟨"m"⟩, [0]⟩ := by decide +kernel
  obtain ⟨entry, found, both⟩ := Option.map_eq_some_iff.mp counted
  obtain ⟨isFirst, payloads⟩ := Prod.mk.inj both
  obtain ⟨snapshots, decoded, held⟩ := Option.map_eq_some_iff.mp payloads
  obtain ⟨snapshot, rest, rfl, isHeld, nothingElse⟩ := List.map_eq_cons_iff.mp held
  obtain rfl := List.map_eq_nil_iff.mp nothingElse
  obtain ⟨events, stored, leads⟩ := Option.map_eq_some_iff.mp replayed
  refine ⟨entry, snapshot, events, ⟨0, found⟩, eq_ok_of_toOption decoded, ?_, ?_⟩
  · rw [isFirst]
    exact eq_ok_of_toOption stored
  · rw [isHeld, leads]
    decide

end Repository

end EventSourcing
