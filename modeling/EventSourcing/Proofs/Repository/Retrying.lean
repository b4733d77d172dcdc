import EventSourcing.Proofs.EventStore.Appending
import EventSourcing.Proofs.EventStore.HiddenEnds
import EventSourcing.Proofs.Repository.MeterRepository

/-!
# Trying again

Who has come too late may load the aggregate again and repeat the change.  If nobody
else writes meanwhile, this is stored behind the last record of the history, whatever
upcasters make of the records (`Repository.save_of_obtained`).  There is one exception:
if the end of the history is hidden from readers, every attempt fails with the same
conflict (`Repository.retry_conflicts`).
-/

namespace EventSourcing

namespace Guard

variable {Payload State : Type} [PayloadFamily Payload]

theorem nextSequenceNumber_replayEvents (configuration : AggregateConfiguration Payload State)
    (state : State) (events : List (DomainEvent Payload)) :
    ((ofState state).replayEvents configuration events).nextSequenceNumber =
      EventStore.nextNumber events := by
  rw [nextSequenceNumber, lastSequenceNumber?, uncommitted_replayEvents, version_replayEvents]
  simp only [ofState, List.getLast?_nil, Option.map_none, Option.none_or, Option.or_none,
    EventStore.nextNumber]
  cases events.getLast? <;> rfl

end Guard

namespace Repository

variable {Payload State Note Bus : Type} [DocumentFamily Payload]
  {repository : Repository Payload State Note Bus} {id : AggregateId} {backend after : Backend}
  {guard next : Guard Payload State}

/-! ## Saving one event -/

section Saving

variable {event : DomainEvent Payload} {entry : Entry}

theorem place_of_encode
    (encoded : repository.store.codec.encode repository.typeIdentifier event = .ok entry) :
    entry.streamKey = repository.streamKey event.aggregateId ∧
      entry.sequenceNumber = event.sequenceNumber ∧ entry.eventId = event.id := by
  obtain ⟨document, -, rfl⟩ := EventCodec.encode_eq_ok_iff.mp encoded
  exact ⟨rfl, rfl, rfl⟩

theorem exists_entry {payload : Payload}
    (writable : repository.store.codec.serializer.IsWritable payload) (stamp : Stamp)
    (id : AggregateId) (number : Nat) (metadata : Metadata) :
    ∃ entry, repository.store.codec.encode repository.typeIdentifier
      (.ofStamp stamp id number payload metadata) = .ok entry := by
  have payloadWritable : ∃ document, repository.store.codec.serializer.serialize
      (DomainEvent.ofStamp stamp id number payload metadata).payload = .ok document := writable
  exact EventCodec.exists_encode_eq_ok payloadWritable repository.typeIdentifier

/-- One queued event is stored as one entry. -/
theorem written_of_queue (queue : guard.uncommitted = [event])
    (encoded : repository.store.codec.encode repository.typeIdentifier event = .ok entry) :
    guard.uncommitted ≠ [] ∧ repository.Written guard.uncommitted [entry] := by
  rw [queue]
  exact ⟨List.cons_ne_nil _ _, .cons encoded .nil⟩

variable (undecorated : repository.decorators = []) (sound : backend.Sound)
  (queue : guard.uncommitted = [event])
  (owned : guard.identifier repository.configuration = some event.aggregateId)
  (encoded : repository.store.codec.encode repository.typeIdentifier event = .ok entry)

include undecorated sound queue owned encoded

theorem save_of_taken {record : Entry}
    (inHistory : record ∈ backend.entries.history (repository.streamKey event.aggregateId))
    (sameNumber : record.sequenceNumber = event.sequenceNumber) (stamp : Stamp) (bus : Bus) :
    repository.save stamp guard backend bus =
      (.error (.store (.concurrency
        (.position (repository.streamKey event.aggregateId) event.sequenceNumber))),
        guard, backend, bus) := by
  obtain ⟨queued, written⟩ := written_of_queue queue encoded
  obtain ⟨ownKey, ownNumber, -⟩ := place_of_encode encoded
  have taken : (backend.entries.positions entry.streamKey).contains entry.sequenceNumber =
      true := by
    rw [sound.coherent.consistent.contains_iff, ownKey, ownNumber]
    exact ⟨record, inHistory, sameNumber⟩
  have refused := EntryStore.persist_of_taken taken []
  rw [ownKey, ownNumber] at refused
  exact save_of_refused queued owned (write_of_refused sound.reliable
    (appendAll_of_undecorated undecorated _ _) queued written refused) stamp bus

theorem save_of_free
    (free : ∀ record ∈ backend.entries.history (repository.streamKey event.aggregateId),
      record.sequenceNumber ≠ event.sequenceNumber)
    (unused : event.id ∉ backend.entries.eventIds) (stamp : Stamp) (bus : Bus) :
    (∀ conflict, (repository.save stamp guard backend bus).1 ≠
      .error (.store (.concurrency conflict))) ∧
    (repository.save stamp guard backend bus).2.2.1.entries.history
        (repository.streamKey event.aggregateId) =
      backend.entries.history (repository.streamKey event.aggregateId) ++ [entry] := by
  obtain ⟨queued, written⟩ := written_of_queue queue encoded
  obtain ⟨ownKey, ownNumber, ownId⟩ := place_of_encode encoded
  have fits : backend.entries.Fits [entry] := by
    refine EntryStore.fits_cons_iff.mpr ⟨?_, EntryStore.fits_nil _⟩
    rw [← sound.coherent.consistent.free_iff, ← Bool.not_eq_true,
      sound.coherent.consistent.contains_iff, ownKey, ownNumber, ownId]
    exact ⟨fun ⟨record, inHistory, same⟩ => free record inHistory same, unused⟩
  have writes : repository.write event.aggregateId guard backend = _ :=
    write_of_stored sound.reliable (appendAll_of_undecorated undecorated _ _) queued written
      (sound.coherent.persist_of_fits fits)
  constructor
  · intro conflict
    obtain ⟨result, busAfter, saves, outcome⟩ := save_of_stored queued owned writes stamp bus
    rw [saves]
    rcases outcome with rfl | ⟨error, rfl⟩ <;> simp
  · rw [history_save_of_stored queued owned writes sound.reliable stamp bus,
      EntryStore.history_pushAll]
    simp [ownKey]

end Saving

/-! ## Saving what has been loaded -/

section Retrying

variable {expected : ExpectedVersion} {notes : List Note} {stamp : Stamp} {payload : Payload}
  {metadata : Metadata}

theorem sound_obtain (sound : backend.Sound)
    (obtained : repository.obtain id expected backend = (.ok guard, notes, after)) :
    after.entries = backend.entries ∧ after.Sound := by
  have left := repository.backend_obtain id expected backend
  have sameEntries := repository.entries_load id expected backend
  have reliable := repository.reliable_load sound.reliable id expected
  rw [obtained] at left
  obtain rfl : after = _ := left
  exact ⟨sameEntries, reliable, sameEntries ▸ sound.coherent⟩

/-- One event more is queued under the number behind the events that have been read. -/
theorem uncommitted_of_obtained (undecorated : repository.decorators = [])
    (reliable : backend.Reliable)
    (obtained : repository.obtain id expected backend = (.ok guard, notes, after))
    (own : guard.identifier repository.configuration = some id ∨
      guard.identifier repository.configuration = none)
    (applied : guard.apply repository.configuration stamp payload metadata = (.ok (), next))
    (identified : next.identifier repository.configuration = some id) :
    ∃ events,
      repository.store.eventsRead backend.entries (repository.streamKey id) = .ok events ∧
        next.uncommitted = [DomainEvent.ofStamp stamp id (EventStore.nextNumber events) payload
          metadata] := by
  obtain ⟨events, isRead, rfl⟩ := exists_events_of_obtain undecorated reliable obtained
  refine ⟨events, isRead, ?_⟩
  obtain ⟨owner, handled, isNext, outcome⟩ := Guard.apply_cases applied
  have isOwner : owner = id := by
    rcases outcome with ⟨-, assigned⟩ | ⟨-, unassigned, -, -, created⟩
    · rcases own with same | unassigned
      · exact Option.some.inj (assigned.symm.trans same)
      · exact absurd (assigned.symm.trans unassigned) nofun
    · exact Option.some.inj (created.symm.trans identified)
  have number : (repository.newAggregate.replayEvents repository.configuration
      events).nextSequenceNumber = EventStore.nextNumber events :=
    Guard.nextSequenceNumber_replayEvents repository.configuration repository.fresh events
  have nothingQueued : (repository.newAggregate.replayEvents repository.configuration
      events).uncommitted = [] := Guard.uncommitted_replayEvents _ _ _
  rw [isNext, isOwner, number, nothingQueued]
  rfl

/-- Where the end of a history is hidden, the number of the event is taken. -/
theorem conflict_of_hidesEnd (undecorated : repository.decorators = []) (sound : backend.Sound)
    (gapFree : backend.entries.GapFree (repository.streamKey id))
    (hides : repository.store.HidesEnd backend.entries (repository.streamKey id))
    (obtained : repository.obtain id expected backend = (.ok guard, notes, after))
    (own : guard.identifier repository.configuration = some id ∨
      guard.identifier repository.configuration = none)
    (applied : guard.apply repository.configuration stamp payload metadata = (.ok (), next))
    (identified : next.identifier repository.configuration = some id)
    (writable : repository.store.codec.serializer.IsWritable payload) (snapshotStamp : Stamp)
    (bus : Bus) :
    ∃ number, repository.save snapshotStamp next after bus =
      (.error (.store (.concurrency (.position (repository.streamKey id) number))),
        next, after, bus) := by
  obtain ⟨events, isRead, queue⟩ := uncommitted_of_obtained undecorated sound.reliable obtained own
    applied identified
  obtain ⟨sameEntries, soundAfter⟩ := sound_obtain sound obtained
  have early := (EventStore.hidesEnd_iff sound.coherent gapFree isRead).mp hides
  obtain ⟨record, inHistory, isNumber⟩ := (gapFree (EventStore.nextNumber events)).mpr early
  obtain ⟨entry, encoded⟩ := exists_entry writable stamp id (EventStore.nextNumber events) metadata
  rw [← sameEntries] at inHistory
  exact ⟨_, save_of_taken undecorated soundAfter queue identified encoded inHistory isNumber
    snapshotStamp bus⟩

/-- An event that is applied to an aggregate as it is read, and saved before anybody else
writes, is stored behind the history, unless the end of the history is hidden. -/
theorem save_of_obtained (undecorated : repository.decorators = []) (sound : backend.Sound)
    (gapFree : backend.entries.GapFree (repository.streamKey id))
    (obtained : repository.obtain id expected backend = (.ok guard, notes, after))
    (own : guard.identifier repository.configuration = some id ∨
      guard.identifier repository.configuration = none)
    (applied : guard.apply repository.configuration stamp payload metadata = (.ok (), next))
    (identified : next.identifier repository.configuration = some id)
    (writable : repository.store.codec.serializer.IsWritable payload)
    (unused : stamp.id ∉ backend.entries.eventIds) (snapshotStamp : Stamp) (bus : Bus) :
    let key := repository.streamKey id
    let saved := repository.save snapshotStamp next after bus
    (repository.store.HidesEnd backend.entries key →
      ∃ number, saved = (.error (.store (.concurrency (.position key number))), next, after, bus)) ∧
    (¬repository.store.HidesEnd backend.entries key →
      (∀ conflict, saved.1 ≠ .error (.store (.concurrency conflict))) ∧
      ∃ number entry, (backend.entries.history key).length ≤ number ∧
        repository.store.codec.encode repository.typeIdentifier
          (.ofStamp stamp id number payload metadata) = .ok entry ∧
        saved.2.2.1.entries.history key = backend.entries.history key ++ [entry]) := by
  intro key saved
  refine ⟨fun hides => conflict_of_hidesEnd undecorated sound gapFree hides obtained own applied
    identified writable snapshotStamp bus, fun shows => ?_⟩
  obtain ⟨events, isRead, queue⟩ := uncommitted_of_obtained undecorated sound.reliable obtained own
    applied identified
  obtain ⟨sameEntries, soundAfter⟩ := sound_obtain sound obtained
  have behind : (backend.entries.history key).length ≤ EventStore.nextNumber events := by
    rwa [EventStore.hidesEnd_iff sound.coherent gapFree isRead, Nat.not_lt] at shows
  obtain ⟨entry, encoded⟩ := exists_entry writable stamp id (EventStore.nextNumber events) metadata
  have free : ∀ record ∈ after.entries.history key,
      record.sequenceNumber ≠ EventStore.nextNumber events := by
    intro record inHistory same
    rw [sameEntries] at inHistory
    have inside : record.sequenceNumber < (backend.entries.history key).length :=
      (gapFree record.sequenceNumber).mp ⟨record, inHistory, rfl⟩
    omega
  rw [← sameEntries] at unused
  obtain ⟨noConflict, extended⟩ := save_of_free undecorated soundAfter queue identified encoded free
    unused snapshotStamp bus
  refine ⟨noConflict, _, _, behind, encoded, ?_⟩
  rw [← sameEntries]
  exact extended

end Retrying

end Repository

namespace Meter

/-- The meter that is loaded when nothing but some events can be read. -/
def loadedFrom (events : List (DomainEvent MeterPayload)) : Guard MeterPayload Meter :=
  forgetfulRepository.newAggregate.replayEvents configuration events

/-- The meter after another measurement. -/
def measuredAgain (events : List (DomainEvent MeterPayload)) : Guard MeterPayload Meter :=
  ((loadedFrom events).apply configuration ⟨EventId.ofNat 9, default⟩ (.measured 2) .empty).2

end Meter

namespace Repository

/-- A measurement is forgotten, but the installation behind it is the end of the history. -/
theorem save_of_obtained_of_meter :
    let backend := Meter.stored [.installed ⟨"m"⟩ 2, .measured 1, .installed ⟨"m"⟩ 3]
    let events := Meter.history [.installed ⟨"m"⟩ 2, .measured 1, .installed ⟨"m"⟩ 3] |>.eraseIdx 1
    ∃ notes after, Meter.forgetfulRepository.obtain ⟨"m"⟩ .any backend =
        (.ok (Meter.loadedFrom events), notes, after) ∧
      ∀ conflict, (Meter.forgetfulRepository.save ⟨EventId.ofNat 10, default⟩
        (Meter.measuredAgain events) after ()).1 ≠ .error (.store (.concurrency conflict)) := by
  intro backend events
  let key := Meter.forgetfulRepository.streamKey ⟨"m"⟩
  have sound : backend.Sound := Meter.sound_stored _
  have gapFree : backend.entries.GapFree key := EntryStore.gapFree_of_numbered rfl
  have isRead : Meter.forgetfulRepository.store.eventsRead backend.entries key = .ok events := rfl
  obtain ⟨notes, after, obtained⟩ : ∃ notes after,
      Meter.forgetfulRepository.obtain ⟨"m"⟩ .any backend =
        (.ok (Meter.loadedFrom events), notes, after) :=
    exists_obtain_of_events rfl sound.reliable (List.cons_ne_nil _ _) isRead rfl
  have shows : ¬Meter.forgetfulRepository.store.HidesEnd backend.entries key := by
    rw [EventStore.hidesEnd_iff sound.coherent gapFree isRead]
    decide
  have applied : (Meter.loadedFrom events).apply Meter.forgetfulRepository.configuration
      ⟨EventId.ofNat 9, default⟩ (.measured 2) .empty = (.ok (), Meter.measuredAgain events) := rfl
  have saved := save_of_obtained rfl sound gapFree obtained (.inl rfl) applied rfl ⟨_, rfl⟩
    (by decide) ⟨EventId.ofNat 10, default⟩ ()
  exact ⟨notes, after, obtained, (saved.2 shows).1⟩

/-- A measurement is forgotten at the end of the history, so nothing can be stored behind
it by those who load the meter again. -/
theorem retry_conflicts :
    ∃ (backend : Backend) (guard next : Guard MeterPayload Meter) (notes : List Unit)
      (after : Backend) (stamp : Stamp) (payload : MeterPayload) (conflict : KeyConflict),
      backend.Sound ∧
        backend.entries.GapFree (Meter.forgetfulRepository.streamKey ⟨"m"⟩) ∧
        Meter.forgetfulRepository.obtain ⟨"m"⟩ .any backend = (.ok guard, notes, after) ∧
        guard.apply Meter.configuration stamp payload .empty = (.ok (), next) ∧
        next.identifier Meter.configuration = some ⟨"m"⟩ ∧
        Meter.serializer.IsWritable payload ∧ stamp.id ∉ backend.entries.eventIds ∧
        (Meter.forgetfulRepository.save stamp next after ()).1 =
          .error (.store (.concurrency conflict)) := by
  let backend := Meter.stored [.installed ⟨"m"⟩ 2, .measured 1]
  let key := Meter.forgetfulRepository.streamKey ⟨"m"⟩
  let events := Meter.history [.installed ⟨"m"⟩ 2]
  have sound : backend.Sound := Meter.sound_stored _
  have gapFree : backend.entries.GapFree key := EntryStore.gapFree_of_numbered rfl
  have isRead : Meter.forgetfulRepository.store.eventsRead backend.entries key = .ok events := rfl
  obtain ⟨notes, after, obtained⟩ : ∃ notes after,
      Meter.forgetfulRepository.obtain ⟨"m"⟩ .any backend =
        (.ok (Meter.loadedFrom events), notes, after) :=
    exists_obtain_of_events rfl sound.reliable (List.cons_ne_nil _ _) isRead rfl
  have hides : Meter.forgetfulRepository.store.HidesEnd backend.entries key := by
    rw [EventStore.hidesEnd_iff sound.coherent gapFree isRead]
    decide
  have applied : (Meter.loadedFrom events).apply Meter.forgetfulRepository.configuration
      ⟨EventId.ofNat 9, default⟩ (.measured 2) .empty = (.ok (), Meter.measuredAgain events) := rfl
  have writable : Meter.forgetfulRepository.store.codec.serializer.IsWritable (.measured 2) :=
    ⟨_, rfl⟩
  obtain ⟨number, refused⟩ := conflict_of_hidesEnd rfl sound gapFree hides obtained (.inl rfl)
    applied rfl writable ⟨EventId.ofNat 9, default⟩ ()
  exact ⟨backend, _, _, notes, after, _, _, _, sound, gapFree, obtained, applied, rfl, writable,
    by decide, congrArg Prod.fst refused⟩

end Repository

end EventSourcing
