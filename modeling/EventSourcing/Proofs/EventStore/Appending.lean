import EventSourcing.Proofs.Document.MeterSerializer
import EventSourcing.Proofs.EventStore.RangeReading

/-!
# What is appended is what is read

In a run of an event store some calls store their events and others are refused
(`EventStore.appendAll`).  The log is then made of the entries of the accepted events
in the order of the calls (`EventStore.Stores`), and so a history reads as its accepted
events in ascending order, each of them as it was
(`EventStore.appendAll_readRange`).
-/

namespace EventSourcing

/-- An event with the aggregate type under which it is stored. -/
structure TypedEvent (Payload : Type) where
  aggregateType : String
  event : DomainEvent Payload

/-- Events that are handed to an event store together. -/
structure AppendCall (Payload : Type) where
  aggregateType : String
  events : List (DomainEvent Payload)

/-- Whether a payload can be written. -/
def Serializer.IsWritable {Payload : Type} [DocumentFamily Payload]
    (serializer : Serializer Payload) (payload : Payload) : Prop :=
  ∃ document, serializer.serialize payload = .ok document

namespace TypedEvent

variable {Payload : Type}

def streamKey (typed : TypedEvent Payload) : StreamKey :=
  ⟨typed.aggregateType, typed.event.aggregateId⟩

/-- Events that cannot both be stored: they have the same place in a history, or the
same identity. -/
def Clashes (first second : TypedEvent Payload) : Prop :=
  (first.streamKey = second.streamKey ∧
      first.event.sequenceNumber = second.event.sequenceNumber) ∨
    first.event.id = second.event.id

variable [DocumentFamily Payload]

/-- The entry of an event, if its payload can be written. -/
def entry (serializer : Serializer Payload) (typed : TypedEvent Payload) : Entry where
  eventId := typed.event.id
  aggregateType := typed.aggregateType
  aggregateId := typed.event.aggregateId
  sequenceNumber := typed.event.sequenceNumber
  timestamp := typed.event.timestamp
  payload :=
    match serializer.serialize typed.event.payload with
    | .ok document => document
    | .error _ => default
  metadata := Serializer.encodeMetadata typed.event.metadata

theorem encode_eq_entry {codec : EventCodec Payload} {typed : TypedEvent Payload}
    (writable : codec.serializer.IsWritable typed.event.payload) :
    codec.encode typed.aggregateType typed.event = .ok (typed.entry codec.serializer) := by
  obtain ⟨document, written⟩ := writable
  simp only [EventCodec.encode, entry, written, Except.map]

end TypedEvent

/-- The events of a call with their aggregate type. -/
def AppendCall.typed {Payload : Type} (call : AppendCall Payload) : List (TypedEvent Payload) :=
  call.events.map (TypedEvent.mk call.aggregateType)

namespace EventStore

variable {Payload Note : Type} [DocumentFamily Payload]

/-- Hands events to an event store, call after call.  Gives the events of the calls that
were accepted, and the backend at the end. -/
def appendAll (store : EventStore Payload) :
    List (AppendCall Payload) → Backend → List (TypedEvent Payload) × Backend
  | [], backend => ([], backend)
  | call :: rest, backend =>
    match store.append call.aggregateType call.events backend with
    | (.ok (), backend) =>
      let (accepted, backend) := store.appendAll rest backend
      (call.typed ++ accepted, backend)
    | (.error _, backend) => store.appendAll rest backend

theorem appendAll_append (store : EventStore Payload) (calls later : List (AppendCall Payload))
    (backend : Backend) :
    store.appendAll (calls ++ later) backend =
      ((store.appendAll calls backend).1 ++
          (store.appendAll later (store.appendAll calls backend).2).1,
        (store.appendAll later (store.appendAll calls backend).2).2) := by
  induction calls generalizing backend with
  | nil => rfl
  | cons call rest ih =>
    rw [List.cons_append, appendAll, appendAll]
    rcases store.append call.aggregateType call.events backend with ⟨_ | _, next⟩
    · exact ih next
    · simp only [ih, List.append_assoc]

variable {store : EventStore Payload} {backend : Backend} {accepted : List (TypedEvent Payload)}
  {call : AppendCall Payload}

/-! ## One call -/

/-- The log holds the accepted events in the order of their calls. -/
structure Stores (store : EventStore Payload) (accepted : List (TypedEvent Payload))
    (backend : Backend) : Prop where
  sound : backend.Sound
  log : backend.entries.log.toList =
    accepted.map (TypedEvent.entry store.codec.serializer)
  writable : ∀ typed ∈ accepted, store.codec.serializer.IsWritable typed.event.payload

/-- Whether a call can be accepted behind others: its payloads can be written, and none of
its events clashes with an accepted one or with an earlier one of the call. -/
def Admits (store : EventStore Payload) (accepted : List (TypedEvent Payload))
    (call : AppendCall Payload) : Prop :=
  (∀ event ∈ call.events, store.codec.serializer.IsWritable event.payload) ∧
    ∀ front typed back, call.typed = front ++ typed :: back →
      ∀ other ∈ accepted ++ front, ¬other.Clashes typed

theorem stores_empty (store : EventStore Payload) : store.Stores [] .empty where
  sound := Backend.sound_empty
  log := rfl
  writable typed isAccepted := by simp at isAccepted

theorem Stores.fits_iff (stores : store.Stores accepted backend)
    {typed : List (TypedEvent Payload)} :
    backend.entries.Fits (typed.map (TypedEvent.entry store.codec.serializer)) ↔
      ∀ front next back, typed = front ++ next :: back →
        ∀ other ∈ accepted ++ front, ¬other.Clashes next := by
  unfold EntryStore.Fits
  rw [stores.log]
  constructor
  · intro fits front next back split other earlier
    refine fits (front.map (TypedEvent.entry store.codec.serializer))
      (next.entry store.codec.serializer) (back.map (TypedEvent.entry store.codec.serializer)) ?_
      (other.entry store.codec.serializer) ?_
    · rw [split, List.map_append, List.map_cons]
    · rw [← List.map_append]
      exact List.mem_map_of_mem earlier
  · intro apart front entry back split other earlier
    obtain ⟨frontTyped, behind, rfl, rfl, behindSplit⟩ := List.map_eq_append_iff.mp split
    obtain ⟨next, backTyped, rfl, rfl, rfl⟩ := List.map_eq_cons_iff.mp behindSplit
    rw [← List.map_append] at earlier
    obtain ⟨otherTyped, isEarlier, rfl⟩ := List.mem_map.mp earlier
    exact apart frontTyped next backTyped rfl otherTyped isEarlier

theorem mapM_encode (call : AppendCall Payload)
    (writable : ∀ event ∈ call.events, store.codec.serializer.IsWritable event.payload) :
    call.events.mapM (store.codec.encode call.aggregateType) =
      .ok (call.typed.map (TypedEvent.entry store.codec.serializer)) := by
  apply mapM_eq_ok_of_forall₂
  rw [AppendCall.typed, List.map_map, List.forall₂_map_right_iff, List.forall₂_same]
  intro event member
  let typed : TypedEvent Payload := ⟨call.aggregateType, event⟩
  have typedWritable : store.codec.serializer.IsWritable typed.event.payload :=
    writable event member
  exact TypedEvent.encode_eq_entry typedWritable

theorem Stores.append_of_admits (stores : store.Stores accepted backend)
    (admits : store.Admits accepted call) :
    ∃ next, store.append call.aggregateType call.events backend = (.ok (), next) ∧
      store.Stores (accepted ++ call.typed) next := by
  have fits := stores.fits_iff.mpr admits.2
  have stored := stores.sound.persist_of_fits fits
  have nextSound := stores.sound.persist
    (call.typed.map (TypedEvent.entry store.codec.serializer))
  rw [stored] at nextSound
  refine ⟨_, ?_, nextSound, ?_, ?_⟩
  · unfold append
    by_cases noEvents : call.events.isEmpty = true
    · have nothing : call.typed = [] := by
        rw [AppendCall.typed, List.isEmpty_iff.mp noEvents, List.map_nil]
      rw [if_pos noEvents, nothing]
      rfl
    · rw [if_neg noEvents, mapM_encode call admits.1]
      simp only [stored]
  · rw [EntryStore.toList_log_pushAll, stores.log, List.map_append]
  · intro typed member
    rcases List.mem_append.mp member with earlier | isNew
    · exact stores.writable typed earlier
    · obtain ⟨event, isEvent, rfl⟩ := List.mem_map.mp isNew
      exact admits.1 event isEvent

theorem Stores.append_of_not_admits (stores : store.Stores accepted backend)
    (refused : ¬store.Admits accepted call) :
    ∃ error, store.append call.aggregateType call.events backend = (.error error, backend) := by
  have anyEvents : call.events.isEmpty ≠ true := by
    intro noEvents
    apply refused
    constructor
    · simp [List.isEmpty_iff.mp noEvents]
    · intro front typed back split
      simp [AppendCall.typed, List.isEmpty_iff.mp noEvents] at split
  rw [append, if_neg anyEvents]
  by_cases writable : ∀ event ∈ call.events, store.codec.serializer.IsWritable event.payload
  · have clashes : ¬backend.entries.Fits
        (call.typed.map (TypedEvent.entry store.codec.serializer)) :=
      fun fits => refused ⟨writable, stores.fits_iff.mp fits⟩
    obtain ⟨conflict, persisted⟩ := stores.sound.persist_of_not_fits clashes
    rw [mapM_encode call writable]
    simp only [persisted]
    exact ⟨_, rfl⟩
  · cases encoded : call.events.mapM (store.codec.encode call.aggregateType) with
    | error error => exact ⟨_, rfl⟩
    | ok entries =>
      exfalso
      apply writable
      intro event isEvent
      obtain ⟨entry, written⟩ := exists_ok_of_mapM_eq_ok encoded isEvent
      obtain ⟨document, serialized, -⟩ := EventCodec.encode_eq_ok_iff.mp written
      exact ⟨document, serialized⟩

theorem Stores.appendAll (stores : store.Stores accepted backend)
    (calls : List (AppendCall Payload)) :
    store.Stores (accepted ++ (store.appendAll calls backend).1)
      (store.appendAll calls backend).2 := by
  induction calls generalizing accepted backend with
  | nil =>
    rw [EventStore.appendAll, List.append_nil]
    exact stores
  | cons call rest ih =>
    rw [EventStore.appendAll]
    by_cases admits : store.Admits accepted call
    · obtain ⟨next, stored, nextStores⟩ := stores.append_of_admits admits
      simp only [stored, ← List.append_assoc]
      exact ih nextStores
    · obtain ⟨error, refused⟩ := stores.append_of_not_admits admits
      simp only [refused]
      exact ih stores

theorem stores_appendAll (store : EventStore Payload) (calls : List (AppendCall Payload)) :
    store.Stores (store.appendAll calls .empty).1 (store.appendAll calls .empty).2 :=
  (stores_empty store).appendAll calls

/-! ## Reading back -/

section Reading

variable {registered : List (PayloadType × DocumentType)}

theorem decodeAll_entries (direct : store.codec.upcasters = [])
    (registers : Serializer.Registers registered store.codec.serializer)
    (unambiguous : Unambiguous registered) {events : List (TypedEvent Payload)}
    (writable : ∀ typed ∈ events, store.codec.serializer.IsWritable typed.event.payload)
    (regained : ∀ typed ∈ events, store.codec.serializer.Regains typed.event.payload) :
    store.codec.decodeAll (events.map (TypedEvent.entry store.codec.serializer)) =
      .ok (events.map TypedEvent.event) := by
  have read : List.Forall₂ (fun entry decoded => store.codec.decode entry = .ok decoded)
      (events.map (TypedEvent.entry store.codec.serializer))
      (events.map fun typed => [typed.event]) := by
    rw [List.forall₂_map_left_iff, List.forall₂_map_right_iff, List.forall₂_same]
    intro typed member
    refine EventCodec.decode_of_encode direct
      (TypedEvent.encode_eq_entry (writable typed member)) ?_
    intro document written
    exact registers.deserialize_of_serialize unambiguous (regained typed member) written
  rw [EventCodec.decodeAll_eq_ok read, ← List.flatMap_def, ← List.map_eq_flatMap]

/-- The accepted events of a history in ascending order. -/
def inOrder (accepted : List (TypedEvent Payload)) (key : StreamKey) :
    List (TypedEvent Payload) :=
  (accepted.filter fun typed => typed.streamKey = key).mergeSort fun first second =>
    first.event.sequenceNumber ≤ second.event.sequenceNumber

theorem Stores.history_eq (stores : store.Stores accepted backend) (key : StreamKey) :
    backend.entries.history key =
      (accepted.filter fun typed => typed.streamKey = key).map
        (TypedEvent.entry store.codec.serializer) := by
  rw [EntryStore.history, stores.log, List.filter_map]
  rfl

theorem Stores.recordsBetween_eq (stores : store.Stores accepted backend) (key : StreamKey) :
    backend.entries.recordsBetween key 0 none =
      (inOrder accepted key).map (TypedEvent.entry store.codec.serializer) := by
  rw [EntryStore.recordsBetween_zero_none, stores.history_eq, inOrder]
  symm
  apply List.map_mergeSort
  intro first _ second _
  rfl

theorem Stores.inOrder_ascending (stores : store.Stores accepted backend) (key : StreamKey) :
    (inOrder accepted key).Pairwise fun first second =>
      first.event.sequenceNumber < second.event.sequenceNumber := by
  have ascending := (backend.entries.entriesFrom_ascending key 0)
  rw [entriesFrom_eq_recordsBetween stores.sound.coherent, stores.recordsBetween_eq,
    List.pairwise_map] at ascending
  exact ascending

/-- A run of calls on an empty store: a history reads as its accepted events in ascending
order, each of them as it was, as long as none of them carries an unreadable document of
a type that is registered.  A further call is accepted exactly if all its payloads can be
written and none of its events clashes with an accepted one or with an earlier one of
the call; a call that is refused changes nothing, now or later. -/
theorem appendAll_readRange (Note : Type) {store : EventStore Payload}
    (direct : store.codec.upcasters = [])
    (registers : Serializer.Registers registered store.codec.serializer)
    (unambiguous : Unambiguous registered) (calls : List (AppendCall Payload)) :
    let accepted := (store.appendAll calls .empty).1
    let backend := (store.appendAll calls .empty).2
    (∀ key,
      (∀ typed ∈ accepted, typed.streamKey = key →
        store.codec.serializer.Regains typed.event.payload) →
      let events := (accepted.filter fun typed => typed.streamKey = key).map TypedEvent.event
      let answer : Except EventStoreError (EventStream (ReadMark Note) Payload) :=
        (store.readRange key 0 none backend).1
      (events = [] → answer = .error (.streamNotFound key)) ∧
      (events ≠ [] → ∃ stream collected, answer = .ok stream ∧
        stream.collect.2 = .ok collected ∧ collected.Perm events ∧
        collected.Pairwise fun first second => first.sequenceNumber < second.sequenceNumber)) ∧
    (∀ call : AppendCall Payload,
      let answer := store.append call.aggregateType call.events backend
      (answer.1 = .ok () ↔
        (∀ event ∈ call.events, store.codec.serializer.IsWritable event.payload) ∧
        ∀ front typed back, call.typed = front ++ typed :: back →
          ∀ other ∈ accepted ++ front, ¬other.Clashes typed) ∧
      (answer.1 ≠ .ok () → answer.2 = backend ∧
        ∀ later, store.appendAll (calls ++ call :: later) .empty =
          store.appendAll (calls ++ later) .empty)) := by
  intro accepted backend
  have stores : store.Stores accepted backend := stores_appendAll store calls
  constructor
  · intro key regained events answer
    have isHistory : backend.entries.history key = [] ↔ events = [] := by
      rw [stores.history_eq, List.map_eq_nil_iff, List.map_eq_nil_iff]
    have isOwn (typed : TypedEvent Payload) (member : typed ∈ inOrder accepted key) :
        typed ∈ accepted ∧ typed.streamKey = key := by
      simpa [inOrder] using member
    rcases readRange_of_sound Note stores.sound store key 0 none with
      ⟨isEmpty, notFound⟩ | ⟨notEmpty, stream, isFound, delivers⟩
    · exact ⟨fun _ => notFound, fun anyEvents => absurd (isHistory.mp isEmpty) anyEvents⟩
    · refine ⟨fun noEvents => absurd (isHistory.mpr noEvents) notEmpty, fun _ => ?_⟩
      have collected := delivers.collect
      rw [stores.recordsBetween_eq, decodeAll_entries direct registers unambiguous
        (fun typed member => stores.writable typed (isOwn typed member).1)
        (fun typed member => regained typed (isOwn typed member).1 (isOwn typed member).2)]
        at collected
      refine ⟨stream, (inOrder accepted key).map TypedEvent.event, isFound, collected, ?_, ?_⟩
      · exact (List.mergeSort_perm _ _).map TypedEvent.event
      · rw [List.pairwise_map]
        exact stores.inOrder_ascending key
  · intro call answer
    by_cases admits : store.Admits accepted call
    · obtain ⟨next, stored, -⟩ := stores.append_of_admits admits
      have isStored : answer = (.ok (), next) := stored
      rw [isStored]
      exact ⟨⟨fun _ => admits, fun _ => rfl⟩, fun refused => absurd rfl refused⟩
    · obtain ⟨error, refused⟩ := stores.append_of_not_admits admits
      have isRefused : answer = (.error error, backend) := refused
      rw [isRefused]
      refine ⟨⟨nofun, fun admitted => absurd admitted admits⟩, fun _ => ⟨rfl, fun later => ?_⟩⟩
      have skipped : store.appendAll (call :: later) backend = store.appendAll later backend := by
        rw [EventStore.appendAll, refused]
      rw [appendAll_append, appendAll_append]
      simp only [skipped, backend] at skipped ⊢

/-- Three calls: the second one is refused as a whole, for its second event has the place
of the first event of all.  The last one stores a document of an unknown type. -/
theorem appendAll_readRange_of_meter :
    ∃ (first second third : DomainEvent MeterPayload) (key : StreamKey)
      (stream : EventStream (ReadMark Unit) MeterPayload)
      (collected : List (DomainEvent MeterPayload)),
      ((ofSerializer Meter.serializer).readRange key 0 none
          ((ofSerializer Meter.serializer).appendAll
            [⟨"Meter", [first]⟩, ⟨"Meter", [third, first]⟩, ⟨"Meter", [second]⟩] .empty).2).1 =
        .ok stream ∧
      stream.collect.2 = .ok collected ∧ collected.Perm [first, second] := by
  let store : EventStore MeterPayload := ofSerializer Meter.serializer
  let id : AggregateId := ⟨"cellar"⟩
  let key : StreamKey := ⟨"Meter", id⟩
  let first : DomainEvent MeterPayload :=
    .ofStamp ⟨EventId.ofNat 1, default⟩ id 0 (.installed id 2) .empty
  let second : DomainEvent MeterPayload :=
    .ofStamp ⟨EventId.ofNat 2, default⟩ id 1 (.unreadable ⟨⟨"sealed", none⟩, .null⟩) .empty
  let third : DomainEvent MeterPayload :=
    .ofStamp ⟨EventId.ofNat 3, default⟩ id 2 (.measured 3) .empty
  let calls : List (AppendCall MeterPayload) :=
    [⟨"Meter", [first]⟩, ⟨"Meter", [third, first]⟩, ⟨"Meter", [second]⟩]
  have accepted : (store.appendAll calls .empty).1 = [⟨"Meter", first⟩, ⟨"Meter", second⟩] := rfl
  have read := (@appendAll_readRange MeterPayload _ _ Unit store rfl Meter.serializer_registers
    Meter.registered_unambiguous calls).1 key
  rw [accepted] at read
  have regained : ∀ typed ∈ [(⟨"Meter", first⟩ : TypedEvent MeterPayload), ⟨"Meter", second⟩],
      typed.streamKey = key → store.codec.serializer.Regains typed.event.payload := by
    intro typed member _
    simp only [List.mem_cons, List.not_mem_nil, or_false] at member
    rcases member with rfl | rfl
    · exact nofun
    · rintro document ⟨⟩
      rfl
  obtain ⟨stream, collected, found, all, same, -⟩ := (read regained).2 (by decide)
  exact ⟨first, second, third, key, stream, collected, found, all, same⟩

end Reading

end EventStore

end EventSourcing
