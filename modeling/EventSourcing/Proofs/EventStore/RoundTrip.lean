import EventSourcing.EventStore.EventCodec
import Mathlib.Data.List.Forall2

/-!
# Entries read back as events

Metadata always read back as they were written.  Where a payload reads back, too,
and no upcaster interferes, an event is read back from its entry unchanged
(`EventCodec.decode_of_encode`).
-/

namespace EventSourcing

namespace OrderedMap

variable {Key Value : Type} [Ord Key]

theorem insertEntry_of_forall_lt [Std.OrientedOrd Key] {key : Key} {value : Value}
    {entries : List (Key × Value)} (greater : ∀ entry ∈ entries, compare entry.1 key = .lt) :
    insertEntry key value entries = entries ++ [(key, value)] := by
  induction entries with
  | nil => rfl
  | cons entry rest ih =>
    have behind : compare key entry.1 = .gt :=
      Std.OrientedCmp.gt_of_lt (greater entry List.mem_cons_self)
    have restBehind := ih fun other member => greater other (List.mem_cons_of_mem _ member)
    simp only [insertEntry, behind, restBehind, List.cons_append]

variable [Std.TransOrd Key] [Std.LawfulEqOrd Key]

/-- Entries in order that lie behind all others are put in as they come. -/
theorem toList_insertMany_of_sorted {map : OrderedMap Key Value} {entries : List (Key × Value)}
    (sorted : (map.toList ++ entries).Pairwise fun first second =>
      compare first.1 second.1 = .lt) :
    (map.insertMany entries).toList = map.toList ++ entries := by
  induction entries generalizing map with
  | nil => simp [insertMany]
  | cons entry rest ih =>
    have before : ∀ other ∈ map.toList, compare other.1 entry.1 = .lt := fun other member =>
      (List.pairwise_append.mp sorted).2.2 other member entry List.mem_cons_self
    have inserted : (map.insert entry.1 entry.2).toList = map.toList ++ [entry] :=
      insertEntry_of_forall_lt before
    have restSorted := sorted
    rw [← List.singleton_append, ← List.append_assoc, ← inserted] at restSorted
    change ((map.insert entry.1 entry.2).insertMany rest).toList = _
    rw [ih restSorted, inserted, List.append_assoc, List.singleton_append]

theorem ofList_toList (map : OrderedMap Key Value) : ofList map.toList = map := by
  have sorted : ((empty : OrderedMap Key Value).toList ++ map.toList).Pairwise
      fun first second => compare first.1 second.1 = .lt := map.sorted
  have same : (ofList map.toList).toList = map.toList := toList_insertMany_of_sorted sorted
  generalize ofList map.toList = built at same
  obtain ⟨entries, sorted⟩ := map
  obtain ⟨listed, listedSorted⟩ := built
  obtain rfl : listed = entries := same
  rfl

end OrderedMap

namespace Serializer

theorem decodeMetadata_encodeMetadata (metadata : Metadata) :
    decodeMetadata (encodeMetadata metadata) = .ok metadata := by
  obtain ⟨entries⟩ := metadata
  have members : entries.toList.mapM (fun member => (member.1, ·) <$> Decoder.any member.2) =
      Except.ok entries.toList := by
    generalize entries.toList = listed
    induction listed with
    | nil => rfl
    | cons member rest ih =>
      rw [List.mapM_cons, ih]
      rfl
  have read : Metadata.decode (.object entries.toList) = .ok ⟨entries⟩ := by
    simp only [Metadata.decode, Decoder.entries, members]
    exact congrArg (fun map => Except.ok (Metadata.mk map)) (OrderedMap.ofList_toList entries)
  simp only [encodeMetadata, Metadata.toJson, decodeMetadata, read]

variable {Payload : Type} [DocumentFamily Payload]

/-- Whether a payload can be written and is read back unchanged. -/
def RoundTrips (serializer : Serializer Payload) (payload : Payload) : Prop :=
  ∃ document, serializer.serialize payload = .ok document ∧
    serializer.deserialize document = .ok payload

theorem RoundTrips.readBack {serializer : Serializer Payload} {payload : Payload}
    (roundTrips : serializer.RoundTrips payload) {document : Document}
    (written : serializer.serialize payload = .ok document) :
    serializer.deserialize document = .ok payload := by
  obtain ⟨other, serialized, readBack⟩ := roundTrips
  obtain rfl := Except.ok.inj (serialized.symm.trans written)
  exact readBack

end Serializer

theorem mapM_eq_ok_of_forall₂ {Item Answer Failure : Type} {act : Item → Except Failure Answer}
    {items : List Item} {answers : List Answer}
    (each : List.Forall₂ (fun item answer => act item = .ok answer) items answers) :
    items.mapM act = .ok answers := by
  induction each with
  | nil => rfl
  | cons first rest ih =>
    rw [List.mapM_cons, first, ih]
    rfl

theorem forall₂_of_mapM_eq_ok {Item Answer Failure : Type} {act : Item → Except Failure Answer}
    {items : List Item} {answers : List Answer} (succeeds : items.mapM act = .ok answers) :
    List.Forall₂ (fun item answer => act item = .ok answer) items answers := by
  induction items generalizing answers with
  | nil =>
    obtain rfl := Except.ok.inj succeeds
    exact .nil
  | cons first rest ih =>
    rw [List.mapM_cons] at succeeds
    cases firstDone : act first with
    | error error => simp [firstDone, bind, Except.bind] at succeeds
    | ok answer =>
      cases restDone : rest.mapM act with
      | error error => simp [firstDone, restDone, bind, Except.bind] at succeeds
      | ok others =>
        rw [firstDone, restDone] at succeeds
        obtain rfl := Except.ok.inj succeeds
        exact .cons firstDone (ih restDone)

theorem exists_ok_of_mapM_eq_ok {Item Answer Failure : Type} {act : Item → Except Failure Answer}
    {items : List Item} {answers : List Answer} (succeeds : items.mapM act = .ok answers)
    {item : Item} (member : item ∈ items) : ∃ answer, act item = .ok answer := by
  obtain ⟨place, inside, rfl⟩ := List.mem_iff_getElem.mp member
  have each := forall₂_of_mapM_eq_ok succeeds
  exact ⟨_, each.get inside (each.length_eq ▸ inside)⟩

theorem exists_item_of_mapM_eq_ok {Item Answer Failure : Type}
    {act : Item → Except Failure Answer} {items : List Item} {answers : List Answer}
    (succeeds : items.mapM act = .ok answers) {answer : Answer} (member : answer ∈ answers) :
    ∃ item ∈ items, act item = .ok answer := by
  obtain ⟨place, inside, rfl⟩ := List.mem_iff_getElem.mp member
  have each := forall₂_of_mapM_eq_ok succeeds
  have placed : place < items.length := each.length_eq ▸ inside
  exact ⟨items[place], List.getElem_mem placed, each.get placed inside⟩

/-- The failure of a list is that of the first item that fails. -/
theorem mapM_eq_error_iff {Item Answer Failure : Type} {act : Item → Except Failure Answer}
    {items : List Item} {failure : Failure} :
    items.mapM act = .error failure ↔
      ∃ front item back, items = front ++ item :: back ∧
        (∀ earlier ∈ front, ∃ answer, act earlier = .ok answer) ∧ act item = .error failure := by
  constructor
  · intro failed
    induction items with
    | nil => simp [pure, Except.pure] at failed
    | cons item rest ih =>
      rw [List.mapM_cons] at failed
      cases first : act item with
      | error error =>
        rw [first] at failed
        obtain rfl := Except.error.inj failed
        exact ⟨[], item, rest, rfl, by simp, first⟩
      | ok answer =>
        have restFailed : rest.mapM act = .error failure := by
          cases others : rest.mapM act with
          | error error => simpa [first, others, bind, Except.bind] using failed
          | ok answers => simp [first, others, bind, Except.bind, pure, Except.pure] at failed
        obtain ⟨front, failing, back, rfl, passed, fails⟩ := ih restFailed
        refine ⟨item :: front, failing, back, rfl, ?_, fails⟩
        intro earlier inFront
        rcases List.mem_cons.mp inFront with rfl | later
        · exact ⟨answer, first⟩
        · exact passed earlier later
  · rintro ⟨front, item, back, rfl, passed, fails⟩
    induction front with
    | nil =>
      rw [List.nil_append, List.mapM_cons, fails]
      rfl
    | cons earlier front ih =>
      obtain ⟨answer, passes⟩ := passed earlier List.mem_cons_self
      have restFails := ih fun other isLater => passed other (List.mem_cons_of_mem _ isLater)
      rw [List.cons_append, List.mapM_cons, passes, restFails]
      rfl

namespace EventCodec

variable {Payload : Type} [DocumentFamily Payload] {codec : EventCodec Payload}
  {aggregateType : String} {event : DomainEvent Payload} {entry : Entry}

theorem exists_encode_eq_ok
    (writable : ∃ document, codec.serializer.serialize event.payload = .ok document)
    (aggregateType : String) : ∃ entry, codec.encode aggregateType event = .ok entry := by
  obtain ⟨document, written⟩ := writable
  exact ⟨_, by rw [encode, written]; rfl⟩

theorem encode_eq_ok_iff : codec.encode aggregateType event = .ok entry ↔
    ∃ document, codec.serializer.serialize event.payload = .ok document ∧
      entry =
        { eventId := event.id
          aggregateType
          aggregateId := event.aggregateId
          sequenceNumber := event.sequenceNumber
          timestamp := event.timestamp
          payload := document
          metadata := Serializer.encodeMetadata event.metadata } := by
  unfold encode
  cases codec.serializer.serialize event.payload with
  | error error => simp [Except.map]
  | ok document => simp [Except.map, eq_comm]

/-- An entry reads back as the event it was written for. -/
theorem decode_of_encode (direct : codec.upcasters = [])
    (written : codec.encode aggregateType event = .ok entry)
    (readBack : ∀ document, codec.serializer.serialize event.payload = .ok document →
      codec.serializer.deserialize document = .ok event.payload) :
    codec.decode entry = .ok [event] := by
  obtain ⟨document, serialized, rfl⟩ := encode_eq_ok_iff.mp written
  simp only [decode, Serializer.decodeMetadata_encodeMetadata, direct, UpcasterChain.upcast,
    bind, Except.bind, List.mapM_cons, List.mapM_nil, readBack document serialized]
  rfl

theorem decodeAll_of_forall₂ (direct : codec.upcasters = []) {events : List (DomainEvent Payload)}
    {entries : List Entry}
    (written : List.Forall₂ (fun event entry => codec.encode aggregateType event = .ok entry)
      events entries)
    (readBack : ∀ event ∈ events, ∀ document,
      codec.serializer.serialize event.payload = .ok document →
        codec.serializer.deserialize document = .ok event.payload) :
    codec.decodeAll entries = .ok events := by
  induction written with
  | nil => rfl
  | @cons event entry restEvents restEntries encoded rest ih =>
    have first := decode_of_encode direct encoded (readBack event List.mem_cons_self)
    have others := ih fun other member => readBack other (List.mem_cons_of_mem _ member)
    unfold decodeAll at others ⊢
    rw [List.mapM_cons, first]
    cases read : restEntries.mapM codec.decode with
    | error error => simp [read, Functor.map, Except.map] at others
    | ok found =>
      rw [read] at others
      have flat : found.flatten = restEvents := Except.ok.inj others
      simp [bind, Except.bind, pure, Except.pure, Functor.map, Except.map, flat]

/-- The events of an entry; none if it cannot be read. -/
def eventsOf (codec : EventCodec Payload) (entry : Entry) : List (DomainEvent Payload) :=
  (codec.decode entry).toOption.getD []

theorem eventsOf_of_decode {events : List (DomainEvent Payload)}
    (decoded : codec.decode entry = .ok events) : codec.eventsOf entry = events := by
  rw [eventsOf, decoded]
  rfl

/-- Entries can be read if each of them can, and give the events of one after another. -/
theorem decodeAll_eq_ok_iff {entries : List Entry} {events : List (DomainEvent Payload)} :
    codec.decodeAll entries = .ok events ↔
      (∀ entry ∈ entries, ∃ found, codec.decode entry = .ok found) ∧
        entries.flatMap codec.eventsOf = events := by
  have readAll (each : ∀ entry ∈ entries, ∃ found, codec.decode entry = .ok found) :
      codec.decodeAll entries = .ok (entries.flatMap codec.eventsOf) := by
    have pairs : List.Forall₂ (fun entry found => codec.decode entry = .ok found) entries
        (entries.map codec.eventsOf) := by
      rw [List.forall₂_map_right_iff, List.forall₂_same]
      intro entry listed
      obtain ⟨found, decoded⟩ := each entry listed
      rw [eventsOf_of_decode decoded, decoded]
    rw [decodeAll, mapM_eq_ok_of_forall₂ pairs, List.flatMap_def]
    rfl
  constructor
  · intro decoded
    have each : ∀ entry ∈ entries, ∃ found, codec.decode entry = .ok found := by
      intro entry listed
      cases read : entries.mapM codec.decode with
      | error error => simp [decodeAll, read, Functor.map, Except.map] at decoded
      | ok found => exact exists_ok_of_mapM_eq_ok read listed
    exact ⟨each, Except.ok.inj ((readAll each).symm.trans decoded)⟩
  · rintro ⟨each, rfl⟩
    exact readAll each

/-- Events are read under the number of their entry. -/
theorem sequenceNumber_of_mem_eventsOf (isEvent : event ∈ codec.eventsOf entry) :
    event.sequenceNumber = entry.sequenceNumber := by
  cases decoded : codec.decode entry with
  | error error => simp [eventsOf, decoded, Except.toOption] at isEvent
  | ok events =>
    rw [eventsOf_of_decode decoded] at isEvent
    unfold decode at decoded
    cases read : Serializer.decodeMetadata entry.metadata with
    | error error => simp [read, bind, Except.bind] at decoded
    | ok metadata =>
      cases rewritten : codec.upcasters.upcast (contextOf entry metadata) entry.payload with
      | error error => simp [read, rewritten, bind, Except.bind] at decoded
      | ok documents =>
        rw [read] at decoded
        simp only [rewritten, bind, Except.bind] at decoded
        obtain ⟨document, -, eventRead⟩ := exists_item_of_mapM_eq_ok decoded isEvent
        cases deserialized : codec.serializer.deserialize document with
        | error error => simp [deserialized] at eventRead
        | ok payload =>
          simp only [deserialized] at eventRead
          obtain rfl := Except.ok.inj eventRead
          rfl

theorem sequenceNumber_of_decode (decoded : codec.decode entry = .ok [event]) :
    event.sequenceNumber = entry.sequenceNumber := by
  have isEvent : event ∈ codec.eventsOf entry := by
    rw [eventsOf_of_decode decoded]
    exact List.mem_singleton_self event
  exact sequenceNumber_of_mem_eventsOf isEvent

end EventCodec

end EventSourcing
