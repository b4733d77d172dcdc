import EventSourcing.Document.Basic
import EventSourcing.Identifier
import EventSourcing.Timestamp.Reader
import EventSourcing.TrackingToken

/-!
# Stored entries

An entry is the stored form of one event: its identity, its place in the
history of an aggregate, its time, its payload as a document and its metadata
as JSON.  Across histories entries are ordered by time, then by sequence number
and then by identity.
-/

namespace EventSourcing

/-- The history of one aggregate: its type and its identity. -/
structure StreamKey where
  aggregateType : String
  aggregateId : AggregateId
deriving DecidableEq, Inhabited

/-- The stored form of an event. -/
structure Entry where
  eventId : EventId
  aggregateType : String
  aggregateId : AggregateId
  sequenceNumber : Nat
  timestamp : Timestamp
  payload : Document
  metadata : Json
deriving DecidableEq, Inhabited

/-- The place of an entry in the order of time. -/
structure EntryPosition where
  timestamp : Timestamp
  sequenceNumber : Nat
  eventId : EventId
deriving DecidableEq, Inhabited

/-- An entry with its place in the order of storing. -/
structure TrackedEntry where
  token : TrackingToken
  entry : Entry
deriving DecidableEq, Inhabited

namespace EntryPosition

/-- The order of positions, as one comparison after another. -/
def order : EntryPosition → EntryPosition → Ordering :=
  compareLex (compareOn EntryPosition.timestamp)
    (compareLex (compareOn EntryPosition.sequenceNumber)
      (compareOn fun position => position.eventId.value.toNat))

instance : Std.TransCmp order := inferInstanceAs (Std.TransCmp (compareLex _ _))

/-- Positions are ordered by time, then by sequence number, then by identity. -/
instance : Ord EntryPosition := ⟨order⟩

instance : Std.TransOrd EntryPosition := inferInstanceAs (Std.TransCmp order)

/-- Whether the second position lies strictly behind the first. -/
def isBefore (first second : EntryPosition) : Bool := compare first second == .lt

theorem isBefore_trans {first second third : EntryPosition}
    (before : first.isBefore second = true) (after : second.isBefore third = true) :
    first.isBefore third = true := by
  simp only [isBefore, beq_iff_eq] at before after ⊢
  exact Std.TransCmp.lt_trans before after

@[simp] theorem isBefore_self (position : EntryPosition) : position.isBefore position = false := by
  simp [isBefore, Std.ReflCmp.compare_self]

end EntryPosition

namespace Entry

def streamKey (entry : Entry) : StreamKey := ⟨entry.aggregateType, entry.aggregateId⟩

/-- The place of an entry in the order of time. -/
def position (entry : Entry) : EntryPosition :=
  ⟨entry.timestamp, entry.sequenceNumber, entry.eventId⟩

def toJson (entry : Entry) : Json :=
  .ofMembers
    [("event_identifier", .string entry.eventId.text),
     ("aggregate_type", .string entry.aggregateType),
     ("aggregate_identifier", .string entry.aggregateId.text),
     ("sequence_number", .ofNat entry.sequenceNumber),
     ("timestamp", .string entry.timestamp.text),
     ("payload", entry.payload.toJson),
     ("meta_data", entry.metadata)]

end Entry

namespace Decoder

/-- An event identity, from any of its written forms. -/
def eventId : Decoder EventId := fun json => do
  let text ← string json
  match EventId.ofText? text with
  | some id => .ok id
  | none => .error (.rejected "malformed event identity")

/-- An aggregate identity, from any text. -/
def aggregateId : Decoder AggregateId := fun json => AggregateId.mk <$> string json

/-- A point in time, from its text. -/
def timestamp : Decoder Timestamp := fun json => do
  let text ← string json
  match Timestamp.ofText? text with
  | some time => .ok time
  | none => .error (.rejected "malformed timestamp")

end Decoder

def Entry.decode : Decoder Entry := fun json => do
  let found ← Decoder.record "struct EventEntry"
    [Decoder.required "event_identifier" Decoder.eventId,
     Decoder.required "aggregate_type" Decoder.string,
     Decoder.required "aggregate_identifier" Decoder.aggregateId,
     Decoder.required "sequence_number" Decoder.unsigned64,
     Decoder.required "timestamp" Decoder.timestamp,
     Decoder.required "payload" Document.decode,
     Decoder.required "meta_data" Decoder.any] json
  return { eventId := ← found.get "event_identifier" Decoder.eventId
           aggregateType := ← found.get "aggregate_type" Decoder.string
           aggregateId := ← found.get "aggregate_identifier" Decoder.aggregateId
           sequenceNumber := ← found.get "sequence_number" Decoder.unsigned64
           timestamp := ← found.get "timestamp" Decoder.timestamp
           payload := ← found.get "payload" Document.decode
           metadata := ← found.get "meta_data" Decoder.any }

end EventSourcing
