import EventSourcing.Document.Serializer
import EventSourcing.Document.Upcaster
import EventSourcing.Event
import EventSourcing.Storage.Entry

/-!
# Events as entries

An event is stored as one entry.  Reading an entry back may give any number of
events, since upcasters may drop or multiply its document; all of them share
the identity, the place and the time of the entry.
-/

namespace EventSourcing

/-- How events are written as entries and read back. -/
structure EventCodec (Payload : Type) where
  serializer : Serializer Payload
  upcasters : UpcasterChain := []

namespace EventCodec

variable {Payload : Type} [DocumentFamily Payload]

def encode (codec : EventCodec Payload) (aggregateType : String) (event : DomainEvent Payload) :
    Except DocumentError Entry :=
  (codec.serializer.serialize event.payload).map fun payload =>
    { eventId := event.id
      aggregateType
      aggregateId := event.aggregateId
      sequenceNumber := event.sequenceNumber
      timestamp := event.timestamp
      payload
      metadata := Serializer.encodeMetadata event.metadata }

def eventOf (entry : Entry) (metadata : Metadata) (payload : Payload) : DomainEvent Payload :=
  { id := entry.eventId
    timestamp := entry.timestamp
    metadata
    payload
    aggregateId := entry.aggregateId
    sequenceNumber := entry.sequenceNumber }

def contextOf (entry : Entry) (metadata : Metadata) : UpcastContext :=
  { id := entry.eventId
    aggregateId := entry.aggregateId
    sequenceNumber := entry.sequenceNumber
    timestamp := entry.timestamp
    metadata }

/-- Reads the events of an entry: first its metadata, then its documents after
upcasting, in order. -/
def decode (codec : EventCodec Payload) (entry : Entry) :
    Except DocumentError (List (DomainEvent Payload)) := do
  let metadata ← Serializer.decodeMetadata entry.metadata
  let documents ← codec.upcasters.upcast (contextOf entry metadata) entry.payload
  documents.mapM fun document => do
    return eventOf entry metadata (← codec.serializer.deserialize document)

/-- The events of entries, one entry after another. -/
def decodeAll (codec : EventCodec Payload) (entries : List Entry) :
    Except DocumentError (List (DomainEvent Payload)) :=
  List.flatten <$> entries.mapM codec.decode

/-- The events of the entries in front of the first one that cannot be read,
and its error. -/
def decodeUntilFailure (codec : EventCodec Payload) :
    List Entry → List (DomainEvent Payload) × Except DocumentError Unit
  | [] => ([], .ok ())
  | entry :: rest =>
    match codec.decode entry with
    | .error error => ([], .error error)
    | .ok events =>
      let (others, result) := codec.decodeUntilFailure rest
      (events ++ others, result)

end EventCodec

end EventSourcing
