import EventSourcing.EventStore.Basic
import EventSourcing.Interchange.Failure
import EventSourcing.Storage.Entry

/-!
# Events and entries as clients see them

A payload is seen with the label of its type.  Events are seen with all that
they carry, entries with the document that they store; times are microseconds
from the start of 1970.  A client can also describe an event: what it leaves
out is empty, and a new message gets its identity and its time from a stamp.
-/

namespace EventSourcing

/-- Payload families whose payloads clients see: each payload has the label of
its type and, unless it cannot be written, a JSON value. -/
class PayloadView (Payload : Type) where
  label : Payload → String
  content? : Payload → Option Json
  /-- Reads a payload from its label and its value. -/
  ofContent : String → Json → Payload

/-- A payload is seen as its label and its value. -/
instance (priority := low) {Payload : Type} [PayloadView Payload] : JsonView Payload where
  view payload := .ofMembers
    [viewAs "type" (PayloadView.label payload),
     viewAs "value" ((PayloadView.content? payload).getD (.string "unserializable"))]

instance : JsonView Document where
  view document := .ofMembers
    [viewAs "name" document.type.name, viewAs "revision" document.type.revision,
     viewAs "data" document.data]

instance : JsonView DocumentType where
  view type := .array [view type.name, view type.revision, view type.text]

instance : JsonView Entry where
  view entry := .ofMembers
    [viewAs "id" entry.eventId, viewAs "type" entry.aggregateType,
     viewAs "aggregate" entry.aggregateId, viewAs "seq" entry.sequenceNumber,
     viewAs "ts" entry.timestamp.microseconds, viewAs "payload" entry.payload,
     viewAs "meta" entry.metadata]

instance : JsonView TrackedEntry where
  view tracked := .array [view tracked.token.index, view tracked.entry]

section Events

variable {Payload : Type} [PayloadView Payload]

def EventMessage.viewMembers (message : EventMessage Payload) : List (String × Json) :=
  [viewAs "id" message.id, viewAs "payload" message.payload, viewAs "meta" message.metadata,
   viewAs "ts" message.timestamp.microseconds]

instance : JsonView (DomainEvent Payload) where
  view event := .ofMembers (event.toEventMessage.viewMembers ++
    [viewAs "aggregate" event.aggregateId, viewAs "seq" event.sequenceNumber])

instance : JsonView (Event Payload) where
  view
    | .plain message => .ofMembers message.viewMembers
    | .domain event => view event

instance : JsonView (TrackedEvent Payload) where
  view tracked := .array
    [view tracked.token.index, view tracked.aggregateType, view tracked.event]

end Events

/-! ## What clients describe -/

/-- Reads a point in time given in microseconds. -/
def Timestamp.ofMember (json : Json) (key : String) : Timestamp :=
  .ofMicroseconds (json.int key)

/-- Reads metadata from the object under a key. -/
def Metadata.ofMember (json : Json) (key : String) : Metadata := .ofList (json.member key).members

def DocumentType.ofJson (json : Json) : DocumentType :=
  ⟨json.text "name", (json.member "revision").text?⟩

def Document.ofJson (json : Json) : Document := ⟨.ofJson json, json.member "data"⟩

/-- Reads an entry; one without an aggregate type has the usual one. -/
def Entry.ofJson (usualType : String) (json : Json) : Entry where
  eventId := .ofJson (json.member "id")
  aggregateType := json.textD "type" usualType
  aggregateId := ⟨json.text "aggregate"⟩
  sequenceNumber := json.nat "seq"
  timestamp := .ofMember json "ts"
  payload := .ofJson (json.member "payload")
  metadata := json.member "meta"

section Reading

variable {Payload : Type} [PayloadView Payload]

def payloadAt (json : Json) (key : String) : Payload :=
  PayloadView.ofContent ((json.member key).text "type") ((json.member key).member "value")

/-- Reads a domain event; without an identity of its own it takes identity and
time from the stamp. -/
def DomainEvent.ofJson (stamp : Stamp) (json : Json) : DomainEvent Payload :=
  let stamp :=
    if json.gives "id" then ⟨.ofJson (json.member "id"), .ofMember json "ts"⟩ else stamp
  .ofStamp stamp ⟨json.text "aggregate"⟩ (json.nat "seq") (payloadAt json "payload")
    (.ofMember json "meta")

/-- Reads an event: a domain event if it belongs to an aggregate. -/
def Event.ofJson (stamp : Stamp) (json : Json) : Event Payload :=
  let event : DomainEvent Payload := .ofJson stamp json
  if json.gives "aggregate" then .domain event else .plain event.toEventMessage

/-- Reads a series of events that differ in their sequence numbers, and in
identities and times, which change with them. -/
def DomainEvent.seriesOfJson (usualId : String) (json : Json) : List (DomainEvent Payload) :=
  let first := json.nat "from"
  (List.range' first (json.nat "to" - first)).map fun number : Nat =>
    let time := json.int "ts" + number * (json.member "every").int?.getD 1
    .ofStamp ⟨.ofNat (json.nat "base" + number), .ofMicroseconds time⟩
      ⟨json.textD "id" usualId⟩ number (payloadAt json "payload") (.ofMember json "meta")

/-- Reads an item of a stream: a failure, or a domain event. -/
def StreamItem.ofJson (stamp : Stamp) (json : Json) : StreamItem Payload :=
  if json.gives "fail" then .error ⟨json.text "fail"⟩ else .ok (.ofJson stamp json)

end Reading

end EventSourcing
