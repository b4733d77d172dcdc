import EventSourcing.Identifier
import EventSourcing.Metadata
import EventSourcing.Payload
import EventSourcing.Timestamp.Basic

/-!
# Events

An event message carries a payload with an identity, a time and metadata.  A
domain event also belongs to an aggregate and has a place in its history.
Identity and time of a new message come from outside as a stamp.
-/

namespace EventSourcing

/-- What makes a new message unique: an identity and a time. -/
structure Stamp where
  id : EventId
  timestamp : Timestamp
deriving DecidableEq, Inhabited

/-- A message about something that happened. -/
structure EventMessage (Payload : Type) where
  id : EventId
  timestamp : Timestamp
  metadata : Metadata
  payload : Payload
deriving DecidableEq

/-- An event in the history of an aggregate.  Sequence numbers are taken to stay below
`2 ^ 64 - 1`, so that the number behind any of them fits into 64 bits as well. -/
structure DomainEvent (Payload : Type) extends EventMessage Payload where
  aggregateId : AggregateId
  sequenceNumber : Nat
deriving DecidableEq

/-- An event as listeners see it: a domain event or a message of its own. -/
inductive Event (Payload : Type) where
  | plain (message : EventMessage Payload)
  | domain (event : DomainEvent Payload)
deriving DecidableEq

namespace DomainEvent

variable {Payload : Type}

/-- A new event with the identity and time of a stamp. -/
def ofStamp (stamp : Stamp) (aggregateId : AggregateId) (sequenceNumber : Nat)
    (payload : Payload) (metadata : Metadata) : DomainEvent Payload :=
  { id := stamp.id, timestamp := stamp.timestamp, metadata, payload, aggregateId, sequenceNumber }

def withMetadata (event : DomainEvent Payload) (metadata : Metadata) : DomainEvent Payload :=
  { event with metadata }

/-- The event with further metadata, which count where a key has a value on
both sides. -/
def addMetadata (event : DomainEvent Payload) (metadata : Metadata) : DomainEvent Payload :=
  { event with metadata := event.metadata.merge metadata }

def withPayload (event : DomainEvent Payload) (payload : Payload) : DomainEvent Payload :=
  { event with payload }

end DomainEvent

namespace Event

variable {Payload : Type}

def message : Event Payload → EventMessage Payload
  | .plain message => message
  | .domain event => event.toEventMessage

def id (event : Event Payload) : EventId := event.message.id

/-- The event as a domain event, if it is one. -/
def domain? : Event Payload → Option (DomainEvent Payload)
  | .plain _ => none
  | .domain event => some event

end Event

end EventSourcing
