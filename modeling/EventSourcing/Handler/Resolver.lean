import EventSourcing.Handler.Parameter

/-!
# Resolvers

A resolver finds the value of one parameter in each event.  It matches the
events for which the value is what the parameter asks for; a handler runs only
for events that all its resolvers match.
-/

namespace EventSourcing

/-- How the value of a parameter is found in an event. -/
inductive Resolver (Payload : Type) where
  | message (domainOnly : Bool)
  | metadataEntry (key : String) (kind : ValueKind) (mandatory : Bool)
  | metadata
  | timestamp
  | sequenceNumber
  | payload (type : PayloadType)
  | fixed (value : ParameterValue Payload)

namespace Resolver

variable {Payload : Type}

/-- The value of the parameter.  An event that is no domain event counts as
having the sequence number zero. -/
def resolve (event : Event Payload) : Resolver Payload → ParameterValue Payload
  | .message _ => .message event
  | .metadataEntry key _ _ => .value (event.message.metadata.get? key)
  | .metadata => .metadata event.message.metadata
  | .timestamp => .timestamp event.message.timestamp
  | .sequenceNumber =>
    .sequenceNumber ((event.domain?.map DomainEvent.sequenceNumber).getD 0)
  | .payload _ => .payload event.message.payload
  | .fixed value => value

/-- Whether the value is what the parameter asks for. -/
def isMatch [PayloadFamily Payload] (event : Event Payload) : Resolver Payload → Bool
  | .message domainOnly => !domainOnly || event.domain?.isSome
  | .metadataEntry key kind mandatory =>
    !mandatory || (event.message.metadata.get? key).any kind.accepts
  | .metadata => true
  | .timestamp => true
  | .sequenceNumber => event.domain?.isSome
  | .payload type => typeOf event.message.payload == type
  | .fixed _ => true

def describe [PayloadFamily Payload] : Resolver Payload → String
  | .message domainOnly =>
    Text.record "MessageParameterResolver" [("domain_only", Text.flag domainOnly)]
  | .metadataEntry key kind mandatory =>
    Text.record "AnnotatedMetaDataParameterResolver"
      [("key", Text.quoted key), ("kind", kind.describe), ("mandatory", Text.flag mandatory)]
  | .metadata => "MetaDataParameterResolver"
  | .timestamp => "TimestampParameterResolver"
  | .sequenceNumber => "SequenceNumberParameterResolver"
  | .payload type => Text.record "PayloadParameterResolver" [("payload_type", type.describe)]
  | .fixed value => Text.record "FixedValueParameterResolver" [("value", value.describe)]

end Resolver

end EventSourcing
