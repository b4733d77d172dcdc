import EventSourcing.Event

/-!
# Parameters of handlers

A handler declares its parameters: each has a type, and marks that say
where its value comes from.  The value that a parameter gets for an event is
the event itself, its metadata or one entry of them, its payload, its time, its
sequence number, or a resource that does not depend on the event.
-/

namespace EventSourcing

/-- The kinds of JSON values that a parameter can ask for. -/
inductive ValueKind where
  | any
  | boolean
  | integer
  | float
  | string
  | array
  | object
deriving DecidableEq, Inhabited

/-- Whether a value is of a kind; every number counts as a float. -/
def ValueKind.accepts : ValueKind → Json → Bool
  | .any, _ => true
  | .boolean, .bool _ => true
  | .integer, .number (.integer _) => true
  | .float, .number _ => true
  | .string, .string _ => true
  | .array, .array _ => true
  | .object, .object _ => true
  | _, _ => false

def ValueKind.describe : ValueKind → String
  | .any => "Any"
  | .boolean => "Bool"
  | .integer => "Integer"
  | .float => "Float"
  | .string => "String"
  | .array => "Array"
  | .object => "Object"

/-- The declared type of a parameter. -/
inductive ParameterType where
  | message
  | domainEvent
  | metadata
  | payload (type : PayloadType)
  /-- One JSON value; a primitive one must be there. -/
  | value (kind : ValueKind) (primitive : Bool)
  | timestamp
  | sequenceNumber
  | resource (type : PayloadType)
deriving DecidableEq, Inhabited

/-- How messages describe the type of a parameter. -/
def ParameterType.describe : ParameterType → String
  | .message => "Message"
  | .domainEvent => "DomainEventMessage"
  | .metadata => "MetaData"
  | .payload type => Text.wrapped "Payload" type.describe
  | .value kind primitive =>
    Text.record "Value" [("kind", kind.describe), ("primitive", Text.flag primitive)]
  | .timestamp => "Timestamp"
  | .sequenceNumber => "SequenceNumber"
  | .resource type => Text.wrapped "Resource" type.describe

/-- What a parameter says about the source of its value. -/
inductive ParameterMark where
  | metadataEntry (key : String) (required : Bool)
  | timestamp
  | sequenceNumber
deriving DecidableEq, Inhabited

/-- A parameter of a handler. -/
structure Parameter where
  type : ParameterType
  marks : List ParameterMark := []
deriving DecidableEq, Inhabited

namespace Parameter

def message : Parameter := { type := .message }

/-- The event itself, if it is a domain event. -/
def domainEvent : Parameter := { type := .domainEvent }

def metadata : Parameter := { type := .metadata }

def payload (type : PayloadType) : Parameter := { type := .payload type }

def resource (type : PayloadType) : Parameter := { type := .resource type }

def marked (parameter : Parameter) (mark : ParameterMark) : Parameter :=
  { parameter with marks := parameter.marks ++ [mark] }

def metadataValue (key : String) (kind : ValueKind) : Parameter :=
  marked { type := .value kind false } (.metadataEntry key false)

def timestamp : Parameter := marked { type := .timestamp } .timestamp

def sequenceNumber : Parameter := marked { type := .sequenceNumber } .sequenceNumber

/-- Declares a value parameter primitive; other parameters stay as they are. -/
def primitive (parameter : Parameter) : Parameter :=
  match parameter.type with
  | .value kind _ => { parameter with type := .value kind true }
  | _ => parameter

/-- Declares every metadata entry of the marks required. -/
def required (parameter : Parameter) : Parameter :=
  { parameter with marks := parameter.marks.map fun mark =>
      match mark with
      | .metadataEntry key _ => .metadataEntry key true
      | other => other }

/-- The first metadata mark: its key, and whether the entry is required. -/
def metadataMark? (parameter : Parameter) : Option (String × Bool) :=
  parameter.marks.findSome? fun mark =>
    match mark with
    | .metadataEntry key required => some (key, required)
    | _ => none

end Parameter

/-- The value of a parameter for an event. -/
inductive ParameterValue (Payload : Type) where
  | message (event : Event Payload)
  | metadata (entries : Metadata)
  | value (json : Option Json)
  | payload (content : Payload)
  | timestamp (time : Timestamp)
  | sequenceNumber (number : Nat)
  | resource (content : Payload)

/-- How messages describe the value of a parameter. -/
def ParameterValue.describe {Payload : Type} [PayloadFamily Payload] :
    ParameterValue Payload → String
  | .message event => Text.wrapped "Message" event.id.describe
  | .metadata entries => Text.wrapped "MetaData" entries.describe
  | .value json => Text.wrapped "Value" (Text.optional (json.map Json.describe))
  | .payload content => Text.wrapped "Payload" (describePayload content)
  | .timestamp time => Text.wrapped "Timestamp" time.text
  | .sequenceNumber number => Text.wrapped "SequenceNumber" (toString number)
  | .resource _ => "Resource(..)"

end EventSourcing
