import EventSourcing.Handler.Factory
import EventSourcing.Listener.Error

/-!
# Inspection of handlers

Candidates for handlers are declared with marks, parameters and a function.
Inspection keeps those that a definition recognises and finds a resolver for
every parameter of theirs, once and for all.  A first parameter for the payload
that no factory claims gets the payload and restricts the handler to payloads
of its type; any other parameter that no factory claims is an error.
-/

namespace EventSourcing

/-- A candidate for a handler. -/
structure Member (Payload : Type) where
  name : String
  marks : List MemberMark := []
  parameters : List Parameter := []
  invoke : List (ParameterValue Payload) → Except ListenerError Unit

/-- Tells handlers from other candidates, and which payload they declare. -/
structure HandlerDefinition (Payload : Type) where
  isHandler : Member Payload → Bool
  payloadType? : Member Payload → Option PayloadType

/-- Why a candidate cannot be a handler. -/
inductive UnsupportedReason where
  | payloadMismatch (declared parameter : PayloadType)
  | unresolved (index : Nat) (type : ParameterType)
  | stated (reason : String)
deriving DecidableEq, Inhabited

/-- A candidate that should be a handler but cannot be one. -/
structure HandlerError where
  member : String
  reason : UnsupportedReason
deriving DecidableEq, Inhabited

def UnsupportedReason.text : UnsupportedReason → String
  | .payloadMismatch declared parameter =>
    "declared payload type " ++ declared.simpleName ++ " does not match parameter type " ++
      parameter.simpleName
  | .unresolved index type =>
    "parameter " ++ toString index ++ " of type " ++ type.describe ++ " cannot be resolved"
  | .stated reason => reason

def HandlerError.message (error : HandlerError) : String :=
  "unsupported handler " ++ error.member ++ ": " ++ error.reason.text

/-- A handler that is ready to be invoked. -/
structure InspectedHandler (Payload : Type) where
  name : String
  /-- The only payload type that is handled, if there is a restriction. -/
  payloadType : Option PayloadType
  resolvers : List (Resolver Payload)
  invoke : List (ParameterValue Payload) → Except ListenerError Unit

namespace HandlerDefinition

variable {Payload : Type}

/-- Handlers are the candidates marked as event handlers; the first mark that
gives a payload type declares it. -/
def eventHandlers : HandlerDefinition Payload where
  isHandler member := member.marks.any fun mark =>
    match mark with
    | .eventHandler _ => true
    | .named _ => false
  payloadType? member := member.marks.findSome? fun mark =>
    match mark with
    | .eventHandler payloadType => payloadType
    | .named _ => none

end HandlerDefinition

namespace Member

variable {Payload : Type}

def marked (member : Member Payload) (mark : MemberMark) : Member Payload :=
  { member with marks := member.marks ++ [mark] }

def eventHandler (name : String)
    (invoke : List (ParameterValue Payload) → Except ListenerError Unit) : Member Payload :=
  marked { name, invoke } (.eventHandler none)

/-- Finds the resolvers of parameters from a place on.  Also tells the payload
type to which the payload parameter restricts the handler. -/
def resolvers (member : Member Payload) (factory : ResolverFactory Payload)
    (declared : Option PayloadType) :
    Nat → List Parameter →
      Except UnsupportedReason (Option PayloadType × List (Resolver Payload))
  | _, [] => .ok (declared, [])
  | index, parameter :: rest =>
    match factory.create member.marks parameter with
    | some resolver => do
      let (restriction, others) ← member.resolvers factory declared (index + 1) rest
      return (restriction, resolver :: others)
    | none =>
      match parameter.type, index with
      | .payload type, 0 =>
        match declared with
        | some other =>
          if other = type then do
            let (_, others) ← member.resolvers factory declared 1 rest
            return (some type, .payload type :: others)
          else .error (.payloadMismatch other type)
        | none => do
          let (_, others) ← member.resolvers factory declared 1 rest
          return (some type, .payload type :: others)
      | type, index => .error (.unresolved index type)

def inspect (member : Member Payload) (definition : HandlerDefinition Payload)
    (factory : ResolverFactory Payload) : Except HandlerError (InspectedHandler Payload) :=
  match member.resolvers factory (definition.payloadType? member) 0 member.parameters with
  | .ok (payloadType, resolvers) =>
    .ok { name := member.name, payloadType, resolvers, invoke := member.invoke }
  | .error reason => .error { member := member.name, reason }

/-- Inspects all handlers among candidates, failing at the first one that is
unsupported. -/
def inspectAll (members : List (Member Payload)) (definition : HandlerDefinition Payload)
    (factory : ResolverFactory Payload) : Except HandlerError (List (InspectedHandler Payload)) :=
  (members.filter definition.isHandler).mapM fun member => member.inspect definition factory

end Member

namespace InspectedHandler

variable {Payload : Type}

/-- The arguments that the handler gets for an event. -/
def arguments (handler : InspectedHandler Payload) (event : Event Payload) :
    List (ParameterValue Payload) :=
  handler.resolvers.map fun resolver => resolver.resolve event

def handle (handler : InspectedHandler Payload) (event : Event Payload) :
    Except ListenerError Unit :=
  handler.invoke (handler.arguments event)

variable [PayloadFamily Payload]

/-- Whether the payload and all parameters fit an event. -/
def isMatch (handler : InspectedHandler Payload) (event : Event Payload) : Bool :=
  (handler.payloadType.all fun type => typeOf event.message.payload == type) &&
    handler.resolvers.all fun resolver => resolver.isMatch event

def describe (handler : InspectedHandler Payload) : String :=
  Text.openRecord "MessageHandlingMember"
    [("name", Text.quoted handler.name),
     ("payload_type",
       Text.optional (handler.payloadType.map fun type => Text.quoted type.simpleName)),
     ("resolvers", Text.listed (handler.resolvers.map Resolver.describe))]

end InspectedHandler

end EventSourcing
