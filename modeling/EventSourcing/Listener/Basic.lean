import EventSourcing.Handler.Inspection

/-!
# Listeners

A listener gets the events that are published.  A direct listener has processed
an event when it has handled it.  Any other accepts the event first and reports
the outcome later: from outside, or from a worker that takes the events it has
accepted out of a queue, one after another.

An annotated listener hands an event to the first of its handlers that matches
it, and passes over an event that none matches.
-/

namespace EventSourcing

/-- How a listener processes events. -/
inductive Processing (Payload : Type) where
  | direct (handle : Event Payload → Except ListenerError Unit)
  | reported (accept : Event Payload → Except ListenerError Unit)
  | queued (handle : Event Payload → Except ListenerError Unit)

/-- A listener with its key, by which it is told apart from others. -/
structure Listener (Payload : Type) where
  key : String
  listenerType : String
  markers : List PayloadType := []
  processing : Processing Payload

namespace Listener

variable {Payload : Type}

/-- Whether the listener reports outcomes later. -/
def isAsynchronous (listener : Listener Payload) : Bool :=
  match listener.processing with
  | .direct _ => false
  | .reported _ => true
  | .queued _ => true

/-- Hands an event to the listener, which processes or accepts it. -/
def handle (listener : Listener Payload) (event : Event Payload) : Except ListenerError Unit :=
  match listener.processing with
  | .direct handle => handle event
  | .reported accept => accept event
  | .queued _ => .ok ()

end Listener

/-- A listener made of handlers. -/
structure AnnotatedListener (Payload : Type) where
  listenerType : String
  handlers : List (InspectedHandler Payload)
  markers : List PayloadType := []

namespace AnnotatedListener

variable {Payload : Type}

/-- Makes a listener of the handlers among candidates. -/
def ofMembers (listenerType : String) (members : List (Member Payload))
    (definition : HandlerDefinition Payload) (factory : ResolverFactory Payload) :
    Except HandlerError (AnnotatedListener Payload) :=
  (Member.inspectAll members definition factory).map fun handlers => { listenerType, handlers }

variable [PayloadFamily Payload]

def handlerFor? (listener : AnnotatedListener Payload) (event : Event Payload) :
    Option (InspectedHandler Payload) :=
  listener.handlers.find? fun handler => handler.isMatch event

/-- Hands an event to the first handler that matches it. -/
def handle (listener : AnnotatedListener Payload) (event : Event Payload) :
    Except ListenerError Unit :=
  match listener.handlerFor? event with
  | some handler => handler.handle event
  | none => .ok ()

/-- An annotated listener among others, under a key. -/
def toListener (listener : AnnotatedListener Payload) (key : String) : Listener Payload :=
  { key
    listenerType := listener.listenerType
    markers := listener.markers
    processing := .direct listener.handle }

end AnnotatedListener

end EventSourcing
