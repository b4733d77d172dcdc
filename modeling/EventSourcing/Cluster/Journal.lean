import EventSourcing.Cluster.Basic

/-!
# What remains of a publication

Of what happens when events are published, each listener keeps the events that
it has handled, and each monitor what it was told.  A listener with a worker has
handled an event when the worker has processed it, any other one when the event
was handed over.
-/

namespace EventSourcing

variable {Payload : Type}

/-- Whether events wait in a queue for the worker of a listener. -/
def Listener.isQueued (listener : Listener Payload) : Bool :=
  match listener.processing with
  | .queued _ => true
  | _ => false

/-- Whether a listener reports itself, later, how the processing ended. -/
def Listener.isReported (listener : Listener Payload) : Bool :=
  match listener.processing with
  | .reported _ => true
  | _ => false

/-- The event that a listener has handled by an occurrence. -/
def Listener.handledBy? (listener : Listener Payload) :
    Occurrence Payload → Option (Event Payload)
  | .invoked key event =>
    if key = listener.key && !listener.isQueued then some event else none
  | .processed key event => if key = listener.key then some event else none
  | .notified _ => none

def Occurrence.delivery? : Occurrence Payload → Option (Delivery Payload)
  | .notified delivery => some delivery
  | _ => none

end EventSourcing
