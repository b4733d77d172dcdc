import EventSourcing.Identifier

/-!
# Failures of listeners

A listener fails to process an event, cannot accept it, or is handed arguments
that it cannot use.  A failure is reported together with the type of the
listener.  Subscribing and publishing fail for reasons of their own.
-/

namespace EventSourcing

/-- An argument that a handler cannot use. -/
inductive ParameterError where
  | missing (index : Nat)
  | mismatch (index : Nat) (expected : String)
deriving DecidableEq, Inhabited

def ParameterError.message : ParameterError → String
  | .missing index => "handler parameter " ++ toString index ++ " is missing"
  | .mismatch index expected =>
    "handler parameter " ++ toString index ++ " is not a " ++ expected

/-- A failure of a listener to take or to process an event. -/
inductive ListenerError where
  | failed (reason : String)
  | parameter (error : ParameterError)
  | unavailable (reason : String)
deriving DecidableEq, Inhabited

def ListenerError.message : ListenerError → String
  | .failed reason => "listener failed: " ++ reason
  | .parameter error => error.message
  | .unavailable reason => "listener unavailable: " ++ reason

/-- Why the processing of an event failed, as monitors are told. -/
structure ProcessingFailure where
  listenerType : String
  cause : ListenerError
deriving DecidableEq, Inhabited

def ProcessingFailure.message (failure : ProcessingFailure) : String :=
  failure.listenerType ++ ": " ++ failure.cause.message

/-- An acknowledgement expected for an event that nobody waits for. -/
inductive MonitorError where
  | notPrepared (id : EventId)
deriving DecidableEq, Inhabited

def MonitorError.message : MonitorError → String
  | .notPrepared id =>
    "event " ++ id.text ++ " must be prepared before registering async invocations"

/-- A failure of an event bus. -/
inductive EventBusError where
  | noClusterSelected (listenerType : String)
  | poisoned
deriving DecidableEq, Inhabited

def EventBusError.message : EventBusError → String
  | .noClusterSelected listenerType => "no cluster selected for listener " ++ listenerType
  | .poisoned => "event bus state poisoned"

end EventSourcing
