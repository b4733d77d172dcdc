import EventSourcing.Monitor.Basic
import EventSourcing.Table

/-!
# Multiplexing monitors

A multiplexer gathers the acknowledgements of an event into one notification.
A prepared event waits for one acknowledgement, and for one more for every
invocation that will be acknowledged later.  With the last of them the
multiplexer tells that the event has been processed, or that it has failed if
one of the acknowledgements was a failure.  Events that nobody prepared are
passed on as they come.
-/

namespace EventSourcing

/-- The acknowledgements that an event waits for, and the last failure. -/
structure Outstanding where
  pending : Nat := 1
  failure : Option ProcessingFailure := none
deriving DecidableEq, Inhabited

/-- The events that wait for acknowledgements. -/
structure Multiplexer where
  outstanding : Table EventId Outstanding := .empty

/-- What an acknowledgement does to an event: it was not waiting, it goes on
waiting, or it is settled, with the last failure if there was one. -/
inductive Acknowledgement where
  | unprepared
  | waiting
  | settled (failure : Option ProcessingFailure)
deriving DecidableEq

namespace Multiplexer

def inFlight (multiplexer : Multiplexer) : Nat := multiplexer.outstanding.size

/-- Lets an event wait for one acknowledgement, whatever it waited for before. -/
def prepare (multiplexer : Multiplexer) (id : EventId) : Multiplexer :=
  ⟨multiplexer.outstanding.put id {}⟩

/-- Lets an event wait for one more acknowledgement. -/
def expect (multiplexer : Multiplexer) (id : EventId) : Except MonitorError Multiplexer :=
  match multiplexer.outstanding.get? id with
  | some found =>
    .ok ⟨multiplexer.outstanding.put id { found with pending := found.pending + 1 }⟩
  | none => .error (.notPrepared id)

/-- Takes one acknowledgement of an event, which may be a failure. -/
def acknowledge (multiplexer : Multiplexer) (id : EventId) (failure : Option ProcessingFailure) :
    Acknowledgement × Multiplexer :=
  match multiplexer.outstanding.get? id with
  | none => (.unprepared, multiplexer)
  | some found =>
    let failure := failure.or found.failure
    if found.pending = 1 then (.settled failure, ⟨multiplexer.outstanding.erase id⟩)
    else
      (.waiting, ⟨multiplexer.outstanding.put id { pending := found.pending - 1, failure }⟩)

variable {Payload : Type}

/-- Takes the completion of events, one after another.  Tells the failures of
those settled with one, each by itself, and the events that have been processed. -/
def completeEach (multiplexer : Multiplexer) :
    List (Event Payload) → List (Notification Payload) × List (Event Payload) × Multiplexer
  | [] => ([], [], multiplexer)
  | event :: rest =>
    match multiplexer.acknowledge event.id none with
    | (.waiting, multiplexer) => multiplexer.completeEach rest
    | (.settled (some cause), multiplexer) =>
      let (failures, processed, multiplexer) := multiplexer.completeEach rest
      (⟨[event], some cause⟩ :: failures, processed, multiplexer)
    | (_, multiplexer) =>
      let (failures, processed, multiplexer) := multiplexer.completeEach rest
      (failures, event :: processed, multiplexer)

/-- Takes the failure of events, one after another.  Tells the events that wait
no longer. -/
def failEach (multiplexer : Multiplexer) (cause : ProcessingFailure) :
    List (Event Payload) → List (Event Payload) × Multiplexer
  | [] => ([], multiplexer)
  | event :: rest =>
    match multiplexer.acknowledge event.id (some cause) with
    | (.waiting, multiplexer) => multiplexer.failEach cause rest
    | (_, multiplexer) =>
      let (failed, multiplexer) := multiplexer.failEach cause rest
      (event :: failed, multiplexer)

/-- A notification about events, if there are any. -/
def notificationOf (events : List (Event Payload)) (failure : Option ProcessingFailure) :
    List (Notification Payload) :=
  if events.isEmpty then [] else [⟨events, failure⟩]

/-- Takes a notification and tells what it settles. -/
def receive (multiplexer : Multiplexer) (notification : Notification Payload) :
    List (Notification Payload) × Multiplexer :=
  match notification.failure with
  | none =>
    let (failures, processed, multiplexer) := multiplexer.completeEach notification.events
    (failures ++ notificationOf processed none, multiplexer)
  | some cause =>
    let (failed, multiplexer) := multiplexer.failEach cause notification.events
    (notificationOf failed (some cause), multiplexer)

def describe (multiplexer : Multiplexer) : String :=
  Text.openRecord "MultiplexingEventProcessingMonitor"
    [("in_flight", toString multiplexer.inFlight)]

end Multiplexer

end EventSourcing
