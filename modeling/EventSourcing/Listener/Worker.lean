import EventSourcing.Listener.Basic
import EventSourcing.Monitor.Basic

/-!
# Workers

A worker keeps the events that its listener has accepted and processes them one
after another.  For each it reports that the event has been processed or why it
has failed.
-/

namespace EventSourcing

/-- The events that a listener has accepted and not yet processed. -/
structure Worker (Payload : Type) where
  listenerType : String
  process : Event Payload → Except ListenerError Unit
  queue : List (Event Payload) := []

namespace Worker

variable {Payload : Type}

def accept (worker : Worker Payload) (event : Event Payload) : Worker Payload :=
  { worker with queue := worker.queue ++ [event] }

def outcome (worker : Worker Payload) (event : Event Payload) : Notification Payload :=
  match worker.process event with
  | .ok () => { events := [event] }
  | .error cause => { events := [event], failure := some ⟨worker.listenerType, cause⟩ }

def step? (worker : Worker Payload) :
    Option (Event Payload × Notification Payload × Worker Payload) :=
  match worker.queue with
  | [] => none
  | event :: rest => some (event, worker.outcome event, { worker with queue := rest })

/-- Processes all events of the queue and tells what is reported. -/
def drain (worker : Worker Payload) : List (Notification Payload) × Worker Payload :=
  (worker.queue.map worker.outcome, { worker with queue := [] })

end Worker

namespace Listener

variable {Payload : Type}

def worker? (listener : Listener Payload) : Option (Worker Payload) :=
  match listener.processing with
  | .queued handle => some { listenerType := listener.listenerType, process := handle }
  | _ => none

end Listener

end EventSourcing
