import EventSourcing.Event
import EventSourcing.Listener.Error

/-!
# Monitors

A monitor is told which events have been processed and which have failed.  A
collection of monitors passes everything on to each of its members, in the
order in which they subscribed.
-/

namespace EventSourcing

/-- What a monitor is told about some events: that they have been processed, or
why they have failed. -/
structure Notification (Payload : Type) where
  events : List (Event Payload)
  failure : Option ProcessingFailure := none
deriving DecidableEq

/-- A notification with the monitor that receives it. -/
structure Delivery (Payload : Type) where
  monitor : String
  notification : Notification Payload
deriving DecidableEq

/-- Monitors, none of them twice. -/
structure MonitorCollection where
  monitors : List String := []
deriving DecidableEq, Inhabited

namespace MonitorCollection

/-- Subscribes a monitor, unless it is subscribed already. -/
def subscribe (collection : MonitorCollection) (monitor : String) : MonitorCollection :=
  if collection.monitors.contains monitor then collection
  else ⟨collection.monitors ++ [monitor]⟩

def unsubscribe (collection : MonitorCollection) (monitor : String) : MonitorCollection :=
  ⟨collection.monitors.filter (· ≠ monitor)⟩

def size (collection : MonitorCollection) : Nat := collection.monitors.length

def deliver {Payload : Type} (collection : MonitorCollection)
    (notification : Notification Payload) : List (Delivery Payload) :=
  collection.monitors.map fun monitor => ⟨monitor, notification⟩

end MonitorCollection

end EventSourcing
