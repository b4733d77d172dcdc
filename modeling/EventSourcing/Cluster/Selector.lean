import EventSourcing.Listener.Basic

/-!
# Selectors

A selector says which cluster a listener joins, or has no opinion: the same
cluster for all listeners, a cluster for listeners whose type begins with given
letters, or a cluster for listeners with a marker.  A composite takes the first
opinion among its delegates.
-/

namespace EventSourcing

/-- What tells clusters apart: two clusters may have the same name. -/
structure ClusterKey where
  name : String
  serial : Nat := 0
deriving DecidableEq, Inhabited

/-- The choice of a cluster for each listener. -/
inductive Selector where
  | always (cluster : ClusterKey)
  | byType (start : String) (cluster : ClusterKey)
  | byMarker (marker : PayloadType) (cluster : ClusterKey)
  | composite (delegates : List Selector)
deriving Inhabited

namespace Selector

variable {Payload : Type}

/-- The name of the cluster of listeners for which nothing else is said. -/
def defaultName : String := "default"

mutual

def select? (listener : Listener Payload) : Selector → Option ClusterKey
  | .always cluster => some cluster
  | .byType start cluster =>
    if start.toList.isPrefixOf listener.listenerType.toList then some cluster else none
  | .byMarker marker cluster =>
    if listener.markers.contains marker then some cluster else none
  | .composite delegates => selectFirst? listener delegates

def selectFirst? (listener : Listener Payload) : List Selector → Option ClusterKey
  | [] => none
  | selector :: rest => (select? listener selector).or (selectFirst? listener rest)

end

end Selector

end EventSourcing
