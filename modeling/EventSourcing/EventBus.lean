import EventSourcing.Cluster.Publication
import EventSourcing.Cluster.Selector

/-!
# Event buses

An event bus spreads its listeners over clusters, as a selector says, and
publishes events to every cluster that has ever got a listener, in the order in
which they got their first one.
-/

namespace EventSourcing

/-- Listeners in clusters chosen by a selector. -/
structure EventBus (Payload : Type) where
  selector : Selector
  /-- The clusters in use, in the order of first use. -/
  clusters : Table ClusterKey (Cluster Payload) := .empty

namespace EventBus

variable {Payload : Type}

/-- The cluster of a key; a cluster that is not in use is empty. -/
def cluster (bus : EventBus Payload) (key : ClusterKey) : Cluster Payload :=
  (bus.clusters.get? key).getD { name := key.name }

def modify (bus : EventBus Payload) (key : ClusterKey)
    (change : Cluster Payload → Cluster Payload) : EventBus Payload :=
  { bus with clusters := bus.clusters.put key (change (bus.cluster key)) }

/-- Subscribes a listener to the cluster that is selected for it. -/
def subscribe (bus : EventBus Payload) (listener : Listener Payload) :
    Except EventBusError (EventBus Payload) :=
  match bus.selector.select? listener with
  | some key => .ok (bus.modify key fun cluster => cluster.subscribe listener)
  | none => .error (.noClusterSelected listener.listenerType)

/-- Takes a listener off the cluster that is selected for it. -/
def unsubscribe (bus : EventBus Payload) (listener : Listener Payload) : EventBus Payload :=
  match bus.selector.select? listener with
  | some key =>
    if bus.clusters.contains key then
      bus.modify key fun cluster => cluster.unsubscribe listener.key
    else bus
  | none => bus

/-- Lets every cluster in use do something, one after another. -/
def forEach (act : Cluster Payload → List (Occurrence Payload) × Cluster Payload) :
    List (ClusterKey × Cluster Payload) →
      List (Occurrence Payload) × List (ClusterKey × Cluster Payload)
  | [] => ([], [])
  | (key, cluster) :: rest =>
    let (occurrences, cluster) := act cluster
    let (others, rest) := forEach act rest
    (occurrences ++ others, (key, cluster) :: rest)

/-- The bus after every cluster in use has done something. -/
def perform (bus : EventBus Payload)
    (act : Cluster Payload → List (Occurrence Payload) × Cluster Payload) :
    List (Occurrence Payload) × EventBus Payload :=
  let (occurrences, clusters) := forEach act bus.clusters.entries
  (occurrences, { bus with clusters := ⟨clusters⟩ })

def publish (bus : EventBus Payload) (events : List (Event Payload)) :
    List (Occurrence Payload) × EventBus Payload :=
  if events.isEmpty then ([], bus) else bus.perform fun cluster => cluster.publish events

/-- Takes what an asynchronous listener reports. -/
def report (bus : EventBus Payload) (key : String) (notification : Notification Payload) :
    List (Occurrence Payload) × EventBus Payload :=
  bus.perform fun cluster => cluster.report key notification

def drain (bus : EventBus Payload) : List (Occurrence Payload) × EventBus Payload :=
  bus.perform Cluster.drain

end EventBus

end EventSourcing
