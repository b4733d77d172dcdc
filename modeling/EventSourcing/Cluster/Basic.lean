import EventSourcing.Listener.Worker
import EventSourcing.Monitor.Multiplexer

/-!
# Clusters

A cluster is a group of listeners that get the same events, and a number of
monitors that are told once about every event, when all members are done with
it.  The cluster watches its asynchronous members: what they report is gathered
by a multiplexer, whose notifications go to the monitors.  A worker goes on
with its queue after its listener has left, but nobody watches it any longer.
-/

namespace EventSourcing

/-- Something that happens when events are published. -/
inductive Occurrence (Payload : Type) where
  /-- A listener was handed an event. -/
  | invoked (listener : String) (event : Event Payload)
  /-- A worker has processed an event. -/
  | processed (listener : String) (event : Event Payload)
  /-- A monitor was told something. -/
  | notified (delivery : Delivery Payload)

/-- A group of listeners. -/
structure Cluster (Payload : Type) where
  name : String
  members : List (Listener Payload) := []
  properties : OrderedMap String Json := .empty
  monitors : MonitorCollection := {}
  multiplexer : Multiplexer := {}
  /-- The keys of the asynchronous listeners that report to the cluster. -/
  watched : List String := []
  /-- The workers of listeners that have accepted events of the cluster. -/
  workers : Table String (Worker Payload) := .empty

namespace Cluster

variable {Payload : Type}

/-- The keys of the members in the order of subscription. -/
def memberKeys (cluster : Cluster Payload) : List String := cluster.members.map Listener.key

/-- Makes a listener a member, unless it is one already, and watches it if it
reports later. -/
def subscribe (cluster : Cluster Payload) (listener : Listener Payload) : Cluster Payload :=
  if cluster.memberKeys.contains listener.key then cluster
  else
    { cluster with
      members := cluster.members ++ [listener]
      watched :=
        if listener.isAsynchronous && !cluster.watched.contains listener.key then
          cluster.watched ++ [listener.key]
        else cluster.watched }

/-- Takes a listener off, and stops watching it. -/
def unsubscribe (cluster : Cluster Payload) (key : String) : Cluster Payload :=
  { cluster with
    members := cluster.members.filter fun member => member.key ≠ key
    watched := cluster.watched.filter (· ≠ key) }

def subscribeMonitor (cluster : Cluster Payload) (monitor : String) : Cluster Payload :=
  { cluster with monitors := cluster.monitors.subscribe monitor }

def unsubscribeMonitor (cluster : Cluster Payload) (monitor : String) : Cluster Payload :=
  { cluster with monitors := cluster.monitors.unsubscribe monitor }

def setProperty (cluster : Cluster Payload) (key : String) (value : Json) : Cluster Payload :=
  { cluster with properties := cluster.properties.insert key value }

def removeProperty (cluster : Cluster Payload) (key : String) : Cluster Payload :=
  { cluster with properties := cluster.properties.erase key }

/-- Takes a notification about events and tells the monitors what it settles. -/
def receive (cluster : Cluster Payload) (notification : Notification Payload) :
    List (Occurrence Payload) × Cluster Payload :=
  let (settled, multiplexer) := cluster.multiplexer.receive notification
  ((settled.flatMap cluster.monitors.deliver).map .notified, { cluster with multiplexer })

/-- Takes what an asynchronous listener reports, if the listener is watched. -/
def report (cluster : Cluster Payload) (key : String) (notification : Notification Payload) :
    List (Occurrence Payload) × Cluster Payload :=
  if cluster.watched.contains key then cluster.receive notification else ([], cluster)

/-- Puts an event into the queue of a listener's worker, if it has one. -/
def enqueue (cluster : Cluster Payload) (listener : Listener Payload) (event : Event Payload) :
    Cluster Payload :=
  match listener.worker? with
  | some idle =>
    let worker := (cluster.workers.get? listener.key).getD idle
    { cluster with workers := cluster.workers.put listener.key (worker.accept event) }
  | none => cluster

/-- Lets the worker of a listener process one event and report on it. -/
def work (cluster : Cluster Payload) (key : String) :
    List (Occurrence Payload) × Cluster Payload :=
  match (cluster.workers.get? key).bind Worker.step? with
  | none => ([], cluster)
  | some (event, notification, worker) =>
    let cluster := { cluster with workers := cluster.workers.put key worker }
    let (occurrences, cluster) := cluster.report key notification
    (.processed key event :: occurrences, cluster)

/-- Lets the worker of a listener process a number of events. -/
def workTimes (key : String) : Nat → Cluster Payload →
    List (Occurrence Payload) × Cluster Payload
  | 0, cluster => ([], cluster)
  | count + 1, cluster =>
    let (occurrences, cluster) := cluster.work key
    let (others, cluster) := workTimes key count cluster
    (occurrences ++ others, cluster)

/-- Lets the given workers empty their queues, one worker after another. -/
def drainWorkers : List (String × Worker Payload) → Cluster Payload →
    List (Occurrence Payload) × Cluster Payload
  | [], cluster => ([], cluster)
  | (key, worker) :: rest, cluster =>
    let (occurrences, cluster) := cluster.workTimes key worker.queue.length
    let (others, cluster) := drainWorkers rest cluster
    (occurrences ++ others, cluster)

def drain (cluster : Cluster Payload) : List (Occurrence Payload) × Cluster Payload :=
  cluster.drainWorkers cluster.workers.entries

end Cluster

end EventSourcing
