import EventSourcing.Cluster.Basic

/-!
# Publication

Events are published one after another.  For each of them the multiplexer is
prepared, every member is registered and invoked in the order of subscription,
and at last the cluster acknowledges the event itself, with the last failure of
a direct member if there was one.  A member that fails does not keep the others
from getting the event.

A publication is a list of steps, so that what workers do at the same time can
come between any two of them.
-/

namespace EventSourcing

/-- A step of a publication. -/
inductive PublicationStep (Payload : Type) where
  /-- The event is about to be handed out. -/
  | prepare (event : Event Payload)
  /-- If the member reports later, the event waits for its report. -/
  | register (event : Event Payload) (member : Listener Payload)
  /-- The member is handed the event. -/
  | invoke (event : Event Payload) (member : Listener Payload)
  /-- Every member has been handed the event. -/
  | settle (event : Event Payload)

/-- A cluster in the course of a publication. -/
structure Publication (Payload : Type) where
  cluster : Cluster Payload
  /-- The last failure of a direct member with the current event. -/
  failure : Option ProcessingFailure := none
  /-- Whether the event waits for a report of the current member. -/
  isTracked : Bool := false

namespace Publication

variable {Payload : Type}

/-- Hands an event to a member.  A tracked member that refuses the event will
never report on it, so its failure is reported at once. -/
def invoke (publication : Publication Payload) (event : Event Payload)
    (member : Listener Payload) : List (Occurrence Payload) × Publication Payload :=
  let invoked := .invoked member.key event
  match member.handle event with
  | .ok () =>
    ([invoked], { publication with cluster := publication.cluster.enqueue member event })
  | .error cause =>
    let failure : ProcessingFailure := ⟨member.listenerType, cause⟩
    if publication.isTracked then
      let (occurrences, cluster) := publication.cluster.receive ⟨[event], some failure⟩
      (invoked :: occurrences, { publication with cluster })
    else ([invoked], { publication with failure := some failure })

/-- Lets the multiplexer wait for the report of a member that reports later. -/
def register (publication : Publication Payload) (event : Event Payload)
    (member : Listener Payload) : Publication Payload :=
  if member.isAsynchronous then
    match publication.cluster.multiplexer.expect event.id with
    | .ok multiplexer =>
      { publication with
        cluster := { publication.cluster with multiplexer }
        isTracked := true }
    | .error _ => { publication with isTracked := false }
  else { publication with isTracked := false }

def perform (publication : Publication Payload) :
    PublicationStep Payload → List (Occurrence Payload) × Publication Payload
  | .prepare event =>
    let multiplexer := publication.cluster.multiplexer.prepare event.id
    ([], { cluster := { publication.cluster with multiplexer } })
  | .register event member => ([], publication.register event member)
  | .invoke event member => publication.invoke event member
  | .settle event =>
    let (occurrences, cluster) := publication.cluster.receive ⟨[event], publication.failure⟩
    (occurrences, { publication with cluster })

def performAll (publication : Publication Payload) :
    List (PublicationStep Payload) → List (Occurrence Payload) × Publication Payload
  | [] => ([], publication)
  | step :: rest =>
    let (occurrences, publication) := publication.perform step
    let (others, publication) := publication.performAll rest
    (occurrences ++ others, publication)

end Publication

namespace PublicationStep

variable {Payload : Type}

def ofEvent (members : List (Listener Payload)) (event : Event Payload) :
    List (PublicationStep Payload) :=
  .prepare event ::
    members.flatMap (fun member => [.register event member, .invoke event member]) ++
      [.settle event]

/-- The steps for events, one event after another. -/
def ofEvents (members : List (Listener Payload)) (events : List (Event Payload)) :
    List (PublicationStep Payload) :=
  events.flatMap (ofEvent members)

end PublicationStep

namespace Cluster

variable {Payload : Type}

/-- Publishes events to the members that the cluster has now. -/
def publish (cluster : Cluster Payload) (events : List (Event Payload)) :
    List (Occurrence Payload) × Cluster Payload :=
  let steps := PublicationStep.ofEvents cluster.members events
  let (occurrences, publication) := Publication.performAll { cluster } steps
  (occurrences, publication.cluster)

end Cluster

end EventSourcing
