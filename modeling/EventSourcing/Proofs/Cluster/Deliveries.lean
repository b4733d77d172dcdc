import EventSourcing.Cluster.Publication
import Mathlib.Data.List.Nodup

/-!
# What listeners are handed

A cluster hands every published event to each member once, in the order of the events,
whatever its members do with them (`Cluster.hands_publish`).  What workers do and
listeners report hands nothing to anybody.
-/

namespace EventSourcing

variable {Payload : Type}

/-- The event that an occurrence hands to the listener of a key. -/
def Occurrence.handed? (key : String) : Occurrence Payload → Option (Event Payload)
  | .invoked listener event => if listener = key then some event else none
  | .processed _ _ | .notified _ => none

/-- The events that the listener of a key was handed, in order.  A listener without a
queue has handled just these. -/
def handedTo (key : String) (journal : List (Occurrence Payload)) : List (Event Payload) :=
  journal.filterMap (Occurrence.handed? key)

@[simp] theorem handedTo_nil (key : String) :
    handedTo key ([] : List (Occurrence Payload)) = [] := rfl

@[simp] theorem handedTo_append (key : String) (journal later : List (Occurrence Payload)) :
    handedTo key (journal ++ later) = handedTo key journal ++ handedTo key later :=
  List.filterMap_append

theorem handedTo_flatMap {Source : Type} (key : String) (sources : List Source)
    (journal : Source → List (Occurrence Payload)) :
    handedTo key (sources.flatMap journal) =
      sources.flatMap fun source => handedTo key (journal source) := by
  induction sources with
  | nil => rfl
  | cons source rest ih => rw [List.flatMap_cons, handedTo_append, ih, List.flatMap_cons]

theorem flatMap_ite_of_nodup {Key Value : Type} [DecidableEq Key] {keys : List Key}
    (distinct : keys.Nodup) (key : Key) (values : List Value) :
    (keys.flatMap fun other => if other = key then values else []) =
      if key ∈ keys then values else [] := by
  induction keys with
  | nil => rfl
  | cons other rest ih =>
    rw [List.nodup_cons] at distinct
    rw [List.flatMap_cons, ih distinct.2]
    by_cases same : other = key
    · subst same
      simp [distinct.1]
    · simp [same, Ne.symm same]

/-! ## Clusters -/

namespace Cluster

variable {cluster : Cluster Payload} {key : String}

/-- Something done by a cluster that leaves its members as they are and hands the given
events to the listener of a key. -/
structure Hands (cluster : Cluster Payload) (key : String) (events : List (Event Payload))
    (done : List (Occurrence Payload) × Cluster Payload) : Prop where
  members : done.2.members = cluster.members
  handed : handedTo key done.1 = events

theorem Hands.nothing (cluster : Cluster Payload) (key : String) :
    cluster.Hands key [] ([], cluster) := ⟨rfl, rfl⟩

theorem Hands.append {events more : List (Event Payload)}
    {done next : List (Occurrence Payload) × Cluster Payload}
    (first : cluster.Hands key events done) (second : done.2.Hands key more next) :
    cluster.Hands key (events ++ more) (done.1 ++ next.1, next.2) where
  members := second.members.trans first.members
  handed := by rw [handedTo_append, first.handed, second.handed]

theorem hands_receive (cluster : Cluster Payload) (key : String)
    (notification : Notification Payload) :
    cluster.Hands key [] (cluster.receive notification) where
  members := rfl
  handed := by simp [handedTo, receive, List.filterMap_map, Function.comp_def, Occurrence.handed?]

theorem hands_report (cluster : Cluster Payload) (key reporter : String)
    (notification : Notification Payload) :
    cluster.Hands key [] (cluster.report reporter notification) := by
  unfold report
  split
  · exact cluster.hands_receive key notification
  · exact .nothing cluster key

theorem hands_work (cluster : Cluster Payload) (key worker : String) :
    cluster.Hands key [] (cluster.work worker) := by
  unfold work
  split
  next => exact .nothing cluster key
  next event notification rest _ =>
    have reported := hands_report { cluster with workers := cluster.workers.put worker rest } key
      worker notification
    exact ⟨reported.members, reported.handed⟩

theorem members_enqueue (cluster : Cluster Payload) (listener : Listener Payload)
    (event : Event Payload) : (cluster.enqueue listener event).members = cluster.members := by
  unfold enqueue
  cases listener.worker? <;> rfl

end Cluster

/-- The events that a step of a publication hands to the listener of a key. -/
def PublicationStep.handed (key : String) : PublicationStep Payload → List (Event Payload)
  | .invoke event member => if member.key = key then [event] else []
  | .prepare _ | .register _ _ | .settle _ => []

namespace Publication

variable (publication : Publication Payload) (key : String)

theorem members_register (event : Event Payload) (member : Listener Payload) :
    (publication.register event member).cluster.members = publication.cluster.members := by
  unfold register
  split
  · split <;> rfl
  · rfl

theorem hands_invoke (event : Event Payload) (member : Listener Payload) :
    let done := publication.invoke event member
    publication.cluster.Hands key (if member.key = key then [event] else [])
      (done.1, done.2.cluster) := by
  have called (later : List (Occurrence Payload)) (silent : handedTo key later = []) :
      handedTo key (.invoked member.key event :: later) =
        if member.key = key then [event] else [] := by
    by_cases own : member.key = key
    · simp [handedTo, Occurrence.handed?, own, ← silent]
    · simp [handedTo, Occurrence.handed?, own, ← silent]
  simp only [invoke]
  cases member.handle event with
  | ok _ => exact ⟨publication.cluster.members_enqueue member event, called [] rfl⟩
  | error cause =>
    cases publication.isTracked with
    | true =>
      have received := publication.cluster.hands_receive key
        ⟨[event], some ⟨member.listenerType, cause⟩⟩
      exact ⟨received.members, called _ received.handed⟩
    | false => exact ⟨rfl, called [] rfl⟩

theorem hands_perform (step : PublicationStep Payload) :
    let done := publication.perform step
    publication.cluster.Hands key (step.handed key) (done.1, done.2.cluster) := by
  cases step with
  | prepare event => exact ⟨rfl, rfl⟩
  | register event member => exact ⟨publication.members_register event member, rfl⟩
  | invoke event member => exact publication.hands_invoke key event member
  | settle event =>
    have received := publication.cluster.hands_receive key ⟨[event], publication.failure⟩
    exact ⟨received.members, received.handed⟩

theorem hands_performAll (steps : List (PublicationStep Payload)) :
    let done := publication.performAll steps
    publication.cluster.Hands key (steps.flatMap (PublicationStep.handed key))
      (done.1, done.2.cluster) := by
  induction steps generalizing publication with
  | nil => exact .nothing publication.cluster key
  | cons step rest ih =>
    exact (publication.hands_perform key step).append (ih (publication.perform step).2)

end Publication

namespace PublicationStep

variable {members : List (Listener Payload)}

/-- Each event is for every member once. -/
theorem flatMap_handed_ofEvent (distinct : (members.map Listener.key).Nodup) (key : String)
    (event : Event Payload) :
    (ofEvent members event).flatMap (handed key) =
      if key ∈ members.map Listener.key then [event] else [] := by
  have among : (members.flatMap fun member =>
      [PublicationStep.register event member, .invoke event member]).flatMap (handed key) =
        if key ∈ members.map Listener.key then [event] else [] := by
    rw [← flatMap_ite_of_nodup distinct, List.flatMap_map, List.flatMap_assoc]
    refine List.flatMap_congr fun member _ => ?_
    simp [handed]
  simp only [ofEvent, List.cons_append, List.flatMap_cons, List.flatMap_append, among,
    List.flatMap_nil, handed, List.nil_append, List.append_nil]

theorem flatMap_handed_ofEvents (distinct : (members.map Listener.key).Nodup) (key : String)
    (events : List (Event Payload)) :
    (ofEvents members events).flatMap (handed key) =
      if key ∈ members.map Listener.key then events else [] := by
  induction events with
  | nil => simp [ofEvents]
  | cons event rest ih =>
    have split : ofEvents members (event :: rest) =
        ofEvent members event ++ ofEvents members rest := List.flatMap_cons
    rw [split, List.flatMap_append, flatMap_handed_ofEvent distinct, ih]
    by_cases isMember : key ∈ members.map Listener.key
    · simp [isMember]
    · simp [isMember]

end PublicationStep

/-- A cluster hands all events to each of its members, and none to anybody else. -/
theorem Cluster.hands_publish {cluster : Cluster Payload} (distinct : cluster.memberKeys.Nodup)
    (key : String) (events : List (Event Payload)) :
    cluster.Hands key (if key ∈ cluster.memberKeys then events else [])
      (cluster.publish events) := by
  have performed := Publication.hands_performAll { cluster } key
    (PublicationStep.ofEvents cluster.members events)
  rw [PublicationStep.flatMap_handed_ofEvents distinct] at performed
  exact performed

theorem Cluster.members_publish (cluster : Cluster Payload) (events : List (Event Payload)) :
    (cluster.publish events).2.members = cluster.members :=
  (Publication.hands_performAll { cluster } "" _).members

end EventSourcing
