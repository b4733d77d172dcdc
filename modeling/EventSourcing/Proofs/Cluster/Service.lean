import EventSourcing.Proofs.Cluster.Places

/-!
# A cluster in service

A cluster is in service while listeners come and go, batches of events are published one
after another, and members take their time.  A service performs any list of actions; the
steps of a publication, the events of workers and the reports of other members are actions
of their own, and an action that is not possible does nothing.  Listeners may change what
they do, so an action says how the listener concerned answers this time.

Beside what monitors are told, a service keeps account of how the handling of events by
members has ended, of reports that came when nobody watched the listener any longer, and
of recorded failures that were dropped when their event was prepared again.
-/

namespace EventSourcing

variable {Payload : Type}

/-! ## Answers -/

/-- A listener that answers in the given way when it is called.  The answer of a worker
comes later. -/
def Listener.answering (answer : Except ListenerError Unit) (listener : Listener Payload) :
    Listener Payload :=
  { listener with
    processing := match listener.processing with
      | .direct _ => .direct fun _ => answer
      | .reported _ => .reported fun _ => answer
      | .queued process => .queued process }

@[simp] theorem Listener.key_answering (answer : Except ListenerError Unit)
    (listener : Listener Payload) : (listener.answering answer).key = listener.key := rfl

@[simp] theorem Listener.listenerType_answering (answer : Except ListenerError Unit)
    (listener : Listener Payload) :
    (listener.answering answer).listenerType = listener.listenerType := rfl

@[simp] theorem Listener.isAsynchronous_answering (answer : Except ListenerError Unit)
    (listener : Listener Payload) :
    (listener.answering answer).isAsynchronous = listener.isAsynchronous := by
  cases processing : listener.processing <;>
    simp [Listener.answering, Listener.isAsynchronous, processing]

/-- A step whose listener, if one is called, answers in the given way. -/
def PublicationStep.answering (answer : Except ListenerError Unit) :
    PublicationStep Payload → PublicationStep Payload
  | .invoke event member => .invoke event (member.answering answer)
  | .prepare event => .prepare event
  | .register event member => .register event member
  | .settle event => .settle event

/-- A cluster in which the worker of a listener answers in the given way. -/
def Cluster.answering (key : String) (answer : Except ListenerError Unit)
    (cluster : Cluster Payload) : Cluster Payload :=
  match cluster.workers.get? key with
  | some worker =>
    { cluster with workers := cluster.workers.put key { worker with process := fun _ => answer } }
  | none => cluster

/-- How handling ends with a step.  A member that accepts an event handles it later. -/
def PublicationStep.ended : PublicationStep Payload → List (EventOutcome Payload)
  | .invoke event member =>
    match member.handle event with
    | .ok () => if member.isAsynchronous then [] else [(event, none)]
    | .error cause => [(event, some ⟨member.listenerType, cause⟩)]
  | .prepare _ | .register _ _ | .settle _ => []

/-- The events whose recorded failure is dropped by a step. -/
def PublicationStep.dropped (multiplexer : Multiplexer) :
    PublicationStep Payload → List EventId
  | .prepare event =>
    match (multiplexer.outstanding.get? event.id).bind Outstanding.failure with
    | some _ => [event.id]
    | none => []
  | .register _ _ | .invoke _ _ | .settle _ => []

/-! ## Services -/

/-- What may happen while a cluster is in service. -/
inductive ServiceAction (Payload : Type) where
  | subscribe (listener : Listener Payload)
  | unsubscribe (key : String)
  /-- Events are to be published, unless a publication is going on. -/
  | publish (events : List (Event Payload))
  /-- The publisher makes a step. -/
  | step (answer : Except ListenerError Unit)
  /-- The worker of a listener processes an event and reports on it. -/
  | work (key : String) (answer : Except ListenerError Unit)
  /-- A listener that reports itself reports on an event. -/
  | report (key : String) (failure : Option ProcessingFailure)

/-- Whether an action leaves the members of the cluster alone. -/
def ServiceAction.KeepsMembers : ServiceAction Payload → Prop
  | .subscribe _ | .unsubscribe _ => False
  | .publish _ | .step _ | .work _ _ | .report _ _ => True

structure Service (Payload : Type) extends Execution Payload where
  published : List (Event Payload) := []
  /-- How the handling of events by members has ended. -/
  handled : List (EventOutcome Payload) := []
  /-- The events of reports for which nobody watched. -/
  unheard : List (Event Payload) := []
  /-- The events that were prepared again while a failure was recorded. -/
  overwritten : List EventId := []

namespace Service

def ofCluster (cluster : Cluster Payload) : Service Payload where
  publication := { cluster }
  ahead := []

def cluster (service : Service Payload) : Cluster Payload := service.publication.cluster

def withCluster (service : Service Payload) (cluster : Cluster Payload) : Service Payload :=
  { service with publication := { service.publication with cluster } }

/-- A member has handled an event that it had accepted, and has reported on it. -/
def finish (service : Service Payload) (key : String) (event : Event Payload)
    (failure : Option ProcessingFailure)
    (reported : List (Occurrence Payload) × Cluster Payload) : Service Payload :=
  { service.withCluster reported.2 with
    journal := service.journal ++ reported.1
    handled := service.handled ++ [(event, failure)]
    unheard :=
      if service.cluster.watched.contains key then service.unheard
      else service.unheard ++ [event] }

def perform (service : Service Payload) : ServiceAction Payload → Service Payload
  | .subscribe listener => service.withCluster (service.cluster.subscribe listener)
  | .unsubscribe key => service.withCluster (service.cluster.unsubscribe key)
  | .publish events =>
    match service.ahead with
    | [] =>
      { service with
        ahead := PublicationStep.ofEvents service.cluster.members events
        published := service.published ++ events }
    | _ :: _ => service
  | .step answer =>
    match service.ahead with
    | [] => service
    | step :: ahead =>
      let step := step.answering answer
      let (occurrences, publication) := service.publication.perform step
      { publication, ahead
        awaited := Execution.awaitedAfter service.awaited step
        journal := service.journal ++ occurrences
        published := service.published
        handled := service.handled ++ step.ended
        unheard := service.unheard
        overwritten := service.overwritten ++ step.dropped service.cluster.multiplexer }
  | .work key answer =>
    let cluster := service.cluster.answering key answer
    match (cluster.workers.get? key).bind Worker.step? with
    | none => service
    | some (event, notification, _) =>
      service.finish key event notification.failure (cluster.work key)
  | .report key failure =>
    match service.awaited key with
    | [] => service
    | event :: rest =>
      { service.finish key event failure (service.cluster.report key ⟨[event], failure⟩) with
        awaited := Function.update service.awaited key rest }

def performAll (service : Service Payload) (actions : List (ServiceAction Payload)) :
    Service Payload :=
  actions.foldl perform service

/-- The events that wait under a key, in a worker's queue or for reports. -/
def eventsAt (workers : Table String (Worker Payload)) (awaited : String → List (Event Payload))
    (key : String) : List (Event Payload) :=
  ((workers.get? key).map Worker.queue).getD [] ++ awaited key

def queueAt (service : Service Payload) : String → List (Event Payload) :=
  eventsAt service.cluster.workers service.awaited

/-- Whether nothing is left to be done. -/
def IsIdle (service : Service Payload) : Prop :=
  service.ahead = [] ∧ ∀ key, service.queueAt key = []

theorem isIdle_of_workers {service : Service Payload} (atEnd : service.ahead = [])
    (nothingAwaited : service.awaited = fun _ => [])
    (emptied : ∀ entry ∈ service.cluster.workers.entries, entry.2.queue.isEmpty = true) :
    service.IsIdle := by
  refine ⟨atEnd, fun key => ?_⟩
  rw [queueAt, eventsAt, nothingAwaited]
  cases found : service.cluster.workers.get? key with
  | none => rfl
  | some worker => simpa using emptied _ (Table.mem_entries_of_get? found)

/-! ## Listeners that answer as they are -/

/-- What the listener of a step answers by itself. -/
def ownAnswer : PublicationStep Payload → Except ListenerError Unit
  | .invoke event member => member.handle event
  | .prepare _ | .register _ _ | .settle _ => .ok ()

theorem perform_ownAnswer (publication : Publication Payload) (step : PublicationStep Payload) :
    publication.perform (step.answering (ownAnswer step)) = publication.perform step := by
  cases step with
  | prepare event => rfl
  | register event member => rfl
  | settle event => rfl
  | invoke event member =>
    have sameAnswer : (member.answering (member.handle event)).handle event =
        member.handle event := by
      cases processing : member.processing <;>
        simp [Listener.answering, Listener.handle, processing]
    have sameQueue (cluster : Cluster Payload) :
        cluster.enqueue (member.answering (member.handle event)) event =
          cluster.enqueue member event := by
      cases processing : member.processing <;>
        simp [Cluster.enqueue, Listener.worker?, Listener.answering, processing]
    simp only [PublicationStep.answering, ownAnswer, Publication.perform, Publication.invoke,
      sameAnswer, sameQueue]
    rfl

/-- A service whose members answer as they are, without anything in between, publishes as
its cluster does. -/
theorem performAll_ownAnswers (cluster : Cluster Payload) (events : List (Event Payload)) :
    let steps := PublicationStep.ofEvents cluster.members events
    let ended := (ofCluster cluster).performAll
      (.publish events :: steps.map fun step => .step (ownAnswer step))
    (ended.journal, ended.cluster) = cluster.publish events := by
  have further (steps : List (PublicationStep Payload)) (service : Service Payload)
      (comes : service.ahead = steps) :
      let ended := service.performAll (steps.map fun step => .step (ownAnswer step))
      (ended.journal, ended.cluster) =
        (service.journal ++ (service.publication.performAll steps).1,
          (service.publication.performAll steps).2.cluster) := by
    induction steps generalizing service with
    | nil => simp [performAll, Publication.performAll, Service.cluster]
    | cons step rest ih =>
      have later := ih (service.perform (.step (ownAnswer step)))
        (by simp only [perform, comes])
      simp only [performAll, List.map_cons, List.foldl_cons] at later ⊢
      rw [later]
      simp only [perform, comes, perform_ownAnswer, Publication.performAll, List.append_assoc]
  exact further _ _ rfl

end Service

end EventSourcing
