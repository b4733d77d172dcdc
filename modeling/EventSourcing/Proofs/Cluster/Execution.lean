import EventSourcing.Cluster.Journal
import EventSourcing.Cluster.Publication
import EventSourcing.Proofs.Monitor.Balance
import Mathlib.Logic.Function.Basic

/-!
# Publications among workers

While a cluster publishes events one step after another, its asynchronous members
process those that they have accepted and report on them, each in the order of its
queue.  An execution performs any list of actions of the publisher and of the members;
an action that is not possible does nothing (`Execution.performAll`).  So every
interleaving is such a list.

A member that refuses an event is called and answered for in one step.  Nothing changes
between the two, so a report that comes there does what it does before the call.
-/

namespace EventSourcing

variable {Payload : Type}

/-! ## Clusters before a publication -/

namespace Cluster

/-- A new cluster with listeners and monitors subscribed to it in the given order. -/
def assembled (name : String) (listeners : List (Listener Payload)) (monitors : List String) :
    Cluster Payload :=
  listeners.foldl subscribe (monitors.foldl subscribeMonitor { name })

/-- A cluster that has not published anything. -/
structure Fresh (cluster : Cluster Payload) : Prop where
  distinct : cluster.memberKeys.Nodup
  watches : ∀ member ∈ cluster.members, member.isAsynchronous → member.key ∈ cluster.watched
  monitors : cluster.monitors.monitors.Nodup
  multiplexer : cluster.multiplexer = {}
  workers : cluster.workers = .empty

theorem Fresh.subscribe {cluster : Cluster Payload} (fresh : cluster.Fresh)
    (listener : Listener Payload) : (cluster.subscribe listener).Fresh := by
  unfold Cluster.subscribe
  by_cases known : cluster.memberKeys.contains listener.key
  · rwa [if_pos known]
  · rw [if_neg known]
    rw [List.contains_iff_mem] at known
    constructor
    case distinct =>
      simp only [memberKeys, List.map_append, List.map_cons, List.map_nil, List.nodup_append]
      refine ⟨fresh.distinct, List.nodup_singleton _, ?_⟩
      rintro key isMember _ (isNew : _ ∈ [listener.key]) rfl
      exact known (List.mem_singleton.mp isNew ▸ isMember)
    case watches =>
      intro member isMember reportsLater
      rcases List.mem_append.mp isMember with old | isNew
      · have watched := fresh.watches member old reportsLater
        by_cases added : (listener.isAsynchronous && !cluster.watched.contains listener.key) = true
        · simp only [added, ↓reduceIte]
          exact List.mem_append_left _ watched
        · rwa [if_neg added]
      · obtain rfl := List.mem_singleton.mp isNew
        by_cases watched : member.key ∈ cluster.watched
        · simp [watched]
        · simp [reportsLater, watched]
    case monitors => exact fresh.monitors
    case multiplexer => exact fresh.multiplexer
    case workers => exact fresh.workers

theorem Fresh.subscribeMonitor {cluster : Cluster Payload} (fresh : cluster.Fresh)
    (monitor : String) : (cluster.subscribeMonitor monitor).Fresh where
  distinct := fresh.distinct
  watches := fresh.watches
  monitors := by
    simp only [Cluster.subscribeMonitor, MonitorCollection.subscribe]
    by_cases known : cluster.monitors.monitors.contains monitor
    · rw [if_pos known]
      exact fresh.monitors
    · rw [if_neg known, List.nodup_append]
      rw [List.contains_iff_mem] at known
      refine ⟨fresh.monitors, List.nodup_singleton _, ?_⟩
      rintro other isOld _ (isNew : _ ∈ [monitor]) rfl
      exact known (List.mem_singleton.mp isNew ▸ isOld)
  multiplexer := fresh.multiplexer
  workers := fresh.workers

theorem Fresh.foldl_subscribe {cluster : Cluster Payload} (fresh : cluster.Fresh)
    (listeners : List (Listener Payload)) : (listeners.foldl Cluster.subscribe cluster).Fresh := by
  induction listeners generalizing cluster with
  | nil => exact fresh
  | cons listener rest ih => exact ih (fresh.subscribe listener)

theorem Fresh.foldl_subscribeMonitor {cluster : Cluster Payload} (fresh : cluster.Fresh)
    (monitors : List String) : (monitors.foldl Cluster.subscribeMonitor cluster).Fresh := by
  induction monitors generalizing cluster with
  | nil => exact fresh
  | cons monitor rest ih => exact ih (fresh.subscribeMonitor monitor)

theorem fresh_assembled (name : String) (listeners : List (Listener Payload))
    (monitors : List String) : (assembled name listeners monitors).Fresh := by
  have fresh : ({ name } : Cluster Payload).Fresh :=
    { distinct := List.nodup_nil
      watches := fun _ isMember => nomatch isMember
      monitors := List.nodup_nil
      multiplexer := rfl
      workers := rfl }
  exact (fresh.foldl_subscribeMonitor monitors).foldl_subscribe listeners

theorem members_foldl_subscribe {listeners : List (Listener Payload)} {cluster : Cluster Payload}
    (distinct : ((cluster.members ++ listeners).map Listener.key).Nodup) :
    (listeners.foldl subscribe cluster).members = cluster.members ++ listeners := by
  induction listeners generalizing cluster with
  | nil => exact (List.append_nil cluster.members).symm
  | cons listener rest ih =>
    have new : listener.key ∉ cluster.memberKeys := by
      rw [List.map_append, List.nodup_append] at distinct
      intro known
      exact distinct.2.2 _ known _ (List.mem_map_of_mem List.mem_cons_self) rfl
    have added : (cluster.subscribe listener).members = cluster.members ++ [listener] := by
      simp [Cluster.subscribe, new]
    rw [List.foldl_cons, ih, added, List.append_assoc, List.singleton_append]
    rwa [added, List.append_assoc, List.singleton_append]

theorem members_foldl_subscribeMonitor (monitors : List String) (cluster : Cluster Payload) :
    (monitors.foldl subscribeMonitor cluster).members = cluster.members := by
  induction monitors generalizing cluster with
  | nil => rfl
  | cons monitor rest ih => exact ih (cluster.subscribeMonitor monitor)

/-- Listeners with keys of their own are all members, in the order of subscription. -/
theorem members_assembled (name : String) {listeners : List (Listener Payload)}
    (monitors : List String) (distinct : (listeners.map Listener.key).Nodup) :
    (assembled name listeners monitors).members = listeners := by
  have noMembers : (monitors.foldl subscribeMonitor ({ name } : Cluster Payload)).members = [] :=
    members_foldl_subscribeMonitor monitors _
  rw [assembled, members_foldl_subscribe, noMembers, List.nil_append]
  rwa [noMembers, List.nil_append]

end Cluster

/-! ## Outcomes -/

def Listener.failureOf (listener : Listener Payload) :
    Except ListenerError Unit → Option ProcessingFailure
  | .ok () => none
  | .error cause => some ⟨listener.listenerType, cause⟩

/-- How the processing of an event by a listener ends: with an answer of the listener or
of its worker, with a refusal, or with what is reported on an event that was accepted. -/
def Listener.outcome (reports : String → Event Payload → Option ProcessingFailure)
    (listener : Listener Payload) (event : Event Payload) : Option ProcessingFailure :=
  match listener.processing with
  | .direct handle => listener.failureOf (handle event)
  | .queued handle => listener.failureOf (handle event)
  | .reported accept =>
    match accept event with
    | .ok () => reports listener.key event
    | .error cause => some ⟨listener.listenerType, cause⟩

/-! ## Executions -/

/-- What may happen next while events are published. -/
inductive PublicationAction where
  /-- The publisher makes a step. -/
  | publish
  /-- The worker of a member processes an event and reports on it. -/
  | work (key : String)
  /-- A member that reports itself reports on an event. -/
  | report (key : String)

/-- A publication with what its members have yet to do. -/
structure Execution (Payload : Type) where
  publication : Publication Payload
  /-- The steps that the publisher has yet to make. -/
  ahead : List (PublicationStep Payload)
  /-- The events that a member has accepted and will report on, by the key of the member. -/
  awaited : String → List (Event Payload) := fun _ => []
  journal : List (Occurrence Payload) := []

/-- The listener and the event of a call. -/
def Occurrence.call? : Occurrence Payload → Option (String × Event Payload)
  | .invoked key event => some (key, event)
  | .processed _ _ | .notified _ => none

/-- The events that wait for a listener, in a worker's queue or for its report. -/
def Listener.queueIn (workers : Table String (Worker Payload))
    (awaited : String → List (Event Payload)) (listener : Listener Payload) :
    List (Event Payload) :=
  match listener.processing with
  | .direct _ => []
  | .reported _ => awaited listener.key
  | .queued _ => ((workers.get? listener.key).map Worker.queue).getD []

namespace Execution

/-- A publication of events that has not begun. -/
def start (cluster : Cluster Payload) (events : List (Event Payload)) : Execution Payload where
  publication := { cluster }
  ahead := PublicationStep.ofEvents cluster.members events

/-- The events that await a report after a step of the publisher. -/
def awaitedAfter (awaited : String → List (Event Payload)) :
    PublicationStep Payload → String → List (Event Payload)
  | .invoke event member =>
    if member.isReported && (member.handle event).isOk then
      Function.update awaited member.key (awaited member.key ++ [event])
    else awaited
  | .prepare _ | .register _ _ | .settle _ => awaited

variable (reports : String → Event Payload → Option ProcessingFailure)

def perform (state : Execution Payload) : PublicationAction → Execution Payload
  | .publish =>
    match state.ahead with
    | [] => state
    | step :: ahead =>
      let (occurrences, publication) := state.publication.perform step
      { publication, ahead
        awaited := awaitedAfter state.awaited step
        journal := state.journal ++ occurrences }
  | .work key =>
    let (occurrences, cluster) := state.publication.cluster.work key
    { state with
      publication := { state.publication with cluster }
      journal := state.journal ++ occurrences }
  | .report key =>
    match state.awaited key with
    | [] => state
    | event :: rest =>
      let (occurrences, cluster) :=
        state.publication.cluster.report key ⟨[event], reports key event⟩
      { state with
        publication := { state.publication with cluster }
        awaited := Function.update state.awaited key rest
        journal := state.journal ++ occurrences }

def performAll (state : Execution Payload) (actions : List PublicationAction) :
    Execution Payload :=
  actions.foldl (perform reports) state

variable {reports} {state : Execution Payload}

theorem perform_publish {step : PublicationStep Payload} {ahead : List (PublicationStep Payload)}
    {occurrences : List (Occurrence Payload)} {next : Publication Payload}
    (comes : state.ahead = step :: ahead)
    (performs : state.publication.perform step = (occurrences, next)) :
    state.perform reports .publish =
      { publication := next
        ahead
        awaited := awaitedAfter state.awaited step
        journal := state.journal ++ occurrences } := by
  simp only [perform, comes, performs]

/-- A publisher that goes on alone performs the rest of its publication. -/
theorem performAll_replicate {steps : List (PublicationStep Payload)}
    (comes : state.ahead = steps) :
    state.performAll reports (List.replicate steps.length .publish) =
      { publication := (state.publication.performAll steps).2
        ahead := []
        awaited := steps.foldl awaitedAfter state.awaited
        journal := state.journal ++ (state.publication.performAll steps).1 } := by
  induction steps generalizing state with
  | nil =>
    obtain ⟨publication, ahead, awaited, journal⟩ := state
    obtain rfl : ahead = [] := comes
    simp only [performAll, List.length_nil, List.replicate_zero, List.foldl_nil,
      Publication.performAll, List.append_nil]
  | cons step rest ih =>
    rcases performs : state.publication.perform step with ⟨occurrences, publication⟩
    have next : state.perform reports .publish = _ := perform_publish comes performs
    have later := ih (congrArg Execution.ahead next)
    simp only [performAll, List.length_cons, List.replicate_succ, List.foldl_cons] at later ⊢
    rw [later, next]
    simp only [Publication.performAll, performs, List.append_assoc]

/-- Without any action of a member in between, an execution is a publication of the cluster. -/
theorem performAll_start (cluster : Cluster Payload) (events : List (Event Payload)) :
    let steps := PublicationStep.ofEvents cluster.members events
    let ended := (start cluster events).performAll reports (List.replicate steps.length .publish)
    (ended.journal, ended.publication.cluster) = cluster.publish events := by
  intro steps ended
  have whole : ended = _ := performAll_replicate rfl
  rw [whole]
  rfl

variable (state : Execution Payload)

/-- The calls of listeners so far, in order. -/
def calls : List (String × Event Payload) := state.journal.filterMap Occurrence.call?

/-- What a monitor has been told so far, in order. -/
def toldTo (monitor : String) : List (Notification Payload) :=
  ((state.journal.filterMap Occurrence.delivery?).filter
    fun delivery => delivery.monitor = monitor).map Delivery.notification

def queueOf (member : Listener Payload) : List (Event Payload) :=
  member.queueIn state.publication.cluster.workers state.awaited

/-- Whether a member has got an event, the event waits for the member no longer, and the
worker of the member, if it has one, has processed it. -/
def IsDone (member : Listener Payload) (event : Event Payload) : Prop :=
  (member.key, event) ∈ state.calls ∧ event ∉ state.queueOf member ∧
    (member.isQueued → .processed member.key event ∈ state.journal)

/-- Whether the publisher has come to its end and no event waits for a member. -/
def IsDrained : Prop :=
  state.ahead = [] ∧ ∀ member ∈ state.publication.cluster.members, state.queueOf member = []

end Execution

/-! ## Multiplexer and monitors -/

theorem Cluster.enqueue_eq (cluster : Cluster Payload) (listener : Listener Payload)
    (event : Event Payload) :
    cluster.enqueue listener event =
      { cluster with workers := (cluster.enqueue listener event).workers } := by
  unfold enqueue
  cases listener.worker? <;> rfl

open Multiplexer

/-- The multiplexer of a cluster is that of a trace, and the monitors have been told what
it tells.  Apart from the workers nothing else has changed. -/
structure Cluster.Follows (cluster : Cluster Payload) (trace : List (MonitorAction Payload))
    (current : Cluster Payload) (journal : List (Occurrence Payload)) : Prop where
  same : current = { cluster with
    multiplexer := (run trace).2
    workers := current.workers }
  told : journal.filterMap Occurrence.delivery? =
    (run trace).1.flatMap cluster.monitors.deliver

namespace Cluster.Follows

variable {cluster current : Cluster Payload} {trace : List (MonitorAction Payload)}
  {journal : List (Occurrence Payload)}

theorem multiplexer_eq (follows : cluster.Follows trace current journal) :
    current.multiplexer = (run trace).2 := by rw [follows.same]

theorem monitors_eq (follows : cluster.Follows trace current journal) :
    current.monitors = cluster.monitors := by rw [follows.same]

theorem members_eq (follows : cluster.Follows trace current journal) :
    current.members = cluster.members := by rw [follows.same]

theorem watched_eq (follows : cluster.Follows trace current journal) :
    current.watched = cluster.watched := by rw [follows.same]

/-- Workers, and what tells monitors nothing, do not matter. -/
theorem unheard (follows : cluster.Follows trace current journal)
    (workers : Table String (Worker Payload)) {occurrences : List (Occurrence Payload)}
    (silent : occurrences.filterMap Occurrence.delivery? = []) :
    cluster.Follows trace { current with workers } (journal ++ occurrences) where
  same := by rw [follows.same]
  told := by rw [List.filterMap_append, silent, List.append_nil, follows.told]

theorem prepare (follows : cluster.Follows trace current journal) (id : EventId) :
    cluster.Follows (trace ++ [.prepare id])
      { current with multiplexer := current.multiplexer.prepare id } journal where
  same := by
    rw [run_concat, follows.same]
    rfl
  told := by simp only [run_concat, Multiplexer.perform, List.append_nil, follows.told]

theorem expect (follows : cluster.Follows trace current journal) {id : EventId}
    {next : Multiplexer} (granted : current.multiplexer.expect id = .ok next) :
    cluster.Follows (trace ++ [.expect id]) { current with multiplexer := next } journal := by
  rw [follows.multiplexer_eq] at granted
  constructor
  case same =>
    rw [run_concat, follows.same]
    simp only [Multiplexer.perform, granted]
  case told => simp only [run_concat, Multiplexer.perform, granted, List.append_nil, follows.told]

theorem receive (follows : cluster.Follows trace current journal)
    (notification : Notification Payload) :
    cluster.Follows (trace ++ [.receive notification]) (current.receive notification).2
      (journal ++ (current.receive notification).1) where
  same := by
    simp only [Cluster.receive, follows.multiplexer_eq, run_concat, Multiplexer.perform]
    rw [follows.same]
  told := by
    have notified (deliveries : List (Delivery Payload)) :
        (deliveries.map Occurrence.notified).filterMap Occurrence.delivery? = deliveries := by
      simp [List.filterMap_map, Function.comp_def, Occurrence.delivery?]
    simp only [Cluster.receive, follows.multiplexer_eq, follows.monitors_eq, run_concat,
      Multiplexer.perform, List.filterMap_append, follows.told, notified, List.flatMap_append]

theorem toldTo_eq {state : Execution Payload}
    (follows : cluster.Follows trace state.publication.cluster state.journal)
    (distinct : cluster.monitors.monitors.Nodup) {monitor : String}
    (isSubscribed : monitor ∈ cluster.monitors.monitors) :
    state.toldTo monitor = (run trace).1 := by
  have toldEach (notification : Notification Payload) :
      ((cluster.monitors.deliver notification).filter
        fun delivery => delivery.monitor = monitor).map Delivery.notification =
          [notification] := by
    have once : cluster.monitors.monitors.filter (· = monitor) = [monitor] := by
      rw [List.filter_eq, List.count_eq_one_of_mem distinct isSubscribed]
      rfl
    simp only [MonitorCollection.deliver, List.filter_map, Function.comp_def, once,
      List.map_cons, List.map_nil]
  rw [Execution.toldTo, follows.told]
  induction (run trace).1 with
  | nil => rfl
  | cons notification rest ih =>
    rw [List.flatMap_cons, List.filter_append, List.map_append, ih, toldEach]
    rfl

end Cluster.Follows

end EventSourcing
