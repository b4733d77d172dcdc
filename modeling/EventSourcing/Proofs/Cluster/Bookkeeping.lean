import EventSourcing.Proofs.Cluster.Accounts
import EventSourcing.Proofs.Cluster.Ledgers

/-!
# The ledger of a service

Every service of a cluster has a ledger, and each of its actions is a step of the ledger
(`Service.Tracks.perform`).  So what every step of a ledger keeps holds after any run of
the service (`Service.Tracks.performAll`).  From wherever it is, a service can go on until
nothing is left to be done (`Service.Tracks.exists_idle`).
-/

namespace EventSourcing

variable {Payload : Type}

open Multiplexer

namespace PublicationPlace

/-- The member that is about to be handed the current event. -/
def faced : PublicationPlace Payload → Option (Listener Payload)
  | facing _ _ _ _ member _ => some member
  | between _ _ | inside _ _ _ _ _ => none

end PublicationPlace

/-! ## The ledger of a service -/

theorem Cluster.Follows.resubscribe {cluster current : Cluster Payload}
    {trace : List (MonitorAction Payload)} {journal : List (Occurrence Payload)}
    (follows : cluster.Follows trace current journal) (members : List (Listener Payload))
    (watched : List String) :
    ({ cluster with members, watched } : Cluster Payload).Follows trace
      { current with members, watched } journal where
  same := by rw [follows.same]
  told := follows.told

namespace Service

/-- A ledger agrees with a service whose cluster has the given monitors. -/
structure Tracks (monitors : MonitorCollection) (service : Service Payload)
    (ledger : Ledger Payload) : Prop where
  follows : ∃ base : Cluster Payload, base.monitors = monitors ∧
    base.Follows ledger.trace service.cluster service.journal
  ahead : service.ahead = ledger.place.ahead ledger.members
  fits : ledger.place.Fits ledger.members service.published
  failure : service.publication.failure = ledger.failure
  isTracked : service.publication.isTracked = ledger.isTracked
  direct (member : Listener Payload) : ledger.place.faced = some member →
    member.isAsynchronous = false → ledger.isTracked = false
  queues (key : String) : (Ledger.eventsUnder key ledger.waiting).Perm (service.queueAt key)
  handled : service.handled = ledger.handled
  unheard : service.unheard = ledger.unheard
  overwritten : service.overwritten = ledger.overwritten

variable {monitors : MonitorCollection} {service : Service Payload} {ledger : Ledger Payload}

theorem tracks_ofCluster {cluster : Cluster Payload} (fresh : cluster.Fresh) :
    (ofCluster cluster).Tracks cluster.monitors { place := .between [] [] } where
  follows := by
    refine ⟨cluster, rfl, ?_, rfl⟩
    have unchanged : (run ([] : List (MonitorAction Payload))).2 = cluster.multiplexer :=
      fresh.multiplexer.symm
    rw [unchanged]
    rfl
  ahead := rfl
  fits := rfl
  failure := rfl
  isTracked := rfl
  direct _ isFaced := by simp [PublicationPlace.faced] at isFaced
  queues key := by
    have noWorkers : (ofCluster cluster).cluster.workers = .empty := fresh.workers
    rw [queueAt, noWorkers]
    exact List.Perm.nil
  handled := rfl
  unheard := rfl
  overwritten := rfl

/-- Members come and go without any trace in the ledger. -/
theorem Tracks.resubscribe (tracks : service.Tracks monitors ledger)
    (members : List (Listener Payload)) (watched : List String) :
    (service.withCluster { service.cluster with members, watched }).Tracks monitors ledger := by
  obtain ⟨base, isBase, follows⟩ := tracks.follows
  exact
    { tracks with
      follows := ⟨{ base with members, watched }, isBase, follows.resubscribe members watched⟩ }

theorem Tracks.subscribe (tracks : service.Tracks monitors ledger) (listener : Listener Payload) :
    (service.perform (.subscribe listener)).Tracks monitors ledger := by
  simp only [perform, Cluster.subscribe]
  split
  · exact tracks
  · exact tracks.resubscribe _ _

theorem Tracks.unsubscribe (tracks : service.Tracks monitors ledger) (key : String) :
    (service.perform (.unsubscribe key)).Tracks monitors ledger :=
  tracks.resubscribe _ _

theorem Tracks.publish (tracks : service.Tracks monitors ledger) (events : List (Event Payload)) :
    ∃ next, ledger.Step next ∧ (service.perform (.publish events)).Tracks monitors next := by
  cases comes : service.ahead with
  | cons step ahead =>
    refine ⟨ledger, .stay, ?_⟩
    simp only [perform, comes]
    exact tracks
  | nil =>
    have stands := tracks.fits.eq_of_ahead_eq_nil (tracks.ahead.symm.trans comes)
    refine ⟨_, .announce stands service.cluster.members events, ?_⟩
    simp only [perform, comes]
    exact
      { tracks with
        ahead := rfl
        fits := rfl
        direct := fun _ isFaced => by simp [PublicationPlace.faced] at isFaced }

/-! ### Steps of the publisher -/

section Steps

variable {past rest : List (Event Payload)} {event : Event Payload}
  {visited upcoming : List (Listener Payload)} {member : Listener Payload}
  {ahead : List (PublicationStep Payload)} (answer : Except ListenerError Unit)

theorem perform_prepare (comes : service.ahead = .prepare event :: ahead) :
    service.perform (.step answer) =
      { service with
        publication.cluster :=
          { service.cluster with multiplexer := service.cluster.multiplexer.prepare event.id }
        publication.failure := none
        publication.isTracked := false
        ahead
        overwritten := service.overwritten ++
          (PublicationStep.prepare event).dropped service.cluster.multiplexer } := by
  simp [perform, comes, PublicationStep.answering, Publication.perform, Execution.awaitedAfter,
    PublicationStep.ended, Service.cluster]

theorem perform_register (comes : service.ahead = .register event member :: ahead) :
    service.perform (.step answer) =
      { service with publication := service.publication.register event member, ahead } := by
  simp [perform, comes, PublicationStep.answering, Publication.perform, Execution.awaitedAfter,
    PublicationStep.ended, PublicationStep.dropped]

theorem perform_settle (comes : service.ahead = .settle event :: ahead) :
    let received := service.cluster.receive ⟨[event], service.publication.failure⟩
    service.perform (.step answer) =
      { service.withCluster received.2 with
        ahead
        journal := service.journal ++ received.1 } := by
  simp [perform, comes, PublicationStep.answering, Publication.perform, Execution.awaitedAfter,
    PublicationStep.ended, PublicationStep.dropped, Service.cluster, withCluster]

theorem Tracks.prepare (tracks : service.Tracks monitors ledger)
    (stands : ledger.place = .between past (event :: rest)) :
    ∃ next, ledger.Step next ∧ (service.perform (.step answer)).Tracks monitors next := by
  obtain ⟨base, isBase, follows⟩ := tracks.follows
  have ahead := tracks.ahead
  have fits := tracks.fits
  rw [stands] at ahead fits
  have sameMultiplexer : service.cluster.multiplexer = (run ledger.trace).2 :=
    follows.multiplexer_eq
  refine ⟨_, .prepare stands, ?_⟩
  rw [perform_prepare answer (ahead.trans (PublicationPlace.ahead_between_cons past event rest))]
  exact
    { tracks with
      follows := ⟨base, isBase, follows.prepare event.id⟩
      ahead := rfl
      fits := ⟨fits, rfl⟩
      failure := rfl
      isTracked := rfl
      direct := fun _ isFaced => by simp [PublicationPlace.faced] at isFaced
      overwritten := by rw [tracks.overwritten, sameMultiplexer] }

/-- A registration may change the multiplexer and whether the member is tracked. -/
theorem Tracks.approach (tracks : service.Tracks monitors ledger)
    (stands : ledger.place = .inside past event rest visited (member :: upcoming))
    {next : Publication Payload} (performs : service.publication.register event member = next)
    {trace : List (MonitorAction Payload)}
    (follows : ∃ base : Cluster Payload, base.monitors = monitors ∧
      base.Follows trace next.cluster service.journal)
    (sameFailure : next.failure = service.publication.failure)
    (sameWorkers : next.cluster.workers = service.cluster.workers)
    (direct : member.isAsynchronous = false → next.isTracked = false) :
    (service.perform (.step answer)).Tracks monitors
      { ledger with
        place := .facing past event rest visited member upcoming
        trace
        isTracked := next.isTracked } := by
  have ahead := tracks.ahead
  have fits := tracks.fits
  rw [stands] at ahead fits
  rw [perform_register answer (ahead.trans
    (PublicationPlace.ahead_inside_cons past event rest visited member upcoming)), performs]
  exact
    { tracks with
      follows := follows
      ahead := rfl
      fits := fits
      failure := sameFailure.trans tracks.failure
      isTracked := rfl
      direct := fun other isFaced isDirect => direct (Option.some.inj isFaced ▸ isDirect)
      queues := fun key => by
        simp only [queueAt, Service.cluster, sameWorkers]
        exact tracks.queues key }

theorem Tracks.register (tracks : service.Tracks monitors ledger)
    (stands : ledger.place = .inside past event rest visited (member :: upcoming)) :
    ∃ next, ledger.Step next ∧ (service.perform (.step answer)).Tracks monitors next := by
  obtain ⟨base, isBase, follows⟩ := tracks.follows
  have sameMultiplexer : service.publication.cluster.multiplexer = (run ledger.trace).2 :=
    follows.multiplexer_eq
  cases reportsLater : member.isAsynchronous with
  | false =>
    have performs : service.publication.register event member =
        { service.publication with isTracked := false } := by
      simp [Publication.register, reportsLater]
    exact ⟨_, .approach stands reportsLater,
      tracks.approach answer stands performs ⟨base, isBase, follows⟩ rfl rfl fun _ => rfl⟩
  | true =>
    cases expected : (run ledger.trace).2.expect event.id with
    | ok next =>
      have performs : service.publication.register event member =
          { service.publication with
            cluster := { service.publication.cluster with multiplexer := next }
            isTracked := true } := by
        simp [Publication.register, reportsLater, sameMultiplexer, expected]
      have followsNext := follows.expect (sameMultiplexer ▸ expected)
      refine ⟨_, .expect stands reportsLater expected, tracks.approach answer stands performs
        ⟨base, isBase, followsNext⟩ rfl rfl fun direct => ?_⟩
      rw [reportsLater] at direct
      exact Bool.noConfusion direct
    | error error =>
      have performs : service.publication.register event member =
          { service.publication with isTracked := false } := by
        simp [Publication.register, reportsLater, sameMultiplexer, expected]
      exact ⟨_, .miss stands reportsLater expected,
        tracks.approach answer stands performs ⟨base, isBase, follows⟩ rfl rfl fun _ => rfl⟩

theorem Tracks.settle (tracks : service.Tracks monitors ledger)
    (stands : ledger.place = .inside past event rest visited []) :
    ∃ next, ledger.Step next ∧ (service.perform (.step answer)).Tracks monitors next := by
  obtain ⟨base, isBase, follows⟩ := tracks.follows
  have ahead := tracks.ahead
  have fits := tracks.fits
  rw [stands] at ahead fits
  refine ⟨_, .settle stands, ?_⟩
  rw [perform_settle answer ahead]
  exact
    { tracks with
      follows := ⟨base, isBase, tracks.failure ▸ follows.receive _⟩
      ahead := rfl
      fits := fits.settle
      direct := fun _ isFaced => by simp [PublicationPlace.faced] at isFaced }

/-! ### Calls of members -/

theorem perform_invoke (comes : service.ahead = .invoke event member :: ahead) :
    let called := service.publication.invoke event (member.answering answer)
    let call : PublicationStep Payload := .invoke event (member.answering answer)
    service.perform (.step answer) =
      { service with
        publication := called.2
        ahead
        awaited := Execution.awaitedAfter service.awaited call
        journal := service.journal ++ called.1
        handled := service.handled ++ call.ended } := by
  simp [perform, comes, PublicationStep.answering, Publication.perform, PublicationStep.dropped]

theorem Tracks.call (tracks : service.Tracks monitors ledger)
    (stands : ledger.place = .facing past event rest visited member upcoming)
    {occurrences : List (Occurrence Payload)} {next : Publication Payload}
    (calls : service.publication.invoke event (member.answering answer) = (occurrences, next))
    {trace : List (MonitorAction Payload)} (waiting : List (String × Event Payload))
    (follows : ∃ base : Cluster Payload, base.monitors = monitors ∧
      base.Follows trace next.cluster (service.journal ++ occurrences))
    (sameTracked : next.isTracked = service.publication.isTracked)
    (queues : ∀ key, (Ledger.eventsUnder key waiting).Perm (eventsAt next.cluster.workers
      (Execution.awaitedAfter service.awaited (.invoke event (member.answering answer))) key)) :
    (service.perform (.step answer)).Tracks monitors
      { ledger with
        place := .inside past event rest (visited ++ [member]) upcoming
        trace
        failure := next.failure
        waiting
        handled := ledger.handled ++
          (PublicationStep.invoke event (member.answering answer)).ended } := by
  have ahead := tracks.ahead
  have fits := tracks.fits
  rw [stands] at ahead fits
  rw [perform_invoke answer ahead, calls]
  exact
    { tracks with
      follows := follows
      ahead := rfl
      fits := fits.visit
      failure := rfl
      isTracked := sameTracked.trans tracks.isTracked
      direct := fun _ isFaced => by simp [PublicationPlace.faced] at isFaced
      queues := queues
      handled := by rw [tracks.handled] }

theorem invoke_of_granted {publication : Publication Payload}
    (granted : member.handle event = .ok ()) :
    publication.invoke event member =
      ([.invoked member.key event],
        { publication with cluster := publication.cluster.enqueue member event }) := by
  simp [Publication.invoke, granted]

theorem invoke_of_untracked {publication : Publication Payload} {cause : ListenerError}
    (refused : member.handle event = .error cause) (untracked : publication.isTracked = false) :
    publication.invoke event member =
      ([.invoked member.key event],
        { publication with failure := some ⟨member.listenerType, cause⟩ }) := by
  simp [Publication.invoke, refused, untracked]

theorem invoke_of_tracked {publication : Publication Payload} {cause : ListenerError}
    (refused : member.handle event = .error cause) (tracked : publication.isTracked = true) :
    let received := publication.cluster.receive ⟨[event], some ⟨member.listenerType, cause⟩⟩
    publication.invoke event member =
      (.invoked member.key event :: received.1,
        { publication with cluster := received.2 }) := by
  simp [Publication.invoke, refused, tracked]

/-- A call changes what waits only if an event is accepted that is to be reported on. -/
theorem eventsAt_accept {cluster : Cluster Payload} {awaited : String → List (Event Payload)}
    (reportsLater : member.isAsynchronous = true) (granted : member.handle event = .ok ())
    (key : String) :
    (eventsAt cluster.workers awaited key ++ if member.key = key then [event] else []).Perm
      (eventsAt (cluster.enqueue member event).workers
        (Execution.awaitedAfter awaited (.invoke event member)) key) := by
  cases processing : member.processing with
  | direct handle => simp [Listener.isAsynchronous, processing] at reportsLater
  | reported accept =>
    have isReported : member.isReported := by simp [Listener.isReported, processing]
    by_cases own : member.key = key
    · subst own
      simp [eventsAt, Cluster.enqueue, Listener.worker?, processing, Execution.awaitedAfter,
        isReported, granted, Except.isOk, Except.toBool]
    · simp [eventsAt, Cluster.enqueue, Listener.worker?, processing, Execution.awaitedAfter,
        isReported, granted, Except.isOk, Except.toBool, own, Ne.symm own]
  | queued process =>
    have unreported : member.isReported = false := by simp [Listener.isReported, processing]
    by_cases own : member.key = key
    · subst own
      have accepted : ((cluster.enqueue member event).workers.get? member.key).map Worker.queue =
          some (((cluster.workers.get? member.key).map Worker.queue).getD [] ++ [event]) := by
        cases found : cluster.workers.get? member.key <;>
          simp [Cluster.enqueue, Listener.worker?, processing, found, Worker.accept]
      simp only [eventsAt, accepted, Option.getD_some, Execution.awaitedAfter, unreported,
        Bool.false_and, Bool.false_eq_true, ↓reduceIte, List.append_assoc]
      exact (List.perm_append_comm).append_left _
    · simp [eventsAt, Cluster.enqueue, Listener.worker?, processing, Execution.awaitedAfter,
        unreported, own, Ne.symm own]

theorem Tracks.accept (tracks : service.Tracks monitors ledger)
    (stands : ledger.place = .facing past event rest visited member upcoming)
    (reportsLater : member.isAsynchronous = true)
    (granted : (member.answering answer).handle event = .ok ()) :
    ∃ next, ledger.Step next ∧ (service.perform (.step answer)).Tracks monitors next := by
  obtain ⟨base, isBase, follows⟩ := tracks.follows
  refine ⟨_, .accept stands reportsLater, ?_⟩
  have accepted := tracks.call answer stands (invoke_of_granted granted)
    (ledger.waiting ++ [(member.key, event)])
    ⟨base, isBase, by rw [Cluster.enqueue_eq]; exact follows.unheard _ rfl⟩ rfl ?_
  · simpa [PublicationStep.ended, granted, reportsLater, tracks.failure] using accepted
  · intro key
    rw [Ledger.eventsUnder_append, Ledger.eventsUnder_singleton]
    exact ((tracks.queues key).append_right _).trans
      (eventsAt_accept ((Listener.isAsynchronous_answering answer member).trans reportsLater)
        granted key)

/-- A call that is not accepted for later leaves everything that waits alone. -/
theorem awaitedAfter_of_unaccepted {awaited : String → List (Event Payload)}
    (unaccepted : member.isAsynchronous = true → ∃ cause,
      member.handle event = .error cause) :
    Execution.awaitedAfter awaited (.invoke event member) = awaited := by
  cases reportsLater : member.isAsynchronous with
  | false =>
    exact Execution.awaitedAfter_of_unreported (Listener.isReported_of_direct reportsLater)
  | true =>
    obtain ⟨cause, refused⟩ := unaccepted reportsLater
    exact Execution.awaitedAfter_of_refused refused

theorem Tracks.queues_of_unaccepted (tracks : service.Tracks monitors ledger)
    {cluster : Cluster Payload} (sameWorkers : cluster.workers = service.cluster.workers)
    (unaccepted : member.isAsynchronous = true → ∃ cause,
      member.handle event = .error cause) (key : String) :
    (Ledger.eventsUnder key ledger.waiting).Perm (eventsAt cluster.workers
      (Execution.awaitedAfter service.awaited (.invoke event member)) key) := by
  rw [awaitedAfter_of_unaccepted unaccepted, sameWorkers]
  exact tracks.queues key

theorem Tracks.callDirect (tracks : service.Tracks monitors ledger)
    (stands : ledger.place = .facing past event rest visited member upcoming)
    (direct : member.isAsynchronous = false) :
    ∃ next, ledger.Step next ∧ (service.perform (.step answer)).Tracks monitors next := by
  obtain ⟨base, isBase, follows⟩ := tracks.follows
  have isDirect := (Listener.isAsynchronous_answering answer member).trans direct
  have answers : (member.answering answer).handle event = answer := by
    cases processing : member.processing <;>
      simp_all [Listener.isAsynchronous, Listener.answering, Listener.handle]
  have untracked : service.publication.isTracked = false :=
    tracks.isTracked.trans (tracks.direct member (by rw [stands]; rfl) direct)
  have silent : base.Follows ledger.trace service.cluster
      (service.journal ++ [.invoked member.key event]) :=
    follows.unheard service.cluster.workers rfl
  refine ⟨_, .answer stands direct (member.failureOf answer), ?_⟩
  cases answer with
  | ok _ =>
    have noWorker : service.publication.cluster.enqueue (member.answering (.ok ())) event =
        service.publication.cluster := by
      rw [Cluster.enqueue, Listener.worker?_of_direct isDirect]
    have calls : service.publication.invoke event _ = _ := invoke_of_granted answers
    rw [noWorker] at calls
    have called := tracks.call _ stands calls ledger.waiting ⟨base, isBase, silent⟩ rfl
      (tracks.queues_of_unaccepted rfl (by simp [direct]))
    simpa [PublicationStep.ended, answers, direct, tracks.failure, Listener.failureOf]
      using called
  | error cause =>
    have called := tracks.call _ stands (invoke_of_untracked answers untracked) ledger.waiting
      ⟨base, isBase, silent⟩ rfl (tracks.queues_of_unaccepted rfl (by simp [direct]))
    simpa [PublicationStep.ended, answers, Listener.failureOf] using called

theorem Tracks.refuse (tracks : service.Tracks monitors ledger)
    (stands : ledger.place = .facing past event rest visited member upcoming)
    (reportsLater : member.isAsynchronous = true) {cause : ListenerError}
    (refused : (member.answering answer).handle event = .error cause) :
    ∃ next, ledger.Step next ∧ (service.perform (.step answer)).Tracks monitors next := by
  obtain ⟨base, isBase, follows⟩ := tracks.follows
  have silent : base.Follows ledger.trace service.cluster
      (service.journal ++ [.invoked member.key event]) :=
    follows.unheard service.cluster.workers rfl
  have unaccepted (_ : (member.answering answer).isAsynchronous = true) : ∃ cause,
      (member.answering answer).handle event = .error cause := ⟨cause, refused⟩
  cases tracked : service.publication.isTracked with
  | true =>
    refine ⟨_, .refuse stands reportsLater (tracks.isTracked.symm.trans tracked)
      ⟨member.listenerType, cause⟩, ?_⟩
    have heard := silent.receive ⟨[event], some ⟨member.listenerType, cause⟩⟩
    rw [List.append_assoc] at heard
    have called := tracks.call answer stands (invoke_of_tracked refused tracked) ledger.waiting
      ⟨base, isBase, heard⟩ rfl (tracks.queues_of_unaccepted rfl unaccepted)
    simpa [PublicationStep.ended, refused, tracks.failure] using called
  | false =>
    refine ⟨_, .refuseUntracked stands reportsLater (tracks.isTracked.symm.trans tracked)
      ⟨member.listenerType, cause⟩, ?_⟩
    have called := tracks.call answer stands (invoke_of_untracked refused tracked) ledger.waiting
      ⟨base, isBase, silent⟩ rfl (tracks.queues_of_unaccepted rfl unaccepted)
    simpa [PublicationStep.ended, refused] using called

/-- Every step of the publisher is a step of the ledger. -/
theorem Tracks.step (tracks : service.Tracks monitors ledger) :
    ∃ next, ledger.Step next ∧ (service.perform (.step answer)).Tracks monitors next := by
  cases stands : ledger.place with
  | between past rest =>
    cases rest with
    | nil =>
      have atEnd : service.ahead = [] := by rw [tracks.ahead, stands]; rfl
      refine ⟨ledger, .stay, ?_⟩
      simp only [perform, atEnd]
      exact tracks
    | cons event rest => exact tracks.prepare answer stands
  | inside past event rest visited upcoming =>
    cases upcoming with
    | nil => exact tracks.settle answer stands
    | cons member upcoming => exact tracks.register answer stands
  | facing past event rest visited member upcoming =>
    cases reportsLater : member.isAsynchronous with
    | false => exact tracks.callDirect answer stands reportsLater
    | true =>
      cases answers : (member.answering answer).handle event with
      | ok _ => exact tracks.accept answer stands reportsLater answers
      | error cause => exact tracks.refuse answer stands reportsLater answers

end Steps

/-! ### Events that have waited -/

variable {key : String} {event : Event Payload} {rest : List (Event Payload)}

/-- A report on an event that waits is heard, or it is not. -/
theorem Tracks.finish (tracks : service.Tracks monitors ledger)
    {earlier later : List (String × Event Payload)}
    (split : ledger.waiting = earlier ++ (key, event) :: later)
    (failure : Option ProcessingFailure) (workers : Table String (Worker Payload))
    (awaited : String → List (Event Payload)) (silent : List (Occurrence Payload))
    (unsaid : silent.filterMap Occurrence.delivery? = [])
    (queues : ∀ other, (Ledger.eventsUnder other (earlier ++ later)).Perm
      (eventsAt workers awaited other)) :
    let reported := ({ service.cluster with workers } : Cluster Payload).report key
      ⟨[event], failure⟩
    ∃ next, ledger.Step next ∧ next.waiting = earlier ++ later ∧
      Tracks monitors
        { service.finish key event failure (silent ++ reported.1, reported.2) with awaited }
        next := by
  obtain ⟨base, isBase, follows⟩ := tracks.follows
  have told := follows.unheard workers unsaid
  by_cases watched : service.cluster.watched.contains key = true
  · have heard := told.receive ⟨[event], failure⟩
    rw [List.append_assoc] at heard
    have reports : ({ service.cluster with workers } : Cluster Payload).report key
        ⟨[event], failure⟩ = ({ service.cluster with workers } : Cluster Payload).receive
          ⟨[event], failure⟩ := if_pos watched
    refine ⟨_, .hear split failure, rfl, ?_⟩
    simp only [reports, Service.finish, watched, ↓reduceIte]
    exact
      { tracks with
        follows := ⟨base, isBase, heard⟩
        queues := queues
        handled := by rw [tracks.handled] }
  · have reports : ({ service.cluster with workers } : Cluster Payload).report key
        ⟨[event], failure⟩ = ([], { service.cluster with workers }) := if_neg watched
    refine ⟨_, .overhear split failure, rfl, ?_⟩
    simp only [reports, Service.finish, watched, List.append_nil]
    exact
      { tracks with
        follows := ⟨base, isBase, told⟩
        queues := queues
        handled := by rw [tracks.handled]
        unheard := by rw [tracks.unheard]; rfl }

/-- The report of a worker that answers in a given way. -/
def reportOf (worker : Worker Payload) : Except ListenerError Unit → Option ProcessingFailure
  | .ok () => none
  | .error cause => some ⟨worker.listenerType, cause⟩

theorem perform_work {worker : Worker Payload} (answer : Except ListenerError Unit)
    (found : service.cluster.workers.get? key = some worker)
    (first : worker.queue = event :: rest) :
    let left : Worker Payload := { worker with process := fun _ => answer, queue := rest }
    let workers := (service.cluster.workers.put key { worker with process := fun _ => answer }).put
      key left
    let reported := ({ service.cluster with workers } : Cluster Payload).report key
      ⟨[event], reportOf worker answer⟩
    service.perform (.work key answer) =
      service.finish key event (reportOf worker answer)
        ([.processed key event] ++ reported.1, reported.2) := by
  obtain ⟨listenerType, process, queue⟩ := worker
  obtain rfl : queue = event :: rest := first
  cases answer with
  | ok _ =>
    simp [perform, Cluster.answering, found, Worker.step?, Worker.outcome, reportOf, Cluster.work]
  | error cause =>
    simp [perform, Cluster.answering, found, Worker.step?, Worker.outcome, reportOf, Cluster.work]

theorem Tracks.work (tracks : service.Tracks monitors ledger) {worker : Worker Payload}
    (answer : Except ListenerError Unit)
    (found : service.cluster.workers.get? key = some worker)
    (first : worker.queue = event :: rest) :
    ∃ next, ledger.Step next ∧ next.waiting.length + 1 = ledger.waiting.length ∧
      (service.perform (.work key answer)).Tracks monitors next := by
  have waits : (service.queueAt key).Perm (event :: (rest ++ service.awaited key)) := by
    simp [queueAt, eventsAt, found, first]
  obtain ⟨earlier, later, split, queues⟩ := Ledger.exists_split tracks.queues waits
  have remain (other : String) : (Ledger.eventsUnder other (earlier ++ later)).Perm
      (eventsAt ((service.cluster.workers.put key { worker with process := fun _ => answer }).put
        key { worker with process := fun _ => answer, queue := rest }) service.awaited other) := by
    refine (queues other).trans ?_
    by_cases own : other = key
    · subst own
      simp [eventsAt]
    · simp [eventsAt, queueAt, own]
  obtain ⟨next, steps, isNext, tracked⟩ := tracks.finish split (reportOf worker answer) _
    service.awaited [.processed key event] rfl remain
  rw [perform_work answer found first]
  refine ⟨next, steps, ?_, tracked⟩
  rw [isNext, split]
  simp only [List.length_append, List.length_cons]
  omega

theorem Tracks.report (tracks : service.Tracks monitors ledger)
    (failure : Option ProcessingFailure) (first : service.awaited key = event :: rest) :
    ∃ next, ledger.Step next ∧ next.waiting.length + 1 = ledger.waiting.length ∧
      (service.perform (.report key failure)).Tracks monitors next := by
  have waits : (service.queueAt key).Perm
      (event :: (((service.cluster.workers.get? key).map Worker.queue).getD [] ++ rest)) := by
    rw [queueAt, eventsAt, first]
    exact List.perm_middle
  obtain ⟨earlier, later, split, queues⟩ := Ledger.exists_split tracks.queues waits
  have remain (other : String) : (Ledger.eventsUnder other (earlier ++ later)).Perm
      (eventsAt service.cluster.workers (Function.update service.awaited key rest) other) := by
    refine (queues other).trans ?_
    by_cases own : other = key
    · subst own
      simp [eventsAt]
    · simp [eventsAt, queueAt, own]
  obtain ⟨next, steps, isNext, tracked⟩ := tracks.finish split failure service.cluster.workers
    (Function.update service.awaited key rest) [] rfl remain
  refine ⟨next, steps, ?_, ?_⟩
  · rw [isNext, split]
    simp only [List.length_append, List.length_cons]
    omega
  · simpa [perform, first] using tracked

/-! ## Whole runs -/

/-- Every action is a step of the ledger. -/
theorem Tracks.perform (tracks : service.Tracks monitors ledger) (action : ServiceAction Payload) :
    ∃ next, ledger.Step next ∧ (service.perform action).Tracks monitors next := by
  cases action with
  | subscribe listener => exact ⟨ledger, .stay, tracks.subscribe listener⟩
  | unsubscribe key => exact ⟨ledger, .stay, tracks.unsubscribe key⟩
  | publish events => exact tracks.publish events
  | step answer => exact tracks.step answer
  | work key answer =>
    cases found : service.cluster.workers.get? key with
    | none =>
      refine ⟨ledger, .stay, ?_⟩
      simpa [Service.perform, Cluster.answering, found] using tracks
    | some worker =>
      cases first : worker.queue with
      | nil =>
        refine ⟨ledger, .stay, ?_⟩
        simpa [Service.perform, Cluster.answering, found, Worker.step?, first] using tracks
      | cons event rest =>
        obtain ⟨next, steps, -, tracked⟩ := tracks.work answer found first
        exact ⟨next, steps, tracked⟩
  | report key failure =>
    cases first : service.awaited key with
    | nil =>
      refine ⟨ledger, .stay, ?_⟩
      simpa [Service.perform, first] using tracks
    | cons event rest =>
      obtain ⟨next, steps, -, tracked⟩ := tracks.report failure first
      exact ⟨next, steps, tracked⟩

/-- What every step of a ledger keeps holds of a ledger of the service after any run. -/
theorem Tracks.performAll {Kept : Ledger Payload → Prop}
    (keeps : ∀ ledger next, Kept ledger → ledger.Step next → Kept next)
    (tracks : service.Tracks monitors ledger) (kept : Kept ledger)
    (actions : List (ServiceAction Payload)) :
    ∃ ended, Kept ended ∧ (service.performAll actions).Tracks monitors ended := by
  induction actions generalizing service ledger with
  | nil => exact ⟨ledger, kept, tracks⟩
  | cons action rest ih =>
    obtain ⟨next, steps, tracked⟩ := tracks.perform action
    exact ih tracked (keeps ledger next kept steps)

/-! ## Services at rest -/

theorem Tracks.of_isIdle (tracks : service.Tracks monitors ledger) (idle : service.IsIdle) :
    ledger.place = .between service.published [] ∧ ledger.waiting = [] := by
  refine ⟨tracks.fits.eq_of_ahead_eq_nil (tracks.ahead.symm.trans idle.1), ?_⟩
  cases waits : ledger.waiting with
  | nil => rfl
  | cons entry rest =>
    have own := (tracks.queues entry.1).length_eq
    rw [idle.2, waits] at own
    simp [Ledger.eventsUnder] at own

theorem Tracks.exists_drained (tracks : service.Tracks monitors ledger)
    (atEnd : service.ahead = []) :
    ∃ actions : List (ServiceAction Payload), (∀ action ∈ actions, action.KeepsMembers) ∧
      (service.performAll actions).IsIdle ∧
      (service.performAll actions).published = service.published := by
  induction count : ledger.waiting.length generalizing service ledger with
  | zero =>
    refine ⟨[], List.forall_mem_nil _, ⟨atEnd, fun key => ?_⟩, rfl⟩
    have nothing := tracks.queues key
    rw [List.eq_nil_of_length_eq_zero count] at nothing
    exact nothing.symm.eq_nil
  | succ left ih =>
    obtain ⟨⟨key, event⟩, others, waits⟩ := List.exists_cons_of_length_eq_add_one count
    -- An event waits in the queue of a worker, or it waits for a report.
    have own := (tracks.queues key).length_eq
    rw [waits, queueAt, eventsAt, List.length_append] at own
    cases awaits : service.awaited key with
    | cons first rest =>
      obtain ⟨next, -, fewer, tracked⟩ := tracks.report none awaits
      have comes : (service.perform (.report key none)).ahead = [] := by
        simpa [Service.perform, awaits, Service.finish, withCluster] using atEnd
      have samePublished : (service.perform (.report key none)).published =
          service.published := by
        simp [Service.perform, awaits, Service.finish, withCluster]
      obtain ⟨actions, keep, idle, published⟩ := ih tracked comes (by omega)
      exact ⟨.report key none :: actions, List.forall_mem_cons.mpr ⟨trivial, keep⟩, idle,
        published.trans samePublished⟩
    | nil =>
      cases found : service.cluster.workers.get? key with
      | none => simp [found, awaits, Ledger.eventsUnder] at own
      | some worker =>
        cases first : worker.queue with
        | nil => simp [found, first, awaits, Ledger.eventsUnder] at own
        | cons event rest =>
          obtain ⟨next, -, fewer, tracked⟩ := tracks.work (.ok ()) found first
          have performs := perform_work (.ok ()) found first
          have comes : (service.perform (.work key (.ok ()))).ahead = [] := by
            rw [performs]
            exact atEnd
          have samePublished : (service.perform (.work key (.ok ()))).published =
              service.published := by
            rw [performs]
            rfl
          obtain ⟨actions, keep, idle, published⟩ := ih tracked comes (by omega)
          exact ⟨.work key (.ok ()) :: actions, List.forall_mem_cons.mpr ⟨trivial, keep⟩, idle,
            published.trans samePublished⟩

theorem Tracks.exists_idle (tracks : service.Tracks monitors ledger) :
    ∃ actions : List (ServiceAction Payload), (∀ action ∈ actions, action.KeepsMembers) ∧
      (service.performAll actions).IsIdle ∧
      (service.performAll actions).published = service.published := by
  induction comes : service.ahead generalizing service ledger with
  | nil => exact tracks.exists_drained comes
  | cons step ahead ih =>
    obtain ⟨next, -, tracked⟩ := tracks.perform (.step (.ok ()))
    have comesNext : (service.perform (.step (.ok ()))).ahead = ahead := by
      simp only [Service.perform, comes]
    have samePublished : (service.perform (.step (.ok ()))).published = service.published := by
      simp only [Service.perform, comes]
    obtain ⟨actions, keep, idle, published⟩ := ih tracked comesNext
    exact ⟨.step (.ok ()) :: actions, List.forall_mem_cons.mpr ⟨trivial, keep⟩, idle,
      published.trans samePublished⟩

end Service

end EventSourcing
