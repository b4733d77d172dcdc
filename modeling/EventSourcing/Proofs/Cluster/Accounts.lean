import EventSourcing.Proofs.Cluster.Places

/-!
# Accounts of a publication

What the publisher owes and the invocations that wait for a member are together all that
the multiplexer waits for (`Execution.Accounted`).  Every step of the publisher and every
action of a member keeps it that way, so it is the same in whatever order they come
(`Execution.IsAccounted.performAll`).
-/

namespace EventSourcing

variable {Payload : Type}

open Multiplexer

namespace Execution

variable (cluster : Cluster Payload) (events : List (Event Payload))
  (reports : String → Event Payload → Option ProcessingFailure)

/-- The acknowledgements of invocations and of events that the publisher is done with. -/
def acknowledgedBy (answered : List (Invocation Payload)) (past : List (Event Payload)) :
    List (EventOutcome Payload) :=
  (answered.map fun invocation => (invocation.2, invocation.1.outcome reports invocation.2)) ++
    past.map fun event => (event, Listener.directFailure cluster.members event)

/-- What is known of an execution.  Every call of an asynchronous member has been answered
or waits, and the multiplexer waits for just these and for what the publisher owes. -/
structure Accounted (state : Execution Payload) (place : PublicationPlace Payload)
    (trace : List (MonitorAction Payload)) (answered waiting : List (Invocation Payload)) :
    Prop where
  follows : cluster.Follows trace state.publication.cluster state.journal
  attend : Listener.Attend cluster.members state.publication.cluster.workers state.awaited waiting
  ahead : state.ahead = place.ahead cluster.members
  fits : place.Fits cluster.members events
  agrees : place.Agrees state.publication
  calls : state.journal.filterMap Occurrence.call? =
    (place.calls cluster.members).map Invocation.call
  invoked : ((place.calls cluster.members).filter fun invocation =>
    invocation.1.isAsynchronous).Perm (answered ++ waiting)
  worked : ∀ invocation ∈ answered, invocation.1.isQueued →
    .processed invocation.1.key invocation.2 ∈ state.journal
  balanced : Balanced trace place.prepared (acknowledgedBy cluster reports answered place.past)
    (place.owed ++ waiting.map Prod.snd)

/-- An execution with an account, at some place of the publisher. -/
def IsAccounted (state : Execution Payload) : Prop :=
  ∃ place trace answered waiting,
    Accounted cluster events reports state place trace answered waiting

variable {cluster events reports}
variable {state : Execution Payload} {trace : List (MonitorAction Payload)}
  {answered waiting : List (Invocation Payload)} {event : Event Payload}
  {past rest : List (Event Payload)} {visited upcoming : List (Listener Payload)}
  {member : Listener Payload} {place : PublicationPlace Payload}

theorem accounted_start (fresh : cluster.Fresh) :
    Accounted cluster events reports (start cluster events) (.between [] events) [] [] [] where
  follows :=
    { same := by
        have unchanged : (run ([] : List (MonitorAction Payload))).2 = cluster.multiplexer :=
          fresh.multiplexer.symm
        rw [unchanged]
        rfl
      told := rfl }
  attend := by
    simp only [start, fresh.workers]
    exact Listener.Attend.start cluster.members
  ahead := rfl
  fits := rfl
  agrees := trivial
  calls := rfl
  invoked := List.Perm.nil
  worked _ isAnswered := nomatch isAnswered
  balanced := Balanced.nil

theorem Accounted.worked_append (accounted : Accounted cluster events reports state place trace
      answered waiting) (occurrences : List (Occurrence Payload)) :
    ∀ invocation ∈ answered, invocation.1.isQueued →
      .processed invocation.1.key invocation.2 ∈ state.journal ++ occurrences := by
  intro invocation isAnswered isQueued
  exact List.mem_append_left _ (accounted.worked invocation isAnswered isQueued)

/-! ## Steps of the publisher -/

/-- What monitors are told is no call. -/
theorem calls_received (current : Cluster Payload) (notification : Notification Payload)
    (journal : List (Occurrence Payload)) :
    (journal ++ (current.receive notification).1).filterMap Occurrence.call? =
      journal.filterMap Occurrence.call? := by
  simp [Cluster.receive, List.filterMap_map, Function.comp_def, Occurrence.call?]

theorem calls_invoked {calls : List (Invocation Payload)} {journal : List (Occurrence Payload)}
    (before : journal.filterMap Occurrence.call? =
      calls.map Invocation.call) (member : Listener Payload) (event : Event Payload) :
    (journal ++ [Occurrence.invoked member.key event]).filterMap Occurrence.call? =
      (calls ++ [(member, event)]).map Invocation.call := by
  simp [before, Occurrence.call?, Invocation.call]

theorem awaitedAfter_of_unreported {awaited : String → List (Event Payload)}
    (unreported : member.isReported = false) :
    awaitedAfter awaited (.invoke event member) = awaited := by
  simp [awaitedAfter, unreported]

theorem awaitedAfter_of_refused {awaited : String → List (Event Payload)} {cause : ListenerError}
    (refused : member.handle event = .error cause) :
    awaitedAfter awaited (.invoke event member) = awaited := by
  simp [awaitedAfter, refused, Except.isOk, Except.toBool]

theorem Accounted.prepare (accounted : Accounted cluster events reports state
      (.between past (event :: rest)) trace answered waiting)
    (distinct : (events.map Event.id).Nodup) :
    Accounted cluster events reports (state.perform reports .publish)
      (.inside past event rest [] cluster.members) (trace ++ [.prepare event.id])
      answered waiting := by
  have comes := accounted.ahead.trans (PublicationPlace.ahead_between_cons past event rest)
  have fits : past ++ event :: rest = events := accounted.fits
  have new : event.id ∉ past.map Event.id := by
    rw [← fits, List.map_append, List.nodup_append] at distinct
    intro isPast
    exact distinct.2.2 _ isPast _ (List.mem_map_of_mem List.mem_cons_self) rfl
  rw [perform_publish comes rfl, List.append_nil]
  constructor
  case follows => exact accounted.follows.prepare event.id
  case attend => exact accounted.attend
  case ahead => rfl
  case fits => exact ⟨fits, rfl⟩
  case agrees => rfl
  case calls =>
    simp only [PublicationPlace.calls, List.map_nil, List.append_nil]
    exact accounted.calls
  case invoked =>
    simp only [PublicationPlace.calls, List.map_nil, List.append_nil]
    exact accounted.invoked
  case worked => exact accounted.worked
  case balanced => exact accounted.balanced.prepare new

theorem Accounted.register (accounted : Accounted cluster events reports state
      (.inside past event rest visited (member :: upcoming)) trace answered waiting) :
    ∃ nextTrace, Accounted cluster events reports (state.perform reports .publish)
      (.facing past event rest visited member upcoming) nextTrace answered waiting := by
  have comes := accounted.ahead.trans
    (PublicationPlace.ahead_inside_cons past event rest visited member upcoming)
  have balanced := accounted.balanced
  cases reportsLater : member.isAsynchronous with
  | false =>
    have performs : state.publication.perform (.register event member) =
        ([], { state.publication with isTracked := false }) := by
      simp [Publication.perform, Publication.register, reportsLater]
    rw [perform_publish comes performs, List.append_nil]
    refine ⟨trace, ?_⟩
    constructor
    case follows => exact accounted.follows
    case attend => exact accounted.attend
    case ahead => rfl
    case fits => exact accounted.fits
    case agrees => exact ⟨accounted.agrees, reportsLater.symm⟩
    case calls => exact accounted.calls
    case invoked => exact accounted.invoked
    case worked => exact accounted.worked
    case balanced =>
      rw [PublicationPlace.owed_facing_direct reportsLater]
      exact balanced
  | true =>
    have isOwed : event ∈ [event] ++ waiting.map Prod.snd := List.mem_cons_self
    obtain ⟨multiplexer, granted⟩ := balanced.expect_granted isOwed
    rw [← accounted.follows.multiplexer_eq] at granted
    have performs : state.publication.perform (.register event member) =
        ([], { state.publication with
          cluster := { state.publication.cluster with multiplexer }
          isTracked := true }) := by
      simp only [Publication.perform, Publication.register, reportsLater, ↓reduceIte, granted]
    rw [perform_publish comes performs, List.append_nil]
    refine ⟨trace ++ [.expect event.id], ?_⟩
    constructor
    case follows => exact accounted.follows.expect granted
    case attend => exact accounted.attend
    case ahead => rfl
    case fits => exact accounted.fits
    case agrees => exact ⟨accounted.agrees, reportsLater.symm⟩
    case calls => exact accounted.calls
    case invoked => exact accounted.invoked
    case worked => exact accounted.worked
    case balanced =>
      rw [PublicationPlace.owed_facing_asynchronous reportsLater]
      exact balanced.expect isOwed

/-- Invocations of direct members are no matter of the multiplexer. -/
theorem Accounted.invoke_direct (accounted : Accounted cluster events reports state
      (.facing past event rest visited member upcoming) trace answered waiting)
    (direct : member.isAsynchronous = false) :
    Accounted cluster events reports (state.perform reports .publish)
      (.inside past event rest (visited ++ [member]) upcoming) trace answered waiting := by
  obtain ⟨failure_eq, tracked_eq⟩ := accounted.agrees
  have untracked : state.publication.isTracked = false := tracked_eq.trans direct
  have performs : state.publication.perform (.invoke event member) =
      ([.invoked member.key event], { state.publication with
        failure := (member.failureOf (member.handle event)).or state.publication.failure }) := by
    have noWorker : state.publication.cluster.enqueue member event = state.publication.cluster := by
      simp only [Cluster.enqueue, Listener.worker?_of_direct direct]
    cases answer : member.handle event with
    | ok done =>
      simp only [Publication.perform, Publication.invoke, answer, noWorker, Listener.failureOf,
        Option.none_or]
    | error cause =>
      simp only [Publication.perform, Publication.invoke, answer, untracked, Listener.failureOf,
        Option.some_or, Bool.false_eq_true, ↓reduceIte]
  rw [perform_publish accounted.ahead performs,
    awaitedAfter_of_unreported (Listener.isReported_of_direct direct)]
  constructor
  case follows => exact accounted.follows.unheard _ rfl
  case attend => exact accounted.attend
  case ahead => rfl
  case fits => exact accounted.fits.visit
  case agrees =>
    simp only [PublicationPlace.Agrees, Listener.directFailure_concat, direct, failure_eq,
      Bool.false_eq_true, ↓reduceIte]
  case calls => rw [calls_invoked accounted.calls, PublicationPlace.calls_visited]
  case invoked =>
    rw [PublicationPlace.calls_visited, List.filter_append]
    simpa [direct] using accounted.invoked
  case worked => exact accounted.worked_append _
  case balanced =>
    have balanced := accounted.balanced
    rw [PublicationPlace.owed_facing_direct direct] at balanced
    exact balanced

/-- An event that an asynchronous member accepts waits for the member. -/
theorem Accounted.invoke_accepted (accounted : Accounted cluster events reports state
      (.facing past event rest visited member upcoming) trace answered waiting)
    (fresh : cluster.Fresh) (reportsLater : member.isAsynchronous = true)
    (granted : member.handle event = .ok ()) :
    Accounted cluster events reports (state.perform reports .publish)
      (.inside past event rest (visited ++ [member]) upcoming) trace answered
      (waiting ++ [(member, event)]) := by
  obtain ⟨failure_eq, -⟩ := accounted.agrees
  have performs : state.publication.perform (.invoke event member) =
      ([.invoked member.key event], { state.publication with
        cluster := state.publication.cluster.enqueue member event }) := by
    simp only [Publication.perform, Publication.invoke, granted]
  have isMember := accounted.fits.mem_members
  have attend := accounted.attend.accept fresh.distinct isMember reportsLater granted
  rw [perform_publish accounted.ahead performs]
  constructor
  case follows =>
    rw [Cluster.enqueue_eq]
    exact accounted.follows.unheard _ rfl
  case attend => exact attend
  case ahead => rfl
  case fits => exact accounted.fits.visit
  case agrees =>
    simp only [PublicationPlace.Agrees, Listener.directFailure_concat, reportsLater, failure_eq,
      ↓reduceIte, Option.none_or]
  case calls => rw [calls_invoked accounted.calls, PublicationPlace.calls_visited]
  case invoked =>
    rw [PublicationPlace.calls_visited, List.filter_append, ← List.append_assoc]
    simpa [reportsLater] using accounted.invoked.append_right [(member, event)]
  case worked => exact accounted.worked_append _
  case balanced =>
    have balanced := accounted.balanced
    rw [PublicationPlace.owed_facing_asynchronous reportsLater] at balanced
    refine balanced.perm (List.Perm.refl _) ?_
    simp only [List.map_append]
    exact (List.perm_append_singleton event (event :: waiting.map Prod.snd)).symm

/-- The publisher answers an invocation that is refused. -/
theorem Accounted.invoke_refused (accounted : Accounted cluster events reports state
      (.facing past event rest visited member upcoming) trace answered waiting)
    (reportsLater : member.isAsynchronous = true) {cause : ListenerError}
    (refused : member.handle event = .error cause) :
    ∃ nextTrace, Accounted cluster events reports (state.perform reports .publish)
      (.inside past event rest (visited ++ [member]) upcoming) nextTrace
      ((member, event) :: answered) waiting := by
  obtain ⟨failure_eq, tracked_eq⟩ := accounted.agrees
  have tracked : state.publication.isTracked = true := tracked_eq.trans reportsLater
  have outcome_eq := Listener.outcome_of_refused reports refused
  let refusal : Notification Payload := ⟨[event], member.outcome reports event⟩
  have performs : state.publication.perform (.invoke event member) =
      (.invoked member.key event :: (state.publication.cluster.receive refusal).1,
        { state.publication with
          cluster := (state.publication.cluster.receive refusal).2 }) := by
    simp only [Publication.perform, Publication.invoke, refused, tracked, ↓reduceIte, refusal,
      outcome_eq]
  -- The call and what the refusal settles come into the journal in one step.
  rw [perform_publish accounted.ahead performs, awaitedAfter_of_refused refused,
    List.append_cons state.journal]
  refine ⟨trace ++ [.receive refusal], ?_⟩
  constructor
  case follows => exact (accounted.follows.unheard _ rfl).receive refusal
  case attend => exact accounted.attend
  case ahead => rfl
  case fits => exact accounted.fits.visit
  case agrees =>
    simp only [PublicationPlace.Agrees, Listener.directFailure_concat, reportsLater, failure_eq,
      ↓reduceIte, Option.none_or]
  case calls =>
    rw [calls_received, calls_invoked accounted.calls, PublicationPlace.calls_visited]
  case invoked =>
    rw [PublicationPlace.calls_visited, List.filter_append]
    simp only [reportsLater, List.filter_cons_of_pos, List.filter_nil]
    exact (List.perm_append_singleton _ _).trans (accounted.invoked.cons _)
  case worked =>
    intro invocation isAnswered isQueued
    rcases List.mem_cons.mp isAnswered with rfl | old
    · exact absurd isQueued (Listener.not_isQueued_of_refused refused)
    · rw [List.append_assoc]
      exact accounted.worked_append _ invocation old isQueued
  case balanced =>
    have balanced := accounted.balanced
    rw [PublicationPlace.owed_facing_asynchronous reportsLater] at balanced
    exact balanced.receive (member.outcome reports event)

/-- With its own acknowledgement the publisher is done with an event. -/
theorem Accounted.settle (accounted : Accounted cluster events reports state
      (.inside past event rest visited []) trace answered waiting) :
    Accounted cluster events reports (state.perform reports .publish)
      (.between (past ++ [event]) rest)
      (trace ++ [.receive ⟨[event], state.publication.failure⟩]) answered waiting := by
  have allVisited : visited = cluster.members :=
    (List.append_nil visited).symm.trans accounted.fits.2
  subst allVisited
  have failure_eq : state.publication.failure =
      Listener.directFailure cluster.members event := accounted.agrees
  let settlement : Notification Payload := ⟨[event], state.publication.failure⟩
  have performs : state.publication.perform (.settle event) =
      ((state.publication.cluster.receive settlement).1, { state.publication with
        cluster := (state.publication.cluster.receive settlement).2 }) := rfl
  rw [perform_publish accounted.ahead performs]
  constructor
  case follows => exact accounted.follows.receive settlement
  case attend => exact accounted.attend
  case ahead => rfl
  case fits => exact accounted.fits.settle
  case agrees => trivial
  case calls =>
    rw [calls_received, PublicationPlace.calls_settled]
    exact accounted.calls
  case invoked =>
    rw [PublicationPlace.calls_settled]
    exact accounted.invoked
  case worked => exact accounted.worked_append _
  case balanced =>
    refine (accounted.balanced.receive state.publication.failure).perm ?_ (List.Perm.refl _)
    -- Behind the last member, the failure of the publication is that of all direct members.
    rw [failure_eq, PublicationPlace.past, acknowledgedBy, acknowledgedBy, List.map_append,
      ← List.append_assoc]
    exact (List.perm_append_singleton _ _).symm

theorem Accounted.publish (accounted : Accounted cluster events reports state place trace answered
      waiting) (fresh : cluster.Fresh) (distinct : (events.map Event.id).Nodup) :
    IsAccounted cluster events reports (state.perform reports .publish) := by
  cases place with
  | between past rest =>
    cases rest with
    | nil =>
      have atEnd : state.ahead = [] := accounted.ahead
      have stays : state.perform reports .publish = state := by simp only [perform, atEnd]
      rw [stays]
      exact ⟨_, _, _, _, accounted⟩
    | cons event rest => exact ⟨_, _, _, _, accounted.prepare distinct⟩
  | inside past event rest visited upcoming =>
    cases upcoming with
    | nil => exact ⟨_, _, _, _, accounted.settle⟩
    | cons member upcoming =>
      obtain ⟨nextTrace, next⟩ := accounted.register
      exact ⟨_, _, _, _, next⟩
  | facing past event rest visited member upcoming =>
    cases reportsLater : member.isAsynchronous with
    | false => exact ⟨_, _, _, _, accounted.invoke_direct reportsLater⟩
    | true =>
      cases answer : member.handle event with
      | ok done => exact ⟨_, _, _, _, accounted.invoke_accepted fresh reportsLater answer⟩
      | error cause =>
        obtain ⟨nextTrace, next⟩ := accounted.invoke_refused reportsLater answer
        exact ⟨_, _, _, _, next⟩

/-! ## Actions of the members -/

theorem Accounted.take (accounted : Accounted cluster events reports state place trace answered
      waiting) {earlier later : List (Invocation Payload)}
    (split : waiting = earlier ++ (member, event) :: later)
    {workers : Table String (Worker Payload)} {awaited : String → List (Event Payload)}
    (attend : Listener.Attend cluster.members workers awaited (earlier ++ later))
    {occurrences : List (Occurrence Payload)}
    (silent : occurrences.filterMap Occurrence.delivery? = [])
    (noCall : occurrences.filterMap Occurrence.call? = [])
    (processed : member.isQueued → .processed member.key event ∈ occurrences) :
    let report : Notification Payload := ⟨[event], member.outcome reports event⟩
    let received := { state.publication.cluster with workers }.receive report
    Accounted cluster events reports
      { publication := { state.publication with cluster := received.2 }
        ahead := state.ahead
        awaited
        journal := state.journal ++ occurrences ++ received.1 }
      place (trace ++ [.receive report]) ((member, event) :: answered) (earlier ++ later) := by
  intro report received
  constructor
  case follows => exact (accounted.follows.unheard workers silent).receive report
  case attend => exact attend
  case ahead => exact accounted.ahead
  case fits => exact accounted.fits
  case agrees =>
    -- The publisher's place does not change, whichever it is.
    have agrees := accounted.agrees
    cases place <;> exact agrees
  case calls =>
    rw [calls_received, List.filterMap_append, noCall, List.append_nil]
    exact accounted.calls
  case invoked =>
    have invoked := accounted.invoked
    rw [split, ← List.append_assoc] at invoked
    rw [← List.append_assoc]
    exact invoked.trans List.perm_middle
  case worked =>
    intro invocation isAnswered isQueued
    apply List.mem_append_left
    rcases List.mem_cons.mp isAnswered with rfl | old
    · exact List.mem_append_right _ (processed isQueued)
    · exact accounted.worked_append _ invocation old isQueued
  case balanced =>
    have balanced := accounted.balanced
    refine (balanced.perm (List.Perm.refl _) ?_).receive _
    rw [split, List.map_append, List.map_append, List.map_cons, ← List.append_assoc,
      ← List.append_assoc]
    exact List.perm_middle

theorem Accounted.report_eq_receive (accounted : Accounted cluster events reports state place trace
      answered waiting) (fresh : cluster.Fresh) (isMember : member ∈ cluster.members)
    (reportsLater : member.isAsynchronous = true) (workers : Table String (Worker Payload))
    (notification : Notification Payload) :
    { state.publication.cluster with workers }.report member.key notification =
      { state.publication.cluster with workers }.receive notification := by
  have watched := fresh.watches member isMember reportsLater
  rw [← accounted.follows.watched_eq] at watched
  simp only [Cluster.report, List.contains_iff_mem.mpr watched, ↓reduceIte]

theorem Accounted.work_first (accounted : Accounted cluster events reports state place trace
      answered waiting) (fresh : cluster.Fresh) {key : String} {worker : Worker Payload}
    (found : state.publication.cluster.workers.get? key = some worker)
    (first : worker.queue = event :: rest) :
    ∃ nextTrace invocation earlier later, waiting = earlier ++ invocation :: later ∧
      Accounted cluster events reports (state.perform reports (.work key)) place nextTrace
        (invocation :: answered) (earlier ++ later) := by
  obtain ⟨member, isMember, earlier, later, rfl, reportsLater, split, outcome_eq, attend⟩ :=
    accounted.attend.takeWorker fresh.distinct reports found first
  have steps : (state.publication.cluster.workers.get? member.key).bind Worker.step? =
      some (event, ⟨[event], member.outcome reports event⟩, { worker with queue := rest }) := by
    simp only [found, Option.bind_some, Worker.step?, first, outcome_eq]
  have silent : [Occurrence.processed member.key event].filterMap Occurrence.delivery? = [] := rfl
  have taken := accounted.take split attend silent rfl fun _ => List.mem_singleton_self _
  refine ⟨trace ++ [.receive ⟨[event], member.outcome reports event⟩], (member, event),
    earlier, later, split, ?_⟩
  simp only [perform, Cluster.work, steps, accounted.report_eq_receive fresh isMember reportsLater]
  rw [List.append_cons]
  exact taken

theorem Accounted.report_first (accounted : Accounted cluster events reports state place trace
      answered waiting) (fresh : cluster.Fresh) {key : String}
    (first : state.awaited key = event :: rest) :
    ∃ nextTrace invocation earlier later, waiting = earlier ++ invocation :: later ∧
      Accounted cluster events reports (state.perform reports (.report key)) place nextTrace
        (invocation :: answered) (earlier ++ later) := by
  obtain ⟨member, isMember, earlier, later, rfl, reportsLater, notQueued, split, outcome_eq,
    attend⟩ := accounted.attend.takeAwaited fresh.distinct reports first
  have taken := accounted.take split attend List.filterMap_nil List.filterMap_nil
    fun isQueued => absurd isQueued notQueued
  have received := accounted.report_eq_receive fresh isMember reportsLater
    state.publication.cluster.workers
  refine ⟨trace ++ [.receive ⟨[event], member.outcome reports event⟩], (member, event),
    earlier, later, split, ?_⟩
  simp only [perform, first, outcome_eq, received]
  simpa only [List.append_nil] using taken

/-- Whatever happens next, the execution remains accounted for. -/
theorem Accounted.perform (accounted : Accounted cluster events reports state place trace answered
      waiting) (fresh : cluster.Fresh) (distinct : (events.map Event.id).Nodup)
    (action : PublicationAction) :
    IsAccounted cluster events reports (state.perform reports action) := by
  cases action with
  | publish => exact accounted.publish fresh distinct
  | work key =>
    cases found : state.publication.cluster.workers.get? key with
    | none =>
      have stays : state.perform reports (.work key) = state := by
        simp only [Execution.perform, Cluster.work, found, Option.bind_none, List.append_nil]
      rw [stays]
      exact ⟨_, _, _, _, accounted⟩
    | some worker =>
      cases first : worker.queue with
      | nil =>
        have stays : state.perform reports (.work key) = state := by
          simp only [Execution.perform, Cluster.work, found, Option.bind_some, Worker.step?, first,
            List.append_nil]
        rw [stays]
        exact ⟨_, _, _, _, accounted⟩
      | cons event rest =>
        obtain ⟨nextTrace, _, earlier, later, -, next⟩ := accounted.work_first fresh found first
        exact ⟨_, _, _, _, next⟩
  | report key =>
    cases first : state.awaited key with
    | nil =>
      have stays : state.perform reports (.report key) = state := by
        simp only [Execution.perform, first]
      rw [stays]
      exact ⟨_, _, _, _, accounted⟩
    | cons event rest =>
      obtain ⟨nextTrace, _, earlier, later, -, next⟩ := accounted.report_first fresh first
      exact ⟨_, _, _, _, next⟩

theorem IsAccounted.performAll (isAccounted : IsAccounted cluster events reports state)
    (fresh : cluster.Fresh) (distinct : (events.map Event.id).Nodup)
    (actions : List PublicationAction) :
    IsAccounted cluster events reports (state.performAll reports actions) := by
  induction actions generalizing state with
  | nil => exact isAccounted
  | cons action rest ih =>
    obtain ⟨_, _, _, _, accounted⟩ := isAccounted
    exact ih (accounted.perform fresh distinct action)

end Execution

end EventSourcing
