import EventSourcing.Proofs.Cluster.Accounts

/-!
# Every publication settles

The monitors are told about an event when every member is done with it, and when nothing
waits any more they have been told about every event once, whatever actions the members
have put between the steps of the publisher (`Execution.publication_settles`).
-/

namespace EventSourcing

variable {Payload : Type}

open Multiplexer

namespace Execution

variable {cluster : Cluster Payload} {events : List (Event Payload)}
  {reports : String → Event Payload → Option ProcessingFailure}
  {state : Execution Payload} {trace : List (MonitorAction Payload)}
  {answered waiting : List (Invocation Payload)} {event : Event Payload}
  {member : Listener Payload} {place : PublicationPlace Payload}

/-! ## What an account tells -/

/-- The calls of a whole publication: the members in order for one event after another. -/
theorem map_invocationsOf (cluster : Cluster Payload) (events : List (Event Payload)) :
    (invocationsOf cluster.members events).map Invocation.call =
      events.flatMap fun event => cluster.memberKeys.map fun key => (key, event) := by
  simp only [invocationsOf, Cluster.memberKeys, List.map_flatMap, List.map_map,
    Function.comp_def, Invocation.call]

theorem Accounted.calls_prefix (accounted : Accounted cluster events reports state place trace
      answered waiting) :
    state.calls <+: events.flatMap fun event => cluster.memberKeys.map fun key => (key, event) := by
  rw [Execution.calls, accounted.calls, ← map_invocationsOf]
  exact accounted.fits.calls_prefix.map _

theorem Accounted.calls_eq (accounted : Accounted cluster events reports state place trace
      answered waiting) (atEnd : state.ahead = []) :
    state.calls = events.flatMap fun event => cluster.memberKeys.map fun key => (key, event) := by
  obtain rfl := accounted.fits.eq_of_ahead_eq_nil (accounted.ahead.symm.trans atEnd)
  rw [Execution.calls, accounted.calls, ← map_invocationsOf]
  rfl

theorem eq_of_id_eq (distinct : (events.map Event.id).Nodup) {first second : Event Payload}
    (isFirst : first ∈ events) (isSecond : second ∈ events) (sameId : first.id = second.id) :
    first = second :=
  List.inj_on_of_nodup_map distinct isFirst isSecond sameId

/-- When a monitor is told about an event, every member is done with it. -/
theorem Accounted.isDone_of_told (accounted : Accounted cluster events reports state place trace
      answered waiting) (fresh : cluster.Fresh) (distinct : (events.map Event.id).Nodup)
    {monitor : String} (isSubscribed : monitor ∈ cluster.monitors.monitors)
    (isPublished : event ∈ events) (told : outcomesOf event.id (state.toldTo monitor) ≠ [])
    (isMember : member ∈ cluster.members) : state.IsDone member event := by
  rw [accounted.follows.toldTo_eq fresh.monitors isSubscribed] at told
  obtain ⟨isKnown, settled⟩ := accounted.balanced.isSettled_of_told told
  obtain ⟨other, isPrepared, sameId⟩ := List.mem_map.mp isKnown
  obtain rfl := eq_of_id_eq distinct (accounted.fits.prepared_subset isPrepared) isPublished sameId
  have notOwed : other ∉ place.owed := fun isOwed =>
    settled other (List.mem_append_left _ isOwed) rfl
  have isPast := PublicationPlace.mem_past_of_settled isPrepared notOwed
  have isCall := PublicationPlace.mem_calls_of_past isMember isPast
  have notWaiting (holder : Listener Payload) : (holder, other) ∉ waiting := by
    intro isWaiting
    have isOwed : other ∈ place.owed ++ waiting.map Prod.snd :=
      List.mem_append_right _ (List.mem_map.mpr ⟨_, isWaiting, rfl⟩)
    exact settled other isOwed rfl
  refine ⟨?_, ?_, fun isQueued => ?_⟩
  · rw [Execution.calls, accounted.calls]
    exact List.mem_map.mpr ⟨_, isCall, rfl⟩
  · rw [queueOf, accounted.attend.holds member isMember]
    intro waits
    obtain ⟨holder, isWaiting, -⟩ := Listener.exists_of_mem_eventsAmong waits
    exact notWaiting holder isWaiting
  · have reportsLater := Listener.isAsynchronous_of_isQueued isQueued
    have isInvoked := accounted.invoked.mem_iff.mp (List.mem_filter.mpr ⟨isCall, reportsLater⟩)
    rcases List.mem_append.mp isInvoked with isAnswered | isWaiting
    · exact accounted.worked _ isAnswered isQueued
    · exact absurd isWaiting (notWaiting member)

/-- In a drained execution the publisher is at its end and nothing waits. -/
theorem Accounted.of_isDrained (accounted : Accounted cluster events reports state place trace
      answered waiting) (drained : state.IsDrained) :
    Accounted cluster events reports state (.between events []) trace answered [] := by
  obtain ⟨atEnd, emptied⟩ := drained
  have isEnd := accounted.fits.eq_of_ahead_eq_nil (accounted.ahead.symm.trans atEnd)
  have nothing : waiting = [] := by
    refine List.eq_nil_iff_forall_not_mem.mpr fun ⟨member, event⟩ isWaiting => ?_
    have isMember := (accounted.attend.accepted _ isWaiting).1
    have waits := Listener.mem_eventsAmong isWaiting
    rw [← accounted.attend.holds member isMember] at waits
    have isEmpty := emptied member (accounted.follows.members_eq ▸ isMember)
    rw [queueOf] at isEmpty
    rw [isEmpty] at waits
    exact List.not_mem_nil waits
  rw [← isEnd, ← nothing]
  exact accounted

theorem Accounted.mem_answered_iff (accounted : Accounted cluster events reports state
      (.between events []) trace answered []) {invocation : Invocation Payload} :
    invocation ∈ answered ↔
      (invocation.1 ∈ cluster.members ∧ invocation.2 ∈ events) ∧
        invocation.1.isAsynchronous = true := by
  have invoked := accounted.invoked
  rw [List.append_nil] at invoked
  rw [← invoked.mem_iff, List.mem_filter, PublicationPlace.calls,
    PublicationPlace.mem_invocationsOf]

theorem Accounted.acknowledged_mem (accounted : Accounted cluster events reports state
      (.between events []) trace answered []) {outcome : EventOutcome Payload}
    (isAcknowledged : outcome ∈ acknowledgedBy cluster reports answered events) :
    outcome.1 ∈ events := by
  rcases List.mem_append.mp isAcknowledged with isAnswer | isOwn
  · obtain ⟨invocation, isAnswered, rfl⟩ := List.mem_map.mp isAnswer
    exact (accounted.mem_answered_iff.mp isAnswered).1.2
  · obtain ⟨event, isEvent, rfl⟩ := List.mem_map.mp isOwn
    exact isEvent

theorem Accounted.exists_failure_iff (accounted : Accounted cluster events reports state
      (.between events []) trace answered []) (isPublished : event ∈ events) :
    (∃ cause, (event, some cause) ∈ acknowledgedBy cluster reports answered events) ↔
      ∃ member ∈ cluster.members, member.outcome reports event ≠ none := by
  have direct_iff := Listener.exists_directFailure_iff reports cluster.members event
  simp only [acknowledgedBy, List.mem_append, List.mem_map, Prod.mk.injEq]
  constructor
  · rintro ⟨cause, ⟨⟨member, _⟩, isAnswered, rfl, failed⟩ | ⟨_, -, rfl, failed⟩⟩
    · refine ⟨member, (accounted.mem_answered_iff.mp isAnswered).1.1, ?_⟩
      rw [failed]
      exact Option.some_ne_none cause
    · obtain ⟨member, isMember, -, hasFailed⟩ := direct_iff.mp ⟨cause, failed⟩
      exact ⟨member, isMember, hasFailed⟩
  · rintro ⟨member, isMember, hasFailed⟩
    cases reportsLater : member.isAsynchronous with
    | true =>
      obtain ⟨cause, failed⟩ := Option.ne_none_iff_exists'.mp hasFailed
      have isAnswered : (member, event) ∈ answered :=
        accounted.mem_answered_iff.mpr ⟨⟨isMember, isPublished⟩, reportsLater⟩
      exact ⟨cause, Or.inl ⟨_, isAnswered, rfl, failed⟩⟩
    | false =>
      obtain ⟨cause, failed⟩ := direct_iff.mpr ⟨member, isMember, reportsLater, hasFailed⟩
      exact ⟨cause, Or.inr ⟨event, isPublished, rfl, failed⟩⟩

/-- When nothing waits any more, every monitor has been told about every event once. -/
theorem Accounted.told_of_isDrained (accounted : Accounted cluster events reports state place trace
      answered waiting) (drained : state.IsDrained) (fresh : cluster.Fresh)
    (distinct : (events.map Event.id).Nodup) {monitor : String}
    (isSubscribed : monitor ∈ cluster.monitors.monitors) (isPublished : event ∈ events) :
    ∃ failure, outcomesOf event.id (state.toldTo monitor) = [(event, failure)] ∧
      (failure ≠ none ↔ ∃ member ∈ cluster.members, member.outcome reports event ≠ none) := by
  have ended := accounted.of_isDrained drained
  have own : ∀ outcome ∈ acknowledgedBy cluster reports answered events,
      outcome.1.id = event.id → outcome.1 = event := fun _ isAcknowledged sameId =>
    eq_of_id_eq distinct (ended.acknowledged_mem isAcknowledged) isPublished sameId
  obtain ⟨failure, told, failed_iff⟩ := ended.balanced.told_of_settled isPublished
    (fun _ isOwed => nomatch isOwed) own
  rw [accounted.follows.toldTo_eq fresh.monitors isSubscribed]
  exact ⟨failure, told, failed_iff.trans (ended.exists_failure_iff isPublished)⟩

theorem Accounted.inFlight_eq_zero (accounted : Accounted cluster events reports state place trace
      answered waiting) (drained : state.IsDrained) :
    state.publication.cluster.multiplexer.inFlight = 0 := by
  have ended := accounted.of_isDrained drained
  rw [ended.follows.multiplexer_eq]
  exact ended.balanced.inFlight_eq_zero

/-! ## Every publication comes to its end -/

theorem Accounted.isDrained (accounted : Accounted cluster events reports state place trace
      answered []) (atEnd : state.ahead = []) : state.IsDrained := by
  refine ⟨atEnd, fun member isMember => ?_⟩
  rw [accounted.follows.members_eq] at isMember
  exact accounted.attend.holds member isMember

/-- Members that go on taking events empty their queues. -/
theorem Accounted.exists_isDrained (accounted : Accounted cluster events reports state place trace
      answered waiting) (fresh : cluster.Fresh) (atEnd : state.ahead = []) :
    ∃ actions, (state.performAll reports actions).IsDrained := by
  induction count : waiting.length generalizing state trace answered waiting with
  | zero =>
    obtain rfl := List.eq_nil_of_length_eq_zero count
    exact ⟨[], accounted.isDrained atEnd⟩
  | succ fewer ih =>
    -- Whichever way the member of the first invocation reports, one waits less.
    have goOn (action : PublicationAction) (nextTrace : List (MonitorAction Payload))
        (invocation : Invocation Payload) (earlier later : List (Invocation Payload))
        (split : waiting = earlier ++ invocation :: later)
        (next : Accounted cluster events reports (state.perform reports action) place nextTrace
          (invocation :: answered) (earlier ++ later)) :
        ∃ actions, (state.performAll reports actions).IsDrained := by
      have fewerWait : (earlier ++ later).length = fewer := by
        rw [split] at count
        simp only [List.length_append, List.length_cons] at count ⊢
        omega
      have stillAtEnd := next.ahead.trans (accounted.ahead.symm.trans atEnd)
      obtain ⟨actions, drained⟩ := ih next stillAtEnd fewerWait
      exact ⟨action :: actions, drained⟩
    obtain ⟨⟨member, event⟩, later, rfl⟩ := List.exists_cons_of_length_eq_add_one count
    rcases accounted.attend.first_waits with ⟨worker, rest, found, first⟩ | ⟨rest, first⟩
    · obtain ⟨_, _, _, _, split, next⟩ := accounted.work_first fresh found first
      exact goOn _ _ _ _ _ split next
    · obtain ⟨_, _, _, _, split, next⟩ := accounted.report_first fresh first
      exact goOn _ _ _ _ _ split next

/-- Every member is called once with every event, in the order of the events and of the
subscriptions, whatever other members do.  A monitor is told about an event when every
member is done with it, and when nothing waits any more it has been told about every event
once, of a failure if a member has failed with the event or has refused it.  That nothing
waits can be reached from wherever the execution stands. -/
theorem publication_settles (name : String) (listeners : List (Listener Payload))
    (monitors : List String) (events : List (Event Payload))
    (distinct : (events.map Event.id).Nodup)
    (reports : String → Event Payload → Option ProcessingFailure)
    (actions : List PublicationAction) :
    let cluster := Cluster.assembled name listeners monitors
    let state := (start cluster events).performAll reports actions
    let allCalls := events.flatMap fun event => cluster.memberKeys.map fun key => (key, event)
    state.calls <+: allCalls ∧ (state.ahead = [] → state.calls = allCalls) ∧
    (∀ monitor ∈ cluster.monitors.monitors, ∀ event ∈ events,
      outcomesOf event.id (state.toldTo monitor) ≠ [] →
        ∀ member ∈ cluster.members, state.IsDone member event) ∧
    (state.IsDrained →
      (∀ monitor ∈ cluster.monitors.monitors, ∀ event ∈ events, ∃ failure,
        outcomesOf event.id (state.toldTo monitor) = [(event, failure)] ∧
        (failure ≠ none ↔ ∃ member ∈ cluster.members, member.outcome reports event ≠ none)) ∧
      state.publication.cluster.multiplexer.inFlight = 0) ∧
    ∃ more, (state.performAll reports more).IsDrained := by
  intro cluster state allCalls
  have fresh := Cluster.fresh_assembled name listeners monitors
  have started : IsAccounted cluster events reports (start cluster events) :=
    ⟨_, _, _, _, accounted_start fresh⟩
  obtain ⟨place, trace, answered, waiting, accounted⟩ :=
    started.performAll fresh distinct actions
  refine ⟨accounted.calls_prefix, accounted.calls_eq, ?_, ?_, ?_⟩
  · intro monitor isSubscribed event isPublished told member isMember
    exact accounted.isDone_of_told fresh distinct isSubscribed isPublished told isMember
  · intro drained
    refine ⟨fun monitor isSubscribed event isPublished => ?_, accounted.inFlight_eq_zero drained⟩
    exact accounted.told_of_isDrained drained fresh distinct isSubscribed isPublished
  · let steps : List PublicationAction := List.replicate state.ahead.length .publish
    have alone : state.performAll reports steps = _ := performAll_replicate rfl
    have stillAccounted : IsAccounted cluster events reports state := ⟨_, _, _, _, accounted⟩
    obtain ⟨_, _, _, _, ended⟩ := stillAccounted.performAll fresh distinct steps
    obtain ⟨rest, drained⟩ := ended.exists_isDrained fresh (congrArg Execution.ahead alone)
    refine ⟨steps ++ rest, ?_⟩
    rw [performAll, List.foldl_append]
    exact drained

/-- Two events for a direct listener, a worker that fails with the first, and a member that
reports itself.  The worker reports before the last member is called. -/
theorem publication_settles_of_two :
    ∃ (first second : Event Nat) (listeners : List (Listener Nat)) (failure : ProcessingFailure)
      (actions : List PublicationAction) (state : Execution Nat),
      state = (start (.assembled "cluster" listeners ["monitor"]) [first, second]).performAll
        (fun _ _ => none) actions ∧
      state.IsDrained ∧
      outcomesOf first.id (state.toldTo "monitor") = [(first, some failure)] ∧
      outcomesOf second.id (state.toldTo "monitor") = [(second, none)] := by
  let first : Event Nat := .plain ⟨EventId.ofNat 1, default, .empty, 0⟩
  let second : Event Nat := .plain ⟨EventId.ofNat 2, default, .empty, 0⟩
  let failing (event : Event Nat) : Except ListenerError Unit :=
    if event.id = first.id then .error (.failed "reason") else .ok ()
  let listeners : List (Listener Nat) :=
    [⟨"direct", "Direct", [], .direct fun _ => .ok ()⟩,
      ⟨"worker", "Worker", [], .queued failing⟩,
      ⟨"remote", "Remote", [], .reported fun _ => .ok ()⟩]
  let actions : List PublicationAction :=
    List.replicate 5 .publish ++ [.work "worker"] ++ List.replicate 11 .publish ++
      [.report "remote", .work "worker", .report "remote"]
  let state := (start (.assembled "cluster" listeners ["monitor"]) [first, second]).performAll
    (fun _ _ => none) actions
  have members_eq : (Cluster.assembled "cluster" listeners ["monitor"]).members = listeners :=
    Cluster.members_assembled "cluster" ["monitor"] (by decide)
  have drained : state.IsDrained := by
    have atEnd : state.ahead.isEmpty = true := by decide +kernel
    have emptied : (state.publication.cluster.members.all fun member =>
        (state.queueOf member).isEmpty) = true := by decide +kernel
    refine ⟨List.isEmpty_iff.mp atEnd, fun member isMember => ?_⟩
    exact List.isEmpty_iff.mp (List.all_eq_true.mp emptied member isMember)
  obtain ⟨-, -, -, settles, -⟩ := publication_settles "cluster" listeners ["monitor"]
    [first, second] (by decide) (fun _ _ => none) actions
  obtain ⟨told, -⟩ := settles drained
  obtain ⟨failure, toldFirst, failed_iff⟩ := told "monitor" (by decide) first List.mem_cons_self
  obtain ⟨noFailure, toldSecond, processed_iff⟩ := told "monitor" (by decide) second
    (List.mem_cons_of_mem _ List.mem_cons_self)
  rw [members_eq] at failed_iff processed_iff
  have failed : failure ≠ none :=
    failed_iff.mpr ⟨_, List.mem_cons_of_mem _ List.mem_cons_self, by decide⟩
  have processed : noFailure = none := by
    refine Decidable.not_not.mp fun isFailure => ?_
    obtain ⟨member, isMember, hasFailed⟩ := processed_iff.mp isFailure
    have allProcessed : ∀ member ∈ listeners,
        member.outcome (fun _ _ => none) second = none := by decide
    exact hasFailed (allProcessed member isMember)
  obtain ⟨cause, rfl⟩ := Option.ne_none_iff_exists'.mp failed
  subst processed
  exact ⟨first, second, listeners, cause, actions, state, rfl, drained, toldFirst, toldSecond⟩

end Execution

end EventSourcing
