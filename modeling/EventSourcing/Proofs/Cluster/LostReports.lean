import EventSourcing.Proofs.Cluster.Bookkeeping

/-!
# Reports that nobody hears

Events whose identifiers differ are told of once, by the time that nothing is left to be
done, unless a report on them came when the listener had been taken off: a report that
nobody hears leaves its event in flight for ever (`Service.settles_unless_unheard`).
-/

namespace EventSourcing

variable {Payload : Type}

open Multiplexer

namespace PublicationPlace

/-- The events of all publications so far. -/
def events : PublicationPlace Payload → List (Event Payload)
  | between past rest => past ++ rest
  | inside past event rest _ _ | facing past event rest _ _ _ => past ++ event :: rest

theorem Fits.events_eq {members : List (Listener Payload)} {events : List (Event Payload)}
    {place : PublicationPlace Payload} (fits : place.Fits members events) :
    place.events = events := by
  cases place with
  | between past rest => exact fits
  | inside past event rest visited upcoming => exact fits.1
  | facing past event rest visited member upcoming => exact fits.1

end PublicationPlace

namespace Ledger

/-- The events that owe an acknowledgement, each as often as it owes.  An event whose
report went unheard owes it for ever. -/
def outstanding (ledger : Ledger Payload) : List (Event Payload) :=
  ledger.place.owed ++ (ledger.waiting.map Prod.snd ++ ledger.unheard)

section Outstanding

variable {ledger next : Ledger Payload} {past rest : List (Event Payload)}
  {event : Event Payload} {visited upcoming : List (Listener Payload)}
  {member : Listener Payload}

theorem outstanding_between (stands : ledger.place = .between past rest) :
    ledger.outstanding = ledger.waiting.map Prod.snd ++ ledger.unheard := by
  rw [outstanding, stands]
  rfl

theorem outstanding_inside (stands : ledger.place = .inside past event rest visited upcoming) :
    ledger.outstanding = event :: (ledger.waiting.map Prod.snd ++ ledger.unheard) := by
  rw [outstanding, stands]
  rfl

theorem outstanding_facing_direct
    (stands : ledger.place = .facing past event rest visited member upcoming)
    (direct : member.isAsynchronous = false) :
    ledger.outstanding = event :: (ledger.waiting.map Prod.snd ++ ledger.unheard) := by
  rw [outstanding, stands, PublicationPlace.owed_facing_direct direct]
  rfl

theorem outstanding_facing_asynchronous
    (stands : ledger.place = .facing past event rest visited member upcoming)
    (reportsLater : member.isAsynchronous = true) :
    ledger.outstanding = event :: event :: (ledger.waiting.map Prod.snd ++ ledger.unheard) := by
  rw [outstanding, stands, PublicationPlace.owed_facing_asynchronous reportsLater]
  rfl

/-- An event that is accepted is no longer owed by the publisher. -/
theorem outstanding_accept
    (stands : ledger.place = .facing past event rest visited member upcoming)
    (reportsLater : member.isAsynchronous = true) (key : String)
    (nextStands : next.place = .inside past event rest (visited ++ [member]) upcoming)
    (waits : next.waiting = ledger.waiting ++ [(key, event)])
    (sameUnheard : next.unheard = ledger.unheard) :
    ledger.outstanding.Perm next.outstanding := by
  rw [outstanding_facing_asynchronous stands reportsLater, outstanding_inside nextStands, waits,
    sameUnheard, List.map_append, List.append_assoc]
  have moved : (event :: (ledger.waiting.map Prod.snd ++ ledger.unheard)).Perm
      (ledger.waiting.map Prod.snd ++ event :: ledger.unheard) := List.perm_middle.symm
  exact moved.cons event

theorem outstanding_take {earlier later : List (String × Event Payload)} {key : String}
    (split : ledger.waiting = earlier ++ (key, event) :: later)
    (samePlace : next.place = ledger.place) (waits : next.waiting = earlier ++ later)
    (sameUnheard : next.unheard = ledger.unheard) :
    ledger.outstanding.Perm (event :: next.outstanding) := by
  rw [outstanding, outstanding, split, samePlace, waits, sameUnheard, List.map_append,
    List.map_append, List.map_cons, List.append_assoc, List.append_assoc,
    ← List.append_assoc ledger.place.owed, ← List.append_assoc ledger.place.owed]
  exact List.perm_middle

theorem outstanding_miss {earlier later : List (String × Event Payload)} {key : String}
    (split : ledger.waiting = earlier ++ (key, event) :: later)
    (samePlace : next.place = ledger.place) (waits : next.waiting = earlier ++ later)
    (moreUnheard : next.unheard = ledger.unheard ++ [event]) :
    ledger.outstanding.Perm next.outstanding := by
  have taken : ledger.outstanding.Perm
      (event :: { ledger with waiting := earlier ++ later }.outstanding) :=
    outstanding_take split rfl rfl rfl
  refine taken.trans ?_
  rw [outstanding, outstanding, samePlace, waits, moreUnheard, ← List.append_assoc,
    ← List.append_assoc, ← List.append_assoc]
  exact (List.perm_append_singleton event _).symm

end Outstanding

/-- The multiplexer waits for just the acknowledgements that are outstanding. -/
structure Counted (ledger : Ledger Payload) : Prop where
  balanced : ∃ acknowledged,
    Balanced ledger.trace ledger.place.prepared acknowledged ledger.outstanding ∧
      ∀ outcome ∈ acknowledged, outcome.1 ∈ ledger.place.prepared
  within : ∀ event ∈ ledger.outstanding, event ∈ ledger.place.prepared
  tracked (member : Listener Payload) : ledger.place.faced = some member →
    member.isAsynchronous = true → ledger.isTracked = true

variable {ledger next : Ledger Payload}

/-- A step that changes neither the multiplexer nor what is outstanding. -/
theorem Counted.of_perm (counted : ledger.Counted) (sameTrace : next.trace = ledger.trace)
    (samePrepared : next.place.prepared = ledger.place.prepared)
    (sameOutstanding : ledger.outstanding.Perm next.outstanding)
    (tracked : ∀ member, next.place.faced = some member → member.isAsynchronous = true →
      next.isTracked = true) : next.Counted where
  balanced := by
    obtain ⟨acknowledged, balanced, own⟩ := counted.balanced
    rw [sameTrace, samePrepared]
    exact ⟨acknowledged, balanced.perm (.refl _) sameOutstanding, own⟩
  within event isOutstanding := by
    rw [samePrepared]
    exact counted.within event (sameOutstanding.mem_iff.mpr isOutstanding)
  tracked := tracked

/-- A step that acknowledges an outstanding event. -/
theorem Counted.receive (counted : ledger.Counted) {event : Event Payload}
    {failure : Option ProcessingFailure}
    (moreTrace : next.trace = ledger.trace ++ [.receive ⟨[event], failure⟩])
    (samePrepared : next.place.prepared = ledger.place.prepared)
    (lessOutstanding : ledger.outstanding.Perm (event :: next.outstanding))
    (tracked : ∀ member, next.place.faced = some member → member.isAsynchronous = true →
      next.isTracked = true) : next.Counted where
  balanced := by
    obtain ⟨acknowledged, balanced, own⟩ := counted.balanced
    have isPrepared := counted.within event (lessOutstanding.mem_iff.mpr List.mem_cons_self)
    rw [moreTrace, samePrepared]
    refine ⟨_, (balanced.perm (.refl _) lessOutstanding).receive failure, ?_⟩
    rintro outcome isAcknowledged
    rcases List.mem_cons.mp isAcknowledged with rfl | earlier
    · exact isPrepared
    · exact own outcome earlier
  within other isOutstanding := by
    rw [samePrepared]
    exact counted.within other
      (lessOutstanding.mem_iff.mpr (List.mem_cons_of_mem event isOutstanding))
  tracked := tracked

/-- A step that prepares an event. -/
theorem Counted.prepare (counted : ledger.Counted) {past rest : List (Event Payload)}
    {event : Event Payload} {members : List (Listener Payload)}
    (stands : ledger.place = .between past (event :: rest))
    (nextStands : next.place = .inside past event rest [] members)
    (moreTrace : next.trace = ledger.trace ++ [.prepare event.id])
    (sameWaiting : next.waiting = ledger.waiting) (sameUnheard : next.unheard = ledger.unheard)
    (new : event.id ∉ past.map Event.id) : next.Counted := by
  have owes : next.outstanding = event :: ledger.outstanding := by
    rw [outstanding_inside nextStands, outstanding_between stands, sameWaiting, sameUnheard]
  have prepared : ledger.place.prepared = past := by rw [stands]; rfl
  have nextPrepared : next.place.prepared = past ++ [event] := by rw [nextStands]; rfl
  obtain ⟨acknowledged, balanced, own⟩ := counted.balanced
  have within := counted.within
  rw [prepared] at balanced own within
  constructor
  case balanced =>
    rw [moreTrace, nextPrepared, owes]
    exact ⟨acknowledged, balanced.prepare new, fun outcome isAcknowledged =>
      List.mem_append_left _ (own outcome isAcknowledged)⟩
  case within =>
    rw [nextPrepared, owes]
    intro other isOutstanding
    rcases List.mem_cons.mp isOutstanding with rfl | earlier
    · exact List.mem_append_right _ (List.mem_singleton_self _)
    · exact List.mem_append_left _ (within other earlier)
  case tracked =>
    intro member isFaced
    rw [nextStands] at isFaced
    exact absurd isFaced (Option.some_ne_none member).symm

/-- A step that registers an asynchronous listener, for an event that still owes an
acknowledgement. -/
theorem Counted.expect (counted : ledger.Counted) {past rest : List (Event Payload)}
    {event : Event Payload} {visited upcoming : List (Listener Payload)}
    {member : Listener Payload}
    (stands : ledger.place = .inside past event rest visited (member :: upcoming))
    (reportsLater : member.isAsynchronous = true)
    (nextStands : next.place = .facing past event rest visited member upcoming)
    (moreTrace : next.trace = ledger.trace ++ [.expect event.id])
    (sameWaiting : next.waiting = ledger.waiting) (sameUnheard : next.unheard = ledger.unheard)
    (isTracked : next.isTracked = true) : next.Counted := by
  have owed : event ∈ ledger.outstanding := by simp [outstanding_inside stands]
  have owes : next.outstanding = event :: ledger.outstanding := by
    rw [outstanding_facing_asynchronous nextStands reportsLater, outstanding_inside stands,
      sameWaiting, sameUnheard]
  have samePrepared : next.place.prepared = ledger.place.prepared := by
    rw [nextStands, stands]
    rfl
  obtain ⟨acknowledged, balanced, own⟩ := counted.balanced
  constructor
  case balanced =>
    rw [moreTrace, samePrepared, owes]
    exact ⟨acknowledged, balanced.expect owed, own⟩
  case within =>
    rw [samePrepared, owes]
    intro other isOutstanding
    rcases List.mem_cons.mp isOutstanding with rfl | earlier
    · exact counted.within other owed
    · exact counted.within other earlier
  case tracked => exact fun _ _ _ => isTracked

theorem Counted.step (counted : ledger.Counted) (steps : ledger.Step next)
    (distinct : (next.place.events.map Event.id).Nodup) : next.Counted := by
  have noneFaced (place : PublicationPlace Payload) (none : place.faced = none)
      (isTracked : Bool) (member : Listener Payload) (isFaced : place.faced = some member)
      (_ : member.isAsynchronous = true) : isTracked = true := by
    rw [none] at isFaced
    exact absurd isFaced (Option.some_ne_none member).symm
  cases steps with
  | stay => exact counted
  | announce stands members events =>
    refine counted.of_perm rfl ?_ ?_ (noneFaced _ rfl _)
    · rw [stands]
      rfl
    · rw [outstanding_between stands, outstanding_between rfl]
  | @prepare past rest event stands =>
    refine counted.prepare stands rfl rfl rfl rfl ?_
    simp only [PublicationPlace.events, List.map_append, List.nodup_append] at distinct
    intro isPast
    exact distinct.2.2 _ isPast _ (List.mem_map_of_mem List.mem_cons_self) rfl
  | approach stands direct =>
    refine counted.of_perm rfl ?_ ?_ ?_
    · rw [stands]
      rfl
    · rw [outstanding_inside stands, outstanding_facing_direct rfl direct]
    · intro member isFaced reportsLater
      obtain rfl := Option.some.inj isFaced
      rw [direct] at reportsLater
      exact Bool.noConfusion reportsLater
  | expect stands reportsLater granted =>
    exact counted.expect stands reportsLater rfl rfl rfl rfl rfl
  | @miss past rest event visited upcoming member stands reportsLater error refused =>
    -- An event that owes an acknowledgement is waited for.
    obtain ⟨acknowledged, balanced, own⟩ := counted.balanced
    have owes : event ∈ ledger.outstanding := by simp [outstanding_inside stands]
    obtain ⟨granted, isGranted⟩ := balanced.expect_granted owes
    rw [isGranted] at refused
    cases refused
  | answer stands direct failure =>
    refine counted.of_perm rfl ?_ ?_ (noneFaced _ rfl _)
    · rw [stands]
      rfl
    · rw [outstanding_facing_direct stands direct, outstanding_inside rfl]
  | @accept _ _ _ _ _ member stands reportsLater =>
    refine counted.of_perm rfl ?_ ?_ (noneFaced _ rfl _)
    · rw [stands]
      rfl
    · exact outstanding_accept stands reportsLater member.key rfl rfl rfl
  | refuse stands reportsLater tracked cause =>
    refine counted.receive rfl ?_ ?_ (noneFaced _ rfl _)
    · rw [stands]
      rfl
    · rw [outstanding_facing_asynchronous stands reportsLater, outstanding_inside rfl]
  | @refuseUntracked past rest event visited upcoming member stands reportsLater untracked cause =>
    have tracked := counted.tracked member (by rw [stands]; rfl) reportsLater
    rw [untracked] at tracked
    cases tracked
  | settle stands =>
    refine counted.receive rfl ?_ ?_ (noneFaced _ rfl _)
    · rw [stands]
      rfl
    · rw [outstanding_inside stands, outstanding_between rfl]
  | hear split failure =>
    exact counted.receive rfl rfl (outstanding_take split rfl rfl rfl) counted.tracked
  | overhear split failure =>
    exact counted.of_perm rfl rfl (outstanding_miss split rfl rfl rfl) counted.tracked

/-- An event is told of once when no acknowledgement of it is outstanding, and not before. -/
theorem Counted.told (counted : ledger.Counted)
    (distinct : (ledger.place.prepared.map Event.id).Nodup) {event : Event Payload}
    (isPrepared : event ∈ ledger.place.prepared) :
    (event.id ∉ ledger.outstanding.map Event.id →
      ∃ failure, outcomesOf event.id (run ledger.trace).1 = [(event, failure)]) ∧
    (event.id ∈ ledger.outstanding.map Event.id →
      outcomesOf event.id (run ledger.trace).1 = []) := by
  obtain ⟨acknowledged, balanced, own⟩ := counted.balanced
  constructor
  · intro settled
    obtain ⟨failure, told, -⟩ := balanced.told_of_settled isPrepared
      (fun other isOwed sameId => settled (sameId ▸ List.mem_map_of_mem isOwed))
      (fun outcome isAcknowledged sameId =>
        List.inj_on_of_nodup_map distinct (own outcome isAcknowledged) isPrepared sameId)
    exact ⟨failure, told⟩
  · intro isOwed
    obtain ⟨other, isOwed, sameId⟩ := List.mem_map.mp isOwed
    have waits := balanced.length_lt_of_mem isOwed
    rw [sameId] at waits
    exact balanced.settled.told_nothing (balanced.settled.mem_preparedIds waits) waits

theorem Counted.inFlight (counted : ledger.Counted) :
    (run ledger.trace).2.inFlight = (ledger.place.prepared.filter fun event =>
      event.id ∈ ledger.outstanding.map Event.id).length := by
  obtain ⟨acknowledged, balanced, -⟩ := counted.balanced
  have waits_iff (id : EventId) : (acknowledgements ledger.trace id).length <
      registrations ledger.trace id ↔ id ∈ ledger.outstanding.map Event.id := by
    rw [balanced.owes, Nat.lt_add_right_iff_pos, List.countP_pos_iff, List.mem_map]
    simp only [decide_eq_true_eq]
  rw [balanced.settled.inFlight, balanced.prepares, List.filter_map, List.length_map]
  simp only [Function.comp_def, waits_iff]

end Ledger

/-! ## Listeners that leave when nothing waits for them -/

/-- Publications change the multiplexer and the workers of a cluster only. -/
theorem Publication.frame_perform (publication : Publication Payload)
    (step : PublicationStep Payload) :
    ∃ multiplexer workers, (publication.perform step).2.cluster =
      { publication.cluster with multiplexer, workers } := by
  cases step with
  | prepare event => exact ⟨_, _, rfl⟩
  | settle event => exact ⟨_, _, rfl⟩
  | register event member =>
    simp only [perform, register]
    split
    · split <;> exact ⟨_, _, rfl⟩
    · exact ⟨_, _, rfl⟩
  | invoke event member =>
    simp only [perform, invoke]
    cases member.handle event with
    | ok _ => exact ⟨_, _, Cluster.enqueue_eq _ _ _⟩
    | error cause =>
      cases publication.isTracked with
      | true => exact ⟨_, _, rfl⟩
      | false => exact ⟨_, _, rfl⟩

theorem PublicationStep.eq_of_answering_eq_invoke {answer : Except ListenerError Unit}
    {step : PublicationStep Payload} {event : Event Payload} {called : Listener Payload}
    (answers : step.answering answer = .invoke event called) :
    ∃ member, step = .invoke event member ∧ called = member.answering answer := by
  cases step with
  | prepare other => cases answers
  | register other member => cases answers
  | settle other => cases answers
  | invoke other member =>
    cases answers
    exact ⟨member, rfl, rfl⟩

/-- Whatever waits after a step of the publisher has waited before, or has been accepted
by a member that reports later. -/
theorem Service.eventsAt_perform {publication : Publication Payload}
    {step : PublicationStep Payload} {awaited : String → List (Event Payload)} {key : String}
    (waits : eventsAt (publication.perform step).2.cluster.workers
      (Execution.awaitedAfter awaited step) key ≠ []) :
    eventsAt publication.cluster.workers awaited key ≠ [] ∨
      ∃ event member, step = .invoke event member ∧ member.isAsynchronous = true ∧
        member.key = key := by
  by_contra neither
  push Not at neither
  obtain ⟨nothing, notCalled⟩ := neither
  cases step with
  | prepare event => exact waits nothing
  | settle event => exact waits nothing
  | register event member =>
    have sameWorkers : (publication.register event member).cluster.workers =
        publication.cluster.workers := by
      unfold Publication.register
      split
      · split <;> rfl
      · rfl
    simp only [Publication.perform, sameWorkers] at waits
    exact waits nothing
  | invoke event member =>
    cases answers : member.handle event with
    | error cause =>
      have sameWorkers : (publication.invoke event member).2.cluster.workers =
          publication.cluster.workers := by
        cases tracked : publication.isTracked with
        | true =>
          rw [invoke_of_tracked answers tracked]
          rfl
        | false => rw [invoke_of_untracked answers tracked]
      rw [awaitedAfter_of_unaccepted fun _ => ⟨cause, answers⟩] at waits
      simp only [Publication.perform, sameWorkers] at waits
      exact waits nothing
    | ok _ =>
      simp only [Publication.perform, invoke_of_granted answers] at waits
      cases reportsLater : member.isAsynchronous with
      | false =>
        rw [awaitedAfter_of_unaccepted (by simp [reportsLater]), Cluster.enqueue,
          Listener.worker?_of_direct reportsLater] at waits
        exact waits nothing
      | true =>
        have other := notCalled event member rfl reportsLater
        have accepted : (eventsAt publication.cluster.workers awaited key ++ _).Perm _ :=
          eventsAt_accept reportsLater answers key
        rw [if_neg other, List.append_nil, nothing] at accepted
        exact waits accepted.symm.eq_nil

theorem Cluster.subscribe_cases (cluster : Cluster Payload) (listener : Listener Payload) :
    cluster.subscribe listener = cluster ∨
      ∃ watched, cluster.subscribe listener =
          { cluster with members := cluster.members ++ [listener], watched } ∧
        cluster.watched ⊆ watched ∧ (listener.isAsynchronous = true → listener.key ∈ watched) := by
  by_cases known : cluster.memberKeys.contains listener.key = true
  · exact .inl (if_pos known)
  · refine .inr ⟨_, if_neg known, ?_, fun reportsLater => ?_⟩
    · split
      · exact List.subset_append_left _ _
      · exact List.Subset.refl _
    · by_cases watched : listener.key ∈ cluster.watched
      · simp [watched]
      · simp [reportsLater, watched]

namespace Service

/-- Whether every listener that leaves in a run does so between publications, when nothing
waits for it. -/
def LeavesNothing (service : Service Payload) : List (ServiceAction Payload) → Prop
  | [] => True
  | action :: rest =>
    (∀ key, action = .unsubscribe key → service.ahead = [] ∧ service.queueAt key = []) ∧
      LeavesNothing (service.perform action) rest

/-- Whatever waits, or may have to, waits for a listener that is watched. -/
structure Watches (service : Service Payload) : Prop where
  members : ∀ member ∈ service.cluster.members, member.isAsynchronous = true →
    member.key ∈ service.cluster.watched
  upcoming (event : Event Payload) (member : Listener Payload) :
    .invoke event member ∈ service.ahead → member.isAsynchronous = true →
      member.key ∈ service.cluster.watched
  waiting (key : String) : service.queueAt key ≠ [] → key ∈ service.cluster.watched
  unheard : service.unheard = []

variable {service : Service Payload}

theorem watches_ofCluster {cluster : Cluster Payload} (fresh : cluster.Fresh) :
    (ofCluster cluster).Watches where
  members := fresh.watches
  upcoming _ _ isAhead := absurd isAhead List.not_mem_nil
  waiting key waits := by
    have noWorkers : (ofCluster cluster).cluster.workers = .empty := fresh.workers
    rw [queueAt, noWorkers] at waits
    exact absurd rfl waits
  unheard := rfl

theorem Watches.subscribe (watches : service.Watches) (listener : Listener Payload) :
    (service.perform (.subscribe listener)).Watches := by
  rcases Cluster.subscribe_cases service.cluster listener with
    same | ⟨watched, subscribed, keeps, isWatched⟩
  · simp only [perform, same]
    exact watches
  · simp only [perform, subscribed]
    constructor
    case members =>
      intro member isMember reportsLater
      rcases List.mem_append.mp isMember with old | isNew
      · exact keeps (watches.members member old reportsLater)
      · obtain rfl := List.mem_singleton.mp isNew
        exact isWatched reportsLater
    case upcoming =>
      intro event member isAhead reportsLater
      exact keeps (watches.upcoming event member isAhead reportsLater)
    case waiting => exact fun key waits => keeps (watches.waiting key waits)
    case unheard => exact watches.unheard

theorem Watches.unsubscribe (watches : service.Watches) {key : String}
    (atEnd : service.ahead = []) (nothingWaits : service.queueAt key = []) :
    (service.perform (.unsubscribe key)).Watches where
  members member isMember reportsLater := by
    obtain ⟨old, other⟩ := List.mem_filter.mp isMember
    exact List.mem_filter.mpr ⟨watches.members member old reportsLater, other⟩
  upcoming event member isAhead _ := by
    have comes : (service.perform (.unsubscribe key)).ahead = [] := atEnd
    rw [comes] at isAhead
    exact absurd isAhead List.not_mem_nil
  waiting other waits := by
    have differ : other ≠ key := by
      rintro rfl
      exact waits nothingWaits
    exact List.mem_filter.mpr ⟨watches.waiting other waits, decide_eq_true differ⟩
  unheard := watches.unheard

/-- A service that goes on with no more than what was ahead or may come of it. -/
theorem Watches.goOn {next : Service Payload} (watches : service.Watches)
    (sameMembers : next.cluster.members = service.cluster.members)
    (sameWatched : next.cluster.watched = service.cluster.watched)
    (upcoming : next.ahead ⊆ service.ahead)
    (waiting : ∀ key, next.queueAt key ≠ [] → key ∈ service.cluster.watched)
    (sameUnheard : next.unheard = service.unheard) : next.Watches where
  members := by
    rw [sameMembers, sameWatched]
    exact watches.members
  upcoming event member isAhead := by
    rw [sameWatched]
    exact watches.upcoming event member (upcoming isAhead)
  waiting := by
    rw [sameWatched]
    exact waiting
  unheard := sameUnheard.trans watches.unheard

theorem Watches.publish (watches : service.Watches) (events : List (Event Payload)) :
    (service.perform (.publish events)).Watches := by
  cases comes : service.ahead with
  | cons step ahead =>
    simp only [perform, comes]
    exact watches
  | nil =>
    simp only [perform, comes]
    refine ⟨watches.members, fun event member isAhead => ?_, watches.waiting, watches.unheard⟩
    have isCall : event ∈ events ∧ member ∈ service.cluster.members := by
      simpa [PublicationStep.ofEvents, PublicationStep.ofEvent] using isAhead
    exact watches.members member isCall.2

theorem Watches.step (watches : service.Watches) (answer : Except ListenerError Unit) :
    (service.perform (.step answer)).Watches := by
  cases comes : service.ahead with
  | nil =>
    simp only [perform, comes]
    exact watches
  | cons step ahead =>
    obtain ⟨multiplexer, workers, frame⟩ :=
      service.publication.frame_perform (step.answering answer)
    have sameMembers := congrArg Cluster.members frame
    have sameWatched := congrArg Cluster.watched frame
    simp only [perform, comes]
    refine watches.goOn sameMembers sameWatched ?_ (fun key waits => ?_) rfl
    · rw [comes]
      exact List.subset_cons_self _ _
    · rcases eventsAt_perform waits with earlier | ⟨event, member, called, reportsLater, own⟩
      · exact watches.waiting key earlier
      · obtain ⟨asked, rfl, rfl⟩ := PublicationStep.eq_of_answering_eq_invoke called
        rw [Listener.isAsynchronous_answering] at reportsLater
        rw [← own]
        refine watches.upcoming event asked ?_ reportsLater
        rw [comes]
        exact List.mem_cons_self

/-- A report is heard if the listener is watched. -/
theorem Watches.finish (watches : service.Watches) {key : String} {event : Event Payload}
    (waits : service.queueAt key ≠ []) (failure : Option ProcessingFailure)
    (workers : Table String (Worker Payload)) (awaited : String → List (Event Payload))
    (silent : List (Occurrence Payload))
    (fewer : ∀ other, eventsAt workers awaited other ⊆ service.queueAt other) :
    let reported := ({ service.cluster with workers } : Cluster Payload).report key
      ⟨[event], failure⟩
    Watches { service.finish key event failure (silent ++ reported.1, reported.2) with
      awaited } := by
  have isWatched := List.contains_iff_mem.mpr (watches.waiting key waits)
  have reports : ({ service.cluster with workers } : Cluster Payload).report key
      ⟨[event], failure⟩ = ({ service.cluster with workers } : Cluster Payload).receive
        ⟨[event], failure⟩ := if_pos isWatched
  simp only [reports, Service.finish, isWatched, ↓reduceIte]
  refine watches.goOn rfl rfl (List.Subset.refl _) (fun other otherWaits => ?_) rfl
  refine watches.waiting other fun nothing => otherWaits ?_
  exact List.subset_nil.mp (nothing ▸ fewer other)

theorem Watches.perform (watches : service.Watches) (action : ServiceAction Payload)
    (leaves : ∀ key, action = .unsubscribe key → service.ahead = [] ∧ service.queueAt key = []) :
    (service.perform action).Watches := by
  cases action with
  | subscribe listener => exact watches.subscribe listener
  | unsubscribe key =>
    obtain ⟨atEnd, nothingWaits⟩ := leaves key rfl
    exact watches.unsubscribe atEnd nothingWaits
  | publish events => exact watches.publish events
  | step answer => exact watches.step answer
  | work key answer =>
    cases found : service.cluster.workers.get? key with
    | none => simpa [Service.perform, Cluster.answering, found] using watches
    | some worker =>
      cases first : worker.queue with
      | nil => simpa [Service.perform, Cluster.answering, found, Worker.step?, first] using watches
      | cons event rest =>
        rw [perform_work answer found first]
        refine watches.finish ?_ _ _ service.awaited [.processed key event] fun other => ?_
        · simp [queueAt, eventsAt, found, first]
        · by_cases own : other = key
          · subst own
            simp [eventsAt, queueAt, found, first]
          · simp [eventsAt, queueAt, own]
  | report key failure =>
    cases first : service.awaited key with
    | nil => simpa [Service.perform, first] using watches
    | cons event rest =>
      have waits : service.queueAt key ≠ [] := by simp [queueAt, eventsAt, first]
      have fewer (other : String) : eventsAt service.cluster.workers
          (Function.update service.awaited key rest) other ⊆ service.queueAt other := by
        by_cases own : other = key
        · subst own
          simp [eventsAt, queueAt, first]
        · simp [eventsAt, queueAt, own]
      have finished : Watches { service.finish key event failure _ with awaited := _ } :=
        watches.finish waits failure service.cluster.workers _ [] fewer
      simpa [Service.perform, first] using finished

theorem Watches.performAll (watches : service.Watches) {actions : List (ServiceAction Payload)}
    (leaves : service.LeavesNothing actions) : (service.performAll actions).Watches := by
  induction actions generalizing service with
  | nil => exact watches
  | cons action rest ih => exact ih (watches.perform action leaves.1) leaves.2

/-! ## Whole runs -/

theorem counted_start : ({ place := .between [] [] } : Ledger Payload).Counted where
  balanced := ⟨[], Balanced.nil, fun _ isAcknowledged => absurd isAcknowledged List.not_mem_nil⟩
  within _ isOutstanding := absurd isOutstanding List.not_mem_nil
  tracked _ isFaced := by simp [PublicationPlace.faced] at isFaced

/-- The events of a ledger only become more. -/
theorem events_grow {ledger next : Ledger Payload} (steps : ledger.Step next) :
    ledger.place.events <+: next.place.events := by
  cases steps <;> simp_all [PublicationPlace.events]

theorem exists_counted (name : String) (listeners : List (Listener Payload))
    (monitors : List String) (actions : List (ServiceAction Payload)) :
    let cluster := Cluster.assembled name listeners monitors
    ∃ ledger : Ledger Payload,
      ((ledger.place.events.map Event.id).Nodup → ledger.Counted) ∧
        ((ofCluster cluster).performAll actions).Tracks cluster.monitors ledger := by
  intro cluster
  have fresh := Cluster.fresh_assembled name listeners monitors
  refine (tracks_ofCluster fresh).performAll (fun ledger next counted steps distinct => ?_)
    (fun _ => counted_start) actions
  have earlier := (events_grow steps).sublist.map Event.id
  exact (counted (distinct.sublist earlier)).step steps distinct

/-- A cluster whose listeners come and go: once nothing is left to be done, every monitor
has been told once of each event that has been published, except of those on which a report
went unheard; of these it is told nothing, and they stay in flight. -/
theorem settles_unless_unheard (name : String) (monitors : List String)
    (actions : List (ServiceAction Payload)) :
    let start := ofCluster (Cluster.assembled name [] monitors)
    let service := start.performAll actions
    (service.published.map Event.id).Nodup →
      (service.IsIdle →
        (∀ monitor ∈ service.cluster.monitors.monitors, ∀ event ∈ service.published,
          (event.id ∉ service.unheard.map Event.id →
            ∃ failure, outcomesOf event.id (service.toldTo monitor) = [(event, failure)]) ∧
          (event.id ∈ service.unheard.map Event.id →
            outcomesOf event.id (service.toldTo monitor) = [])) ∧
        service.cluster.multiplexer.inFlight = (service.published.filter fun event =>
          event.id ∈ service.unheard.map Event.id).length) ∧
      (start.LeavesNothing actions → service.unheard = []) ∧
      ∃ more, (service.performAll more).IsIdle ∧
        (service.performAll more).published = service.published := by
  intro start service distinct
  have fresh := Cluster.fresh_assembled name ([] : List (Listener Payload)) monitors
  obtain ⟨ledger, counted, tracks⟩ := exists_counted name ([] : List (Listener Payload)) monitors
    actions
  have samePublished : ledger.place.events = service.published := tracks.fits.events_eq
  obtain ⟨more, -, settled⟩ := tracks.exists_idle
  refine ⟨fun idle => ?_, fun leaves => ?_, more, settled⟩
  · rw [samePublished] at counted
    obtain ⟨base, isBase, follows⟩ := tracks.follows
    obtain ⟨stands, nothingWaits⟩ := tracks.of_isIdle idle
    have isPrepared : ledger.place.prepared = service.published := by
      rw [stands]
      rfl
    have isOutstanding : ledger.outstanding = service.unheard := by
      rw [Ledger.outstanding, stands, nothingWaits, tracks.unheard]
      rfl
    have told (event : Event Payload) (isPublished : event ∈ ledger.place.prepared) :=
      (counted distinct).told (isPrepared ▸ distinct) isPublished
    have inFlight := (counted distinct).inFlight
    rw [isPrepared, isOutstanding] at told inFlight
    constructor
    · intro monitor isMonitor event isPublished
      rw [follows.monitors_eq] at isMonitor
      rw [follows.toldTo_eq (isBase ▸ fresh.monitors) isMonitor]
      exact told event isPublished
    · rw [follows.multiplexer_eq]
      exact inFlight
  · exact ((watches_ofCluster fresh).performAll leaves).unheard

/-! ## Workers that leave -/

/-- The events of examples. -/
def numbered (number : Nat) : Event Nat :=
  .plain ⟨EventId.ofNat number, default, .empty, number⟩

def idleWorker : Listener Nat := ⟨"worker", "Worker", [], .queued fun _ => .ok ()⟩

/-- A worker fails with the first event, and leaves before it comes to the second. -/
def earlyLeave : List (ServiceAction Nat) :=
  [.subscribe idleWorker, .publish [numbered 1, numbered 2]] ++
    List.replicate 8 (.step (.ok ())) ++
      [.work "worker" (.error (.failed "reason")), .unsubscribe "worker",
        .work "worker" (.ok ())]

theorem settles_unless_unheard_of_two :
    let service := (ofCluster (Cluster.assembled "cluster" [] ["monitor"])).performAll earlyLeave
    service.published = [numbered 1, numbered 2] ∧ service.IsIdle ∧
      (∃ failure, outcomesOf (numbered 1).id (service.toldTo "monitor") =
        [(numbered 1, failure)]) ∧
      outcomesOf (numbered 2).id (service.toldTo "monitor") = [] ∧
      service.cluster.multiplexer.inFlight = 1 := by
  intro service
  have idle : service.IsIdle := isIdle_of_workers rfl rfl (by decide +kernel)
  have distinct : (service.published.map Event.id).Nodup := by decide +kernel
  obtain ⟨settles, -, -⟩ := settles_unless_unheard "cluster" ["monitor"] earlyLeave distinct
  obtain ⟨told, inFlight⟩ := settles idle
  have isMonitor : "monitor" ∈ service.cluster.monitors.monitors := by decide +kernel
  have unheard : service.unheard.map Event.id = [(numbered 2).id] := by decide +kernel
  have published : service.published = [numbered 1, numbered 2] := by decide +kernel
  rw [published] at told
  refine ⟨published, idle, ?_, ?_, ?_⟩
  · exact (told "monitor" isMonitor (numbered 1) (by simp)).1 (by rw [unheard]; decide)
  · exact (told "monitor" isMonitor (numbered 2) (by simp)).2 (by rw [unheard]; decide)
  · rw [inFlight, unheard]
    decide +kernel

/-- A worker leaves when an event waits in its queue. -/
def lateReport : List (ServiceAction Nat) :=
  [.subscribe idleWorker, .publish [numbered 1]] ++ List.replicate 4 (.step (.ok ())) ++
    [.unsubscribe "worker", .work "worker" (.ok ())]

/-- Nothing is left to be done, but the monitor has been told nothing of the event, which
is in flight. -/
theorem unheard_stays_in_flight :
    let service := (ofCluster (Cluster.assembled "cluster" [] ["monitor"])).performAll lateReport
    service.published = [numbered 1] ∧ service.IsIdle ∧
      service.cluster.monitors.monitors = ["monitor"] ∧ service.toldTo "monitor" = [] ∧
      service.cluster.multiplexer.inFlight = 1 := by
  intro service
  have idle : service.IsIdle := isIdle_of_workers rfl rfl (by decide +kernel)
  exact ⟨by decide +kernel, idle, by decide +kernel, by decide +kernel, by decide +kernel⟩

end Service

end EventSourcing
