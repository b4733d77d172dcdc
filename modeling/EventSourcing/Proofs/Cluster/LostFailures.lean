import Mathlib.Data.List.Induction
import EventSourcing.Proofs.Cluster.LostReports

/-!
# Failures that are overwritten

An event may be published again while it is in flight.  A failure that has been recorded
with its counter, or that the publisher still holds, is told in the end, unless the event
is prepared again before: the new counter knows nothing of it
(`Service.failures_told_unless_overwritten`).
-/

namespace EventSourcing

variable {Payload : Type}

open Multiplexer

/-! ## One counter -/

/-- A failure that comes with an outcome, or is recorded already, is told or remains
recorded. -/
theorem Outstanding.take_failure {waiting : Option Outstanding} (event : Event Payload)
    {failure : Option ProcessingFailure}
    (failed : failure ≠ none ∨ ∃ counter, waiting = some counter ∧ counter.failure ≠ none) :
    (∃ outcome ∈ (take waiting (event, failure)).1, outcome.2 ≠ none) ∨
      ∃ counter, (take waiting (event, failure)).2 = some counter ∧ counter.failure ≠ none := by
  cases waiting with
  | none =>
    refine .inl ⟨(event, failure), List.mem_singleton_self _, ?_⟩
    simpa using failed
  | some found =>
    have recorded : failure.or found.failure ≠ none := by
      rcases failed with isFailure | ⟨counter, isCounter, isFailure⟩
      · obtain ⟨cause, rfl⟩ := Option.ne_none_iff_exists'.mp isFailure
        exact Option.some_ne_none cause
      · obtain rfl := Option.some.inj isCounter
        simpa using fun _ => isFailure
    by_cases isLast : found.pending = 1
    · exact .inl ⟨(event, failure.or found.failure), by simp [take, isLast], recorded⟩
    · exact .inr ⟨⟨found.pending - 1, failure.or found.failure⟩, by simp [take, isLast], recorded⟩

namespace Multiplexer

variable {trace : List (MonitorAction Payload)} {id : EventId} {event : Event Payload}
  {failure : Option ProcessingFailure}

theorem exists_of_expect_eq_ok {multiplexer next : Multiplexer} {id : EventId}
    (granted : multiplexer.expect id = .ok next) :
    ∃ counter, multiplexer.outstanding.get? id = some counter ∧
      next = ⟨multiplexer.outstanding.put id { counter with pending := counter.pending + 1 }⟩ := by
  cases found : multiplexer.outstanding.get? id with
  | none => simp [Multiplexer.expect, found] at granted
  | some counter =>
    simp only [Multiplexer.expect, found, Except.ok.injEq] at granted
    exact ⟨counter, rfl, granted.symm⟩

theorem get?_eq_none_of_expect_eq_error {multiplexer : Multiplexer} {id : EventId}
    {error : MonitorError} (refused : multiplexer.expect id = .error error) :
    multiplexer.outstanding.get? id = none := by
  cases found : multiplexer.outstanding.get? id with
  | none => rfl
  | some counter => simp [Multiplexer.expect, found] at refused

/-- A failure of an event has been told, or it is recorded with the counter of the event. -/
def Recalls (trace : List (MonitorAction Payload)) (id : EventId) : Prop :=
  (∃ outcome ∈ outcomesOf id (run trace).1, outcome.2 ≠ none) ∨
    ∃ counter, (run trace).2.outstanding.get? id = some counter ∧ counter.failure ≠ none

theorem run_receive_own (trace : List (MonitorAction Payload)) (event : Event Payload)
    (failure : Option ProcessingFailure) :
    let taken := Outstanding.take ((run trace).2.outstanding.get? event.id) (event, failure)
    let next := run (trace ++ [.receive ⟨[event], failure⟩])
    outcomesOf event.id next.1 = outcomesOf event.id (run trace).1 ++ taken.1 ∧
      next.2.outstanding.get? event.id = taken.2 := by
  have received := receive_outcomes (run trace).2 ⟨[event], failure⟩ event.id
  have one : outcomesOf event.id [⟨[event], failure⟩] = [(event, failure)] := by
    simp [outcomesOf]
  rw [one, Outstanding.takeAll_singleton] at received
  simp only [run_concat, Multiplexer.perform, outcomesOf_append, ← received, and_self]

theorem run_receive_other (trace : List (MonitorAction Payload)) {event : Event Payload}
    (failure : Option ProcessingFailure) (differ : event.id ≠ id) :
    let next := run (trace ++ [.receive ⟨[event], failure⟩])
    outcomesOf id next.1 = outcomesOf id (run trace).1 ∧
      next.2.outstanding.get? id = (run trace).2.outstanding.get? id := by
  have received := receive_outcomes (run trace).2 ⟨[event], failure⟩ id
  have nothing : outcomesOf id [⟨[event], failure⟩] = [] := by simp [outcomesOf, differ]
  rw [nothing, Outstanding.takeAll] at received
  obtain ⟨told, counter⟩ := Prod.mk.inj received
  simp only [run_concat, Multiplexer.perform, outcomesOf_append, told, counter, List.append_nil,
    and_self]

/-- A failure that is received, or recorded before, is told or recorded afterwards. -/
theorem recalls_receive (failed : failure ≠ none ∨ Recalls trace event.id) :
    Recalls (trace ++ [.receive ⟨[event], failure⟩]) event.id := by
  obtain ⟨told, counter⟩ := run_receive_own trace event failure
  rw [Recalls, told, counter]
  have comes (recorded : failure ≠ none ∨ ∃ counter,
      (run trace).2.outstanding.get? event.id = some counter ∧ counter.failure ≠ none) :=
    Outstanding.take_failure event recorded
  rcases failed with isFailure | ⟨outcome, earlier, isFailure⟩ | recorded
  · rcases comes (.inl isFailure) with ⟨outcome, now, isTold⟩ | stillRecorded
    · exact .inl ⟨outcome, List.mem_append_right _ now, isTold⟩
    · exact .inr stillRecorded
  · exact .inl ⟨outcome, List.mem_append_left _ earlier, isFailure⟩
  · rcases comes (.inr recorded) with ⟨outcome, now, isTold⟩ | stillRecorded
    · exact .inl ⟨outcome, List.mem_append_right _ now, isTold⟩
    · exact .inr stillRecorded

theorem Recalls.receive (recalls : Recalls trace id) (event : Event Payload)
    (failure : Option ProcessingFailure) :
    Recalls (trace ++ [.receive ⟨[event], failure⟩]) id := by
  by_cases own : event.id = id
  · subst own
    exact recalls_receive (.inr recalls)
  · obtain ⟨told, counter⟩ := run_receive_other trace failure own
    rwa [Recalls, told, counter]

theorem Recalls.expect (recalls : Recalls trace id) {other : EventId} {next : Multiplexer}
    (granted : (run trace).2.expect other = .ok next) : Recalls (trace ++ [.expect other]) id := by
  have after : run (trace ++ [.expect other]) = ((run trace).1, next) := by
    simp only [run_concat, Multiplexer.perform, granted, List.append_nil]
  rw [Recalls, after]
  rcases recalls with told | ⟨counter, found, isFailure⟩
  · exact .inl told
  · right
    obtain ⟨counted, isCounted, rfl⟩ := exists_of_expect_eq_ok granted
    by_cases own : id = other
    · subst own
      obtain rfl := Option.some.inj (found.symm.trans isCounted)
      exact ⟨{ counter with pending := counter.pending + 1 }, by simp, isFailure⟩
    · exact ⟨counter, by simpa [own] using found, isFailure⟩

/-- A preparation drops the failure that is recorded with the counter of its event. -/
theorem Recalls.prepare (recalls : Recalls trace id) (event : Event Payload) :
    Recalls (trace ++ [.prepare event.id]) id ∨
      id ∈ (PublicationStep.prepare event).dropped (run trace).2 := by
  rcases recalls with ⟨outcome, told, isFailure⟩ | ⟨counter, found, isFailure⟩
  · refine .inl (.inl ⟨outcome, ?_, isFailure⟩)
    simpa only [run_concat, Multiplexer.perform, List.append_nil] using told
  · by_cases own : id = event.id
    · subst own
      obtain ⟨cause, recorded⟩ := Option.ne_none_iff_exists'.mp isFailure
      right
      simp [PublicationStep.dropped, found, recorded]
    · refine .inl (.inr ⟨counter, ?_, isFailure⟩)
      simpa [run_concat, Multiplexer.perform, Multiplexer.prepare, own] using found

/-! ## Counters and what is outstanding -/

/-- There are counters for events only that have been prepared. -/
theorem get?_eq_none_of_unprepared (trace : List (MonitorAction Payload)) {id : EventId}
    (unprepared : id ∉ preparedIds trace) : (run trace).2.outstanding.get? id = none := by
  induction trace using List.reverseRecOn with
  | nil => rfl
  | append_singleton earlier action ih =>
    rw [run_concat]
    cases action with
    | prepare other =>
      rw [preparedIds_prepare, List.mem_append, not_or, List.mem_singleton] at unprepared
      simpa [Multiplexer.perform, Multiplexer.prepare, unprepared.2] using ih unprepared.1
    | expect other =>
      have uncounted := ih (preparedIds_expect earlier other ▸ unprepared)
      cases granted : (run earlier).2.expect other with
      | error _ => simpa only [Multiplexer.perform, granted] using uncounted
      | ok next =>
        obtain ⟨counter, isCounted, rfl⟩ := exists_of_expect_eq_ok granted
        have differ : id ≠ other := by
          rintro rfl
          simp [uncounted] at isCounted
        simpa [Multiplexer.perform, granted, differ] using uncounted
    | receive notification =>
      have uncounted := ih (preparedIds_receive earlier notification ▸ unprepared)
      have received := receive_outcomes (run earlier).2 notification id
      rw [uncounted, Outstanding.takeAll_none] at received
      exact (Prod.mk.inj received).2

/-- No counter waits for more acknowledgements than are outstanding, for an event each. -/
def Bounded (trace : List (MonitorAction Payload)) (outstanding : List (Event Payload)) : Prop :=
  ∀ id counter, (run trace).2.outstanding.get? id = some counter →
    0 < counter.pending ∧ counter.pending ≤ outstanding.countP fun event => event.id = id

variable {outstanding more : List (Event Payload)}

theorem Bounded.mono (bounded : Bounded trace outstanding)
    (fewer : ∀ id, (outstanding.countP fun event => event.id = id) ≤
      more.countP fun event => event.id = id) : Bounded trace more :=
  fun id counter found =>
    ⟨(bounded id counter found).1, Nat.le_trans (bounded id counter found).2 (fewer id)⟩

theorem Bounded.perm (bounded : Bounded trace outstanding) (same : outstanding.Perm more) :
    Bounded trace more :=
  bounded.mono fun _ => Nat.le_of_eq (same.countP_eq _)

theorem Bounded.cons (bounded : Bounded trace outstanding) (event : Event Payload) :
    Bounded trace (event :: outstanding) :=
  bounded.mono fun _ => (List.sublist_cons_self event outstanding).countP_le

/-- An acknowledgement that no counter waits for may be forgotten. -/
theorem Bounded.of_cons (bounded : Bounded trace (event :: outstanding))
    (uncounted : (run trace).2.outstanding.get? event.id = none) : Bounded trace outstanding := by
  intro id counter found
  have other : event.id ≠ id := by
    rintro rfl
    simp [uncounted] at found
  simpa [List.countP_cons, other] using bounded id counter found

theorem Bounded.prepare (bounded : Bounded trace outstanding) (event : Event Payload) :
    Bounded (trace ++ [.prepare event.id]) (event :: outstanding) := by
  intro id counter found
  by_cases own : id = event.id
  · subst own
    obtain rfl : ({} : Outstanding) = counter := by
      simpa [run_concat, Multiplexer.perform, Multiplexer.prepare] using found
    simp
  · refine bounded.cons event id counter ?_
    simpa [run_concat, Multiplexer.perform, Multiplexer.prepare, own] using found

theorem Bounded.expect (bounded : Bounded trace outstanding) {next : Multiplexer}
    (granted : (run trace).2.expect event.id = .ok next) :
    Bounded (trace ++ [.expect event.id]) (event :: outstanding) := by
  intro id counter found
  obtain ⟨counted, isCounted, isNext⟩ := exists_of_expect_eq_ok granted
  have after : (run (trace ++ [.expect event.id])).2 = next := by
    simp only [run_concat, Multiplexer.perform, granted]
  rw [after, isNext] at found
  by_cases own : id = event.id
  · subst own
    obtain rfl : { counted with pending := counted.pending + 1 } = counter := by simpa using found
    have within := (bounded event.id counted isCounted).2
    simpa [List.countP_cons] using within
  · exact bounded.cons event id counter (by simpa [own] using found)

theorem Bounded.receive (bounded : Bounded trace (event :: outstanding))
    (failure : Option ProcessingFailure) :
    Bounded (trace ++ [.receive ⟨[event], failure⟩]) outstanding := by
  intro id counter found
  by_cases own : event.id = id
  · subst own
    rw [(run_receive_own trace event failure).2] at found
    cases waiting : (run trace).2.outstanding.get? event.id with
    | none => simp [waiting, Outstanding.take] at found
    | some counted =>
      have within := bounded event.id counted waiting
      simp only [List.countP_cons, decide_true, ↓reduceIte] at within
      by_cases isLast : counted.pending = 1
      · simp [waiting, Outstanding.take, isLast] at found
      · obtain rfl : ⟨counted.pending - 1, failure.or counted.failure⟩ = counter := by
          simpa [waiting, Outstanding.take, isLast] using found
        dsimp only
        omega
  · rw [(run_receive_other trace failure own).2] at found
    simpa [List.countP_cons, own] using bounded id counter found

/-- A counter that has gone comes back with a preparation only. -/
theorem get?_receive_eq_none (event : Event Payload) (failure : Option ProcessingFailure)
    (uncounted : (run trace).2.outstanding.get? id = none) :
    (run (trace ++ [.receive ⟨[event], failure⟩])).2.outstanding.get? id = none := by
  by_cases own : event.id = id
  · subst own
    rw [(run_receive_own trace event failure).2, uncounted]
    rfl
  · rwa [(run_receive_other trace failure own).2]

/-- When nothing is outstanding, a failure that is recalled has been told. -/
theorem Recalls.told_of_bounded (recalls : Recalls trace id) (bounded : Bounded trace []) :
    ∃ outcome ∈ outcomesOf id (run trace).1, outcome.2 ≠ none := by
  rcases recalls with told | ⟨counter, found, -⟩
  · exact told
  · obtain ⟨positive, within⟩ := bounded id counter found
    rw [List.countP_nil] at within
    omega

end Multiplexer

/-! ## Ledgers -/

namespace PublicationPlace

/-- The event that is being handed out. -/
def current : PublicationPlace Payload → Option (Event Payload)
  | between _ _ => none
  | inside _ event _ _ _ | facing _ event _ _ _ _ => some event

end PublicationPlace

namespace Ledger

/-- Why nothing has been told of a failure of an event, unless it has been told. -/
inductive Accounts (ledger : Ledger Payload) (id : EventId) : Prop
  | recalled (recalls : Recalls ledger.trace id)
  | held {event : Event Payload} (current : ledger.place.current = some event)
      (own : event.id = id) (isFailure : ledger.failure ≠ none)
  | unheard (isUnheard : id ∈ ledger.unheard.map Event.id)
  | overwritten (isOverwritten : id ∈ ledger.overwritten)

/-- No counter waits for more than what is outstanding, and no failure gets lost without
an account of it. -/
structure Remembers (ledger : Ledger Payload) : Prop where
  bounded : Bounded ledger.trace ledger.outstanding
  missed (event : Event Payload) (member : Listener Payload) :
    ledger.place.current = some event → ledger.place.faced = some member →
      member.isAsynchronous = true → ledger.isTracked = false →
        (run ledger.trace).2.outstanding.get? event.id = none
  accounts (event : Event Payload) (cause : ProcessingFailure) :
    (event, some cause) ∈ ledger.handled → ledger.Accounts event.id

variable {ledger next : Ledger Payload} {id : EventId}

/-- A step that leaves the publisher's event and everything else alone that an account
refers to. -/
theorem Accounts.keep (account : ledger.Accounts id) (sameTrace : next.trace = ledger.trace)
    (sameCurrent : next.place.current = ledger.place.current)
    (keeps : ledger.failure ≠ none → next.failure ≠ none)
    (moreUnheard : ledger.unheard ⊆ next.unheard)
    (sameOverwritten : next.overwritten = ledger.overwritten) : next.Accounts id := by
  cases account with
  | recalled recalls => exact .recalled (sameTrace ▸ recalls)
  | held current own isFailure => exact .held (sameCurrent.trans current) own (keeps isFailure)
  | unheard isUnheard => exact .unheard (List.map_subset _ moreUnheard isUnheard)
  | overwritten isOverwritten => exact .overwritten (sameOverwritten ▸ isOverwritten)

/-- A step that acknowledges an event, and may be the last that is done with it. -/
theorem Accounts.receive (account : ledger.Accounts id) {event : Event Payload}
    {failure : Option ProcessingFailure}
    (moreTrace : next.trace = ledger.trace ++ [.receive ⟨[event], failure⟩])
    (settles : (next.place.current = ledger.place.current ∧ next.failure = ledger.failure) ∨
      (ledger.place.current = some event ∧ failure = ledger.failure))
    (sameUnheard : next.unheard = ledger.unheard)
    (sameOverwritten : next.overwritten = ledger.overwritten) : next.Accounts id := by
  cases account with
  | recalled recalls =>
    refine .recalled ?_
    rw [moreTrace]
    exact recalls.receive event failure
  | @held other current own isFailure =>
    rcases settles with ⟨sameCurrent, sameFailure⟩ | ⟨isCurrent, rfl⟩
    · exact .held (sameCurrent.trans current) own (sameFailure ▸ isFailure)
    · obtain rfl : event = other := Option.some.inj (isCurrent.symm.trans current)
      subst own
      refine .recalled ?_
      rw [moreTrace]
      exact recalls_receive (.inl isFailure)
  | unheard isUnheard => exact .unheard (sameUnheard ▸ isUnheard)
  | overwritten isOverwritten => exact .overwritten (sameOverwritten ▸ isOverwritten)

theorem remembers_start : ({ place := .between [] [] } : Ledger Payload).Remembers where
  bounded id counter found := by simp [run, Table.get?, Table.empty, Table.findEntry] at found
  missed _ _ isCurrent := by simp [PublicationPlace.current] at isCurrent
  accounts _ _ isHandled := absurd isHandled List.not_mem_nil

/-- An account of every failure, after a step that reports on one event or on none. -/
theorem accounts_of_handled {event : Event Payload} {failure : Option ProcessingFailure}
    (more : next.handled = ledger.handled ++ [(event, failure)])
    (earlier : ∀ (other : Event Payload) cause, (other, some cause) ∈ ledger.handled →
      next.Accounts other.id)
    (now : failure ≠ none → next.Accounts event.id) (other : Event Payload)
    (cause : ProcessingFailure) (isHandled : (other, some cause) ∈ next.handled) :
    next.Accounts other.id := by
  rw [more] at isHandled
  rcases List.mem_append.mp isHandled with before | isNew
  · exact earlier other cause before
  · obtain ⟨rfl, rfl⟩ := Prod.mk.inj (List.mem_singleton.mp isNew)
    exact now (Option.some_ne_none cause)

theorem Remembers.bounded_step (remembers : ledger.Remembers) (steps : ledger.Step next) :
    Bounded next.trace next.outstanding := by
  have bounded := remembers.bounded
  cases steps with
  | stay => exact bounded
  | announce stands members events =>
    rw [outstanding_between stands] at bounded
    rwa [outstanding_between rfl]
  | @prepare past rest event stands =>
    rw [outstanding_between stands] at bounded
    rw [outstanding_inside rfl]
    exact bounded.prepare event
  | approach stands direct =>
    rw [outstanding_inside stands] at bounded
    rwa [outstanding_facing_direct rfl direct]
  | expect stands reportsLater granted =>
    rw [outstanding_inside stands] at bounded
    rw [outstanding_facing_asynchronous rfl reportsLater]
    exact bounded.expect granted
  | @miss past rest event visited upcoming member stands reportsLater error refused =>
    rw [outstanding_inside stands] at bounded
    rw [outstanding_facing_asynchronous rfl reportsLater]
    exact bounded.cons event
  | answer stands direct failure =>
    rw [outstanding_facing_direct stands direct] at bounded
    rwa [outstanding_inside rfl]
  | @accept _ _ _ _ _ member stands reportsLater =>
    exact bounded.perm (outstanding_accept stands reportsLater member.key rfl rfl rfl)
  | refuse stands reportsLater tracked cause =>
    rw [outstanding_facing_asynchronous stands reportsLater] at bounded
    rw [outstanding_inside rfl]
    exact bounded.receive (some cause)
  | @refuseUntracked past rest event visited upcoming member stands reportsLater untracked cause =>
    -- Nobody waits for this acknowledgement, so no counter is too high without it.
    have uncounted := remembers.missed event member (by rw [stands]; rfl) (by rw [stands]; rfl)
      reportsLater untracked
    rw [outstanding_facing_asynchronous stands reportsLater] at bounded
    rw [outstanding_inside rfl]
    exact bounded.of_cons uncounted
  | settle stands =>
    rw [outstanding_inside stands] at bounded
    rw [outstanding_between rfl]
    exact bounded.receive ledger.failure
  | @hear earlier later key event split failure =>
    have taken : ledger.outstanding.Perm (event :: outstanding { ledger with
        trace := ledger.trace ++ [.receive ⟨[event], failure⟩]
        waiting := earlier ++ later
        handled := ledger.handled ++ [(event, failure)] }) :=
      outstanding_take split rfl rfl rfl
    exact (bounded.perm taken).receive failure
  | overhear split failure => exact bounded.perm (outstanding_miss split rfl rfl rfl)

theorem Remembers.missed_step (remembers : ledger.Remembers) (steps : ledger.Step next)
    {event : Event Payload} {member : Listener Payload}
    (isCurrent : next.place.current = some event) (isFaced : next.place.faced = some member)
    (reportsLater : member.isAsynchronous = true) (untracked : next.isTracked = false) :
    (run next.trace).2.outstanding.get? event.id = none := by
  cases steps with
  | stay => exact remembers.missed event member isCurrent isFaced reportsLater untracked
  | approach stands direct =>
    obtain rfl := Option.some.inj isFaced
    rw [direct] at reportsLater
    exact Bool.noConfusion reportsLater
  | expect => exact Bool.noConfusion untracked
  | miss stands _ refused =>
    obtain rfl := Option.some.inj isCurrent
    exact get?_eq_none_of_expect_eq_error refused
  | @hear _ _ _ other _ failure =>
    exact get?_receive_eq_none other failure
      (remembers.missed event member isCurrent isFaced reportsLater untracked)
  | overhear => exact remembers.missed event member isCurrent isFaced reportsLater untracked
  | _ => simp [PublicationPlace.faced] at isFaced

theorem Remembers.accounts_step (remembers : ledger.Remembers) (steps : ledger.Step next)
    (event : Event Payload) (cause : ProcessingFailure)
    (isHandled : (event, some cause) ∈ next.handled) : next.Accounts event.id := by
  have accounts := remembers.accounts
  cases steps with
  | stay => exact accounts event cause isHandled
  | announce stands | approach stands | miss stands | accept stands =>
    refine (accounts event cause isHandled).keep rfl ?_ id (List.Subset.refl _) rfl
    rw [stands]
    rfl
  | @prepare _ _ current stands =>
    cases accounts event cause isHandled with
    | recalled recalls =>
      rcases recalls.prepare current with still | isDropped
      · exact .recalled still
      · exact .overwritten (List.mem_append_right _ isDropped)
    | held isCurrent => simp [stands, PublicationPlace.current] at isCurrent
    | unheard isUnheard => exact .unheard isUnheard
    | overwritten isOverwritten => exact .overwritten (List.mem_append_left _ isOverwritten)
  | expect stands _ granted =>
    cases accounts event cause isHandled with
    | recalled recalls => exact .recalled (recalls.expect granted)
    | held isCurrent own isFailure =>
      refine .held ?_ own isFailure
      rw [← isCurrent, stands]
      rfl
    | unheard isUnheard => exact .unheard isUnheard
    | overwritten isOverwritten => exact .overwritten isOverwritten
  | answer stands _ failure =>
    refine accounts_of_handled rfl (fun other earlier before => ?_) (fun isFailure => ?_) event
      cause isHandled
    · refine (accounts other earlier before).keep rfl ?_ ?_ (List.Subset.refl _) rfl
      · rw [stands]
        rfl
      · exact fun held => by simpa using fun _ => held
    · obtain ⟨latest, rfl⟩ := Option.ne_none_iff_exists'.mp isFailure
      exact .held rfl rfl (Option.some_ne_none latest)
  | refuse stands =>
    refine accounts_of_handled rfl (fun other earlier before => ?_) (fun isFailure => ?_) event
      cause isHandled
    · refine (accounts other earlier before).receive rfl (.inl ⟨?_, rfl⟩) rfl rfl
      rw [stands]
      rfl
    · exact .recalled (recalls_receive (.inl isFailure))
  | refuseUntracked stands _ _ latest =>
    refine accounts_of_handled rfl (fun other earlier before => ?_) (fun _ => ?_) event cause
      isHandled
    · refine (accounts other earlier before).keep rfl ?_ ?_ (List.Subset.refl _) rfl
      · rw [stands]
        rfl
      · exact fun _ => Option.some_ne_none latest
    · exact .held rfl rfl (Option.some_ne_none latest)
  | settle stands =>
    refine (accounts event cause isHandled).receive rfl (.inr ⟨?_, rfl⟩) rfl rfl
    rw [stands]
    rfl
  | hear split failure =>
    refine accounts_of_handled rfl (fun other earlier before => ?_) (fun isFailure => ?_) event
      cause isHandled
    · exact (accounts other earlier before).receive rfl (.inl ⟨rfl, rfl⟩) rfl rfl
    · exact .recalled (recalls_receive (.inl isFailure))
  | overhear split failure =>
    refine accounts_of_handled rfl (fun other earlier before => ?_) (fun _ => ?_) event cause
      isHandled
    · exact (accounts other earlier before).keep rfl rfl id (List.subset_append_left _ _) rfl
    · exact .unheard (by simp)

theorem Remembers.step (remembers : ledger.Remembers) (steps : ledger.Step next) :
    next.Remembers where
  bounded := remembers.bounded_step steps
  missed _ _ := remembers.missed_step steps
  accounts := remembers.accounts_step steps

/-! ### Events that are published again -/

theorem Step.prepares (steps : ledger.Step next) :
    (preparedIds next.trace = preparedIds ledger.trace ∧
      next.place.prepared = ledger.place.prepared ∧ next.overwritten = ledger.overwritten) ∨
    ∃ event : Event Payload, preparedIds next.trace = preparedIds ledger.trace ++ [event.id] ∧
      next.place.prepared = ledger.place.prepared ++ [event] ∧
      next.overwritten = ledger.overwritten ++
        (PublicationStep.prepare event).dropped (run ledger.trace).2 := by
  cases steps with
  | @prepare past rest event stands =>
    refine .inr ⟨event, preparedIds_prepare _ _, ?_, rfl⟩
    rw [stands]
    rfl
  | _ =>
    left
    simp_all [PublicationPlace.prepared]

/-- An event is prepared again before its failure is dropped. -/
structure Repeats (ledger : Ledger Payload) : Prop where
  prepares : preparedIds ledger.trace = ledger.place.prepared.map Event.id
  again (id : EventId) : id ∈ ledger.overwritten → 2 ≤ (preparedIds ledger.trace).count id

theorem repeats_start : ({ place := .between [] [] } : Ledger Payload).Repeats where
  prepares := rfl
  again _ isOverwritten := absurd isOverwritten List.not_mem_nil

theorem Repeats.step (repeats : ledger.Repeats) (steps : ledger.Step next) : next.Repeats := by
  rcases steps.prepares with ⟨sameIds, samePrepared, sameOverwritten⟩ |
    ⟨event, moreIds, morePrepared, moreOverwritten⟩
  · constructor
    · rw [sameIds, samePrepared, repeats.prepares]
    · rw [sameIds, sameOverwritten]
      exact repeats.again
  · constructor
    · rw [moreIds, morePrepared, repeats.prepares, List.map_append, List.map_singleton]
    · intro id isOverwritten
      rw [moreIds, List.count_append]
      rw [moreOverwritten] at isOverwritten
      rcases List.mem_append.mp isOverwritten with before | isDropped
      · exact Nat.le_add_right_of_le (repeats.again id before)
      · have isRecorded : (run ledger.trace).2.outstanding.get? event.id ≠ none ∧
            id = event.id := by
          cases found : (run ledger.trace).2.outstanding.get? event.id with
          | none => simp [PublicationStep.dropped, found] at isDropped
          | some counter =>
            refine ⟨Option.some_ne_none counter, ?_⟩
            cases recorded : counter.failure with
            | none => simp [PublicationStep.dropped, found, recorded] at isDropped
            | some cause => simpa [PublicationStep.dropped, found, recorded] using isDropped
        obtain ⟨isCounted, rfl⟩ := isRecorded
        have earlier : 0 < (preparedIds ledger.trace).count event.id := by
          by_contra never
          exact isCounted (get?_eq_none_of_unprepared ledger.trace
            (List.count_eq_zero.mp (Nat.eq_zero_of_not_pos never)))
        rw [List.count_singleton_self]
        omega

end Ledger

/-! ## Whole runs -/

namespace Service

theorem leavesNothing_of_fixed {actions : List (ServiceAction Payload)}
    (fixed : ∀ action ∈ actions, action.KeepsMembers) (service : Service Payload) :
    service.LeavesNothing actions := by
  induction actions generalizing service with
  | nil => trivial
  | cons action rest ih =>
    obtain ⟨keeps, later⟩ := List.forall_mem_cons.mp fixed
    refine ⟨?_, ih later _⟩
    rintro key rfl
    exact keeps.elim

/-- A cluster whose members stay: once nothing is left to be done, a failure of an event
that a member has handled has been told to every monitor, unless the event was prepared
again when a failure of it was recorded. -/
theorem failures_told_unless_overwritten (name : String) (listeners : List (Listener Payload))
    (monitors : List String) (actions : List (ServiceAction Payload))
    (fixed : ∀ action ∈ actions, action.KeepsMembers) :
    let service := (ofCluster (Cluster.assembled name listeners monitors)).performAll actions
    (service.IsIdle →
      (∀ (event : Event Payload) cause, (event, some cause) ∈ service.handled →
        event.id ∈ service.overwritten ∨
          ∀ monitor ∈ service.cluster.monitors.monitors,
            ∃ outcome ∈ outcomesOf event.id (service.toldTo monitor), outcome.2 ≠ none) ∧
      ∀ id ∈ service.overwritten, 2 ≤ (service.published.map Event.id).count id) ∧
    ∃ more : List (ServiceAction Payload), (∀ action ∈ more, action.KeepsMembers) ∧
      (service.performAll more).IsIdle ∧
      (service.performAll more).published = service.published := by
  intro service
  have fresh := Cluster.fresh_assembled name listeners monitors
  have keeps (ledger next : Ledger Payload) (kept : ledger.Remembers ∧ ledger.Repeats)
      (steps : ledger.Step next) : next.Remembers ∧ next.Repeats :=
    ⟨kept.1.step steps, kept.2.step steps⟩
  obtain ⟨ledger, ⟨remembers, repeats⟩, tracks⟩ := (tracks_ofCluster fresh).performAll keeps
    ⟨Ledger.remembers_start, Ledger.repeats_start⟩ actions
  refine ⟨fun idle => ?_, tracks.exists_idle⟩
  obtain ⟨base, isBase, follows⟩ := tracks.follows
  obtain ⟨stands, nothingWaits⟩ := tracks.of_isIdle idle
  have heard : ledger.unheard = [] := by
    rw [← tracks.unheard]
    exact ((watches_ofCluster fresh).performAll (leavesNothing_of_fixed fixed _)).unheard
  have bounded : Bounded ledger.trace [] := by
    have settled := remembers.bounded
    rwa [Ledger.outstanding_between stands, nothingWaits, heard] at settled
  constructor
  · intro event cause isHandled
    rw [tracks.handled] at isHandled
    cases remembers.accounts event cause isHandled with
    | recalled recalls =>
      right
      intro monitor isMonitor
      rw [follows.monitors_eq] at isMonitor
      rw [follows.toldTo_eq (isBase ▸ fresh.monitors) isMonitor]
      exact recalls.told_of_bounded bounded
    | held current => simp [stands, PublicationPlace.current] at current
    | unheard isUnheard => simp [heard] at isUnheard
    | overwritten isOverwritten => exact .inl (tracks.overwritten ▸ isOverwritten)
  · intro id isOverwritten
    rw [tracks.overwritten] at isOverwritten
    have again := repeats.again id isOverwritten
    rwa [repeats.prepares, stands] at again

/-! ## Events that are published twice -/

def idleWorkers : List (Listener Nat) := [idleWorker, { idleWorker with key := "other" }]

/-- The publisher hands an event to two members. -/
def handedToTwo : List (ServiceAction Nat) :=
  .publish [numbered 1] :: List.replicate 6 (.step (.ok ()))

/-- A worker fails when the event has been published twice. -/
def lateFailure : List (ServiceAction Nat) :=
  handedToTwo ++ handedToTwo ++
    [.work "worker" (.error (.failed "reason")), .work "other" (.ok ()),
      .work "worker" (.ok ()), .work "other" (.ok ())]

theorem failures_told_unless_overwritten_of_late :
    let service :=
      (ofCluster (Cluster.assembled "cluster" idleWorkers ["monitor"])).performAll lateFailure
    (∀ action ∈ lateFailure, action.KeepsMembers) ∧ service.IsIdle ∧
      ∃ outcome ∈ outcomesOf (numbered 1).id (service.toldTo "monitor"), outcome.2 ≠ none := by
  intro service
  have fixed : ∀ action ∈ lateFailure, action.KeepsMembers := by
    simp [lateFailure, handedToTwo, ServiceAction.KeepsMembers]
  have idle : service.IsIdle := isIdle_of_workers rfl rfl (by decide +kernel)
  have failed : (numbered 1, some ⟨"Worker", .failed "reason"⟩) ∈ service.handled := by
    decide +kernel
  have kept : (numbered 1).id ∉ service.overwritten := by decide +kernel
  have isMonitor : "monitor" ∈ service.cluster.monitors.monitors := by decide +kernel
  obtain ⟨told, -⟩ :=
    (failures_told_unless_overwritten "cluster" idleWorkers ["monitor"] lateFailure fixed).1 idle
  exact ⟨fixed, idle, (told _ _ failed).resolve_left kept "monitor" isMonitor⟩

/-- A worker fails before the event is published for the second time. -/
def earlyFailure : List (ServiceAction Nat) :=
  handedToTwo ++ .work "worker" (.error (.failed "reason")) :: handedToTwo ++
    [.work "other" (.ok ()), .work "other" (.ok ()), .work "worker" (.ok ())]

/-- Nothing is left to be done, but the monitor has been told of no failure. -/
theorem overwritten_failure_untold :
    let service :=
      (ofCluster (Cluster.assembled "cluster" idleWorkers ["monitor"])).performAll earlyFailure
    (∀ action ∈ earlyFailure, action.KeepsMembers) ∧ service.IsIdle ∧
      (numbered 1, some ⟨"Worker", .failed "reason"⟩) ∈ service.handled ∧
      service.cluster.monitors.monitors = ["monitor"] ∧
      (service.toldTo "monitor").map Notification.failure = [none, none] := by
  intro service
  have fixed : ∀ action ∈ earlyFailure, action.KeepsMembers := by
    simp [earlyFailure, handedToTwo, ServiceAction.KeepsMembers]
  have idle : service.IsIdle := isIdle_of_workers rfl rfl (by decide +kernel)
  exact ⟨fixed, idle, by decide +kernel, by decide +kernel, by decide +kernel⟩

end Service

end EventSourcing
