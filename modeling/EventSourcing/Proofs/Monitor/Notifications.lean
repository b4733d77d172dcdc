import EventSourcing.Proofs.Monitor.Acknowledgements
import EventSourcing.Proofs.Table

/-!
# Runs of a multiplexer

A run prepares events, registers invocations and passes on acknowledgements, in
any order.  A trace is orderly when an event is prepared once and before it is
acknowledged, when an invocation is registered only while an acknowledgement of
its event is outstanding, and when no event is acknowledged more often than it was
registered.  Events that nobody prepares may turn up in any batch.

After an orderly trace every counter is the one that the registrations and the
acknowledgements of its event give (`Multiplexer.Settled`), and with
the counters the notifications of the target are known.
-/

namespace EventSourcing

/-- What is done to a multiplexer. -/
inductive MonitorAction (Payload : Type) where
  | prepare (id : EventId)
  | expect (id : EventId)
  | receive (notification : Notification Payload)

namespace MonitorAction

variable {Payload : Type}

/-- Whether an action adds an acknowledgement of an event. -/
def registers (id : EventId) : MonitorAction Payload → Bool
  | .prepare other | .expect other => other = id
  | .receive _ => false

def prepared? : MonitorAction Payload → Option EventId
  | .prepare id => some id
  | .expect _ | .receive _ => none

def received? : MonitorAction Payload → Option (Notification Payload)
  | .receive notification => some notification
  | .prepare _ | .expect _ => none

end MonitorAction

namespace Multiplexer

variable {Payload : Type}

/-- Performs an action, and gives what the target is told.  An invocation of an
event that is not prepared is refused and changes nothing. -/
def perform (multiplexer : Multiplexer) :
    MonitorAction Payload → List (Notification Payload) × Multiplexer
  | .prepare id => ([], multiplexer.prepare id)
  | .expect id =>
    match multiplexer.expect id with
    | .ok next => ([], next)
    | .error _ => ([], multiplexer)
  | .receive notification => multiplexer.receive notification

/-- All that the target is told in a run of a new multiplexer, and the multiplexer
after it. -/
def run (trace : List (MonitorAction Payload)) : List (Notification Payload) × Multiplexer :=
  trace.foldl
    (fun (told, multiplexer) action =>
      (told ++ (multiplexer.perform action).1, (multiplexer.perform action).2))
    ([], {})

/-- The events that a trace prepares. -/
def preparedIds (trace : List (MonitorAction Payload)) : List EventId :=
  trace.filterMap MonitorAction.prepared?

/-- The number of acknowledgements of an event that a trace registers. -/
def registrations (trace : List (MonitorAction Payload)) (id : EventId) : Nat :=
  trace.countP (MonitorAction.registers id)

/-- The acknowledgements of an event in a trace, in order. -/
def acknowledgements (trace : List (MonitorAction Payload)) (id : EventId) :
    List (EventOutcome Payload) :=
  outcomesOf id (trace.filterMap MonitorAction.received?)

/-- Traces that prepare every event once, and acknowledge it at most as often as
they have registered. -/
inductive Orderly : List (MonitorAction Payload) → Prop
  | start : Orderly []
  | prepare {trace : List (MonitorAction Payload)} {id : EventId} (before : Orderly trace)
      (new : id ∉ preparedIds trace) (unheard : acknowledgements trace id = []) :
      Orderly (trace ++ [.prepare id])
  | expect {trace : List (MonitorAction Payload)} {id : EventId} (before : Orderly trace)
      (outstanding : (acknowledgements trace id).length < registrations trace id) :
      Orderly (trace ++ [.expect id])
  | receive {trace : List (MonitorAction Payload)} {notification : Notification Payload}
      (before : Orderly trace)
      (within : ∀ id ∈ preparedIds trace,
        (acknowledgements trace id).length + (outcomesOf id [notification]).length ≤
          registrations trace id) :
      Orderly (trace ++ [.receive notification])

section Traces

variable (trace : List (MonitorAction Payload)) (id other : EventId)
  (notification : Notification Payload)

theorem run_concat (action : MonitorAction Payload) :
    run (trace ++ [action]) =
      ((run trace).1 ++ ((run trace).2.perform action).1, ((run trace).2.perform action).2) := by
  simp only [run, List.foldl_append, List.foldl_cons, List.foldl_nil]

@[simp] theorem preparedIds_prepare :
    preparedIds (trace ++ [.prepare other]) = preparedIds trace ++ [other] := by
  simp [preparedIds, MonitorAction.prepared?]

@[simp] theorem preparedIds_expect :
    preparedIds (trace ++ [.expect other]) = preparedIds trace := by
  simp [preparedIds, MonitorAction.prepared?]

@[simp] theorem preparedIds_receive :
    preparedIds (trace ++ [.receive notification]) = preparedIds trace := by
  simp [preparedIds, MonitorAction.prepared?]

@[simp] theorem registrations_prepare :
    registrations (trace ++ [.prepare other]) id =
      registrations trace id + if other = id then 1 else 0 := by
  simp [registrations, List.countP_singleton, MonitorAction.registers]

@[simp] theorem registrations_expect :
    registrations (trace ++ [.expect other]) id =
      registrations trace id + if other = id then 1 else 0 := by
  simp [registrations, List.countP_singleton, MonitorAction.registers]

@[simp] theorem registrations_receive :
    registrations (trace ++ [.receive notification]) id = registrations trace id := by
  simp [registrations, MonitorAction.registers]

@[simp] theorem acknowledgements_prepare :
    acknowledgements (trace ++ [.prepare other]) id = acknowledgements trace id := by
  simp [acknowledgements, MonitorAction.received?, List.filterMap_cons]

@[simp] theorem acknowledgements_expect :
    acknowledgements (trace ++ [.expect other]) id = acknowledgements trace id := by
  simp [acknowledgements, MonitorAction.received?, List.filterMap_cons]

@[simp] theorem acknowledgements_receive :
    acknowledgements (trace ++ [.receive notification]) id =
      acknowledgements trace id ++ outcomesOf id [notification] := by
  simp [acknowledgements, MonitorAction.received?]

end Traces

/-- The state of a run, read off its trace. -/
structure Settled (trace : List (MonitorAction Payload)) : Prop where
  distinct : (run trace).2.outstanding.keys.Nodup
  apart : (preparedIds trace).Nodup
  within (id : EventId) : id ∈ preparedIds trace →
    (acknowledgements trace id).length ≤ registrations trace id
  unregistered (id : EventId) : id ∉ preparedIds trace → registrations trace id = 0
  counters (id : EventId) : (run trace).2.outstanding.get? id =
    Outstanding.counterAfter (registrations trace id) (acknowledgements trace id)
  told (id : EventId) : outcomesOf id (run trace).1 =
    if id ∈ preparedIds trace then
      Outstanding.toldAfter (registrations trace id) (acknowledgements trace id)
    else acknowledgements trace id

theorem settled_nil : Settled ([] : List (MonitorAction Payload)) where
  distinct := List.nodup_nil
  apart := List.nodup_nil
  within id isPrepared := by simp [preparedIds] at isPrepared
  unregistered _ _ := rfl
  counters _ := rfl
  told _ := rfl

theorem nodup_keys_acknowledge (multiplexer : Multiplexer) (id : EventId)
    (failure : Option ProcessingFailure) (distinct : multiplexer.outstanding.keys.Nodup) :
    (multiplexer.acknowledge id failure).2.outstanding.keys.Nodup := by
  unfold acknowledge
  cases multiplexer.outstanding.get? id with
  | none => exact distinct
  | some counter =>
    by_cases isLast : counter.pending = 1
    · simpa [isLast] using Table.nodup_keys_erase distinct id
    · simpa [isLast] using Table.nodup_keys_put distinct id _

section Steps

variable {trace : List (MonitorAction Payload)} {id : EventId}

theorem Settled.get?_eq_none (settled : Settled trace) (new : id ∉ preparedIds trace) :
    (run trace).2.outstanding.get? id = none := by
  rw [settled.counters, settled.unregistered id new]
  simp [Outstanding.counterAfter]

theorem Settled.mem_preparedIds (settled : Settled trace)
    (outstanding : (acknowledgements trace id).length < registrations trace id) :
    id ∈ preparedIds trace := by
  by_contra new
  rw [settled.unregistered id new] at outstanding
  exact Nat.not_lt_zero _ outstanding

/-- An invocation of an event is registered while acknowledgements are outstanding. -/
theorem Settled.expect_eq_ok (settled : Settled trace)
    (outstanding : (acknowledgements trace id).length < registrations trace id) :
    (run trace).2.expect id = .ok ⟨(run trace).2.outstanding.put id
      { pending := registrations trace id - (acknowledgements trace id).length + 1
        failure := lastFailure (acknowledgements trace id) }⟩ := by
  have found := settled.counters id
  rw [Outstanding.counterAfter, if_pos outstanding] at found
  simp only [expect, found]

theorem Settled.prepare (settled : Settled trace) (new : id ∉ preparedIds trace)
    (unheard : acknowledgements trace id = []) : Settled (trace ++ [.prepare id]) := by
  have unregistered := settled.unregistered id new
  constructor
  case distinct =>
    rw [run_concat]
    exact Table.nodup_keys_put settled.distinct id _
  case apart =>
    rw [preparedIds_prepare, List.nodup_append]
    refine ⟨settled.apart, by simp, ?_⟩
    rintro other isPrepared _ isNew rfl
    exact new (List.mem_singleton.mp isNew ▸ isPrepared)
  case within =>
    intro other isPrepared
    rw [acknowledgements_prepare, registrations_prepare]
    rcases List.mem_append.mp (preparedIds_prepare trace id ▸ isPrepared) with old | isNew
    · have := settled.within other old
      omega
    · rw [List.mem_singleton.mp isNew, unheard]
      exact Nat.zero_le _
  case unregistered =>
    intro other unprepared
    rw [preparedIds_prepare, List.mem_append, not_or, List.mem_singleton] at unprepared
    rw [registrations_prepare, settled.unregistered other unprepared.1]
    simp [Ne.symm unprepared.2]
  case counters =>
    intro other
    rw [run_concat, acknowledgements_prepare, registrations_prepare]
    simp only [perform, Multiplexer.prepare, Table.get?_put]
    by_cases isNew : other = id
    · rw [if_pos isNew, if_pos isNew.symm, isNew, unregistered, unheard]
      rfl
    · rw [if_neg isNew, if_neg (Ne.symm isNew), settled.counters]
      rfl
  case told =>
    intro other
    rw [run_concat, acknowledgements_prepare, registrations_prepare, preparedIds_prepare]
    simp only [perform, List.append_nil, settled.told, List.mem_append, List.mem_singleton]
    by_cases isNew : other = id
    · subst isNew
      simp [new, unheard, unregistered, Outstanding.toldAfter]
    · simp [isNew, Ne.symm isNew]

theorem Settled.expect (settled : Settled trace)
    (outstanding : (acknowledgements trace id).length < registrations trace id) :
    Settled (trace ++ [.expect id]) := by
  have granted := settled.expect_eq_ok outstanding
  constructor
  case distinct =>
    rw [run_concat]
    simp only [perform, granted]
    exact Table.nodup_keys_put settled.distinct id _
  case apart =>
    rw [preparedIds_expect]
    exact settled.apart
  case within =>
    intro other isPrepared
    rw [preparedIds_expect] at isPrepared
    rw [acknowledgements_expect, registrations_expect]
    have := settled.within other isPrepared
    omega
  case unregistered =>
    intro other unprepared
    rw [preparedIds_expect] at unprepared
    have differ : id ≠ other := by
      rintro rfl
      exact unprepared (settled.mem_preparedIds outstanding)
    rw [registrations_expect, settled.unregistered other unprepared]
    simp [differ]
  case counters =>
    intro other
    rw [run_concat, acknowledgements_expect, registrations_expect]
    simp only [perform, granted, Table.get?_put]
    by_cases isOwn : other = id
    · subst isOwn
      have stillOutstanding : (acknowledgements trace other).length <
          registrations trace other + 1 := by omega
      have remaining : registrations trace other - (acknowledgements trace other).length + 1 =
          registrations trace other + 1 - (acknowledgements trace other).length := by omega
      simp only [↓reduceIte, Outstanding.counterAfter, stillOutstanding, remaining]
    · rw [if_neg isOwn, if_neg (Ne.symm isOwn), settled.counters]
      rfl
  case told =>
    intro other
    rw [run_concat, acknowledgements_expect, registrations_expect, preparedIds_expect]
    simp only [perform, granted, List.append_nil, settled.told]
    by_cases isOwn : other = id
    · subst isOwn
      have notLast : (acknowledgements trace other).length ≠ registrations trace other := by omega
      have stillNotLast : (acknowledgements trace other).length ≠
          registrations trace other + 1 := by omega
      simp only [Outstanding.toldAfter, notLast, stillNotLast, ↓reduceIte]
    · rw [if_neg (Ne.symm isOwn)]
      rfl

theorem Settled.receive (settled : Settled trace) {notification : Notification Payload}
    (within : ∀ id ∈ preparedIds trace,
      (acknowledgements trace id).length + (outcomesOf id [notification]).length ≤
        registrations trace id) :
    Settled (trace ++ [.receive notification]) := by
  have taken (other : EventId) :=
    settled.counters other ▸ receive_outcomes (run trace).2 notification other
  constructor
  case distinct =>
    rw [run_concat]
    exact receive_keeps nodup_keys_acknowledge settled.distinct notification
  case apart =>
    rw [preparedIds_receive]
    exact settled.apart
  case within =>
    intro other isPrepared
    rw [preparedIds_receive] at isPrepared
    rw [acknowledgements_receive, registrations_receive, List.length_append]
    exact within other isPrepared
  case unregistered =>
    intro other unprepared
    rw [preparedIds_receive] at unprepared
    rw [registrations_receive, settled.unregistered other unprepared]
  case counters =>
    intro other
    rw [run_concat, acknowledgements_receive, registrations_receive]
    have counter := (Prod.mk.inj (taken other)).2
    rw [perform, counter]
    by_cases isPrepared : other ∈ preparedIds trace
    · rw [Outstanding.takeAll_counterAfter (within other isPrepared)]
    · rw [settled.unregistered other isPrepared]
      simp [Outstanding.counterAfter, Outstanding.takeAll_none]
  case told =>
    intro other
    rw [run_concat, acknowledgements_receive, registrations_receive, preparedIds_receive,
      outcomesOf_append, settled.told, perform, (Prod.mk.inj (taken other)).1]
    by_cases isPrepared : other ∈ preparedIds trace
    · rw [if_pos isPrepared, if_pos isPrepared,
        Outstanding.takeAll_counterAfter (within other isPrepared)]
      by_cases foreign : outcomesOf other [notification] = []
      · simp [foreign]
      · have someOfIt : 0 < (outcomesOf other [notification]).length :=
          List.length_pos_iff.mpr foreign
        have notLast : (acknowledgements trace other).length ≠ registrations trace other := by
          have := within other isPrepared
          omega
        rw [if_neg foreign, Outstanding.toldAfter, if_neg notLast]
        rfl
    · rw [if_neg isPrepared, if_neg isPrepared, settled.unregistered other isPrepared]
      simp [Outstanding.counterAfter, Outstanding.takeAll_none]

end Steps

theorem Orderly.settled {trace : List (MonitorAction Payload)} (orderly : Orderly trace) :
    Settled trace := by
  induction orderly with
  | start => exact settled_nil
  | prepare before new unheard ih => exact ih.prepare new unheard
  | expect before outstanding ih => exact ih.expect outstanding
  | receive before within ih => exact ih.receive within

theorem Settled.inFlight {trace : List (MonitorAction Payload)} (settled : Settled trace) :
    (run trace).2.inFlight =
      ((preparedIds trace).filter fun id =>
        (acknowledgements trace id).length < registrations trace id).length := by
  have covered (id : EventId) (waits : id ∈ (run trace).2.outstanding.keys) :
      id ∈ preparedIds trace := by
    by_contra unprepared
    rw [Table.mem_keys_iff, settled.get?_eq_none unprepared] at waits
    exact Bool.noConfusion waits
  rw [Multiplexer.inFlight, Table.size_eq_length_filter settled.distinct settled.apart covered]
  congr 2
  funext id
  rw [settled.counters, Outstanding.counterAfter]
  by_cases outstanding : (acknowledgements trace id).length < registrations trace id
  · simp [outstanding]
  · simp [outstanding]

theorem Settled.pending_pos {trace : List (MonitorAction Payload)} (settled : Settled trace)
    {id : EventId} {counter : Outstanding}
    (found : (run trace).2.outstanding.get? id = some counter) : 0 < counter.pending := by
  rw [settled.counters, Outstanding.counterAfter] at found
  by_cases outstanding : (acknowledgements trace id).length < registrations trace id
  · rw [if_pos outstanding] at found
    obtain rfl := Option.some.inj found
    exact Nat.sub_pos_of_lt outstanding
  · simp [outstanding] at found

theorem Settled.told_nothing {trace : List (MonitorAction Payload)} (settled : Settled trace)
    {id : EventId} (isPrepared : id ∈ preparedIds trace)
    (outstanding : (acknowledgements trace id).length < registrations trace id) :
    outcomesOf id (run trace).1 = [] := by
  rw [settled.told, if_pos isPrepared, Outstanding.toldAfter, if_neg (Nat.ne_of_lt outstanding)]

theorem Settled.told_once {trace : List (MonitorAction Payload)} (settled : Settled trace)
    {id : EventId} (isPrepared : id ∈ preparedIds trace)
    (complete : (acknowledgements trace id).length = registrations trace id) :
    outcomesOf id (run trace).1 = settlement (acknowledgements trace id) := by
  rw [settled.told, if_pos isPrepared, Outstanding.toldAfter, if_pos complete]

theorem registrations_pos {trace : List (MonitorAction Payload)} {id : EventId}
    (isPrepared : id ∈ preparedIds trace) : 0 < registrations trace id := by
  obtain ⟨action, performed, prepares⟩ := List.mem_filterMap.mp isPrepared
  refine List.countP_pos_iff.mpr ⟨action, performed, ?_⟩
  cases action with
  | prepare other => exact decide_eq_true (Option.some.inj prepares)
  | expect other => simp [MonitorAction.prepared?] at prepares
  | receive notification => simp [MonitorAction.prepared?] at prepares

/-- The action that brings the last acknowledgement of an event tells the target
of it; no other action does. -/
theorem Settled.told_by_last {trace : List (MonitorAction Payload)}
    {action : MonitorAction Payload} (settled : Settled trace)
    (next : Settled (trace ++ [action])) {id : EventId} (isPrepared : id ∈ preparedIds trace) :
    outcomesOf id ((run trace).2.perform action).1 =
      if (acknowledgements trace id).length < registrations trace id ∧
          (acknowledgements (trace ++ [action]) id).length =
            registrations (trace ++ [action]) id then
        settlement (acknowledgements (trace ++ [action]) id)
      else [] := by
  have stillPrepared : id ∈ preparedIds (trace ++ [action]) := by
    simp only [preparedIds, List.filterMap_append, List.mem_append]
    exact Or.inl isPrepared
  have whole := next.told id
  rw [if_pos stillPrepared, run_concat, outcomesOf_append] at whole
  by_cases outstanding : (acknowledgements trace id).length < registrations trace id
  · rw [settled.told_nothing isPrepared outstanding, List.nil_append] at whole
    simp only [outstanding, true_and]
    exact whole
  · have complete : (acknowledgements trace id).length = registrations trace id :=
      Nat.le_antisymm (settled.within id isPrepared) (Nat.not_lt.mp outstanding)
    rw [settled.told_once isPrepared complete] at whole
    have registered := registrations_pos isPrepared
    have toldBefore := length_settlement (List.ne_nil_of_length_pos (complete ▸ registered))
    have toldAtMost := Outstanding.length_toldAfter_le
      (registrations (trace ++ [action]) id) (acknowledgements (trace ++ [action]) id)
    rw [← whole, List.length_append, toldBefore] at toldAtMost
    simp only [outstanding, false_and, ↓reduceIte]
    exact List.eq_nil_of_length_eq_zero (by omega)

/-- Whatever the order and the batches in which registrations and acknowledgements
come: the target is told nothing of a prepared event while acknowledgements of it
are outstanding, it is told once with the last of them, of the last failure if one
of them was a failure and of a completion otherwise, and it is not told again.
Counters never run out, and the events in flight are those with outstanding
acknowledgements. -/
theorem Orderly.tells_once {trace : List (MonitorAction Payload)} (orderly : Orderly trace) :
    (∀ id ∈ preparedIds trace,
      (acknowledgements trace id).length ≤ registrations trace id ∧
      ((acknowledgements trace id).length < registrations trace id →
        outcomesOf id (run trace).1 = [] ∧ ∃ next, (run trace).2.expect id = .ok next) ∧
      ((acknowledgements trace id).length = registrations trace id →
        ∃ earlier last, acknowledgements trace id = earlier ++ [last] ∧
          outcomesOf id (run trace).1 =
            [(last.1, lastFailure (acknowledgements trace id))])) ∧
    (∀ id, lastFailure (acknowledgements trace id) ≠ none ↔
      ∃ outcome ∈ acknowledgements trace id, outcome.2 ≠ none) ∧
    (∀ action, Orderly (trace ++ [action]) → ∀ id ∈ preparedIds trace,
      outcomesOf id ((run trace).2.perform action).1 =
        if (acknowledgements trace id).length < registrations trace id ∧
            (acknowledgements (trace ++ [action]) id).length =
              registrations (trace ++ [action]) id then
          settlement (acknowledgements (trace ++ [action]) id)
        else []) ∧
    (∀ id counter, (run trace).2.outstanding.get? id = some counter → 0 < counter.pending) ∧
    (run trace).2.inFlight =
      ((preparedIds trace).filter fun id =>
        (acknowledgements trace id).length < registrations trace id).length := by
  have settled := orderly.settled
  refine ⟨?_, ?_, ?_, fun id counter found => settled.pending_pos found, settled.inFlight⟩
  · intro id isPrepared
    refine ⟨settled.within id isPrepared, fun outstanding => ?_, fun complete => ?_⟩
    · exact ⟨settled.told_nothing isPrepared outstanding, _, settled.expect_eq_ok outstanding⟩
    · have any : acknowledgements trace id ≠ [] :=
        List.ne_nil_of_length_pos (complete ▸ registrations_pos isPrepared)
      obtain ⟨earlier, last, split⟩ : ∃ earlier last,
          acknowledgements trace id = earlier ++ [last] :=
        ⟨_, _, (List.dropLast_concat_getLast any).symm⟩
      refine ⟨earlier, last, split, ?_⟩
      rw [settled.told_once isPrepared complete, split, settlement_concat]
  · intro id
    rw [ne_eq, lastFailure_eq_none_iff]
    simp only [not_forall, exists_prop, ne_eq]
  · intro action extended id isPrepared
    exact settled.told_by_last extended.settled isPrepared

/-- Two events, one of them with an invocation, in two batches with an event that
nobody prepared.  The failure of the first batch is told with the second. -/
theorem Orderly.tells_once_of_two :
    ∃ (first second other : Event Nat) (cause : ProcessingFailure)
      (trace : List (MonitorAction Nat)),
      trace = [.prepare first.id, .prepare second.id, .expect first.id,
        .receive ⟨[first, other, second], some cause⟩, .receive ⟨[first, other], none⟩] ∧
      Orderly trace ∧ outcomesOf first.id (run trace).1 = [(first, some cause)] ∧
      (run trace).2.inFlight = 0 := by
  let first : Event Nat := .plain ⟨EventId.ofNat 1, default, .empty, 0⟩
  let second : Event Nat := .plain ⟨EventId.ofNat 2, default, .empty, 0⟩
  let other : Event Nat := .plain ⟨EventId.ofNat 3, default, .empty, 0⟩
  let cause : ProcessingFailure := default
  have firstPrepared : Orderly ([.prepare first.id] : List (MonitorAction Nat)) :=
    Orderly.start.prepare (by decide) rfl
  have bothPrepared : Orderly ([.prepare first.id, .prepare second.id] :
      List (MonitorAction Nat)) := firstPrepared.prepare (by decide) rfl
  have expected : Orderly ([.prepare first.id, .prepare second.id, .expect first.id] :
      List (MonitorAction Nat)) := bothPrepared.expect (by decide)
  have failed : Orderly [.prepare first.id, .prepare second.id, .expect first.id,
      .receive ⟨[first, other, second], some cause⟩] := expected.receive (by decide)
  have orderly : Orderly [.prepare first.id, .prepare second.id, .expect first.id,
      .receive ⟨[first, other, second], some cause⟩, .receive ⟨[first, other], none⟩] :=
    failed.receive (by decide)
  have settles := orderly.tells_once
  obtain ⟨earlier, last, split, told⟩ := (settles.1 first.id (by decide)).2.2 rfl
  have acknowledgedLast : some (first, none) = some last :=
    (congrArg List.getLast? split).trans List.getLast?_concat
  obtain rfl := Option.some.inj acknowledgedLast
  exact ⟨first, second, other, cause, _, rfl, orderly, told, settles.2.2.2.2⟩

end Multiplexer

end EventSourcing
