import EventSourcing.Monitor.Multiplexer

/-!
# One notification for each prepared event

Seen from one event, a multiplexer is a counter: every acknowledgement of the
event takes one off, and with the last of them the target is told.  What happens
to other events, before, after or in the same batch, does not matter
(`Multiplexer.receive_outcomes`).  So it is enough to follow one counter through
all its acknowledgements, whatever the order and the batches in which they come:
as long as some are outstanding the target is told nothing, and then it is told
once, of the last failure if there was any.
-/

namespace EventSourcing

/-- How the processing of an event ended. -/
abbrev EventOutcome (Payload : Type) := Event Payload × Option ProcessingFailure

/-- What notifications say about an event, in order. -/
def outcomesOf {Payload : Type} (id : EventId) (notifications : List (Notification Payload)) :
    List (EventOutcome Payload) :=
  notifications.flatMap fun notification =>
    (notification.events.filter fun event => event.id = id).map fun event =>
      (event, notification.failure)

/-- The last failure among outcomes. -/
def lastFailure {Payload : Type} (outcomes : List (EventOutcome Payload)) :
    Option ProcessingFailure :=
  (outcomes.filterMap Prod.snd).getLast?

/-- What is told when all outcomes are there: a failure if there is one, the last
of them, and a completion otherwise. -/
def settlement {Payload : Type} (outcomes : List (EventOutcome Payload)) :
    List (EventOutcome Payload) :=
  (outcomes.getLast?.map fun last => (last.1, lastFailure outcomes)).toList

section Outcomes

variable {Payload : Type}

@[simp] theorem outcomesOf_append (id : EventId) (first second : List (Notification Payload)) :
    outcomesOf id (first ++ second) = outcomesOf id first ++ outcomesOf id second :=
  List.flatMap_append

theorem outcomesOf_singleton (id : EventId) (events : List (Event Payload))
    (failure : Option ProcessingFailure) :
    outcomesOf id [⟨events, failure⟩] =
      (events.filter fun event => event.id = id).map fun event => (event, failure) := by
  simp [outcomesOf]

theorem outcomesOf_batch_cons (id : EventId) (event : Event Payload) (rest : List (Event Payload))
    (failure : Option ProcessingFailure) :
    outcomesOf id [⟨event :: rest, failure⟩] =
      (if event.id = id then [(event, failure)] else []) ++ outcomesOf id [⟨rest, failure⟩] := by
  rw [outcomesOf_singleton, outcomesOf_singleton]
  by_cases isOwn : event.id = id <;> simp [isOwn]

theorem outcomesOf_cons_notification (id : EventId) (first : Notification Payload)
    (rest : List (Notification Payload)) :
    outcomesOf id (first :: rest) = outcomesOf id [first] ++ outcomesOf id rest :=
  outcomesOf_append id [first] rest

@[simp] theorem outcomesOf_notificationOf (id : EventId) (events : List (Event Payload))
    (failure : Option ProcessingFailure) :
    outcomesOf id (Multiplexer.notificationOf events failure) =
      outcomesOf id [⟨events, failure⟩] := by
  cases events <;> rfl

@[simp] theorem lastFailure_concat (outcomes : List (EventOutcome Payload))
    (event : Event Payload) (failure : Option ProcessingFailure) :
    lastFailure (outcomes ++ [(event, failure)]) = failure.or (lastFailure outcomes) := by
  cases failure <;> simp [lastFailure]

theorem lastFailure_eq_none_iff (outcomes : List (EventOutcome Payload)) :
    lastFailure outcomes = none ↔ ∀ outcome ∈ outcomes, outcome.2 = none := by
  rw [lastFailure, List.getLast?_eq_none_iff, List.filterMap_eq_nil_iff]

theorem settlement_concat (earlier : List (EventOutcome Payload)) (last : EventOutcome Payload) :
    settlement (earlier ++ [last]) = [(last.1, lastFailure (earlier ++ [last]))] := by
  simp [settlement]

theorem length_settlement {outcomes : List (EventOutcome Payload)} (any : outcomes ≠ []) :
    (settlement outcomes).length = 1 := by
  rw [← List.dropLast_concat_getLast any, settlement_concat]
  rfl

end Outcomes

/-! ## One counter -/

namespace Outstanding

variable {Payload : Type}

/-- What an outcome does to the counter of its event, and what it lets the target
be told. -/
def take (waiting : Option Outstanding) (outcome : EventOutcome Payload) :
    List (EventOutcome Payload) × Option Outstanding :=
  match waiting with
  | none => ([outcome], none)
  | some found =>
    let failure := outcome.2.or found.failure
    if found.pending = 1 then ([(outcome.1, failure)], none)
    else ([], some { pending := found.pending - 1, failure })

/-- What outcomes do to the counter of their event, one after another. -/
def takeAll : Option Outstanding → List (EventOutcome Payload) →
    List (EventOutcome Payload) × Option Outstanding
  | waiting, [] => ([], waiting)
  | waiting, outcome :: rest =>
    let (told, waiting) := take waiting outcome
    let (more, waiting) := takeAll waiting rest
    (told ++ more, waiting)

/-- The counter of an event that expects a number of acknowledgements and has
got some. -/
def counterAfter (expected : Nat) (acknowledged : List (EventOutcome Payload)) :
    Option Outstanding :=
  if acknowledged.length < expected then
    some { pending := expected - acknowledged.length, failure := lastFailure acknowledged }
  else none

/-- What the target has been told of such an event. -/
def toldAfter (expected : Nat) (acknowledged : List (EventOutcome Payload)) :
    List (EventOutcome Payload) :=
  if acknowledged.length = expected then settlement acknowledged else []

theorem length_toldAfter_le (expected : Nat) (acknowledged : List (EventOutcome Payload)) :
    (toldAfter expected acknowledged).length ≤ 1 := by
  unfold toldAfter settlement
  by_cases complete : acknowledged.length = expected
  · cases last : acknowledged.getLast? <;> simp [complete]
  · simp [complete]

theorem takeAll_none (outcomes : List (EventOutcome Payload)) :
    takeAll none outcomes = (outcomes, none) := by
  induction outcomes with
  | nil => rfl
  | cons outcome rest ih => simp [takeAll, take, ih]

/-- Nothing is outstanding once the target has been told. -/
theorem take_settles {waiting : Option Outstanding} {outcome : EventOutcome Payload}
    (told : (take waiting outcome).1 ≠ []) : (take waiting outcome).2 = none := by
  cases waiting with
  | none => rfl
  | some found =>
    by_cases isLast : found.pending = 1
    · simp [take, isLast]
    · simp [take, isLast] at told

theorem takeAll_append (waiting : Option Outstanding) (first second : List (EventOutcome Payload)) :
    takeAll waiting (first ++ second) =
      ((takeAll waiting first).1 ++ (takeAll (takeAll waiting first).2 second).1,
        (takeAll (takeAll waiting first).2 second).2) := by
  induction first generalizing waiting with
  | nil => rfl
  | cons outcome rest ih => simp only [List.cons_append, takeAll, ih, List.append_assoc]

@[simp] theorem takeAll_singleton (waiting : Option Outstanding)
    (outcome : EventOutcome Payload) : takeAll waiting [outcome] = take waiting outcome := by
  simp [takeAll]

theorem take_counterAfter {expected : Nat} {acknowledged : List (EventOutcome Payload)}
    (outstanding : acknowledged.length < expected) (outcome : EventOutcome Payload) :
    take (counterAfter expected acknowledged) outcome =
      (toldAfter expected (acknowledged ++ [outcome]),
        counterAfter expected (acknowledged ++ [outcome])) := by
  obtain ⟨event, failure⟩ := outcome
  have found : counterAfter expected acknowledged =
      some ⟨expected - acknowledged.length, lastFailure acknowledged⟩ := if_pos outstanding
  rw [found]
  by_cases isLast : acknowledged.length + 1 = expected
  · have one : expected - acknowledged.length = 1 := by omega
    have reached : (acknowledged ++ [(event, failure)]).length = expected := by simpa using isLast
    simp [take, one, toldAfter, counterAfter, reached, settlement]
  · have more : expected - acknowledged.length ≠ 1 := by omega
    have below : (acknowledged ++ [(event, failure)]).length < expected := by
      simp only [List.length_append, List.length_singleton]
      omega
    have remaining : expected - acknowledged.length - 1 =
        expected - (acknowledged ++ [(event, failure)]).length := by
      simp only [List.length_append, List.length_singleton]
      omega
    simp only [take, more, ↓reduceIte, toldAfter, Nat.ne_of_lt below, counterAfter, below,
      lastFailure_concat, remaining]

/-- A counter takes as many outcomes as are outstanding, in any portions; the
target is told with the last of them. -/
theorem takeAll_counterAfter {expected : Nat} {acknowledged outcomes : List (EventOutcome Payload)}
    (within : acknowledged.length + outcomes.length ≤ expected) :
    takeAll (counterAfter expected acknowledged) outcomes =
      (if outcomes = [] then [] else toldAfter expected (acknowledged ++ outcomes),
        counterAfter expected (acknowledged ++ outcomes)) := by
  induction outcomes generalizing acknowledged with
  | nil => simp [takeAll]
  | cons outcome rest ih =>
    have outstanding : acknowledged.length < expected := by
      simp only [List.length_cons] at within
      omega
    have restWithin : (acknowledged ++ [outcome]).length + rest.length ≤ expected := by
      simp only [List.length_cons, List.length_append, List.length_nil] at within ⊢
      omega
    simp only [takeAll, take_counterAfter outstanding, ih restWithin, List.append_assoc,
      List.cons_append, List.nil_append, reduceCtorEq, ↓reduceIte]
    cases rest with
    | nil => simp
    | cons next others =>
      have early : (acknowledged ++ [outcome]).length ≠ expected := by
        simp only [List.length_cons, List.length_append, List.length_nil] at restWithin ⊢
        omega
      simp only [toldAfter, early, ↓reduceIte, List.nil_append, reduceCtorEq]

end Outstanding

/-! ## One batch -/

namespace Multiplexer

variable {Payload : Type}

/-- What the target is told of an event after an acknowledgement of it. -/
def toldBy (outcome : EventOutcome Payload) : Acknowledgement → List (EventOutcome Payload)
  | .unprepared => [outcome]
  | .waiting => []
  | .settled failure => [(outcome.1, failure)]

theorem acknowledge_own (multiplexer : Multiplexer) (event : Event Payload)
    (failure : Option ProcessingFailure) :
    (toldBy (event, failure) (multiplexer.acknowledge event.id failure).1,
        (multiplexer.acknowledge event.id failure).2.outstanding.get? event.id) =
      Outstanding.take (multiplexer.outstanding.get? event.id) (event, failure) := by
  unfold acknowledge Outstanding.take
  cases found : multiplexer.outstanding.get? event.id with
  | none => simp [toldBy, found]
  | some counter => by_cases isLast : counter.pending = 1 <;> simp [isLast, toldBy]

/-- An acknowledgement leaves the counters of other events alone. -/
theorem acknowledge_other (multiplexer : Multiplexer) {id other : EventId} (differ : other ≠ id)
    (failure : Option ProcessingFailure) :
    (multiplexer.acknowledge other failure).2.outstanding.get? id =
      multiplexer.outstanding.get? id := by
  unfold acknowledge
  cases multiplexer.outstanding.get? other with
  | none => rfl
  | some counter => by_cases isLast : counter.pending = 1 <;> simp [isLast, differ.symm]

theorem eq_of_acknowledge_eq_settled {multiplexer next : Multiplexer} {id : EventId}
    {cause : ProcessingFailure} {failure : Option ProcessingFailure}
    (settled : multiplexer.acknowledge id (some cause) = (.settled failure, next)) :
    failure = some cause := by
  unfold acknowledge at settled
  cases found : multiplexer.outstanding.get? id with
  | none => simp [found] at settled
  | some counter =>
    by_cases isLast : counter.pending = 1
    · simp [found, isLast] at settled
      exact settled.1.symm
    · simp [found, isLast] at settled

/-- One event of a batch, as seen from the counter of an event. -/
theorem acknowledge_outcomes (multiplexer : Multiplexer) (event : Event Payload)
    (failure : Option ProcessingFailure) (id : EventId) :
    (if event.id = id then toldBy (event, failure) (multiplexer.acknowledge event.id failure).1
      else [], (multiplexer.acknowledge event.id failure).2.outstanding.get? id) =
      Outstanding.takeAll (multiplexer.outstanding.get? id)
        (if event.id = id then [(event, failure)] else []) := by
  by_cases isOwn : event.id = id
  · subst isOwn
    simpa using acknowledge_own multiplexer event failure
  · simp only [isOwn, ↓reduceIte, Outstanding.takeAll]
    rw [acknowledge_other multiplexer isOwn]

/-- Only an event that waits is told to have failed by a completion. -/
theorem completeEach_failures_eq_nil {multiplexer : Multiplexer} {id : EventId}
    (notWaiting : multiplexer.outstanding.get? id = none) (events : List (Event Payload)) :
    outcomesOf id (multiplexer.completeEach events).1 = [] := by
  induction events generalizing multiplexer with
  | nil => rfl
  | cons event rest ih =>
    have taken := acknowledge_outcomes multiplexer event none id
    rcases acknowledged : multiplexer.acknowledge event.id none with ⟨answer, next⟩
    rw [acknowledged, notWaiting, Outstanding.takeAll_none] at taken
    obtain ⟨told, nextNotWaiting⟩ := Prod.mk.inj taken
    have later := ih nextNotWaiting
    rcases answer with _ | _ | _ | cause
    · simpa [completeEach, acknowledged] using later
    · simpa [completeEach, acknowledged] using later
    · simpa [completeEach, acknowledged] using later
    · have foreign : event.id ≠ id := by
        rintro rfl
        simp [toldBy] at told
      simp only [completeEach, acknowledged]
      rw [outcomesOf_cons_notification, outcomesOf_batch_cons, later]
      simp [foreign, outcomesOf]

theorem completeEach_outcomes (multiplexer : Multiplexer) (events : List (Event Payload))
    (id : EventId) :
    (outcomesOf id (multiplexer.completeEach events).1 ++
        outcomesOf id [⟨(multiplexer.completeEach events).2.1, none⟩],
      (multiplexer.completeEach events).2.2.outstanding.get? id) =
      Outstanding.takeAll (multiplexer.outstanding.get? id) (outcomesOf id [⟨events, none⟩]) := by
  induction events generalizing multiplexer with
  | nil => simp [completeEach, outcomesOf, Outstanding.takeAll]
  | cons event rest ih =>
    rw [outcomesOf_batch_cons, Outstanding.takeAll_append,
      ← acknowledge_outcomes multiplexer event none id]
    rcases acknowledged : multiplexer.acknowledge event.id none with ⟨answer, next⟩
    rw [← ih next]
    have processed (told : toldBy (event, none) answer = [(event, none)]) :
        outcomesOf id (next.completeEach rest).1 ++
            outcomesOf id [⟨event :: (next.completeEach rest).2.1, none⟩] =
          (if event.id = id then toldBy (event, none) answer else []) ++
            (outcomesOf id (next.completeEach rest).1 ++
              outcomesOf id [⟨(next.completeEach rest).2.1, none⟩]) := by
      rw [outcomesOf_batch_cons, told]
      by_cases isOwn : event.id = id
      · have notWaiting : next.outstanding.get? id = none := by
          have taken := acknowledge_own multiplexer event none
          rw [acknowledged, told, isOwn] at taken
          have settles : (Outstanding.take (multiplexer.outstanding.get? id)
              (event, none)).1 ≠ [] := by simp [← taken]
          simpa [← taken] using Outstanding.take_settles settles
        rw [completeEach_failures_eq_nil notWaiting]
        simp
      · simp [isOwn]
    rcases answer with _ | _ | _ | cause
    · simp only [completeEach, acknowledged, ← processed rfl]
    · simp [completeEach, acknowledged, toldBy]
    · simp only [completeEach, acknowledged, ← processed rfl]
    · simp only [completeEach, acknowledged]
      rw [outcomesOf_cons_notification, outcomesOf_batch_cons]
      simp [outcomesOf, toldBy]

theorem failEach_outcomes (multiplexer : Multiplexer) (cause : ProcessingFailure)
    (events : List (Event Payload)) (id : EventId) :
    (outcomesOf id [⟨(multiplexer.failEach cause events).1, some cause⟩],
      (multiplexer.failEach cause events).2.outstanding.get? id) =
      Outstanding.takeAll (multiplexer.outstanding.get? id)
        (outcomesOf id [⟨events, some cause⟩]) := by
  induction events generalizing multiplexer with
  | nil => simp [failEach, outcomesOf, Outstanding.takeAll]
  | cons event rest ih =>
    rw [outcomesOf_batch_cons, Outstanding.takeAll_append,
      ← acknowledge_outcomes multiplexer event (some cause) id]
    rcases acknowledged : multiplexer.acknowledge event.id (some cause) with ⟨answer, next⟩
    rw [← ih next]
    rcases answer with _ | _ | failure
    · simp only [failEach, acknowledged, outcomesOf_batch_cons, toldBy]
    · simp [failEach, acknowledged, toldBy]
    · have isCause : failure = some cause := eq_of_acknowledge_eq_settled acknowledged
      simp only [failEach, acknowledged, outcomesOf_batch_cons, toldBy, isCause]

/-- A notification takes from the counter of an event what it says about this
event, whatever else it says. -/
theorem receive_outcomes (multiplexer : Multiplexer) (notification : Notification Payload)
    (id : EventId) :
    (outcomesOf id (multiplexer.receive notification).1,
      (multiplexer.receive notification).2.outstanding.get? id) =
      Outstanding.takeAll (multiplexer.outstanding.get? id) (outcomesOf id [notification]) := by
  obtain ⟨events, failure⟩ := notification
  cases failure with
  | none =>
    rw [← completeEach_outcomes]
    simp only [receive, outcomesOf_append, outcomesOf_notificationOf]
  | some cause =>
    rw [← failEach_outcomes]
    simp only [receive, outcomesOf_notificationOf]

section Kept

variable {Kept : Multiplexer → Prop}

theorem completeEach_keeps
    (keeps : ∀ multiplexer id failure, Kept multiplexer →
      Kept (multiplexer.acknowledge id failure).2)
    {multiplexer : Multiplexer} (kept : Kept multiplexer) (events : List (Event Payload)) :
    Kept (multiplexer.completeEach events).2.2 := by
  induction events generalizing multiplexer with
  | nil => exact kept
  | cons event rest ih =>
    have later := ih (keeps multiplexer event.id none kept)
    rcases acknowledged : multiplexer.acknowledge event.id none with ⟨_ | _ | _ | _, next⟩ <;>
      simpa only [completeEach, acknowledged] using later

theorem failEach_keeps
    (keeps : ∀ multiplexer id failure, Kept multiplexer →
      Kept (multiplexer.acknowledge id failure).2)
    {multiplexer : Multiplexer} (kept : Kept multiplexer) (cause : ProcessingFailure)
    (events : List (Event Payload)) : Kept (multiplexer.failEach cause events).2 := by
  induction events generalizing multiplexer with
  | nil => exact kept
  | cons event rest ih =>
    have later := ih (keeps multiplexer event.id (some cause) kept)
    rcases acknowledged : multiplexer.acknowledge event.id (some cause) with ⟨_ | _ | _, next⟩ <;>
      simpa only [failEach, acknowledged] using later

/-- What every acknowledgement keeps, a batch of them keeps. -/
theorem receive_keeps
    (keeps : ∀ multiplexer id failure, Kept multiplexer →
      Kept (multiplexer.acknowledge id failure).2)
    {multiplexer : Multiplexer} (kept : Kept multiplexer) (notification : Notification Payload) :
    Kept (multiplexer.receive notification).2 := by
  obtain ⟨events, failure⟩ := notification
  cases failure with
  | none => exact completeEach_keeps keeps kept events
  | some cause => exact failEach_keeps keeps kept cause events

end Kept

end Multiplexer

end EventSourcing
