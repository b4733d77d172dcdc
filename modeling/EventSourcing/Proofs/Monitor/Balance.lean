import EventSourcing.Proofs.Monitor.Notifications

/-!
# What a multiplexer still waits for

The counters of a settled run know their events by identity only.  Here the run is set
against the events themselves: those that have been prepared, the acknowledgements that
have come, and the events that still owe one, each as often as it owes
(`Multiplexer.Balanced`).  The order in which acknowledgements came does not matter
for any of this.
-/

namespace EventSourcing

namespace Multiplexer

variable {Payload : Type}

/-- A settled run that has prepared some events, has got some acknowledgements, and for
which one acknowledgement of each of some events is outstanding. -/
structure Balanced (trace : List (MonitorAction Payload)) (prepared : List (Event Payload))
    (acknowledged : List (EventOutcome Payload)) (outstanding : List (Event Payload)) :
    Prop where
  settled : Settled trace
  prepares : preparedIds trace = prepared.map Event.id
  acknowledges (id : EventId) :
    (acknowledgements trace id).Perm (acknowledged.filter fun outcome => outcome.1.id = id)
  owes (id : EventId) : registrations trace id =
    (acknowledgements trace id).length + outstanding.countP fun event => event.id = id

namespace Balanced

theorem nil : Balanced ([] : List (MonitorAction Payload)) [] [] [] where
  settled := settled_nil
  prepares := rfl
  acknowledges _ := List.Perm.nil
  owes _ := rfl

variable {trace : List (MonitorAction Payload)} {prepared outstanding rest : List (Event Payload)}
  {acknowledged : List (EventOutcome Payload)} {event : Event Payload}

/-- It does not matter in which order acknowledgements come and are owed. -/
theorem perm (balanced : Balanced trace prepared acknowledged outstanding)
    {otherAcknowledged : List (EventOutcome Payload)} {otherOutstanding : List (Event Payload)}
    (sameAcknowledged : acknowledged.Perm otherAcknowledged)
    (sameOutstanding : outstanding.Perm otherOutstanding) :
    Balanced trace prepared otherAcknowledged otherOutstanding where
  settled := balanced.settled
  prepares := balanced.prepares
  acknowledges id := (balanced.acknowledges id).trans (sameAcknowledged.filter _)
  owes id := by rw [balanced.owes, sameOutstanding.countP_eq]

theorem length_lt_of_mem (balanced : Balanced trace prepared acknowledged outstanding)
    (isOwed : event ∈ outstanding) :
    (acknowledgements trace event.id).length < registrations trace event.id := by
  have counted : 0 < outstanding.countP fun other => other.id = event.id :=
    List.countP_pos_iff.mpr ⟨event, isOwed, decide_eq_true rfl⟩
  rw [balanced.owes]
  exact Nat.lt_add_of_pos_right counted

theorem unheard (balanced : Balanced trace prepared acknowledged outstanding)
    (new : event.id ∉ prepared.map Event.id) : acknowledgements trace event.id = [] := by
  have none := balanced.settled.unregistered event.id (balanced.prepares ▸ new)
  rw [balanced.owes] at none
  exact List.eq_nil_of_length_eq_zero (Nat.eq_zero_of_add_eq_zero_right none)

theorem prepare (balanced : Balanced trace prepared acknowledged outstanding)
    (new : event.id ∉ prepared.map Event.id) :
    Balanced (trace ++ [.prepare event.id]) (prepared ++ [event]) acknowledged
      (event :: outstanding) where
  settled := balanced.settled.prepare (balanced.prepares ▸ new) (balanced.unheard new)
  prepares := by simp [balanced.prepares]
  acknowledges id := by
    rw [acknowledgements_prepare]
    exact balanced.acknowledges id
  owes id := by
    rw [acknowledgements_prepare, registrations_prepare, balanced.owes, List.countP_cons]
    simp only [decide_eq_true_eq]
    omega

theorem expect_granted (balanced : Balanced trace prepared acknowledged outstanding)
    (isOwed : event ∈ outstanding) : ∃ next, (run trace).2.expect event.id = .ok next :=
  ⟨_, balanced.settled.expect_eq_ok (balanced.length_lt_of_mem isOwed)⟩

/-- An event that owes an acknowledgement may owe another one. -/
theorem expect (balanced : Balanced trace prepared acknowledged outstanding)
    (isOwed : event ∈ outstanding) :
    Balanced (trace ++ [.expect event.id]) prepared acknowledged (event :: outstanding) where
  settled := balanced.settled.expect (balanced.length_lt_of_mem isOwed)
  prepares := by rw [preparedIds_expect, balanced.prepares]
  acknowledges id := by
    rw [acknowledgements_expect]
    exact balanced.acknowledges id
  owes id := by
    rw [acknowledgements_expect, registrations_expect, balanced.owes, List.countP_cons]
    simp only [decide_eq_true_eq]
    omega

theorem receive (balanced : Balanced trace prepared acknowledged (event :: rest))
    (failure : Option ProcessingFailure) :
    Balanced (trace ++ [.receive ⟨[event], failure⟩]) prepared
      ((event, failure) :: acknowledged) rest := by
  have saysOf (id : EventId) : outcomesOf id [⟨[event], failure⟩] =
      if event.id = id then [(event, failure)] else [] := by
    rw [outcomesOf_batch_cons]
    simp [outcomesOf]
  have owes (id : EventId) : registrations trace id =
      (acknowledgements trace id).length + (outcomesOf id [⟨[event], failure⟩]).length +
        rest.countP fun other => other.id = id := by
    rw [balanced.owes, List.countP_cons, saysOf]
    by_cases isOwn : event.id = id
    · simp only [isOwn, decide_true, ↓reduceIte, List.length_singleton]
      omega
    · simp [isOwn]
  constructor
  case settled =>
    refine balanced.settled.receive fun id _ => ?_
    have := owes id
    omega
  case prepares => rw [preparedIds_receive, balanced.prepares]
  case acknowledges =>
    intro id
    have others := balanced.acknowledges id
    rw [acknowledgements_receive, saysOf]
    by_cases isOwn : event.id = id
    · simp only [isOwn, ↓reduceIte, decide_true, List.filter_cons_of_pos]
      exact List.perm_append_comm.trans (others.cons _)
    · simpa [isOwn] using others
  case owes =>
    intro id
    rw [acknowledgements_receive, registrations_receive, List.length_append]
    exact owes id

/-! ## What the target knows -/

/-- What is told of an event is told when no acknowledgement of it is outstanding. -/
theorem isSettled_of_told (balanced : Balanced trace prepared acknowledged outstanding)
    (told : outcomesOf event.id (run trace).1 ≠ []) :
    event.id ∈ prepared.map Event.id ∧ ∀ other ∈ outstanding, other.id ≠ event.id := by
  have isPrepared : event.id ∈ preparedIds trace := by
    by_contra new
    have unheard := balanced.unheard (balanced.prepares ▸ new)
    rw [balanced.settled.told, if_neg new] at told
    exact told unheard
  refine ⟨balanced.prepares ▸ isPrepared, fun other isOwed isOwn => ?_⟩
  have waits := balanced.length_lt_of_mem isOwed
  rw [isOwn] at waits
  exact told (balanced.settled.told_nothing isPrepared waits)

/-- An event that owes nothing any more has been told once: as a failure if one of its
acknowledgements was one, and as processed otherwise. -/
theorem told_of_settled (balanced : Balanced trace prepared acknowledged outstanding)
    (isPrepared : event ∈ prepared) (settled : ∀ other ∈ outstanding, other.id ≠ event.id)
    (own : ∀ outcome ∈ acknowledged, outcome.1.id = event.id → outcome.1 = event) :
    ∃ failure, outcomesOf event.id (run trace).1 = [(event, failure)] ∧
      (failure ≠ none ↔ ∃ cause, (event, some cause) ∈ acknowledged) := by
  have isKnown : event.id ∈ preparedIds trace :=
    balanced.prepares ▸ List.mem_map_of_mem isPrepared
  have complete : (acknowledgements trace event.id).length = registrations trace event.id := by
    have owesNone : outstanding.countP (fun other => other.id = event.id) = 0 :=
      List.countP_eq_zero.mpr fun other isOwed => by simp [settled other isOwed]
    rw [balanced.owes, owesNone, Nat.add_zero]
  have any : acknowledgements trace event.id ≠ [] :=
    List.ne_nil_of_length_pos (complete ▸ registrations_pos isKnown)
  have mem_iff (outcome : EventOutcome Payload) :
      outcome ∈ acknowledgements trace event.id ↔ outcome ∈ acknowledged ∧ outcome.1 = event := by
    rw [(balanced.acknowledges event.id).mem_iff, List.mem_filter, decide_eq_true_eq]
    exact ⟨fun both => ⟨both.1, own outcome both.1 both.2⟩,
      fun both => ⟨both.1, congrArg Event.id both.2⟩⟩
  refine ⟨lastFailure (acknowledgements trace event.id), ?_, ?_⟩
  · obtain ⟨earlier, last, split⟩ : ∃ earlier last,
        acknowledgements trace event.id = earlier ++ [last] :=
      ⟨_, _, (List.dropLast_concat_getLast any).symm⟩
    have isLast : last.1 = event := by
      refine ((mem_iff last).mp ?_).2
      rw [split]
      exact List.mem_append_right _ (List.mem_singleton_self last)
    rw [balanced.settled.told_once isKnown complete, split, settlement_concat, isLast]
  · rw [ne_eq, lastFailure_eq_none_iff]
    constructor
    · intro failed
      simp only [not_forall] at failed
      obtain ⟨⟨_, failure⟩, isOutcome, isFailure⟩ := failed
      obtain ⟨isAcknowledged, rfl⟩ := (mem_iff _).mp isOutcome
      obtain ⟨cause, rfl⟩ := Option.ne_none_iff_exists'.mp isFailure
      exact ⟨cause, isAcknowledged⟩
    · rintro ⟨cause, isAcknowledged⟩ allProcessed
      exact Option.some_ne_none cause (allProcessed _ ((mem_iff _).mpr ⟨isAcknowledged, rfl⟩))

theorem inFlight_eq_zero (balanced : Balanced trace prepared acknowledged []) :
    (run trace).2.inFlight = 0 := by
  rw [balanced.settled.inFlight, List.length_eq_zero_iff, List.filter_eq_nil_iff]
  intro id _
  have complete := balanced.owes id
  rw [List.countP_nil, Nat.add_zero] at complete
  simp [complete]

end Balanced

end Multiplexer

end EventSourcing
