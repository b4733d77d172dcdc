import EventSourcing.Proofs.Cluster.Queues

/-!
# Places of a publisher

A publisher stands between two events, or it has handed an event to some members and
not yet to others.  From its place follow the steps that it has yet to make, the calls
that it has made, and the acknowledgements that it owes (`PublicationPlace`).
-/

namespace EventSourcing

variable {Payload : Type}

/-! ## Failures of direct members -/

namespace Listener

/-- The last failure of the direct ones among listeners with an event. -/
def directFailure (listeners : List (Listener Payload)) (event : Event Payload) :
    Option ProcessingFailure :=
  (listeners.filterMap fun listener =>
    if listener.isAsynchronous then none
    else listener.failureOf (listener.handle event)).getLast?

variable {listener : Listener Payload} {event : Event Payload}
  (reports : String → Event Payload → Option ProcessingFailure)

theorem directFailure_concat (listeners : List (Listener Payload)) (listener : Listener Payload)
    (event : Event Payload) :
    directFailure (listeners ++ [listener]) event =
      (if listener.isAsynchronous then none else listener.failureOf (listener.handle event)).or
        (directFailure listeners event) := by
  simp only [directFailure, List.filterMap_append, List.filterMap_cons, List.filterMap_nil]
  cases (if listener.isAsynchronous then none
    else listener.failureOf (listener.handle event)) <;> simp

theorem outcome_of_direct (direct : listener.isAsynchronous = false) :
    listener.outcome reports event = listener.failureOf (listener.handle event) := by
  cases processing : listener.processing <;>
    simp_all [isAsynchronous, outcome, handle]

theorem outcome_of_refused {cause : ListenerError}
    (refused : listener.handle event = .error cause) :
    listener.outcome reports event = some ⟨listener.listenerType, cause⟩ := by
  cases processing : listener.processing <;> simp_all [outcome, handle, failureOf]

theorem exists_directFailure_iff (listeners : List (Listener Payload)) (event : Event Payload) :
    (∃ cause, directFailure listeners event = some cause) ↔
      ∃ listener ∈ listeners, listener.isAsynchronous = false ∧
        listener.outcome reports event ≠ none := by
  rw [← Option.ne_none_iff_exists', directFailure, ne_eq, List.getLast?_eq_none_iff,
    List.filterMap_eq_nil_iff]
  simp only [not_forall]
  constructor
  · rintro ⟨listener, isAmong, failed⟩
    cases direct : listener.isAsynchronous with
    | true => simp [direct] at failed
    | false =>
      refine ⟨listener, isAmong, direct, ?_⟩
      rw [outcome_of_direct reports direct]
      simpa [direct] using failed
  · rintro ⟨listener, isAmong, direct, failed⟩
    rw [outcome_of_direct reports direct] at failed
    exact ⟨listener, isAmong, by simpa [direct] using failed⟩

end Listener

/-! ## Places -/

/-- How far a publisher has come: the events that it is done with, the one that it hands
out, and those that come later; for the current event the members that have got it and
those that have not. -/
inductive PublicationPlace (Payload : Type) where
  | between (past rest : List (Event Payload))
  | inside (past : List (Event Payload)) (event : Event Payload) (rest : List (Event Payload))
    (visited upcoming : List (Listener Payload))
  /-- A member is registered and about to be handed the event. -/
  | facing (past : List (Event Payload)) (event : Event Payload) (rest : List (Event Payload))
    (visited : List (Listener Payload)) (member : Listener Payload)
    (upcoming : List (Listener Payload))

def invocationsOf (members : List (Listener Payload)) (events : List (Event Payload)) :
    List (Invocation Payload) :=
  events.flatMap fun event => members.map fun member => (member, event)

namespace PublicationPlace

/-- The events that the publisher has acknowledged. -/
def past : PublicationPlace Payload → List (Event Payload)
  | between past _ | inside past _ _ _ _ | facing past _ _ _ _ _ => past

def prepared : PublicationPlace Payload → List (Event Payload)
  | between past _ => past
  | inside past event _ _ _ | facing past event _ _ _ _ => past ++ [event]

/-- The events that owe an acknowledgement and wait for no member: the publisher owes one
for the current event, and one for a member that it has yet to call. -/
def owed : PublicationPlace Payload → List (Event Payload)
  | between _ _ => []
  | inside _ event _ _ _ => [event]
  | facing _ event _ _ member _ => if member.isAsynchronous then [event, event] else [event]

def calls (members : List (Listener Payload)) :
    PublicationPlace Payload → List (Invocation Payload)
  | between past _ => invocationsOf members past
  | inside past event _ visited _ | facing past event _ visited _ _ =>
    invocationsOf members past ++ visited.map fun member => (member, event)

def handing (event : Event Payload) (upcoming : List (Listener Payload)) :
    List (PublicationStep Payload) :=
  upcoming.flatMap fun member => [.register event member, .invoke event member]

def ahead (members : List (Listener Payload)) :
    PublicationPlace Payload → List (PublicationStep Payload)
  | between _ rest => PublicationStep.ofEvents members rest
  | inside _ event rest _ upcoming =>
    handing event upcoming ++ .settle event :: PublicationStep.ofEvents members rest
  | facing _ event rest _ member upcoming =>
    .invoke event member ::
      (handing event upcoming ++ .settle event :: PublicationStep.ofEvents members rest)

/-- Whether the place is one of a publication of events to members. -/
def Fits (members : List (Listener Payload)) (events : List (Event Payload)) :
    PublicationPlace Payload → Prop
  | between past rest => past ++ rest = events
  | inside past event rest visited upcoming =>
    past ++ event :: rest = events ∧ visited ++ upcoming = members
  | facing past event rest visited member upcoming =>
    past ++ event :: rest = events ∧ visited ++ member :: upcoming = members

/-- What a publication knows about the current event and the current member. -/
def Agrees (publication : Publication Payload) : PublicationPlace Payload → Prop
  | between _ _ => True
  | inside _ event _ visited _ =>
    publication.failure = Listener.directFailure visited event
  | facing _ event _ visited member _ =>
    publication.failure = Listener.directFailure visited event ∧
      publication.isTracked = member.isAsynchronous

variable {members : List (Listener Payload)} {events : List (Event Payload)}
  {place : PublicationPlace Payload}

theorem ahead_between_cons (past : List (Event Payload)) (event : Event Payload)
    (rest : List (Event Payload)) :
    (between past (event :: rest)).ahead members =
      .prepare event :: (inside past event rest [] members).ahead members := by
  simp [ahead, PublicationStep.ofEvents, PublicationStep.ofEvent, handing]

theorem ahead_inside_cons (past : List (Event Payload)) (event : Event Payload)
    (rest : List (Event Payload)) (visited : List (Listener Payload)) (member : Listener Payload)
    (upcoming : List (Listener Payload)) :
    (inside past event rest visited (member :: upcoming)).ahead members =
      .register event member :: (facing past event rest visited member upcoming).ahead members := by
  simp [ahead, handing]

section Calls

variable {past rest : List (Event Payload)} {event : Event Payload}
  {visited upcoming : List (Listener Payload)} {member : Listener Payload}

theorem calls_visited : (inside past event rest (visited ++ [member]) upcoming).calls members =
    (facing past event rest visited member upcoming).calls members ++ [(member, event)] := by
  simp [calls]

theorem Fits.visit (fits : (facing past event rest visited member upcoming).Fits members events) :
    (inside past event rest (visited ++ [member]) upcoming).Fits members events := by
  obtain ⟨isPast, isMember⟩ := fits
  exact ⟨isPast, (List.append_assoc visited [member] upcoming).trans isMember⟩

theorem Fits.mem_members
    (fits : (facing past event rest visited member upcoming).Fits members events) :
    member ∈ members := by
  obtain ⟨-, rfl⟩ := fits
  exact List.mem_append_right _ List.mem_cons_self

theorem calls_settled :
    (between (past ++ [event]) rest).calls members =
      (inside past event rest members []).calls members := by
  simp [calls, invocationsOf]

theorem Fits.settle (fits : (inside past event rest visited []).Fits members events) :
    (between (past ++ [event]) rest).Fits members events := by
  obtain ⟨rfl, -⟩ := fits
  exact List.append_assoc past [event] rest

theorem owed_facing_direct (direct : member.isAsynchronous = false) :
    (facing past event rest visited member upcoming).owed = [event] := by
  simp [owed, direct]

theorem owed_facing_asynchronous (reportsLater : member.isAsynchronous = true) :
    (facing past event rest visited member upcoming).owed = [event, event] := by
  simp [owed, reportsLater]

end Calls

theorem mem_past_of_settled {event : Event Payload} (isPrepared : event ∈ place.prepared)
    (settled : event ∉ place.owed) : event ∈ place.past := by
  cases place with
  | between => exact isPrepared
  | inside past current =>
    rcases List.mem_append.mp isPrepared with old | isCurrent
    · exact old
    · exact absurd isCurrent settled
  | facing past current rest visited member =>
    rcases List.mem_append.mp isPrepared with old | isCurrent
    · exact old
    · obtain rfl := List.mem_singleton.mp isCurrent
      by_cases reportsLater : member.isAsynchronous <;> simp [owed, reportsLater] at settled

theorem Fits.prepared_subset (fits : place.Fits members events) : place.prepared ⊆ events := by
  cases place with
  | between past rest =>
    obtain rfl := fits
    exact List.subset_append_left _ _
  | inside past event rest =>
    obtain ⟨rfl, -⟩ := fits
    simp [prepared]
  | facing past event rest =>
    obtain ⟨rfl, -⟩ := fits
    simp [prepared]

theorem mem_invocationsOf {invocation : Invocation Payload} :
    invocation ∈ invocationsOf members events ↔
      invocation.1 ∈ members ∧ invocation.2 ∈ events := by
  obtain ⟨member, event⟩ := invocation
  simp only [invocationsOf, List.mem_flatMap, List.mem_map, Prod.mk.injEq]
  constructor
  · rintro ⟨_, isEvent, _, isMember, rfl, rfl⟩
    exact ⟨isMember, isEvent⟩
  · rintro ⟨isMember, isEvent⟩
    exact ⟨event, isEvent, member, isMember, rfl, rfl⟩

theorem invocationsOf_append (earlier later : List (Event Payload)) :
    invocationsOf members (earlier ++ later) =
      invocationsOf members earlier ++ invocationsOf members later :=
  List.flatMap_append

theorem mem_calls_of_past {member : Listener Payload} {event : Event Payload}
    (isMember : member ∈ members) (isPast : event ∈ place.past) :
    (member, event) ∈ place.calls members := by
  have isCall : (member, event) ∈ invocationsOf members place.past :=
    mem_invocationsOf.mpr ⟨isMember, isPast⟩
  cases place with
  | between => exact isCall
  | inside => exact List.mem_append_left _ isCall
  | facing => exact List.mem_append_left _ isCall

/-- Members are called in order, for one event after another. -/
theorem Fits.calls_prefix (fits : place.Fits members events) :
    place.calls members <+: invocationsOf members events := by
  have current (past : List (Event Payload)) (event : Event Payload) (rest : List (Event Payload))
      (visited later : List (Listener Payload)) :
      invocationsOf (visited ++ later) past ++ visited.map (fun member => (member, event)) <+:
        invocationsOf (visited ++ later) (past ++ event :: rest) := by
    rw [invocationsOf_append, List.prefix_append_right_inj, invocationsOf, List.flatMap_cons,
      List.map_append, List.append_assoc]
    exact List.prefix_append _ _
  cases place with
  | between past rest =>
    obtain rfl := fits
    rw [invocationsOf_append]
    exact List.prefix_append _ _
  | inside past event rest visited upcoming =>
    obtain ⟨rfl, rfl⟩ := fits
    exact current past event rest visited upcoming
  | facing past event rest visited member upcoming =>
    obtain ⟨rfl, rfl⟩ := fits
    exact current past event rest visited (member :: upcoming)

/-- A publisher that has no more steps to make is done with all events. -/
theorem Fits.eq_of_ahead_eq_nil (fits : place.Fits members events)
    (atEnd : place.ahead members = []) : place = between events [] := by
  cases place with
  | between past rest =>
    cases rest with
    | nil =>
      rw [← (List.append_nil past).symm.trans fits]
    | cons event rest =>
      rw [ahead_between_cons] at atEnd
      exact absurd atEnd (List.cons_ne_nil _ _)
  | inside past event rest visited upcoming => simp [ahead] at atEnd
  | facing past event rest visited member upcoming => simp [ahead] at atEnd

end PublicationPlace

end EventSourcing
