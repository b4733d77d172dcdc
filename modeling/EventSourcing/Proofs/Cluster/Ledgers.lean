import EventSourcing.Proofs.Cluster.Service

/-!
# Ledgers

A ledger keeps what matters of a cluster in service for acknowledgements: the place of the
publisher, the invocations that wait for a member, and what has been done to the
multiplexer.  What a single action can do to it is said once, by `Ledger.Step`.
-/

namespace EventSourcing

variable {Payload : Type}

open Multiplexer

structure Ledger (Payload : Type) where
  place : PublicationPlace Payload
  /-- The listeners that the current publication is for. -/
  members : List (Listener Payload) := []
  trace : List (MonitorAction Payload) := []
  /-- The last failure with the current event that the publisher will report. -/
  failure : Option ProcessingFailure := none
  isTracked : Bool := false
  /-- The events that wait for a listener, with its key. -/
  waiting : List (String × Event Payload) := []
  handled : List (EventOutcome Payload) := []
  unheard : List (Event Payload) := []
  overwritten : List EventId := []

namespace Ledger

/-- What a single action can do. -/
inductive Step (ledger : Ledger Payload) : Ledger Payload → Prop
  | stay : Step ledger ledger
  | announce {past : List (Event Payload)} (stands : ledger.place = .between past [])
      (members : List (Listener Payload)) (events : List (Event Payload)) :
      Step ledger { ledger with place := .between past events, members }
  | prepare {past rest : List (Event Payload)} {event : Event Payload}
      (stands : ledger.place = .between past (event :: rest)) :
      Step ledger
        { ledger with
          place := .inside past event rest [] ledger.members
          trace := ledger.trace ++ [.prepare event.id]
          failure := none
          isTracked := false
          overwritten := ledger.overwritten ++
            (PublicationStep.prepare event).dropped (run ledger.trace).2 }
  | approach {past rest : List (Event Payload)} {event : Event Payload}
      {visited upcoming : List (Listener Payload)} {member : Listener Payload}
      (stands : ledger.place = .inside past event rest visited (member :: upcoming))
      (direct : member.isAsynchronous = false) :
      Step ledger
        { ledger with
          place := .facing past event rest visited member upcoming
          isTracked := false }
  | expect {past rest : List (Event Payload)} {event : Event Payload}
      {visited upcoming : List (Listener Payload)} {member : Listener Payload}
      (stands : ledger.place = .inside past event rest visited (member :: upcoming))
      (reportsLater : member.isAsynchronous = true) {next : Multiplexer}
      (granted : (run ledger.trace).2.expect event.id = .ok next) :
      Step ledger
        { ledger with
          place := .facing past event rest visited member upcoming
          trace := ledger.trace ++ [.expect event.id]
          isTracked := true }
  | miss {past rest : List (Event Payload)} {event : Event Payload}
      {visited upcoming : List (Listener Payload)} {member : Listener Payload}
      (stands : ledger.place = .inside past event rest visited (member :: upcoming))
      (reportsLater : member.isAsynchronous = true) {error : MonitorError}
      (refused : (run ledger.trace).2.expect event.id = .error error) :
      Step ledger
        { ledger with
          place := .facing past event rest visited member upcoming
          isTracked := false }
  | answer {past rest : List (Event Payload)} {event : Event Payload}
      {visited upcoming : List (Listener Payload)} {member : Listener Payload}
      (stands : ledger.place = .facing past event rest visited member upcoming)
      (direct : member.isAsynchronous = false) (failure : Option ProcessingFailure) :
      Step ledger
        { ledger with
          place := .inside past event rest (visited ++ [member]) upcoming
          failure := failure.or ledger.failure
          handled := ledger.handled ++ [(event, failure)] }
  | accept {past rest : List (Event Payload)} {event : Event Payload}
      {visited upcoming : List (Listener Payload)} {member : Listener Payload}
      (stands : ledger.place = .facing past event rest visited member upcoming)
      (reportsLater : member.isAsynchronous = true) :
      Step ledger
        { ledger with
          place := .inside past event rest (visited ++ [member]) upcoming
          waiting := ledger.waiting ++ [(member.key, event)] }
  | refuse {past rest : List (Event Payload)} {event : Event Payload}
      {visited upcoming : List (Listener Payload)} {member : Listener Payload}
      (stands : ledger.place = .facing past event rest visited member upcoming)
      (reportsLater : member.isAsynchronous = true) (tracked : ledger.isTracked = true)
      (cause : ProcessingFailure) :
      Step ledger
        { ledger with
          place := .inside past event rest (visited ++ [member]) upcoming
          trace := ledger.trace ++ [.receive ⟨[event], some cause⟩]
          handled := ledger.handled ++ [(event, some cause)] }
  | refuseUntracked {past rest : List (Event Payload)} {event : Event Payload}
      {visited upcoming : List (Listener Payload)} {member : Listener Payload}
      (stands : ledger.place = .facing past event rest visited member upcoming)
      (reportsLater : member.isAsynchronous = true) (untracked : ledger.isTracked = false)
      (cause : ProcessingFailure) :
      Step ledger
        { ledger with
          place := .inside past event rest (visited ++ [member]) upcoming
          failure := some cause
          handled := ledger.handled ++ [(event, some cause)] }
  | settle {past rest : List (Event Payload)} {event : Event Payload}
      {visited : List (Listener Payload)}
      (stands : ledger.place = .inside past event rest visited []) :
      Step ledger
        { ledger with
          place := .between (past ++ [event]) rest
          trace := ledger.trace ++ [.receive ⟨[event], ledger.failure⟩] }
  | hear {earlier later : List (String × Event Payload)} {key : String} {event : Event Payload}
      (split : ledger.waiting = earlier ++ (key, event) :: later)
      (failure : Option ProcessingFailure) :
      Step ledger
        { ledger with
          trace := ledger.trace ++ [.receive ⟨[event], failure⟩]
          waiting := earlier ++ later
          handled := ledger.handled ++ [(event, failure)] }
  | overhear {earlier later : List (String × Event Payload)} {key : String}
      {event : Event Payload} (split : ledger.waiting = earlier ++ (key, event) :: later)
      (failure : Option ProcessingFailure) :
      Step ledger
        { ledger with
          waiting := earlier ++ later
          handled := ledger.handled ++ [(event, failure)]
          unheard := ledger.unheard ++ [event] }

/-! ## What waits -/

/-- The events that wait under a key, among those that wait for any. -/
def eventsUnder (key : String) (waiting : List (String × Event Payload)) :
    List (Event Payload) :=
  (waiting.filter fun entry => entry.1 = key).map Prod.snd

theorem eventsUnder_append (key : String) (waiting later : List (String × Event Payload)) :
    eventsUnder key (waiting ++ later) = eventsUnder key waiting ++ eventsUnder key later := by
  simp [eventsUnder]

theorem eventsUnder_singleton (key other : String) (event : Event Payload) :
    eventsUnder other [(key, event)] = if key = other then [event] else [] := by
  by_cases same : key = other
  · simp [eventsUnder, same]
  · simp [eventsUnder, same]

/-- An event that waits in a queue is somewhere among those that wait. -/
theorem exists_split {waiting : List (String × Event Payload)}
    {queue : String → List (Event Payload)} {key : String} {event : Event Payload}
    {rest : List (Event Payload)}
    (queues : ∀ other, (eventsUnder other waiting).Perm (queue other))
    (waits : (queue key).Perm (event :: rest)) :
    ∃ earlier later, waiting = earlier ++ (key, event) :: later ∧
      ∀ other, (eventsUnder other (earlier ++ later)).Perm
        (if other = key then rest else queue other) := by
  have own := (queues key).trans waits
  obtain ⟨⟨holder, found⟩, kept, isEvent⟩ :=
    List.mem_map.mp (own.mem_iff.mpr List.mem_cons_self)
  obtain ⟨isAmong, isKey⟩ := List.mem_filter.mp kept
  obtain rfl : holder = key := of_decide_eq_true isKey
  obtain rfl : event = found := isEvent.symm
  obtain ⟨earlier, later, rfl⟩ := List.append_of_mem isAmong
  refine ⟨earlier, later, rfl, fun other => ?_⟩
  have moved : (eventsUnder other (earlier ++ (holder, event) :: later)).Perm
      (eventsUnder other [(holder, event)] ++ eventsUnder other (earlier ++ later)) := by
    rw [← eventsUnder_append]
    exact (List.perm_middle.filter _).map _
  by_cases same : other = holder
  · subst same
    rw [eventsUnder_singleton, if_pos rfl] at moved
    rw [if_pos rfl]
    exact (moved.symm.trans own).cons_inv
  · rw [eventsUnder_singleton, if_neg (Ne.symm same)] at moved
    rw [if_neg same]
    exact moved.symm.trans (queues other)

end Ledger

end EventSourcing
