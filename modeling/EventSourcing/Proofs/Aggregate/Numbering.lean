import EventSourcing.Proofs.Aggregate.Replay

/-!
# Numbers in the queue

The next number of a guard comes from its queue, from its version, or is zero.  Whatever
calls a guard has answered, these agree: the queue is numbered without gaps behind the
version (`Guard.Numbered`).  What is accepted is queued, and what is queued is handed out
once, so that nothing is lost or told twice (`Guard.callAll_conserves`).  A refused event
leaves nothing but its effect on the state, and a queue keeps a guard from being replayed
(`Guard.callAll_orderly`).
-/

namespace EventSourcing

/-- What an event says, whatever its aggregate and its number. -/
def DomainEvent.contents {Payload : Type} (event : DomainEvent Payload) :
    Stamp × Payload × Metadata :=
  (⟨event.id, event.timestamp⟩, event.payload, event.metadata)

namespace Guard

variable {Payload : Type} [PayloadFamily Payload] {State Mark : Type}

/-! ## Calls and answers -/

/-- What may be asked of a guard. -/
inductive Call (Mark Payload : Type) where
  | apply (stamp : Stamp) (payload : Payload) (metadata : Metadata)
  | commit
  | replay (history : EventStream Mark Payload)
  | snapshot (stamp : Stamp)
  | markDeleted
  | resetSnapshotCounter

/-- What a guard says to a call. -/
inductive Answer (Payload : Type) where
  | done (result : Except DomainError Unit)
  | handedOut (events : List (DomainEvent Payload))
  | taken (snapshot : Option (DomainEvent Payload))

/-- What becomes of a guard that answers a call. -/
def call (configuration : AggregateConfiguration Payload State) (guard : Guard Payload State) :
    Call Mark Payload → Answer Payload × Guard Payload State
  | .apply stamp payload metadata =>
    let (result, next) := guard.apply configuration stamp payload metadata
    (.done result, next)
  | .commit => (.handedOut guard.commit.1, guard.commit.2)
  | .replay history =>
    let (result, next, _) := guard.replay configuration history
    (.done result, next)
  | .snapshot stamp => (.taken (guard.snapshot? configuration stamp), guard)
  | .markDeleted => (.done (.ok ()), guard.markDeleted)
  | .resetSnapshotCounter => (.done (.ok ()), guard.resetSnapshotCounter)

/-- Calls one after another, each with its answer, and the guard behind them. -/
def callAll (configuration : AggregateConfiguration Payload State) :
    Guard Payload State → List (Call Mark Payload) →
      List (Call Mark Payload × Answer Payload) × Guard Payload State
  | guard, [] => ([], guard)
  | guard, call :: rest =>
    let (answer, next) := guard.call configuration call
    let (answered, last) := callAll configuration next rest
    ((call, answer) :: answered, last)

/-- What a call has put into the queue. -/
def acceptedBy : Call Mark Payload × Answer Payload → List (Stamp × Payload × Metadata)
  | (.apply stamp payload metadata, .done (.ok ())) => [(stamp, payload, metadata)]
  | _ => []

/-- What a call has taken out of the queue. -/
def handedOutBy : Call Mark Payload × Answer Payload → List (DomainEvent Payload)
  | (_, .handedOut events) => events
  | _ => []

/-! ## The queue -/

/-- The number of the first event that would be queued behind the version. -/
def firstQueued (guard : Guard Payload State) : Nat := guard.version.elim 0 (· + 1)

/-- The queue is numbered without gaps behind the version. -/
def Numbered (guard : Guard Payload State) : Prop :=
  guard.uncommitted.map DomainEvent.sequenceNumber =
    List.range' guard.firstQueued guard.uncommitted.length

variable {configuration : AggregateConfiguration Payload State} {guard next : Guard Payload State}
  {stamp : Stamp} {payload : Payload} {metadata : Metadata}

section

omit [PayloadFamily Payload]

theorem numbered_of_nothingQueued (nothingQueued : guard.uncommitted = []) : guard.Numbered := by
  rw [Numbered, nothingQueued]
  rfl

theorem numbered_commit (guard : Guard Payload State) : guard.commit.2.Numbered :=
  numbered_of_nothingQueued (uncommitted_commit guard)

/-- Behind a queue without gaps comes the next number. -/
theorem Numbered.nextSequenceNumber_eq (numbered : guard.Numbered) :
    guard.nextSequenceNumber = guard.firstQueued + guard.uncommitted.length := by
  have last : guard.uncommitted.getLast?.map DomainEvent.sequenceNumber =
      if guard.uncommitted.length = 0 then none
      else some (guard.firstQueued + guard.uncommitted.length - 1) := by
    rw [← List.getLast?_map, numbered, List.getLast?_range']
  rw [nextSequenceNumber, lastSequenceNumber?, last]
  by_cases nothing : guard.uncommitted.length = 0
  · rw [if_pos nothing, Option.none_or, nothing, firstQueued]
    cases guard.version <;> rfl
  · rw [if_neg nothing, Option.some_or]
    change guard.firstQueued + guard.uncommitted.length - 1 + 1 = _
    omega

theorem Numbered.sequenceNumber_of_getElem? (numbered : guard.Numbered) {place : Nat}
    {event : DomainEvent Payload} (queued : guard.uncommitted[place]? = some event) :
    event.sequenceNumber = guard.firstQueued + place := by
  obtain ⟨inside, rfl⟩ := List.getElem?_eq_some_iff.mp queued
  have found := congrArg (fun numbers : List Nat => numbers[place]?) numbered
  simpa [inside] using found

end

/-! ## One call -/

/-- An event that is accepted is queued behind the others under the next number. -/
theorem apply_queues
    (applied : guard.apply configuration stamp payload metadata = (.ok (), next)) :
    next.version = guard.version ∧ ∃ event, next.uncommitted = guard.uncommitted ++ [event] ∧
      event.sequenceNumber = guard.nextSequenceNumber ∧
      event.contents = (stamp, payload, metadata) := by
  obtain ⟨id, handled, rfl, -⟩ := apply_cases applied
  exact ⟨rfl, _, rfl, rfl, rfl⟩

/-- Only an aggregate without identifier refuses an event, and nothing but its state may
show that it has been asked. -/
theorem apply_refused {error : DomainError}
    (refused : guard.apply configuration stamp payload metadata = (.error error, next)) :
    guard.identifier configuration = none ∧ next = { guard with state := next.state } := by
  obtain ⟨unassigned, rfl | ⟨-, -, -, event, rfl⟩⟩ := apply_refused_cases refused
  · exact ⟨unassigned, rfl⟩
  · exact ⟨unassigned, rfl⟩

theorem uncommitted_replayItems (configuration : AggregateConfiguration Payload State)
    (guard : Guard Payload State) (items : List (StreamItem Payload)) :
    (replayItems configuration guard items).2.uncommitted = guard.uncommitted := by
  induction items generalizing guard with
  | nil => rfl
  | cons item rest ih =>
    cases item with
    | error error => rfl
    | ok event => exact (ih _).trans (uncommitted_replayEvent configuration guard event)

/-- A queue would be lost in a replay, so there is none. -/
theorem replay_of_queued (queued : guard.uncommitted ≠ []) (history : EventStream Mark Payload) :
    guard.replay configuration history =
      (.error (.incompatible
        (.pendingEvents configuration.typeIdentifier guard.uncommitted.length)), guard, []) := by
  have something : guard.uncommitted.isEmpty = false := by simpa using queued
  simp only [replay, something, Bool.false_eq_true, ↓reduceIte]

theorem uncommitted_replay (configuration : AggregateConfiguration Payload State)
    (history : EventStream Mark Payload) (guard : Guard Payload State) :
    (guard.replay configuration history).2.1.uncommitted = guard.uncommitted := by
  by_cases queued : guard.uncommitted = []
  · simp only [replay, queued, List.isEmpty_nil, ↓reduceIte]
    exact (uncommitted_replayItems configuration guard history.items).trans queued
  · rw [replay_of_queued queued]

theorem Numbered.apply (numbered : guard.Numbered) {result : Except DomainError Unit}
    (applied : guard.apply configuration stamp payload metadata = (result, next)) :
    next.Numbered := by
  cases result with
  | error error =>
    rw [(apply_refused applied).2]
    exact numbered
  | ok =>
    obtain ⟨sameVersion, event, queue, number, -⟩ := apply_queues applied
    have sameFirst : next.firstQueued = guard.firstQueued := by
      rw [firstQueued, sameVersion, firstQueued]
    rw [Numbered, queue, List.map_append, numbered, List.map_singleton, number,
      numbered.nextSequenceNumber_eq, sameFirst, List.length_append, List.length_singleton,
      List.range'_1_concat]

/-- No call disturbs the numbers in the queue. -/
theorem Numbered.call (numbered : guard.Numbered) (call : Call Mark Payload) :
    (guard.call configuration call).2.Numbered := by
  cases call with
  | apply stamp payload metadata => exact numbered.apply rfl
  | commit => exact numbered_commit guard
  | replay history =>
    -- A replay moves the version, but only where there is no queue behind it.
    by_cases queued : guard.uncommitted = []
    · exact numbered_of_nothingQueued
        ((uncommitted_replay configuration history guard).trans queued)
    · simp only [Guard.call, replay_of_queued queued]
      exact numbered
  | snapshot stamp => exact numbered
  | markDeleted => exact numbered
  | resetSnapshotCounter => exact numbered

/-- What is in the queue and what a call accepts is what the call hands out and what is
left in the queue. -/
theorem call_conserves (configuration : AggregateConfiguration Payload State)
    (guard : Guard Payload State) (call : Call Mark Payload) :
    guard.uncommitted.map DomainEvent.contents ++
        acceptedBy (call, (guard.call configuration call).1) =
      (handedOutBy (call, (guard.call configuration call).1) ++
        (guard.call configuration call).2.uncommitted).map DomainEvent.contents := by
  cases call with
  | apply stamp payload metadata =>
    rcases applied : guard.apply configuration stamp payload metadata with ⟨error | _, next⟩
    · simp only [Guard.call, applied]
      rw [(apply_refused applied).2]
      exact List.append_nil _
    · obtain ⟨-, event, queue, -, contents⟩ := apply_queues applied
      simp only [Guard.call, applied]
      change _ ++ [(stamp, payload, metadata)] = next.uncommitted.map DomainEvent.contents
      rw [queue, List.map_append, List.map_singleton, contents]
  | commit => simp [Guard.call, acceptedBy, handedOutBy, Guard.commit]
  | replay history =>
    have sameQueue := uncommitted_replay configuration history guard
    simp only [Guard.call, acceptedBy, handedOutBy]
    rw [sameQueue]
    exact List.append_nil _
  | snapshot stamp => exact List.append_nil _
  | markDeleted => exact List.append_nil _
  | resetSnapshotCounter => exact List.append_nil _

/-! ## Any number of calls -/

theorem Numbered.callAll (numbered : guard.Numbered) (calls : List (Call Mark Payload)) :
    (guard.callAll configuration calls).2.Numbered := by
  induction calls generalizing guard with
  | nil => exact numbered
  | cons call rest ih => exact ih (numbered.call call)

/-- Over any calls, what a guard has accepted is what it has handed out, and what is left
in its queue. -/
theorem callAll_conserves (configuration : AggregateConfiguration Payload State)
    (guard : Guard Payload State) (calls : List (Call Mark Payload)) :
    guard.uncommitted.map DomainEvent.contents ++
        (guard.callAll configuration calls).1.flatMap acceptedBy =
      ((guard.callAll configuration calls).1.flatMap handedOutBy ++
        (guard.callAll configuration calls).2.uncommitted).map DomainEvent.contents := by
  induction calls generalizing guard with
  | nil => exact List.append_nil _
  | cons call rest ih =>
    have first := guard.call_conserves configuration call
    have others := ih (guard.call configuration call).2
    simp only [Guard.callAll, List.flatMap_cons]
    rw [← List.append_assoc, first, List.map_append, List.append_assoc, others,
      ← List.map_append, ← List.append_assoc]

/-- Whatever is asked of a new guard: its queue is numbered without gaps behind its version;
every event that it has accepted, and no other, has been handed out once or is still
queued, in the order in which they were accepted; only without an identifier does it
refuse an event, and then nothing changes but its state; and as long as something is
queued it cannot be replayed. -/
theorem callAll_orderly (configuration : AggregateConfiguration Payload State) (start : State)
    (calls : List (Call Mark Payload)) :
    let (answered, guard) := (ofState start).callAll configuration calls
    (∀ (place : Nat) event, guard.uncommitted[place]? = some event →
      event.sequenceNumber = (guard.version.elim 0 fun version => version + 1) + place) ∧
    (answered.flatMap handedOutBy ++ guard.uncommitted).map DomainEvent.contents =
      answered.flatMap acceptedBy ∧
    (∀ stamp payload metadata error next,
      guard.apply configuration stamp payload metadata = (.error error, next) →
        guard.identifier configuration = none ∧ next = { guard with state := next.state }) ∧
    (guard.uncommitted ≠ [] → ∀ history : EventStream Mark Payload,
      guard.replay configuration history =
        (.error (.incompatible
          (.pendingEvents configuration.typeIdentifier guard.uncommitted.length)), guard, [])) := by
  have fresh : (ofState start : Guard Payload State).uncommitted = [] := rfl
  have numbered : ((ofState start).callAll configuration calls).2.Numbered :=
    (numbered_of_nothingQueued fresh).callAll calls
  have conserved := (ofState start).callAll_conserves configuration calls
  refine ⟨fun place event => numbered.sequenceNumber_of_getElem?, conserved.symm, ?_, ?_⟩
  · intro stamp payload metadata error next refused
    exact apply_refused refused
  · intro queued history
    exact replay_of_queued queued history

/-- A meter cannot measure before it is installed.  What it measures behind a commit is
numbered behind the installation. -/
example :
    let stamp : Stamp := ⟨EventId.ofNat 1, default⟩
    let calls : List (Call Unit MeterPayload) :=
      [.apply stamp (.measured 5) .empty, .apply stamp (.installed ⟨"m"⟩ 2) .empty, .commit,
        .apply stamp (.measured 7) .empty, .apply stamp (.measured 9) .empty]
    let (answered, guard) := (ofState {}).callAll Meter.configuration calls
    answered.flatMap acceptedBy = [(stamp, .installed ⟨"m"⟩ 2, .empty),
      (stamp, .measured 7, .empty), (stamp, .measured 9, .empty)] ∧
    guard.version = some 0 ∧ guard.uncommitted.map DomainEvent.sequenceNumber = [1, 2] :=
  ⟨rfl, rfl, rfl⟩

end Guard

end EventSourcing
