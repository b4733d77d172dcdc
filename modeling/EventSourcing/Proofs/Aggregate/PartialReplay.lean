import EventSourcing.Proofs.Aggregate.Replay
import Mathlib.Data.List.DropRight

/-!
# Histories in parts

A history may be replayed at once or one part after another.  A snapshot in it makes all
that lies in front of it superfluous, and from the last one on the events are counted.  A
failure ends a replay: what lies behind it is not handled, nor is it asked for
(`Guard.replay_inParts`).
-/

namespace EventSourcing

/-! ## Streams that fail -/

namespace EventStream

variable {Mark Payload : Type}

/-- What is read of a stream ends at the first failure. -/
theorem collectPulls_of_failure {front : List (Pull Mark (StreamItem Payload))}
    {events : List (DomainEvent Payload)} (delivers : Pull.items front = events.map .ok)
    (error : StreamError) (back : List (Pull Mark (StreamItem Payload))) :
    (collectPulls (front ++ .item (.error error) :: back)).1 = (collectPulls front).1 := by
  induction front generalizing events with
  | nil => rfl
  | cons pull rest ih =>
    cases pull with
    | mark mark => exact congrArg (mark :: ·) (ih delivers)
    | item item =>
      cases events with
      | nil => simp [Pull.items] at delivers
      | cons event later =>
        obtain ⟨rfl, restDelivers⟩ := List.cons.inj delivers
        exact ih restDelivers

/-- In front of the first failure of a stream there are only events. -/
theorem exists_first_failure {pulls : List (Pull Mark (StreamItem Payload))}
    {failure : StreamError} (fails : .error failure ∈ Pull.items pulls) :
    ∃ front error back, ∃ events : List (DomainEvent Payload),
      pulls = front ++ .item (.error error) :: back ∧ Pull.items front = events.map .ok := by
  induction pulls with
  | nil => exact absurd fails List.not_mem_nil
  | cons pull rest ih =>
    cases pull with
    | mark mark =>
      obtain ⟨front, error, back, events, rfl, delivers⟩ := ih fails
      exact ⟨.mark mark :: front, error, back, events, rfl, delivers⟩
    | item item =>
      cases item with
      | error error => exact ⟨[], error, rest, [], rfl, rfl⟩
      | ok event =>
        have later : .error failure ∈ Pull.items rest := by simpa [Pull.items] using fails
        obtain ⟨front, error, back, events, rfl, delivers⟩ := ih later
        exact ⟨.item (.ok event) :: front, error, back, event :: events, rfl,
          by rw [Pull.items, delivers, List.map_cons]⟩

end EventStream

namespace Guard

variable {Payload : Type} [PayloadFamily Payload] {State Mark : Type}
  {configuration : AggregateConfiguration Payload State} {guard : Guard Payload State}

/-- Whether an event is a snapshot of an aggregate. -/
def isSnapshot (configuration : AggregateConfiguration Payload State)
    (event : DomainEvent Payload) : Bool :=
  (configuration.snapshotKind.project event.payload).isSome

/-- What becomes of a guard that replays a history, whatever happens while it is read. -/
def replayed (configuration : AggregateConfiguration Payload State) (guard : Guard Payload State)
    (history : EventStream Mark Payload) : Except DomainError Unit × Guard Payload State :=
  let (result, reached, _) := guard.replay configuration history
  (result, reached)

/-- Only a queue keeps a guard from taking the items of a history. -/
theorem replay_of_nothingQueued (nothingQueued : guard.uncommitted = [])
    (history : EventStream Mark Payload) :
    guard.replay configuration history =
      ((replayItems configuration guard history.items).1,
        (replayItems configuration guard history.items).2, history.collect.1) := by
  simp [replay, nothingQueued]

theorem replayed_eq_replayItems (nothingQueued : guard.uncommitted = [])
    (history : EventStream Mark Payload) :
    guard.replayed configuration history = replayItems configuration guard history.items := by
  rw [replayed, replay_of_nothingQueued nothingQueued]

/-- Items behind events are taken by the guard that the events lead to. -/
theorem replayItems_append (configuration : AggregateConfiguration Payload State)
    (guard : Guard Payload State) (events : List (DomainEvent Payload))
    (items : List (StreamItem Payload)) :
    replayItems configuration guard (events.map .ok ++ items) =
      replayItems configuration (guard.replayEvents configuration events) items := by
  induction events generalizing guard with
  | nil => rfl
  | cons event rest ih => exact ih (guard.replayEvent configuration event)

theorem replayed_of_items (nothingQueued : guard.uncommitted = [])
    {history : EventStream Mark Payload} {events : List (DomainEvent Payload)}
    (delivers : history.items = events.map .ok) :
    guard.replayed configuration history = (.ok (), guard.replayEvents configuration events) := by
  rw [replayed_eq_replayItems nothingQueued, delivers, replayItems_map_ok]

/-! ## Snapshots -/

/-- The guard with the state of a snapshot in place of all that it has handled. -/
def restoredTo (guard : Guard Payload State) (state : State) (number : Nat) :
    Guard Payload State :=
  { guard with state, version := some number, eventsSinceSnapshot := 0 }

/-- A snapshot leaves of a replayed history neither state nor version nor count. -/
theorem replayEvent_of_snapshot {snapshot : DomainEvent Payload} {state : State}
    (isState : configuration.snapshotKind.project snapshot.payload = some state)
    (guard : Guard Payload State) :
    guard.replayEvent configuration snapshot =
      guard.restoredTo state snapshot.sequenceNumber := by
  simp only [replayEvent, isState, restoredTo]

/-- A replay changes nothing but what a snapshot replaces. -/
theorem restoredTo_replayEvents (guard : Guard Payload State)
    (events : List (DomainEvent Payload)) (state : State) (number : Nat) :
    (guard.replayEvents configuration events).restoredTo state number =
      guard.restoredTo state number := by
  induction events generalizing guard with
  | nil => rfl
  | cons event rest ih =>
    change ((guard.replayEvent configuration event).replayEvents configuration
      rest).restoredTo state number = _
    rw [ih, replayEvent]
    split <;> rfl

/-- A snapshot absorbs what lies in front of it. -/
theorem replayEvents_snapshot {snapshot : DomainEvent Payload} {state : State}
    (isState : configuration.snapshotKind.project snapshot.payload = some state)
    (guard : Guard Payload State) (past later : List (DomainEvent Payload)) :
    guard.replayEvents configuration (past ++ snapshot :: later) =
      (guard.restoredTo state snapshot.sequenceNumber).replayEvents configuration later := by
  rw [replayEvents_append]
  change ((guard.replayEvents configuration past).replayEvent configuration
    snapshot).replayEvents configuration later = _
  rw [replayEvent_of_snapshot isState, restoredTo_replayEvents]

/-- Events are counted from the last snapshot on. -/
theorem eventsSinceSnapshot_replayEvents (counted : guard.eventsSinceSnapshot = 0)
    (events : List (DomainEvent Payload)) :
    (guard.replayEvents configuration events).eventsSinceSnapshot =
      (events.rtakeWhile fun event => !isSnapshot configuration event).length := by
  -- From the back, as only what lies behind the last snapshot counts.
  induction events using List.reverseRecOn with
  | nil => exact counted
  | append_singleton front last ih =>
    rw [replayEvents_append, List.rtakeWhile_concat]
    change ((guard.replayEvents configuration front).replayEvent configuration
      last).eventsSinceSnapshot = _
    cases taken : configuration.snapshotKind.project last.payload with
    | some state => simp [replayEvent, isSnapshot, taken]
    | none => simp [replayEvent, isSnapshot, taken, ih]

/-! ## Parts of a history -/

/-- Replaying a history part by part is replaying it at once.  What lies in front of a
snapshot makes no difference, and behind it the events are counted from the last snapshot
on.  The first failure is the answer of a replay, which leaves the guard as the events in
front of it do, and asks for nothing behind it. -/
theorem replay_inParts (nothingQueued : guard.uncommitted = []) :
    (∀ (first second whole : EventStream Mark Payload) (events : List (DomainEvent Payload)),
      first.items = events.map .ok → whole.items = first.items ++ second.items →
        ∃ middle, guard.replayed configuration first = (.ok (), middle) ∧
          guard.replayed configuration whole = middle.replayed configuration second) ∧
    (∀ (whole short : EventStream Mark Payload) (past later : List (DomainEvent Payload))
      (snapshot : DomainEvent Payload) (state : State),
      configuration.snapshotKind.project snapshot.payload = some state →
        whole.items = (past ++ snapshot :: later).map .ok →
        short.items = (snapshot :: later).map .ok →
          ∃ last, guard.replayed configuration whole = (.ok (), last) ∧
            guard.replayed configuration short = (.ok (), last) ∧
            last = (guard.restoredTo state snapshot.sequenceNumber).replayEvents configuration
              later ∧
            last.eventsSinceSnapshot =
              (later.rtakeWhile fun event => !isSnapshot configuration event).length) ∧
    (∀ (history : EventStream Mark Payload) (failure : StreamError),
      .error failure ∈ history.items →
        ∃ front error back, ∃ events : List (DomainEvent Payload),
          history.pulls = front ++ .item (.error error) :: back ∧
          Pull.items front = events.map .ok ∧
          ∃ reached, guard.replay configuration (.ofPulls front) =
              (.ok (), reached, (EventStream.ofPulls front).collect.1) ∧
            guard.replay configuration history =
              (.error (.stream error), reached, (EventStream.ofPulls front).collect.1)) := by
  refine ⟨?parts, ?snapshots, ?failures⟩
  case parts =>
    intro first second whole events firstItems wholeItems
    have stillNothing : (guard.replayEvents configuration events).uncommitted = [] := by
      rw [uncommitted_replayEvents, nothingQueued]
    refine ⟨_, replayed_of_items nothingQueued firstItems, ?_⟩
    rw [replayed_eq_replayItems nothingQueued, wholeItems, firstItems, replayItems_append,
      replayed_eq_replayItems stillNothing]
  case snapshots =>
    intro whole short past later snapshot state isState wholeItems shortItems
    refine ⟨_, replayed_of_items nothingQueued wholeItems, ?_, ?_, ?_⟩
    · rw [replayed_of_items nothingQueued shortItems, replayEvents_snapshot isState,
        ← replayEvents_snapshot isState guard [] later, List.nil_append]
    · exact replayEvents_snapshot isState guard past later
    · rw [replayEvents_snapshot isState]
      exact eventsSinceSnapshot_replayEvents rfl later
  case failures =>
    intro history failure fails
    obtain ⟨front, error, back, events, split, delivers⟩ :=
      EventStream.exists_first_failure fails
    refine ⟨front, error, back, events, split, delivers, _,
      replay_of_items nothingQueued delivers, ?_⟩
    have items : history.items = events.map .ok ++ .error error :: Pull.items back := by
      rw [EventStream.items, split, Pull.items_append, delivers]
      rfl
    have marks : history.collect.1 = (EventStream.ofPulls front).collect.1 := by
      rw [EventStream.collect, split]
      exact EventStream.collectPulls_of_failure delivers error back
    rw [replay_of_nothingQueued nothingQueued, items, replayItems_append, marks]
    rfl

/-- A meter is installed and measures 5, a snapshot is taken, it measures 7, and what comes
then cannot be read. -/
theorem replay_inParts_of_meter :
    let event (number : Nat) (payload : MeterPayload) : DomainEvent MeterPayload :=
      .ofStamp ⟨EventId.ofNat number, default⟩ ⟨"m"⟩ number payload .empty
    let past := [event 0 (.installed ⟨"m"⟩ 2), event 1 (.measured 5)]
    let snapshot := event 1 (.reading { id := some ⟨"m"⟩, registers := [5, 5] })
    let later := [event 2 (.measured 7)]
    let first : EventStream Unit MeterPayload := .ofEvents past
    let short : EventStream Unit MeterPayload := .ofEvents (snapshot :: later)
    let whole : EventStream Unit MeterPayload := .ofEvents (past ++ snapshot :: later)
    let broken : EventStream Unit MeterPayload :=
      .ofItems (past.map .ok ++ [.error ⟨"lost"⟩, .ok snapshot])
    let guard : Guard MeterPayload Meter := ofState {}
    guard.uncommitted = [] ∧
    (∃ middle, guard.replayed Meter.configuration first = (.ok (), middle) ∧
      guard.replayed Meter.configuration whole = middle.replayed Meter.configuration short) ∧
    (∃ last, guard.replayed Meter.configuration whole = (.ok (), last) ∧
      guard.replayed Meter.configuration short = (.ok (), last) ∧
      last.state.registers = [12, 12] ∧ last.eventsSinceSnapshot = 1) ∧
    ∃ front error back, broken.pulls = front ++ .item (.error error) :: back ∧
      ∃ reached marks, guard.replay Meter.configuration broken =
        (.error (.stream error), reached, marks) := by
  intro event past snapshot later first short whole broken guard
  obtain ⟨parts, snapshots, failures⟩ :=
    @replay_inParts MeterPayload _ Meter Unit Meter.configuration guard rfl
  refine ⟨rfl, parts first short whole past rfl rfl, ?_, ?_⟩
  · obtain ⟨last, fromWhole, fromShort, isLast, counted⟩ :=
      snapshots whole short past later snapshot _ rfl rfl rfl
    refine ⟨last, fromWhole, fromShort, ?_, counted⟩
    rw [isLast]
    rfl
  · have lost : .error ⟨"lost"⟩ ∈ broken.items :=
      List.mem_cons_of_mem _ (List.mem_cons_of_mem _ List.mem_cons_self)
    obtain ⟨front, error, back, events, split, -, reached, -, failed⟩ :=
      failures broken ⟨"lost"⟩ lost
    exact ⟨front, error, back, split, reached, _, failed⟩

end Guard

end EventSourcing
