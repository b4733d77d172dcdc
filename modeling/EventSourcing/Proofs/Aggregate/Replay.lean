import EventSourcing.Aggregate.Guard
import EventSourcing.Proofs.Aggregate.Meter

/-!
# Replaying what a guard has handed out

A live guard handles the first event of an aggregate before the event has its
identifier, and every later event after it has been numbered and attributed.
Replaying handles all of them as they were stored.  The two agree, because
committing the queue of a live guard and replaying the queue behind the history
give the same guard (`Guard.KeepsUpWith`): this holds of a guard that has just
been replayed, every event applied extends both sides alike, and committing
only moves the border between history and queue.
-/

namespace EventSourcing

namespace Guard

variable {Payload : Type} [PayloadFamily Payload] {State Mark : Type}

/-! ## Taking a history -/

/-- The guard after the events of a history. -/
def replayEvents (configuration : AggregateConfiguration Payload State)
    (guard : Guard Payload State) (events : List (DomainEvent Payload)) : Guard Payload State :=
  events.foldl (replayEvent configuration) guard

@[simp] theorem replayEvents_append (configuration : AggregateConfiguration Payload State)
    (guard : Guard Payload State) (first second : List (DomainEvent Payload)) :
    guard.replayEvents configuration (first ++ second) =
      (guard.replayEvents configuration first).replayEvents configuration second :=
  List.foldl_append

@[simp] theorem uncommitted_replayEvent (configuration : AggregateConfiguration Payload State)
    (guard : Guard Payload State) (event : DomainEvent Payload) :
    (guard.replayEvent configuration event).uncommitted = guard.uncommitted := by
  unfold replayEvent
  split <;> rfl

@[simp] theorem uncommitted_replayEvents (configuration : AggregateConfiguration Payload State)
    (guard : Guard Payload State) (events : List (DomainEvent Payload)) :
    (guard.replayEvents configuration events).uncommitted = guard.uncommitted := by
  induction events generalizing guard with
  | nil => rfl
  | cons event rest ih =>
    change ((guard.replayEvent configuration event).replayEvents configuration rest).uncommitted = _
    rw [ih, uncommitted_replayEvent]

@[simp] theorem version_replayEvent (configuration : AggregateConfiguration Payload State)
    (guard : Guard Payload State) (event : DomainEvent Payload) :
    (guard.replayEvent configuration event).version = some event.sequenceNumber := by
  unfold replayEvent
  split <;> rfl

theorem version_replayEvents (configuration : AggregateConfiguration Payload State)
    (guard : Guard Payload State) (events : List (DomainEvent Payload)) :
    (guard.replayEvents configuration events).version =
      (events.getLast?.map DomainEvent.sequenceNumber).or guard.version := by
  rcases List.eq_nil_or_concat events with rfl | ⟨front, last, rfl⟩
  · rfl
  · rw [List.concat_eq_append, replayEvents_append, List.getLast?_concat]
    exact version_replayEvent configuration _ last

theorem replayItems_map_ok (configuration : AggregateConfiguration Payload State)
    (guard : Guard Payload State) (events : List (DomainEvent Payload)) :
    replayItems configuration guard (events.map .ok) =
      (.ok (), guard.replayEvents configuration events) := by
  induction events generalizing guard with
  | nil => rfl
  | cons event rest ih => exact ih (guard.replayEvent configuration event)

theorem exists_events_of_replayItems_eq_ok {configuration : AggregateConfiguration Payload State}
    {guard last : Guard Payload State} {items : List (StreamItem Payload)}
    (taken : replayItems configuration guard items = (.ok (), last)) :
    ∃ events, items = events.map .ok ∧ last = guard.replayEvents configuration events := by
  induction items generalizing guard with
  | nil =>
    cases taken
    exact ⟨[], rfl, rfl⟩
  | cons item rest ih =>
    cases item with
    | error error => simp [replayItems] at taken
    | ok event =>
      obtain ⟨events, rfl, rfl⟩ := ih taken
      exact ⟨event :: events, rfl, rfl⟩

theorem replay_of_items {configuration : AggregateConfiguration Payload State}
    {guard : Guard Payload State} (nothingQueued : guard.uncommitted = [])
    {stream : EventStream Mark Payload} {events : List (DomainEvent Payload)}
    (delivers : stream.items = events.map .ok) :
    guard.replay configuration stream =
      (.ok (), guard.replayEvents configuration events, stream.collect.1) := by
  simp [replay, nothingQueued, delivers, replayItems_map_ok]

theorem exists_events_of_replay_eq_ok {configuration : AggregateConfiguration Payload State}
    {guard last : Guard Payload State} {stream : EventStream Mark Payload} {marks : List Mark}
    (taken : guard.replay configuration stream = (.ok (), last, marks)) :
    ∃ events, stream.items = events.map .ok ∧
      last = guard.replayEvents configuration events := by
  unfold replay at taken
  split at taken
  · rcases outcome : replayItems configuration guard stream.items with ⟨result, reached⟩
    simp only [outcome, Prod.mk.injEq] at taken
    rw [taken.1, taken.2.1] at outcome
    exact exists_events_of_replayItems_eq_ok outcome
  · simp at taken

theorem replayEvent_of_project_eq_none {configuration : AggregateConfiguration Payload State}
    {event : DomainEvent Payload} (plain : configuration.snapshotKind.project event.payload = none)
    (guard : Guard Payload State) :
    guard.replayEvent configuration event =
      { guard with
        state := configuration.evolve guard.state event
        eventsSinceSnapshot := guard.eventsSinceSnapshot + 1
        version := some event.sequenceNumber } := by
  simp [replayEvent, plain]

/-- The state after a replay depends on the state before it only. -/
theorem state_replayEvents_congr {configuration : AggregateConfiguration Payload State}
    {guard other : Guard Payload State} (same : guard.state = other.state)
    (events : List (DomainEvent Payload)) :
    (guard.replayEvents configuration events).state =
      (other.replayEvents configuration events).state := by
  induction events generalizing guard other with
  | nil => exact same
  | cons event rest ih =>
    refine ih ?_
    cases taken : configuration.snapshotKind.project event.payload with
    | some state => simp only [replayEvent, taken]
    | none => simp only [replayEvent, taken, same]

/-! ## Committing -/

omit [PayloadFamily Payload] in
theorem commit_of_uncommitted_eq_nil {guard : Guard Payload State}
    (nothingQueued : guard.uncommitted = []) : guard.commit = ([], guard) := by
  obtain ⟨state, version, uncommitted, count, deleted⟩ := guard
  cases nothingQueued
  simp [commit, lastSequenceNumber?]

/-- Committing one event more is committing and then replaying that event. -/
theorem commit_push {configuration : AggregateConfiguration Payload State}
    (guard : Guard Payload State) {event : DomainEvent Payload}
    (plain : configuration.snapshotKind.project event.payload = none) :
    ({ guard with
        state := configuration.evolve guard.state event
        uncommitted := guard.uncommitted ++ [event] } : Guard Payload State).commit.2 =
      guard.commit.2.replayEvent configuration event := by
  rw [replayEvent_of_project_eq_none plain]
  simp [commit, lastSequenceNumber?, Nat.add_assoc]

/-! ## What an accepted event does -/

/-- An accepted event is handled and queued behind the others under the next number.  It
belongs to the aggregate that the state names.  The first event of an aggregate without
identifier is handled as a provisional one, and belongs to the aggregate that the state
after it names. -/
theorem apply_cases {configuration : AggregateConfiguration Payload State} {stamp : Stamp}
    {payload : Payload} {metadata : Metadata} {guard next : Guard Payload State}
    (applied : guard.apply configuration stamp payload metadata = (.ok (), next)) :
    ∃ id, let event := DomainEvent.ofStamp stamp id guard.nextSequenceNumber payload metadata
      ∃ handled, next = { guard with
          state := configuration.evolve guard.state handled
          uncommitted := guard.uncommitted ++ [event] } ∧
        ((handled = event ∧ guard.identifier configuration = some id) ∨
          (handled = event.attributedTo ⟨""⟩ ∧
            guard.identifier configuration = none ∧ guard.uncommitted = [] ∧
            guard.version = none ∧ next.identifier configuration = some id)) := by
  unfold apply at applied
  cases assigned : guard.identifier configuration with
  | some id =>
    rw [assigned] at applied
    simp only [Prod.mk.injEq, true_and] at applied
    exact ⟨id, _, applied.symm, .inl ⟨rfl, rfl⟩⟩
  | none =>
    rw [assigned] at applied
    simp only [applyCreation] at applied
    split at applied
    · simp at applied
    next fresh =>
      have nothingQueued : guard.uncommitted = [] := by
        simp only [Bool.or_eq_true, Bool.not_eq_eq_eq_not, Bool.not_true, not_or] at fresh
        simpa using fresh.1
      have unversioned : guard.version = none := by
        simp only [Bool.or_eq_true, not_or] at fresh
        simpa using fresh.2
      split at applied
      · simp at applied
      next id created =>
        have first : guard.nextSequenceNumber = 0 := by
          simp [nextSequenceNumber, lastSequenceNumber?, nothingQueued, unversioned]
        simp only [Prod.mk.injEq, true_and] at applied
        refine ⟨id, DomainEvent.ofStamp stamp ⟨""⟩ 0 payload metadata, ?_,
          .inr ⟨?_, rfl, nothingQueued, unversioned, ?_⟩⟩
        · rw [← applied, first]
          rfl
        · rw [first]
          rfl
        · rw [← applied]
          exact created

/-- Only an aggregate without identifier refuses an event.  It is left as it was, or it has
no history and has handled the event, but is still without identifier. -/
theorem apply_refused_cases {configuration : AggregateConfiguration Payload State}
    {stamp : Stamp} {payload : Payload} {metadata : Metadata} {guard next : Guard Payload State}
    {error : DomainError}
    (refused : guard.apply configuration stamp payload metadata = (.error error, next)) :
    guard.identifier configuration = none ∧
      (next = guard ∨
        (guard.uncommitted = [] ∧ guard.version = none ∧
          next.identifier configuration = none ∧
          ∃ event, next = { guard with state := configuration.evolve guard.state event })) := by
  unfold apply at refused
  cases assigned : guard.identifier configuration with
  | some id => simp [assigned] at refused
  | none =>
    refine ⟨rfl, ?_⟩
    rw [assigned] at refused
    simp only [applyCreation] at refused
    split at refused
    · exact .inl (Prod.mk.inj refused).2.symm
    next fresh =>
      simp only [Bool.or_eq_true, Bool.not_eq_eq_eq_not, Bool.not_true, not_or] at fresh
      split at refused
      next still =>
        obtain rfl := (Prod.mk.inj refused).2
        exact .inr ⟨by simpa using fresh.1, by simpa using fresh.2, still, _, rfl⟩
      next => simp at refused

/-- Where handlers look at what happened and not at whom it is said of, the state is the
one after the event as it is queued. -/
theorem apply_eq_ok {configuration : AggregateConfiguration Payload State}
    (ignores : configuration.entity.IgnoresAggregateId) {stamp : Stamp} {payload : Payload}
    {metadata : Metadata} {guard next : Guard Payload State}
    (applied : guard.apply configuration stamp payload metadata = (.ok (), next)) :
    ∃ id, let event := DomainEvent.ofStamp stamp id guard.nextSequenceNumber payload metadata
      next = { guard with
        state := configuration.evolve guard.state event
        uncommitted := guard.uncommitted ++ [event] } ∧
      (guard.identifier configuration = some id ∨
        guard.identifier configuration = none ∧ guard.uncommitted = [] ∧ guard.version = none ∧
          next.identifier configuration = some id) := by
  obtain ⟨id, handled, isNext, ⟨rfl, assigned⟩ | ⟨rfl, fresh⟩⟩ := apply_cases applied
  · exact ⟨id, isNext, .inl assigned⟩
  · refine ⟨id, ?_, .inr fresh⟩
    have same := AggregateConfiguration.evolve_attributedTo ignores guard.state
      (DomainEvent.ofStamp stamp id guard.nextSequenceNumber payload metadata) ⟨""⟩
    rw [isNext]
    exact congrArg (fun state => { guard with
      state
      uncommitted := guard.uncommitted ++
        [DomainEvent.ofStamp stamp id guard.nextSequenceNumber payload metadata] }) same

/-! ## Numbers -/

section Numbers

variable {guard : Guard Payload State} {past : List (DomainEvent Payload)}
  (version : guard.version = past.getLast?.map DomainEvent.sequenceNumber)

omit [PayloadFamily Payload]

include version

theorem lastSequenceNumber?_of_version : guard.lastSequenceNumber? =
    (past ++ guard.uncommitted).getLast?.map DomainEvent.sequenceNumber := by
  rw [lastSequenceNumber?, version, List.getLast?_append]
  cases guard.uncommitted.getLast? <;> rfl

/-- Behind events that are numbered without gaps comes their number. -/
theorem nextSequenceNumber_of_numbered
    (numbered : (past ++ guard.uncommitted).map DomainEvent.sequenceNumber =
      List.range (past ++ guard.uncommitted).length) :
    guard.nextSequenceNumber = (past ++ guard.uncommitted).length := by
  rw [nextSequenceNumber, lastSequenceNumber?_of_version version, ← List.getLast?_map, numbered,
    List.getLast?_range]
  by_cases empty : (past ++ guard.uncommitted).length = 0
  · simp [empty]
  · simp only [empty, ↓reduceIte]
    omega

end Numbers

/-! ## Live guards and replayed ones -/

/-- The queue of a guard, replayed behind a history, gives what committing it
gives. -/
def KeepsUpWith (configuration : AggregateConfiguration Payload State) (start : State)
    (history : List (DomainEvent Payload)) (guard : Guard Payload State) : Prop :=
  (ofState start).replayEvents configuration (history ++ guard.uncommitted) = guard.commit.2

/-- What a guard does between being loaded and being given up: it accepts
payloads, and hands out the queued events any number of times.  `committed` are
the events handed out so far. -/
inductive Session (configuration : AggregateConfiguration Payload State)
    (loaded : Guard Payload State) :
    (committed : List (DomainEvent Payload)) → (live : Guard Payload State) → Prop
  | start : Session configuration loaded [] loaded
  | apply {committed live next} (before : Session configuration loaded committed live)
      (stamp : Stamp) (payload : Payload) (metadata : Metadata)
      (plain : configuration.snapshotKind.project payload = none)
      (applied : live.apply configuration stamp payload metadata = (.ok (), next)) :
      Session configuration loaded committed next
  | commit {committed live} (before : Session configuration loaded committed live) :
      Session configuration loaded (committed ++ live.commit.1) live.commit.2

theorem keepsUpWith_replayEvents (configuration : AggregateConfiguration Payload State)
    (start : State) (history : List (DomainEvent Payload)) :
    KeepsUpWith configuration start history
      ((ofState start).replayEvents configuration history) := by
  have nothingQueued :
      ((ofState start : Guard Payload State).replayEvents configuration history).uncommitted =
        [] := by
    rw [uncommitted_replayEvents]
    rfl
  rw [KeepsUpWith, nothingQueued, List.append_nil, commit_of_uncommitted_eq_nil nothingQueued]

theorem KeepsUpWith.apply {configuration : AggregateConfiguration Payload State}
    (ignores : configuration.entity.IgnoresAggregateId) {start : State}
    {history : List (DomainEvent Payload)} {guard next : Guard Payload State}
    (keepsUp : KeepsUpWith configuration start history guard) {stamp : Stamp} {payload : Payload}
    {metadata : Metadata} (plain : configuration.snapshotKind.project payload = none)
    (applied : guard.apply configuration stamp payload metadata = (.ok (), next)) :
    KeepsUpWith configuration start history next := by
  obtain ⟨id, rfl, -⟩ := apply_eq_ok ignores applied
  unfold KeepsUpWith at keepsUp ⊢
  rw [commit_push guard plain, ← keepsUp, ← List.append_assoc, replayEvents_append]
  rfl

omit [PayloadFamily Payload] in
@[simp] theorem uncommitted_commit (guard : Guard Payload State) :
    guard.commit.2.uncommitted = [] := rfl

theorem KeepsUpWith.commit {configuration : AggregateConfiguration Payload State} {start : State}
    {history : List (DomainEvent Payload)} {guard : Guard Payload State}
    (keepsUp : KeepsUpWith configuration start history guard) :
    KeepsUpWith configuration start (history ++ guard.commit.1) guard.commit.2 := by
  unfold KeepsUpWith at keepsUp ⊢
  rw [commit_of_uncommitted_eq_nil (uncommitted_commit guard), uncommitted_commit,
    List.append_nil]
  exact keepsUp

/-- A live guard keeps up with the history it was loaded from and the events
that it has handed out since. -/
theorem Session.keepsUpWith {configuration : AggregateConfiguration Payload State}
    (ignores : configuration.entity.IgnoresAggregateId) {start : State}
    {history committed : List (DomainEvent Payload)} {loaded live : Guard Payload State}
    (loadedKeepsUp : KeepsUpWith configuration start history loaded)
    (session : Session configuration loaded committed live) :
    KeepsUpWith configuration start (history ++ committed) live := by
  induction session with
  | start => simpa using loadedKeepsUp
  | apply before stamp payload metadata plain applied ih => exact ih.apply ignores plain applied
  | commit before ih =>
    rw [← List.append_assoc]
    exact ih.commit

/-- However a guard was loaded, and whatever it accepted and handed out since:
once its queue is committed, replaying the whole history, the events it was
loaded from and all those it handed out, gives the same guard, with nothing
queued. -/
theorem replay_wholeHistory {configuration : AggregateConfiguration Payload State}
    (ignores : configuration.entity.IgnoresAggregateId) {start : State}
    {initial whole : EventStream Mark Payload} {loaded live : Guard Payload State}
    {marks : List Mark}
    (opened : (ofState start).replay configuration initial = (.ok (), loaded, marks))
    {committed : List (DomainEvent Payload)}
    (session : Session configuration loaded committed live)
    (delivers : whole.items = initial.items ++ (committed ++ live.commit.1).map .ok) :
    (ofState start).replay configuration whole = (.ok (), live.commit.2, whole.collect.1) ∧
      live.commit.2.uncommitted = [] := by
  obtain ⟨events, initialItems, rfl⟩ := exists_events_of_replay_eq_ok opened
  have keepsUp := session.keepsUpWith ignores
    (keepsUpWith_replayEvents configuration start events)
  have wholeItems : whole.items = (events ++ committed ++ live.uncommitted).map .ok := by
    rw [delivers, initialItems]
    simp [Guard.commit]
  refine ⟨?_, uncommitted_commit live⟩
  rw [replay_of_items rfl wholeItems, keepsUp]

/-- A meter that is installed and saved, and then measures something. -/
theorem replay_wholeHistory_of_meter :
    ∃ (committed : List (DomainEvent MeterPayload)) (live : Guard MeterPayload Meter),
      (ofState {}).replay Meter.configuration (EventStream.empty : EventStream Unit MeterPayload) =
        (.ok (), ofState {}, []) ∧
      Session Meter.configuration (ofState {}) committed live ∧
      committed.length = 1 ∧ live.state = { id := some ⟨"m"⟩, registers := [5, 5] } ∧
      (ofState {}).replay Meter.configuration
          (EventStream.ofEvents (committed ++ live.commit.1) : EventStream Unit MeterPayload) =
        (.ok (), live.commit.2, []) := by
  have opened : (ofState {}).replay Meter.configuration
      (EventStream.empty : EventStream Unit MeterPayload) = (.ok (), ofState {}, []) := rfl
  have begun : Session Meter.configuration (ofState {}) [] (ofState {}) := .start
  have installed := begun.apply ⟨EventId.ofNat 1, default⟩ (.installed ⟨"m"⟩ 2) .empty rfl rfl
  have measured := installed.commit.apply ⟨EventId.ofNat 2, default⟩ (.measured 5) .empty rfl rfl
  exact ⟨_, _, opened, measured, rfl, rfl,
    (replay_wholeHistory Meter.entity_ignoresAggregateId opened measured rfl).1⟩

end Guard

end EventSourcing
