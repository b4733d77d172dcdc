import EventSourcing.Proofs.Repository.Clients

/-!
# What refused creations leave

The first event of an aggregate without identifier is handled before it is known whether
it assigns one.  If it does not, it is refused, but its effect on the state remains, and a
handler may carry on with it (`Repository.Attempting`).  So the state of a guard is the one
after its stored past and its queue, replayed into what refused creations have left of a
fresh aggregate (`Repository.Stems`).
-/

namespace EventSourcing

namespace Repository

variable {Payload State Note Bus : Type} [DocumentFamily Payload]
  {repository : Repository Payload State Note Bus} {leaves : State → Prop}

/-! ## Handlers that carry on -/

/-- The states that refused creations can leave of a fresh aggregate. -/
inductive Remnant (repository : Repository Payload State Note Bus) : State → Prop
  | fresh : Remnant repository repository.fresh
  | refused {state : State} (before : Remnant repository state) (event : DomainEvent Payload)
      (unassigned : repository.configuration.identifier state = none)
      (still : repository.configuration.identifier
        (repository.configuration.evolve state event) = none) :
      Remnant repository (repository.configuration.evolve state event)

/-- What the handler of a command does to an aggregate: it applies events, and it may
ignore that some of them are refused, as long as these leave the state as it was, or one of
the given states. -/
inductive Attempting (repository : Repository Payload State Note Bus) (leaves : State → Prop)
    (start : Guard Payload State) : Guard Payload State → Prop
  | start : Attempting repository leaves start start
  | accept {live next} (before : Attempting repository leaves start live) (stamp : Stamp)
      (payload : Payload) (metadata : Metadata) (admits : repository.Admits payload)
      (applied : live.apply repository.configuration stamp payload metadata = (.ok (), next)) :
      Attempting repository leaves start next
  | refuse {live next} (before : Attempting repository leaves start live) (stamp : Stamp)
      (payload : Payload) (metadata : Metadata) {error : DomainError}
      (refused : live.apply repository.configuration stamp payload metadata =
        (.error error, next))
      (left : next.state = live.state ∨ leaves next.state) :
      Attempting repository leaves start next
  | delete {live} (before : Attempting repository leaves start live) :
      Attempting repository leaves start live.markDeleted

/-! ## Where a state comes from -/

/-- The state after events, if the aggregate was at another state before them. -/
def stateFrom (repository : Repository Payload State Note Bus) (origin : State)
    (events : List (DomainEvent Payload)) : State :=
  ((Guard.ofState origin).replayEvents repository.configuration events).state

theorem stateFrom_append (origin : State) (past later : List (DomainEvent Payload)) :
    repository.stateFrom origin (past ++ later) =
      repository.stateFrom (repository.stateFrom origin past) later := by
  have same : ((Guard.ofState origin).replayEvents repository.configuration past).state =
      (Guard.ofState (repository.stateFrom origin past) : Guard Payload State).state := rfl
  rw [stateFrom, Guard.replayEvents_append]
  exact Guard.state_replayEvents_congr same later

theorem stateFrom_singleton (origin : State) {event : DomainEvent Payload}
    (admits : repository.Admits event.payload) :
    repository.stateFrom origin [event] = repository.configuration.evolve origin event :=
  congrArg Guard.state (Guard.replayEvent_of_project_eq_none admits.plain _)

/-- A state to which events lead from what refused creations have left. -/
def ComesFrom (repository : Repository Payload State Note Bus) (leaves : State → Prop)
    (events : List (DomainEvent Payload)) (state : State) : Prop :=
  ∃ origin, repository.Remnant origin ∧ (origin = repository.fresh ∨ leaves origin) ∧
    state = repository.stateFrom origin events

theorem comesFrom_fresh (events : List (DomainEvent Payload)) :
    repository.ComesFrom leaves events (repository.stateFrom repository.fresh events) :=
  ⟨repository.fresh, .fresh, .inl rfl, rfl⟩

theorem ComesFrom.append {past : List (DomainEvent Payload)} {state : State}
    (comes : repository.ComesFrom leaves past state) (later : List (DomainEvent Payload)) :
    repository.ComesFrom leaves (past ++ later) (repository.stateFrom state later) := by
  obtain ⟨origin, remnant, isLeft, rfl⟩ := comes
  exact ⟨origin, remnant, isLeft, (stateFrom_append origin past later).symm⟩

/-- A guard whose queue follows a stored past without gaps, and whose state comes from
both. -/
structure Stems (repository : Repository Payload State Note Bus) (leaves : State → Prop)
    (past : List (DomainEvent Payload)) (guard : Guard Payload State) : Prop where
  numbered : (past ++ guard.uncommitted).map DomainEvent.sequenceNumber =
    List.range (past ++ guard.uncommitted).length
  admitted : ∀ event ∈ past ++ guard.uncommitted, repository.Admits event.payload
  owned : ∀ event ∈ guard.uncommitted,
    guard.identifier repository.configuration = some event.aggregateId
  comes : repository.ComesFrom leaves (past ++ guard.uncommitted) guard.state
  version : guard.version = past.getLast?.map DomainEvent.sequenceNumber

variable {past : List (DomainEvent Payload)} {guard next : Guard Payload State}

theorem stems_of_nothingQueued (nothingQueued : guard.uncommitted = [])
    (numbered : past.map DomainEvent.sequenceNumber = List.range past.length)
    (admitted : ∀ event ∈ past, repository.Admits event.payload)
    (comes : repository.ComesFrom leaves past guard.state)
    (version : guard.version = past.getLast?.map DomainEvent.sequenceNumber) :
    repository.Stems leaves past guard where
  numbered := by rwa [nothingQueued, List.append_nil]
  admitted := by rwa [nothingQueued, List.append_nil]
  owned := by simp [nothingQueued]
  comes := by rwa [nothingQueued, List.append_nil]
  version := version

theorem Stems.of_same (stems : repository.Stems leaves past guard)
    (state : next.state = guard.state) (version : next.version = guard.version)
    (uncommitted : next.uncommitted = guard.uncommitted) : repository.Stems leaves past next where
  numbered := uncommitted ▸ stems.numbered
  admitted := uncommitted ▸ stems.admitted
  owned := by
    rw [uncommitted, Guard.identifier, state]
    exact stems.owned
  comes := by
    rw [uncommitted, state]
    exact stems.comes
  version := version.trans stems.version

theorem Stems.commit (stems : repository.Stems leaves past guard) :
    repository.Stems leaves (past ++ guard.uncommitted) guard.commit.2 where
  numbered := by simpa [Guard.commit] using stems.numbered
  admitted := by simpa [Guard.commit] using stems.admitted
  owned _ isQueued := absurd isQueued List.not_mem_nil
  comes := by simpa [Guard.commit] using stems.comes
  version := Guard.lastSequenceNumber?_of_version stems.version

/-- An accepted event is queued under the identifier of the state after it. -/
theorem Stems.accept (wellBehaved : repository.WellBehaved)
    (stems : repository.Stems leaves past guard) {stamp : Stamp} {payload : Payload}
    {metadata : Metadata} (admits : repository.Admits payload)
    (applied : guard.apply repository.configuration stamp payload metadata = (.ok (), next)) :
    repository.Stems leaves past next := by
  obtain ⟨id, isNext, attribution⟩ :=
    Guard.apply_eq_ok wellBehaved.ignoresAggregateId applied
  generalize isEvent : DomainEvent.ofStamp stamp id guard.nextSequenceNumber payload metadata =
    event at isNext
  have isPayload : event.payload = payload := by rw [← isEvent]; rfl
  have isNumber : event.sequenceNumber = (past ++ guard.uncommitted).length := by
    rw [← Guard.nextSequenceNumber_of_numbered stems.version stems.numbered, ← isEvent]
    rfl
  have isOwner : event.aggregateId = id := by rw [← isEvent]; rfl
  have queue : past ++ next.uncommitted = past ++ guard.uncommitted ++ [event] := by
    rw [isNext, List.append_assoc]
  constructor
  case numbered =>
    have longer : (past ++ guard.uncommitted ++ [event]).length =
        (past ++ guard.uncommitted).length + 1 := by simp [Nat.add_assoc]
    rw [queue, longer, List.map_append, stems.numbered, List.map_singleton, isNumber,
      List.range_succ]
  case admitted =>
    intro other isOther
    rw [queue] at isOther
    rcases List.mem_append.mp isOther with earlier | isNew
    · exact stems.admitted other earlier
    · rw [List.mem_singleton.mp isNew, isPayload]
      exact admits
  case owned =>
    have keeps {owner : AggregateId}
        (assigned : guard.identifier repository.configuration = some owner) :
        next.identifier repository.configuration = some owner := by
      rw [isNext]
      exact wellBehaved.keepsIdentifier assigned event
    intro other isQueued
    rw [isNext] at isQueued
    rcases List.mem_append.mp isQueued with earlier | isNew
    · exact keeps (stems.owned other earlier)
    · rw [List.mem_singleton.mp isNew, isOwner]
      rcases attribution with assigned | ⟨-, -, -, created⟩
      · exact keeps assigned
      · exact created
  case comes =>
    have further := stems.comes.append [event]
    rw [stateFrom_singleton _ (isPayload ▸ admits)] at further
    rw [queue, isNext]
    exact further
  case version =>
    rw [isNext]
    exact stems.version

/-- A refused event leaves the guard as it was, or makes one more remnant of it. -/
theorem Stems.refuse (stems : repository.Stems leaves past guard) {stamp : Stamp}
    {payload : Payload} {metadata : Metadata} {error : DomainError}
    (refused : guard.apply repository.configuration stamp payload metadata =
      (.error error, next))
    (left : next.state = guard.state ∨ leaves next.state) :
    repository.Stems leaves past next := by
  obtain ⟨unassigned, rfl | ⟨nothingQueued, unversioned, still, event, rfl⟩⟩ :=
    Guard.apply_refused_cases refused
  · exact stems
  · rcases left with same | isLeft
    · exact stems.of_same same rfl rfl
    · obtain rfl : past = [] := by
        have version := stems.version
        rw [unversioned] at version
        simpa using version.symm
      obtain ⟨origin, remnant, -, state⟩ := stems.comes
      rw [nothingQueued] at state
      obtain rfl : guard.state = origin := state
      exact
        { stems with
          owned := by simp [nothingQueued]
          comes := by
            rw [nothingQueued]
            exact ⟨_, remnant.refused event unassigned still, .inr isLeft, rfl⟩ }

theorem Attempting.stems (wellBehaved : repository.WellBehaved) {live : Guard Payload State}
    (attempting : repository.Attempting leaves guard live)
    (stems : repository.Stems leaves past guard) : repository.Stems leaves past live := by
  induction attempting with
  | start => exact stems
  | accept before stamp payload metadata admits applied ih =>
    exact ih.accept wellBehaved admits applied
  | refuse before stamp payload metadata refused left ih => exact ih.refuse refused left
  | delete before ih => exact ih.of_same rfl rfl rfl

end Repository

end EventSourcing
