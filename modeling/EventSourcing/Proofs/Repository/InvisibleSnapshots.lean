import EventSourcing.Proofs.Repository.MeterRepository

/-!
# Snapshots do not show

Loading an aggregate gives the same with snapshots and without, whenever they were
taken and however many of them are kept: a snapshot saves the events before it from
being replayed, and changes nothing but the count of events since the last one
(`Repository.FreelyReachable.load_withoutSnapshots`).  Handlers may be any that change an
aggregate by applying events alone.  One that commits the queue itself hides events from the
store, which a snapshot still shows (`Repository.snapshot_shows_committed`).
-/

namespace EventSourcing

/-- The backend with all snapshots removed. -/
def Backend.withoutSnapshots (backend : Backend) : Backend :=
  { backend with entries := { backend.entries with snapshots := .empty } }

namespace Repository

variable {Payload State Note Bus : Type} [DocumentFamily Payload]
  {repository : Repository Payload State Note Bus} {backend : Backend}
  {histories : AggregateId → List (DomainEvent Payload)}

theorem Sound.withoutSnapshots (sound : repository.Sound backend histories) :
    repository.Sound backend.withoutSnapshots histories where
  reliable := sound.reliable
  records := by
    refine sound.records.withSnapshots fun key entry has => ?_
    obtain ⟨number, found⟩ := has
    simp [EntryStore.snapshotsOf] at found

theorem accept_loaded (id : AggregateId) (expected : ExpectedVersion)
    (events : List (DomainEvent Payload)) (counted : Nat) :
    (repository.accept id expected (repository.loaded events counted)).map
        Guard.resetSnapshotCounter =
      repository.accept id expected (repository.loaded events 0) := by
  have sameDeletion : (repository.loaded events counted).isDeleted repository.configuration =
      (repository.loaded events 0).isDeleted repository.configuration := rfl
  have sameVersion : (repository.loaded events counted).version =
      (repository.loaded events 0).version := rfl
  unfold accept
  rw [sameDeletion, sameVersion]
  by_cases deleted : (repository.loaded events 0).isDeleted repository.configuration = true
  · rw [if_pos deleted, if_pos deleted]
    rfl
  · rw [if_neg deleted, if_neg deleted]
    by_cases met : expected.isMetBy (repository.loaded events 0).version = true
    · rw [if_pos met, if_pos met]
      rfl
    · rw [if_neg met, if_neg met]
      rfl

/-- From where a load has counted is all that snapshots decide. -/
theorem map_resetSnapshotCounter_of_outcome {id : AggregateId} {expected : ExpectedVersion}
    {events : List (DomainEvent Payload)}
    {loaded : Except RepositoryError (Guard Payload State)}
    (outcome : (events = [] ∧ loaded = .error (.aggregateNotFound id)) ∨
      (events ≠ [] ∧ ∃ counted, loaded =
        repository.accept id expected (repository.loaded events counted))) :
    loaded.map Guard.resetSnapshotCounter =
      if events.isEmpty then .error (.aggregateNotFound id)
      else repository.accept id expected (repository.loaded events 0) := by
  rcases outcome with ⟨empty, missing⟩ | ⟨nonempty, counted, found⟩
  · rw [missing, empty]
    rfl
  · have someEvents : events.isEmpty = false := by simpa using nonempty
    rw [found, accept_loaded, someEvents]
    rfl

/-- What a load finds is what the life of the aggregate says. -/
theorem Sound.load_eq (wellBehaved : repository.WellBehaved)
    (sound : repository.Sound backend histories) (id : AggregateId) (expected : ExpectedVersion) :
    (repository.load id expected backend).1.map Guard.resetSnapshotCounter =
      if (histories id).isEmpty then .error (.aggregateNotFound id)
      else repository.accept id expected (repository.loaded (histories id) 0) :=
  map_resetSnapshotCounter_of_outcome
    (sound.records.load_spec wellBehaved sound.reliable id expected).2.2

/-! ## Runs -/

/-- A step of a client, or one in which an aggregate is changed by applying events alone, and
whatever does not belong to its state, queue and version is free. -/
inductive FreeStep (repository : Repository Payload State Note Bus) {Name : Type}
    [DecidableEq Name] : World Name Payload State → World Name Payload State → Prop
  | step {world next} (step : repository.Step world next) : FreeStep repository world next
  | keep {world : World Name Payload State} (name : Name) {guard next : Guard Payload State}
      (works : world.clients name = .working guard) (sameState : next.state = guard.state)
      (sameVersion : next.version = guard.version)
      (sameQueue : next.uncommitted = guard.uncommitted) :
      FreeStep repository world
        { world with clients := Function.update world.clients name (.working next) }
  | dispatch (world : World Name Payload State) (stamp : Stamp)
      (command : Command Payload State) (bus : Bus)
      (handles : ∀ guard live,
        (repository.obtain command.target command.expected world.backend).1 = .ok guard →
          command.handler guard = (.ok (), live) → repository.Deciding guard live) :
      FreeStep repository world
        { world with
          backend := (repository.dispatch stamp command world.backend bus).backend }

/-- What clients can bring about by such steps, one after another. -/
def FreelyReachable (repository : Repository Payload State Note Bus) {Name : Type}
    [DecidableEq Name] : World Name Payload State → Prop :=
  Relation.ReflTransGen repository.FreeStep World.start

theorem FreeStep.sound {Name : Type} [DecidableEq Name] (wellBehaved : repository.WellBehaved)
    {world next : World Name Payload State} (step : repository.FreeStep world next)
    (sound : world.Sound repository histories) :
    ∃ later, GoOn histories later ∧ next.Sound repository later := by
  cases step with
  | step step => exact step.sound wellBehaved sound
  | keep name works sameState sameVersion sameQueue =>
    -- Of a guard only state, version and queue matter to the life that it is a part of.
    have holds := sound.holds name
    rw [works] at holds
    have unchanged := goOn_refl histories
    exact ⟨histories, unchanged, sound.update unchanged sound.store name
      (Repository.Holds.of_same holds sameState sameVersion sameQueue)⟩
  | dispatch stamp command bus handles =>
    obtain ⟨later, goOn, soundAfter⟩ :=
      sound.store.dispatch wellBehaved stamp command bus handles
    exact ⟨later, goOn, soundAfter, fun name => (sound.holds name).goOn goOn⟩

/-- Whatever clients have stored, and whichever snapshots have been taken and removed
meanwhile: loading an aggregate fails alike with and without the snapshots, or gives
the same guard but for the events counted since the last snapshot. -/
theorem FreelyReachable.load_withoutSnapshots {Name : Type} [DecidableEq Name]
    (wellBehaved : repository.WellBehaved) {world : World Name Payload State}
    (reachable : repository.FreelyReachable world) (id : AggregateId)
    (expected : ExpectedVersion) :
    (repository.load id expected world.backend).1.map Guard.resetSnapshotCounter =
      (repository.load id expected world.backend.withoutSnapshots).1.map
        Guard.resetSnapshotCounter := by
  obtain ⟨histories, sound⟩ :=
    World.sound_of_moves (fun step sound => step.sound wellBehaved sound) reachable
  rw [sound.store.load_eq wellBehaved, sound.store.withoutSnapshots.load_eq wellBehaved]

/-- A meter is installed and measured twice, and a snapshot is taken of it between the
measurements. -/
theorem FreelyReachable.load_withoutSnapshots_of_meter :
    let repository : Repository MeterPayload Meter Unit Unit :=
      { Meter.repository with trigger := .eventCount 2 }
    ∃ world : World Unit MeterPayload Meter,
      repository.FreelyReachable world ∧
        world.backend.entries.snapshotCount ⟨"Meter", ⟨"m"⟩⟩ = 1 ∧
        (world.backend.entries.lastSnapshot? ⟨"Meter", ⟨"m"⟩⟩).map Entry.sequenceNumber = some 1 ∧
        (world.backend.entries.history ⟨"Meter", ⟨"m"⟩⟩).map Entry.sequenceNumber = [0, 1, 2] ∧
        (repository.load ⟨"m"⟩ (.exact 2) world.backend).1.toOption.map Guard.state =
          some ⟨some ⟨"m"⟩, [12, 12]⟩ ∧
        ∀ expected, (repository.load ⟨"m"⟩ expected world.backend).1.map
            Guard.resetSnapshotCounter =
          (repository.load ⟨"m"⟩ expected world.backend.withoutSnapshots).1.map
            Guard.resetSnapshotCounter := by
  intro repository
  have begun : repository.FreelyReachable (World.start : World Unit MeterPayload Meter) := .refl
  have installed := begun.tail (.dispatch _ ⟨EventId.ofNat 11, default⟩
    (Meter.applying 1 (.installed ⟨"m"⟩ 2)) () fun _ _ _ handled =>
      .apply .start _ _ _ ((Meter.admits_installed _ _).withTrigger _) handled)
  have measured := installed.tail (.dispatch _ ⟨EventId.ofNat 12, default⟩
    (Meter.applying 2 (.measured 5)) () fun _ _ _ handled =>
      .apply .start _ _ _ ((Meter.admits_measured _).withTrigger _) handled)
  -- The snapshot is due with the second event, so the third one is behind it.
  have measuredAgain := measured.tail (.dispatch _ ⟨EventId.ofNat 13, default⟩
    (Meter.applying 3 (.measured 7)) () fun _ _ _ handled =>
      .apply .start _ _ _ ((Meter.admits_measured _).withTrigger _) handled)
  exact ⟨_, measuredAgain, by decide +kernel, by decide +kernel, by decide +kernel,
    by decide +kernel, fun expected => FreelyReachable.load_withoutSnapshots
      (Meter.repository_wellBehaved.withTrigger _) measuredAgain ⟨"m"⟩ expected⟩

/-- A handler applies two events, each of them with success, and commits the queue between
them.  So the first event is not stored, but the state that the snapshot holds has seen it. -/
theorem snapshot_shows_committed :
    Meter.repository.WellBehaved ∧ Meter.repository.Admits (.installed ⟨"m"⟩ 2) ∧
      Meter.repository.Admits (.measured 5) ∧
      (∃ begun live,
        Meter.repository.newAggregate.apply Meter.configuration ⟨EventId.ofNat 1, default⟩
          (.installed ⟨"m"⟩ 2) .empty = (.ok (), begun) ∧
        begun.commit.2.apply Meter.configuration ⟨EventId.ofNat 2, default⟩ (.measured 5) .empty =
          (.ok (), live) ∧
        Meter.committing Meter.repository.newAggregate = (.ok (), live)) ∧
      let outcome := Meter.repository.dispatch ⟨EventId.ofNat 3, default⟩
        { target := ⟨"m"⟩, handler := Meter.committing } .empty ()
      outcome.result.toOption.map (List.map fun event => event.payload) =
          some [.measured 5] ∧
        (Meter.repository.load ⟨"m"⟩ .any outcome.backend).1.toOption.map Guard.state =
          some ⟨some ⟨"m"⟩, [5, 5]⟩ ∧
        (Meter.repository.load ⟨"m"⟩ .any outcome.backend.withoutSnapshots).1.toOption.map
          Guard.state = some ⟨none, []⟩ := by
  refine ⟨Meter.repository_wellBehaved, Meter.admits_installed _ _, Meter.admits_measured _,
    ⟨_, _, rfl, rfl, rfl⟩, ?_⟩
  exact ⟨by decide +kernel, by decide +kernel, by decide +kernel⟩

end Repository

end EventSourcing
