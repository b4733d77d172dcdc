import EventSourcing.Proofs.Repository.Saving
import Mathlib.Logic.Relation

/-!
# Clients of one store

Any number of clients share a store.  Each of them creates or loads aggregates,
applies events, saves, and dispatches commands; loading, storing a queue, storing
a snapshot and removing snapshots are steps of their own, between which other
clients go on (`Repository.Step`).  Whatever the order of the steps, the store
records lives, and every guard in use holds a part of one, a stale guard a part
that has an end by now (`Repository.Reachable.sound`).
-/

namespace EventSourcing

namespace Repository

variable {Payload State Note Bus : Type} [DocumentFamily Payload]
  {repository : Repository Payload State Note Bus}
  {histories : AggregateId → List (DomainEvent Payload)} {id : AggregateId}
  {guard : Guard Payload State} {backend : Backend}

/-! ## Whole calls -/

/-- What a handler makes of an aggregate if it changes its state, queue and version through
applying events alone, each of them with success.  Whatever else it does leaves these three as
they are.  So it does not commit the queue, which is what a save does, and replays no history
of its own. -/
inductive Deciding (repository : Repository Payload State Note Bus)
    (start : Guard Payload State) : Guard Payload State → Prop
  | start : Deciding repository start start
  | apply {live next} (before : Deciding repository start live) (stamp : Stamp)
      (payload : Payload) (metadata : Metadata) (admits : repository.Admits payload)
      (applied : live.apply repository.configuration stamp payload metadata = (.ok (), next)) :
      Deciding repository start next
  | keep {live next : Guard Payload State} (before : Deciding repository start live)
      (sameState : next.state = live.state) (sameVersion : next.version = live.version)
      (sameQueue : next.uncommitted = live.uncommitted) : Deciding repository start next

/-- What a handler does that only applies events, each of them with success, and marks the
aggregate as deleted: it decides, and leaves the count of events since the last snapshot
alone. -/
inductive Handling (repository : Repository Payload State Note Bus)
    (start : Guard Payload State) : Guard Payload State → Prop
  | start : Handling repository start start
  | apply {live next} (before : Handling repository start live) (stamp : Stamp)
      (payload : Payload) (metadata : Metadata) (admits : repository.Admits payload)
      (applied : live.apply repository.configuration stamp payload metadata = (.ok (), next)) :
      Handling repository start next
  | delete {live} (before : Handling repository start live) :
      Handling repository start live.markDeleted

theorem Handling.deciding {live : Guard Payload State}
    (handling : repository.Handling guard live) : repository.Deciding guard live := by
  induction handling with
  | start => exact .start
  | apply before stamp payload metadata admits applied ih =>
    exact ih.apply stamp payload metadata admits applied
  | delete before ih => exact ih.keep rfl rfl rfl

/-- A handler continues the life that a guard carries, or begins one. -/
theorem Deciding.carries (faithful : repository.Faithful) {past : List (DomainEvent Payload)}
    {live : Guard Payload State} (deciding : repository.Deciding guard live)
    (carries : repository.Carries id past guard) :
    ∃ owner, (owner = id ∨ past = []) ∧ repository.Carries owner past live := by
  induction deciding with
  | start => exact ⟨id, .inl rfl, carries⟩
  | apply before stamp payload metadata admits applied ih =>
    obtain ⟨owner, isOwner, carried⟩ := ih
    obtain ⟨next, isNext, continued⟩ := carried.apply faithful admits applied
    refine ⟨next, ?_, continued⟩
    rcases isNext with rfl | fresh
    · exact isOwner
    · exact .inr fresh
  | keep before sameState sameVersion sameQueue ih =>
    obtain ⟨owner, isOwner, carried⟩ := ih
    exact ⟨owner, isOwner, carried.of_same sameState sameVersion sameQueue⟩

theorem Deciding.holds (wellBehaved : repository.WellBehaved) {live : Guard Payload State}
    (deciding : repository.Deciding guard live) (holds : repository.Holds histories guard) :
    repository.Holds histories live := by
  obtain ⟨id, past, front, carries⟩ := holds
  obtain ⟨owner, isOwner, carried⟩ := deciding.carries wellBehaved.faithful carries
  refine ⟨owner, past, ?_, carried⟩
  rcases isOwner with rfl | rfl
  · exact front
  · exact List.nil_prefix

/-- A snapshot that is due and can be written is stored, and the surplus is removed. -/
theorem snapshotIfDue_of_due (reliable : backend.Reliable) {stamp : Stamp}
    {snapshot : DomainEvent Payload} {entry : Entry}
    (isDue : repository.trigger.isDue guard.eventsSinceSnapshot = true)
    (taken : guard.snapshot? repository.configuration stamp = some snapshot)
    (encoded : repository.store.codec.encode repository.typeIdentifier snapshot = .ok entry) :
    repository.snapshotIfDue stamp guard backend =
      (guard.resetSnapshotCounter, { backend with
        entries := ((backend.entries.persistSnapshot entry).pruneSnapshots
          ⟨repository.typeIdentifier, snapshot.aggregateId⟩
          repository.store.config.maxSnapshots).2 }) := by
  have stillReliable : Backend.Reliable
      { backend with entries := backend.entries.persistSnapshot entry } := reliable
  simp only [snapshotIfDue, isDue, ↓reduceIte, taken, EventStore.appendSnapshot, encoded,
    reliable.persistSnapshot, stillReliable.pruneSnapshots]

/-- Taking a snapshot does nothing, or stores one and removes the surplus. -/
theorem snapshotIfDue_cases (reliable : backend.Reliable) (guard : Guard Payload State)
    (stamp : Stamp) :
    repository.snapshotIfDue stamp guard backend = (guard, backend) ∨
      ∃ snapshot entry key, guard.snapshot? repository.configuration stamp = some snapshot ∧
        repository.store.codec.encode repository.typeIdentifier snapshot = .ok entry ∧
        repository.snapshotIfDue stamp guard backend =
          (guard.resetSnapshotCounter, { backend with
            entries := ((backend.entries.persistSnapshot entry).pruneSnapshots key
              repository.store.config.maxSnapshots).2 }) := by
  by_cases isDue : repository.trigger.isDue guard.eventsSinceSnapshot = true
  · cases taken : guard.snapshot? repository.configuration stamp with
    | none => exact .inl (by simp only [snapshotIfDue, isDue, ↓reduceIte, taken])
    | some snapshot =>
      cases encoded : repository.store.codec.encode repository.typeIdentifier snapshot with
      | error error =>
        refine .inl ?_
        simp only [snapshotIfDue, isDue, ↓reduceIte, taken, EventStore.appendSnapshot, encoded]
      | ok entry =>
        exact .inr ⟨snapshot, entry, _, rfl, encoded,
          snapshotIfDue_of_due reliable isDue taken encoded⟩
  · exact .inl (by rw [snapshotIfDue, if_neg isDue])

theorem identifier_of_checkTarget {target : AggregateId}
    (checked : repository.checkTarget target guard = .ok true) :
    guard.identifier repository.configuration = some target := by
  unfold checkTarget at checked
  split at checked
  next id owned =>
    split at checked
    next same => rw [owned, same]
    next => simp at checked
  next => split at checked <;> simp at checked

/-- A command saves what its handler has made of an aggregate, or it leaves everything as
obtaining the aggregate does, and tells of no event. -/
theorem dispatch_cases (repository : Repository Payload State Note Bus) (stamp : Stamp)
    (command : Command Payload State) (backend : Backend) (bus : Bus) :
    ((repository.dispatch stamp command backend bus).backend =
        (repository.obtain command.target command.expected backend).2.2 ∧
      ∀ events, (repository.dispatch stamp command backend bus).result = .ok events →
        events = []) ∨
    ∃ guard notes after live,
      repository.obtain command.target command.expected backend = (.ok guard, notes, after) ∧
      command.handler guard = (.ok (), live) ∧
      live.identifier repository.configuration = some command.target ∧
      (repository.dispatch stamp command backend bus).backend =
        (repository.save stamp live after bus).2.2.1 ∧
      (repository.dispatch stamp command backend bus).result =
        (repository.save stamp live after bus).1.mapError .ofRepository := by
  unfold Repository.dispatch
  rcases obtained : repository.obtain command.target command.expected backend with
    ⟨error | guard, notes, after⟩
  · exact .inl ⟨rfl, by simp⟩
  rcases handled : command.handler guard with ⟨error | _, live⟩
  · exact .inl (by simp [handled])
  rcases checked : repository.checkTarget command.target live with error | _ | _
  · exact .inl (by simp [handled, checked])
  · exact .inl (by simp [handled, checked])
  · refine .inr ⟨guard, notes, after, live, rfl, handled, identifier_of_checkTarget checked, ?_⟩
    rcases saved : repository.save stamp live after bus with
      ⟨error | events, final, left, busAfter⟩ <;>
      simp [handled, checked, saved, Except.mapError]

theorem save_of_refused {error : RepositoryError} {rest : Guard Payload State} {after : Backend}
    (queued : guard.uncommitted ≠ [])
    (owned : guard.identifier repository.configuration = some id)
    (refused : repository.write id guard backend = (.error error, rest, after)) (stamp : Stamp)
    (bus : Bus) : repository.save stamp guard backend bus = (.error error, rest, after, bus) := by
  have nonempty : guard.uncommitted.isEmpty = false := by simpa using queued
  simp only [save, nonempty, Bool.false_eq_true, ↓reduceIte, owned, refused]

/-- A save whose queue is stored goes on with a snapshot, whatever becomes of the
publication. -/
theorem save_of_stored {events : List (DomainEvent Payload)} {saved : Guard Payload State}
    {after : Backend} (queued : guard.uncommitted ≠ [])
    (owned : guard.identifier repository.configuration = some id)
    (stored : repository.write id guard backend = (.ok events, saved, after)) (stamp : Stamp)
    (bus : Bus) :
    ∃ result busAfter, repository.save stamp guard backend bus =
        (result, (repository.snapshotIfDue stamp saved after).1,
          (repository.snapshotIfDue stamp saved after).2, busAfter) ∧
      (result = .ok events ∨ ∃ error, result = .error (.publish error)) := by
  have nonempty : guard.uncommitted.isEmpty = false := by simpa using queued
  simp only [save, nonempty, Bool.false_eq_true, ↓reduceIte, owned, stored, publish]
  cases repository.publisher with
  | none => exact ⟨_, bus, rfl, .inl rfl⟩
  | some publisher =>
    rcases published : publisher.publish (events.map .domain) bus with ⟨error | _, busAfter⟩
    · simp only [published]
      exact ⟨_, busAfter, rfl, .inr ⟨error, rfl⟩⟩
    · simp only [published]
      exact ⟨_, busAfter, rfl, .inl rfl⟩

theorem history_snapshotIfDue (reliable : backend.Reliable) (stamp : Stamp)
    (guard : Guard Payload State) (key : StreamKey) :
    (repository.snapshotIfDue stamp guard backend).2.entries.history key =
      backend.entries.history key := by
  rcases repository.snapshotIfDue_cases reliable guard stamp with
    nothing | ⟨snapshot, entry, pruned, -, -, stored⟩
  · rw [nothing]
  · rw [stored, EntryStore.history_pruneSnapshots]
    rfl

theorem history_save_of_stored {events : List (DomainEvent Payload)}
    {saved : Guard Payload State} {after : Backend} (queued : guard.uncommitted ≠ [])
    (owned : guard.identifier repository.configuration = some id)
    (stored : repository.write id guard backend = (.ok events, saved, after))
    (reliable : after.Reliable) (stamp : Stamp) (bus : Bus) (key : StreamKey) :
    (repository.save stamp guard backend bus).2.2.1.entries.history key =
      after.entries.history key := by
  obtain ⟨result, busAfter, saves, -⟩ := save_of_stored queued owned stored stamp bus
  rw [saves, history_snapshotIfDue reliable]

theorem Sound.pruneSnapshots (sound : repository.Sound backend histories) (key : StreamKey)
    (keep : Nat) : repository.Sound (backend.pruneSnapshots key keep).2 histories := by
  rw [sound.reliable.pruneSnapshots]
  exact ⟨sound.reliable, sound.records.pruneSnapshots key keep⟩

theorem Sound.persistSnapshot (wellBehaved : repository.WellBehaved)
    (sound : repository.Sound backend histories) (holds : repository.Holds histories guard)
    (nothingQueued : guard.uncommitted = []) {stamp : Stamp} {snapshot : DomainEvent Payload}
    {entry : Entry}
    (taken : guard.snapshot? repository.configuration stamp = some snapshot)
    (encoded : repository.store.codec.encode repository.typeIdentifier snapshot = .ok entry) :
    repository.Sound (backend.persistSnapshot entry).2 histories := by
  obtain ⟨id, past, front, carries⟩ := holds
  rw [sound.reliable.persistSnapshot]
  exact ⟨sound.reliable, sound.records.persistSnapshot wellBehaved carries front nothingQueued
    taken encoded⟩

/-- Taking a snapshot, if one is due, changes neither lives nor guards. -/
theorem Sound.snapshotIfDue (wellBehaved : repository.WellBehaved)
    (sound : repository.Sound backend histories) (holds : repository.Holds histories guard)
    (nothingQueued : guard.uncommitted = []) (stamp : Stamp) :
    repository.Sound (repository.snapshotIfDue stamp guard backend).2 histories ∧
      repository.Holds histories (repository.snapshotIfDue stamp guard backend).1 := by
  rcases repository.snapshotIfDue_cases sound.reliable guard stamp with
    nothing | ⟨snapshot, entry, key, taken, encoded, stored⟩
  · rw [nothing]
    exact ⟨sound, holds⟩
  · obtain ⟨id, past, front, carries⟩ := holds
    have persisted := sound.records.persistSnapshot wellBehaved carries front nothingQueued taken
      encoded
    rw [stored]
    exact ⟨⟨sound.reliable, persisted.pruneSnapshots key _⟩, id, past, front,
      carries.of_same rfl rfl rfl⟩

/-- Saving makes at most one life longer. -/
theorem Sound.save (wellBehaved : repository.WellBehaved)
    (sound : repository.Sound backend histories) (holds : repository.Holds histories guard)
    (stamp : Stamp) (bus : Bus) :
    ∃ later, GoOn histories later ∧
      repository.Sound (repository.save stamp guard backend bus).2.2.1 later ∧
      repository.Holds later (repository.save stamp guard backend bus).2.1 := by
  by_cases queued : guard.uncommitted = []
  · have nothing : repository.save stamp guard backend bus = (.ok [], guard, backend, bus) := by
      simp [Repository.save, queued]
    rw [nothing]
    exact ⟨histories, goOn_refl histories, sound, holds⟩
  · cases owned : guard.identifier repository.configuration with
    | none =>
      have unowned : repository.save stamp guard backend bus =
          (.error .missingIdentifier, guard, backend, bus) := by
        simp [Repository.save, queued, owned]
      rw [unowned]
      exact ⟨histories, goOn_refl histories, sound, holds⟩
    | some id =>
      obtain ⟨later, goOn, soundLater, holdsLater, emptied⟩ :=
        sound.write wellBehaved holds owned queued
      rcases written : repository.write id guard backend with ⟨error | events, saved, after⟩
      · rw [written] at soundLater holdsLater
        rw [save_of_refused queued owned written]
        exact ⟨later, goOn, soundLater, holdsLater⟩
      · rw [written] at soundLater holdsLater emptied
        obtain ⟨result, busAfter, saves, -⟩ := save_of_stored queued owned written stamp bus
        rw [saves]
        exact ⟨later, goOn,
          soundLater.snapshotIfDue wellBehaved holdsLater (emptied events rfl) stamp⟩

theorem Sound.obtain (wellBehaved : repository.WellBehaved)
    (sound : repository.Sound backend histories) (id : AggregateId) (expected : ExpectedVersion) :
    repository.Sound (repository.obtain id expected backend).2.2 histories ∧
      ∀ guard, (repository.obtain id expected backend).1 = .ok guard →
        repository.Holds histories guard := by
  obtain ⟨soundAfter, holds⟩ := sound.load wellBehaved id expected
  unfold Repository.obtain
  split
  next missing notes after loaded =>
    rw [loaded] at soundAfter
    split
    · refine ⟨soundAfter, fun guard isNew => ?_⟩
      obtain rfl := Except.ok.inj isNew
      exact holds_newAggregate
    · exact ⟨soundAfter, nofun⟩
  next => exact ⟨soundAfter, holds⟩

theorem Sound.dispatch (wellBehaved : repository.WellBehaved)
    (sound : repository.Sound backend histories) (stamp : Stamp)
    (command : Command Payload State) (bus : Bus)
    (handles : ∀ guard live,
      (repository.obtain command.target command.expected backend).1 = .ok guard →
        command.handler guard = (.ok (), live) → repository.Deciding guard live) :
    ∃ later, GoOn histories later ∧
      repository.Sound (repository.dispatch stamp command backend bus).backend later := by
  obtain ⟨soundAfter, holds⟩ := sound.obtain wellBehaved command.target command.expected
  rcases repository.dispatch_cases stamp command backend bus with
    ⟨left, -⟩ | ⟨guard, notes, after, live, obtained, handled, -, left, -⟩
  · rw [left]
    exact ⟨histories, goOn_refl histories, soundAfter⟩
  · rw [obtained] at soundAfter holds handles
    have holdsLive := (handles guard live rfl handled).holds wellBehaved (holds guard rfl)
    obtain ⟨later, goOn, saved, -⟩ := soundAfter.save wellBehaved holdsLive stamp bus
    rw [left]
    exact ⟨later, goOn, saved⟩

/-! ## Steps of clients -/

/-- What a client is at: it has no aggregate, it works on one, it has stored the
queue of one, or it has stored a snapshot of one and is to remove the surplus. -/
inductive Client (Payload State : Type) where
  | idle
  | working (guard : Guard Payload State)
  | stored (guard : Guard Payload State)
  | pruning (key : StreamKey) (guard : Guard Payload State)

def Client.ofLoad : Except RepositoryError (Guard Payload State) → Client Payload State
  | .ok guard => .working guard
  | .error _ => .idle

def Client.ofWrite (guard : Guard Payload State) :
    Except RepositoryError (List (DomainEvent Payload)) → Client Payload State
  | .ok _ => .stored guard
  | .error _ => .working guard

/-- Clients with the store that they share. -/
structure World (Name Payload State : Type) where
  backend : Backend
  clients : Name → Client Payload State

def World.start {Name : Type} : World Name Payload State := ⟨.empty, fun _ => .idle⟩

variable {Name : Type} [DecidableEq Name]

/-- One step of one client.  Saves and dispatches may also run undisturbed, and a handler
only applies events, each of them with success, and marks the aggregate as deleted. -/
inductive Step (repository : Repository Payload State Note Bus) :
    World Name Payload State → World Name Payload State → Prop
  | create (world : World Name Payload State) (name : Name) :
      Step repository world
        { world with clients :=
            Function.update world.clients name (.working repository.newAggregate) }
  | load (world : World Name Payload State) (name : Name) (id : AggregateId)
      (expected : ExpectedVersion) :
      Step repository world
        { backend := (repository.load id expected world.backend).2.2
          clients := Function.update world.clients name
            (.ofLoad (repository.load id expected world.backend).1) }
  | apply {world : World Name Payload State} (name : Name) {guard next : Guard Payload State}
      (works : world.clients name = .working guard) (stamp : Stamp) (payload : Payload)
      (metadata : Metadata) (admits : repository.Admits payload)
      (applied : guard.apply repository.configuration stamp payload metadata = (.ok (), next)) :
      Step repository world
        { world with clients := Function.update world.clients name (.working next) }
  | delete {world : World Name Payload State} (name : Name) {guard : Guard Payload State}
      (works : world.clients name = .working guard) :
      Step repository world
        { world with clients := Function.update world.clients name (.working guard.markDeleted) }
  | write {world : World Name Payload State} (name : Name) {guard : Guard Payload State}
      {id : AggregateId} (works : world.clients name = .working guard)
      (queued : guard.uncommitted ≠ [])
      (owned : guard.identifier repository.configuration = some id) :
      Step repository world
        { backend := (repository.write id guard world.backend).2.2
          clients := Function.update world.clients name
            (.ofWrite (repository.write id guard world.backend).2.1
              (repository.write id guard world.backend).1) }
  | passSnapshot {world : World Name Payload State} (name : Name) {guard : Guard Payload State}
      (stores : world.clients name = .stored guard) :
      Step repository world
        { world with clients := Function.update world.clients name (.working guard) }
  | storeSnapshot {world : World Name Payload State} (name : Name)
      {guard : Guard Payload State} {snapshot : DomainEvent Payload} {entry : Entry}
      (stores : world.clients name = .stored guard)
      (isDue : repository.trigger.isDue guard.eventsSinceSnapshot = true) (stamp : Stamp)
      (taken : guard.snapshot? repository.configuration stamp = some snapshot)
      (encoded : repository.store.codec.encode repository.typeIdentifier snapshot = .ok entry) :
      Step repository world
        { backend := (world.backend.persistSnapshot entry).2
          clients := Function.update world.clients name (.pruning entry.streamKey guard) }
  | pruneSnapshots {world : World Name Payload State} (name : Name) {key : StreamKey}
      {guard : Guard Payload State} (prunes : world.clients name = .pruning key guard) :
      Step repository world
        { backend := (world.backend.pruneSnapshots key repository.store.config.maxSnapshots).2
          clients := Function.update world.clients name
            (.working guard.resetSnapshotCounter) }
  | save {world : World Name Payload State} (name : Name) {guard : Guard Payload State}
      (works : world.clients name = .working guard) (stamp : Stamp) (bus : Bus) :
      Step repository world
        { backend := (repository.save stamp guard world.backend bus).2.2.1
          clients := Function.update world.clients name
            (.working (repository.save stamp guard world.backend bus).2.1) }
  | dispatch (world : World Name Payload State) (stamp : Stamp)
      (command : Command Payload State) (bus : Bus)
      (handles : ∀ guard live,
        (repository.obtain command.target command.expected world.backend).1 = .ok guard →
          command.handler guard = (.ok (), live) → repository.Handling guard live) :
      Step repository world
        { world with
          backend := (repository.dispatch stamp command world.backend bus).backend }

/-- What clients can bring about, one step after another. -/
def Reachable (repository : Repository Payload State Note Bus) :
    World Name Payload State → Prop :=
  Relation.ReflTransGen repository.Step World.start

/-! ## What every step keeps -/

/-- The guard that a client has holds a part of a life, and is without a queue once
this is stored. -/
def Client.Holds (repository : Repository Payload State Note Bus)
    (histories : AggregateId → List (DomainEvent Payload)) : Client Payload State → Prop
  | .idle => True
  | .working guard => repository.Holds histories guard
  | .stored guard => repository.Holds histories guard ∧ guard.uncommitted = []
  | .pruning _ guard => repository.Holds histories guard

theorem Client.Holds.goOn {later : AggregateId → List (DomainEvent Payload)}
    {client : Client Payload State} (holds : client.Holds repository histories)
    (goOn : GoOn histories later) : client.Holds repository later := by
  cases client with
  | idle => trivial
  | working guard => exact Repository.Holds.goOn holds goOn
  | stored guard => exact ⟨Repository.Holds.goOn holds.1 goOn, holds.2⟩
  | pruning key guard => exact Repository.Holds.goOn holds goOn

/-- The store records lives, and the guards in use hold parts of them. -/
structure World.Sound (repository : Repository Payload State Note Bus)
    (world : World Name Payload State)
    (histories : AggregateId → List (DomainEvent Payload)) : Prop where
  store : repository.Sound world.backend histories
  holds (name : Name) : (world.clients name).Holds repository histories

omit [DecidableEq Name] in
theorem World.sound_start :
    (World.start : World Name Payload State).Sound repository fun _ => [] where
  store := ⟨Backend.reliable_empty, records_empty⟩
  holds _ := trivial

theorem World.Sound.update {world : World Name Payload State}
    (sound : world.Sound repository histories)
    {later : AggregateId → List (DomainEvent Payload)} (goOn : GoOn histories later)
    {after : Backend} (store : repository.Sound after later) (name : Name)
    {client : Client Payload State} (holds : client.Holds repository later) :
    World.Sound repository ⟨after, Function.update world.clients name client⟩ later where
  store := store
  holds other := by
    by_cases own : other = name
    · subst own
      simpa only [Function.update_self] using holds
    · simpa only [Function.update_of_ne own] using (sound.holds other).goOn goOn

/-- Every step keeps the world sound, and no life becomes shorter. -/
theorem Step.sound (wellBehaved : repository.WellBehaved) {world next : World Name Payload State}
    (step : repository.Step world next) (sound : world.Sound repository histories) :
    ∃ later, GoOn histories later ∧ next.Sound repository later := by
  have unchanged := goOn_refl histories
  cases step with
  | create name =>
    exact ⟨histories, unchanged, sound.update unchanged sound.store name holds_newAggregate⟩
  | load name id expected =>
    obtain ⟨soundAfter, found⟩ := sound.store.load wellBehaved id expected
    refine ⟨histories, unchanged, sound.update unchanged soundAfter name ?_⟩
    cases loaded : (repository.load id expected world.backend).1 with
    | error error => trivial
    | ok guard => exact found guard loaded
  | @apply name guard live works stamp payload metadata admits applied =>
    have holds := sound.holds name
    rw [works] at holds
    exact ⟨histories, unchanged, sound.update unchanged sound.store name
      (Repository.Holds.apply wellBehaved holds admits applied)⟩
  | @delete name guard works =>
    have holds := sound.holds name
    rw [works] at holds
    exact ⟨histories, unchanged, sound.update unchanged sound.store name
      (Repository.Holds.of_same holds rfl rfl rfl)⟩
  | @write name guard id works queued owned =>
    have holds := sound.holds name
    rw [works] at holds
    obtain ⟨later, goOn, soundAfter, holdsAfter, emptied⟩ :=
      sound.store.write wellBehaved holds owned queued
    refine ⟨later, goOn, sound.update goOn soundAfter name ?_⟩
    cases written : (repository.write id guard world.backend).1 with
    | error error => exact holdsAfter
    | ok events => exact ⟨holdsAfter, emptied events written⟩
  | @passSnapshot name guard stores =>
    have holds := sound.holds name
    rw [stores] at holds
    exact ⟨histories, unchanged, sound.update unchanged sound.store name holds.1⟩
  | @storeSnapshot name guard snapshot entry stores isDue stamp taken encoded =>
    have holds := sound.holds name
    rw [stores] at holds
    have soundAfter := sound.store.persistSnapshot wellBehaved holds.1 holds.2 taken encoded
    exact ⟨histories, unchanged, sound.update unchanged soundAfter name holds.1⟩
  | @pruneSnapshots name key guard prunes =>
    have holds := sound.holds name
    rw [prunes] at holds
    have soundAfter := sound.store.pruneSnapshots key repository.store.config.maxSnapshots
    exact ⟨histories, unchanged, sound.update unchanged soundAfter name
      (Repository.Holds.of_same holds rfl rfl rfl)⟩
  | @save name guard works stamp bus =>
    have holds := sound.holds name
    rw [works] at holds
    obtain ⟨later, goOn, soundAfter, holdsAfter⟩ :=
      sound.store.save wellBehaved holds stamp bus
    exact ⟨later, goOn, sound.update goOn soundAfter name holdsAfter⟩
  | dispatch stamp command bus handles =>
    obtain ⟨later, goOn, soundAfter⟩ :=
      sound.store.dispatch wellBehaved stamp command bus fun guard live obtained handled =>
        (handles guard live obtained handled).deciding
    exact ⟨later, goOn, soundAfter, fun name => (sound.holds name).goOn goOn⟩

omit [DecidableEq Name] in
/-- If every move keeps the world sound, the store records lives wherever moves lead. -/
theorem World.sound_of_moves {Moves : World Name Payload State → World Name Payload State → Prop}
    (keepsSound : ∀ {world next histories}, Moves world next →
      World.Sound repository world histories →
        ∃ later, GoOn histories later ∧ World.Sound repository next later)
    {world : World Name Payload State}
    (reached : Relation.ReflTransGen Moves World.start world) :
    ∃ histories, world.Sound repository histories := by
  induction reached with
  | refl => exact ⟨_, World.sound_start⟩
  | tail _ moves ih =>
    obtain ⟨histories, sound⟩ := ih
    obtain ⟨later, -, soundAfter⟩ := keepsSound moves sound
    exact ⟨later, soundAfter⟩

/-- Whatever clients have done, the store records lives. -/
theorem Reachable.sound (wellBehaved : repository.WellBehaved)
    {world : World Name Payload State} (reachable : repository.Reachable world) :
    ∃ histories, world.Sound repository histories :=
  World.sound_of_moves (fun step sound => step.sound wellBehaved sound) reachable

end Repository

end EventSourcing
