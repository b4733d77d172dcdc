import EventSourcing.Proofs.Aggregate.Numbering
import EventSourcing.Proofs.Repository.MeterRepository

/-!
# Whose events a command writes

A dispatcher looks at the identifier of an aggregate once, when the handler of a command
has come to its end.  If no event that the handler applies changes an identifier, this is
the identifier of every event that is stored, of whatever decorators are given, and of
what is told to the caller (`Repository.dispatch_writes_target`).  An aggregate that takes
another identifier and then its own again gets past the check with events of somebody
else (`Repository.dispatch_writes_elsewhere`).
-/

namespace EventSourcing

namespace Guard

variable {Payload State : Type} [PayloadFamily Payload]

/-- What a handler may do to an aggregate: it applies events, with success or not, none of
which changes an assigned identifier, and may mark the aggregate as deleted. -/
inductive Steady (configuration : AggregateConfiguration Payload State)
    (start : Guard Payload State) : Guard Payload State → Prop
  | start : Steady configuration start start
  | apply {live next result} (before : Steady configuration start live) (stamp : Stamp)
      (payload : Payload) (metadata : Metadata)
      (applied : live.apply configuration stamp payload metadata = (result, next))
      (keeps : ∀ id, live.identifier configuration = some id →
        next.identifier configuration = some id) :
      Steady configuration start next
  | delete {live} (before : Steady configuration start live) :
      Steady configuration start live.markDeleted

/-- The queued events belong to the aggregate. -/
def OwnsQueue (configuration : AggregateConfiguration Payload State)
    (guard : Guard Payload State) : Prop :=
  ∀ event ∈ guard.uncommitted, guard.identifier configuration = some event.aggregateId

variable {configuration : AggregateConfiguration Payload State}
  {guard live next : Guard Payload State}

theorem ownsQueue_of_nothingQueued (nothingQueued : guard.uncommitted = []) :
    guard.OwnsQueue configuration := by
  intro event queued
  rw [nothingQueued] at queued
  exact absurd queued List.not_mem_nil

theorem OwnsQueue.apply (owns : live.OwnsQueue configuration) {stamp : Stamp} {payload : Payload}
    {metadata : Metadata} {result : Except DomainError Unit}
    (applied : live.apply configuration stamp payload metadata = (result, next))
    (keeps : ∀ id, live.identifier configuration = some id →
      next.identifier configuration = some id) : next.OwnsQueue configuration := by
  cases result with
  | error error =>
    obtain ⟨unassigned, isNext⟩ := apply_refused applied
    intro event queued
    rw [isNext] at queued
    exact absurd (unassigned.symm.trans (owns event queued)) nofun
  | ok =>
    obtain ⟨id, handled, isNext, origin⟩ := apply_cases applied
    have identified : next.identifier configuration = some id := by
      rcases origin with ⟨-, assigned⟩ | ⟨-, -, -, -, created⟩
      · exact keeps id assigned
      · exact created
    have queue : next.uncommitted = live.uncommitted ++
        [DomainEvent.ofStamp stamp id live.nextSequenceNumber payload metadata] := by
      rw [isNext]
    intro event queued
    rw [queue, List.mem_append] at queued
    rcases queued with earlier | isLast
    · exact keeps _ (owns event earlier)
    · rw [List.mem_singleton.mp isLast]
      exact identified

theorem Steady.ownsQueue (steady : Steady configuration guard live)
    (owns : guard.OwnsQueue configuration) : live.OwnsQueue configuration := by
  induction steady with
  | start => exact owns
  | apply before stamp payload metadata applied keeps ih => exact ih.apply applied keeps
  | delete before ih => exact ih

end Guard

namespace Decorator

variable {Payload Note : Type} {decorators : List (Decorator Payload Note)} {key : StreamKey}
  {events : List (DomainEvent Payload)}

/-- Events of one aggregate remain events of this aggregate. -/
def KeepsOwner (decorator : Decorator Payload Note) : Prop :=
  ∀ key events, (∀ event ∈ events, event.aggregateId = key.aggregateId) →
    ∀ event ∈ decorator.onAppend key events, event.aggregateId = key.aggregateId

theorem appendAll_keepsOwner (keep : ∀ decorator ∈ decorators, decorator.KeepsOwner)
    (own : ∀ event ∈ events, event.aggregateId = key.aggregateId) :
    ∀ event ∈ appendAll decorators key events, event.aggregateId = key.aggregateId := by
  induction decorators with
  | nil => exact own
  | cons decorator rest ih =>
    have restKeep : ∀ other ∈ rest, other.KeepsOwner := fun other isRest =>
      keep other (List.mem_cons_of_mem _ isRest)
    exact keep decorator List.mem_cons_self key _ (ih restKeep)

theorem keepsOwner_addMetadata (metadata : Metadata) :
    (addMetadata metadata : Decorator Payload Note).KeepsOwner := by
  intro key events own event isEvent
  obtain ⟨original, isOriginal, rfl⟩ := List.mem_map.mp isEvent
  exact own original isOriginal

end Decorator

/-! ## What is appended to the log -/

namespace EventStore

variable {Payload : Type} [DocumentFamily Payload]

/-- Events are stored as the entries that they are encoded as, or nothing is stored. -/
theorem append_persists (store : EventStore Payload) (aggregateType : String)
    (events : List (DomainEvent Payload)) (backend : Backend) :
    (∃ error after, store.append aggregateType events backend = (.error error, after) ∧
      after.entries = backend.entries) ∨
    ∃ batch after, store.append aggregateType events backend = (.ok (), after) ∧
      List.Forall₂ (fun event entry => store.codec.encode aggregateType event = .ok entry)
        events batch ∧
      backend.entries.persist batch = .ok after.entries := by
  cases events with
  | nil => exact .inr ⟨[], backend, rfl, .nil, rfl⟩
  | cons first rest =>
    cases encoded : (first :: rest).mapM (store.codec.encode aggregateType) with
    | error error =>
      refine .inl ⟨.document error, backend, ?_, rfl⟩
      simp only [append, List.isEmpty_cons, Bool.false_eq_true, ↓reduceIte, encoded]
    | ok batch =>
      rcases backend.persist_cases batch with
        ⟨error, after, refused, unchanged⟩ | ⟨after, stored, persisted⟩
      · refine .inl ⟨.ofStorage error, after, ?_, unchanged⟩
        simp only [append, List.isEmpty_cons, Bool.false_eq_true, ↓reduceIte, encoded, refused]
      · refine .inr ⟨batch, after, ?_, forall₂_of_mapM_eq_ok encoded, persisted⟩
        simp only [append, List.isEmpty_cons, Bool.false_eq_true, ↓reduceIte, encoded, stored]

/-- Events are pushed as the entries that they are encoded as, or nothing is stored. -/
theorem append_pushes (store : EventStore Payload) (aggregateType : String)
    (events : List (DomainEvent Payload)) (backend : Backend) :
    (∃ error after, store.append aggregateType events backend = (.error error, after) ∧
      after.entries = backend.entries) ∨
    ∃ batch after, store.append aggregateType events backend = (.ok (), after) ∧
      List.Forall₂ (fun event entry => store.codec.encode aggregateType event = .ok entry)
        events batch ∧
      after.entries = backend.entries.pushAll batch := by
  refine (store.append_persists aggregateType events backend).imp_right ?_
  rintro ⟨batch, after, appended, written, persisted⟩
  exact ⟨batch, after, appended, written, (EntryStore.persist_eq_ok_iff.mp persisted).2⟩

/-- The entries of stored events stand at the end of the log. -/
theorem append_cases (store : EventStore Payload) (aggregateType : String)
    (events : List (DomainEvent Payload)) (backend : Backend) :
    (∃ error after, store.append aggregateType events backend = (.error error, after) ∧
      after.entries = backend.entries) ∨
    ∃ batch after, store.append aggregateType events backend = (.ok (), after) ∧
      List.Forall₂ (fun event entry => store.codec.encode aggregateType event = .ok entry)
        events batch ∧
      after.entries.log.toList = backend.entries.log.toList ++ batch := by
  refine (store.append_pushes aggregateType events backend).imp_right ?_
  rintro ⟨batch, after, appended, written, pushed⟩
  refine ⟨batch, after, appended, written, ?_⟩
  rw [pushed, EntryStore.toList_log_pushAll]

/-- Of all that is stored, a snapshot changes only the snapshots. -/
theorem entries_appendSnapshot (store : EventStore Payload) (aggregateType : String)
    (snapshot : DomainEvent Payload) (backend : Backend) :
    ∃ snapshots, (store.appendSnapshot aggregateType snapshot backend).2.entries =
      { backend.entries with snapshots } := by
  cases encoded : store.codec.encode aggregateType snapshot with
  | error error =>
    simp only [appendSnapshot, encoded]
    exact ⟨_, rfl⟩
  | ok entry =>
    obtain ⟨snapshots, persisted⟩ := backend.entries_persistSnapshot entry
    rcases stored : backend.persistSnapshot entry with ⟨error | _, after⟩
    · rw [stored] at persisted
      simp only [appendSnapshot, encoded, stored]
      exact ⟨snapshots, persisted⟩
    · rw [stored] at persisted
      obtain ⟨fewer, pruned⟩ :=
        after.entries_pruneSnapshots ⟨aggregateType, snapshot.aggregateId⟩ store.config.maxSnapshots
      simp only [appendSnapshot, encoded, stored]
      exact ⟨fewer, by rw [pruned, persisted]⟩

end EventStore

namespace Repository

variable {Payload State Note Bus : Type} [DocumentFamily Payload]
  {repository : Repository Payload State Note Bus} {id : AggregateId} {backend : Backend}
  {guard : Guard Payload State}

theorem entries_snapshotIfDue (repository : Repository Payload State Note Bus) (stamp : Stamp)
    (guard : Guard Payload State) (backend : Backend) :
    ∃ snapshots, (repository.snapshotIfDue stamp guard backend).2.entries =
      { backend.entries with snapshots } := by
  unfold snapshotIfDue
  split
  · cases guard.snapshot? repository.configuration stamp with
    | none => exact ⟨_, rfl⟩
    | some snapshot =>
      obtain ⟨snapshots, appended⟩ := repository.store.entries_appendSnapshot
        repository.typeIdentifier snapshot backend
      rcases stored : repository.store.appendSnapshot repository.typeIdentifier snapshot backend
        with ⟨error | _, after⟩
      · rw [stored] at appended
        simp only [stored]
        exact ⟨snapshots, appended⟩
      · rw [stored] at appended
        simp only [stored]
        exact ⟨snapshots, appended⟩
  · exact ⟨_, rfl⟩

@[simp] theorem log_snapshotIfDue (repository : Repository Payload State Note Bus) (stamp : Stamp)
    (guard : Guard Payload State) (backend : Backend) :
    (repository.snapshotIfDue stamp guard backend).2.entries.log = backend.entries.log := by
  obtain ⟨snapshots, left⟩ := repository.entries_snapshotIfDue stamp guard backend
  rw [left]

/-! ## Whose events are saved -/

/-- Whose events a call has stored and told: those of one aggregate. -/
structure Writes (repository : Repository Payload State Note Bus) (id : AggregateId)
    (before after : Backend) {Failure : Type}
    (result : Except Failure (List (DomainEvent Payload))) : Prop where
  told : ∀ events, result = .ok events → ∀ event ∈ events, event.aggregateId = id
  stored : ∃ batch, after.entries.log.toList = before.entries.log.toList ++ batch ∧
    ∀ entry ∈ batch, entry.streamKey = repository.streamKey id

theorem writes_nothing {after : Backend} {Failure : Type}
    {result : Except Failure (List (DomainEvent Payload))}
    (unchanged : after.entries = backend.entries)
    (tellsNothing : ∀ events, result = .ok events → events = []) :
    repository.Writes id backend after result where
  told events isResult event told := by
    rw [tellsNothing events isResult] at told
    exact absurd told List.not_mem_nil
  stored := ⟨[], by rw [unchanged, List.append_nil], nofun⟩

theorem Writes.of_entries {middle after : Backend} {Failure : Type}
    {result : Except Failure (List (DomainEvent Payload))}
    (writes : repository.Writes id middle after result)
    (same : middle.entries = backend.entries) : repository.Writes id backend after result where
  told := writes.told
  stored := by
    rw [← same]
    exact writes.stored

/-- The events of a queue that belongs to an aggregate. -/
theorem aggregateId_of_queued (owns : guard.OwnsQueue repository.configuration)
    (owned : guard.identifier repository.configuration = some id) :
    ∀ event ∈ guard.uncommitted, event.aggregateId = (repository.streamKey id).aggregateId :=
  fun event queued => Option.some.inj ((owns event queued).symm.trans owned)

theorem save_writes (keep : ∀ decorator ∈ repository.decorators, decorator.KeepsOwner)
    (owns : guard.OwnsQueue repository.configuration)
    (owned : guard.identifier repository.configuration = some id) (stamp : Stamp) (bus : Bus) :
    repository.Writes id backend (repository.save stamp guard backend bus).2.2.1
      (repository.save stamp guard backend bus).1 := by
  by_cases queued : guard.uncommitted = []
  · have nothing : repository.save stamp guard backend bus = (.ok [], guard, backend, bus) := by
      simp [save, queued]
    rw [nothing]
    exact writes_nothing rfl fun events isResult => (Except.ok.inj isResult).symm
  · have own := Decorator.appendAll_keepsOwner keep (aggregateId_of_queued owns owned)
    generalize isEvents : Decorator.appendAll repository.decorators (repository.streamKey id)
      guard.uncommitted = events at own
    rcases repository.store.append_cases repository.typeIdentifier events backend with
      ⟨error, after, refused, unchanged⟩ | ⟨batch, after, appended, written, extended⟩
    · have fails : repository.write id guard backend = (.error (.store error), guard, after) := by
        simp only [write, isEvents, refused]
      rw [save_of_refused queued owned fails]
      refine writes_nothing unchanged fun events isResult => ?_
      cases isResult
    · have writes : repository.write id guard backend = (.ok events, guard.commit.2, after) := by
        simp only [write, isEvents, appended]
      obtain ⟨result, busAfter, saves, outcome⟩ := save_of_stored queued owned writes stamp bus
      rw [saves]
      constructor
      · rintro told rfl
        rcases outcome with isTold | ⟨error, failed⟩
        · rw [Except.ok.inj isTold]
          exact own
        · cases failed
      · refine ⟨batch, ?_, Written.streamKey_eq written own⟩
        rw [log_snapshotIfDue]
        exact extended

/-! ## Whose events a command writes -/

/-- What a command stores and tells are events of the aggregate that it is aimed at, and
what any decorator is given to be saved are events of one aggregate, as long as no
handled event changes an identifier. -/
theorem dispatch_writes_target
    (keep : ∀ decorator ∈ repository.decorators, decorator.KeepsOwner)
    (command : Command Payload State)
    (steady : ∀ guard live,
      (repository.obtain command.target command.expected backend).1 = .ok guard →
        command.handler guard = (.ok (), live) →
          Guard.Steady repository.configuration guard live) (stamp : Stamp) (bus : Bus) :
    let outcome := repository.dispatch stamp command backend bus
    repository.Writes command.target backend outcome.backend outcome.result ∧
    ∀ start live, start.uncommitted = [] → Guard.Steady repository.configuration start live →
      ∀ id, live.identifier repository.configuration = some id →
        ∀ outer decorator inner, repository.decorators = outer ++ decorator :: inner →
          ∀ event ∈ Decorator.appendAll inner (repository.streamKey id) live.uncommitted,
            event.aggregateId = id := by
  intro outcome
  constructor
  · have unchanged := repository.entries_load command.target command.expected backend
    rw [← repository.backend_obtain] at unchanged
    rcases repository.dispatch_cases stamp command backend bus with
      ⟨left, tellsNothing⟩ | ⟨guard, notes, after, live, obtained, handled, owned, left, told⟩
    · exact writes_nothing ((congrArg Backend.entries left).trans unchanged) tellsNothing
    · rw [obtained] at unchanged steady
      have owns := (steady guard live rfl handled).ownsQueue
        (Guard.ownsQueue_of_nothingQueued (uncommitted_obtain obtained))
      have writes := (save_writes keep owns owned stamp bus).of_entries unchanged
      constructor
      · intro events isResult
        refine writes.told events ?_
        rw [told] at isResult
        cases saved : (repository.save stamp live after bus).1 with
        | error error => simp [saved, Except.mapError] at isResult
        | ok found => simpa [saved, Except.mapError] using isResult
      · rw [left]
        exact writes.stored
  · intro start live nothingQueued steady id owned outer decorator inner split
    have innerKeep : ∀ other ∈ inner, other.KeepsOwner := by
      intro other isInner
      apply keep
      rw [split]
      simp [isInner]
    have owns := steady.ownsQueue (Guard.ownsQueue_of_nothingQueued nothingQueued)
    exact Decorator.appendAll_keepsOwner innerKeep (aggregateId_of_queued owns owned)

end Repository

namespace Meter

/-- Puts installations under the given identifiers into a meter, one after another. -/
def installAll (configuration : AggregateConfiguration MeterPayload Meter)
    (ids : List AggregateId) : CommandHandler MeterPayload Meter := fun guard =>
  (.ok (), ids.zipIdx.foldl (fun guard (id, place) =>
    (guard.apply configuration ⟨EventId.ofNat place, default⟩ (.installed id 1) .empty).2) guard)

/-- A meter keeps its first identifier, whatever is installed later. -/
theorem steady_installAll (ids : List AggregateId) (guard : Guard MeterPayload Meter) :
    Guard.Steady configuration guard (installAll configuration ids guard).2 := by
  have further (placed : List (AggregateId × Nat)) (live : Guard MeterPayload Meter)
      (steady : Guard.Steady configuration guard live) :
      Guard.Steady configuration guard (placed.foldl (fun guard (id, place) =>
        (guard.apply configuration ⟨EventId.ofNat place, default⟩ (.installed id 1) .empty).2)
        live) := by
    induction placed generalizing live with
    | nil => exact steady
    | cons first rest ih =>
      apply ih
      refine steady.apply ⟨EventId.ofNat first.2, default⟩ (.installed first.1 1) .empty rfl ?_
      intro id assigned
      simp only [Guard.apply, assigned]
      exact identifier_evolve assigned _
  exact further ids.zipIdx guard .start

/-- The repository of meters with a decorator. -/
def labelled : Repository MeterPayload Meter Unit Unit :=
  { repository with decorators := [.addMetadata (.single "by" (.string "reader"))] }

/-- The repository of meters that take their identifier from the last installation. -/
def movable : Repository MeterPayload Meter Unit Unit :=
  { repository with
    configuration := { configuration with
      entity := EntityModel.empty.on MeterPayload.installation fun _ installed =>
        { id := some installed.1, registers := List.replicate installed.2 0 } } }

end Meter

namespace Repository

/-- A meter keeps to its identifier, so both events are events of the target. -/
theorem dispatch_writes_target_of_meter :
    let command : Command MeterPayload Meter :=
      { target := ⟨"m"⟩, handler := Meter.installAll Meter.configuration [⟨"m"⟩, ⟨"n"⟩] }
    let outcome := Meter.labelled.dispatch ⟨EventId.ofNat 9, default⟩ command .empty ()
    (outcome.result.toOption.map List.length) = some 2 ∧
      Meter.labelled.Writes ⟨"m"⟩ .empty outcome.backend outcome.result := by
  intro command outcome
  refine ⟨by decide +kernel, (dispatch_writes_target ?_ command ?_ _ ()).1⟩
  · intro decorator isDecorator
    rw [List.mem_singleton.mp isDecorator]
    exact Decorator.keepsOwner_addMetadata _
  · rintro guard live - handled
    have isLive : live = (Meter.installAll Meter.configuration [⟨"m"⟩, ⟨"n"⟩] guard).2 :=
      (Prod.mk.inj handled).2.symm
    rw [isLive]
    exact Meter.steady_installAll [⟨"m"⟩, ⟨"n"⟩] guard

/-- The meter "m" becomes "n" and then "m" again.  The command is accepted, and an event of
"n" is stored and told. -/
theorem dispatch_writes_elsewhere :
    ∃ (command : Command MeterPayload Meter) (events : List (DomainEvent MeterPayload)),
      let outcome := Meter.movable.dispatch ⟨EventId.ofNat 9, default⟩ command .empty ()
      outcome.result = .ok events ∧ (∃ event ∈ events, event.aggregateId ≠ command.target) ∧
        ∃ entry ∈ outcome.backend.entries.log, entry.aggregateId ≠ command.target := by
  let command : Command MeterPayload Meter :=
    { target := ⟨"m"⟩
      handler := Meter.installAll Meter.movable.configuration [⟨"m"⟩, ⟨"n"⟩, ⟨"m"⟩] }
  let outcome := Meter.movable.dispatch ⟨EventId.ofNat 9, default⟩ command .empty ()
  have told : outcome.result.toOption.map (List.map DomainEvent.aggregateId) =
      some [⟨"m"⟩, ⟨"m"⟩, ⟨"n"⟩] := by decide +kernel
  have stored : ∃ entry ∈ outcome.backend.entries.log.toList, entry.aggregateId ≠ ⟨"m"⟩ := by
    decide +kernel
  obtain ⟨events, isResult, owners⟩ := Option.map_eq_some_iff.mp told
  refine ⟨command, events, ?_, ?_, ?_⟩
  · cases result : outcome.result with
    | error error => simp [result, Except.toOption] at isResult
    | ok found =>
      rw [result] at isResult
      obtain rfl := Option.some.inj isResult
      rfl
  · have foreign : (⟨"n"⟩ : AggregateId) ∈ events.map DomainEvent.aggregateId := by simp [owners]
    obtain ⟨event, isEvent, isForeign⟩ := List.mem_map.mp foreign
    refine ⟨event, isEvent, ?_⟩
    rw [isForeign]
    decide
  · obtain ⟨entry, listed, foreign⟩ := stored
    exact ⟨entry, Array.mem_toList_iff.mp listed, foreign⟩

end Repository

end EventSourcing
