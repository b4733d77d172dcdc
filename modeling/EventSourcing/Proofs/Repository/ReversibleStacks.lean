import EventSourcing.Proofs.Repository.Batches
import EventSourcing.Proofs.Repository.DecoratedRuns
import EventSourcing.Proofs.Repository.Ownership

/-!
# Stacks of decorators in a repository

Decorators that can each be undone are undone in the right order, so that a stack of them
gives back what it has been given to store.  Whatever guards have been saved in whatever
order, a load then replays the events of their queues (`Repository.stack_restores`).
-/

namespace EventSourcing

/-! ## Identifiers that stay -/

/-- No handler changes an assigned identifier. -/
def AggregateConfiguration.KeepsIdentifier {Payload State : Type} [PayloadFamily Payload]
    (configuration : AggregateConfiguration Payload State) : Prop :=
  ∀ state id, configuration.identifier state = some id →
    ∀ event, configuration.identifier (configuration.evolve state event) = some id

namespace Guard

variable {Payload State Mark : Type} [PayloadFamily Payload]
  {configuration : AggregateConfiguration Payload State} {guard : Guard Payload State}

/-- Whatever is asked of a guard, what is queued in it belongs to its aggregate. -/
theorem OwnsQueue.call (keeps : configuration.KeepsIdentifier)
    (owns : guard.OwnsQueue configuration) (call : Call Mark Payload) :
    (guard.call configuration call).2.OwnsQueue configuration := by
  cases call with
  | apply stamp payload metadata =>
    refine owns.apply rfl fun id assigned => ?_
    simp only [Guard.call, Guard.apply, assigned]
    exact keeps guard.state id assigned _
  | commit => exact ownsQueue_of_nothingQueued (uncommitted_commit guard)
  | replay history =>
    by_cases queued : guard.uncommitted = []
    · exact ownsQueue_of_nothingQueued
        ((uncommitted_replay configuration history guard).trans queued)
    · simp only [Guard.call, replay_of_queued queued]
      exact owns
  | snapshot stamp => exact owns
  | markDeleted => exact owns
  | resetSnapshotCounter => exact owns

theorem OwnsQueue.callAll (keeps : configuration.KeepsIdentifier)
    (owns : guard.OwnsQueue configuration) (calls : List (Call Mark Payload)) :
    (guard.callAll configuration calls).2.OwnsQueue configuration := by
  induction calls generalizing guard with
  | nil => exact owns
  | cons call rest ih => exact ih (owns.call keeps call)

end Guard

namespace Repository

variable {Payload State Note Bus : Type} [DocumentFamily Payload]
  {repository : Repository Payload State Note Bus} {id : AggregateId}
  {saves : AggregateId → List (List (DomainEvent Payload))} {backend : Backend}
  {guard : Guard Payload State}

/-! ## One save -/

/-- Whether an answer to a save tells that the queue is stored, though perhaps not
published. -/
def tellsStored : Except RepositoryError (List (DomainEvent Payload)) → Bool
  | .ok _ => true
  | .error (.publish _) => true
  | .error _ => false

/-- A save that tells so has found the keys of the queue free. -/
theorem save_pushes (queued : guard.uncommitted ≠ [])
    (owned : guard.identifier repository.configuration = some id) {stamp : Stamp} {bus : Bus}
    (stored : tellsStored (repository.save stamp guard backend bus).1 = true) :
    ∃ batch snapshots,
      repository.Written (Decorator.appendAll repository.decorators (repository.streamKey id)
        guard.uncommitted) batch ∧
      backend.entries.conflict? [] batch = none ∧
      (repository.save stamp guard backend bus).2.2.1.entries =
        { backend.entries.pushAll batch with snapshots } := by
  generalize isEvents : Decorator.appendAll repository.decorators (repository.streamKey id)
    guard.uncommitted = events
  -- `write_outcome` tells what is stored, but not that there was no conflict.
  rcases repository.store.append_persists repository.typeIdentifier events backend with
    ⟨error, after, refused, -⟩ | ⟨batch, after, appended, written, persisted⟩
  · have fails : repository.write id guard backend = (.error (.store error), guard, after) := by
      simp only [write, isEvents, refused]
    rw [save_of_refused queued owned fails] at stored
    cases stored
  · have writes : repository.write id guard backend = (.ok events, guard.commit.2, after) := by
      simp only [write, isEvents, appended]
    obtain ⟨result, busAfter, saves, -⟩ := save_of_stored queued owned writes stamp bus
    obtain ⟨snapshots, left⟩ := repository.entries_snapshotIfDue stamp guard.commit.2 after
    obtain ⟨free, pushed⟩ := EntryStore.persist_eq_ok_iff.mp persisted
    exact ⟨batch, snapshots, written, free, by rw [saves, left, pushed]⟩

/-- The queue of a guard becomes one batch more. -/
theorem Shelved.save (reversible : ∀ decorator ∈ repository.decorators, decorator.Reversible)
    (shelved : repository.Shelved backend.entries saves) (numbered : guard.Numbered)
    (owns : guard.OwnsQueue repository.configuration) (queued : guard.uncommitted ≠ [])
    (owned : guard.identifier repository.configuration = some id)
    (readsBack : repository.ReadsBack id guard.uncommitted) {stamp : Stamp} {bus : Bus}
    (stored : tellsStored (repository.save stamp guard backend bus).1 = true) :
    repository.Shelved (repository.save stamp guard backend bus).2.2.1.entries
      (saveMore saves id guard.uncommitted) := by
  obtain ⟨batch, snapshots, written, free, left⟩ := save_pushes queued owned stored
  have own := Decorator.appendAll_aggregateId reversible (repository.streamKey id)
    (aggregateId_of_queued owns owned)
  have fits := shelved.coherent.consistent.conflict?_eq_none_iff.mp free
  rw [left]
  constructor
  case coherent => exact (shelved.coherent.pushAll fits).withSnapshots snapshots
  case gapless =>
    intro other member isMember
    rcases mem_saveMore_iff.mp isMember with earlier | ⟨-, rfl⟩
    · exact shelved.gapless other member earlier
    · exact numbered.gapless queued
  case readsBack =>
    intro other member isMember
    rcases mem_saveMore_iff.mp isMember with earlier | ⟨rfl, rfl⟩
    · exact shelved.readsBack other member earlier
    · exact readsBack
  case written => exact written_pushAll shelved.written written (written.streamKey_eq own)

/-! ## Any number of saves -/

/-- The queues that have been saved of each aggregate, one after another, and the backend
they have been saved to.  Each of them is the queue of some guard, whatever has been asked of
it before.  In between, loads, refused saves and others may do anything that adds nothing to
the histories of these aggregates. -/
inductive Saved (repository : Repository Payload State Note Bus) :
    (AggregateId → List (List (DomainEvent Payload))) → Backend → Prop
  | start {first : Backend} (coherent : first.entries.Coherent)
      (nothing : ∀ id, first.entries.history (repository.streamKey id) = []) :
      Saved repository (fun _ => []) first
  | save {earlier held} (before : Saved repository earlier held)
      (calls : List (Guard.Call (ReadMark Note) Payload)) {live : Guard Payload State}
      (isLive : (repository.newAggregate.callAll repository.configuration calls).2 = live)
      (queued : live.uncommitted ≠ []) {owner : AggregateId}
      (owned : live.identifier repository.configuration = some owner)
      (readsBack : repository.ReadsBack owner live.uncommitted) (stamp : Stamp) (bus : Bus)
      (stored : tellsStored (repository.save stamp live held bus).1 = true) :
      Saved repository (saveMore earlier owner live.uncommitted)
        (repository.save stamp live held bus).2.2.1
  | between {earlier held} (before : Saved repository earlier held) {after : Backend}
      (coherent : after.entries.Coherent)
      (unchanged : ∀ id, after.entries.history (repository.streamKey id) =
        held.entries.history (repository.streamKey id)) :
      Saved repository earlier after

theorem Saved.shelved (reversible : ∀ decorator ∈ repository.decorators, decorator.Reversible)
    (keeps : repository.configuration.KeepsIdentifier)
    (saved : repository.Saved saves backend) : repository.Shelved backend.entries saves := by
  induction saved with
  | start coherent nothing =>
    refine ⟨coherent, nofun, nofun, fun id => ?_⟩
    rw [nothing id]
    exact .nil
  | @save earlier held before calls live isLive queued owner owned readsBack stamp bus stored ih =>
    have fresh : repository.newAggregate.uncommitted = [] := rfl
    have numbered : live.Numbered := isLive ▸ (Guard.numbered_of_nothingQueued fresh).callAll calls
    have owns : live.OwnsQueue repository.configuration :=
      isLive ▸ (Guard.ownsQueue_of_nothingQueued fresh).callAll keeps calls
    exact ih.save reversible numbered owns queued owned readsBack stored
  | between before coherent unchanged ih =>
    refine ⟨coherent, ih.gapless, ih.readsBack, fun id => ?_⟩
    rw [unchanged id]
    exact ih.written id

/-- A stack of decorators each of which can be undone gives back the batches that it has
been given to store.  So, without upcasters and snapshots, and as long as no handler changes
an assigned identifier, a load after any saves replays the events that the guards had in
their queues, each of them once, in the order of their numbers; that is the order of saving
if these numbers ascend. -/
theorem stack_restores (reversible : ∀ decorator ∈ repository.decorators, decorator.Reversible) :
    (∀ (key : StreamKey) (batches : List (List (DomainEvent Payload)))
      (stream : EventStream (ReadMark Note) Payload),
      stream.items = (batches.flatMap (Decorator.appendAll repository.decorators key)).map .ok →
        (Decorator.readAll key repository.decorators stream).2.items = batches.flatten.map .ok) ∧
    (repository.store.codec.upcasters = [] → repository.configuration.KeepsIdentifier →
      ∀ saves backend, repository.Saved saves backend → backend.Reliable →
        ∀ id, backend.entries.lastSnapshot? (repository.streamKey id) = none →
          ∃ events, events.Perm (saves id).flatten ∧
            (events.Pairwise fun event later => event.sequenceNumber < later.sequenceNumber) ∧
            (((saves id).flatten.Pairwise fun event later =>
              event.sequenceNumber < later.sequenceNumber) → events = (saves id).flatten) ∧
            ∀ expected, (repository.load id expected backend).1 =
              if events = [] then .error (.aggregateNotFound id)
              else repository.accept id expected
                (repository.newAggregate.replayEvents repository.configuration events)) := by
  refine ⟨fun key batches stream => Decorator.readAll_restores reversible, ?_⟩
  intro direct keeps saves backend saved reliable id noSnapshot
  have shelved := saved.shelved reversible keeps
  have perm := (Batch.arranged_perm (saves id)).flatten
  have ascending := shelved.ascending reversible id
  refine ⟨_, perm, ascending, fun inOrder => ?_, fun expected => ?_⟩
  · refine perm.eq_of_pairwise ?_ ascending inOrder
    intro event later _ _ before after
    exact absurd after (Nat.lt_asymm before)
  · rcases shelved.load_spec reversible direct rfl reliable noSnapshot expected with
      ⟨nothing, notFound⟩ | ⟨something, accepted⟩
    · rw [if_pos nothing, notFound]
    · rw [if_neg something, accepted]

end Repository

/-! ## A stack in which the order counts -/

namespace Decorator

variable {Payload Note : Type}

/-- The decorator that converts events to be stored, and restores those that are read. -/
def converting (convert restore : DomainEvent Payload → DomainEvent Payload) :
    Decorator Payload Note where
  onAppend _ events := events.map convert
  onRead _ stream := ([], stream.map restore)

theorem reversible_converting {convert restore : DomainEvent Payload → DomainEvent Payload}
    (restores : ∀ event, restore (convert event) = event)
    (keepsPlace : ∀ event, (convert event).place = event.place) :
    (converting convert restore : Decorator Payload Note).Reversible where
  restores key batches stream stored := by
    have converted : stream.items = (batches.flatten.map convert).map .ok := by
      rw [stored, List.map_flatten, List.flatMap_def]
      rfl
    change (stream.map restore).items = _
    rw [EventStream.items_map, converted, List.map_map, List.map_map]
    exact List.map_congr_left fun event _ => congrArg Except.ok (restores event)
  keepsPlaces key events := by
    change (events.map convert).map DomainEvent.place = _
    rw [List.map_map]
    exact List.map_congr_left fun event _ => keepsPlace event

end Decorator

namespace Meter

/-- The event with another amount, if something is measured. -/
def withAmount (change : Nat → Nat) (event : DomainEvent MeterPayload) :
    DomainEvent MeterPayload :=
  match event.payload with
  | .measured amount => event.withPayload (.measured (change amount))
  | _ => event

/-- The decorator that stores changed amounts. -/
def changing (change restore : Nat → Nat) : Decorator MeterPayload Unit :=
  .converting (withAmount change) (withAmount restore)

theorem reversible_changing {change restore : Nat → Nat}
    (restores : ∀ amount, restore (change amount) = amount) :
    (changing change restore).Reversible := by
  apply Decorator.reversible_converting
  · intro event
    obtain ⟨⟨id, time, metadata, payload⟩, owner, number⟩ := event
    cases payload with
    | measured amount => simp [withAmount, DomainEvent.withPayload, restores]
    | _ => rfl
  · intro event
    obtain ⟨⟨id, time, metadata, payload⟩, owner, number⟩ := event
    cases payload <;> rfl

/-- The repository of meters that doubles what is measured, and then adds one. -/
def stacked : Repository MeterPayload Meter Unit Unit :=
  { repository with
    trigger := .never
    decorators := [changing (· + 1) (· - 1), changing (2 * ·) (· / 2)] }

theorem stacked_reversible : ∀ decorator ∈ stacked.decorators, decorator.Reversible := by
  intro decorator isDecorator
  rcases List.mem_pair.mp isDecorator with rfl | rfl
  · exact reversible_changing fun amount => Nat.add_sub_cancel amount 1
  · exact reversible_changing fun amount => Nat.mul_div_cancel_left amount Nat.two_pos

theorem stacked_readsBack (id : AggregateId) {queue : List (DomainEvent MeterPayload)}
    (readable : ∀ event ∈ queue, isUnreadable event.payload = false) :
    stacked.ReadsBack id queue := by
  intro stored isStored document written
  obtain ⟨doubled, isDoubled, rfl⟩ := List.mem_map.mp isStored
  obtain ⟨event, isEvent, rfl⟩ := List.mem_map.mp isDoubled
  refine serializer_registers.deserialize_of_serialize registered_unambiguous ?_ written
  have isReadable := readable event isEvent
  obtain ⟨⟨eventId, time, metadata, payload⟩, owner, number⟩ := event
  cases payload with
  | unreadable document => exact absurd isReadable nofun
  | _ => nofun

/-- A meter is installed and measures 5. -/
def firstCalls : List (Guard.Call (ReadMark Unit) MeterPayload) :=
  [.apply ⟨EventId.ofNat 0, default⟩ (.installed ⟨"m"⟩ 2) .empty,
    .apply ⟨EventId.ofNat 1, default⟩ (.measured 5) .empty]

/-- When this has been committed, it measures 7. -/
def laterCalls : List (Guard.Call (ReadMark Unit) MeterPayload) :=
  firstCalls ++ [.commit, .apply ⟨EventId.ofNat 2, default⟩ (.measured 7) .empty]

/-- The backend when a guard has been saved that has answered calls. -/
def savedAfter (calls : List (Guard.Call (ReadMark Unit) MeterPayload)) (backend : Backend) :
    Backend :=
  (stacked.save ⟨EventId.ofNat 9, default⟩
    (stacked.newAggregate.callAll configuration calls).2 backend ()).2.2.1

end Meter

namespace Repository

/-- What is measured is stored doubled and then increased, and is replayed as it was. -/
theorem stack_restores_of_meter :
    let event (number : Nat) (payload : MeterPayload) : DomainEvent MeterPayload :=
      .ofStamp ⟨EventId.ofNat number, default⟩ ⟨"m"⟩ number payload .empty
    let events := [event 0 (.installed ⟨"m"⟩ 2), event 1 (.measured 5), event 2 (.measured 7)]
    let backend := Meter.savedAfter Meter.laterCalls (Meter.savedAfter Meter.firstCalls .empty)
    (∃ saves, Meter.stacked.Saved saves backend) ∧
    backend.entries.log.toList.map (fun entry => entry.payload.data) =
      [.array [.string "m", Meter.countJson 2], Meter.countJson 11, Meter.countJson 15] ∧
    ∀ expected, (Meter.stacked.load ⟨"m"⟩ expected backend).1 =
      Meter.stacked.accept ⟨"m"⟩ expected
        (Meter.stacked.newAggregate.replayEvents Meter.configuration events) := by
  intro event events backend
  have started : Meter.stacked.Saved (fun _ => []) .empty :=
    .start EntryStore.coherent_empty fun _ => rfl
  have once := started.save Meter.firstCalls rfl nofun rfl
    (Meter.stacked_readsBack ⟨"m"⟩ (by decide)) ⟨EventId.ofNat 9, default⟩ ()
    (by decide +kernel)
  have twice := once.save Meter.laterCalls rfl nofun rfl
    (Meter.stacked_readsBack ⟨"m"⟩ (by decide)) ⟨EventId.ofNat 9, default⟩ ()
    (by decide +kernel)
  have noFaults : backend.faults.entries = [] := by decide +kernel
  have reliable : backend.Reliable := fun operation => by rw [Table.get?, noFaults]; rfl
  have noSnapshot : backend.entries.lastSnapshot? (Meter.stacked.streamKey ⟨"m"⟩) = none := by
    decide +kernel
  refine ⟨⟨_, twice⟩, by decide +kernel, fun expected => ?_⟩
  obtain ⟨-, loads⟩ := stack_restores Meter.stacked_reversible
  obtain ⟨found, -, -, inOrder, loaded⟩ := loads rfl
    (fun _ _ assigned event => Meter.identifier_evolve assigned event) _ _ twice reliable ⟨"m"⟩
    noSnapshot
  rw [saveMore_self, saveMore_self] at inOrder
  obtain rfl : found = events := inOrder (by decide)
  exact loaded expected

end Repository

end EventSourcing
