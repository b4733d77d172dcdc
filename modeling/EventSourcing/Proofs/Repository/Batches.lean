import EventSourcing.Proofs.Aggregate.Numbering
import EventSourcing.Proofs.EventStore.RangeReading
import EventSourcing.Proofs.Repository.Archives
import Mathlib.Data.List.Perm.Basic

/-!
# Batches in the order of their numbers

A batch that a guard hands out is numbered without gaps.  Guards that do not know of each
other may save their batches in any order, as long as the numbers are free; a history is
read in the order of the numbers.  As no number is taken twice, that is the order of whole
batches (`Batch.arranged_ascending`), so that decorators get back the batches that they
have been given, one after another (`Repository.Shelved.load_spec`).
-/

namespace EventSourcing

/-! ## Arranging batches -/

namespace Batch

variable {Payload : Type} {batch : List (DomainEvent Payload)}
  {batches : List (List (DomainEvent Payload))}

def firstNumber (batch : List (DomainEvent Payload)) : Nat :=
  (batch.head?.map DomainEvent.sequenceNumber).getD 0

/-- The events of a batch are numbered without gaps, and there is at least one. -/
structure Gapless (batch : List (DomainEvent Payload)) : Prop where
  nonempty : batch ≠ []
  numbered : batch.map DomainEvent.sequenceNumber =
    List.range' (firstNumber batch) batch.length

/-- Batches in the order of their first numbers. -/
def arranged (batches : List (List (DomainEvent Payload))) : List (List (DomainEvent Payload)) :=
  batches.mergeSort fun first second => firstNumber first ≤ firstNumber second

theorem arranged_perm (batches : List (List (DomainEvent Payload))) :
    (arranged batches).Perm batches := List.mergeSort_perm batches _

theorem gapless_of_numbered {first : Nat} (nonempty : batch ≠ [])
    (numbered : batch.map DomainEvent.sequenceNumber = List.range' first batch.length) :
    Gapless batch := by
  refine ⟨nonempty, ?_⟩
  cases batch with
  | nil => exact absurd rfl nonempty
  | cons event rest =>
    have isFirst : event.sequenceNumber = first := (List.cons.inj numbered).1
    rw [numbered, ← isFirst]
    rfl

theorem Gapless.mem_numbers_iff (gapless : Gapless batch) {number : Nat} :
    number ∈ batch.map DomainEvent.sequenceNumber ↔
      firstNumber batch ≤ number ∧ number < firstNumber batch + batch.length := by
  rw [gapless.numbered, List.mem_range'_1]

theorem Gapless.ascending (gapless : Gapless batch) :
    batch.Pairwise fun event later => event.sequenceNumber < later.sequenceNumber := by
  rw [← List.pairwise_map (f := DomainEvent.sequenceNumber), gapless.numbered]
  exact List.pairwise_lt_range'

/-- Of two batches without a common number, the one that begins first ends first. -/
theorem Gapless.before {other : List (DomainEvent Payload)} (gapless : Gapless batch)
    (otherGapless : Gapless other) (inOrder : firstNumber batch ≤ firstNumber other)
    (apart : (batch.map DomainEvent.sequenceNumber).Disjoint
      (other.map DomainEvent.sequenceNumber)) :
    ∀ event ∈ batch, ∀ later ∈ other, event.sequenceNumber < later.sequenceNumber := by
  intro event isEvent later isLater
  have inBatch := gapless.mem_numbers_iff.mp (List.mem_map_of_mem isEvent)
  have inOther := otherGapless.mem_numbers_iff.mp (List.mem_map_of_mem isLater)
  have otherFirst : firstNumber other ∈ other.map DomainEvent.sequenceNumber :=
    otherGapless.mem_numbers_iff.mpr ⟨le_refl _, by omega⟩
  -- A batch that reaches behind the first number of the other one would share it.
  have notInBatch := mt gapless.mem_numbers_iff.mpr fun inside => apart inside otherFirst
  omega

/-- Batches without gaps, none of which shares a number with another one, ascend when they
are arranged, not only one behind another but event by event. -/
theorem arranged_ascending (gapless : ∀ batch ∈ batches, Gapless batch)
    (distinct : (batches.flatten.map DomainEvent.sequenceNumber).Nodup) :
    (arranged batches).flatten.Pairwise fun event later =>
      event.sequenceNumber < later.sequenceNumber := by
  have gaplessArranged : ∀ batch ∈ arranged batches, Gapless batch := fun batch isArranged =>
    gapless batch ((arranged_perm batches).mem_iff.mp isArranged)
  have distinctArranged : ((arranged batches).flatten.map DomainEvent.sequenceNumber).Nodup :=
    ((arranged_perm batches).flatten.map _).nodup_iff.mpr distinct
  rw [List.map_flatten, List.nodup_flatten] at distinctArranged
  have inOrder := pairwise_mergeSort_number firstNumber batches
  have apart := List.pairwise_map.mp distinctArranged.2
  rw [List.pairwise_flatten]
  refine ⟨fun batch isArranged => (gaplessArranged batch isArranged).ascending, ?_⟩
  refine (inOrder.and apart).imp_of_mem ?_
  intro batch other isArranged otherArranged both
  exact (gaplessArranged batch isArranged).before (gaplessArranged other otherArranged)
    both.1 both.2

end Batch

/-- A queue without gaps is a batch without gaps. -/
theorem Guard.Numbered.gapless {Payload State : Type} {guard : Guard Payload State}
    (numbered : guard.Numbered) (queued : guard.uncommitted ≠ []) :
    Batch.Gapless guard.uncommitted :=
  Batch.gapless_of_numbered queued numbered

namespace EntryStore

variable {entries : EntryStore} {key : StreamKey}

/-- However a history stands in the log, it is read in the order of its numbers. -/
theorem Coherent.entriesFrom_zero_eq (coherent : entries.Coherent) {ascending : List Entry}
    (perm : ascending.Perm (entries.history key))
    (strictly : ascending.Pairwise fun entry later =>
      entry.sequenceNumber < later.sequenceNumber) :
    entries.entriesFrom key 0 = ascending := by
  rw [EventStore.entriesFrom_eq_recordsBetween coherent, recordsBetween_zero_none,
    eq_mergeSort_of_perm perm strictly]

end EntryStore

namespace Repository

variable {Payload State Note Bus : Type} [DocumentFamily Payload]
  {repository : Repository Payload State Note Bus} {id : AggregateId} {entries : EntryStore}
  {saves : AggregateId → List (List (DomainEvent Payload))}

/-! ## Batches in a store -/

/-- What the decorators make of a batch can be read back, as far as it can be written. -/
def ReadsBack (repository : Repository Payload State Note Bus) (id : AggregateId)
    (batch : List (DomainEvent Payload)) : Prop :=
  ∀ stored ∈ Decorator.appendAll repository.decorators (repository.streamKey id) batch,
    ∀ document, repository.store.codec.serializer.serialize stored.payload = .ok document →
      repository.store.codec.serializer.deserialize document = .ok stored.payload

/-- The batches that have been saved of each aggregate, in the order of saving, as the
decorators have made them. -/
structure Shelved (repository : Repository Payload State Note Bus) (entries : EntryStore)
    (saves : AggregateId → List (List (DomainEvent Payload))) : Prop where
  coherent : entries.Coherent
  gapless (id : AggregateId) : ∀ batch ∈ saves id, Batch.Gapless batch
  readsBack (id : AggregateId) : ∀ batch ∈ saves id, repository.ReadsBack id batch
  written (id : AggregateId) : repository.Written (repository.decorated id (saves id))
    (entries.history (repository.streamKey id))

section Reading

variable (reversible : ∀ decorator ∈ repository.decorators, decorator.Reversible)
  (shelved : repository.Shelved entries saves)

include reversible shelved

/-- No number is taken twice. -/
theorem Shelved.nodup_sequenceNumber (id : AggregateId) :
    ((saves id).flatten.map DomainEvent.sequenceNumber).Nodup := by
  rw [← map_sequenceNumber_decorated reversible, ← (shelved.written id).map_sequenceNumber]
  exact shelved.coherent.nodup_sequenceNumber _

theorem Shelved.ascending (id : AggregateId) :
    (Batch.arranged (saves id)).flatten.Pairwise fun event later =>
      event.sequenceNumber < later.sequenceNumber :=
  Batch.arranged_ascending (shelved.gapless id) (shelved.nodup_sequenceNumber reversible id)

/-- In whatever order the batches have been saved, what the decorators have made of them is
read in the order of their numbers. -/
theorem Shelved.decodeAll_entriesFrom (direct : repository.store.codec.upcasters = [])
    (id : AggregateId) :
    repository.store.codec.decodeAll (entries.entriesFrom (repository.streamKey id) 0) =
      .ok (repository.decorated id (Batch.arranged (saves id))) := by
  have rearranged : (repository.decorated id (Batch.arranged (saves id))).Perm
      (repository.decorated id (saves id)) :=
    (Batch.arranged_perm (saves id)).flatMap_right _
  obtain ⟨ordered, written, perm⟩ := List.perm_comp_forall₂ rearranged (shelved.written id)
  have numbers : ordered.map Entry.sequenceNumber =
      (Batch.arranged (saves id)).flatten.map DomainEvent.sequenceNumber := by
    rw [Written.map_sequenceNumber written, map_sequenceNumber_decorated reversible]
  have strictly : ordered.Pairwise fun entry later =>
      entry.sequenceNumber < later.sequenceNumber := by
    rw [← List.pairwise_map (f := Entry.sequenceNumber), numbers, List.pairwise_map]
    exact shelved.ascending reversible id
  rw [shelved.coherent.entriesFrom_zero_eq perm strictly]
  refine EventCodec.decodeAll_of_forall₂ direct written ?_
  intro stored isStored
  obtain ⟨batch, isBatch, inBatch⟩ := List.mem_flatMap.mp (rearranged.mem_iff.mp isStored)
  exact shelved.readsBack id batch isBatch stored inBatch

/-- Loading an aggregate replays the events of its batches as they were queued, in the order
of their numbers. -/
theorem Shelved.load_spec (direct : repository.store.codec.upcasters = []) {backend : Backend}
    (isEntries : backend.entries = entries) (reliable : backend.Reliable)
    (noSnapshot : entries.lastSnapshot? (repository.streamKey id) = none)
    (expected : ExpectedVersion) :
    let events := (Batch.arranged (saves id)).flatten
    (events = [] ∧
      (repository.load id expected backend).1 = .error (.aggregateNotFound id)) ∨
    (events ≠ [] ∧ (repository.load id expected backend).1 = repository.accept id expected
      (repository.newAggregate.replayEvents repository.configuration events)) := by
  intro events
  have isRead : repository.store.eventsRead backend.entries (repository.streamKey id) =
      .ok (repository.decorated id (Batch.arranged (saves id))) := by
    rw [isEntries, EventStore.eventsRead, noSnapshot]
    exact shelved.decodeAll_entriesFrom reversible direct id
  have alike : repository.decorated id (Batch.arranged (saves id)) = [] ↔ events = [] := by
    rw [← List.map_eq_nil_iff, map_sequenceNumber_decorated reversible, List.map_eq_nil_iff]
  by_cases nothing : events = []
  · rw [alike.mpr nothing] at isRead
    exact .inl ⟨nothing, load_of_nothing reliable isRead expected⟩
  · refine .inr ⟨nothing, load_of_delivered reliable (mt alike.mp nothing) isRead ?_ expected⟩
    intro stream items
    exact ⟨events, Decorator.readAll_restores reversible items, rfl⟩

end Reading

end Repository

end EventSourcing
