import EventSourcing.Proofs.Repository.MeterRepository

/-!
# No update is lost

Nobody checks a version when events are stored.  It is the numbers that keep stale
guards out: a guard numbers its queue behind its version, histories have no gaps,
and every number is taken once.
-/

namespace EventSourcing

/-- The last sequence number of a stored history. -/
def EntryStore.lastNumber? (store : EntryStore) (key : StreamKey) : Option Nat :=
  (store.history key).getLast?.map Entry.sequenceNumber

namespace Repository

variable {Payload State Note Bus : Type} [DocumentFamily Payload]
  {repository : Repository Payload State Note Bus} {id : AggregateId}
  {entries : EntryStore} {histories : AggregateId → List (DomainEvent Payload)}
  {past : List (DomainEvent Payload)} {guard : Guard Payload State} {backend : Backend}

theorem Records.lastNumber?_eq (records : repository.Records entries histories)
    (id : AggregateId) :
    entries.lastNumber? (repository.streamKey id) =
      (histories id).getLast?.map DomainEvent.sequenceNumber := by
  rw [EntryStore.lastNumber?, ← List.getLast?_map, ← List.getLast?_map,
    (records.written id).map_sequenceNumber]

/-- A guard is at the last number of a history exactly when its past is the whole
life. -/
theorem Carries.lastNumber?_eq_version_iff (records : repository.Records entries histories)
    (carries : repository.Carries id past guard) (front : past <+: histories id) :
    entries.lastNumber? (repository.streamKey id) = guard.version ↔ past = histories id := by
  have lifetime := records.lifetime id
  rw [records.lastNumber?_eq, carries.version, lifetime.getLast?_sequenceNumber,
    (lifetime.beginning front).getLast?_sequenceNumber]
  constructor
  · intro same
    refine front.eq_of_length ?_
    by_cases empty : histories id = []
    · rw [empty, List.prefix_nil] at front
      rw [front, empty]
    · by_cases fresh : past = []
      · simp [empty, fresh] at same
      · have someEvents := List.length_pos_iff.mpr empty
        have somePast := List.length_pos_iff.mpr fresh
        rw [if_neg empty, if_neg fresh, Option.some.injEq] at same
        omega
  · rintro rfl
    rfl

/-- However clients interleave: every stored history is numbered from zero on without
gaps, and a queue is stored only behind the last event that its guard knows.  If
others have stored events since, the save fails as a conflict and changes nothing;
if not, the history goes on with exactly the queue, unless the identity of an event
in it is in use. -/
theorem Reachable.no_lost_update {Name : Type} [DecidableEq Name]
    (wellBehaved : repository.WellBehaved) {world : World Name Payload State}
    (reachable : repository.Reachable world) :
    (∀ key, (world.backend.entries.history key).map Entry.sequenceNumber =
      List.range (world.backend.entries.history key).length) ∧
    ∀ name guard, world.clients name = .working guard → guard.uncommitted ≠ [] →
      ∃ id, guard.identifier repository.configuration = some id ∧
        (world.backend.entries.lastNumber? (repository.streamKey id) ≠ guard.version →
          ∃ number, ∀ stamp bus, repository.save stamp guard world.backend bus =
            (.error (.store (.concurrency (.position (repository.streamKey id) number))),
              guard, world.backend, bus)) ∧
        (world.backend.entries.lastNumber? (repository.streamKey id) = guard.version →
          (∃ event, ∀ stamp bus, repository.save stamp guard world.backend bus =
            (.error (.store (.concurrency (.event event))), guard, world.backend, bus)) ∨
          ∃ batch, repository.Written guard.uncommitted batch ∧ ∀ stamp bus,
            (repository.save stamp guard world.backend bus).2.2.1.entries.history
                (repository.streamKey id) =
              world.backend.entries.history (repository.streamKey id) ++ batch) := by
  obtain ⟨histories, sound⟩ := reachable.sound wellBehaved
  obtain ⟨reliable, records⟩ := sound.store
  refine ⟨records.numbered, fun name guard works queued => ?_⟩
  have holds := sound.holds name
  rw [works] at holds
  obtain ⟨id, past, front, carries⟩ := holds
  have owned := carries.identifier_eq fun empty => queued (List.append_eq_nil_iff.mp empty).2
  have upToDate := carries.lastNumber?_eq_version_iff records front
  refine ⟨id, owned, fun stale => ?_, fun current => ?_⟩
  · have refused := carries.write_stale wellBehaved reliable records front queued
      (mt upToDate.mpr stale)
    exact ⟨past.length, save_of_refused queued owned refused⟩
  · obtain rfl := upToDate.mp current
    rcases carries.write_current wellBehaved reliable records queued with
      ⟨event, refused⟩ | ⟨next, batch, stored, written, extended, -⟩
    · exact .inl ⟨event, save_of_refused queued owned refused⟩
    · refine .inr ⟨batch, written, fun stamp bus => ?_⟩
      rw [history_save_of_stored queued owned stored reliable, extended]

/-- Two clients install the same meter.  The one that saves first wins. -/
theorem Reachable.no_lost_update_of_two :
    ∃ (world : World Bool MeterPayload Meter) (guard : Guard MeterPayload Meter),
      Meter.repository.Reachable world ∧ world.clients true = .working guard ∧
        guard.uncommitted.length = 1 ∧ guard.version = none ∧
        (world.backend.entries.history ⟨"Meter", ⟨"m"⟩⟩).length = 1 ∧
        ∃ number, ∀ stamp, Meter.repository.save stamp guard world.backend () =
          (.error (.store (.concurrency (.position ⟨"Meter", ⟨"m"⟩⟩ number))), guard,
            world.backend, ()) := by
  have begun : Meter.repository.Reachable (World.start : World Bool MeterPayload Meter) := .refl
  have slowCreated := begun.tail (.create _ true)
  have slowInstalled := slowCreated.tail (.apply true rfl ⟨EventId.ofNat 1, default⟩
    (.installed ⟨"m"⟩ 2) .empty (Meter.admits_installed _ _) rfl)
  have quickCreated := slowInstalled.tail (.create _ false)
  have quickInstalled := quickCreated.tail (.apply false rfl ⟨EventId.ofNat 2, default⟩
    (.installed ⟨"m"⟩ 3) .empty (Meter.admits_installed _ _) rfl)
  have quickStored := quickInstalled.tail (.write false rfl nofun rfl)
  obtain ⟨id, owned, stale, -⟩ :=
    (Reachable.no_lost_update Meter.repository_wellBehaved quickStored).2 true _ rfl nofun
  obtain rfl : ⟨"m"⟩ = id := Option.some.inj owned
  obtain ⟨number, refused⟩ := stale (by decide)
  exact ⟨_, _, quickStored, rfl, rfl, rfl, rfl, number, fun stamp => refused stamp ()⟩

end Repository

end EventSourcing
