import EventSourcing.Proofs.Document.MeterSerializer
import EventSourcing.Proofs.EventStore.RoundTrip
import EventSourcing.Proofs.EventStore.SnapshotReading
import Mathlib.Data.List.Perm.Subperm

/-!
# The archive of snapshots

The snapshots of a history are archived by number.  A new one takes the place of an
older one of its number, and then the archive is cut down to the greatest numbers
(`OrderedMap.HoldsGreatest`), whether or not the new one is among them.  This is all
that storing a snapshot does: the log, its index, the identities in use and the archives
of other histories stay as they are (`EntryStore.AgreesBeside`).  If cutting down fails,
the archive has one snapshot too many, or several after several failures, until it is
cut down again (`EventStore.appendSnapshot_archives`).
-/

namespace EventSourcing

/-! ## The greatest keys -/

namespace OrderedMap

variable {Value : Type} {map held : OrderedMap Nat Value} {number other greatest limit : Nat}
  {last : Value}

theorem last?_eq_none_iff : map.last? = none ↔ map.size = 0 := by
  rw [last?, List.getLast?_eq_none_iff, size, List.length_eq_zero_iff]

theorem keys_nodup (map : OrderedMap Nat Value) : map.keys.Nodup := by
  refine List.pairwise_map.mpr (map.sorted.imp ?_)
  intro first second below
  exact Nat.ne_of_lt (Nat.compare_eq_lt.mp below)

theorem mem_keys_iff : number ∈ map.keys ↔ (map.get? number).isSome := by
  simp only [keys, List.mem_map, Prod.exists, exists_and_right, exists_eq_right,
    Option.isSome_iff_exists, get?_eq_some_iff]

theorem size_lt_of_subset (included : map.keys ⊆ held.keys) (isHeld : number ∈ held.keys)
    (lacks : number ∉ map.keys) : map.size < held.size := by
  have distinct : (number :: map.keys).Nodup := List.nodup_cons.mpr ⟨lacks, map.keys_nodup⟩
  have shorter := (List.subperm_of_subset distinct
    (List.cons_subset.mpr ⟨isHeld, included⟩)).length_le
  rw [List.length_cons, keys, keys, List.length_map, List.length_map] at shorter
  exact shorter

/-- A map holds the greatest numbers that have a value, as many as the limit allows. -/
structure HoldsGreatest (held : OrderedMap Nat Value) (limit : Nat)
    (value? : Nat → Option Value) : Prop where
  /-- What is held has been there. -/
  given {number : Nat} {value : Value} : held.get? number = some value →
    value? number = some value
  /-- What is left out is smaller than all that is held. -/
  below {number other : Nat} : number ∈ held.keys → (value? other).isSome →
    other ∉ held.keys → other < number
  size_le : held.size ≤ limit
  /-- Nothing is left out as long as there is room. -/
  complete : held.size < limit → ∀ {number : Nat}, (value? number).isSome → number ∈ held.keys

namespace HoldsGreatest

variable {value? : Nat → Option Value}

/-- The last entries of a map are those with the greatest keys. -/
theorem of_drop (map : OrderedMap Nat Value) (limit : Nat) :
    (map.drop (map.size - limit)).HoldsGreatest limit map.get? := by
  have size_drop : (map.drop (map.size - limit)).size = map.size - (map.size - limit) :=
    List.length_drop
  refine ⟨?_, ?_, ?_, ?_⟩
  · intro number value found
    exact get?_eq_some_iff.mpr (List.mem_of_mem_drop (get?_eq_some_iff.mp found))
  · intro number other isHeld isGiven leftOut
    obtain ⟨value, found⟩ := Option.isSome_iff_exists.mp (mem_keys_iff.mp isHeld)
    obtain ⟨left, given⟩ := Option.isSome_iff_exists.mp isGiven
    -- What is listed but not behind the cut is in front of it.
    have listed := get?_eq_some_iff.mp given
    have sorted := map.sorted
    rw [← List.take_append_drop (map.size - limit) map.toList] at listed sorted
    rcases List.mem_append.mp listed with front | back
    · have behind := get?_eq_some_iff.mp found
      exact Nat.compare_eq_lt.mp ((List.pairwise_append.mp sorted).2.2 _ front _ behind)
    · exact absurd (List.mem_map.mpr ⟨_, back, rfl⟩) leftOut
  · omega
  · intro room number given
    have nothingDropped : map.size - limit = 0 := by omega
    rw [nothingDropped]
    exact mem_keys_iff.mpr given

variable (holds : held.HoldsGreatest limit value?)

include holds

theorem isSome_of_mem_keys (isHeld : number ∈ held.keys) : (value? number).isSome := by
  obtain ⟨value, found⟩ := Option.isSome_iff_exists.mp (mem_keys_iff.mp isHeld)
  rw [holds.given found]
  rfl

/-- What one map holds another one holds, too. -/
theorem keys_subset {another : OrderedMap Nat Value}
    (alsoHolds : another.HoldsGreatest limit value?) : held.keys ⊆ another.keys := by
  intro number isHeld
  by_contra lacks
  -- The other map has no room left, and all that it has is greater, and held here too.
  have full : ¬another.size < limit := fun room =>
    lacks (alsoHolds.complete room (holds.isSome_of_mem_keys isHeld))
  have included : another.keys ⊆ held.keys := by
    intro other there
    by_contra lacksOther
    have greater := alsoHolds.below there (holds.isSome_of_mem_keys isHeld) lacks
    have smaller := holds.below isHeld (alsoHolds.isSome_of_mem_keys there) lacksOther
    omega
  have fewer := size_lt_of_subset included isHeld lacks
  have bound := holds.size_le
  omega

theorem get?_eq_of_mem_keys (isHeld : number ∈ held.keys) : held.get? number = value? number := by
  obtain ⟨value, found⟩ := Option.isSome_iff_exists.mp (mem_keys_iff.mp isHeld)
  rw [found, holds.given found]

/-- There is only one such map. -/
theorem unique {another : OrderedMap Nat Value} (alsoHolds : another.HoldsGreatest limit value?) :
    held = another := by
  apply ext_get?
  intro number
  by_cases isHeld : number ∈ held.keys
  · rw [holds.get?_eq_of_mem_keys isHeld,
      alsoHolds.get?_eq_of_mem_keys (holds.keys_subset alsoHolds isHeld)]
  · have notThere : number ∉ another.keys := fun there =>
      isHeld (alsoHolds.keys_subset holds there)
    rw [mem_keys_iff, Option.not_isSome_iff_eq_none] at isHeld notThere
    rw [isHeld, notThere]

/-- The last entry that is held is the greatest of all. -/
theorem greatest_of_last? (isLast : held.last? = some (greatest, last)) :
    value? greatest = some last ∧ ∀ other, (value? other).isSome → other ≤ greatest := by
  have isHeld := get?_of_last? isLast
  refine ⟨holds.given isHeld, ?_⟩
  intro other given
  by_cases otherHeld : other ∈ held.keys
  · obtain ⟨value, found⟩ := Option.isSome_iff_exists.mp (mem_keys_iff.mp otherHeld)
    exact le_of_last? isLast found
  · have greatestHeld : greatest ∈ held.keys := mem_keys_iff.mpr (by rw [isHeld]; rfl)
    exact Nat.le_of_lt (holds.below greatestHeld given otherHeld)

/-- If anything may be held and there is anything, then something is held. -/
theorem exists_last? (allowed : 1 ≤ limit) (given : (value? number).isSome) :
    ∃ greatest last, held.last? = some (greatest, last) := by
  cases isLast : held.last? with
  | some entry => exact ⟨entry.1, entry.2, rfl⟩
  | none =>
    have isEmpty := last?_eq_none_iff.mp isLast
    have isHeld := holds.complete (by omega) given
    have positive := List.length_pos_of_mem isHeld
    rw [keys, List.length_map, ← size, isEmpty] at positive
    cases positive

end HoldsGreatest

end OrderedMap

/-! ## What storing and removing snapshots changes -/

namespace EntryStore

variable {store before between after : EntryStore} {key : StreamKey}

/-- Two stores differ at most in the snapshots of one history. -/
structure AgreesBeside (key : StreamKey) (before after : EntryStore) : Prop where
  log : after.log = before.log
  index : after.index = before.index
  eventIds : after.eventIds = before.eventIds
  snapshots (other : StreamKey) : other ≠ key →
    after.snapshotsOf other = before.snapshotsOf other

namespace AgreesBeside

theorem refl (key : StreamKey) (store : EntryStore) : AgreesBeside key store store :=
  ⟨rfl, rfl, rfl, fun _ _ => rfl⟩

theorem trans (first : AgreesBeside key before between) (second : AgreesBeside key between after) :
    AgreesBeside key before after where
  log := second.log.trans first.log
  index := second.index.trans first.index
  eventIds := second.eventIds.trans first.eventIds
  snapshots other different := (second.snapshots other different).trans
    (first.snapshots other different)

theorem persistSnapshot (store : EntryStore) (entry : Entry) :
    AgreesBeside entry.streamKey store (store.persistSnapshot entry) where
  log := rfl
  index := rfl
  eventIds := rfl
  snapshots other different := by simp [EntryStore.persistSnapshot, snapshotsOf, different]

theorem pruneSnapshots (store : EntryStore) (key : StreamKey) (keep : Nat) :
    AgreesBeside key store (store.pruneSnapshots key keep).2 := by
  unfold EntryStore.pruneSnapshots
  cases store.snapshots.get? key with
  | none => exact refl key store
  | some snapshots =>
    refine ⟨rfl, rfl, rfl, ?_⟩
    intro other different
    simp [snapshotsOf, different]

end AgreesBeside

/-- The snapshots of a history among which those to be kept are chosen when an entry is
stored under a number: the entry, and the old ones of other numbers. -/
def candidate? (store : EntryStore) (key : StreamKey) (entry : Entry) (added number : Nat) :
    Option Entry :=
  if number = added then some entry else (store.snapshotsOf key).get? number

theorem snapshotsOf_pruneSnapshots (store : EntryStore) (key : StreamKey) (keep : Nat) :
    (store.pruneSnapshots key keep).2.snapshotsOf key =
      (store.snapshotsOf key).drop ((store.snapshotsOf key).size - keep) := by
  unfold pruneSnapshots
  cases kept : store.snapshots.get? key with
  | none => simp only [snapshotsOf, kept, Option.getD_none, OrderedMap.drop, OrderedMap.empty,
      List.drop_nil]
  | some snapshots => simp only [snapshotsOf, kept, Table.get?_put, ↓reduceIte, Option.getD_some]

section HoldsGreatest

variable {limit : Nat} {value? : Nat → Option Entry}
  (holds : (store.snapshotsOf key).HoldsGreatest limit value?)

include holds

theorem lastSnapshot?_of_limit_eq_zero (nothing : limit = 0) : store.lastSnapshot? key = none := by
  have bound := holds.size_le
  rw [lastSnapshot?, OrderedMap.last?_eq_none_iff.mpr (by omega), Option.map_none]

theorem exists_lastSnapshot? (allowed : 1 ≤ limit) {number : Nat}
    (given : (value? number).isSome) :
    ∃ greatest latest, store.lastSnapshot? key = some latest ∧ value? greatest = some latest ∧
      ∀ other, (value? other).isSome → other ≤ greatest := by
  obtain ⟨greatest, latest, isLast⟩ := holds.exists_last? allowed given
  refine ⟨greatest, latest, ?_, holds.greatest_of_last? isLast⟩
  rw [lastSnapshot?, isLast, Option.map_some]

end HoldsGreatest

end EntryStore

namespace Backend

variable {backend : Backend} {operation other : StorageOperation} {error : StorageError}

/-! ## Calls that pass and calls that fail -/

/-- The next call of an operation does not fail. -/
def Passes (backend : Backend) (operation : StorageOperation) : Prop :=
  (backend.attempt operation).1 = none

/-- The next call of an operation fails. -/
def FailsWith (backend : Backend) (operation : StorageOperation) (error : StorageError) : Prop :=
  (backend.attempt operation).1 = some error

theorem Reliable.passes (reliable : backend.Reliable) (operation : StorageOperation) :
    backend.Passes operation := by
  rw [Passes, reliable.attempt]

theorem passes_or_failsWith (backend : Backend) (operation : StorageOperation) :
    backend.Passes operation ∨ ∃ error, backend.FailsWith operation error := by
  unfold Passes FailsWith
  cases (backend.attempt operation).1 with
  | none => exact .inl rfl
  | some error => exact .inr ⟨error, rfl⟩

/-- Whether a call fails depends on the failures planned for its own operation. -/
theorem fst_attempt_congr {another : Backend}
    (same : another.faults.get? operation = backend.faults.get? operation) :
    (another.attempt operation).1 = (backend.attempt operation).1 := by
  unfold attempt
  rw [same]
  split
  · rfl
  · split
    · rfl
    · split <;> rfl

theorem get?_faults_attempt (different : other ≠ operation) (backend : Backend) :
    (backend.attempt operation).2.faults.get? other = backend.faults.get? other := by
  unfold attempt plan
  split
  · rfl
  · split
    · simp [different]
    · split
      · simp [different]
      · rfl

theorem Passes.exists_attempt_eq (passes : backend.Passes operation) :
    ∃ after, backend.attempt operation = (none, after) ∧ after.entries = backend.entries ∧
      ∀ other, other ≠ operation → after.faults.get? other = backend.faults.get? other :=
  ⟨_, Prod.ext passes rfl, entries_attempt operation backend,
    fun _ different => get?_faults_attempt different backend⟩

theorem FailsWith.exists_attempt_eq (fails : backend.FailsWith operation error) :
    ∃ after, backend.attempt operation = (some error, after) ∧
      after.entries = backend.entries :=
  ⟨_, Prod.ext fails rfl, entries_attempt operation backend⟩

theorem Passes.persistSnapshot (passes : backend.Passes .persistSnapshot) (entry : Entry) :
    ∃ after, backend.persistSnapshot entry = (.ok (), after) ∧
      after.entries = backend.entries.persistSnapshot entry ∧
      ∀ other, other ≠ .persistSnapshot →
        after.faults.get? other = backend.faults.get? other := by
  obtain ⟨after, attempted, unchanged, faults⟩ := passes.exists_attempt_eq
  refine ⟨{ after with entries := backend.entries.persistSnapshot entry }, ?_, rfl, faults⟩
  simp only [Backend.persistSnapshot, attempted, unchanged]

theorem FailsWith.persistSnapshot (fails : backend.FailsWith .persistSnapshot error)
    (entry : Entry) :
    ∃ after, backend.persistSnapshot entry = (.error error, after) ∧
      after.entries = backend.entries := by
  obtain ⟨after, attempted, unchanged⟩ := fails.exists_attempt_eq
  refine ⟨after, ?_, unchanged⟩
  simp only [Backend.persistSnapshot, attempted]

theorem Passes.pruneSnapshots (passes : backend.Passes .pruneSnapshots) (key : StreamKey)
    (keep : Nat) :
    (backend.pruneSnapshots key keep).2.entries = (backend.entries.pruneSnapshots key keep).2 := by
  obtain ⟨after, attempted, unchanged, -⟩ := passes.exists_attempt_eq
  simp only [Backend.pruneSnapshots, attempted, unchanged]

theorem FailsWith.pruneSnapshots (fails : backend.FailsWith .pruneSnapshots error)
    (key : StreamKey) (keep : Nat) :
    (backend.pruneSnapshots key keep).2.entries = backend.entries := by
  obtain ⟨after, attempted, unchanged⟩ := fails.exists_attempt_eq
  simp only [Backend.pruneSnapshots, attempted, unchanged]

theorem pruneSnapshots_cases (backend : Backend) (key : StreamKey) (keep : Nat) :
    (backend.pruneSnapshots key keep).2.entries = (backend.entries.pruneSnapshots key keep).2 ∨
      (backend.pruneSnapshots key keep).2.entries = backend.entries := by
  rcases backend.passes_or_failsWith .pruneSnapshots with passes | ⟨error, fails⟩
  · exact .inl (passes.pruneSnapshots key keep)
  · exact .inr (fails.pruneSnapshots key keep)

theorem agreesBeside_pruneSnapshots (backend : Backend) (key : StreamKey) (keep : Nat) :
    backend.entries.AgreesBeside key (backend.pruneSnapshots key keep).2.entries := by
  rcases backend.pruneSnapshots_cases key keep with pruned | kept
  · rw [pruned]
    exact .pruneSnapshots backend.entries key keep
  · rw [kept]
    exact .refl key backend.entries

theorem filed_pruneSnapshots (filed : backend.entries.Filed) (key : StreamKey) (keep : Nat) :
    (backend.pruneSnapshots key keep).2.entries.Filed := by
  rcases backend.pruneSnapshots_cases key keep with pruned | kept
  · rw [pruned]
    exact filed.pruneSnapshots key keep
  · rw [kept]
    exact filed

end Backend

namespace EventStore

variable {Payload : Type} [DocumentFamily Payload] {store : EventStore Payload}
  {aggregateType : String} {snapshot : DomainEvent Payload} {backend : Backend}

theorem appendSnapshot_of_error {error : DocumentError}
    (unwritten : store.codec.encode aggregateType snapshot = .error error) :
    store.appendSnapshot aggregateType snapshot backend = (.error (.document error), backend) := by
  simp only [appendSnapshot, unwritten]

section Written

variable {entry : Entry} (written : store.codec.encode aggregateType snapshot = .ok entry)

include written

theorem streamKey_of_encode : entry.streamKey = ⟨aggregateType, snapshot.aggregateId⟩ := by
  obtain ⟨document, -, rfl⟩ := EventCodec.encode_eq_ok_iff.mp written
  rfl

theorem sequenceNumber_of_encode : entry.sequenceNumber = snapshot.sequenceNumber := by
  obtain ⟨document, -, rfl⟩ := EventCodec.encode_eq_ok_iff.mp written
  rfl

theorem appendSnapshot_of_failsWith {error : StorageError}
    (fails : backend.FailsWith .persistSnapshot error) :
    (store.appendSnapshot aggregateType snapshot backend).1 = .error (.ofStorage error) ∧
      (store.appendSnapshot aggregateType snapshot backend).2.entries = backend.entries := by
  obtain ⟨after, refused, unchanged⟩ := fails.persistSnapshot entry
  simp only [appendSnapshot, written, refused, unchanged, and_self]

/-- When the backend has taken a snapshot the archive consists of the candidates, and nothing
else has changed; it remains to remove the oldest ones. -/
theorem appendSnapshot_of_passes (passes : backend.Passes .persistSnapshot) :
    let key : StreamKey := ⟨aggregateType, snapshot.aggregateId⟩
    ∃ stored : Backend,
      store.appendSnapshot aggregateType snapshot backend =
        (.ok (), (stored.pruneSnapshots key store.config.maxSnapshots).2) ∧
      (stored.entries.snapshotsOf key).get? =
        backend.entries.candidate? key entry snapshot.sequenceNumber ∧
      backend.entries.AgreesBeside key stored.entries ∧
      (backend.entries.Filed → stored.entries.Filed) ∧
      (stored.attempt .pruneSnapshots).1 = (backend.attempt .pruneSnapshots).1 := by
  intro key
  have own : entry.streamKey = key := streamKey_of_encode written
  obtain ⟨stored, accepted, added, faults⟩ := passes.persistSnapshot entry
  refine ⟨stored, ?_, ?_, ?_, ?_, Backend.fst_attempt_congr (faults _ (by decide))⟩
  · simp only [appendSnapshot, written, accepted, key]
  · funext number
    rw [added, EntryStore.get?_snapshotsOf_persistSnapshot, own, sequenceNumber_of_encode written]
    simp only [true_and, EntryStore.candidate?]
  · rw [added, ← own]
    exact .persistSnapshot backend.entries entry
  · intro filed
    rw [added]
    exact filed.persistSnapshot entry

end Written

/-- What storing a snapshot does, whatever the store holds.  If the snapshot cannot be
written, it does nothing at all.  If the backend takes it, the call succeeds, and beside
the archive of its history nothing changes.  If the backend, as one in memory always does
(`Backend.Reliable.passes`), also removes the oldest ones, the archive holds the greatest
numbers among the old snapshots and the new one, which has taken the place of one with
its number, and no other archive does; the one that is loaded next is then the greatest
of all.  If removing them fails, the archive holds all of them. -/
theorem appendSnapshot_archives (store : EventStore Payload) (aggregateType : String)
    (snapshot : DomainEvent Payload) (backend : Backend) :
    let key : StreamKey := ⟨aggregateType, snapshot.aggregateId⟩
    let limit := store.config.maxSnapshots
    let result := store.appendSnapshot aggregateType snapshot backend
    let entries := result.2.entries
    (∀ error, store.codec.encode aggregateType snapshot = .error error →
      result = (.error (.document error), backend)) ∧
    ∀ entry, store.codec.encode aggregateType snapshot = .ok entry →
      let candidate? := backend.entries.candidate? key entry snapshot.sequenceNumber
      (∀ error, backend.FailsWith .persistSnapshot error →
        result.1 = .error (.ofStorage error) ∧ entries = backend.entries) ∧
      (backend.Passes .persistSnapshot →
        result.1 = .ok () ∧ backend.entries.AgreesBeside key entries ∧
        (backend.entries.Filed → entries.Filed) ∧
        (backend.Passes .pruneSnapshots →
          (∀ archive, entries.snapshotsOf key = archive ↔
            archive.HoldsGreatest limit candidate?) ∧
          entries.snapshotCount key ≤ limit ∧
          (limit = 0 → entries.lastSnapshot? key = none) ∧
          (1 ≤ limit → ∃ greatest latest, entries.lastSnapshot? key = some latest ∧
            candidate? greatest = some latest ∧
            ∀ number, (candidate? number).isSome → number ≤ greatest)) ∧
        ∀ error, backend.FailsWith .pruneSnapshots error →
          ∀ number, (entries.snapshotsOf key).get? number = candidate? number) := by
  intro key limit result entries
  refine ⟨fun error unwritten => appendSnapshot_of_error unwritten, ?_⟩
  intro entry written candidate?
  refine ⟨fun error fails => appendSnapshot_of_failsWith written fails, ?_⟩
  intro passes
  obtain ⟨stored, isResult, archives, beside, filed, sameFault⟩ :=
    appendSnapshot_of_passes written passes
  have archived : (stored.entries.snapshotsOf key).get? = candidate? := archives
  have isEntries : entries = (stored.pruneSnapshots key limit).2.entries :=
    congrArg (fun result => result.2.entries) isResult
  refine ⟨congrArg Prod.fst isResult, ?_, ?_, ?_, ?_⟩
  · rw [isEntries]
    exact beside.trans (stored.agreesBeside_pruneSnapshots key limit)
  · intro filedBefore
    rw [isEntries]
    exact Backend.filed_pruneSnapshots (filed filedBefore) key limit
  · intro prunes
    have storedPrunes : stored.Passes .pruneSnapshots := sameFault.trans prunes
    have holds : (entries.snapshotsOf key).HoldsGreatest limit candidate? := by
      rw [isEntries, storedPrunes.pruneSnapshots, EntryStore.snapshotsOf_pruneSnapshots,
        ← archived]
      exact .of_drop (stored.entries.snapshotsOf key) limit
    have given : (candidate? snapshot.sequenceNumber).isSome := by
      simp only [candidate?, EntryStore.candidate?, ↓reduceIte, Option.isSome_some]
    refine ⟨?_, holds.size_le, EntryStore.lastSnapshot?_of_limit_eq_zero holds, ?_⟩
    · intro archive
      constructor
      · rintro rfl
        exact holds
      · exact holds.unique
    · intro allowed
      exact EntryStore.exists_lastSnapshot? holds allowed given
  · intro error fails number
    have storedFails : stored.FailsWith .pruneSnapshots error := sameFault.trans fails
    rw [isEntries, storedFails.pruneSnapshots, archived]

end EventStore

namespace Meter

def readingEvent (number : Nat) : DomainEvent MeterPayload :=
  .ofStamp ⟨EventId.ofNat number, default⟩ ⟨"m"⟩ number (.reading {}) .empty

/-- The backend in which readings of the meter "m" are archived, all of them. -/
def archived (numbers : List Nat) : Backend :=
  numbers.foldl (fun backend number =>
    (((EventStore.ofSerializer serializer).withMaxSnapshots numbers.length).appendSnapshot
      "Meter" (readingEvent number) backend).2) .empty

/-- An archive has grown too large, and a reading comes late: it is not kept, and the
oldest one is removed, too.  If the backend cannot remove any, all of them are there. -/
theorem appendSnapshot_archives_late_reading :
    let store := (EventStore.ofSerializer serializer).withMaxSnapshots 2
    let key : StreamKey := ⟨"Meter", ⟨"m"⟩⟩
    let backend := archived [9, 1, 5]
    let failing := backend.plan .pruneSnapshots ⟨0, 1, .backend "locked"⟩
    let result := store.appendSnapshot "Meter" (readingEvent 3) backend
    let unpruned := store.appendSnapshot "Meter" (readingEvent 3) failing
    backend.Reliable ∧ result.1 = .ok () ∧
      backend.entries.AgreesBeside key result.2.entries ∧
      result.2.entries.snapshotCount key ≤ 2 ∧
      (result.2.entries.snapshotsOf key).keys = [5, 9] ∧
      unpruned.1 = .ok () ∧
      ∀ number ∈ [1, 3, 5, 9], ((unpruned.2.entries.snapshotsOf key).get? number).isSome := by
  intro store key backend failing result unpruned
  obtain ⟨-, archives⟩ := store.appendSnapshot_archives "Meter" (readingEvent 3) backend
  obtain ⟨-, taken⟩ := archives _ rfl
  have reliable : backend.Reliable := fun _ => rfl
  obtain ⟨answered, beside, -, pruned, -⟩ := taken (reliable.passes _)
  obtain ⟨-, atMost, -, -⟩ := pruned (reliable.passes _)
  obtain ⟨-, failingArchives⟩ := store.appendSnapshot_archives "Meter" (readingEvent 3) failing
  obtain ⟨-, failingTaken⟩ := failingArchives _ rfl
  obtain ⟨failingAnswered, -, -, -, remain⟩ := failingTaken rfl
  refine ⟨reliable, answered, beside, atMost, by decide, failingAnswered, ?_⟩
  intro number listed
  have unchanged : (unpruned.2.entries.snapshotsOf key).get? number = _ := remain _ rfl number
  rw [unchanged]
  revert number
  decide

end Meter

end EventSourcing
