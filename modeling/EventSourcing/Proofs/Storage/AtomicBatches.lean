import EventSourcing.Proofs.Storage.Reliability

/-!
# Whole batches or nothing

Whatever batches, snapshots and prunings an empty store has gone through, its index
and its identities say what stands in the log, and no two entries of the log have the
same place in a history or the same identity (`EntryStore.Coherent`).  The check in
front of a batch finds every clash with a stored entry and within the batch
(`EntryStore.Consistent.conflict?_eq_none_iff`), so a batch without clashes is stored
as it is, and any other one leaves everything as it was.
-/

namespace EventSourcing

/-- Entries that cannot stand in one log: they have the same place in a history, or the
same identity. -/
def Entry.Clashes (first second : Entry) : Prop :=
  (first.streamKey = second.streamKey ∧ first.sequenceNumber = second.sequenceNumber) ∨
    first.eventId = second.eventId

namespace EntryStore

variable {store : EntryStore} {entry : Entry} {batch : List Entry}

/-- No entry of a batch clashes with a stored one or with an earlier one of the batch. -/
def Fits (store : EntryStore) (batch : List Entry) : Prop :=
  ∀ front entry back, batch = front ++ entry :: back →
    ∀ other ∈ store.log.toList ++ front, ¬other.Clashes entry

theorem fits_nil (store : EntryStore) : store.Fits [] := by
  intro front entry back split
  simp at split

theorem fits_cons_iff :
    store.Fits (entry :: batch) ↔
      (∀ other ∈ store.log.toList, ¬other.Clashes entry) ∧ (store.push entry).Fits batch := by
  constructor
  · intro fits
    constructor
    · intro other stored
      exact fits [] entry batch rfl other (List.mem_append_left [] stored)
    · intro front next back split other earlier
      apply fits (entry :: front) next back (by rw [split, List.cons_append])
      simpa [toList_log_push] using earlier
  · rintro ⟨first, rest⟩ front next back split other earlier
    cases front with
    | nil =>
      obtain ⟨rfl, rfl⟩ := List.cons.inj split
      exact first other (by simpa using earlier)
    | cons head front =>
      obtain ⟨rfl, restSplit⟩ := List.cons.inj split
      apply rest front next back restSplit
      simpa [toList_log_push] using earlier

/-! ## The check of a batch -/

theorem Consistent.free_iff (consistent : store.Consistent) :
    (store.positions entry.streamKey).contains entry.sequenceNumber = false ∧
        entry.eventId ∉ store.eventIds ↔
      ∀ other ∈ store.log.toList, ¬other.Clashes entry := by
  have taken := consistent.contains_iff entry.streamKey entry.sequenceNumber
  rw [← Bool.not_eq_true, taken, consistent.identified]
  constructor
  · rintro ⟨freePosition, newIdentity⟩ other stored (⟨sameKey, sameNumber⟩ | sameId)
    · exact freePosition ⟨other, mem_history_iff.mpr ⟨stored, sameKey⟩, sameNumber⟩
    · apply newIdentity
      rw [List.mem_reverse, ← sameId]
      exact List.mem_map_of_mem stored
  · intro apart
    constructor
    · rintro ⟨other, inHistory, sameNumber⟩
      obtain ⟨stored, sameKey⟩ := mem_history_iff.mp inHistory
      exact apart other stored (.inl ⟨sameKey, sameNumber⟩)
    · intro used
      obtain ⟨other, stored, sameId⟩ := List.mem_map.mp (List.mem_reverse.mp used)
      exact apart other stored (.inr sameId)

/-- The check lets exactly those batches pass that fit. -/
theorem Consistent.conflict?_eq_none_iff (consistent : store.Consistent) :
    store.conflict? [] batch = none ↔ store.Fits batch := by
  induction batch generalizing store with
  | nil => exact ⟨fun _ => fits_nil store, fun _ => rfl⟩
  | cons entry rest ih =>
    rw [conflict?_cons_eq_none_iff, fits_cons_iff, ← consistent.free_iff, and_assoc]
    apply and_congr_right
    intro freePosition
    rw [ih (consistent.push freePosition)]

/-! ## Coherent stores -/

/-- Index and identities say what stands in the log, and no two entries of the log
clash. -/
structure Coherent (store : EntryStore) : Prop where
  consistent : store.Consistent
  apart : store.log.toList.Pairwise fun first second => ¬first.Clashes second

theorem coherent_empty : EntryStore.empty.Coherent :=
  ⟨consistent_empty, List.Pairwise.nil⟩

theorem Coherent.withSnapshots (coherent : store.Coherent)
    (snapshots : Table StreamKey (OrderedMap Nat Entry)) :
    ({ store with snapshots } : EntryStore).Coherent :=
  ⟨coherent.consistent.withSnapshots snapshots, coherent.apart⟩

theorem Coherent.push (coherent : store.Coherent)
    (free : ∀ other ∈ store.log.toList, ¬other.Clashes entry) : (store.push entry).Coherent := by
  constructor
  · exact coherent.consistent.push (coherent.consistent.free_iff.mpr free).1
  · rw [toList_log_push, List.pairwise_append]
    refine ⟨coherent.apart, List.pairwise_singleton _ entry, ?_⟩
    intro other stored next isEntry
    rw [List.mem_singleton.mp isEntry]
    exact free other stored

theorem Coherent.pushAll (coherent : store.Coherent) (fits : store.Fits batch) :
    (store.pushAll batch).Coherent := by
  induction batch generalizing store with
  | nil => exact coherent
  | cons entry rest ih =>
    obtain ⟨free, restFits⟩ := fits_cons_iff.mp fits
    exact ih (coherent.push free) restFits

/-- No two entries of a history have the same number. -/
theorem Coherent.nodup_sequenceNumber (coherent : store.Coherent) (key : StreamKey) :
    ((store.history key).map Entry.sequenceNumber).Nodup := by
  rw [List.Nodup, List.pairwise_map]
  refine (coherent.apart.filter _).imp_of_mem ?_
  intro entry later isEntry isLater apart sameNumber
  have sameKey := (mem_history_iff.mp isEntry).2.trans (mem_history_iff.mp isLater).2.symm
  exact apart (.inl ⟨sameKey, sameNumber⟩)

theorem Coherent.mem_eventIds_iff (coherent : store.Coherent) (id : EventId) :
    id ∈ store.eventIds ↔ ∃ entry ∈ store.log, entry.eventId = id := by
  rw [coherent.consistent.identified]
  simp

theorem Coherent.persist_of_fits (coherent : store.Coherent) (fits : store.Fits batch) :
    store.persist batch = .ok (store.pushAll batch) :=
  persist_eq_ok_iff.mpr ⟨coherent.consistent.conflict?_eq_none_iff.mpr fits, rfl⟩

theorem Coherent.persist_of_not_fits (coherent : store.Coherent) (clashes : ¬store.Fits batch) :
    ∃ conflict, store.persist batch = .error (.duplicateKey conflict) := by
  rw [← coherent.consistent.conflict?_eq_none_iff] at clashes
  obtain ⟨conflict, found⟩ := Option.ne_none_iff_exists'.mp clashes
  refine ⟨conflict, ?_⟩
  rw [persist, found]

end EntryStore

/-! ## Runs of changes -/

/-- What a backend can be asked to change. -/
inductive StorageChange where
  | persist (batch : List Entry)
  | persistSnapshot (entry : Entry)
  | pruneSnapshots (key : StreamKey) (keep : Nat)

namespace Backend

/-- The backend after it was asked for a change, which it may have refused. -/
def change (backend : Backend) : StorageChange → Backend
  | .persist batch => (backend.persist batch).2
  | .persistSnapshot entry => (backend.persistSnapshot entry).2
  | .pruneSnapshots key keep => (backend.pruneSnapshots key keep).2

def changeAll (backend : Backend) (changes : List StorageChange) : Backend :=
  changes.foldl change backend

/-- The backends that never fail and whose entries are coherent. -/
structure Sound (backend : Backend) : Prop where
  reliable : backend.Reliable
  coherent : backend.entries.Coherent

variable {backend : Backend} {batch : List Entry}

theorem sound_empty : Backend.empty.Sound :=
  ⟨reliable_empty, EntryStore.coherent_empty⟩

theorem Sound.persist_of_fits (sound : backend.Sound) (fits : backend.entries.Fits batch) :
    backend.persist batch =
      (.ok (), { backend with entries := backend.entries.pushAll batch }) :=
  sound.reliable.persist_of_ok (sound.coherent.persist_of_fits fits)

theorem Sound.persist_of_not_fits (sound : backend.Sound)
    (clashes : ¬backend.entries.Fits batch) :
    ∃ conflict, backend.persist batch = (.error (.duplicateKey conflict), backend) := by
  obtain ⟨conflict, refused⟩ := sound.coherent.persist_of_not_fits clashes
  exact ⟨conflict, sound.reliable.persist_of_error refused⟩

theorem Sound.persist (sound : backend.Sound) (batch : List Entry) :
    (backend.persist batch).2.Sound := by
  by_cases fits : backend.entries.Fits batch
  · rw [sound.persist_of_fits fits]
    exact ⟨sound.reliable, sound.coherent.pushAll fits⟩
  · obtain ⟨conflict, refused⟩ := sound.persist_of_not_fits fits
    rw [refused]
    exact sound

theorem Sound.change (sound : backend.Sound) (change : StorageChange) :
    (backend.change change).Sound := by
  cases change with
  | persist batch => exact sound.persist batch
  | persistSnapshot entry =>
    simp only [Backend.change, sound.reliable.persistSnapshot]
    exact ⟨sound.reliable, sound.coherent.withSnapshots _⟩
  | pruneSnapshots key keep =>
    obtain ⟨snapshots, pruned⟩ := backend.entries.pruneSnapshots_eq key keep
    simp only [Backend.change, sound.reliable.pruneSnapshots, pruned]
    exact ⟨sound.reliable, sound.coherent.withSnapshots snapshots⟩

theorem sound_changeAll (changes : List StorageChange) :
    (Backend.empty.changeAll changes).Sound := by
  have kept : ∀ {backend : Backend}, backend.Sound → (backend.changeAll changes).Sound := by
    induction changes with
    | nil => exact fun sound => sound
    | cons change rest ih => exact fun sound => ih (sound.change change)
  exact kept sound_empty

/-- In every state that changes lead to, the index leads to the entries of the log, the
identities are those of the log, and no two of its entries clash.  A batch is stored
exactly if it fits; the log is then continued by the batch.  Any other batch is refused
for a key that is taken, and nothing changes. -/
theorem representation_changeAll (changes : List StorageChange) :
    let backend := Backend.empty.changeAll changes
    let entries := backend.entries
    (∀ key number place, (entries.positions key).get? number = some place ↔
      ∃ entry, entries.log[place]? = some entry ∧ entry.streamKey = key ∧
        entry.sequenceNumber = number) ∧
    (∀ id, id ∈ entries.eventIds ↔ ∃ entry ∈ entries.log, entry.eventId = id) ∧
    (entries.log.toList.Pairwise fun first second => ¬first.Clashes second) ∧
    ∀ batch,
      ((backend.persist batch).1 = .ok () ↔ entries.Fits batch) ∧
      ((backend.persist batch).1 = .ok () →
        (backend.persist batch).2.entries.log.toList = entries.log.toList ++ batch) ∧
      ((backend.persist batch).1 ≠ .ok () →
        ∃ conflict, backend.persist batch = (.error (.duplicateKey conflict), backend)) := by
  intro backend entries
  have sound : backend.Sound := sound_changeAll changes
  refine ⟨sound.coherent.consistent.indexed, sound.coherent.mem_eventIds_iff,
    sound.coherent.apart, ?_⟩
  intro batch
  by_cases fits : entries.Fits batch
  · have stored := sound.persist_of_fits fits
    rw [stored]
    refine ⟨⟨fun _ => fits, fun _ => rfl⟩, fun _ => ?_, fun refused => absurd rfl refused⟩
    exact EntryStore.toList_log_pushAll entries batch
  · obtain ⟨conflict, refused⟩ := sound.persist_of_not_fits fits
    rw [refused]
    refine ⟨⟨nofun, fun fit => absurd fit fits⟩, nofun, fun _ => ⟨conflict, rfl⟩⟩

end Backend

end EventSourcing
