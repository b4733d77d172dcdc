import EventSourcing.Proofs.Storage.AtomicBatches

/-!
# Tailing the log

A reader that keeps the token of the last entry it has received can go on behind it at
any time, while others store batches, take snapshots and remove them.  Entries are only
ever put behind the others (`Backend.tracked_change`), so a token stays with its entry,
and what the reader has received is at every moment the front part of the log that its
token counts, without gaps and repetitions (`Tailing.run_receives`).
-/

namespace EventSourcing

/-- All entries in the order of storing, with their tokens. -/
def EntryStore.tracked (entries : EntryStore) : List TrackedEntry :=
  entries.log.toList.zipIdx.map fun placed => ⟨⟨placed.2 + 1⟩, placed.1⟩

namespace EntryStore

theorem mem_log_of_mem_tracked {entries : EntryStore} {record : TrackedEntry}
    (listed : record ∈ entries.tracked) : record.entry ∈ entries.log := by
  obtain ⟨⟨entry, place⟩, isPlaced, rfl⟩ := List.mem_map.mp listed
  exact Array.mem_toList_iff.mp (List.fst_mem_of_mem_zipIdx isPlaced)

/-- The token of a record counts the records up to it. -/
theorem token_of_tracked_eq {entries : EntryStore} {front back : List TrackedEntry}
    {record : TrackedEntry} (split : entries.tracked = front ++ record :: back) :
    record.token.index = front.length + 1 := by
  have standing : entries.tracked[front.length]? = some record := by
    rw [split, List.getElem?_append_right (Nat.le_refl _), Nat.sub_self, List.getElem?_cons_zero]
  simp only [tracked, List.getElem?_map, List.getElem?_zipIdx, Option.map_map,
    Option.map_eq_some_iff, Function.comp_apply] at standing
  obtain ⟨entry, -, rfl⟩ := standing
  simp

theorem fetchTracked_eq (entries : EntryStore) (after : Option TrackingToken) (limit : Nat) :
    entries.fetchTracked after limit =
      (entries.tracked.drop (after.elim 0 TrackingToken.index)).take limit := by
  cases after <;> simp [fetchTracked, tracked, List.map_take, List.map_drop]

end EntryStore

/-! ## A log that grows -/

namespace EntryStore

variable {entries later : EntryStore} {batch : List Entry}

@[simp] theorem map_entry_tracked (entries : EntryStore) :
    entries.tracked.map TrackedEntry.entry = entries.log.toList := by
  simp [tracked, List.map_map, Function.comp_def]

/-- Tokens grow with the log. -/
theorem tracked_ascending (entries : EntryStore) :
    entries.tracked.Pairwise fun record later => record.token.index < later.token.index := by
  have places : (entries.log.toList.zipIdx.map Prod.snd).Pairwise (· < ·) := by
    rw [List.zipIdx_map_snd]
    exact List.pairwise_lt_range'
  refine List.pairwise_map.mpr ((List.pairwise_map.mp places).imp ?_)
  intro placed later before
  exact Nat.succ_lt_succ before

/-- Entries that are put behind the others leave them where they are. -/
theorem tracked_prefix (grown : later.log.toList = entries.log.toList ++ batch) :
    entries.tracked <+: later.tracked := by
  unfold tracked
  rw [grown, List.zipIdx_append, List.map_append]
  exact List.prefix_append _ _

/-- An entry stands in the log once, and so does its identity. -/
theorem Coherent.tracked_unique (coherent : entries.Coherent) {record other : TrackedEntry}
    (listed : record ∈ entries.tracked) (otherListed : other ∈ entries.tracked)
    (same : record.entry.eventId = other.entry.eventId) : record = other := by
  have distinct : (entries.tracked.map fun record => record.entry.eventId).Nodup := by
    have ids : (entries.tracked.map fun record => record.entry.eventId) =
        entries.log.toList.map Entry.eventId := by
      rw [← map_entry_tracked, List.map_map]
      rfl
    rw [ids, List.Nodup, List.pairwise_map]
    exact coherent.apart.imp fun apart sameId => apart (.inr sameId)
  exact List.inj_on_of_nodup_map distinct listed otherListed same

theorem mem_tracked_of_fetched {after : Option TrackingToken} {limit : Nat}
    {record : TrackedEntry} (fetched : record ∈ entries.fetchTracked after limit) :
    record ∈ entries.tracked := by
  rw [fetchTracked_eq] at fetched
  exact List.mem_of_mem_drop (List.mem_of_mem_take fetched)

end EntryStore

namespace Backend

variable {backend : Backend}

/-- A change stores a batch as a whole, or concerns snapshots at most. -/
theorem entries_change_cases (backend : Backend) (change : StorageChange) :
    (∃ snapshots, (backend.change change).entries = { backend.entries with snapshots }) ∨
      ∃ batch, backend.entries.persist batch = .ok (backend.change change).entries := by
  cases change with
  | persist batch =>
    rcases backend.persist_cases batch with
      ⟨error, after, refused, unchanged⟩ | ⟨after, stored, persisted⟩
    · refine .inl ⟨backend.entries.snapshots, ?_⟩
      simp only [change, refused, unchanged]
    · refine .inr ⟨batch, ?_⟩
      simp only [change, stored, persisted]
  | persistSnapshot entry => exact .inl (entries_persistSnapshot entry backend)
  | pruneSnapshots key keep => exact .inl (entries_pruneSnapshots key keep backend)

theorem tracked_change (backend : Backend) (change : StorageChange) :
    backend.entries.tracked <+: (backend.change change).entries.tracked := by
  rcases backend.entries_change_cases change with ⟨snapshots, changed⟩ | ⟨batch, persisted⟩
  · rw [changed]
    exact List.prefix_refl _
  · rw [(EntryStore.persist_eq_ok_iff.mp persisted).2]
    exact EntryStore.tracked_prefix (EntryStore.toList_log_pushAll backend.entries batch)

theorem coherent_change (coherent : backend.entries.Coherent) (change : StorageChange) :
    (backend.change change).entries.Coherent := by
  rcases backend.entries_change_cases change with ⟨snapshots, changed⟩ | ⟨batch, persisted⟩
  · rw [changed]
    exact coherent.withSnapshots snapshots
  · obtain ⟨free, stored⟩ := EntryStore.persist_eq_ok_iff.mp persisted
    rw [stored]
    exact coherent.pushAll (coherent.consistent.conflict?_eq_none_iff.mp free)

/-- Entries are fetched behind a token, or the call has failed. -/
theorem fetchTracked_cases (backend : Backend) (after : Option TrackingToken) (limit : Nat) :
    (∃ error, (backend.fetchTracked after limit).1 = .error error) ∨
      (backend.fetchTracked after limit).1 = .ok (backend.entries.fetchTracked after limit) := by
  have unchanged := entries_attempt .fetchTracked backend
  rcases attempted : backend.attempt .fetchTracked with ⟨_ | error, next⟩
  · have same : next.entries = backend.entries := by rwa [attempted] at unchanged
    refine .inr ?_
    simp only [fetchTracked, query, attempted, same]
  · refine .inl ⟨error, ?_⟩
    simp only [fetchTracked, query, attempted]

end Backend

/-! ## A reader beside the writers -/

/-- A backend, and what a reader of its log has received. -/
structure Tailing where
  backend : Backend
  received : List TrackedEntry := []

/-- What may happen next: somebody asks for a change, a call is made to fail later on, or
the reader asks for entries. -/
inductive TailingStep where
  | change (change : StorageChange)
  | plan (operation : StorageOperation) (fault : Fault)
  | poll (limit : Nat)

namespace Tailing

def start : Tailing := { backend := .empty }

/-- The token of the last entry received. -/
def token? (tailing : Tailing) : Option TrackingToken :=
  tailing.received.getLast?.map TrackedEntry.token

/-- How many entries a reader has seen who holds the token. -/
def place (tailing : Tailing) : Nat := tailing.token?.elim 0 TrackingToken.index

/-- The reader asks for entries behind its token; after a failure it may ask again. -/
def poll (tailing : Tailing) (limit : Nat) : Tailing :=
  match tailing.backend.fetchTracked tailing.token? limit with
  | (.error _, backend) => { tailing with backend }
  | (.ok page, backend) => { backend, received := tailing.received ++ page }

def step (tailing : Tailing) : TailingStep → Tailing
  | .change change => { tailing with backend := tailing.backend.change change }
  | .plan operation fault => { tailing with backend := tailing.backend.plan operation fault }
  | .poll limit => tailing.poll limit

def run (tailing : Tailing) (steps : List TailingStep) : Tailing := steps.foldl step tailing

variable {tailing : Tailing}

/-- The entries received are the front part of the log that the token counts. -/
structure KeepsUp (tailing : Tailing) : Prop where
  coherent : tailing.backend.entries.Coherent
  received : tailing.received <+: tailing.backend.entries.tracked

theorem keepsUp_start : start.KeepsUp := ⟨EntryStore.coherent_empty, List.prefix_refl _⟩

theorem KeepsUp.place_eq (keepsUp : tailing.KeepsUp) :
    tailing.place = tailing.received.length := by
  obtain ⟨rest, split⟩ := keepsUp.received
  rcases List.eq_nil_or_concat tailing.received with nothing | ⟨front, record, isLast⟩
  · simp [place, token?, nothing]
  · rw [List.concat_eq_append] at isLast
    rw [isLast, List.append_assoc, List.singleton_append] at split
    have counted := EntryStore.token_of_tracked_eq split.symm
    simp [place, token?, isLast, counted]

theorem KeepsUp.received_eq (keepsUp : tailing.KeepsUp) :
    tailing.received = tailing.backend.entries.tracked.take tailing.place := by
  rw [keepsUp.place_eq]
  exact List.prefix_iff_eq_take.mp keepsUp.received

/-- A poll changes nothing that is stored.  If it does not fail, the reader receives the
next entries. -/
theorem KeepsUp.poll_cases (keepsUp : tailing.KeepsUp) (limit : Nat) :
    (tailing.poll limit).backend.entries = tailing.backend.entries ∧
      ((∃ error, (tailing.backend.fetchTracked tailing.token? limit).1 = .error error) ∧
          (tailing.poll limit).received = tailing.received ∨
        (tailing.poll limit).received =
          tailing.backend.entries.tracked.take (tailing.place + limit)) := by
  have unchanged : (tailing.backend.fetchTracked tailing.token? limit).2.entries =
      tailing.backend.entries := Backend.entries_query _ _ _
  have answered := tailing.backend.fetchTracked_cases tailing.token? limit
  rcases fetched : tailing.backend.fetchTracked tailing.token? limit with ⟨error | page, after⟩
  · rw [fetched] at unchanged
    simp only [poll, fetched]
    exact ⟨unchanged, .inl ⟨⟨error, rfl⟩, trivial⟩⟩
  · rw [fetched] at unchanged answered
    obtain ⟨error, failed⟩ | isPage := answered
    · cases failed
    · obtain rfl := Except.ok.inj isPage
      simp only [poll, fetched]
      refine ⟨unchanged, .inr ?_⟩
      rw [List.take_add, ← keepsUp.received_eq, EntryStore.fetchTracked_eq]
      rfl

theorem KeepsUp.step (keepsUp : tailing.KeepsUp) (step : TailingStep) :
    (tailing.step step).KeepsUp := by
  cases step with
  | change change =>
    exact ⟨Backend.coherent_change keepsUp.coherent change,
      keepsUp.received.trans (tailing.backend.tracked_change change)⟩
  | plan operation fault => exact ⟨keepsUp.coherent, keepsUp.received⟩
  | poll limit =>
    obtain ⟨unchanged, outcome⟩ := keepsUp.poll_cases limit
    refine ⟨?_, ?_⟩
    · simpa only [Tailing.step, unchanged] using keepsUp.coherent
    · simp only [Tailing.step, unchanged]
      obtain ⟨-, nothingNew⟩ | received := outcome
      · rw [nothingNew]
        exact keepsUp.received
      · rw [received]
        exact List.take_prefix _ _

theorem KeepsUp.run (keepsUp : tailing.KeepsUp) (steps : List TailingStep) :
    (tailing.run steps).KeepsUp := by
  induction steps generalizing tailing with
  | nil => exact keepsUp
  | cons step rest ih => exact ih (keepsUp.step step)

/-- Nothing that happens moves an entry of the log. -/
theorem KeepsUp.tracked_step (keepsUp : tailing.KeepsUp) (step : TailingStep) :
    tailing.backend.entries.tracked <+: (tailing.step step).backend.entries.tracked := by
  cases step with
  | change change => exact tailing.backend.tracked_change change
  | plan operation fault => exact List.prefix_refl _
  | poll limit =>
    have unchanged := (keepsUp.poll_cases limit).1
    simp only [Tailing.step, unchanged]
    exact List.prefix_refl _

theorem KeepsUp.tracked_run (keepsUp : tailing.KeepsUp) (steps : List TailingStep) :
    tailing.backend.entries.tracked <+: (tailing.run steps).backend.entries.tracked := by
  induction steps generalizing tailing with
  | nil => exact List.prefix_refl _
  | cons step rest ih => exact (keepsUp.tracked_step step).trans (ih (keepsUp.step step))

/-- However stored batches, refused ones, snapshots, failures and polls of any size come
one after another: the reader has received the front part of the log up to its token, each
entry once and with growing tokens, and a poll that does not fail brings it the next
entries.  Whoever asks, now or later, finds an entry under the same token. -/
theorem run_receives (steps : List TailingStep) :
    let tailing := start.run steps
    let entries := tailing.backend.entries
    tailing.received.map TrackedEntry.entry = entries.log.toList.take tailing.place ∧
    tailing.place = tailing.received.length ∧
    (tailing.received.map TrackedEntry.entry).Nodup ∧
    (tailing.received.Pairwise fun record later => record.token.index < later.token.index) ∧
    (∀ limit,
      (∃ error, (tailing.backend.fetchTracked tailing.token? limit).1 = .error error) ∧
          (tailing.poll limit).received = tailing.received ∨
        (tailing.poll limit).received.map TrackedEntry.entry =
          entries.log.toList.take (tailing.place + limit)) ∧
    ∀ moreSteps after limit laterAfter laterLimit,
      ∀ record ∈ entries.fetchTracked after limit,
      ∀ again ∈ (tailing.run moreSteps).backend.entries.fetchTracked laterAfter laterLimit,
        record.entry.eventId = again.entry.eventId → record = again := by
  intro tailing entries
  have keepsUp : tailing.KeepsUp := keepsUp_start.run steps
  have entriesOfFront (count : Nat) :
      (entries.tracked.take count).map TrackedEntry.entry = entries.log.toList.take count := by
    rw [List.map_take, EntryStore.map_entry_tracked]
  have isFront : tailing.received.map TrackedEntry.entry = entries.log.toList.take tailing.place :=
    keepsUp.received_eq ▸ entriesOfFront tailing.place
  refine ⟨isFront, keepsUp.place_eq, ?_, ?_, ?_, ?_⟩
  · rw [isFront]
    refine List.Nodup.sublist (List.take_sublist _ _) (keepsUp.coherent.apart.imp ?_)
    rintro entry _ apart rfl
    exact apart (.inr rfl)
  · exact entries.tracked_ascending.sublist keepsUp.received.sublist
  · intro limit
    refine (keepsUp.poll_cases limit).2.imp_right fun received => ?_
    rw [received, entriesOfFront]
  · intro moreSteps after limit laterAfter laterLimit record fetched again fetchedAgain same
    have listed : record ∈ (tailing.run moreSteps).backend.entries.tracked :=
      (keepsUp.tracked_run moreSteps).subset (EntryStore.mem_tracked_of_fetched fetched)
    exact (keepsUp.run moreSteps).coherent.tracked_unique listed
      (EntryStore.mem_tracked_of_fetched fetchedAgain) same

end Tailing

end EventSourcing
