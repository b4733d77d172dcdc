import EventSourcing.Proofs.EventStore.PagedReading
import EventSourcing.Proofs.EventStore.RoundTrip
import EventSourcing.Proofs.Storage.AtomicBatches

/-!
# Reading a part of a history

The records of a history between two sequence numbers are read off the log alone
(`EntryStore.recordsBetween`).  What `EventStore.readRange` delivers are the events of
these records, or the error of the first of them that cannot be read, for every batch
size (`EventStore.readRange_withBatchSize`).  How other entries would read does not
matter.
-/

namespace EventSourcing

theorem pairwise_mergeSort_number {Item : Type} (number : Item → Nat) (items : List Item) :
    (items.mergeSort fun first second => number first ≤ number second).Pairwise
      fun first second => number first ≤ number second := by
  have pairwise : (items.mergeSort fun first second => number first ≤ number second).Pairwise
      fun first second => decide (number first ≤ number second) = true := by
    apply List.pairwise_mergeSort
    · intro first second third
      simp only [decide_eq_true_eq]
      omega
    · intro first second
      simp only [Bool.or_eq_true, decide_eq_true_eq]
      omega
  exact pairwise.imp fun le => of_decide_eq_true le

/-- What ascends strictly is what sorting makes of it in any order. -/
theorem eq_mergeSort_of_perm {Item : Type} {number : Item → Nat} {ascending items : List Item}
    (perm : ascending.Perm items)
    (strictly : ascending.Pairwise fun first second => number first < number second) :
    ascending = items.mergeSort fun first second => number first ≤ number second := by
  have sorted := pairwise_mergeSort_number number items
  have numbers : (ascending.map number).Nodup := by
    rw [List.Nodup, List.pairwise_map]
    exact strictly.imp fun less => Nat.ne_of_lt less
  have sameItems : ascending.Perm
      (items.mergeSort fun first second => number first ≤ number second) :=
    perm.trans (List.mergeSort_perm items _).symm
  refine sameItems.eq_of_pairwise ?_ (strictly.imp fun less => Nat.le_of_lt less) sorted
  intro first second isFirst isSecond le ge
  exact List.inj_on_of_nodup_map numbers isFirst (sameItems.mem_iff.mpr isSecond)
    (Nat.le_antisymm le ge)

/-- Where whatever lies in front of something kept is kept, too, nothing behind the
first item that is not kept is. -/
theorem takeWhile_eq_filter {Item : Type} {keep : Item → Bool} {items : List Item}
    (closed : items.Pairwise fun first second => keep second = true → keep first = true) :
    items.takeWhile keep = items.filter keep := by
  induction items with
  | nil => rfl
  | cons item rest ih =>
    obtain ⟨inFront, restClosed⟩ := List.pairwise_cons.mp closed
    by_cases kept : keep item = true
    · rw [List.takeWhile_cons_of_pos kept, List.filter_cons_of_pos kept, ih restClosed]
    · rw [List.takeWhile_cons_of_neg kept, List.filter_cons_of_neg kept]
      symm
      rw [List.filter_eq_nil_iff]
      intro other isOther otherKept
      exact kept (inFront other isOther otherKept)

namespace EntryStore

variable {entries : EntryStore} {key : StreamKey} {first : Nat} {last : Option Nat}

/-- The entries of a history between two sequence numbers, in ascending order. -/
def recordsBetween (entries : EntryStore) (key : StreamKey) (first : Nat) (last : Option Nat) :
    List Entry :=
  ((entries.history key).filter fun entry =>
      first ≤ entry.sequenceNumber && last.all (entry.sequenceNumber ≤ ·)).mergeSort
    fun entry later => entry.sequenceNumber ≤ later.sequenceNumber

theorem recordsBetween_of_history_eq_nil (isEmpty : entries.history key = []) :
    entries.recordsBetween key first last = [] := by
  rw [recordsBetween, isEmpty, List.filter_nil, List.mergeSort_nil]

/-- All records of a history are the entries of its log in the order of their numbers. -/
theorem recordsBetween_zero_none (entries : EntryStore) (key : StreamKey) :
    entries.recordsBetween key 0 none = (entries.history key).mergeSort
      fun entry later => entry.sequenceNumber ≤ later.sequenceNumber := by
  simp [recordsBetween]

theorem Coherent.nodup_history (coherent : entries.Coherent) (key : StreamKey) :
    (entries.history key).Nodup := (coherent.nodup_sequenceNumber key).of_map

end EntryStore

namespace EventCodec

theorem decodeAll_congr {Payload : Type} [DocumentFamily Payload]
    {codec other : EventCodec Payload} {entries : List Entry}
    (agree : ∀ entry ∈ entries, codec.decode entry = other.decode entry) :
    codec.decodeAll entries = other.decodeAll entries := by
  have each : entries.mapM codec.decode = entries.mapM other.decode := by
    induction entries with
    | nil => rfl
    | cons entry rest ih =>
      have restAgree : ∀ later ∈ rest, codec.decode later = other.decode later :=
        fun later isLater => agree later (List.mem_cons_of_mem _ isLater)
      rw [List.mapM_cons, List.mapM_cons, agree entry List.mem_cons_self, ih restAgree]
  rw [decodeAll, each, decodeAll]

variable {Payload : Type} [DocumentFamily Payload] {codec : EventCodec Payload}
  {entries : List Entry}

theorem decodeAll_eq_ok {decoded : List (List (DomainEvent Payload))}
    (read : List.Forall₂ (fun entry events => codec.decode entry = .ok events) entries decoded) :
    codec.decodeAll entries = .ok decoded.flatten := by
  rw [decodeAll, mapM_eq_ok_of_forall₂ read]
  rfl

/-- The error of entries is that of the first one that cannot be read. -/
theorem decodeAll_eq_error_iff {error : DocumentError} :
    codec.decodeAll entries = .error error ↔
      ∃ front entry back, entries = front ++ entry :: back ∧
        (∀ earlier ∈ front, ∃ events, codec.decode earlier = .ok events) ∧
        codec.decode entry = .error error := by
  rw [← mapM_eq_error_iff, decodeAll]
  cases entries.mapM codec.decode <;> simp [Functor.map, Except.map]

end EventCodec

namespace EventStore

variable {entries : EntryStore} {key : StreamKey} {first : Nat} {last : Option Nat}

theorem not_isBeyond (last : Option Nat) (number : Nat) :
    (!isBeyond last number) = last.all (number ≤ ·) := by
  cases last with
  | none => rfl
  | some limit =>
    rw [Bool.eq_iff_iff]
    simp [isBeyond]

theorem entriesBetween_eq_recordsBetween (coherent : entries.Coherent) (key : StreamKey)
    (first : Nat) (last : Option Nat) :
    entriesBetween entries key first last = entries.recordsBetween key first last := by
  have ascending := entries.entriesFrom_ascending key first
  have filtered : entriesBetween entries key first last =
      (entries.entriesFrom key first).filter fun entry =>
        last.all (entry.sequenceNumber ≤ ·) := by
    unfold entriesBetween
    simp only [not_isBeyond]
    apply takeWhile_eq_filter
    refine ascending.imp ?_
    intro entry later below within
    rw [Option.all_eq_true] at within ⊢
    intro limit isLimit
    have laterWithin := within limit isLimit
    rw [decide_eq_true_eq] at laterWithin ⊢
    omega
  have strictly := ascending.filter fun entry => last.all (entry.sequenceNumber ≤ ·)
  rw [filtered]
  refine eq_mergeSort_of_perm ?_ strictly
  rw [List.perm_ext_iff_of_nodup]
  · intro entry
    simp only [List.mem_filter, coherent.consistent.mem_entriesFrom_iff, Bool.and_eq_true,
      decide_eq_true_eq, and_assoc]
  · refine strictly.imp ?_
    rintro entry _ below rfl
    exact Nat.lt_irrefl _ below
  · exact (coherent.nodup_history key).filter _

theorem entriesFrom_eq_recordsBetween (coherent : entries.Coherent)
    (key : StreamKey) (first : Nat) :
    entries.entriesFrom key first = entries.recordsBetween key first none := by
  rw [← entriesBetween_eq_recordsBetween coherent, entriesBetween_none]

variable {Payload Note : Type} [DocumentFamily Payload]

theorem pages_eq (store : EventStore Payload) (key : StreamKey) (first : Nat) (last : Option Nat)
    (backend : Backend) :
    (store.pages key first last backend : List (Pull (ReadMark Note) (StreamItem Payload))) =
      if isBeyond last first then []
      else
        match backend.attemptFetch with
        | (some error, _) => failed (.ofStorage error)
        | (none, after) =>
          let batch := backend.entries.fetchBatch key first store.config.batchSize
          let wanted := batchBetween backend.entries key first last store.config.batchSize
          match store.codec.decodeAll wanted with
          | .error error => failed (.document error)
          | .ok events =>
            if batch.length < store.config.batchSize || wanted.length < batch.length then
              delivered events
            else
              match batch.getLast? with
              | none => delivered events
              | some entry =>
                delivered events ++ store.pages key (entry.sequenceNumber + 1) last after := by
  fun_cases @pages Payload Note _ store key first last backend with
  | case1 beyond => rw [if_pos beyond]
  | case2 within error after attempted => rw [if_neg within, attempted]
  | case3 within after attempted unchanged batch wanted error unreadable =>
    have unreadableBatch : store.codec.decodeAll
        (batchBetween backend.entries key first last store.config.batchSize) =
          .error error := unreadable
    rw [if_neg within, attempted]
    simp only [unreadableBatch]
  | case4 within after attempted unchanged batch wanted events decoded isLast =>
    have decodedBatch : store.codec.decodeAll
        (batchBetween backend.entries key first last store.config.batchSize) =
          .ok events := decoded
    rw [if_neg within, attempted]
    simp only [decodedBatch]
    exact (if_pos isLast).symm
  | case5 within after attempted unchanged batch wanted events decoded notLast nothing =>
    have decodedBatch : store.codec.decodeAll
        (batchBetween backend.entries key first last store.config.batchSize) =
          .ok events := decoded
    have nothingFetched : (backend.entries.fetchBatch key first
        store.config.batchSize).getLast? = none := nothing
    rw [if_neg within, attempted]
    simp only [decodedBatch, nothingFetched]
    exact (if_neg notLast).symm
  | case6 within after attempted unchanged batch wanted events decoded notLast entry found =>
    have decodedBatch : store.codec.decodeAll
        (batchBetween backend.entries key first last store.config.batchSize) =
          .ok events := decoded
    have lastFetched : (backend.entries.fetchBatch key first
        store.config.batchSize).getLast? = some entry := found
    rw [if_neg within, attempted]
    simp only [decodedBatch, lastFetched]
    exact (if_neg notLast).symm

/-- Backends that fetch the same batches have the same pages, however entries outside the range
would read. -/
theorem pages_together {Together : Backend → Backend → Prop}
    (fetchesAlike : Backend.FetchesAlike Together) {store : EventStore Payload}
    {codec : EventCodec Payload} {backend other : Backend} (together : Together backend other)
    (agree : ∀ entry ∈ entriesBetween backend.entries key first last,
      codec.decode entry = store.codec.decode entry) :
    ({ store with codec } : EventStore Payload).pages key first last other =
      (store.pages key first last backend :
        List (Pull (ReadMark Note) (StreamItem Payload))) := by
  have sameWanted {first : Nat} {backend other : Backend} (together : Together backend other) :
      batchBetween other.entries key first last store.config.batchSize =
        batchBetween backend.entries key first last store.config.batchSize := by
    rw [batchBetween, fetchesAlike.sameBatch together]
    rfl
  have sameEvents {first : Nat} {backend : Backend}
      (agree : ∀ entry ∈ entriesBetween backend.entries key first last,
        codec.decode entry = store.codec.decode entry) :
      codec.decodeAll (batchBetween backend.entries key first last store.config.batchSize) =
        store.codec.decodeAll
          (batchBetween backend.entries key first last store.config.batchSize) := by
    apply EventCodec.decodeAll_congr
    intro entry inBatch
    apply agree
    rw [entriesBetween_eq backend.entries key first last store.config.batchSize]
    exact List.mem_append_left _ inBatch
  -- By the recursion of the reader: both fetch the same batch and go on behind the same entry.
  fun_induction @pages Payload Note _ store key first last backend generalizing other with
  | case1 first backend beyond => rw [pages_eq, if_pos beyond]
  | case2 first backend within error after attempted =>
    obtain ⟨otherAfter, attemptedToo, -⟩ := fetchesAlike.attempt together attempted
    rw [pages_eq, if_neg within, attemptedToo]
  | case3 first backend within after attempted unchanged batch wanted error =>
    rename_i unreadable
    obtain ⟨otherAfter, attemptedToo, -⟩ := fetchesAlike.attempt together attempted
    have unreadableToo := (sameEvents agree).trans unreadable
    rw [pages_eq, if_neg within, attemptedToo]
    simp only [sameWanted together, unreadableToo]
  | case4 first backend within after attempted unchanged batch wanted events decoded =>
    rename_i isLast
    obtain ⟨otherAfter, attemptedToo, -⟩ := fetchesAlike.attempt together attempted
    have decodedToo := (sameEvents agree).trans decoded
    rw [pages_eq, if_neg within, attemptedToo]
    simp only [sameWanted together, decodedToo, fetchesAlike.sameBatch together]
    exact if_pos isLast
  | case5 first backend within after attempted unchanged batch wanted events decoded notLast =>
    rename_i nothing
    rw [List.getLast?_eq_none_iff] at nothing
    simp [nothing, store.batchSize_pos] at notLast
  | case6 first backend within after attempted unchanged batch wanted events decoded notLast entry
      found _ _ =>
    rename_i ih
    obtain ⟨otherAfter, attemptedToo, stillTogether⟩ := fetchesAlike.attempt together attempted
    have decodedToo := (sameEvents agree).trans decoded
    have lastFound : (backend.entries.fetchBatch key first store.config.batchSize).getLast? =
        some entry := found
    rw [pages_eq, if_neg within, attemptedToo]
    simp only [sameWanted together, decodedToo, fetchesAlike.sameBatch together, lastFound]
    refine (if_neg notLast).trans (congrArg (delivered events ++ ·) (ih stillTogether ?_))
    rw [Bool.or_eq_true, decide_eq_true_eq, decide_eq_true_eq, not_or] at notLast
    rw [unchanged]
    intro later isLater
    apply agree
    rw [entriesBetween_eq_of_more notLast.2 found]
    exact List.mem_append_right _ isLater

theorem pages_congr {store : EventStore Payload} {codec : EventCodec Payload}
    {backend : Backend}
    (agree : ∀ entry ∈ entriesBetween backend.entries key first last,
      codec.decode entry = store.codec.decode entry) :
    ({ store with codec } : EventStore Payload).pages key first last backend =
      (store.pages key first last backend :
        List (Pull (ReadMark Note) (StreamItem Payload))) :=
  pages_together (Backend.fetchesAlike_withSnapshots backend.entries.snapshots) rfl agree

/-- The pulls of a history are read off the log alone. -/
theorem pages_withSnapshots (store : EventStore Payload) (key : StreamKey) (first : Nat)
    (last : Option Nat) (backend : Backend)
    (snapshots : Table StreamKey (OrderedMap Nat Entry)) :
    store.pages key first last (backend.withSnapshots snapshots) =
      (store.pages key first last backend :
        List (Pull (ReadMark Note) (StreamItem Payload))) :=
  pages_together (Backend.fetchesAlike_withSnapshots snapshots) rfl fun _ _ => rfl

/-! ## The stream of a range -/

omit [DocumentFamily Payload] in
theorem Delivers.collect {stream : EventStream (ReadMark Note) Payload}
    {answer : Except DocumentError (List (DomainEvent Payload))}
    (delivers : Delivers stream.items answer) :
    stream.collect.2 = answer.mapError fun error =>
      (EventStoreError.document error).toStreamError := by
  rw [EventStream.collect_items]
  cases answer with
  | ok events =>
    have same : stream.items = events.map .ok := delivers
    rw [same, EventStream.collectItems_map_ok]
    rfl
  | error error =>
    obtain ⟨events, same⟩ := delivers
    rw [same, EventStream.collectItems_firstFailure]
    rfl

omit [DocumentFamily Payload] in
/-- Nothing is delivered behind an error. -/
theorem Delivers.error_isLast {items : List (StreamItem Payload)}
    {answer : Except DocumentError (List (DomainEvent Payload))} (delivers : Delivers items answer)
    {earlier later : List (StreamItem Payload)} {error : StreamError}
    (split : items = earlier ++ .error error :: later) : later = [] := by
  have notAmong (events : List (DomainEvent Payload)) :
      (.error error : StreamItem Payload) ∉ events.map .ok := by simp
  cases answer with
  | ok events =>
    have same : items = events.map .ok := delivers
    exfalso
    apply notAmong events
    rw [← same, split]
    exact List.mem_append_right _ List.mem_cons_self
  | error cause =>
    obtain ⟨events, same⟩ := delivers
    by_contra notEmpty
    apply notAmong events
    have front := congrArg List.dropLast (same.symm.trans split)
    rw [List.dropLast_concat, List.dropLast_append_of_ne_nil (List.cons_ne_nil _ _),
      List.dropLast_cons_of_ne_nil notEmpty] at front
    rw [front]
    exact List.mem_append_right _ List.mem_cons_self

theorem Delivers.exists_unreadable {codec : EventCodec Payload} {records : List Entry}
    {items : List (StreamItem Payload)} (delivers : Delivers items (codec.decodeAll records))
    {error : StreamError} (isItem : .error error ∈ items) :
    ∃ record ∈ records, ∃ cause, codec.decode record = .error cause := by
  cases read : codec.decodeAll records with
  | ok events =>
    rw [read] at delivers
    obtain rfl : items = events.map .ok := delivers
    simp at isItem
  | error cause =>
    obtain ⟨front, record, back, rfl, -, unreadable⟩ :=
      EventCodec.decodeAll_eq_error_iff.mp read
    exact ⟨record, by simp, cause, unreadable⟩

theorem entriesFrom_zero_eq_nil_iff (coherent : entries.Coherent) (key : StreamKey) :
    entries.entriesFrom key 0 = [] ↔ entries.history key = [] := by
  rw [List.eq_nil_iff_forall_not_mem, List.eq_nil_iff_forall_not_mem]
  apply forall_congr'
  intro entry
  rw [coherent.consistent.mem_entriesFrom_iff]
  simp

variable (Note) in
/-- A history without entries is not found.  Of any other one the records of the range
are delivered. -/
theorem readRange_of_sound {backend : Backend} (sound : backend.Sound)
    (store : EventStore Payload) (key : StreamKey) (first : Nat) (last : Option Nat) :
    (backend.entries.history key = [] ∧
        (@readRange Payload Note _ store key first last backend).1 =
          .error (.streamNotFound key)) ∨
      (backend.entries.history key ≠ [] ∧ ∃ stream : EventStream (ReadMark Note) Payload,
        (store.readRange key first last backend).1 = .ok stream ∧
          Delivers stream.items
            (store.codec.decodeAll (backend.entries.recordsBetween key first last))) := by
  let stored : EventStream (ReadMark Note) Payload := store.stream key first last backend
  have delivers : Delivers stored.items
      (store.codec.decodeAll (backend.entries.recordsBetween key first last)) := by
    rw [← entriesBetween_eq_recordsBetween sound.coherent]
    exact pages_delivers sound.reliable
  obtain ⟨sameEntries, stillReliable, outcome⟩ := openStream_spec stored sound.reliable
  rcases opened : openStream stored backend with ⟨found, after⟩
  rw [opened] at sameEntries stillReliable outcome
  rcases outcome with ⟨nothing, rfl⟩ | ⟨something, stream, rfl, sameItems⟩
  · have fetched := stillReliable.fetchBatch key 0 1
    rw [sameEntries, EntryStore.fetchBatch] at fetched
    rcases looked : after.fetchBatch key 0 1 with ⟨answer, final⟩
    rw [looked] at fetched
    obtain rfl : answer = _ := fetched
    by_cases isEmpty : backend.entries.history key = []
    · have noEntries := (entriesFrom_zero_eq_nil_iff sound.coherent key).mpr isEmpty
      rw [noEntries, List.take_nil] at looked
      refine .inl ⟨isEmpty, ?_⟩
      simp only [readRange, stored] at opened ⊢
      simp only [opened, looked]
    · have anyEntries := mt (entriesFrom_zero_eq_nil_iff sound.coherent key).mp isEmpty
      obtain ⟨entry, rest, isFirst⟩ := List.exists_cons_of_ne_nil anyEntries
      rw [isFirst, List.take_succ_cons, List.take_zero] at looked
      refine .inr ⟨isEmpty, .empty, ?_, ?_⟩
      · simp only [readRange, stored] at opened ⊢
        simp only [opened, looked]
      · rw [nothing] at delivers
        exact delivers
  · refine .inr ⟨?_, stream, ?_, sameItems ▸ delivers⟩
    · intro isEmpty
      apply something
      rw [EntryStore.recordsBetween_of_history_eq_nil isEmpty] at delivers
      exact delivers
    · simp only [readRange, stored] at opened ⊢
      simp only [opened]

/-- Whatever an in-memory store has gone through, and however many entries are fetched
at a time: only a history without entries is not found, and what is collected from a
part of any other one are the events of its records, one after another, or the error of
the first record that cannot be read.  An error is the last item of the stream, and how
entries outside of the part would read makes no difference. -/
theorem readRange_withBatchSize (Note : Type) (store : EventStore Payload) (size : Nat)
    (changes : List StorageChange) (key : StreamKey) (first : Nat) (last : Option Nat) :
    let backend := Backend.empty.changeAll changes
    let records := backend.entries.recordsBetween key first last
    let paged := store.withBatchSize size
    let answer : Except EventStoreError (EventStream (ReadMark Note) Payload) :=
      (paged.readRange key first last backend).1
    (answer = .error (.streamNotFound key) ↔
      ∀ entry ∈ backend.entries.log, entry.streamKey ≠ key) ∧
    ((∃ entry ∈ backend.entries.log, entry.streamKey = key) → ∃ stream, answer = .ok stream ∧
      (∀ decoded, List.Forall₂ (fun record events => store.codec.decode record = .ok events)
          records decoded → stream.collect.2 = .ok decoded.flatten) ∧
      (∀ front record back error, records = front ++ record :: back →
        (∀ earlier ∈ front, ∃ events, store.codec.decode earlier = .ok events) →
        store.codec.decode record = .error error →
        stream.collect.2 = .error (EventStoreError.document error).toStreamError) ∧
      (∀ error, .error error ∈ stream.items →
        ∃ record ∈ records, ∃ cause, store.codec.decode record = .error cause) ∧
      (∀ earlier error later, stream.items = earlier ++ .error error :: later → later = [])) ∧
    (∀ codec : EventCodec Payload,
      (∀ record ∈ records, codec.decode record = store.codec.decode record) →
      (({ paged with codec } : EventStore Payload).readRange key first last backend :
          Except EventStoreError (EventStream (ReadMark Note) Payload) × Backend) =
        paged.readRange key first last backend) := by
  intro backend records paged answer
  have sound : backend.Sound := Backend.sound_changeAll changes
  refine ⟨?_, ?_, ?_⟩
  · rw [← EntryStore.history_eq_nil_iff]
    rcases readRange_of_sound Note sound paged key first last with
      ⟨isEmpty, notFound⟩ | ⟨notEmpty, stream, isFound, -⟩
    · exact ⟨fun _ => isEmpty, fun _ => notFound⟩
    · refine ⟨fun notFound => ?_, fun isEmpty => absurd isEmpty notEmpty⟩
      exact absurd (isFound.symm.trans notFound) nofun
  · rintro ⟨entry, stored, own⟩
    rcases readRange_of_sound Note sound paged key first last with
      ⟨isEmpty, -⟩ | ⟨-, stream, isFound, delivers⟩
    · exact absurd own (EntryStore.history_eq_nil_iff.mp isEmpty entry stored)
    · have collected : stream.collect.2 = (store.codec.decodeAll records).mapError fun error =>
          (EventStoreError.document error).toStreamError := delivers.collect
      refine ⟨stream, isFound, ?_, ?_, fun _ => delivers.exists_unreadable,
        fun _ _ _ => delivers.error_isLast⟩
      · intro decoded read
        rw [collected, EventCodec.decodeAll_eq_ok read]
        rfl
      · intro front record back error split readable unreadable
        rw [collected, EventCodec.decodeAll_eq_error_iff.mpr
          ⟨front, record, back, split, readable, unreadable⟩]
        rfl
  · intro codec agree
    have sameStream : ({ paged with codec } : EventStore Payload).stream key first last backend =
        (paged.stream key first last backend : EventStream (ReadMark Note) Payload) := by
      refine congrArg EventStream.ofPulls (pages_congr ?_)
      rw [entriesBetween_eq_recordsBetween sound.coherent]
      exact agree
    simp only [readRange, sameStream]

end EventStore

end EventSourcing
