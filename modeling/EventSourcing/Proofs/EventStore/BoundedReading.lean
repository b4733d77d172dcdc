import EventSourcing.Proofs.EventStore.RangeReading
import EventSourcing.Proofs.EventStore.Visiting
import EventSourcing.Proofs.EventStream.Accesses
import EventSourcing.Proofs.Table
import Mathlib.Data.List.Flatten

/-!
# Reading comes to an end

Every page but the last is full, and there are as many records less behind it.  A full page
is not empty, since whatever is set of a store leaves it a batch size of at least one.  So
reading records page by page takes no more fetches than there are full pages, and one
(`EventStore.pages_bounded`, `EventStore.visitPages_bounded`), whatever becomes of the events
on them.
-/

namespace EventSourcing

/-! ## Fetches that are counted -/

namespace Backend

@[simp] theorem fetches_attempt (operation : StorageOperation) (backend : Backend) :
    (backend.attempt operation).2.fetches = backend.fetches := by
  unfold attempt plan
  split
  · rfl
  · split
    · rfl
    · split <;> rfl

theorem fetches_attemptFetch (backend : Backend) :
    backend.attemptFetch.2.fetches = backend.fetches + 1 :=
  fetches_attempt .fetchBatch { backend with fetches := backend.fetches + 1 }

theorem fetches_fetchBatch (backend : Backend) (key : StreamKey) (first size : Nat) :
    (backend.fetchBatch key first size).2.fetches = backend.fetches + 1 := by
  rw [fetchBatch, ← backend.fetches_attemptFetch]
  rcases backend.attemptFetch with ⟨_ | error, after⟩ <;> rfl

/-- Each mark makes the backend fetch at most once. -/
theorem fetches_settle_le {Note : Type} (backend : Backend) (marks : List (ReadMark Note)) :
    (backend.settle marks).fetches ≤ backend.fetches + marks.length := by
  induction marks generalizing backend with
  | nil => exact Nat.le_refl _
  | cons mark rest ih =>
    rw [List.length_cons]
    cases mark with
    | fetched =>
      have later := ih backend.attemptFetch.2
      rw [fetches_attemptFetch] at later
      change (backend.attemptFetch.2.settle rest).fetches ≤ _
      omega
    | noted note =>
      have later := ih backend
      change (backend.settle rest).fetches ≤ _
      omega

/-- While a planned failure lets calls pass, a call only brings it nearer. -/
theorem attempt_plan (operation : StorageOperation) (skip times : Nat) (error : StorageError)
    (backend : Backend) :
    (backend.plan operation ⟨skip + 1, times, error⟩).attempt operation =
      (none, backend.plan operation ⟨skip, times, error⟩) := by
  have planned : (backend.plan operation ⟨skip + 1, times, error⟩).faults.get? operation =
      some ⟨skip + 1, times, error⟩ := by
    rw [plan, Table.get?_put, if_pos rfl]
  rw [attempt, planned]
  simp only [gt_iff_lt, Nat.zero_lt_succ, ↓reduceIte, Nat.add_sub_cancel]
  exact congrArg (fun faults => (none, { backend with faults })) (Table.put_put _ _ _ _)

end Backend

/-! ## Streams that end -/

/-- However often a stream is looked at, the backend is asked for no more than so many
batches, and no more than so many items are taken.  Behind its last item, and behind a
failure, nothing is ever found. -/
structure EventStream.Ends {Note Payload : Type} (stream : EventStream (ReadMark Note) Payload)
    (opened : Backend) (fetches count : Nat) : Prop where
  fetches_le : ∀ looks : List Look,
    (opened.settle (stream.accessAll (looks.map .look)).1).fetches ≤ fetches
  taken_le : ∀ looks : List Look,
    ((stream.accessAll (looks.map .look)).2.1.filterMap Sight.taken?).length ≤ count
  isOver : ∀ looks : List Look, count ≤ looks.count .next →
    (stream.accessAll (looks.map .look)).2.2.next.2.1 = none
  staysOver : ∀ looks more : List Look,
    let left := (stream.accessAll (looks.map .look)).2.2
    (left.next.2.1 = none ∨ ∃ error, left.next.2.1 = some (.error error)) →
      (left.next.2.2.accessAll (more.map .look)).2.2.next.2.1 = none

namespace EventStream

variable {Note Payload : Type}

theorem Ends.mono {stream : EventStream (ReadMark Note) Payload} {opened : Backend}
    {fetches more count larger : Nat} (ends : stream.Ends opened fetches count)
    (moreFetches : fetches ≤ more) (moreItems : count ≤ larger) :
    stream.Ends opened more larger where
  fetches_le looks := Nat.le_trans (ends.fetches_le looks) moreFetches
  taken_le looks := Nat.le_trans (ends.taken_le looks) moreItems
  isOver looks enough := ends.isOver looks (Nat.le_trans moreItems enough)
  staysOver := ends.staysOver

theorem ends_of_bounded {stream : EventStream (ReadMark Note) Payload} {opened : Backend}
    {fetches count : Nat} (fetched : opened.fetches + stream.marks.length ≤ fetches)
    (few : stream.items.length ≤ count)
    (failureIsLast : ∀ earlier error later,
      stream.items = earlier ++ .error error :: later → later = []) :
    stream.Ends opened fetches count where
  fetches_le looks := by
    have performed := congrArg List.length (marks_accessAll stream (looks.map .look))
    rw [List.length_append] at performed
    have settled := opened.fetches_settle_le (stream.accessAll (looks.map .look)).1
    omega
  taken_le looks := by
    have split := congrArg List.length (items_eq_looks stream looks)
    rw [List.length_append] at split
    omega
  isOver looks enough := by
    have left := items_looks stream looks
    rw [List.drop_of_length_le (by omega)] at left
    rw [(next_eq_onItems _).1, left]
    rfl
  staysOver looks more := by
    intro left atEnd
    have remaining := items_looks stream looks
    change left.items = _ at remaining
    -- Either nothing has been left, or a failure, and that is the last item of the stream.
    have nothingBehind : left.next.2.2.items = [] := by
      obtain ⟨isFirst, rest⟩ := next_eq_onItems left
      rw [isFirst] at atEnd
      rw [rest]
      cases isLeft : left.items with
      | nil => rfl
      | cons item behind =>
        rw [isLeft] at atEnd remaining
        rcases atEnd with nothing | ⟨error, failure⟩
        · cases nothing
        · obtain rfl : item = .error error := Option.some.inj failure
          have split : stream.items =
              stream.items.take (looks.count .next) ++ .error error :: behind := by
            rw [remaining, List.take_append_drop]
          exact failureIsLast _ error behind split
    rw [(next_eq_onItems _).1, items_looks, nothingBehind, List.drop_nil]
    rfl

theorem ends_empty {opened : Backend} {fetches : Nat} (fetched : opened.fetches ≤ fetches)
    (count : Nat) : (empty : EventStream (ReadMark Note) Payload).Ends opened fetches count := by
  apply ends_of_bounded
  · exact fetched
  · exact Nat.zero_le count
  · intro earlier error later split
    cases earlier <;> cases split

end EventStream

/-- What can be set of a store while it is built. -/
inductive StoreSetting where
  | config (config : EventStoreConfig)
  | batchSize (size : Nat)
  | maxSnapshots (count : Nat)
  | upcasters (chain : UpcasterChain)

def StoreSetting.batchSize? : StoreSetting → Option Nat
  | .config given => some given.batchSize
  | .batchSize size => some size
  | .maxSnapshots _ => none
  | .upcasters _ => none

namespace EventStore

variable {Payload Note : Type} [DocumentFamily Payload]

/-! ## Pages -/

omit [DocumentFamily Payload] in
theorem marks_delivered_append (events : List (DomainEvent Payload))
    (behind : List (Pull (ReadMark Note) (StreamItem Payload))) :
    (EventStream.ofPulls (delivered events ++ behind)).marks =
      .fetched :: (EventStream.ofPulls behind).marks := by
  induction events with
  | nil => rfl
  | cons event rest ih => exact ih

theorem pages_bounded (store : EventStore Payload) (key : StreamKey) (first : Nat)
    (last : Option Nat) (backend : Backend) :
    let records := entriesBetween backend.entries key first last
    let pulls : List (Pull (ReadMark Note) (StreamItem Payload)) :=
      store.pages key first last backend
    (EventStream.ofPulls pulls).marks.length ≤ records.length / store.config.batchSize + 1 ∧
      (Pull.items pulls).length ≤ (records.flatMap store.codec.eventsOf).length + 1 := by
  intro records pulls
  simp only [records, pulls]
  fun_induction @pages Payload Note _ store key first last backend with
  | case1 first backend beyond => exact ⟨Nat.zero_le _, Nat.zero_le _⟩
  | case2 first backend within error after attempted =>
    exact ⟨Nat.le_add_left 1 _, Nat.le_add_left 1 _⟩
  | case3 first backend within after attempted unchanged batch wanted error unreadable =>
    exact ⟨Nat.le_add_left 1 _, Nat.le_add_left 1 _⟩
  | case4 first backend within after attempted unchanged batch wanted events decoded isLast =>
    rw [Bool.or_eq_true, decide_eq_true_eq, decide_eq_true_eq] at isLast
    have wantedAll : entriesBetween backend.entries key first last = wanted :=
      entriesBetween_eq_of_last isLast
    obtain ⟨-, rfl⟩ := EventCodec.decodeAll_eq_ok_iff.mp decoded
    have onlyMark := @marks_delivered_append Payload Note (wanted.flatMap store.codec.eventsOf) []
    rw [List.append_nil] at onlyMark
    rw [onlyMark, items_delivered, wantedAll, List.length_map]
    exact ⟨Nat.le_add_left 1 _, Nat.le_add_right _ 1⟩
  | case5 first backend within after attempted unchanged batch wanted events decoded notLast
      nothing =>
    rw [List.getLast?_eq_none_iff] at nothing
    simp [nothing, store.batchSize_pos] at notLast
  | case6 first backend within after attempted unchanged batch wanted events decoded notLast entry
      found _ _ ih =>
    rw [Bool.or_eq_true, decide_eq_true_eq, decide_eq_true_eq, not_or] at notLast
    have front : entriesBetween backend.entries key first last =
        wanted ++ entriesBetween backend.entries key (entry.sequenceNumber + 1) last :=
      entriesBetween_eq_of_more notLast.2 found
    obtain ⟨-, rfl⟩ := EventCodec.decodeAll_eq_ok_iff.mp decoded
    obtain ⟨fewMarks, fewItems⟩ := ih
    rw [unchanged] at fewMarks fewItems
    rw [front, marks_delivered_append, Pull.items_append, items_delivered, List.flatMap_append]
    simp only [List.length_append, List.length_cons, List.length_map]
    -- The page is full and wanted as a whole, so that one page of records less is left.
    have full : store.config.batchSize ≤ wanted.length := by omega
    have onePageMore : (wanted.length +
          (entriesBetween backend.entries key (entry.sequenceNumber + 1) last).length) /
            store.config.batchSize ≥
        (entriesBetween backend.entries key (entry.sequenceNumber + 1) last).length /
          store.config.batchSize + 1 := by
      rw [← Nat.add_div_right _ store.batchSize_pos]
      apply Nat.div_le_div_right
      omega
    constructor
    · omega
    · omega

/-! ## Streams -/

omit [DocumentFamily Payload] in
/-- Opening a stream makes some of its fetches and leaves the others to the opened one. -/
theorem openStream_bounded (source : EventStream (ReadMark Note) Payload) (backend : Backend) :
    let (found, opened) := openStream source backend
    opened.fetches ≤ backend.fetches + source.marks.length ∧
      ∀ stream, found = some stream → stream.items = source.items ∧
        opened.fetches + stream.marks.length ≤ backend.fetches + source.marks.length := by
  have performed := congrArg List.length (EventStream.marks_uncons source.pulls)
  have sameMarks : (EventStream.ofPulls source.pulls).marks = source.marks := by
    obtain ⟨peeked, ahead⟩ := source
    cases peeked <;> rfl
  have split := Pull.items_eq_uncons source.pulls
  rcases taken : Pull.uncons source.pulls with ⟨marks, item, rest⟩
  rw [taken] at split
  rw [sameMarks, taken, List.length_append] at performed
  change source.marks.length = marks.length + (EventStream.ofPulls rest).marks.length at performed
  have settled := backend.fetches_settle_le marks
  cases item with
  | none =>
    have nothing : openStream source backend = (none, backend.settle marks) := by
      simp only [openStream, taken]
    rw [nothing]
    refine ⟨by omega, ?_⟩
    rintro stream ⟨⟩
  | some item =>
    have found : openStream source backend =
        (some (.ofPulls (.item item :: rest)), backend.settle marks) := by
      simp only [openStream, taken]
    rw [found]
    refine ⟨by omega, ?_⟩
    rintro stream ⟨⟩
    refine ⟨split.symm, ?_⟩
    change _ + (EventStream.ofPulls rest).marks.length ≤ _
    omega

/-- Opening the records of a range takes as many fetches as there are pages at most, and what
has been opened ends. -/
theorem openStream_ends {backend opened : Backend} (reliable : backend.Reliable)
    {store : EventStore Payload} {key : StreamKey} {first : Nat} {last : Option Nat}
    {found : Option (EventStream (ReadMark Note) Payload)}
    (isOpened : openStream (store.stream key first last backend) backend = (found, opened)) :
    let records := entriesBetween backend.entries key first last
    let fetches := backend.fetches + records.length / store.config.batchSize + 1
    opened.fetches ≤ fetches ∧
      ∀ stream, found = some stream →
        stream.Ends opened fetches ((records.flatMap store.codec.eventsOf).length + 1) := by
  intro records fetches
  let source : EventStream (ReadMark Note) Payload := store.stream key first last backend
  have bounded : source.marks.length ≤ records.length / store.config.batchSize + 1 ∧
      source.items.length ≤ (records.flatMap store.codec.eventsOf).length + 1 :=
    store.pages_bounded key first last backend
  have opening := openStream_bounded source backend
  rw [isOpened] at opening
  obtain ⟨fewMarks, fewItems⟩ := bounded
  obtain ⟨atMost, ofFound⟩ := opening
  refine ⟨by omega, ?_⟩
  intro stream isFound
  obtain ⟨sameItems, fetched⟩ := ofFound stream isFound
  apply EventStream.ends_of_bounded
  · omega
  · rw [sameItems]
    exact fewItems
  · rw [sameItems]
    intro earlier error later
    exact (pages_delivers reliable).error_isLast

/-- A range is read with one fetch for each full page of its records and one more, and with
another one if there is nothing to be found in it. -/
theorem readRange_bounded {backend opened : Backend} (sound : backend.Sound)
    {store : EventStore Payload} {key : StreamKey} {first : Nat} {last : Option Nat}
    {answer : Except EventStoreError (EventStream (ReadMark Note) Payload)}
    (isRead : store.readRange key first last backend = (answer, opened)) :
    let records := backend.entries.recordsBetween key first last
    let fetches := backend.fetches + records.length / store.config.batchSize + 2
    opened.fetches ≤ fetches ∧
      ∀ stream, answer = .ok stream →
        stream.Ends opened fetches ((records.flatMap store.codec.eventsOf).length + 1) := by
  intro records fetches
  rcases isOpened : openStream (store.stream key first last backend :
    EventStream (ReadMark Note) Payload) backend with ⟨found, after⟩
  have opening := openStream_ends sound.reliable isOpened
  rw [entriesBetween_eq_recordsBetween sound.coherent] at opening
  obtain ⟨atMost, ofFound⟩ := opening
  simp only [readRange, isOpened] at isRead
  cases found with
  | some stream =>
    obtain ⟨rfl, rfl⟩ := Prod.mk.inj isRead
    refine ⟨Nat.le_succ_of_le atMost, ?_⟩
    rintro stream ⟨⟩
    exact (ofFound stream rfl).mono (Nat.le_succ _) (Nat.le_refl _)
  | none =>
    have once := after.fetches_fetchBatch key 0 1
    rcases checked : after.fetchBatch key 0 1 with ⟨result, final⟩
    rw [checked] at once
    simp only [checked] at isRead
    have outcome : final = opened ∧ ∀ stream, answer = .ok stream → stream = .empty := by
      cases result with
      | error error =>
        obtain ⟨rfl, rfl⟩ := Prod.mk.inj isRead
        refine ⟨rfl, ?_⟩
        rintro stream ⟨⟩
      | ok entries =>
        cases entries with
        | nil =>
          obtain ⟨rfl, rfl⟩ := Prod.mk.inj isRead
          refine ⟨rfl, ?_⟩
          rintro stream ⟨⟩
        | cons entry rest =>
          obtain ⟨rfl, rfl⟩ := Prod.mk.inj isRead
          exact ⟨rfl, fun stream isFound => (Except.ok.inj isFound).symm⟩
    obtain ⟨rfl, isEmpty⟩ := outcome
    have enough : final.fetches ≤ fetches := once ▸ Nat.succ_le_succ atMost
    refine ⟨enough, ?_⟩
    intro stream isFound
    rw [isEmpty stream isFound]
    exact EventStream.ends_empty enough _

/-- A snapshot and the pages behind it end as the whole history does. -/
theorem pagesBehind_ends {backend : Backend} (sound : backend.Sound) (store : EventStore Payload)
    (key : StreamKey) (snapshot : DomainEvent Payload) :
    let records := backend.entries.recordsBetween key 0 none
    let stream : EventStream (ReadMark Note) Payload := .ofPulls
      (.item (.ok snapshot) :: store.pages key (snapshot.sequenceNumber + 1) none backend)
    stream.Ends backend (backend.fetches + records.length / store.config.batchSize + 1)
      ((records.flatMap store.codec.eventsOf).length + 2) := by
  intro records stream
  obtain ⟨fewMarks, fewItems⟩ := @pages_bounded Payload Note _ store key
    (snapshot.sequenceNumber + 1) none backend
  have behind : (entriesBetween backend.entries key (snapshot.sequenceNumber + 1) none).Sublist
      records := by
    rw [entriesBetween_none, backend.entries.entriesFrom_eq_filter key (Nat.zero_le _),
      entriesFrom_eq_recordsBetween sound.coherent]
    exact List.filter_sublist
  have fewerPages := Nat.div_le_div_right (c := store.config.batchSize) behind.length_le
  have fewerEvents := (behind.flatMap store.codec.eventsOf).length_le
  apply EventStream.ends_of_bounded
  · change backend.fetches + (EventStream.ofPulls
      (store.pages key (snapshot.sequenceNumber + 1) none backend)).marks.length ≤ _
    omega
  · change (Pull.items _).length + 1 ≤ _
    omega
  · intro earlier error later
    exact ((pages_delivers sound.reliable).append [snapshot]).error_isLast

/-- A history is read with one fetch for each full page of its records and one more. -/
theorem read_bounded {backend opened : Backend} (sound : backend.Sound)
    {store : EventStore Payload} {key : StreamKey}
    {answer : Except EventStoreError (EventStream (ReadMark Note) Payload)}
    (isRead : store.read key backend = (answer, opened)) :
    let records := backend.entries.recordsBetween key 0 none
    let fetches := backend.fetches + records.length / store.config.batchSize + 1
    opened.fetches ≤ fetches ∧
      ∀ stream, answer = .ok stream →
        stream.Ends opened fetches ((records.flatMap store.codec.eventsOf).length + 2) := by
  intro records fetches
  simp only [read, sound.reliable.loadLastSnapshot] at isRead
  cases latest : (backend.entries.lastSnapshot? key).bind store.snapshotEvent? with
  | some snapshot =>
    simp only [latest] at isRead
    obtain ⟨rfl, rfl⟩ := Prod.mk.inj isRead
    have ends : (EventStream.ofPulls (.item (.ok snapshot) ::
        store.pages key (snapshot.sequenceNumber + 1) none backend) :
          EventStream (ReadMark Note) Payload).Ends backend fetches _ :=
      pagesBehind_ends sound store key snapshot
    refine ⟨ends.fetches_le [], ?_⟩
    rintro stream ⟨⟩
    exact ends
  | none =>
    simp only [latest] at isRead
    rcases isOpened : openStream (store.stream key 0 none backend :
      EventStream (ReadMark Note) Payload) backend with ⟨found, after⟩
    have opening := openStream_ends sound.reliable isOpened
    rw [entriesBetween_eq_recordsBetween sound.coherent] at opening
    obtain ⟨atMost, ofFound⟩ := opening
    simp only [isOpened] at isRead
    cases found with
    | some stream =>
      obtain ⟨rfl, rfl⟩ := Prod.mk.inj isRead
      refine ⟨atMost, ?_⟩
      rintro stream ⟨⟩
      exact (ofFound stream rfl).mono (Nat.le_refl _) (Nat.le_succ _)
    | none =>
      obtain ⟨rfl, rfl⟩ := Prod.mk.inj isRead
      refine ⟨atMost, ?_⟩
      rintro stream ⟨⟩

/-! ## Visits -/

/-- Behind a full page of a visit there is one page of records less. -/
theorem length_matching_behind {entries : EntryStore} (coherent : entries.Coherent)
    {criteria : Criteria} {after : Option EntryPosition} {size : Nat} {last : Entry}
    (found : (entries.fetchFiltered criteria after size).getLast? = some last) :
    (entries.matching criteria (some last.position)).length =
      (entries.matching criteria after).length - size := by
  have behind := congrArg List.length (coherent.sortByPosition_behind found)
  rw [List.length_drop, (EntryStore.sortByPosition_perm _).length_eq,
    (EntryStore.sortByPosition_perm _).length_eq] at behind
  exact behind

/-- A visit fetches once for each full page of its records and once more: a failure that lets
so many fetches pass, and some more, is not met, and comes nearer by just as many. -/
theorem visitPages_bounded {backend : Backend} (sound : backend.Sound)
    (store : EventStore Payload) (criteria : Criteria) (after : Option EntryPosition) :
    ∃ calls ≤ (backend.entries.matching criteria after).length / store.config.batchSize + 1,
      ∀ skip times error,
        let visited := store.visitPages criteria after backend
        store.visitPages criteria after
            (backend.plan .fetchFiltered ⟨skip + calls, times, error⟩) =
          (visited.1, visited.2.1, backend.plan .fetchFiltered ⟨skip, times, error⟩) := by
  fun_induction store.visitPages criteria after backend with
  | case1 after backend error next attempted =>
    rw [sound.reliable.attempt] at attempted
    cases attempted
  | case2 after backend next attempted unchanged batch events error failed =>
    refine ⟨1, Nat.le_add_left 1 _, ?_⟩
    intro skip times cause
    rw [visitPages_unfold, Backend.attempt_plan]
    simp only [batch] at failed
    simp only [Backend.plan, failed]
  | case3 after backend next attempted unchanged batch events read short =>
    refine ⟨1, Nat.le_add_left 1 _, ?_⟩
    intro skip times cause
    rw [visitPages_unfold, Backend.attempt_plan]
    simp only [batch] at read
    simp only [Backend.plan, read]
    exact if_pos short
  | case4 after backend next attempted unchanged batch events read full nothing =>
    rw [List.getLast?_eq_none_iff] at nothing
    rw [nothing] at full
    exact absurd store.batchSize_pos full
  | case5 after backend next attempted unchanged batch events read full last found member _ others
      result final visitedRest ih =>
    rw [sound.reliable.attempt] at attempted
    obtain ⟨-, rfl⟩ := Prod.mk.inj attempted
    obtain ⟨calls, few, passes⟩ := ih sound
    rw [length_matching_behind sound.coherent found] at few
    have fullPage : store.config.batchSize ≤
        (backend.entries.matching criteria after).length := by
      rw [← (EntryStore.sortByPosition_perm _).length_eq]
      simp only [batch, EntryStore.fetchFiltered, List.length_take] at full
      omega
    refine ⟨calls + 1, ?_, ?_⟩
    · have onePageMore := Nat.div_eq_sub_div store.batchSize_pos fullPage
      omega
    · intro skip times cause
      rw [visitPages_unfold, ← Nat.add_assoc, Backend.attempt_plan]
      simp only [batch] at read found
      have rest := passes skip times cause
      simp only [visitedRest] at rest
      simp only [Backend.plan] at rest ⊢
      simp only [read, found, rest]
      exact if_neg full

/-! ## Stores as they are built -/

/-- The store with something set. -/
def set (store : EventStore Payload) : StoreSetting → EventStore Payload
  | .config config => store.withConfig config
  | .batchSize size => store.withBatchSize size
  | .maxSnapshots count => store.withMaxSnapshots count
  | .upcasters chain => store.withUpcasters chain

/-- A store that is built by one setting after another. -/
def configured (serializer : Serializer Payload) (settings : List StoreSetting) :
    EventStore Payload :=
  settings.foldl set (.ofSerializer serializer)

omit [DocumentFamily Payload] in
/-- The last batch size that is given counts, but for at least one. -/
theorem batchSize_configured (serializer : Serializer Payload) (settings : List StoreSetting) :
    (configured serializer settings).config.batchSize =
      max ((settings.filterMap StoreSetting.batchSize?).getLastD 100) 1 := by
  have clamp (sizes : List Nat) (size : Nat) :
      max (sizes.getLastD (max size 1)) 1 = max (sizes.getLastD size) 1 := by
    cases sizes with
    | nil => exact Nat.max_eq_left (Nat.le_max_right size 1)
    | cons first rest => simp only [List.getLastD_cons]
  have further (store : EventStore Payload) : (settings.foldl set store).config.batchSize =
      max ((settings.filterMap StoreSetting.batchSize?).getLastD store.config.batchSize) 1 := by
    induction settings generalizing store with
    | nil => exact (Nat.max_eq_left store.batchSize_pos).symm
    | cons setting rest ih =>
      rw [List.foldl_cons, ih, List.filterMap_cons]
      cases setting with
      | config given =>
        simp only [StoreSetting.batchSize?, List.getLastD_cons]
        exact clamp _ given.batchSize
      | batchSize size =>
        simp only [StoreSetting.batchSize?, List.getLastD_cons]
        exact clamp _ size
      | maxSnapshots count => exact clamp _ store.config.batchSize
      | upcasters chain => rfl
  exact further (.ofSerializer serializer)

/-- A batch size of nothing is one of one, whatever else is set. -/
example (serializer : Serializer Payload) :
    (configured serializer [.batchSize 0, .maxSnapshots 5]).config.batchSize = 1 :=
  rfl

/-- However a store is built, and whatever an in-memory store has gone through: reading a
history or a part of it takes no more fetches than its records fill pages, and one or two
more, and what is read has no more items than the records have events, with a snapshot and a
failure.  Behind its last item and behind a failure a stream stays at its end.  A visit makes
no more fetches than the records that it meets fill pages, and one. -/
theorem reading_ends (Note : Type) (serializer : Serializer Payload)
    (settings : List StoreSetting) (changes : List StorageChange) :
    let store := configured serializer settings
    let size := store.config.batchSize
    let backend := Backend.empty.changeAll changes
    size = max ((settings.filterMap StoreSetting.batchSize?).getLastD 100) 1 ∧
    (∀ key first last,
      let records := backend.entries.recordsBetween key first last
      let fetches := backend.fetches + records.length / size + 2
      let (answer, opened) := store.readRange key first last backend
      opened.fetches ≤ fetches ∧
        ∀ stream : EventStream (ReadMark Note) Payload, answer = .ok stream →
          stream.Ends opened fetches ((records.flatMap store.codec.eventsOf).length + 1)) ∧
    (∀ key,
      let records := backend.entries.recordsBetween key 0 none
      let fetches := backend.fetches + records.length / size + 1
      let (answer, opened) := store.read key backend
      opened.fetches ≤ fetches ∧
        ∀ stream : EventStream (ReadMark Note) Payload, answer = .ok stream →
          stream.Ends opened fetches ((records.flatMap store.codec.eventsOf).length + 2)) ∧
    ∀ criteria,
      ∃ calls ≤ (backend.entries.log.toList.filter criteria.admits).length / size + 1,
        ∀ skip times error,
          let (visited, result, _) := store.visit criteria backend
          store.visit criteria (backend.plan .fetchFiltered ⟨skip + calls, times, error⟩) =
            (visited, result, backend.plan .fetchFiltered ⟨skip, times, error⟩) := by
  intro store size backend
  have sound : backend.Sound := Backend.sound_changeAll changes
  refine ⟨batchSize_configured serializer settings, ?_, ?_, ?_⟩
  · intro key first last
    exact readRange_bounded sound rfl
  · intro key
    exact read_bounded sound rfl
  · intro criteria
    have matched : (backend.entries.matching criteria none).length =
        (backend.entries.log.toList.filter criteria.admits).length := by
      simp [EntryStore.matching, EntryStore.isBehind]
    rw [← matched]
    exact visitPages_bounded sound store criteria none

end EventStore

end EventSourcing
