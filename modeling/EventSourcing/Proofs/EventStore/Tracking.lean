import EventSourcing.Proofs.EventStore.ForgetfulStore
import EventSourcing.Proofs.EventStore.RoundTrip
import EventSourcing.Proofs.Storage.Tailing

/-!
# Following the log

A consumer that wants all events reads them page by page, each page behind the token of
the last event it has received, until a page is without events (`EventStore.follow`).
A page is measured in records, but it is events that carry tokens.  So what a consumer
has received are the events of a front part of the log, each of them once and in order
(`Consumer.Follows`), and it comes to an end; but a page whose records are all dropped
looks to it like the end of the log (`EventStore.follow_stops_early`).  Where dropped
records never fill a page in front of a record that is not dropped, the consumer
receives everything (`EventStore.follow_receives`).
-/

namespace EventSourcing

/-- A consumer of all events: what it has received, and whether it has found the end. -/
structure Consumer (Payload : Type) where
  received : List (TrackedEvent Payload) := []
  finished : Bool := false

/-- The token of the last event received. -/
def Consumer.token? {Payload : Type} (consumer : Consumer Payload) : Option TrackingToken :=
  consumer.received.getLast?.map TrackedEvent.token

namespace EventStore

variable {Payload : Type} [DocumentFamily Payload]

/-- Reads one page behind the last event received.  A page without events is taken for
the end; what cannot be read may be tried again. -/
def poll (store : EventStore Payload) (limit : Nat) (consumer : Consumer Payload)
    (backend : Backend) : Consumer Payload × Backend :=
  if consumer.finished then (consumer, backend)
  else
    match store.readTracked consumer.token? limit backend with
    | (.ok [], backend) => ({ consumer with finished := true }, backend)
    | (.ok events, backend) => ({ consumer with received := consumer.received ++ events }, backend)
    | (.error _, backend) => (consumer, backend)

/-- Reads one page after another, each with a limit of its own. -/
def follow (store : EventStore Payload) :
    List Nat → Consumer Payload → Backend → Consumer Payload × Backend
  | [], consumer, backend => (consumer, backend)
  | limit :: rest, consumer, backend =>
    let (consumer, backend) := store.poll limit consumer backend
    store.follow rest consumer backend

/-! ## Reading records -/

/-- Everything in the log of a backend can be read. -/
def ReadsAll (store : EventStore Payload) (backend : Backend) : Prop :=
  ∀ entry ∈ backend.entries.log, ∃ events, store.codec.decode entry = .ok events

instance (store : EventStore Payload) (backend : Backend) : Decidable (store.ReadsAll backend) :=
  decidable_of_iff (∀ entry ∈ backend.entries.log.toList, (store.codec.decode entry).isOk) (by
    refine forall_congr' fun entry => imp_congr Array.mem_toList_iff ?_
    cases store.codec.decode entry <;> simp [Except.isOk, Except.toBool])

/-- The events of a record, each with the token of the record. -/
def eventsOf (store : EventStore Payload) (record : TrackedEntry) : List (TrackedEvent Payload) :=
  (store.codec.eventsOf record.entry).map fun event =>
    ⟨record.token, record.entry.aggregateType, event⟩

variable {store : EventStore Payload} {records : List TrackedEntry}

theorem token_of_mem_eventsOf {record : TrackedEntry} {event : TrackedEvent Payload}
    (isEvent : event ∈ store.eventsOf record) : event.token = record.token := by
  obtain ⟨_, -, rfl⟩ := List.mem_map.mp isEvent
  rfl

theorem decodeTracked_eq
    (readable : ∀ record ∈ records, ∃ events, store.codec.decode record.entry = .ok events) :
    store.decodeTracked records = .ok (records.flatMap store.eventsOf) := by
  have each : List.Forall₂ (fun record answer => (do
        let events ← store.codec.decode record.entry
        return events.map fun event =>
          (⟨record.token, record.entry.aggregateType, event⟩ : TrackedEvent Payload)) =
      Except.ok (ε := DocumentError) answer) records (records.map store.eventsOf) := by
    rw [List.forall₂_map_right_iff, List.forall₂_same]
    intro record listed
    obtain ⟨events, decoded⟩ := readable record listed
    simp only [eventsOf, decoded, EventCodec.eventsOf_of_decode decoded]
    rfl
  rw [decodeTracked, mapM_eq_ok_of_forall₂ each, List.flatMap_def]
  rfl

theorem readTracked_eq {backend : Backend} (reliable : backend.Reliable)
    (readable : store.ReadsAll backend)
    (after : Option TrackingToken) (limit : Nat) :
    store.readTracked after limit backend =
      (.ok (((backend.entries.tracked.drop (after.elim 0 TrackingToken.index)).take
        limit).flatMap store.eventsOf), backend) := by
  rw [readTracked, reliable.fetchTracked, EntryStore.fetchTracked_eq]
  simp only
  rw [decodeTracked_eq]
  intro record inPage
  exact readable record.entry (EntryStore.mem_log_of_mem_tracked
    (List.mem_of_mem_drop (List.mem_of_mem_take inPage)))

/-! ## One page -/

/-- Among items with any answers there is a last one that has answers. -/
theorem exists_last_of_flatMap_ne_nil {Item Answer : Type} {answers : Item → List Answer}
    {items : List Item} (something : items.flatMap answers ≠ []) :
    ∃ front item back, items = front ++ item :: back ∧ answers item ≠ [] ∧
      back.flatMap answers = [] := by
  induction items with
  | nil => simp at something
  | cons item rest ih =>
    by_cases restSilent : rest.flatMap answers = []
    · refine ⟨[], item, rest, rfl, ?_, restSilent⟩
      simpa [restSilent] using something
    · obtain ⟨front, last, back, rfl, answered, silent⟩ := ih restSilent
      exact ⟨item :: front, last, back, rfl, answered, silent⟩

/-- Among items with any answers there is a first one that has answers. -/
theorem exists_first_of_flatMap_ne_nil {Item Answer : Type} {answers : Item → List Answer}
    {items : List Item} (something : items.flatMap answers ≠ []) :
    ∃ front item back, items = front ++ item :: back ∧ front.flatMap answers = [] ∧
      answers item ≠ [] := by
  induction items with
  | nil => simp at something
  | cons item rest ih =>
    by_cases silent : answers item = []
    · have restAnswers : rest.flatMap answers ≠ [] := by simpa [silent] using something
      obtain ⟨front, first, back, rfl, frontSilent, answered⟩ := ih restAnswers
      exact ⟨item :: front, first, back, rfl, by simpa [silent] using frontSilent, answered⟩
    · exact ⟨[], item, rest, rfl, rfl, silent⟩

/-- If nothing answers up to a limit, and the items in front of the first answer are fewer
than the limit, then nothing answers at all. -/
theorem flatMap_eq_nil_of_take {Item Answer : Type} {answers : Item → List Answer}
    {items : List Item} {limit : Nat} (dropped : (items.take limit).flatMap answers = [])
    (narrow : ∀ front item back, items = front ++ item :: back → front.flatMap answers = [] →
      answers item ≠ [] → front.length < limit) : items.flatMap answers = [] := by
  by_contra something
  obtain ⟨front, item, back, rfl, silent, answered⟩ := exists_first_of_flatMap_ne_nil something
  have inPage : item ∈ (front ++ item :: back).take limit := by
    refine List.mem_of_getElem? (i := front.length) ?_
    rw [List.getElem?_take_of_lt (narrow front item back rfl silent answered),
      List.getElem?_append_right (Nat.le_refl _), Nat.sub_self, List.getElem?_cons_zero]
  exact answered (List.flatMap_eq_nil_iff.mp dropped item inPage)

end EventStore

namespace Consumer

variable {Payload : Type} [DocumentFamily Payload] {store : EventStore Payload}
  {consumer : Consumer Payload} {past : List TrackedEntry}

/-- The consumer has received the events of some records and holds the token of the last
of them. -/
structure Follows (store : EventStore Payload) (past : List TrackedEntry)
    (consumer : Consumer Payload) : Prop where
  received : consumer.received = past.flatMap store.eventsOf
  token : consumer.token?.elim 0 TrackingToken.index = past.length

theorem follows_start : ({} : Consumer Payload).Follows store [] where
  received := rfl
  token := rfl

/-- The events of records that end with one that is not dropped take a consumer there. -/
theorem Follows.receive {entries : EntryStore} {front rest : List TrackedEntry}
    {record : TrackedEntry} (follows : consumer.Follows store past)
    (split : entries.tracked = past ++ (front ++ [record]) ++ rest)
    (kept : store.eventsOf record ≠ []) :
    ({ consumer with
        received := consumer.received ++ (front ++ [record]).flatMap store.eventsOf } :
      Consumer Payload).Follows store (past ++ (front ++ [record])) where
  received := by rw [follows.received, ← List.flatMap_append]
  token := by
    obtain ⟨event, isLast⟩ := Option.ne_none_iff_exists'.mp
      (mt List.getLast?_eq_none_iff.mp kept)
    have sameToken := EventStore.token_of_mem_eventsOf (List.mem_of_getLast? isLast)
    have place : record.token.index = (past ++ front).length + 1 := by
      refine EntryStore.token_of_tracked_eq (?_ : entries.tracked = _ ++ record :: rest)
      simpa using split
    have lastReceived : (consumer.received ++
        (front ++ [record]).flatMap store.eventsOf).getLast? = some event := by
      rw [List.flatMap_append, List.flatMap_singleton, List.getLast?_append, List.getLast?_append,
        isLast]
      rfl
    simp only [token?, lastReceived, Option.map_some, Option.elim_some, sameToken, place,
      List.length_append, List.length_singleton, Nat.add_assoc]

end Consumer

namespace EventStore

variable {Payload : Type} [DocumentFamily Payload] {store : EventStore Payload}
  {consumer : Consumer Payload} {backend : Backend} {past future : List TrackedEntry}

theorem poll_of_nothing {limit : Nat} (unfinished : consumer.finished = false)
    (read : store.readTracked consumer.token? limit backend = (.ok [], backend)) :
    store.poll limit consumer backend = ({ consumer with finished := true }, backend) := by
  simp [poll, unfinished, read]

theorem poll_of_events {limit : Nat} {events : List (TrackedEvent Payload)}
    (unfinished : consumer.finished = false) (something : events ≠ [])
    (read : store.readTracked consumer.token? limit backend = (.ok events, backend)) :
    store.poll limit consumer backend =
      ({ consumer with received := consumer.received ++ events }, backend) := by
  obtain ⟨event, rest, rfl⟩ := List.exists_cons_of_ne_nil something
  simp [poll, unfinished, read]

/-- A page takes a consumer to the last of its records that is not dropped.  If all of
them are dropped, the consumer is finished. -/
theorem poll_spec (reliable : backend.Reliable) (readable : store.ReadsAll backend)
    (split : backend.entries.tracked = past ++ future) (follows : consumer.Follows store past)
    (unfinished : consumer.finished = false) (limit : Nat) :
    ((future.take limit).flatMap store.eventsOf = [] ∧
        store.poll limit consumer backend = ({ consumer with finished := true }, backend)) ∨
      ∃ front record rest next, future = front ++ [record] ++ rest ∧ front.length < limit ∧
        store.eventsOf record ≠ [] ∧ store.poll limit consumer backend = (next, backend) ∧
        next.finished = false ∧ next.Follows store (past ++ (front ++ [record])) := by
  have read := store.readTracked_eq reliable readable consumer.token? limit
  rw [follows.token, split, List.drop_left] at read
  by_cases dropped : (future.take limit).flatMap store.eventsOf = []
  · rw [dropped] at read
    exact .inl ⟨dropped, poll_of_nothing unfinished read⟩
  · obtain ⟨front, record, back, page, kept, silent⟩ := exists_last_of_flatMap_ne_nil dropped
    have futureSplit : future = front ++ [record] ++ (back ++ future.drop limit) := by
      calc
        future = future.take limit ++ future.drop limit := (List.take_append_drop _ _).symm
        _ = front ++ [record] ++ (back ++ future.drop limit) := by rw [page]; simp
    have short : front.length < limit := by
      have lengths := congrArg List.length page
      rw [List.length_take, List.length_append, List.length_cons] at lengths
      omega
    have pageEvents : (future.take limit).flatMap store.eventsOf =
        (front ++ [record]).flatMap store.eventsOf := by
      rw [page, List.flatMap_append, List.flatMap_cons, silent]
      simp
    rw [pageEvents] at read dropped
    rw [futureSplit, ← List.append_assoc] at split
    exact .inr ⟨front, record, _, _, futureSplit, short, kept,
      poll_of_events unfinished dropped read, unfinished, follows.receive split kept⟩

/-! ## Page after page -/

theorem follow_of_finished (finished : consumer.finished = true) (limits : List Nat) :
    store.follow limits consumer backend = (consumer, backend) := by
  induction limits with
  | nil => rfl
  | cons limit rest ih =>
    have stays : store.poll limit consumer backend = (consumer, backend) := by
      simp [poll, finished]
    rw [follow, stays]
    exact ih

/-- A consumer goes on with every page until it is finished by one whose records are all
dropped. -/
theorem follow_spec (reliable : backend.Reliable) (readable : store.ReadsAll backend)
    (split : backend.entries.tracked = past ++ future) (follows : consumer.Follows store past)
    (unfinished : consumer.finished = false) (limits : List Nat) :
    ∃ more rest next, future = more ++ rest ∧
      store.follow limits consumer backend = (next, backend) ∧
      next.Follows store (past ++ more) ∧
      (next.finished = false → limits.length ≤ more.length) ∧
      (next.finished = true → ∃ limit ∈ limits, (rest.take limit).flatMap store.eventsOf = []) := by
  induction limits generalizing consumer past future with
  | nil =>
    refine ⟨[], future, consumer, rfl, rfl, by rwa [List.append_nil], fun _ => Nat.le_refl _, ?_⟩
    intro finished
    rw [unfinished] at finished
    exact absurd finished Bool.false_ne_true
  | cons limit limits ih =>
    rw [follow]
    rcases poll_spec reliable readable split follows unfinished limit with
      ⟨dropped, polled⟩ |
        ⟨front, record, rest, next, rfl, -, -, polled, nextUnfinished, nextFollows⟩
    · rw [polled]
      refine ⟨[], future, _, rfl, follow_of_finished rfl limits, ?_, nofun, fun _ => ?_⟩
      · rw [List.append_nil]
        exact ⟨follows.received, follows.token⟩
      · exact ⟨limit, List.mem_cons_self, dropped⟩
    · rw [polled]
      rw [← List.append_assoc] at split
      obtain ⟨more, behind, final, rfl, followed, finalFollows, progress, stopped⟩ :=
        ih split nextFollows nextUnfinished
      refine ⟨front ++ [record] ++ more, behind, final, by simp, followed, ?_, ?_, ?_⟩
      · rwa [← List.append_assoc]
      · intro finalUnfinished
        have further := progress finalUnfinished
        simp only [List.length_cons, List.length_append]
        omega
      · intro finished
        obtain ⟨last, isLimit, dropped⟩ := stopped finished
        exact ⟨last, List.mem_cons_of_mem _ isLimit, dropped⟩

/-- No page is long enough to cross dropped records that are as many as any limit. -/
theorem follow_stays (reliable : backend.Reliable) (readable : store.ReadsAll backend)
    {front gap back : List TrackedEntry} (standing : backend.entries.tracked = front ++ gap ++ back)
    (gapDropped : gap.flatMap store.eventsOf = []) {limits : List Nat}
    (short : ∀ limit ∈ limits, limit ≤ gap.length)
    (split : backend.entries.tracked = past ++ future) (follows : consumer.Follows store past)
    (before : past.length ≤ front.length) :
    ∃ reached, reached.length ≤ front.length ∧
      (store.follow limits consumer backend).1.Follows store reached := by
  induction limits generalizing consumer past future with
  | nil => exact ⟨past, before, follows⟩
  | cons limit limits ih =>
    have restShort : ∀ other ∈ limits, other ≤ gap.length := fun other isLimit =>
      short other (List.mem_cons_of_mem _ isLimit)
    by_cases finished : consumer.finished = true
    · rw [follow_of_finished finished]
      exact ⟨past, before, follows⟩
    · rw [follow]
      rcases poll_spec reliable readable split follows (by simpa using finished) limit with
        ⟨-, polled⟩ | ⟨more, record, rest, next, rfl, within, kept, polled, -, nextFollows⟩
      · rw [polled]
        simp only [follow_of_finished]
        exact ⟨past, before, follows.received, follows.token⟩
      · rw [polled]
        refine ih restShort (by simpa [List.append_assoc] using split) nextFollows ?_
        by_contra crossed
        have limitShort := short limit List.mem_cons_self
        simp only [List.length_append, List.length_singleton, Nat.not_le] at crossed
        have standsAt : backend.entries.tracked[past.length + more.length]? = some record := by
          rw [split, List.getElem?_append_right (by omega)]
          simp
        have inGap : record ∈ gap := by
          rw [standing, List.append_assoc, List.getElem?_append_right (by omega),
            List.getElem?_append_left (by omega)] at standsAt
          exact List.mem_of_getElem? standsAt
        exact kept (List.flatMap_eq_nil_iff.mp gapDropped record inGap)

/-! ## What a consumer receives -/

/-- A run of dropped records in front of one that is not dropped. -/
def IsGap (store : EventStore Payload) (records gap : List TrackedEntry) : Prop :=
  ∃ front record back, records = front ++ gap ++ record :: back ∧
    store.decodeTracked gap = .ok [] ∧ store.decodeTracked [record] ≠ .ok []

theorem isGap_iff {gap : List TrackedEntry}
    (readable : ∀ record ∈ records, ∃ events, store.codec.decode record.entry = .ok events) :
    store.IsGap records gap ↔ ∃ front record back, records = front ++ gap ++ record :: back ∧
      gap.flatMap store.eventsOf = [] ∧ store.eventsOf record ≠ [] := by
  refine exists_congr fun front => exists_congr fun record => exists_congr fun back =>
    and_congr_right fun standing => ?_
  have gapReadable : ∀ other ∈ gap, ∃ events, store.codec.decode other.entry = .ok events :=
    fun other inGap => readable other (by rw [standing]; simp [inGap])
  have recordReadable : ∀ other ∈ [record], ∃ events,
      store.codec.decode other.entry = .ok events := fun other isRecord =>
    readable other (by rw [standing]; simp [List.mem_singleton.mp isRecord])
  rw [decodeTracked_eq gapReadable, decodeTracked_eq recordReadable]
  simp

/-- A page without events that is longer than every gap has nothing behind it. -/
theorem flatMap_eventsOf_eq_nil_of_narrow {limit : Nat}
    (readable : ∀ record ∈ past ++ future, ∃ events,
      store.codec.decode record.entry = .ok events)
    (dropped : (future.take limit).flatMap store.eventsOf = [])
    (narrow : ∀ gap, store.IsGap (past ++ future) gap → gap.length < limit) :
    future.flatMap store.eventsOf = [] := by
  refine flatMap_eq_nil_of_take dropped fun gap record back split silent answered => ?_
  refine narrow gap ((isGap_iff readable).mpr ⟨past, record, back, ?_, silent, answered⟩)
  rw [split, List.append_assoc]

/-- In front of a record that is not dropped, something is missing. -/
theorem flatMap_eventsOf_ne_of_behind {front back : List TrackedEntry} {record : TrackedEntry}
    (standing : past ++ future = front ++ record :: back) (kept : store.eventsOf record ≠ [])
    (short : past.length ≤ front.length) :
    (past ++ future).flatMap store.eventsOf ≠ past.flatMap store.eventsOf := by
  intro all
  rw [List.flatMap_append, List.append_right_eq_self] at all
  have standsAt : (past ++ future)[front.length]? = some record := by
    rw [standing, List.getElem?_append_right (Nat.le_refl _), Nat.sub_self,
      List.getElem?_cons_zero]
  rw [List.getElem?_append_right short] at standsAt
  exact kept (List.flatMap_eq_nil_iff.mp all record (List.mem_of_getElem? standsAt))

/-- A consumer of a log that can be read comes to an end, and what it has received then
and before are the events of the records of a front part of the log, each once and in
order.  If its pages are longer than every gap it receives everything; if a gap is as
long as its longest page it does not, however often it asks. -/
theorem follow_receives (store : EventStore Payload) {backend : Backend}
    (reliable : backend.Reliable) (readable : store.ReadsAll backend)
    (limits : List Nat) :
    let consumer := (store.follow limits {} backend).1
    let records := backend.entries.tracked
    (records.length < limits.length → consumer.finished = true) ∧
    (∃ past future, records = past ++ future ∧
      store.decodeTracked past = .ok consumer.received) ∧
    ((∀ gap, store.IsGap records gap → ∀ limit ∈ limits, gap.length < limit) →
      consumer.finished = true → store.decodeTracked records = .ok consumer.received) ∧
    (∀ gap, store.IsGap records gap → (∀ limit ∈ limits, limit ≤ gap.length) →
      store.decodeTracked records ≠ .ok consumer.received) := by
  intro consumer records
  have readsRecords : ∀ record ∈ records, ∃ events,
      store.codec.decode record.entry = .ok events := fun record listed =>
    readable record.entry (EntryStore.mem_log_of_mem_tracked listed)
  obtain ⟨past, future, reached, split, followed, follows, progress, stopped⟩ :=
    follow_spec reliable readable (List.nil_append records).symm Consumer.follows_start rfl limits
  obtain rfl : consumer = reached := congrArg Prod.fst followed
  rw [List.nil_append] at follows
  have isRecords : records = past ++ future := split
  have isPast : store.decodeTracked past = .ok consumer.received := by
    rw [follows.received]
    exact decodeTracked_eq fun record listed =>
      readsRecords record (isRecords ▸ List.mem_append_left future listed)
  refine ⟨fun many => ?_, ⟨past, future, split, isPast⟩, fun narrow finished => ?_,
    fun gap isGap wide all => ?_⟩
  · by_contra unfinished
    have short := progress (by simpa using unfinished)
    rw [isRecords, List.length_append] at many
    omega
  · obtain ⟨limit, isLimit, dropped⟩ := stopped finished
    rw [decodeTracked_eq readsRecords, follows.received]
    rw [isRecords] at narrow readsRecords ⊢
    rw [List.flatMap_append, flatMap_eventsOf_eq_nil_of_narrow readsRecords dropped
      fun gap isGap => narrow gap isGap limit isLimit, List.append_nil]
  · obtain ⟨front, record, back, standing, gapDropped, kept⟩ := (isGap_iff readsRecords).mp isGap
    obtain ⟨stayed, before, stays⟩ := follow_stays reliable readable standing gapDropped wide
      (List.nil_append records).symm Consumer.follows_start (Nat.zero_le _)
    have pastShort : past.length ≤ (front ++ gap).length := by
      rw [← follows.token, stays.token, List.length_append]
      exact Nat.le_add_right_of_le before
    rw [decodeTracked_eq readsRecords, follows.received] at all
    rw [isRecords] at standing all
    exact flatMap_eventsOf_ne_of_behind standing kept pastShort (Except.ok.inj all)

/-- The first page brings the installation, the second one only what is dropped. -/
theorem follow_receives_of_meter :
    let backend := Meter.stored [.installed ⟨"m"⟩ 2, .measured 1, .measured 2]
    backend.Reliable ∧ Meter.forgetfulStore.ReadsAll backend ∧
      (Meter.forgetfulStore.follow [1, 2, 1, 2] {} backend).1.finished = true := by
  intro backend
  have reliable : backend.Reliable := (Meter.sound_stored _).reliable
  have readable : Meter.forgetfulStore.ReadsAll backend := by decide
  have finishes := (follow_receives Meter.forgetfulStore reliable readable [1, 2, 1, 2]).1
  exact ⟨reliable, readable, finishes (by decide)⟩

/-- The second page is a dropped measurement; the installation behind it never arrives. -/
theorem follow_stops_early :
    ∃ (backend : Backend) (limits : List Nat) (all : List (TrackedEvent MeterPayload)),
      backend.Reliable ∧ (∀ limit ∈ limits, 0 < limit) ∧
      Meter.forgetfulStore.decodeTracked backend.entries.tracked = .ok all ∧
      (Meter.forgetfulStore.follow limits {} backend).1.finished = true ∧
      (Meter.forgetfulStore.follow limits {} backend).1.received ≠ all := by
  refine ⟨Meter.stored [.installed ⟨"m"⟩ 2, .measured 1, .installed ⟨"m"⟩ 3], [1, 1], _,
    (Meter.sound_stored _).reliable, by decide, rfl, rfl, fun same => ?_⟩
  exact absurd (congrArg List.length same) (by decide)

end EventStore

end EventSourcing
