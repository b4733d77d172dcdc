import EventSourcing.EventStore.Basic
import EventSourcing.Proofs.Storage.Reliability

/-!
# Reading in batches

However many entries are fetched at a time, the pulls of a history deliver the
events of all its entries in the range asked for, in order, or end with the error of
the first of them that cannot be read (`EventStore.pages_delivers`).  The batches are
put together by the numbers alone: the next one starts behind the last entry fetched,
and since a history ascends this is where the one before has ended.
-/

namespace EventSourcing

namespace Pull

theorem uncons_rest_of_none {Mark Item : Type} (pulls : List (Pull Mark Item))
    (nothing : (uncons pulls).2.1 = none) : (uncons pulls).2.2 = [] := by
  induction pulls with
  | nil => rfl
  | cons pull rest ih =>
    cases pull with
    | mark first => exact ih nothing
    | item head => simp [uncons] at nothing

end Pull

namespace EventCodec

variable {Payload : Type} [DocumentFamily Payload]

variable {codec : EventCodec Payload} {front : List Entry}

theorem decodeAll_append_of_ok {events : List (DomainEvent Payload)}
    (read : codec.decodeAll front = .ok events) (back : List Entry) :
    codec.decodeAll (front ++ back) = (events ++ ·) <$> codec.decodeAll back := by
  unfold decodeAll at read ⊢
  rw [List.mapM_append]
  cases frontRead : front.mapM codec.decode with
  | error error => simp [frontRead, Functor.map, Except.map] at read
  | ok first =>
    rw [frontRead] at read
    obtain rfl := Except.ok.inj read
    cases back.mapM codec.decode with
    | error error => rfl
    | ok second => simp [bind, Except.bind, Functor.map, Except.map, pure, Except.pure]

theorem decodeAll_append_of_error {error : DocumentError}
    (unreadable : codec.decodeAll front = .error error) (back : List Entry) :
    codec.decodeAll (front ++ back) = .error error := by
  unfold decodeAll at unreadable ⊢
  rw [List.mapM_append]
  cases frontRead : front.mapM codec.decode with
  | error found =>
    rw [frontRead] at unreadable
    obtain rfl := Except.error.inj unreadable
    rfl
  | ok first => simp [frontRead, Functor.map, Except.map] at unreadable

end EventCodec

namespace EntryStore

/-- Behind a batch the history goes on with the number behind its last entry. -/
theorem entriesFrom_behind {store : EntryStore} {key : StreamKey} {first size : Nat}
    {entry : Entry} (last : (store.fetchBatch key first size).getLast? = some entry) :
    store.entriesFrom key (entry.sequenceNumber + 1) = (store.entriesFrom key first).drop size := by
  have member : entry ∈ store.entriesFrom key first :=
    List.mem_of_mem_take (List.mem_of_getLast? last)
  rw [store.entriesFrom_eq_filter key (Nat.le_succ_of_le (mem_entriesFrom_le member))]
  have ascending : (store.entriesFrom key first).Pairwise fun entry later =>
      decide (entry.sequenceNumber + 1 ≤ later.sequenceNumber) = true :=
    (store.entriesFrom_ascending key first).imp fun less => decide_eq_true less
  refine filter_eq_drop_of_ascending ascending ?_ last
  intro entry later before
  rw [decide_eq_true_eq] at before
  rw [decide_eq_false_iff_not]
  omega

end EntryStore

namespace EventStore

variable {Payload Note : Type} [DocumentFamily Payload]

omit [DocumentFamily Payload] in
@[simp] theorem items_delivered (events : List (DomainEvent Payload)) :
    Pull.items (delivered events : List (Pull (ReadMark Note) (StreamItem Payload))) =
      events.map .ok := by
  simp only [delivered, Pull.items]
  induction events with
  | nil => rfl
  | cons event rest ih => simp only [List.map_cons, Pull.items, ih]

/-- The entries of a history between two numbers. -/
def entriesBetween (entries : EntryStore) (key : StreamKey) (first : Nat) (last : Option Nat) :
    List Entry :=
  (entries.entriesFrom key first).takeWhile fun entry => !isBeyond last entry.sequenceNumber

theorem entriesBetween_none (entries : EntryStore) (key : StreamKey) (first : Nat) :
    entriesBetween entries key first none = entries.entriesFrom key first := by
  unfold entriesBetween
  induction entries.entriesFrom key first with
  | nil => rfl
  | cons entry rest ih =>
    rw [List.takeWhile_cons_of_pos (by rfl), ih]

theorem entriesBetween_of_isBeyond {entries : EntryStore} {key : StreamKey} {first : Nat}
    {last : Option Nat} (beyond : isBeyond last first = true) :
    entriesBetween entries key first last = [] := by
  cases last with
  | none => simp [isBeyond] at beyond
  | some last =>
    simp only [isBeyond, decide_eq_true_eq] at beyond
    unfold entriesBetween
    cases found : entries.entriesFrom key first with
    | nil => rfl
    | cons entry rest =>
      have atLeast : first ≤ entry.sequenceNumber :=
        EntryStore.mem_entriesFrom_le (found ▸ List.mem_cons_self)
      have beyondToo : last < entry.sequenceNumber := by omega
      simp [isBeyond, beyondToo]

/-- The entries of a batch that lie between two numbers. -/
def batchBetween (entries : EntryStore) (key : StreamKey) (first : Nat) (last : Option Nat)
    (size : Nat) : List Entry :=
  (entries.fetchBatch key first size).takeWhile fun entry => !isBeyond last entry.sequenceNumber

/-- Only a batch that is wanted as a whole can be followed by more. -/
theorem entriesBetween_eq (entries : EntryStore) (key : StreamKey) (first : Nat)
    (last : Option Nat) (size : Nat) :
    entriesBetween entries key first last = batchBetween entries key first last size ++
      if (batchBetween entries key first last size).length =
          (entries.fetchBatch key first size).length then
        ((entries.entriesFrom key first).drop size).takeWhile fun entry =>
          !isBeyond last entry.sequenceNumber
      else [] := by
  unfold entriesBetween batchBetween EntryStore.fetchBatch
  generalize entries.entriesFrom key first = found
  generalize hWithin : (fun entry : Entry => !isBeyond last entry.sequenceNumber) = within
  conv_lhs => rw [← List.take_append_drop size found, List.takeWhile_append]
  by_cases whole : ((found.take size).takeWhile within).length = (found.take size).length
  · have front : (found.take size).takeWhile within <+: found.take size :=
      List.takeWhile_prefix within
    have all := front.eq_of_length whole
    rw [if_pos whole, if_pos whole, all]
  · rw [if_neg whole, if_neg whole, List.append_nil]

/-- A short batch, and one that is not wanted as a whole, is the last one. -/
theorem entriesBetween_eq_of_last {entries : EntryStore} {key : StreamKey} {first size : Nat}
    {last : Option Nat}
    (isLast : (entries.fetchBatch key first size).length < size ∨
      (batchBetween entries key first last size).length <
        (entries.fetchBatch key first size).length) :
    entriesBetween entries key first last = batchBetween entries key first last size := by
  rw [entriesBetween_eq entries key first last size]
  rcases isLast with short | unwanted
  · have nothingBehind : (entries.entriesFrom key first).drop size = [] := by
      rw [List.drop_eq_nil_iff]
      rw [EntryStore.fetchBatch, List.length_take] at short
      omega
    simp [nothingBehind]
  · rw [if_neg (Nat.ne_of_lt unwanted), List.append_nil]

theorem entriesBetween_eq_of_more {entries : EntryStore} {key : StreamKey} {first size : Nat}
    {last : Option Nat} {entry : Entry}
    (wanted : ¬(batchBetween entries key first last size).length <
      (entries.fetchBatch key first size).length)
    (found : (entries.fetchBatch key first size).getLast? = some entry) :
    entriesBetween entries key first last = batchBetween entries key first last size ++
      entriesBetween entries key (entry.sequenceNumber + 1) last := by
  have front : batchBetween entries key first last size <+: entries.fetchBatch key first size :=
    List.takeWhile_prefix _
  have whole := Nat.le_antisymm front.length_le (Nat.not_lt.mp wanted)
  rw [entriesBetween_eq entries key first last size, if_pos whole, entriesBetween,
    EntryStore.entriesFrom_behind found]

/-- What a stream delivers of entries that are read: all their events, or the error of
the reading behind some of them. -/
def Delivers (items : List (StreamItem Payload)) :
    Except DocumentError (List (DomainEvent Payload)) → Prop
  | .ok events => items = events.map .ok
  | .error error => ∃ events : List (DomainEvent Payload),
      items = events.map .ok ++ [.error (EventStoreError.document error).toStreamError]

omit [DocumentFamily Payload] in
theorem Delivers.append {items : List (StreamItem Payload)}
    {answer : Except DocumentError (List (DomainEvent Payload))} (delivers : Delivers items answer)
    (events : List (DomainEvent Payload)) :
    Delivers (events.map .ok ++ items) ((events ++ ·) <$> answer) := by
  cases answer with
  | ok others =>
    obtain rfl : items = others.map .ok := delivers
    exact List.map_append.symm
  | error error =>
    obtain ⟨others, rfl⟩ := delivers
    refine ⟨events ++ others, ?_⟩
    rw [List.map_append, List.append_assoc]

omit [DocumentFamily Payload] in
theorem Delivers.eq_ok_nil_iff {items : List (StreamItem Payload)}
    {answer : Except DocumentError (List (DomainEvent Payload))}
    (delivers : Delivers items answer) : items = [] ↔ answer = .ok [] := by
  cases answer with
  | ok events =>
    obtain rfl : items = events.map .ok := delivers
    simp
  | error error =>
    obtain ⟨events, rfl⟩ := delivers
    simp

/-- The pulls of a history deliver what its entries between two numbers read as. -/
theorem pages_delivers {store : EventStore Payload} {key : StreamKey} {first : Nat}
    {last : Option Nat} {backend : Backend} (reliable : backend.Reliable) :
    Delivers
      (Pull.items (store.pages key first last backend :
        List (Pull (ReadMark Note) (StreamItem Payload))))
      (store.codec.decodeAll (entriesBetween backend.entries key first last)) := by
  fun_induction @pages Payload Note _ store key first last backend with
  | case1 first backend beyond =>
    rw [entriesBetween_of_isBeyond beyond]
    rfl
  | case2 first backend within error after attempted =>
    simp [reliable.attemptFetch] at attempted
  | case3 =>
    rename_i first backend _ _ _ _ _ _ error decoded
    have unreadable : store.codec.decodeAll
        (batchBetween backend.entries key first last store.config.batchSize) = .error error :=
      decoded
    rw [entriesBetween_eq backend.entries key first last store.config.batchSize,
      EventCodec.decodeAll_append_of_error unreadable]
    exact ⟨[], rfl⟩
  | case4 =>
    rename_i first backend _ _ _ _ _ _ events decoded isLast
    rw [Bool.or_eq_true, decide_eq_true_eq, decide_eq_true_eq] at isLast
    have readable : store.codec.decodeAll
        (batchBetween backend.entries key first last store.config.batchSize) = .ok events :=
      decoded
    rw [entriesBetween_eq_of_last isLast, readable]
    exact items_delivered events
  | case5 =>
    rename_i notLast nothing
    rw [List.getLast?_eq_none_iff] at nothing
    simp [nothing, store.batchSize_pos] at notLast
  | case6 =>
    rename_i first backend _ after attempted unchanged _ _ events decoded notLast entry found _ _ ih
    rw [Bool.or_eq_true, decide_eq_true_eq, decide_eq_true_eq, not_or] at notLast
    have reliableAfter : after.Reliable := by
      rw [reliable.attemptFetch] at attempted
      exact (Prod.mk.inj attempted).2 ▸ reliable
    have behind := (ih reliableAfter).append events
    rw [unchanged, ← EventCodec.decodeAll_append_of_ok decoded] at behind
    rw [Pull.items_append, items_delivered, entriesBetween_eq_of_more notLast.2 found]
    exact behind

/-! ## Opening a history -/

omit [DocumentFamily Payload] in
/-- An opened stream delivers what the stream did; only a stream that delivers
nothing cannot be opened.  The entries stay as they are. -/
theorem openStream_spec (stream : EventStream (ReadMark Note) Payload) {backend : Backend}
    (reliable : backend.Reliable) :
    (openStream stream backend).2.entries = backend.entries ∧
      (openStream stream backend).2.Reliable ∧
      ((stream.items = [] ∧ (openStream stream backend).1 = none) ∨
        (stream.items ≠ [] ∧ ∃ opened, (openStream stream backend).1 = some opened ∧
          opened.items = stream.items)) := by
  have split := Pull.items_eq_uncons stream.pulls
  rcases taken : Pull.uncons stream.pulls with ⟨marks, item, rest⟩
  rw [taken] at split
  cases item with
  | none =>
    simp only [openStream, taken]
    refine ⟨Backend.entries_settle backend marks, reliable.settle marks, .inl ⟨?_, trivial⟩⟩
    have nothingBehind := Pull.uncons_rest_of_none stream.pulls (by rw [taken])
    rw [taken] at nothingBehind
    rw [EventStream.items, split, nothingBehind]
    rfl
  | some item =>
    simp only [openStream, taken]
    refine ⟨Backend.entries_settle backend marks, reliable.settle marks, .inr ⟨?_, _, rfl, ?_⟩⟩
    · rw [EventStream.items, split]
      simp
    · rw [EventStream.items, EventStream.items, split]
      rfl

omit [DocumentFamily Payload] in
@[simp] theorem entries_openStream (stream : EventStream (ReadMark Note) Payload)
    (backend : Backend) : (openStream stream backend).2.entries = backend.entries := by
  unfold openStream
  rcases Pull.uncons stream.pulls with ⟨marks, _ | item, rest⟩
  · exact Backend.entries_settle backend marks
  · exact Backend.entries_settle backend marks

/-- Reading changes nothing that is stored, whether it fails or not. -/
@[simp] theorem entries_read (store : EventStore Payload) (key : StreamKey) (backend : Backend) :
    (@read Payload Note _ store key backend).2.entries = backend.entries := by
  have unchanged : (backend.loadLastSnapshot key).2.entries = backend.entries := by
    simp [Backend.loadLastSnapshot]
  rcases loaded : backend.loadLastSnapshot key with ⟨error | snapshot, after⟩
  · rw [loaded] at unchanged
    simpa only [read, loaded] using unchanged
  · rw [loaded] at unchanged
    simp only [read, loaded]
    split
    · exact unchanged
    · have opened := entries_openStream (store.stream key 0 none after :
        EventStream (ReadMark Note) Payload) after
      split
      next result => rw [result] at opened; exact opened.trans unchanged
      next result => rw [result] at opened; exact opened.trans unchanged

omit [DocumentFamily Payload] in
theorem map_cons_ne_nil {event : DomainEvent Payload}
    {answer : Except DocumentError (List (DomainEvent Payload))} :
    (event :: ·) <$> answer ≠ .ok [] := by
  cases answer <;> simp [Functor.map, Except.map]

/-- The event of a snapshot is the one that its entry reads as. -/
theorem eq_of_snapshotEvent? {store : EventStore Payload} {entry : Entry}
    {found snapshot : DomainEvent Payload} (decoded : store.codec.decode entry = .ok [found])
    (opened : store.snapshotEvent? entry = some snapshot) : found = snapshot := by
  simp only [snapshotEvent?, decoded] at opened
  split at opened
  · simp at opened
  · exact Option.some.inj opened

/-- What there is to be read of a history: its latest readable snapshot and the events
behind it, or all its events. -/
def eventsRead (store : EventStore Payload) (entries : EntryStore) (key : StreamKey) :
    Except DocumentError (List (DomainEvent Payload)) :=
  match (entries.lastSnapshot? key).bind store.snapshotEvent? with
  | some snapshot => (snapshot :: ·) <$>
      store.codec.decodeAll (entries.entriesFrom key (snapshot.sequenceNumber + 1))
  | none => store.codec.decodeAll (entries.entriesFrom key 0)

variable (Note) in
/-- Only a history without anything to be read is not found. -/
theorem read_spec (store : EventStore Payload) (key : StreamKey) {backend : Backend}
    (reliable : backend.Reliable) :
    ∃ after : Backend, after.entries = backend.entries ∧ after.Reliable ∧
      ((store.eventsRead backend.entries key = .ok [] ∧
          @read Payload Note _ store key backend = (.error (.streamNotFound key), after)) ∨
        (store.eventsRead backend.entries key ≠ .ok [] ∧
          ∃ stream : EventStream (ReadMark Note) Payload,
            store.read key backend = (.ok stream, after) ∧
              Delivers stream.items (store.eventsRead backend.entries key))) := by
  cases latest : (backend.entries.lastSnapshot? key).bind store.snapshotEvent? with
  | some snapshot =>
    have behind := @pages_delivers Payload Note _ store key (snapshot.sequenceNumber + 1) none
      backend reliable
    rw [entriesBetween_none] at behind
    simp only [eventsRead, latest, read, reliable.loadLastSnapshot]
    exact ⟨backend, rfl, reliable, .inr ⟨map_cons_ne_nil, _, rfl, behind.append [snapshot]⟩⟩
  | none =>
    let stored : EventStream (ReadMark Note) Payload := store.stream key 0 none backend
    have delivers : Delivers stored.items
        (store.codec.decodeAll (backend.entries.entriesFrom key 0)) := by
      rw [← entriesBetween_none]
      exact pages_delivers reliable
    obtain ⟨sameEntries, stillReliable, outcome⟩ := openStream_spec stored reliable
    rcases opened : openStream stored backend with ⟨found, after⟩
    rw [opened] at sameEntries stillReliable outcome
    simp only [eventsRead, latest, read, reliable.loadLastSnapshot]
    refine ⟨after, sameEntries, stillReliable, ?_⟩
    rcases outcome with ⟨nothing, rfl⟩ | ⟨something, stream, rfl, sameItems⟩
    · exact .inl ⟨delivers.eq_ok_nil_iff.mp nothing, by simp only [stored, opened] at opened ⊢⟩
    · refine .inr ⟨mt delivers.eq_ok_nil_iff.mpr something, stream, ?_, sameItems ▸ delivers⟩
      simp only [stored, opened] at opened ⊢

end EventStore

end EventSourcing
