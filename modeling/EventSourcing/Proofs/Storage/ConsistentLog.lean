import EventSourcing.Storage.EntryStore
import Mathlib.Data.List.Nodup

/-!
# A log and its index

The log of an entry store is only ever extended, and index and identities say what
stands in it (`EntryStore.Consistent`).  So a batch that is stored extends the
history of every stream by the entries of that stream, reading a history from a
sequence number on gives exactly its entries from that number on, and an entry
whose position is taken is refused.
-/

namespace EventSourcing

/-! ## Front parts of lists -/

/-- A filter that drops a front part and keeps what lies behind it. -/
theorem filter_append_eq_right {Item : Type} {keep : Item → Bool} {front back : List Item}
    (dropped : ∀ item ∈ front, keep item = false) (kept : ∀ item ∈ back, keep item = true) :
    (front ++ back).filter keep = back := by
  have nothing : front.filter keep = [] := by
    rw [List.filter_eq_nil_iff]
    intro item inFront
    rw [dropped item inFront]
    exact Bool.false_ne_true
  rw [List.filter_append, nothing, List.filter_eq_self.mpr kept, List.nil_append]

/-- What lies behind an item of an ascending list, if each item lies strictly behind those
in front of it. -/
theorem filter_eq_drop_of_ascending {Item : Type} {isBefore : Item → Item → Bool}
    {items : List Item} {size : Nat} {last : Item}
    (ascending : items.Pairwise fun item later => isBefore item later = true)
    (asymmetric : ∀ item later, isBefore item later = true → isBefore later item = false)
    (found : (items.take size).getLast? = some last) :
    items.filter (isBefore last) = items.drop size := by
  obtain ⟨front, isFront⟩ := List.getLast?_eq_some_iff.mp found
  have split : items = (front ++ [last]) ++ items.drop size := by
    rw [← isFront, List.take_append_drop]
  generalize items.drop size = back at split ⊢
  subst split
  obtain ⟨frontAscending, -, behind⟩ := List.pairwise_append.mp ascending
  apply filter_append_eq_right
  · intro item inFront
    rcases List.mem_append.mp inFront with earlier | isLast
    · exact asymmetric item last
        ((List.pairwise_append.mp frontAscending).2.2 item earlier last (by simp))
    · rw [List.mem_singleton.mp isLast]
      cases itself : isBefore last last with
      | false => rfl
      | true => exact itself.symm.trans (asymmetric last last itself)
  · intro item inBack
    exact behind last (by simp) item inBack

namespace EntryStore

/-! ## Histories -/

/-- The entries of a history in the order of storing. -/
def history (store : EntryStore) (key : StreamKey) : List Entry :=
  store.log.toList.filter fun entry => entry.streamKey = key

/-- Index and identities say what stands in the log. -/
structure Consistent (store : EntryStore) : Prop where
  indexed (key : StreamKey) (number place : Nat) :
    (store.positions key).get? number = some place ↔
      ∃ entry, store.log[place]? = some entry ∧ entry.streamKey = key ∧
        entry.sequenceNumber = number
  identified : store.eventIds = (store.log.toList.map Entry.eventId).reverse

/-- A store after a batch of entries. -/
def pushAll (store : EntryStore) (batch : List Entry) : EntryStore := batch.foldl push store

@[simp] theorem toList_log_push (store : EntryStore) (entry : Entry) :
    (store.push entry).log.toList = store.log.toList ++ [entry] := by
  simp [push]

@[simp] theorem toList_log_pushAll (store : EntryStore) (batch : List Entry) :
    (store.pushAll batch).log.toList = store.log.toList ++ batch := by
  induction batch generalizing store with
  | nil => simp [pushAll]
  | cons entry rest ih =>
    change ((store.push entry).pushAll rest).log.toList = _
    rw [ih, toList_log_push, List.append_assoc, List.singleton_append]

@[simp] theorem snapshots_pushAll (store : EntryStore) (batch : List Entry) :
    (store.pushAll batch).snapshots = store.snapshots := by
  induction batch generalizing store with
  | nil => rfl
  | cons entry rest ih => exact ih (store.push entry)

theorem history_pushAll (store : EntryStore) (batch : List Entry) (key : StreamKey) :
    (store.pushAll batch).history key =
      store.history key ++ batch.filter fun entry => entry.streamKey = key := by
  rw [history, toList_log_pushAll, List.filter_append, history]

theorem mem_history_iff {store : EntryStore} {key : StreamKey} {entry : Entry} :
    entry ∈ store.history key ↔ entry ∈ store.log.toList ∧ entry.streamKey = key := by
  simp [history]

theorem history_eq_nil_iff {store : EntryStore} {key : StreamKey} :
    store.history key = [] ↔ ∀ entry ∈ store.log, entry.streamKey ≠ key := by
  rw [List.eq_nil_iff_forall_not_mem]
  simp only [mem_history_iff, Array.mem_toList_iff, not_and, ne_eq]

/-! ## The index -/

theorem consistent_empty : EntryStore.empty.Consistent where
  indexed key number place := by simp [empty, positions]
  identified := rfl

theorem get?_positions_push (store : EntryStore) (entry : Entry) (key : StreamKey)
    (number : Nat) :
    ((store.push entry).positions key).get? number =
      if key = entry.streamKey ∧ number = entry.sequenceNumber then some store.log.size
      else (store.positions key).get? number := by
  unfold positions push
  simp only [Table.get?_put]
  by_cases own : key = entry.streamKey
  · subst own
    simp [positions]
  · simp [own]

theorem Consistent.contains_iff {store : EntryStore} (consistent : store.Consistent)
    (key : StreamKey) (number : Nat) :
    (store.positions key).contains number = true ↔
      ∃ entry ∈ store.history key, entry.sequenceNumber = number := by
  rw [OrderedMap.contains, Option.isSome_iff_exists]
  constructor
  · rintro ⟨place, found⟩
    obtain ⟨entry, standing, own, same⟩ := (consistent.indexed key number place).mp found
    refine ⟨entry, mem_history_iff.mpr ⟨?_, own⟩, same⟩
    exact Array.mem_toList_iff.mpr (Array.mem_of_getElem? standing)
  · rintro ⟨entry, member, same⟩
    obtain ⟨logged, own⟩ := mem_history_iff.mp member
    obtain ⟨place, standing⟩ := Array.mem_iff_getElem?.mp (Array.mem_toList_iff.mp logged)
    exact ⟨place, (consistent.indexed key number place).mpr ⟨entry, standing, own, same⟩⟩

theorem Consistent.push {store : EntryStore} (consistent : store.Consistent) {entry : Entry}
    (free : (store.positions entry.streamKey).contains entry.sequenceNumber = false) :
    (store.push entry).Consistent where
  indexed key number place := by
    have standing : (store.push entry).log[place]? =
        if place = store.log.size then some entry else store.log[place]? := Array.getElem?_push
    rw [get?_positions_push, standing]
    by_cases own : key = entry.streamKey ∧ number = entry.sequenceNumber
    · obtain ⟨rfl, rfl⟩ := own
      simp only [and_self, ↓reduceIte, Option.some.injEq]
      by_cases last : place = store.log.size
      · simp [last]
      · simp only [last, ↓reduceIte, Ne.symm last, false_iff]
        intro occupied
        have taken := (consistent.indexed _ _ place).mpr occupied
        rw [OrderedMap.contains, taken] at free
        exact Bool.noConfusion free
    · rw [if_neg own, consistent.indexed]
      by_cases last : place = store.log.size
      · subst last
        simp only [Array.getElem?_size, reduceCtorEq, false_and, exists_false, ↓reduceIte,
          Option.some.injEq, exists_eq_left', false_iff]
        rintro ⟨sameKey, sameNumber⟩
        exact own ⟨sameKey.symm, sameNumber.symm⟩
      · simp [last]
  identified := by
    rw [toList_log_push, List.map_append, List.reverse_append, ← consistent.identified]
    rfl

/-! ## Storing a batch -/

/-- An earlier entry of a batch counts like an entry that is stored already. -/
theorem conflict?_push (store : EntryStore) (entry : Entry) (earlier rest : List Entry) :
    (store.push entry).conflict? earlier rest = store.conflict? (earlier ++ [entry]) rest := by
  induction rest generalizing earlier with
  | nil => rfl
  | cons next others ih =>
    have position : ((store.push entry).positions next.streamKey).contains next.sequenceNumber =
        ((store.positions next.streamKey).contains next.sequenceNumber ||
          (entry.streamKey == next.streamKey && entry.sequenceNumber == next.sequenceNumber)) := by
      rw [OrderedMap.contains, OrderedMap.contains, get?_positions_push, Bool.eq_iff_iff]
      by_cases own : next.streamKey = entry.streamKey ∧
          next.sequenceNumber = entry.sequenceNumber
      · simp [own]
      · rw [if_neg own]
        have differ : ¬(entry.streamKey = next.streamKey ∧
            entry.sequenceNumber = next.sequenceNumber) :=
          fun same => own ⟨same.1.symm, same.2.symm⟩
        simp [differ]
    have identity : (store.push entry).eventIds.contains next.eventId =
        (store.eventIds.contains next.eventId || entry.eventId == next.eventId) := by
      simp only [push, List.contains_cons, Bool.or_comm, Bool.beq_comm]
    simp only [conflict?, position, identity, List.any_append, List.any_cons, List.any_nil,
      Bool.or_false, ← List.cons_append, ih]
    rw [Bool.or_assoc, Bool.or_assoc, Bool.or_comm (entry.streamKey == _ && _),
      Bool.or_comm (entry.eventId == _)]

theorem conflict?_cons_eq_none_iff (store : EntryStore) (entry : Entry) (rest : List Entry) :
    store.conflict? [] (entry :: rest) = none ↔
      (store.positions entry.streamKey).contains entry.sequenceNumber = false ∧
        entry.eventId ∉ store.eventIds ∧ (store.push entry).conflict? [] rest = none := by
  rw [conflict?_push]
  simp only [conflict?, List.any_nil, Bool.or_false, List.contains_iff_mem, List.nil_append]
  by_cases taken : (store.positions entry.streamKey).contains entry.sequenceNumber = true
  · simp [taken]
  · by_cases used : entry.eventId ∈ store.eventIds
    · simp [taken, used]
    · simp [taken, used]

theorem persist_of_taken {store : EntryStore} {entry : Entry}
    (taken : (store.positions entry.streamKey).contains entry.sequenceNumber = true)
    (rest : List Entry) :
    store.persist (entry :: rest) =
      .error (.duplicateKey (.position entry.streamKey entry.sequenceNumber)) := by
  simp [persist, conflict?, taken]

theorem persist_eq_ok_iff {store next : EntryStore} {batch : List Entry} :
    store.persist batch = .ok next ↔
      store.conflict? [] batch = none ∧ next = store.pushAll batch := by
  unfold persist
  cases store.conflict? [] batch with
  | none =>
    simp only [Except.ok.injEq, true_and]
    exact eq_comm
  | some conflict => simp

theorem Consistent.pushAll {store : EntryStore} (consistent : store.Consistent)
    {batch : List Entry} (free : store.conflict? [] batch = none) :
    (store.pushAll batch).Consistent := by
  induction batch generalizing store with
  | nil => exact consistent
  | cons entry rest ih =>
    obtain ⟨freePosition, -, freeRest⟩ := (conflict?_cons_eq_none_iff store entry rest).mp free
    exact ih (consistent.push freePosition) freeRest

/-! ## Reading a history -/

theorem entriesFrom_ascending (store : EntryStore) (key : StreamKey) (first : Nat) :
    (store.entriesFrom key first).Pairwise fun entry later =>
      entry.sequenceNumber < later.sequenceNumber := by
  unfold entriesFrom OrderedMap.entriesFrom
  refine List.Pairwise.filterMap _ ?_ ((store.positions key).sorted.filter _)
  intro place later before entry found laterEntry laterFound
  have same := (Option.mem_filter_iff.mp found).2
  have laterSame := (Option.mem_filter_iff.mp laterFound).2
  rw [decide_eq_true_eq] at same laterSame
  rw [same, laterSame]
  exact Nat.compare_eq_lt.mp before

theorem Consistent.mem_entriesFrom_iff {store : EntryStore} (consistent : store.Consistent)
    {key : StreamKey} {first : Nat} {entry : Entry} :
    entry ∈ store.entriesFrom key first ↔
      entry ∈ store.history key ∧ first ≤ entry.sequenceNumber := by
  rw [mem_history_iff]
  constructor
  · intro member
    refine ⟨?_, mem_entriesFrom_le member⟩
    obtain ⟨⟨number, place⟩, listed, found⟩ := List.mem_filterMap.mp member
    have indexed := OrderedMap.get?_eq_some_iff.mpr (List.mem_of_mem_filter listed)
    obtain ⟨other, standing, own, -⟩ := (consistent.indexed key number place).mp indexed
    have same : some entry = some other := by
      rw [← standing, (Option.mem_filter_iff.mp found).1]
    obtain rfl := Option.some.inj same
    exact ⟨Array.mem_toList_iff.mpr (Array.mem_of_getElem? standing), own⟩
  · rintro ⟨⟨logged, own⟩, atLeast⟩
    obtain ⟨place, standing⟩ := Array.mem_iff_getElem?.mp (Array.mem_toList_iff.mp logged)
    have indexed := (consistent.indexed key entry.sequenceNumber place).mpr
      ⟨entry, standing, own, rfl⟩
    refine List.mem_filterMap.mpr ⟨(entry.sequenceNumber, place), ?_, ?_⟩
    · refine List.mem_filter.mpr ⟨OrderedMap.get?_eq_some_iff.mp indexed, ?_⟩
      simpa [Nat.compare_ne_lt] using atLeast
    · simp [standing]

/-- A history that ascends is read as it stands in the log. -/
theorem Consistent.entriesFrom_eq {store : EntryStore} (consistent : store.Consistent)
    {key : StreamKey}
    (ascending : (store.history key).Pairwise fun entry later =>
      entry.sequenceNumber < later.sequenceNumber) (first : Nat) :
    store.entriesFrom key first =
      (store.history key).filter fun entry => first ≤ entry.sequenceNumber := by
  have distinct {entries : List Entry}
      (sorted : entries.Pairwise fun entry later => entry.sequenceNumber < later.sequenceNumber) :
      entries.Nodup := by
    refine sorted.imp ?_
    rintro entry _ before rfl
    exact Nat.lt_irrefl _ before
  have ascendingFrom := ascending.filter fun entry => decide (first ≤ entry.sequenceNumber)
  have sameMembers : (store.entriesFrom key first).Perm
      ((store.history key).filter fun entry => first ≤ entry.sequenceNumber) := by
    rw [List.perm_ext_iff_of_nodup (distinct (store.entriesFrom_ascending key first))
      (distinct ascendingFrom)]
    intro entry
    rw [consistent.mem_entriesFrom_iff, List.mem_filter, decide_eq_true_eq]
  refine sameMembers.eq_of_pairwise ?_ (store.entriesFrom_ascending key first) ascendingFrom
  intro entry later _ _ before after
  exact absurd after (Nat.lt_asymm before)

end EntryStore

end EventSourcing
