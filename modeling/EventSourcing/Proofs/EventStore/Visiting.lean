import EventSourcing.EventStore.Basic
import EventSourcing.Proofs.EventStore.RoundTrip
import EventSourcing.Proofs.Storage.AtomicBatches

/-!
# Visits in the order of time

A visit fetches the entries that meet its criteria page by page, each page strictly behind
the last entry of the one before.  Since no two entries have the same identity, no two of
them share a position, so a page ends where the next one begins
(`EntryStore.Coherent.sortByPosition_behind`), and the pages put together are all entries
that meet the criteria, sorted by position, for every batch size
(`EventStore.visit_withBatchSize`).
-/

namespace EventSourcing

/-! ## The order of positions -/

namespace EntryPosition

theorem not_isBefore (first second : EntryPosition) :
    (!second.isBefore first) = (compare first second).isLE := by
  have swapped : compare second first = (compare first second).swap :=
    Std.OrientedCmp.eq_swap
  rw [isBefore, swapped]
  cases compare first second <;> rfl

theorem isBefore_asymm {first second : EntryPosition} (before : first.isBefore second = true) :
    second.isBefore first = false := by
  cases after : second.isBefore first with
  | false => rfl
  | true =>
    have around := isBefore_trans before after
    rw [isBefore_self] at around
    exact around.symm

/-- Of two positions with different identities one lies in front of the other. -/
theorem isBefore_of_not_isBefore {first second : EntryPosition}
    (different : first.eventId ≠ second.eventId) (notAfter : second.isBefore first = false) :
    first.isBefore second = true := by
  have atMost : (compare first second).isLE = true := by
    rw [← not_isBefore, notAfter]
    rfl
  rw [isBefore, beq_iff_eq]
  cases compared : compare first second with
  | lt => rfl
  | gt => simp [compared] at atMost
  | eq =>
    obtain ⟨-, -, sameId⟩ := (compareLex_eq_eq.mp compared).imp_right compareLex_eq_eq.mp
    change compare first.eventId second.eventId = .eq at sameId
    exact absurd (Std.LawfulEqCmp.eq_of_compare sameId) different

end EntryPosition

namespace EntryStore

/-! ## Pages in the order of time -/

theorem sortByPosition_perm (records : List Entry) : (sortByPosition records).Perm records :=
  List.mergeSort_perm records _

/-- Entries with different identities ascend strictly when they are sorted. -/
theorem sortByPosition_ascending {records : List Entry}
    (distinct : records.Pairwise fun record other => record.eventId ≠ other.eventId) :
    (sortByPosition records).Pairwise fun record later =>
      record.position.isBefore later.position = true := by
  have sorted : (sortByPosition records).Pairwise fun record later =>
      (!later.position.isBefore record.position) = true := by
    apply List.pairwise_mergeSort
    · intro first second third
      simp only [EntryPosition.not_isBefore]
      exact Std.TransCmp.isLE_trans
    · intro first second
      cases before : second.position.isBefore first.position with
      | false => rfl
      | true => simp [EntryPosition.isBefore_asymm before]
  have stillDistinct := ((sortByPosition_perm records).pairwise_iff Ne.symm).mpr distinct
  refine (sorted.and stillDistinct).imp ?_
  rintro record later ⟨notAfter, different⟩
  exact EntryPosition.isBefore_of_not_isBefore different (by simpa using notAfter)

variable {entries : EntryStore}

theorem Coherent.matching_ascending (coherent : entries.Coherent) (criteria : Criteria)
    (after : Option EntryPosition) :
    (sortByPosition (entries.matching criteria after)).Pairwise fun record later =>
      record.position.isBefore later.position = true := by
  apply sortByPosition_ascending
  refine List.Pairwise.filter _ (coherent.apart.imp ?_)
  exact fun apart sameId => apart (.inr sameId)

/-- Behind the last entry of a page lie just the entries that were not on it. -/
theorem Coherent.sortByPosition_behind (coherent : entries.Coherent) {criteria : Criteria}
    {after : Option EntryPosition} {size : Nat} {last : Entry}
    (found : (entries.fetchFiltered criteria after size).getLast? = some last) :
    sortByPosition (entries.matching criteria (some last.position)) =
      (sortByPosition (entries.matching criteria after)).drop size := by
  have ascending := coherent.matching_ascending criteria after
  have behind := filter_eq_drop_of_ascending ascending
    (fun _ _ => EntryPosition.isBefore_asymm) found
  have member : last ∈ entries.matching criteria after :=
    mem_fetchFiltered (List.mem_of_getLast? found)
  rw [← behind]
  refine List.Perm.eq_of_pairwise ?_ (coherent.matching_ascending criteria _)
    (ascending.filter _) ?_
  · intro record later _ _ before notBefore
    rw [EntryPosition.isBefore_asymm before] at notBefore
    exact absurd notBefore Bool.false_ne_true
  · rw [entries.matching_eq_filter criteria (isBehind_of_mem_matching member)]
    exact (sortByPosition_perm _).trans ((sortByPosition_perm _).filter _).symm

end EntryStore

namespace EventCodec

variable {Payload : Type} [DocumentFamily Payload] {codec : EventCodec Payload}
  {front back : List Entry} {events : List (DomainEvent Payload)}

/-! ## Events in front of a failure -/

theorem decodeUntilFailure_append_of_ok
    (read : codec.decodeUntilFailure front = (events, .ok ())) (back : List Entry) :
    codec.decodeUntilFailure (front ++ back) =
      (events ++ (codec.decodeUntilFailure back).1, (codec.decodeUntilFailure back).2) := by
  induction front generalizing events with
  | nil =>
    obtain ⟨rfl, -⟩ := Prod.mk.inj read
    rfl
  | cons record rest ih =>
    cases decoded : codec.decode record with
    | error error => simp [decodeUntilFailure, decoded] at read
    | ok own =>
      rcases restRead : codec.decodeUntilFailure rest with ⟨others, result⟩
      simp only [decodeUntilFailure, decoded, restRead, Prod.mk.injEq] at read
      obtain ⟨rfl, rfl⟩ := read
      simp only [List.cons_append, decodeUntilFailure, decoded, ih restRead, List.append_assoc]

theorem decodeUntilFailure_append_of_error {error : DocumentError}
    (failed : codec.decodeUntilFailure front = (events, .error error)) (back : List Entry) :
    codec.decodeUntilFailure (front ++ back) = (events, .error error) := by
  induction front generalizing events with
  | nil => simp [decodeUntilFailure] at failed
  | cons record rest ih =>
    cases decoded : codec.decode record with
    | error cause => simpa only [List.cons_append, decodeUntilFailure, decoded] using failed
    | ok own =>
      rcases restRead : codec.decodeUntilFailure rest with ⟨others, result⟩
      simp only [decodeUntilFailure, decoded, restRead, Prod.mk.injEq] at failed
      obtain ⟨rfl, rfl⟩ := failed
      simp only [List.cons_append, decodeUntilFailure, decoded, ih restRead]

theorem decodeUntilFailure_of_forall₂ {decoded : List (List (DomainEvent Payload))}
    (read : List.Forall₂ (fun record events => codec.decode record = .ok events) front decoded) :
    codec.decodeUntilFailure front = (decoded.flatten, .ok ()) := by
  induction read with
  | nil => rfl
  | cons first rest ih => simp only [decodeUntilFailure, first, ih, List.flatten_cons]

end EventCodec

namespace EventStore

variable {Payload : Type} [DocumentFamily Payload] {store : EventStore Payload}
  {backend : Backend}

/-- A visit, page by page. -/
theorem visitPages_unfold (store : EventStore Payload) (criteria : Criteria)
    (after : Option EntryPosition) (backend : Backend) :
    store.visitPages criteria after backend =
      match backend.attempt .fetchFiltered with
      | (some error, backend) => ([], .error (.ofStorage error), backend)
      | (none, next) =>
        let batch := backend.entries.fetchFiltered criteria after store.config.batchSize
        match store.codec.decodeUntilFailure batch with
        | (events, .error error) => (events, .error (.document error), next)
        | (events, .ok ()) =>
          if batch.length < store.config.batchSize then (events, .ok (), next)
          else
            match batch.getLast? with
            | none => (events, .ok (), next)
            | some entry =>
              let (others, result, final) :=
                store.visitPages criteria (some entry.position) next
              (events ++ others, result, final) := by
  fun_cases store.visitPages criteria after backend with
  | case1 error next attempted => rw [attempted]
  | case2 next attempted unchanged batch events error failed =>
    rw [attempted]
    simp only [batch] at failed
    simp only [failed]
  | case3 next attempted unchanged batch events read short =>
    rw [attempted]
    simp only [batch] at read
    simp only [read]
    exact (if_pos short).symm
  | case4 next attempted unchanged batch events read full nothing =>
    rw [attempted]
    simp only [batch] at read nothing
    simp only [read, nothing]
    exact (if_neg full).symm
  | case5 next attempted unchanged batch events read full last found member _ others result final
      visited =>
    rw [attempted]
    simp only [batch] at read found
    simp only [read, found, visited]
    exact (if_neg full).symm

/-- A visit meets the entries in the order of time up to the first one that cannot be
read. -/
theorem visitPages_eq (reliable : backend.Reliable) (coherent : backend.entries.Coherent)
    (criteria : Criteria) (after : Option EntryPosition) :
    store.visitPages criteria after backend =
      let visited := store.codec.decodeUntilFailure
        (EntryStore.sortByPosition (backend.entries.matching criteria after))
      (visited.1, visited.2.mapError EventStoreError.document, backend) := by
  -- By the recursion of the visit: what has been fetched stands in front of what is left.
  have page (entries : EntryStore) (after : Option EntryPosition) :
      EntryStore.sortByPosition (entries.matching criteria after) =
        entries.fetchFiltered criteria after store.config.batchSize ++
          (EntryStore.sortByPosition (entries.matching criteria after)).drop
            store.config.batchSize := (List.take_append_drop _ _).symm
  fun_induction store.visitPages criteria after backend with
  | case1 after backend error next attempted =>
    rw [reliable.attempt] at attempted
    cases attempted
  | case2 after backend next attempted unchanged batch events error failed =>
    rw [reliable.attempt] at attempted
    obtain ⟨-, rfl⟩ := Prod.mk.inj attempted
    rw [page, EventCodec.decodeUntilFailure_append_of_error failed]
    rfl
  | case3 after backend next attempted unchanged batch events read short =>
    rw [reliable.attempt] at attempted
    obtain ⟨-, rfl⟩ := Prod.mk.inj attempted
    have nothingLeft : (EntryStore.sortByPosition (backend.entries.matching criteria after)).drop
        store.config.batchSize = [] := by
      have shortPage : (backend.entries.fetchFiltered criteria after
          store.config.batchSize).length < store.config.batchSize := short
      rw [EntryStore.fetchFiltered, List.length_take] at shortPage
      rw [List.drop_eq_nil_iff]
      omega
    rw [page, nothingLeft, List.append_nil, read]
    rfl
  | case4 after backend next attempted unchanged batch events read full nothing =>
    rw [List.getLast?_eq_none_iff] at nothing
    rw [nothing] at full
    exact absurd store.batchSize_pos full
  | case5 after backend next attempted unchanged batch events read full last found member _ others
      result final visitedRest ih =>
    rw [reliable.attempt] at attempted
    obtain ⟨-, rfl⟩ := Prod.mk.inj attempted
    have rest := visitedRest.symm.trans (ih reliable coherent)
    rw [coherent.sortByPosition_behind found] at rest
    rw [page, EventCodec.decodeUntilFailure_append_of_ok read]
    simp only [Prod.mk.injEq] at rest
    obtain ⟨rfl, rfl, rfl⟩ := rest
    rfl

/-- Whatever an in-memory store has gone through, and however many entries are fetched at
a time: a visit meets the records that meet its criteria, each once, in the order of time,
sequence number and identity, with all events of one record after another.  If one of them
cannot be read, the visit ends with its error, and the records in front of it have been
visited. -/
theorem visit_withBatchSize (store : EventStore Payload) (changes : List StorageChange)
    (criteria : Criteria) :
    let backend := Backend.empty.changeAll changes
    ∃ records : List Entry, records.Perm (backend.entries.log.toList.filter criteria.admits) ∧
      (records.Pairwise fun record later => record.position.isBefore later.position = true) ∧
      ∀ size,
        (∀ decoded, List.Forall₂ (fun record events => store.codec.decode record = .ok events)
            records decoded →
          (store.withBatchSize size).visit criteria backend = (decoded.flatten, .ok (), backend)) ∧
        (∀ front record back decoded error, records = front ++ record :: back →
          List.Forall₂ (fun earlier events => store.codec.decode earlier = .ok events)
            front decoded →
          store.codec.decode record = .error error →
          (store.withBatchSize size).visit criteria backend =
            (decoded.flatten, .error (.document error), backend)) ∧
        ∀ other, (store.withBatchSize other).visit criteria backend =
          (store.withBatchSize size).visit criteria backend := by
  intro backend
  have sound : backend.Sound := Backend.sound_changeAll changes
  have visited (size : Nat) : (store.withBatchSize size).visit criteria backend =
      let visited := store.codec.decodeUntilFailure
        (EntryStore.sortByPosition (backend.entries.matching criteria none))
      (visited.1, visited.2.mapError EventStoreError.document, backend) :=
    visitPages_eq sound.reliable sound.coherent criteria none
  refine ⟨EntryStore.sortByPosition (backend.entries.matching criteria none), ?_,
    sound.coherent.matching_ascending criteria none, fun size => ⟨?_, ?_, ?_⟩⟩
  · refine (EntryStore.sortByPosition_perm _).trans (List.Perm.of_eq ?_)
    simp [EntryStore.matching, EntryStore.isBehind]
  · intro decoded read
    rw [visited, EventCodec.decodeUntilFailure_of_forall₂ read]
    rfl
  · intro front record back decoded error split read failed
    have readFront := EventCodec.decodeUntilFailure_of_forall₂ read
    rw [visited, split, EventCodec.decodeUntilFailure_append_of_ok readFront]
    simp [EventCodec.decodeUntilFailure, failed, Except.mapError]
  · intro other
    rw [visited, visited]

end EventStore

end EventSourcing
