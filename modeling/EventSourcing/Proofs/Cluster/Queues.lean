import EventSourcing.Proofs.Cluster.Execution

/-!
# Queues of the members

The events that wait in the queues of workers and for reports are kept in one list, in
the order in which they were accepted (`Listener.Attend`).  Accepting an event adds to its
end, and a member takes the first event that is its own.
-/

namespace EventSourcing

/-- A listener with an event that it has been handed. -/
abbrev Invocation (Payload : Type) := Listener Payload × Event Payload

variable {Payload : Type}

/-- An invocation as the journal knows it. -/
def Invocation.call (invocation : Invocation Payload) : String × Event Payload :=
  (invocation.1.key, invocation.2)

/-- The events of a listener among invocations. -/
def Listener.eventsAmong (listener : Listener Payload) (invocations : List (Invocation Payload)) :
    List (Event Payload) :=
  (invocations.filter fun invocation => invocation.1.key = listener.key).map Prod.snd

namespace Listener

variable {listener other : Listener Payload} {event : Event Payload}
  {rest : List (Event Payload)} {invocations later : List (Invocation Payload)}

@[simp] theorem eventsAmong_append (listener : Listener Payload)
    (invocations later : List (Invocation Payload)) :
    listener.eventsAmong (invocations ++ later) =
      listener.eventsAmong invocations ++ listener.eventsAmong later := by
  simp [eventsAmong]

theorem eventsAmong_own (event : Event Payload) (sameKey : other.key = listener.key) :
    listener.eventsAmong [(other, event)] = [event] := by
  simp [eventsAmong, sameKey]

theorem eventsAmong_foreign (event : Event Payload) (differ : other.key ≠ listener.key) :
    listener.eventsAmong [(other, event)] = [] := by
  simp [eventsAmong, differ]

/-- An invocation of one listener is nothing to another. -/
theorem eventsAmong_insert (earlier later : List (Invocation Payload)) (event : Event Payload)
    (differ : other.key ≠ listener.key) :
    other.eventsAmong (earlier ++ (listener, event) :: later) =
      other.eventsAmong (earlier ++ later) := by
  have split : earlier ++ (listener, event) :: later =
      earlier ++ ([(listener, event)] ++ later) := rfl
  rw [split, eventsAmong_append, eventsAmong_append, eventsAmong_append,
    eventsAmong_foreign event (Ne.symm differ), List.nil_append]

theorem mem_eventsAmong (isAmong : (listener, event) ∈ invocations) :
    event ∈ listener.eventsAmong invocations :=
  List.mem_map.mpr ⟨_, List.mem_filter.mpr ⟨isAmong, decide_eq_true rfl⟩, rfl⟩

theorem exists_of_mem_eventsAmong (isAmong : event ∈ listener.eventsAmong invocations) :
    ∃ holder : Listener Payload, (holder, event) ∈ invocations ∧ holder.key = listener.key := by
  obtain ⟨⟨holder, _⟩, kept, rfl⟩ := List.mem_map.mp isAmong
  rw [List.mem_filter, decide_eq_true_eq] at kept
  exact ⟨holder, kept⟩

theorem split_of_eventsAmong_eq_cons (first : listener.eventsAmong invocations = event :: rest) :
    ∃ earlier holder later, invocations = earlier ++ (holder, event) :: later ∧
      holder.key = listener.key ∧ listener.eventsAmong (earlier ++ later) = rest := by
  obtain ⟨⟨holder, _⟩, own, kept, rfl, ownRest⟩ := List.map_eq_cons_iff.mp first
  obtain ⟨earlier, later, split, noneEarlier, isOwn, keptLater⟩ := List.filter_eq_cons_iff.mp kept
  refine ⟨earlier, holder, later, split, of_decide_eq_true isOwn, ?_⟩
  have nothingEarlier : listener.eventsAmong earlier = [] := by
    rw [eventsAmong, List.filter_eq_nil_iff.mpr noneEarlier, List.map_nil]
  rw [eventsAmong_append, nothingEarlier, List.nil_append, eventsAmong, keptLater, ownRest]

section Members

variable {members : List (Listener Payload)}

theorem eq_of_key_eq (distinct : (members.map Listener.key).Nodup) (isMember : listener ∈ members)
    (isOther : other ∈ members) (sameKey : other.key = listener.key) : other = listener :=
  List.inj_on_of_nodup_map distinct isOther isMember sameKey

end Members

theorem worker?_of_direct (direct : listener.isAsynchronous = false) :
    listener.worker? = none := by
  cases processing : listener.processing <;> simp_all [isAsynchronous, worker?]

theorem isReported_of_direct (direct : listener.isAsynchronous = false) :
    listener.isReported = false := by
  cases processing : listener.processing <;> simp_all [isAsynchronous, isReported]

theorem not_isQueued_of_refused {cause : ListenerError}
    (refused : listener.handle event = .error cause) : ¬listener.isQueued := by
  cases processing : listener.processing <;> simp_all [handle, isQueued]

theorem isAsynchronous_of_isQueued (queued : listener.isQueued) : listener.isAsynchronous := by
  cases processing : listener.processing <;> simp_all [isQueued, isAsynchronous]

/-- What waits for a listener depends on nothing but its own worker and reports. -/
theorem queueIn_congr (listener : Listener Payload)
    {workers otherWorkers : Table String (Worker Payload)}
    {awaited otherAwaited : String → List (Event Payload)}
    (sameWorker : workers.get? listener.key = otherWorkers.get? listener.key)
    (sameAwaited : awaited listener.key = otherAwaited listener.key) :
    listener.queueIn workers awaited = listener.queueIn otherWorkers otherAwaited := by
  simp only [queueIn, sameWorker, sameAwaited]

/-- The queues of members hold the waiting invocations, all of them accepted. -/
structure Attend (members : List (Listener Payload)) (workers : Table String (Worker Payload))
    (awaited : String → List (Event Payload)) (waiting : List (Invocation Payload)) : Prop where
  holds : ∀ member ∈ members, member.queueIn workers awaited = member.eventsAmong waiting
  accepted : ∀ invocation ∈ waiting,
    invocation.1 ∈ members ∧ invocation.1.handle invocation.2 = .ok ()
  workers (key : String) (worker : Worker Payload) : workers.get? key = some worker →
    ∃ member ∈ members, member.key = key ∧ member.worker? = some { worker with queue := [] }
  awaited (key : String) : awaited key ≠ [] →
    ∃ member ∈ members, member.key = key ∧ member.isReported

namespace Attend

variable {members : List (Listener Payload)} {workers : Table String (Worker Payload)}
  {awaited : String → List (Event Payload)} {waiting : List (Invocation Payload)}
  {member : Listener Payload}

theorem start (members : List (Listener Payload)) :
    Attend members .empty (fun _ => []) [] where
  holds member _ := by
    cases processing : member.processing <;> simp [queueIn, eventsAmong, processing]
  accepted _ isWaiting := nomatch isWaiting
  workers _ _ found := nomatch found
  awaited _ any := absurd rfl any

theorem changeWorker (attend : Attend members workers awaited waiting)
    (distinct : (members.map Listener.key).Nodup) (isMember : member ∈ members)
    {worker : Worker Payload} (isOwn : member.worker? = some { worker with queue := [] })
    {nextWaiting : List (Invocation Payload)}
    (own : member.eventsAmong nextWaiting = worker.queue)
    (others : ∀ other : Listener Payload, other.key ≠ member.key →
      other.eventsAmong nextWaiting = other.eventsAmong waiting)
    (accepted : ∀ invocation ∈ nextWaiting,
      invocation.1 ∈ members ∧ invocation.1.handle invocation.2 = .ok ()) :
    Attend members (workers.put member.key worker) awaited nextWaiting where
  holds other isOther := by
    by_cases sameKey : other.key = member.key
    · obtain rfl := eq_of_key_eq distinct isMember isOther sameKey
      rw [own]
      cases processing : other.processing with
      | direct handle => simp [worker?, processing] at isOwn
      | reported accept => simp [worker?, processing] at isOwn
      | queued handle => simp [queueIn, processing]
    · rw [others other sameKey, ← attend.holds other isOther]
      exact queueIn_congr other (by simp [sameKey]) rfl
  accepted := accepted
  workers key found isFound := by
    rw [Table.get?_put] at isFound
    by_cases sameKey : key = member.key
    · rw [if_pos sameKey] at isFound
      obtain rfl := Option.some.inj isFound
      exact ⟨member, isMember, sameKey.symm, isOwn⟩
    · rw [if_neg sameKey] at isFound
      exact attend.workers key found isFound
  awaited := attend.awaited

theorem changeAwaited (attend : Attend members workers awaited waiting)
    (distinct : (members.map Listener.key).Nodup) (isMember : member ∈ members)
    (isReported : member.isReported) {nextWaiting : List (Invocation Payload)}
    (others : ∀ other : Listener Payload, other.key ≠ member.key →
      other.eventsAmong nextWaiting = other.eventsAmong waiting)
    (accepted : ∀ invocation ∈ nextWaiting,
      invocation.1 ∈ members ∧ invocation.1.handle invocation.2 = .ok ()) :
    Attend members workers
      (Function.update awaited member.key (member.eventsAmong nextWaiting)) nextWaiting where
  holds other isOther := by
    by_cases sameKey : other.key = member.key
    · obtain rfl := eq_of_key_eq distinct isMember isOther sameKey
      cases processing : other.processing with
      | direct handle => simp [Listener.isReported, processing] at isReported
      | reported accept => simp [queueIn, processing]
      | queued handle => simp [Listener.isReported, processing] at isReported
    · rw [others other sameKey, ← attend.holds other isOther]
      exact queueIn_congr other rfl (Function.update_of_ne sameKey _ _)
  accepted := accepted
  workers := attend.workers
  awaited key any := by
    by_cases sameKey : key = member.key
    · exact ⟨member, isMember, sameKey.symm, isReported⟩
    · rw [Function.update_of_ne sameKey] at any
      exact attend.awaited key any

/-! ## Accepting an event -/

theorem accepted_concat (attend : Attend members workers awaited waiting)
    (isMember : member ∈ members) (granted : member.handle event = .ok ()) :
    ∀ invocation ∈ waiting ++ [(member, event)],
      invocation.1 ∈ members ∧ invocation.1.handle invocation.2 = .ok () := by
  intro invocation isWaiting
  rcases List.mem_append.mp isWaiting with old | isNew
  · exact attend.accepted invocation old
  · obtain rfl := List.mem_singleton.mp isNew
    exact ⟨isMember, granted⟩

/-- An asynchronous member that accepts an event puts it behind the others. -/
theorem accept {cluster : Cluster Payload}
    (attend : Attend members cluster.workers awaited waiting)
    (distinct : (members.map Listener.key).Nodup) (isMember : member ∈ members)
    (reportsLater : member.isAsynchronous) (granted : member.handle event = .ok ()) :
    Attend members (cluster.enqueue member event).workers
      (Execution.awaitedAfter awaited (.invoke event member))
      (waiting ++ [(member, event)]) := by
  have accepted := attend.accepted_concat isMember granted
  have others (other : Listener Payload) (differ : other.key ≠ member.key) :
      other.eventsAmong (waiting ++ [(member, event)]) = other.eventsAmong waiting := by
    rw [eventsAmong_insert waiting [] event differ, List.append_nil]
  have own : member.eventsAmong (waiting ++ [(member, event)]) =
      member.queueIn cluster.workers awaited ++ [event] := by
    rw [eventsAmong_append, eventsAmong_own event rfl, attend.holds member isMember]
  cases processing : member.processing with
  | direct handle => simp [isAsynchronous, processing] at reportsLater
  | reported accept =>
    have isReported : member.isReported := by simp [Listener.isReported, processing]
    have changed := attend.changeAwaited distinct isMember isReported others accepted
    rw [own] at changed
    simpa [Cluster.enqueue, worker?, Execution.awaitedAfter, isReported, granted, Except.isOk,
      Except.toBool, queueIn, processing] using changed
  | queued handle =>
    have unreported : member.isReported = false := by simp [Listener.isReported, processing]
    simp only [Cluster.enqueue, worker?, processing, Execution.awaitedAfter, unreported,
      Bool.false_and, Bool.false_eq_true, ↓reduceIte]
    refine attend.changeWorker distinct isMember ?_ ?_ others accepted
    · cases found : cluster.workers.get? member.key with
      | none => simp [worker?, processing, Worker.accept]
      | some worker =>
        obtain ⟨holder, isHolder, sameKey, isOwn⟩ := attend.workers member.key worker found
        obtain rfl := eq_of_key_eq distinct isMember isHolder sameKey
        simpa [Worker.accept] using isOwn
    · rw [own]
      cases found : cluster.workers.get? member.key <;>
        simp [queueIn, processing, found, Worker.accept]

/-! ## Taking an event -/

/-- The invocation that waits longest is the first of its worker or of its reports. -/
theorem first_waits {later : List (Invocation Payload)}
    (attend : Attend members workers awaited ((member, event) :: later)) :
    (∃ worker rest, workers.get? member.key = some worker ∧ worker.queue = event :: rest) ∨
      ∃ rest, awaited member.key = event :: rest := by
  have isMember := (attend.accepted (member, event) List.mem_cons_self).1
  have waits : member.queueIn workers awaited = event :: member.eventsAmong later := by
    rw [attend.holds member isMember]
    exact eventsAmong_append member [(member, event)] later ▸
      congrArg (· ++ member.eventsAmong later) (eventsAmong_own event rfl)
  cases processing : member.processing with
  | direct handle => simp [queueIn, processing] at waits
  | reported accept =>
    right
    exact ⟨_, by simpa only [queueIn, processing] using waits⟩
  | queued handle =>
    left
    cases found : workers.get? member.key with
    | none => simp [queueIn, processing, found] at waits
    | some worker => exact ⟨worker, _, rfl, by simpa [queueIn, processing, found] using waits⟩

theorem accepted_split (attend : Attend members workers awaited waiting)
    {earlier later : List (Invocation Payload)}
    (split : waiting = earlier ++ (member, event) :: later) :
    ∀ invocation ∈ earlier ++ later,
      invocation.1 ∈ members ∧ invocation.1.handle invocation.2 = .ok () := by
  intro invocation isWaiting
  apply attend.accepted
  rw [split]
  rcases List.mem_append.mp isWaiting with isEarlier | isLater
  · exact List.mem_append_left _ isEarlier
  · exact List.mem_append_right _ (List.mem_cons_of_mem _ isLater)

/-- The first event that waits for a member is one that the member has accepted. -/
theorem exists_split (attend : Attend members workers awaited waiting)
    (distinct : (members.map Listener.key).Nodup) (isMember : member ∈ members)
    (first : member.queueIn workers awaited = event :: rest) :
    ∃ earlier later, waiting = earlier ++ (member, event) :: later ∧
      member.eventsAmong (earlier ++ later) = rest := by
  rw [attend.holds member isMember] at first
  obtain ⟨earlier, holder, later, split, sameKey, remaining⟩ := split_of_eventsAmong_eq_cons first
  have isHolder : holder ∈ members := by
    refine (attend.accepted (holder, event) ?_).1
    rw [split]
    exact List.mem_append_right _ List.mem_cons_self
  obtain rfl := eq_of_key_eq distinct isMember isHolder sameKey
  exact ⟨earlier, later, split, remaining⟩

/-- A worker takes an event of its member, and reports how the member ends with it. -/
theorem takeWorker (attend : Attend members workers awaited waiting)
    (distinct : (members.map Listener.key).Nodup)
    (reports : String → Event Payload → Option ProcessingFailure)
    {key : String} {worker : Worker Payload} (found : workers.get? key = some worker)
    (first : worker.queue = event :: rest) :
    ∃ member ∈ members, ∃ earlier later, member.key = key ∧ member.isAsynchronous ∧
      waiting = earlier ++ (member, event) :: later ∧
      worker.outcome event = ⟨[event], member.outcome reports event⟩ ∧
      Attend members (workers.put key { worker with queue := rest }) awaited
        (earlier ++ later) := by
  obtain ⟨member, isMember, rfl, isOwn⟩ := attend.workers key worker found
  cases processing : member.processing with
  | direct handle => simp [worker?, processing] at isOwn
  | reported accept => simp [worker?, processing] at isOwn
  | queued handle =>
    have waits : member.queueIn workers awaited = event :: rest := by
      simp [queueIn, processing, found, first]
    obtain ⟨earlier, later, split, remaining⟩ := attend.exists_split distinct isMember waits
    refine ⟨member, isMember, earlier, later, rfl, ?_, split, ?_, ?_⟩
    · simp [isAsynchronous, processing]
    · simp only [worker?, processing, Option.some.injEq, Worker.mk.injEq] at isOwn
      obtain ⟨sameType, sameProcess, -⟩ := isOwn
      simp only [Worker.outcome, outcome, processing, sameProcess, ← sameType]
      cases worker.process event <;> rfl
    · refine attend.changeWorker distinct isMember ?_ remaining ?_ (attend.accepted_split split)
      · exact isOwn
      · intro other differ
        rw [split, eventsAmong_insert earlier later event differ]

/-- A member reports on the first event that it has accepted. -/
theorem takeAwaited (attend : Attend members workers awaited waiting)
    (distinct : (members.map Listener.key).Nodup)
    (reports : String → Event Payload → Option ProcessingFailure)
    {key : String} (first : awaited key = event :: rest) :
    ∃ member ∈ members, ∃ earlier later, member.key = key ∧ member.isAsynchronous ∧
      ¬member.isQueued ∧ waiting = earlier ++ (member, event) :: later ∧
      reports key event = member.outcome reports event ∧
      Attend members workers (Function.update awaited key rest) (earlier ++ later) := by
  obtain ⟨member, isMember, rfl, isReported⟩ := attend.awaited key (first ▸ List.cons_ne_nil _ _)
  cases processing : member.processing with
  | direct handle => simp [Listener.isReported, processing] at isReported
  | queued handle => simp [Listener.isReported, processing] at isReported
  | reported accept =>
    have waits : member.queueIn workers awaited = event :: rest := by
      simp [queueIn, processing, first]
    obtain ⟨earlier, later, split, remaining⟩ := attend.exists_split distinct isMember waits
    refine ⟨member, isMember, earlier, later, rfl, ?_, ?_, split, ?_, ?_⟩
    · simp [isAsynchronous, processing]
    · simp [isQueued, processing]
    · have granted : member.handle event = .ok () := by
        refine (attend.accepted (member, event) ?_).2
        rw [split]
        exact List.mem_append_right _ List.mem_cons_self
      simp only [handle, processing] at granted
      simp only [outcome, processing, granted]
    · rw [← remaining]
      refine attend.changeAwaited distinct isMember isReported ?_ (attend.accepted_split split)
      intro other differ
      rw [split, eventsAmong_insert earlier later event differ]

end Attend

end Listener

end EventSourcing
