import EventSourcing.Proofs.Cluster.Buses
import EventSourcing.Proofs.Repository.MeterRepository
import EventSourcing.Proofs.Repository.Ownership

/-!
# The log and the bus

A repository publishes on a bus what it has stored, in the form in which it is stored,
and only that.  While commands come one after another, whatever their handlers, the
decorators, the store and the listeners do, a refused command leaves log, snapshots and
bus alone, and the events of the others are behind the old log, in the order in which
every listener of the bus is handed them (`Repository.Course.bus_follows_log`).
-/

namespace EventSourcing

/-- What may happen while commands come one after another: in between, workers and other
asynchronous listeners go on. -/
inductive CourseAction (Payload State : Type) where
  | dispatch (stamp : Stamp) (command : Command Payload State)
  | work (key : String)
  | report (key : String) (notification : Notification Payload)

namespace Repository

/-- The bus of a repository, with a record of what happens on it. -/
abbrev RecordedBus (Payload : Type) := EventBus Payload × List (Occurrence Payload)

/-- A store and a bus in the course of commands, with the answers to them so far. -/
structure Course (Payload : Type) where
  backend : Backend
  bus : EventBus Payload
  journal : List (Occurrence Payload) := []
  answers : List (Except DispatchError (List (DomainEvent Payload))) := []

variable {Payload State Note : Type} [DocumentFamily Payload]

namespace Course

def log (course : Course Payload) : List Entry := course.backend.entries.log.toList

/-- The events that a command has answered with. -/
def toldBy (answer : Except DispatchError (List (DomainEvent Payload))) :
    List (DomainEvent Payload) :=
  answer.toOption.getD []

/-- The events that all commands have answered with. -/
def told (course : Course Payload) : List (DomainEvent Payload) := course.answers.flatMap toldBy

def perform (repository : Repository Payload State Note (RecordedBus Payload))
    (course : Course Payload) : CourseAction Payload State → Course Payload
  | .dispatch stamp command =>
    let outcome := repository.dispatch stamp command course.backend (course.bus, course.journal)
    { backend := outcome.backend
      bus := outcome.bus.1
      journal := outcome.bus.2
      answers := course.answers ++ [outcome.result] }
  | .work key =>
    let (occurrences, bus) := course.bus.act (.work key)
    { course with bus, journal := course.journal ++ occurrences }
  | .report key notification =>
    let (occurrences, bus) := course.bus.act (.report key notification)
    { course with bus, journal := course.journal ++ occurrences }

def performAll (repository : Repository Payload State Note (RecordedBus Payload))
    (course : Course Payload) (actions : List (CourseAction Payload State)) : Course Payload :=
  actions.foldl (perform repository) course

end Course

/-! ## One command -/

section Command

variable {repository : Repository Payload State Note (RecordedBus Payload)} {id : AggregateId}
  {guard : Guard Payload State} {backend : Backend}

/-- A bus on which events have been published, with the record of it. -/
def RecordedBus.after (bus : RecordedBus Payload) (events : List (DomainEvent Payload)) :
    RecordedBus Payload :=
  let (occurrences, next) := bus.1.publish (events.map .domain)
  (next, bus.2 ++ occurrences)

omit [DocumentFamily Payload] in
theorem RecordedBus.after_nil (bus : RecordedBus Payload) : bus.after [] = bus := by
  simp [RecordedBus.after, EventBus.publish]

/-- What a call has left behind: nothing, together with an error, or the events that it
tells of, in the log and on the bus. -/
def StoresAndPublishes (repository : Repository Payload State Note (RecordedBus Payload))
    (before : Backend) (bus : RecordedBus Payload) {Failure : Type}
    (result : Except Failure (List (DomainEvent Payload))) (after : Backend)
    (busAfter : RecordedBus Payload) : Prop :=
  match result with
  | .error _ => after.entries = before.entries ∧ busAfter = bus
  | .ok events => busAfter = bus.after events ∧ ∃ batch, repository.Written events batch ∧
      after.entries.log.toList = before.entries.log.toList ++ batch

theorem storesAndPublishes_nothing {after : Backend} (unchanged : after.entries = backend.entries)
    (bus : RecordedBus Payload) {Failure : Type} :
    repository.StoresAndPublishes backend bus (.ok [] : Except Failure _) after bus :=
  ⟨bus.after_nil.symm, [], .nil, by rw [unchanged, List.append_nil]⟩

theorem save_storesAndPublishes (publishes : repository.publisher = some .recorded)
    (stamp : Stamp) (guard : Guard Payload State) (backend : Backend)
    (bus : RecordedBus Payload) :
    let (result, _, after, busAfter) := repository.save stamp guard backend bus
    repository.StoresAndPublishes backend bus result after busAfter := by
  by_cases queued : guard.uncommitted = []
  · have nothing : repository.save stamp guard backend bus = (.ok [], guard, backend, bus) := by
      simp [save, queued]
    rw [nothing]
    exact storesAndPublishes_nothing rfl bus
  have nonempty : guard.uncommitted.isEmpty = false := by simpa using queued
  cases owned : guard.identifier repository.configuration with
  | none =>
    simp only [save, nonempty, Bool.false_eq_true, ↓reduceIte, owned]
    exact ⟨rfl, rfl⟩
  | some id =>
    generalize isEvents : Decorator.appendAll repository.decorators (repository.streamKey id)
      guard.uncommitted = events
    rcases repository.store.append_cases repository.typeIdentifier events backend with
      ⟨error, after, refused, unchanged⟩ | ⟨batch, after, appended, written, extended⟩
    · have fails : repository.write id guard backend = (.error (.store error), guard, after) := by
        simp only [write, isEvents, refused]
      rw [save_of_refused queued owned fails]
      exact ⟨unchanged, rfl⟩
    · simp only [save, nonempty, Bool.false_eq_true, ↓reduceIte, owned, write, isEvents, appended,
        publish, publishes, Publisher.recorded]
      refine ⟨rfl, batch, written, ?_⟩
      rw [log_snapshotIfDue]
      exact extended

theorem dispatch_storesAndPublishes (publishes : repository.publisher = some .recorded)
    (stamp : Stamp) (command : Command Payload State) (backend : Backend)
    (bus : RecordedBus Payload) :
    let outcome := repository.dispatch stamp command backend bus
    repository.StoresAndPublishes backend bus outcome.result outcome.backend outcome.bus := by
  have unchanged := repository.entries_load command.target command.expected backend
  rw [← repository.backend_obtain] at unchanged
  unfold dispatch
  rcases obtained : repository.obtain command.target command.expected backend with
    ⟨error | guard, notes, after⟩
  · rw [obtained] at unchanged
    exact ⟨unchanged, rfl⟩
  rw [obtained] at unchanged
  rcases handled : command.handler guard with ⟨error | _, live⟩
  · simp only [handled]
    exact ⟨unchanged, rfl⟩
  rcases checked : repository.checkTarget command.target live with error | _ | _
  · simp only [handled, checked]
    exact ⟨unchanged, rfl⟩
  · simp only [handled, checked]
    exact storesAndPublishes_nothing unchanged bus
  · have saves := repository.save_storesAndPublishes publishes stamp live after bus
    rcases saved : repository.save stamp live after bus with ⟨error | events, final, left, busAfter⟩
    · rw [saved] at saves
      simp only [handled, checked, saved]
      exact ⟨saves.1.trans unchanged, saves.2⟩
    · rw [saved] at saves
      obtain ⟨published, batch, written, extended⟩ := saves
      simp only [handled, checked, saved]
      exact ⟨published, batch, written, unchanged ▸ extended⟩

end Command

/-! ## Commands one after another -/

namespace Course

variable {repository : Repository Payload State Note (RecordedBus Payload)} {bus : EventBus Payload}
  {backend : Backend} {roster : Set (Listener Payload)} {course : Course Payload}

/-- A course that began with a store and a bus has stored what commands have told, at the
end of the log, and the listeners of the bus have been handed just that. -/
structure Follows (repository : Repository Payload State Note (RecordedBus Payload))
    (roster : Set (Listener Payload)) (backend : Backend) (bus : EventBus Payload)
    (course : Course Payload) : Prop where
  arranged : course.bus.Arranged roster
  members (place : ClusterKey) :
    (course.bus.cluster place).members = (bus.cluster place).members
  stored : ∃ batch, repository.Written course.told batch ∧
    course.log = backend.entries.log.toList ++ batch
  handed (listener : Listener Payload) : bus.HasListener listener →
    handedTo listener.key course.journal = course.told.map .domain

theorem follows_start (arranged : bus.Arranged roster) (backend : Backend) :
    Follows repository roster backend bus { backend, bus } where
  arranged := arranged
  members _ := rfl
  stored := ⟨[], .nil, (List.append_nil _).symm⟩
  handed _ _ := rfl

/-- Between commands, members stay and are handed nothing. -/
theorem Follows.act (follows : course.Follows repository roster backend bus)
    {action : Cluster Payload → List (Occurrence Payload) × Cluster Payload}
    (silent : ∀ cluster : Cluster Payload, ∀ key, cluster.Hands key [] (action cluster)) :
    Follows repository roster backend bus
      { course with
        bus := (course.bus.perform action).2
        journal := course.journal ++ (course.bus.perform action).1 } where
  arranged := follows.arranged.perform fun cluster => (silent cluster "").members
  members place := by
    rw [← follows.members]
    exact EventBus.members_cluster_perform (fun cluster => (silent cluster "").members) _ place
  stored := follows.stored
  handed listener hasListener := by
    rw [handedTo_append, EventBus.handedTo_perform fun cluster => (silent cluster _).handed,
      List.append_nil]
    exact follows.handed listener hasListener

/-- A command whose answer is an error tells, stores and publishes no events. -/
theorem stored_of_storesAndPublishes {after : Backend} {before busAfter : RecordedBus Payload}
    {answer : Except DispatchError (List (DomainEvent Payload))}
    (answered : repository.StoresAndPublishes backend before answer after busAfter) :
    busAfter = before.after (toldBy answer) ∧
      ∃ batch, repository.Written (toldBy answer) batch ∧
        after.entries.log.toList = backend.entries.log.toList ++ batch := by
  cases answer with
  | error error =>
    obtain ⟨unchanged, samePlace⟩ := answered
    refine ⟨samePlace.trans before.after_nil.symm, [], .nil, ?_⟩
    rw [unchanged, List.append_nil]
  | ok events => exact answered

theorem Follows.dispatch (publishes : repository.publisher = some .recorded)
    (apart : roster.InjOn Listener.key) (follows : course.Follows repository roster backend bus)
    (stamp : Stamp) (command : Command Payload State) :
    (course.perform repository (.dispatch stamp command)).Follows repository roster backend bus := by
  obtain ⟨published, batch, written, extended⟩ := stored_of_storesAndPublishes
    (repository.dispatch_storesAndPublishes publishes stamp command course.backend
      (course.bus, course.journal))
  simp only [perform]
  generalize repository.dispatch stamp command course.backend (course.bus, course.journal) =
    outcome at published written extended
  rw [published]
  have moreTold : (course.answers ++ [outcome.result]).flatMap toldBy =
      course.told ++ toldBy outcome.result := by
    simp [told]
  constructor
  case arranged => exact follows.arranged.publish _
  case members =>
    intro place
    rw [← follows.members]
    exact course.bus.members_cluster_publish _ place
  case stored =>
    obtain ⟨earlier, earlierWritten, stored⟩ := follows.stored
    refine ⟨earlier ++ batch, ?_, ?_⟩
    · rw [told, moreTold]
      exact List.rel_append earlierWritten written
    · rw [log, extended, ← List.append_assoc, ← stored, log]
  case handed =>
    intro listener hasListener
    have isListener := hasListener.of_members follows.members
    rw [told, moreTold, List.map_append]
    simp only [RecordedBus.after, handedTo_append]
    rw [follows.arranged.handedTo_publish apart isListener, follows.handed listener hasListener]

theorem Follows.perform (publishes : repository.publisher = some .recorded)
    (apart : roster.InjOn Listener.key) (follows : course.Follows repository roster backend bus)
    (action : CourseAction Payload State) :
    (course.perform repository action).Follows repository roster backend bus := by
  cases action with
  | dispatch stamp command => exact follows.dispatch publishes apart stamp command
  | work key => exact follows.act fun cluster listener => cluster.hands_work listener key
  | report key notification =>
    exact follows.act fun cluster listener => cluster.hands_report listener key notification

theorem Follows.performAll (publishes : repository.publisher = some .recorded)
    (apart : roster.InjOn Listener.key) (follows : course.Follows repository roster backend bus)
    (actions : List (CourseAction Payload State)) :
    (course.performAll repository actions).Follows repository roster backend bus := by
  induction actions generalizing course with
  | nil => exact follows
  | cons action rest ih => exact ih (follows.perform publishes apart action)

/-- Commands one after another: each of them changes nothing or adds its events to the
log, and what listeners that have been subscribed to the bus before are handed is what
the log has got more, event by event. -/
theorem bus_follows_log (publishes : repository.publisher = some .recorded)
    (apart : roster.InjOn Listener.key) {setup : List (BusAction Payload)}
    (areOf : ∀ action ∈ setup, action.IsOf roster) (selector : Selector) (backend : Backend)
    (actions : List (CourseAction Payload State)) :
    let start : Course Payload := { backend, bus := .used selector setup }
    let ended := start.performAll repository actions
    (∀ earlier stamp command later, actions = earlier ++ .dispatch stamp command :: later →
      let before := start.performAll repository earlier
      let outcome := repository.dispatch stamp command before.backend (before.bus, before.journal)
      repository.StoresAndPublishes before.backend (before.bus, before.journal) outcome.result
        outcome.backend outcome.bus) ∧
    ∃ stored, ended.log = start.log ++ stored ∧ repository.Written ended.told stored ∧
      ∀ listener, start.bus.HasListener listener →
        handedTo listener.key ended.journal = ended.told.map .domain := by
  intro start ended
  constructor
  · intro earlier stamp command later _
    exact repository.dispatch_storesAndPublishes publishes stamp command _ _
  · have arranged : start.bus.Arranged roster := EventBus.arranged_used selector areOf
    have follows : ended.Follows repository roster backend start.bus :=
      (follows_start arranged backend).performAll publishes apart actions
    obtain ⟨stored, written, extended⟩ := follows.stored
    exact ⟨stored, extended, written, follows.handed⟩

end Course

end Repository

namespace Meter

/-- The repository of meters that publishes on a bus. -/
def published : Repository MeterPayload Meter Unit (Repository.RecordedBus MeterPayload) where
  store := .ofSerializer serializer
  configuration := configuration
  fresh := {}
  trigger := .eventCount 1
  publisher := some .recorded

/-- A listener that fails with every event. -/
def display : Listener MeterPayload :=
  ⟨"display", "Display", [], .direct fun _ => .error (.failed "dark")⟩

end Meter

namespace Repository.Course

/-- A meter is installed, then a command is refused; the failing display has been handed
the installation. -/
theorem bus_follows_log_of_meter :
    ∃ (bus : EventBus MeterPayload) (actions : List (CourseAction MeterPayload Meter)),
      bus.HasListener Meter.display ∧
        let ended := ({ backend := .empty, bus } : Course MeterPayload).performAll
          Meter.published actions
        ended.answers.map (fun answer => answer.isOk) = [true, false] ∧
          ended.log.length = 1 ∧
          handedTo Meter.display.key ended.journal = ended.told.map .domain := by
  let setup : List (BusAction MeterPayload) := [.subscribe Meter.display]
  let bus : EventBus MeterPayload := .used (.always ⟨"default", 0⟩) setup
  let install : Command MeterPayload Meter :=
    { target := ⟨"m"⟩
      handler := fun guard => guard.apply Meter.configuration ⟨EventId.ofNat 1, default⟩
        (.installed ⟨"m"⟩ 1) .empty }
  let refuse : Command MeterPayload Meter :=
    { target := ⟨"m"⟩, handler := fun guard => (.error (.validation "no"), guard) }
  let actions : List (CourseAction MeterPayload Meter) :=
    [.dispatch ⟨EventId.ofNat 8, default⟩ install, .dispatch ⟨EventId.ofNat 9, default⟩ refuse]
  have apart : Set.InjOn Listener.key {Meter.display} := Set.injOn_singleton _ _
  have areOf : ∀ action ∈ setup, action.IsOf {Meter.display} := by
    intro action isAction
    rw [List.mem_singleton.mp isAction]
    exact Set.mem_singleton _
  have hasListener : bus.HasListener Meter.display := ⟨⟨"default", 0⟩, List.mem_singleton_self _⟩
  have publishes : Meter.published.publisher = some .recorded := rfl
  obtain ⟨-, -, -, -, handed⟩ :=
    bus_follows_log publishes apart areOf (.always ⟨"default", 0⟩) .empty actions
  refine ⟨bus, actions, hasListener, by decide +kernel, by decide +kernel, ?_⟩
  exact handed Meter.display hasListener

end Repository.Course

end EventSourcing
