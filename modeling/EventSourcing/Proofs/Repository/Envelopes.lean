import EventSourcing.Proofs.Repository.DecoratedRuns

/-!
# Envelopes

The decorator for examples puts the metadata of every event into an envelope, and takes
them out again.  A strict one drops what has no envelope when a history is read, another
one leaves it as it is.  Both can be undone, but only the second one lets snapshots
through: behind a strict one an aggregate is lost as soon as there is a snapshot of it
(`Repository.snapshots_visible`).
-/

namespace EventSourcing

namespace Envelope

variable {Payload : Type}

def key : String := "envelope"

/-- The event with its metadata in an envelope. -/
def close (event : DomainEvent Payload) : DomainEvent Payload :=
  event.withMetadata (.single key (Serializer.encodeMetadata event.metadata))

/-- The metadata in the envelope of an event, if it has one. -/
def contents? (event : DomainEvent Payload) : Option Metadata :=
  (event.metadata.get? key).bind fun json => (Serializer.decodeMetadata json).toOption

/-- The event with its metadata out of the envelope, if it has one. -/
def opened (event : DomainEvent Payload) : DomainEvent Payload :=
  event.withMetadata ((contents? event).getD event.metadata)

theorem contents?_close (event : DomainEvent Payload) :
    contents? (close event) = some event.metadata := by
  have found (json : Json) : (Metadata.single key json).get? key = some json := rfl
  simp only [contents?, close, DomainEvent.withMetadata, found, Option.bind_some,
    Serializer.decodeMetadata_encodeMetadata]
  rfl

theorem opened_close (event : DomainEvent Payload) : opened (close event) = event := by
  rw [opened, contents?_close]
  rfl

end Envelope

namespace Decorator

open Envelope

variable {Payload State Note : Type} {strict : Bool}

/-- The decorator that puts metadata into envelopes. -/
def enveloping (strict : Bool) : Decorator Payload Note where
  onAppend _ events := events.map close
  onRead _ stream :=
    ([], (stream.filter fun event => !strict || (contents? event).isSome).map opened)

theorem items_enveloping {key : StreamKey} {stream : EventStream (ReadMark Note) Payload}
    {events : List (DomainEvent Payload)} (stored : stream.items = events.map .ok) :
    ((enveloping strict).onRead key stream).2.items =
      ((events.filter fun event => !strict || (contents? event).isSome).map opened).map .ok := by
  simp only [enveloping, EventStream.items_map, EventStream.items_filter, stored, List.filter_map,
    List.map_map]
  rfl

theorem map_opened_close (events : List (DomainEvent Payload)) :
    (((events.map close).filter fun event => !strict || (contents? event).isSome).map opened) =
      events := by
  have allKept : ∀ event ∈ events.map close, (!strict || (contents? event).isSome) = true := by
    intro event isClosed
    obtain ⟨original, -, rfl⟩ := List.mem_map.mp isClosed
    simp [contents?_close]
  rw [List.filter_eq_self.mpr allKept, List.map_map]
  refine (List.map_congr_left fun event _ => opened_close event).trans ?_
  exact List.map_id' events

theorem flatMap_enveloping (key : StreamKey) (batches : List (List (DomainEvent Payload))) :
    batches.flatMap ((enveloping strict : Decorator Payload Note).onAppend key) =
      batches.flatten.map close := by
  rw [List.map_flatten, List.flatMap_def]
  rfl

theorem reversible_enveloping (strict : Bool) :
    (enveloping strict : Decorator Payload Note).Reversible where
  restores key batches stream stored := by
    rw [flatMap_enveloping] at stored
    rw [items_enveloping stored, map_opened_close]
  keepsPlaces key events := by
    change (events.map close).map DomainEvent.place = _
    rw [List.map_map]
    rfl

theorem passesSnapshots_enveloping [PayloadFamily Payload] (kind : PayloadKind Payload State) :
    (enveloping false : Decorator Payload Note).PassesSnapshots kind := by
  intro key snapshot state batches stream isState stored
  rw [flatMap_enveloping] at stored
  refine ⟨opened snapshot, rfl, rfl, ?_⟩
  rw [items_enveloping stored, List.filter_cons_of_pos rfl, List.map_cons, map_opened_close]

end Decorator

namespace Meter

/-- The repository of meters behind envelopes. -/
def enveloped (strict : Bool) : Repository MeterPayload Meter Unit Unit :=
  { repository with decorators := [.enveloping strict] }

theorem faithful_enveloped (strict : Bool) : (enveloped strict).Faithful where
  direct := rfl
  ignoresAggregateId := entity_ignoresAggregateId
  keepsIdentifier := identifier_evolve
  statesReadBack := repository_wellBehaved.statesReadBack

theorem wellDecorated_enveloped : (enveloped false).WellDecorated where
  reversible decorator isDecorator := by
    rw [List.mem_singleton.mp isDecorator]
    exact Decorator.reversible_enveloping false
  passesSnapshots decorator isDecorator := by
    rw [List.mem_singleton.mp isDecorator]
    exact Decorator.passesSnapshots_enveloping _
  readsBack key events admitted stored isStored document written := by
    obtain ⟨event, isEvent, rfl⟩ := List.mem_map.mp isStored
    exact (admitted event isEvent).roundTrips.readBack written

/-- A meter has been installed through a command, and a snapshot of it has been taken. -/
theorem dispatched_installation (strict : Bool) :
    (enveloped strict).Dispatched ((enveloped strict).dispatch ⟨EventId.ofNat 2, default⟩
      { target := ⟨"m"⟩
        handler := fun guard =>
          guard.apply configuration ⟨EventId.ofNat 1, default⟩ (.installed ⟨"m"⟩ 2) .empty }
      .empty ()).backend := by
  refine .dispatch .start _ _ _ fun found live _ handled => ?_
  exact Repository.Handling.start.apply _ _ _ ⟨rfl, _, rfl, rfl⟩ handled

end Meter

namespace Repository

/-- A meter is installed, and a snapshot of it is taken, which is stored without an
envelope. -/
theorem Dispatched.snapshots_invisible_of_meter :
    ∃ backend, (Meter.enveloped false).Dispatched backend ∧
      backend.entries.snapshotCount ⟨"Meter", ⟨"m"⟩⟩ = 1 ∧
      ∀ expected, ((Meter.enveloped false).load ⟨"m"⟩ expected backend).1.map
          Guard.resetSnapshotCounter =
        ((Meter.enveloped false).load ⟨"m"⟩ expected backend.withoutSnapshots).1.map
          Guard.resetSnapshotCounter :=
  ⟨_, Meter.dispatched_installation false, by decide +kernel, fun expected =>
    Dispatched.snapshots_invisible (Meter.faithful_enveloped false) Meter.wellDecorated_enveloped
      (Meter.dispatched_installation false) ⟨"m"⟩ expected⟩

/-- The strict decorator restores whatever it has stored.  But nobody asks it to put a
snapshot into an envelope, so it drops the snapshot, and with it all that the snapshot
stands for. -/
theorem snapshots_visible :
    ∃ backend, (∀ decorator ∈ (Meter.enveloped true).decorators, decorator.Reversible) ∧
      (Meter.enveloped true).Faithful ∧ (Meter.enveloped true).Dispatched backend ∧
      ((Meter.enveloped true).load ⟨"m"⟩ .any backend).1.map Guard.resetSnapshotCounter ≠
        ((Meter.enveloped true).load ⟨"m"⟩ .any backend.withoutSnapshots).1.map
          Guard.resetSnapshotCounter := by
  refine ⟨_, fun decorator isDecorator => ?_, Meter.faithful_enveloped true,
    Meter.dispatched_installation true, fun same => ?_⟩
  · rw [List.mem_singleton.mp isDecorator]
    exact Decorator.reversible_enveloping true
  · have sameVersion := congrArg (fun loaded => loaded.toOption.map Guard.version) same
    revert sameVersion
    decide +kernel

end Repository

end EventSourcing
