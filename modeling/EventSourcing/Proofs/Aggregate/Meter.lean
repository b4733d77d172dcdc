import EventSourcing.Aggregate.Guard
import EventSourcing.Document.Basic
import EventSourcing.Proofs.Aggregate.Attribution

/-!
# Meters

A small application for examples.  A meter has a number of registers, which are
its child entities.  It is installed once, under an identifier that it keeps
from then on, and every amount that is measured is counted by all its registers.
-/

namespace EventSourcing

/-- A meter with the counts of its registers. -/
structure Meter where
  id : Option AggregateId := none
  registers : List Nat := []
deriving DecidableEq

/-- What messages about meters carry: events, states, and documents that nobody
can read. -/
inductive MeterPayload where
  | installed (id : AggregateId) (registers : Nat)
  | measured (amount : Nat)
  | reading (meter : Meter)
  | unreadable (document : Document)
deriving DecidableEq

namespace MeterPayload

instance : PayloadFamily MeterPayload where
  typeOf
    | .installed _ _ => ⟨"Installed"⟩
    | .measured _ => ⟨"Measured"⟩
    | .reading _ => ⟨"Meter"⟩
    | .unreadable _ => ⟨"Unreadable"⟩

/-- Installations: an identifier and a number of registers. -/
def installation : PayloadKind MeterPayload (AggregateId × Nat) where
  type := ⟨"Installed"⟩
  inject value := .installed value.1 value.2
  project
    | .installed id registers => some (id, registers)
    | _ => none
  inject_project := by
    rintro (_ | _ | _ | _) value found <;> cases found
    rfl

def measurement : PayloadKind MeterPayload Nat where
  type := ⟨"Measured"⟩
  inject := .measured
  project
    | .measured amount => some amount
    | _ => none
  inject_project := by
    rintro (_ | _ | _ | _) value found <;> cases found
    rfl

def state : PayloadKind MeterPayload Meter where
  type := ⟨"Meter"⟩
  inject := .reading
  project
    | .reading meter => some meter
    | _ => none
  inject_project := by
    rintro (_ | _ | _ | _) value found <;> cases found
    rfl

instance : DocumentFamily MeterPayload where
  unreadable :=
    { type := ⟨"Unreadable"⟩
      inject := .unreadable
      project
        | .unreadable document => some document
        | _ => none
      inject_project := by
        rintro (_ | _ | _ | _) value found <;> cases found
        rfl }

end MeterPayload

namespace Meter

open MeterPayload

/-- A register counts what is measured. -/
def register : EntityModel MeterPayload Nat :=
  EntityModel.empty.on measurement fun count amount => count + amount

def registerAccess : ChildAccess Meter Nat where
  get meter := meter.registers
  set meter registers := { meter with registers }
  set_get _ := rfl

/-- A meter takes its registers from its installation, and its identifier from
the first one. -/
def install (meter : Meter) (installation : AggregateId × Nat) : Meter :=
  { id := meter.id.or (some installation.1), registers := List.replicate installation.2 0 }

def entity : EntityModel MeterPayload Meter :=
  EntityModel.empty.on installation install |>.withChildren registerAccess register

def configuration : AggregateConfiguration MeterPayload Meter where
  snapshotKind := state
  typeIdentifier := "Meter"
  identifier := Meter.id
  entity := entity
  isDeleted _ := false

theorem entity_ignoresAggregateId : configuration.entity.IgnoresAggregateId := by
  apply EntityModel.ignoresAggregateId_withChildren
  · exact EntityModel.ignoresAggregateId_on EntityModel.ignoresAggregateId_empty _ _
  · exact EntityModel.ignoresAggregateId_on EntityModel.ignoresAggregateId_empty _ _

theorem identifier_evolve {meter : Meter} {id : AggregateId}
    (installed : configuration.identifier meter = some id) (event : DomainEvent MeterPayload) :
    configuration.identifier (configuration.evolve meter event) = some id := by
  change meter.id = some id at installed
  obtain ⟨message, aggregateId, number⟩ := event
  obtain ⟨eventId, time, metadata, payload⟩ := message
  cases payload with
  | installed other count =>
    change (meter.id.or (some other)) = some id
    rw [installed]
    rfl
  | measured amount => exact installed
  | reading other => exact installed
  | unreadable document => exact installed

end Meter

end EventSourcing
