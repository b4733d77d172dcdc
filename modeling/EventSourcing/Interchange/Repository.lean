import EventSourcing.Interchange.Storage
import EventSourcing.Repository.Basic
import EventSourcing.Repository.Sealing
import EventSourcing.Repository.Tracing

/-!
# Repositories that clients describe

A client can describe the decorators of a repository, when it takes snapshots,
and where it publishes what it has saved.
-/

namespace EventSourcing

variable {Payload : Type}

/-- An event that has passed a decorator is seen by its place and its metadata. -/
instance : JsonView (Passage Payload) where
  view passage := .array
    [view passage.key.aggregateType, view passage.key.aggregateId,
     view passage.event.sequenceNumber, view passage.event.metadata]

/-- Reads a decorator; one that is not described changes nothing. -/
def Decorator.ofJson [PayloadView Payload] (json : Json) : Decorator Payload (Passage Payload) :=
  match json.text "kind" with
  | "meta" => addMetadata (.ofMember json "meta")
  | "seal" => sealing (json.text "name")
  | "pipe" => tracing (Stage.allOfJson (json.member "pipeline"))
  | "break" => breaking (json.nat "after") "broken by decorator"
  | _ => inert

/-- Reads a trigger: a number of events, or never. -/
def SnapshotTrigger.ofJson (json : Json) : SnapshotTrigger :=
  match json.nat? with
  | some count => .eventCount count
  | none => .never

/-- Reads a publisher: none, one that fails, or the bus, which records what
happens. -/
def Publisher.ofJson? (json : Json) :
    Option (Publisher Payload (EventBus Payload × List (Occurrence Payload))) :=
  match json with
  | .null => none
  | .string "poisoned" => some (.failing .poisoned)
  | .string listenerType => some (.failing (.noClusterSelected listenerType))
  | _ => some .recorded

end EventSourcing
