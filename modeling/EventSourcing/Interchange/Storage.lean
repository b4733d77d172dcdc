import EventSourcing.Document.Rule
import EventSourcing.EventStream.Stage
import EventSourcing.Interchange.Message

/-!
# Stores that clients describe

A client can describe criteria, places in a store, upcasters, pipelines, the
settings of a store and the faults of its backend.
-/

namespace EventSourcing

/-- Reads criteria: restrictions that are made one after another. -/
def Criteria.ofJson (json : Json) : Criteria :=
  json.elements.foldl (fun criteria link =>
    let time := Timestamp.ofMember link "ts"
    match link.text "set" with
    | "after" => criteria.after time
    | "on_or_after" => criteria.onOrAfter time
    | "before" => criteria.before time
    | "on_or_before" => criteria.onOrBefore time
    | _ => criteria.ofType (link.text "type")) .all

instance : JsonView TimeBound where
  view bound := .array [view bound.time.microseconds, view bound.isInclusive]

/-- Reads which history is meant; without type and identity it is the usual one. -/
def StreamKey.ofJson (usual : StreamKey) (json : Json) : StreamKey :=
  ⟨json.textD "type" usual.aggregateType, ⟨json.textD "id" usual.aggregateId.text⟩⟩

/-- Reads the position of an entry, if there is one. -/
def EntryPosition.ofJson? (json : Json) : Option EntryPosition :=
  if json = .null then none
  else some ⟨.ofMember json "ts", json.nat "seq", .ofJson (json.member "id")⟩

/-- Reads a rule for upcasting.  It is for one revision if the client gives
one, if only null for documents without a revision. -/
def UpcastRule.ofJson (json : Json) : UpcastRule where
  name := json.text "name"
  revision := if json.has "revision" then some (json.member "revision").text? else none
  failure := (json.member "fail").text?
  required := (json.member "require").text?
  set := (json.member "set").members
  describesRecord := json.flag "context"
  targets := (json.list "into").map .ofJson

def UpcasterChain.ofJson (json : Json) : UpcasterChain :=
  json.elements.map fun rule => (UpcastRule.ofJson rule).toUpcaster

/-- Reads the record to which documents belong. -/
def UpcastContext.ofJson (usualId : EventId) (usualAggregate : String) (json : Json) :
    UpcastContext where
  id := if json.gives "id" then .ofJson (json.member "id") else usualId
  aggregateId := ⟨json.textD "aggregate" usualAggregate⟩
  sequenceNumber := json.nat "seq"
  timestamp := .ofMember json "ts"
  metadata := .ofMember json "meta"

/-- Reads the faults of an operation, which tells in messages that it is not
available. -/
def Fault.ofJson (json : Json) : Fault :=
  let reason := json.text "method" ++ " unavailable"
  { skip := json.nat "skip"
    times := json.natD "times" 1
    error := if json.flag "duplicate" then .duplicateKey (.stated reason) else .backend reason }

variable {Payload : Type}

/-- Reads the settings of an event store that has a serializer. -/
def EventStore.ofJson (serializer : Serializer Payload) (json : Json) : EventStore Payload :=
  let store := (EventStore.ofSerializer serializer).withUpcasters
    (.ofJson (json.member "upcasters"))
  let store :=
    match EventStoreConfig.decode (json.member "config") with
    | .ok config => store.withConfig config
    | .error _ => store
  let store := (json.member "batch_size").nat?.elim store store.withBatchSize
  (json.member "max_snapshots").nat?.elim store store.withMaxSnapshots

def Stage.ofJson? [PayloadView Payload] (json : Json) : Option (Stage Payload) :=
  match json with
  | .string "peek" => some .lookAhead
  | .object [("map_meta", entries)] => some (.addMetadata (.ofList entries.members))
  | .object [("count_as", .string key)] => some (.numbered key)
  | .object [("map_payload", _)] => some (.replacePayload (payloadAt json "map_payload"))
  | .object [("min_seq", least)] =>
    some (.keep fun event => least.nat?.getD 0 ≤ event.sequenceNumber)
  | .object [("multiple_of", factor)] =>
    some (.keep fun event => event.sequenceNumber % factor.nat?.getD 0 == 0)
  | .object [("has_meta", .string key)] => some (.keep fun event => event.metadata.contains key)
  | .object [("not_payload", .string label)] =>
    some (.keep fun event => PayloadView.label event.payload != label)
  | _ => none

def Stage.allOfJson [PayloadView Payload] (json : Json) : List (Stage Payload) :=
  json.elements.filterMap Stage.ofJson?

end EventSourcing
