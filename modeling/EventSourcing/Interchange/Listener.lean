import EventSourcing.Cluster.Journal
import EventSourcing.Cluster.Selector
import EventSourcing.Interchange.Handler

/-!
# Listeners that clients describe

A client can describe listeners of every kind of processing, and ask afterwards
what each has recorded: the identities of the events that it has handled or, if
it is made of handlers, their invocations.
-/

namespace EventSourcing

variable {Payload : Type}

/-- A listener, and what it records of an event that it handles. -/
structure Recorder (Payload : Type) where
  listener : Listener Payload
  records : Event Payload → List Json := fun event => [view event.id]

/-- How a listener that a client describes handles an event: it may fail, with
all events or with some. -/
def failingAsDescribed (json : Json) (event : Event Payload) : Except ListenerError Unit :=
  let concerned := !json.gives "fail_ids" ||
    (json.list "fail_ids").any fun id => EventId.ofJson id == event.id
  if json.gives "fail" && concerned then .error (.failed (json.text "fail")) else .ok ()

namespace Recorder

def key (recorder : Recorder Payload) : String := recorder.listener.key

/-- Reads a listener; types are found by their labels, and markers by their names. -/
def ofJson [DocumentFamily Payload] [PayloadView Payload]
    (typeNamed markerNamed : String → PayloadType) (json : Json) :
    Except HandlerError (Recorder Payload) := do
  let listenerType := json.text "name"
  let key := json.textD "key" listenerType
  let markers := (json.texts "markers").map markerNamed
  let recorder (processing : Processing Payload) : Recorder Payload :=
    { listener := { key, listenerType, markers, processing } }
  match json.text "kind" with
  | "plain" =>
    return { listener :=
      { key, listenerType := (markerNamed "Plain").name, processing := .direct fun _ => .ok () } }
  | "manual" =>
    return recorder (.reported fun _ =>
      if json.gives "fail" then .error (.unavailable (json.text "fail")) else .ok ())
  | "worker" => return recorder (.queued (failingAsDescribed json))
  | "annotated" =>
    let annotated ← AnnotatedListener.ofJson typeNamed json
    return { listener := { annotated with markers }.toListener key
             records := annotated.calls }
  | _ => return recorder (.direct (failingAsDescribed json))

def find? (recorders : List (Recorder Payload)) (key : String) : Option (Recorder Payload) :=
  recorders.find? fun recorder => recorder.key == key

/-- Reads listeners, which are listed in the order of their keys; of several
with one key the last counts. -/
def allOfJson [DocumentFamily Payload] [PayloadView Payload]
    (typeNamed markerNamed : String → PayloadType) (json : List Json) :
    Except HandlerError (List (Recorder Payload)) := do
  let recorders ← json.mapM (ofJson typeNamed markerNamed)
  return (OrderedMap.ofList (recorders.map fun recorder => (recorder.key, recorder))).values

/-- What recorders have recorded of occurrences, each under its key, and what
monitors were told. -/
def report (recorders : List (Recorder Payload)) (occurrences : List (Occurrence Payload)) :
    List (String × Json) :=
  let handled := recorders.filterMap fun recorder =>
    let records :=
      (occurrences.filterMap recorder.listener.handledBy?).flatMap recorder.records
    if records.isEmpty then none else some (viewAs recorder.key records)
  [("handled", .ofMembers handled), viewAs "notes" (occurrences.filterMap Occurrence.delivery?)]

end Recorder

mutual

/-- Reads a selector.  Every selector that is not described has a cluster of its
own, told apart by a serial number, of which the number of used ones is kept. -/
def Selector.ofJson (markerNamed : String → PayloadType) (json : Json) : StateM Nat Selector :=
  match json with
  | .string "nobody" => return .composite []
  | .object [("composite", .array selectors)] =>
    .composite <$> Selector.allOfJson markerNamed selectors
  | .object members =>
    let json := Json.object members
    let cluster : ClusterKey := { name := json.text "cluster" }
    if json.gives "prefix" then return .byType (json.text "prefix") cluster
    else if json.gives "marker" then return .byMarker (markerNamed (json.text "marker")) cluster
    else return .always cluster
  | _ =>
    modifyGet fun count =>
      (.always { name := Selector.defaultName, serial := count + 1 }, count + 1)

def Selector.allOfJson (markerNamed : String → PayloadType) :
    List Json → StateM Nat (List Selector)
  | [] => return []
  | json :: rest => do
    return (← Selector.ofJson markerNamed json) :: (← Selector.allOfJson markerNamed rest)

end

end EventSourcing
