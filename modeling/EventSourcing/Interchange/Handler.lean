import EventSourcing.Interchange.Processing
import EventSourcing.Listener.Basic

/-!
# Handlers that clients describe

A client can describe the parameters of a handler, the factories that resolve
them, and candidates for handlers with the result of their invocation.  Types
are given by the labels of payloads.
-/

namespace EventSourcing

def ValueKind.named : String → ValueKind
  | "bool" => .boolean
  | "integer" => .integer
  | "float" => .float
  | "string" => .string
  | "array" => .array
  | "object" => .object
  | _ => .any

/-- Reads a priority: a number, or the name of one. -/
def Priority.ofJson : Json → Priority
  | .number (.integer value) => value
  | .string "FIRST" => .first
  | .string "HIGH" => .high
  | .string "LOW" => .low
  | .string "LAST" => .last
  | _ => .neutral

def Parameter.changed (parameter : Parameter) (change : Json) : Parameter :=
  match change, change.member "annotate" with
  | .string "primitive", _ => parameter.primitive
  | .string "required", _ => parameter.required
  | _, .string "timestamp" => parameter.marked .timestamp
  | _, .string "sequence" => parameter.marked .sequenceNumber
  | _, entry => parameter.marked (.metadataEntry (entry.text "meta") (entry.flag "required"))

section Types

variable (typeNamed : String → PayloadType)

/-- Reads a parameter; one that is not described is the event itself. -/
def Parameter.ofJson (json : Json) : Parameter :=
  let type := typeNamed (json.text "type")
  let kind := ValueKind.named (json.text "kind")
  let parameter : Parameter :=
    match json.text "make" with
    | "domain" => .domainEvent
    | "meta_data" => .metadata
    | "payload" => .payload type
    | "resource" => .resource type
    | "meta_value" => .metadataValue (json.text "key") kind
    | "timestamp" => .timestamp
    | "sequence" => .sequenceNumber
    | "bare_timestamp" => { type := .timestamp }
    | "bare_sequence" => { type := .sequenceNumber }
    | "bare_value" => { type := .value kind (json.flag "primitive") }
    | _ => .message
  (json.list "chain").foldl Parameter.changed parameter

def MemberMark.ofJson (json : Json) : MemberMark :=
  if json.gives "named" then .named (json.text "named")
  else .eventHandler ((json.member "event_handler").text?.map typeNamed)

end Types

variable {Payload : Type}

namespace ResolverFactory

/-- The factory that gives every parameter a fixed value, in every candidate or
in those with one name only. -/
def fixed (value : Json) (priority : Priority) (onlyNamed : Option String) :
    ResolverFactory Payload :=
  .single
    { name := "Fixed"
      priority
      create := fun marks _ =>
        if onlyNamed.all fun name => marks.contains (.named name) then
          some (.fixed (.value (some value)))
        else none }

mutual

/-- Reads a factory; one that is not described is the standard one. -/
def ofJson [PayloadFamily Payload] [PayloadView Payload] (json : Json) :
    ResolverFactory Payload :=
  match json with
  | .string "default" => message
  | .string "timestamp" => timestamp
  | .string "sequence" => sequenceNumber
  | .object [("arc", shared)] => ofJson shared
  | .object [("multi", .array delegates)] => .composite (allOfJson delegates)
  | .object [("ordered", .array delegates)] => ordered (allOfJson delegates)
  | .object [("resource", _)] => resource (payloadAt json "resource")
  | .object members =>
    let json := Json.object members
    if json.gives "fixed" then
      fixed (json.member "fixed") (.ofJson (json.member "priority"))
        (json.member "only_named").text?
    else standard
  | _ => standard

def allOfJson [PayloadFamily Payload] [PayloadView Payload] :
    List Json → List (ResolverFactory Payload)
  | [] => []
  | json :: rest => ofJson json :: allOfJson rest

end

mutual

/-- A factory as clients see it: its name and priority, or what it is composed of. -/
def toView : ResolverFactory Payload → Json
  | .single factory => .array [view factory.name, .ofInt factory.priority]
  | .composite delegates =>
    .ofMembers
      [("multi", .array (allViews delegates)), ("priority", .ofInt (priorityOfFirst delegates))]

def allViews : List (ResolverFactory Payload) → List Json
  | [] => []
  | factory :: rest => factory.toView :: allViews rest

end

end ResolverFactory

variable [DocumentFamily Payload] [PayloadView Payload]

/-- What an invocation that a client describes results in: a failure, a mismatch
if an argument is not there or is not what is needed, or success. -/
def invocationResult (result : Json) (arguments : List (ParameterValue Payload)) :
    Except ListenerError Unit :=
  let need := result.member "need"
  let index := need.nat "index"
  if result.gives "fail" then .error (.failed (result.text "fail"))
  else if need = .null then .ok ()
  else
    match arguments[index]? with
    | none => .error (.parameter (.missing index))
    | some argument =>
      if (view argument).has (need.text "as") then .ok ()
      else .error (.parameter (.mismatch index (need.text "as")))

def Member.ofJson (typeNamed : String → PayloadType) (json : Json) : Member Payload :=
  let name := json.text "name"
  let invoke := invocationResult (json.member "result")
  let member : Member Payload :=
    if json.flag "handler" then .eventHandler name invoke else { name, invoke }
  { ((json.list "annotations").map (MemberMark.ofJson typeNamed)).foldl Member.marked member with
    parameters := (json.list "parameters").map (Parameter.ofJson typeNamed) }

/-- Reads what counts as a handler: by default candidates marked so, else those
with a name. -/
def HandlerDefinition.ofJson (typeNamed : String → PayloadType) (json : Json) :
    HandlerDefinition Payload :=
  match (json.member "definition").text? with
  | none => .eventHandlers
  | some name =>
    { isHandler := fun candidate => candidate.marks.contains (.named name)
      payloadType? := fun _ => (json.member "definition_payload").text?.map typeNamed }

/-- Reads a listener made of handlers; it has no markers yet. -/
def AnnotatedListener.ofJson (typeNamed : String → PayloadType) (json : Json) :
    Except HandlerError (AnnotatedListener Payload) :=
  AnnotatedListener.ofMembers (json.text "name")
    ((json.list "members").map (Member.ofJson typeNamed)) (.ofJson typeNamed json)
    (.ofJson (json.member "factory"))

/-- A handler as clients see it, with the events that it matches. -/
def InspectedHandler.toView (handler : InspectedHandler Payload) (events : List (Event Payload)) :
    Json :=
  .ofMembers
    [viewAs "name" handler.name,
     viewAs "payload_type" (handler.payloadType.map PayloadType.simpleName),
     viewAs "matches" (events.map handler.isMatch), viewAs "debug" handler.describe]

/-- The invocation that an event leads to, as clients see it. -/
def AnnotatedListener.calls (listener : AnnotatedListener Payload) (event : Event Payload) :
    List Json :=
  (listener.handlerFor? event).toList.map fun handler =>
    .ofMembers [viewAs "member" handler.name, viewAs "args" (handler.arguments event)]

end EventSourcing
