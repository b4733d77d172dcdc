import EventSourcing.Interchange.Message
import EventSourcing.Monitor.Basic

/-!
# The processing of events as clients see it

The value of a parameter is seen under the name of what it is; a metadata entry
that is missing is seen as an object without members.  A notification is seen
with the monitor that receives it and the identities of its events.
-/

namespace EventSourcing

instance {Payload : Type} : JsonView (Delivery Payload) where
  view delivery :=
    let failed := delivery.notification.failure.map fun failure => Json.ofMembers
      [viewAs "listener" failure.listenerType, viewAs "cause" (Failure.view failure.cause),
       viewAs "display" failure.message]
    .ofMembers
      [viewAs "monitor" delivery.monitor,
       viewAs "events" (delivery.notification.events.map Event.id), viewAs "failed" failed]

/-- A payload among the values of parameters: its label and its value, if it is
of a known type. -/
def viewContent {Payload : Type} [DocumentFamily Payload] [PayloadView Payload] (key : String)
    (content : Payload) : List (String × Json) :=
  if isUnreadable content then []
  else [viewAs key [view (PayloadView.label content), view (PayloadView.content? content)]]

instance {Payload : Type} [DocumentFamily Payload] [PayloadView Payload] :
    JsonView (ParameterValue Payload) where
  view value := .ofMembers
    (match value with
    | .message event => [viewAs "message" event.id]
    | .metadata entries => [viewAs "meta_data" entries]
    | .value json => (json.map (viewAs "value")).toList
    | .payload content => viewContent "payload" content
    | .timestamp time => [viewAs "timestamp" time.microseconds]
    | .sequenceNumber number => [viewAs "sequence" number]
    | .resource content => viewContent "resource" content)

end EventSourcing
