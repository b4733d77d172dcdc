import EventSourcing.Handler.Inspection
import EventSourcing.Interchange.Basic
import EventSourcing.Repository.Error

/-!
# Failures as clients see them

A client is told the kind of a failure and its message.  The kind names the
case of the error; an error that wraps another one is named before it, with a
slash between them.
-/

namespace EventSourcing

/-- Errors that are told to clients by a kind and a message. -/
class Failure (Error : Type) where
  kind : Error → String
  message : Error → String

namespace Failure

def view {Error : Type} [Failure Error] (error : Error) : Json :=
  .ofMembers [viewAs "error" (kind error), viewAs "message" (message error)]

/-- The kind of an error that wraps another one. -/
def wrapped {Error : Type} [Failure Error] (outer : String) (error : Error) : String :=
  outer ++ "/" ++ kind error

end Failure

/-- A result is seen as its value or as its failure. -/
instance {Error Value : Type} [Failure Error] [JsonView Value] :
    JsonView (Except Error Value) where
  view
    | .ok value => view value
    | .error error => Failure.view error

instance : Failure StreamError where
  kind _ := "Stream"
  message := StreamError.message

instance : Failure DomainError where
  message := DomainError.message
  kind
    | .validation _ => "Validation"
    | .invariantViolation _ => "InvariantViolation"
    | .invalidId _ => "InvalidId"
    | .notFound => "NotFound"
    | .versionConflict _ _ | .conflict _ => "Conflict"
    | .incompatible _ => "IncompatibleAggregate"
    | .inaccessible _ => "Inaccessible"
    | .stream _ => "Stream"

instance : Failure DocumentError where
  message := DocumentError.message
  kind
    | .unregistered _ => "UnregisteredType"
    | .encoding _ _ => "Serialize"
    | .decoding _ _ => "Deserialize"
    | .metadata _ => "MetaData"
    | .upcasting _ => "Upcasting"

instance : Failure StorageError where
  message := StorageError.message
  kind
    | .duplicateKey _ => "DuplicateKey"
    | .backend _ => "Backend"

instance : Failure EventStoreError where
  message := EventStoreError.message
  kind
    | .concurrency _ => "Concurrency"
    | .streamNotFound _ => "StreamNotFound"
    | .document error => Failure.wrapped "Serialization" error
    | .storage error => Failure.wrapped "Storage" error
    | .stream _ => "Stream"

instance : Failure EventBusError where
  message := EventBusError.message
  kind
    | .noClusterSelected _ => "NoClusterSelected"
    | .poisoned => "Poisoned"

instance : Failure RepositoryError where
  message := RepositoryError.message
  kind
    | .aggregateNotFound _ => "AggregateNotFound"
    | .aggregateDeleted _ => "AggregateDeleted"
    | .conflictingVersion _ _ _ => "ConflictingVersion"
    | .missingIdentifier => "MissingIdentifier"
    | .store error => Failure.wrapped "Store" error
    | .domain error => Failure.wrapped "Domain" error
    | .publish error => Failure.wrapped "Publish" error

instance : Failure DispatchError where
  message := DispatchError.message
  kind
    | .concurrency _ => "Concurrency"
    | .validation _ => "Validation"
    | .invariantViolation _ => "InvariantViolation"
    | .notFound => "NotFound"
    | .deleted => "Deleted"
    | .incompatible _ => "Incompatible"
    | .store error => Failure.wrapped "Store" error
    | .publish _ => "Publish"

instance : Failure ParameterError where
  message := ParameterError.message
  kind
    | .missing _ => "Missing"
    | .mismatch _ _ => "Mismatch"

instance : Failure ListenerError where
  message := ListenerError.message
  kind
    | .failed _ => "Failed"
    | .parameter error => Failure.wrapped "Parameter" error
    | .unavailable _ => "Unavailable"

instance : Failure ProcessingFailure where
  kind failure := Failure.wrapped "ProcessingFailure" failure.cause
  message := ProcessingFailure.message

instance : Failure HandlerError where
  kind _ := "UnsupportedHandler"
  message := HandlerError.message

instance : Failure MonitorError where
  kind _ := "NotPrepared"
  message := MonitorError.message

/-! ## Failures in the layers of an application -/

/-- A failure of a repository as it is seen there and by a dispatcher. -/
def RepositoryError.views (error : RepositoryError) : List Json :=
  [Failure.view error, Failure.view (DispatchError.ofRepository error)]

/-- A failure of an event store as it is seen there and in the layers above. -/
def EventStoreError.views (error : EventStoreError) : List Json :=
  .ofMembers [("store", Failure.view error), viewAs "concurrency" error.isConcurrency] ::
    Failure.view (DispatchError.ofStore error) :: (RepositoryError.store error).views

/-- A failure in the domain as it is seen there and in the layers above. -/
def DomainError.views (error : DomainError) : List Json :=
  Failure.view error :: Failure.view (DispatchError.ofDomain error) ::
    (RepositoryError.domain error).views

/-- The error in the domain of a kind, for a reason. -/
def DomainError.ofKind (kind reason : String) : DomainError :=
  match kind with
  | "Validation" => .validation reason
  | "InvariantViolation" => .invariantViolation reason
  | "InvalidId" => .invalidId reason
  | "NotFound" => .notFound
  | "Conflict" => .conflict reason
  | "IncompatibleAggregate" => .incompatible (.stated reason)
  | "Inaccessible" => .inaccessible reason
  | _ => .stream ⟨reason⟩

/-- Reads an expectation: a number is an exact one. -/
def ExpectedVersion.ofJson (json : Json) : ExpectedVersion :=
  match json.nat? with
  | some version => .exact version
  | none => .any

/-- The document error of a kind, for a reason and about a type. -/
def DocumentError.ofKind (kind typeName reason : String) : DocumentError :=
  match kind with
  | "UnregisteredType" => .unregistered reason
  | "Serialize" => .encoding typeName reason
  | "Deserialize" => .decoding typeName reason
  | "MetaData" => .metadata reason
  | _ => .upcasting reason

/-- The storage error of a kind, for a reason. -/
def StorageError.ofKind (kind reason : String) : StorageError :=
  if kind = "DuplicateKey" then .duplicateKey (.stated reason) else .backend reason

/-- Reads the failure of a listener: that it was not available, that a parameter
was missing or of another kind, or else that it failed. -/
def ListenerError.ofJson (json : Json) : ListenerError :=
  if json.gives "unavailable" then .unavailable (json.text "unavailable")
  else if json.gives "missing" then .parameter (.missing (json.nat "missing"))
  else if json.gives "mismatch" then
    .parameter (.mismatch (json.nat "mismatch") (json.text "expected"))
  else .failed (json.textD "cause" (json.text "text"))

/-- Reads an error of a repository that comes from no layer below it. -/
def RepositoryError.ofJson (json : Json) : RepositoryError :=
  let id : AggregateId := ⟨json.text "id"⟩
  match json.text "layer" with
  | "missing" => .aggregateNotFound id
  | "deleted" => .aggregateDeleted id
  | "version" =>
    .conflictingVersion id (.ofJson (json.member "expected")) (json.member "actual").nat?
  | "no_identifier" => .missingIdentifier
  | "no_cluster" => .publish (.noClusterSelected (json.text "text"))
  | _ => .publish .poisoned

/-- A failure that a client describes, as it is seen in each layer. -/
def viewLayers (json : Json) : Json :=
  let reason := json.text "text"
  let kind := json.text "kind"
  match json.text "layer" with
  | "domain" => view (DomainError.ofKind kind reason).views
  | "serialization" =>
    let error := DocumentError.ofKind kind (json.text "name") reason
    view (Failure.view error :: (EventStoreError.document error).views)
  | "storage" =>
    let error := StorageError.ofKind kind reason
    let own := Json.ofMembers
      [("own", Failure.view error), viewAs "duplicate" error.isDuplicateKey]
    view (own :: (EventStoreError.ofStorage error).views)
  | "stream" => view (EventStoreError.stream ⟨reason⟩).views
  | "concurrency" => view (EventStoreError.concurrency (.stated reason)).views
  | "not_found" =>
    view (EventStoreError.streamNotFound ⟨json.text "type", ⟨json.text "id"⟩⟩).views
  | "listener" =>
    let cause := ListenerError.ofJson json
    view [Failure.view cause, Failure.view (ProcessingFailure.mk (json.text "listener") cause)]
  | "monitor" => Failure.view (MonitorError.notPrepared (.ofJson (json.member "id")))
  | "handler" => Failure.view (HandlerError.mk (json.text "member") (.stated reason))
  | _ => view (RepositoryError.ofJson json).views

end EventSourcing
