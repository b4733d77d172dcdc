import EventSourcing.Aggregate.Entity
import EventSourcing.DomainError
import EventSourcing.Text.Blank

/-!
# Aggregate types

An aggregate type is declared by a model: how its identifier is read off a
state, which handlers rebuild the state, and under which name its histories are
stored.  A declaration without an identifier accessor or with a blank name is
incompatible; a sound one yields a configuration.  A registry remembers for
which aggregate types a configuration has been made.
-/

namespace EventSourcing

/-- The declaration of an aggregate type. -/
structure AggregateModel (Payload : Type) [PayloadFamily Payload] (State : Type) where
  /-- States travel as payloads of snapshots. -/
  snapshotKind : PayloadKind Payload State
  typeIdentifier : Option String := none
  identifier : Option (State → Option AggregateId) := none
  entity : EntityModel Payload State := .empty
  isDeleted : State → Bool := fun _ => false

/-- A checked declaration of an aggregate type. -/
structure AggregateConfiguration (Payload : Type) [PayloadFamily Payload] (State : Type) where
  snapshotKind : PayloadKind Payload State
  typeIdentifier : String
  identifier : State → Option AggregateId
  entity : EntityModel Payload State
  isDeleted : State → Bool

namespace AggregateModel

variable {Payload : Type} [PayloadFamily Payload] {State : Type}

/-- Declares the name under which histories are stored. -/
def named (model : AggregateModel Payload State) (name : String) : AggregateModel Payload State :=
  { model with typeIdentifier := some name }

/-- Declares how the identifier is read off a state. -/
def identifiedBy (model : AggregateModel Payload State)
    (identifier : State → Option AggregateId) : AggregateModel Payload State :=
  { model with identifier := some identifier }

/-- Registers a handler for the values of a payload kind. -/
def on {Value : Type} (model : AggregateModel Payload State) (kind : PayloadKind Payload Value)
    (handler : State → Value → State) : AggregateModel Payload State :=
  { model with entity := model.entity.on kind handler }

/-- Registers a handler for the values of a payload kind that also sees the
event. -/
def onEvent {Value : Type} (model : AggregateModel Payload State)
    (kind : PayloadKind Payload Value)
    (handler : State → Value → DomainEvent Payload → State) : AggregateModel Payload State :=
  { model with entity := model.entity.onEvent kind handler }

def withChildren {Child : Type} (model : AggregateModel Payload State)
    (access : ChildAccess State Child) (childModel : EntityModel Payload Child) :
    AggregateModel Payload State :=
  { model with entity := model.entity.withChildren access childModel }

/-- Checks a declaration: an identifier accessor must be declared, and the name
must not be blank.  The name defaults to the simple name of the type. -/
def configure (model : AggregateModel Payload State) :
    Except DomainError (AggregateConfiguration Payload State) :=
  let typeName := model.snapshotKind.type.name
  match model.identifier with
  | none => .error (.incompatible (.noIdentifier typeName))
  | some identifier =>
    let typeIdentifier := model.typeIdentifier.getD model.snapshotKind.type.simpleName
    if model.typeIdentifier.isSome && Text.isBlank typeIdentifier then
      .error (.incompatible (.blankTypeIdentifier typeName))
    else
      .ok { snapshotKind := model.snapshotKind, typeIdentifier, identifier,
            entity := model.entity, isDeleted := model.isDeleted }

end AggregateModel

namespace AggregateConfiguration

variable {Payload : Type} [PayloadFamily Payload] {State : Type}

/-- Handles an event by a state and its child entities; also counts the
handlers that ran. -/
def handle (configuration : AggregateConfiguration Payload State) (state : State)
    (event : DomainEvent Payload) : State × Nat :=
  configuration.entity.handle event state

def evolve (configuration : AggregateConfiguration Payload State) (state : State)
    (event : DomainEvent Payload) : State :=
  (configuration.handle state event).1

def handles (configuration : AggregateConfiguration Payload State) (type : PayloadType) : Bool :=
  configuration.entity.handles type

def describe (configuration : AggregateConfiguration Payload State) : String :=
  Text.openRecord "AggregateConfiguration"
    [("type_identifier", Text.quoted configuration.typeIdentifier),
     ("handlers", configuration.entity.describe)]

end AggregateConfiguration

/-- The aggregate types for which a configuration has been made. -/
structure AggregateRegistry where
  configured : List PayloadType
deriving DecidableEq, Inhabited

namespace AggregateRegistry

/-- The registry that has made no configuration yet. -/
def empty : AggregateRegistry := ⟨[]⟩

def size (registry : AggregateRegistry) : Nat := registry.configured.length

/-- The configuration of an aggregate type.  A type is remembered once its
declaration has been found sound; failures are found anew each time. -/
def configuration {Payload : Type} [PayloadFamily Payload] {State : Type}
    (registry : AggregateRegistry) (model : AggregateModel Payload State) :
    Except DomainError (AggregateConfiguration Payload State) × AggregateRegistry :=
  match model.configure with
  | .error error => (.error error, registry)
  | .ok configuration =>
    let type := model.snapshotKind.type
    (.ok configuration,
      if registry.configured.contains type then registry else ⟨registry.configured ++ [type]⟩)

def describe (registry : AggregateRegistry) : String :=
  Text.record "AggregateRegistry" [("configurations", toString registry.size)]

end AggregateRegistry

end EventSourcing
