import EventSourcing.Event
import EventSourcing.Table

/-!
# Event handlers of entities

An entity model is a table of handlers, at most one for a payload type, with
groups of child entities that have models of their own.  An event is handled by
the entity first and then, group by group, by every child that the entity has
at that moment, each with all its descendants.
-/

namespace EventSourcing

/-- How a group of children is reached inside an entity: reading them off, and
putting changed ones back. -/
structure ChildAccess (Entity Child : Type) where
  get : Entity → List Child
  set : Entity → List Child → Entity
  set_get : ∀ entity, set entity (get entity) = entity

namespace ChildAccess

variable {Entity Child : Type}

/-- The access to one child that an entity always has. -/
def single (get : Entity → Child) (set : Entity → Child → Entity)
    (set_get : ∀ entity, set entity (get entity) = entity) : ChildAccess Entity Child where
  get entity := [get entity]
  set entity children :=
    match children with
    | child :: _ => set entity child
    | [] => entity
  set_get := set_get

/-- Putting a child back where it stands changes nothing. -/
theorem set_child (access : ChildAccess Entity Child) {entity : Entity} {index : Nat}
    {child : Child} (found : (access.get entity)[index]? = some child) :
    access.set entity ((access.get entity).set index child) = entity := by
  obtain ⟨inside, rfl⟩ := List.getElem?_eq_some_iff.mp found
  rw [List.set_getElem_self, access.set_get]

/-- Restricts a group to the child at one place. -/
def only (access : ChildAccess Entity Child) (index : Nat) : ChildAccess Entity Child where
  get entity := ((access.get entity)[index]?).toList
  set entity children :=
    match children with
    | child :: _ => access.set entity ((access.get entity).set index child)
    | [] => entity
  set_get entity := by
    cases found : (access.get entity)[index]? with
    | none => rfl
    | some child => exact access.set_child found

end ChildAccess

abbrev EventHandler (Payload Entity : Type) := Entity → DomainEvent Payload → Entity

mutual

/-- The handlers of an entity and the groups of its children. -/
inductive EntityModel (Payload : Type) : Type → Type 1 where
  | mk {Entity : Type} (handlers : Table PayloadType (EventHandler Payload Entity))
      (groups : ChildGroups Payload Entity) : EntityModel Payload Entity

/-- The groups of children of an entity, in the order of their registration. -/
inductive ChildGroups (Payload : Type) : Type → Type 1 where
  | nil {Entity : Type} : ChildGroups Payload Entity
  | cons {Entity Child : Type} (access : ChildAccess Entity Child)
      (model : EntityModel Payload Child) (rest : ChildGroups Payload Entity) :
      ChildGroups Payload Entity

end

namespace ChildGroups

variable {Payload Entity Child : Type}

/-- Registers a further group behind the others. -/
def push (access : ChildAccess Entity Child) (model : EntityModel Payload Child) :
    ChildGroups Payload Entity → ChildGroups Payload Entity
  | .nil => .cons access model .nil
  | .cons first firstModel rest => .cons first firstModel (push access model rest)

def size : ChildGroups Payload Entity → Nat
  | .nil => 0
  | .cons _ _ rest => rest.size + 1

end ChildGroups

namespace EntityModel

variable {Payload Entity Child : Type}

def empty : EntityModel Payload Entity := .mk .empty .nil

instance : Inhabited (EntityModel Payload Entity) := ⟨empty⟩

def handlers : EntityModel Payload Entity → Table PayloadType (EventHandler Payload Entity)
  | .mk handlers _ => handlers

def groups : EntityModel Payload Entity → ChildGroups Payload Entity
  | .mk _ groups => groups

/-- Registers the handler of a payload type, replacing an earlier one. -/
def onType (model : EntityModel Payload Entity) (type : PayloadType)
    (handler : EventHandler Payload Entity) : EntityModel Payload Entity :=
  .mk (model.handlers.put type handler) model.groups

def withChildren (model : EntityModel Payload Entity) (access : ChildAccess Entity Child)
    (childModel : EntityModel Payload Child) : EntityModel Payload Entity :=
  .mk model.handlers (model.groups.push access childModel)

/-- The payload types that the entity itself handles. -/
def payloadTypes (model : EntityModel Payload Entity) : List PayloadType :=
  model.handlers.keys

/-- Whether the entity itself handles a payload type. -/
def handles (model : EntityModel Payload Entity) (type : PayloadType) : Bool :=
  model.handlers.contains type

def handler? (model : EntityModel Payload Entity) (type : PayloadType) :
    Option (EventHandler Payload Entity) :=
  model.handlers.get? type

section Dispatch

variable [PayloadFamily Payload]

/-- Registers a handler for the values of a payload kind that also sees the
event. -/
def onEvent {Value : Type} (model : EntityModel Payload Entity) (kind : PayloadKind Payload Value)
    (handler : Entity → Value → DomainEvent Payload → Entity) : EntityModel Payload Entity :=
  model.onType kind.type fun entity event =>
    match kind.project event.payload with
    | some value => handler entity value event
    | none => entity

/-- Registers a handler for the values of a payload kind. -/
def on {Value : Type} (model : EntityModel Payload Entity) (kind : PayloadKind Payload Value)
    (handler : Entity → Value → Entity) : EntityModel Payload Entity :=
  model.onEvent kind fun entity value _ => handler entity value

mutual

/-- Handles an event by an entity and then by its children; also counts the
handlers that ran. -/
def handle {Entity : Type} (event : DomainEvent Payload) :
    EntityModel Payload Entity → Entity → Entity × Nat
  | .mk handlers groups, entity =>
    match handlers.get? (typeOf event.payload) with
    | some handler =>
      let (entity, count) := handleGroups event groups (handler entity event)
      (entity, count + 1)
    | none => handleGroups event groups entity

/-- Handles an event by the children of an entity, group by group. -/
def handleGroups {Entity : Type} (event : DomainEvent Payload) :
    ChildGroups Payload Entity → Entity → Entity × Nat
  | .nil, entity => (entity, 0)
  | .cons access model rest, entity =>
    let children := (access.get entity).map fun child => handle event model child
    let (entity, count) := handleGroups event rest (access.set entity (children.map Prod.fst))
    (entity, (children.map Prod.snd).foldr (· + ·) 0 + count)

end

end Dispatch

def describe (model : EntityModel Payload Entity) : String :=
  Text.record "EntityModel"
    [("handlers", Text.listed (model.payloadTypes.map fun type => Text.quoted type.simpleName)),
     ("children", toString model.groups.size)]

end EntityModel

end EventSourcing
