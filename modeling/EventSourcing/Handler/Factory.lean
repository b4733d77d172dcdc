import EventSourcing.Handler.Resolver

/-!
# Resolver factories

A factory makes resolvers for the parameters that it knows, and declines all
others.  A composite of factories asks its delegates in order and takes the
first resolver that one of them makes.  `ResolverFactory.ordered` inlines the
delegates of composites among its factories and asks those of higher priority
first; factories of equal priority keep their order.
-/

namespace EventSourcing

/-- The weight of a factory among others; the greater, the earlier it is asked. -/
abbrev Priority := Int

namespace Priority

def first : Priority := 2147483647

def high : Priority := 1073741823

/-- The priority of a factory that states none. -/
def neutral : Priority := 0

def low : Priority := -1073741824

def last : Priority := -2147483648

end Priority

/-- A mark on a candidate for a handler. -/
inductive MemberMark where
  /-- The candidate handles events, of one payload type if one is given. -/
  | eventHandler (payloadType : Option PayloadType)
  | named (name : String)
deriving DecidableEq, Inhabited

/-- A factory of its own. -/
structure SingleFactory (Payload : Type) where
  name : String
  priority : Priority := .neutral
  create : List MemberMark → Parameter → Option (Resolver Payload)

/-- A factory: one of its own, or a composite. -/
inductive ResolverFactory (Payload : Type) where
  | single (factory : SingleFactory Payload)
  | composite (delegates : List (ResolverFactory Payload))

namespace ResolverFactory

variable {Payload : Type}

mutual

/-- Makes a resolver for a parameter of a candidate with the given marks. -/
def create (marks : List MemberMark) (parameter : Parameter) :
    ResolverFactory Payload → Option (Resolver Payload)
  | .single factory => factory.create marks parameter
  | .composite delegates => createFirst marks parameter delegates

/-- The resolver of the first factory that does not decline. -/
def createFirst (marks : List MemberMark) (parameter : Parameter) :
    List (ResolverFactory Payload) → Option (Resolver Payload)
  | [] => none
  | factory :: rest =>
    (create marks parameter factory).or (createFirst marks parameter rest)

end

mutual

/-- The priority of a factory; that of a composite is that of its first
delegate. -/
def priority : ResolverFactory Payload → Priority
  | .single factory => factory.priority
  | .composite delegates => priorityOfFirst delegates

def priorityOfFirst : List (ResolverFactory Payload) → Priority
  | [] => .neutral
  | factory :: _ => priority factory

end

/-- The delegates of a composite; any other factory stands for itself. -/
def delegates : ResolverFactory Payload → List (ResolverFactory Payload)
  | .composite delegates => delegates
  | factory => [factory]

/-- Factories in the order of falling priority. -/
def sortByPriority (factories : List (ResolverFactory Payload)) : List (ResolverFactory Payload) :=
  factories.mergeSort fun first second => second.priority ≤ first.priority

/-- A composite that asks factories of higher priority first, in which the
delegates of given composites stand by themselves. -/
def ordered (factories : List (ResolverFactory Payload)) : ResolverFactory Payload :=
  .composite (sortByPriority (factories.flatMap delegates))

/-! ## Factories for the parts of an event -/

/-- Makes resolvers for the event itself, for entries of its metadata and for
all its metadata. -/
def createForMessage (parameter : Parameter) : Option (Resolver Payload) :=
  match parameter.type, parameter.metadataMark? with
  | .message, _ => some (.message false)
  | .domainEvent, _ => some (.message true)
  | .value kind primitive, some (key, required) =>
    some (.metadataEntry key kind (primitive || required))
  | _, some (key, required) => some (.metadataEntry key .any required)
  | .metadata, none => some .metadata
  | _, none => none

/-- The factory for the event itself and its metadata. -/
def message : ResolverFactory Payload :=
  .single
    { name := "DefaultParameterResolverFactory"
      priority := .first
      create := fun _ parameter => createForMessage parameter }

def timestamp : ResolverFactory Payload :=
  .single
    { name := "TimestampParameterResolverFactory"
      priority := .high
      create := fun _ parameter =>
        if parameter.type = .timestamp ∧ ParameterMark.timestamp ∈ parameter.marks then
          some .timestamp
        else none }

/-- The factory for the sequence number of an event. -/
def sequenceNumber : ResolverFactory Payload :=
  .single
    { name := "SequenceNumberParameterResolverFactory"
      priority := .high
      create := fun _ parameter =>
        if parameter.type = .sequenceNumber ∧
            ParameterMark.sequenceNumber ∈ parameter.marks then
          some .sequenceNumber
        else none }

def resource [PayloadFamily Payload] (resource : Payload) : ResolverFactory Payload :=
  .single
    { name := "SimpleResourceParameterResolverFactory"
      priority := .low
      create := fun _ parameter =>
        if parameter.type = .resource (typeOf resource) then some (.fixed (.resource resource))
        else none }

/-- The composite of all factories for the parts of an event. -/
def standard : ResolverFactory Payload := ordered [message, timestamp, sequenceNumber]

end ResolverFactory

end EventSourcing
