import EventSourcing.Aggregate.Entity
import EventSourcing.Interchange.Basic

/-!
# Trees that write down what they handle

The nodes of a trace tree do nothing but note the names of the handlers that
they ran.  What is found in the tree afterwards shows which handlers of an
entity model an event reaches, and in which order.
-/

namespace EventSourcing

/-- A node with the names that it has noted, and its child nodes. -/
inductive TraceNode where
  | mk (log : List String) (children : List TraceNode)
deriving Inhabited

namespace TraceNode

def log : TraceNode → List String
  | .mk log _ => log

def children : TraceNode → List TraceNode
  | .mk _ children => children

/-- The tree whose nodes have as many children as a JSON array has elements. -/
def ofShape : Json → TraceNode
  | .array elements => .mk [] (elements.map ofShape)
  | _ => .mk [] []

def toJson : TraceNode → Json
  | .mk log children =>
    .ofMembers [viewAs "log" log, ("kids", .array (children.map toJson))]

def write (name : String) (node : TraceNode) : TraceNode := .mk (node.log ++ [name]) node.children

def access : ChildAccess TraceNode TraceNode where
  get := children
  set node children := .mk node.log children
  set_get | .mk _ _ => rfl

/-- Lets nodes note a name when they handle a payload, or the name with the
sequence number of the event. -/
def tracing {Payload Value : Type} [PayloadFamily Payload]
    (model : EntityModel Payload TraceNode) (kind : PayloadKind Payload Value) (name : String)
    (numbered : Bool) : EntityModel Payload TraceNode :=
  model.onEvent kind fun node _ event =>
    node.write (if numbered then name ++ "@" ++ toString event.sequenceNumber else name)

end TraceNode

end EventSourcing
