import EventSourcing.Json.Access
import EventSourcing.Repository.Decorator

/-!
# Sealed events

A sealing decorator wraps a metadata entry of every event to be stored, so that
the entry tells which aggregate the event was stored for, and takes the
wrapping off when the history is read.  Several seals lie inside one another;
they come off in the opposite order.
-/

namespace EventSourcing

namespace Seal

def entry : String := "secret"

/-- What a seal puts in front of the text that it wraps. -/
def opening (name : String) (key : StreamKey) : String :=
  name ++ "[" ++ key.aggregateId.text ++ "]("

def wrap (name : String) (key : StreamKey) (text : String) : String :=
  opening name key ++ text ++ ")"

/-- The text that a seal wraps, if it is the outermost one. -/
def unwrap? (name : String) (key : StreamKey) (text : String) : Option String :=
  let start := (opening name key).toList
  let chars := text.toList
  if start.isPrefixOf chars && chars.getLast? == some ')' && start.length < chars.length then
    some (String.ofList (chars.drop start.length).dropLast)
  else none

section

variable {Payload : Type}

/-- The text under the sealed entry; any other value counts as none. -/
def textOf (event : DomainEvent Payload) : String :=
  ((event.metadata.get? entry).bind Json.text?).getD ""

/-- Seals an event to be stored and notes the type of its aggregate. -/
def close (name : String) (key : StreamKey) (event : DomainEvent Payload) :
    DomainEvent Payload :=
  event.addMetadata (.ofList
    [(entry, .string (wrap name key (textOf event))),
     ("sealed_type", .string key.aggregateType)])

def opened (name : String) (key : StreamKey) (event : DomainEvent Payload) :
    DomainEvent Payload :=
  let text := textOf event
  event.addMetadata (.single entry
    (.string ((unwrap? name key text).getD (name ++ " cannot unwrap " ++ text))))

end

end Seal

/-- The decorator that seals events under a name. -/
def Decorator.sealing {Payload Note : Type} (name : String) : Decorator Payload Note where
  onAppend key events := events.map (Seal.close name key)
  onRead key stream := ([], stream.map (Seal.opened name key))

end EventSourcing
