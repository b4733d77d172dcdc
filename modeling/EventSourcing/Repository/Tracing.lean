import EventSourcing.EventStream.Stage
import EventSourcing.Repository.Decorator

/-!
# Decorators that watch and break streams

A tracing decorator passes the history that is read through a pipeline and
notes every event that comes out of it, when it comes out.  A breaking
decorator lets a number of items pass and then fails.
-/

namespace EventSourcing

/-- An event that has passed a decorator, and whose history it is from. -/
structure Passage (Payload : Type) where
  key : StreamKey
  event : DomainEvent Payload

namespace Decorator

variable {Payload : Type}

/-- The decorator that passes histories through a pipeline and notes the events. -/
def tracing (stages : List (Stage Payload)) : Decorator Payload (Passage Payload) where
  onRead key stream :=
    let (marks, stream) := Stage.applyAll stages stream
    (marks, stream.annotate fun event => .noted ⟨key, event⟩)

/-- The decorator that lets a number of items pass and then fails. -/
def breaking {Note : Type} (count : Nat) (reason : String) : Decorator Payload Note where
  onRead _ stream := ([], stream.takeThen count [.error ⟨reason⟩])

end Decorator

end EventSourcing
