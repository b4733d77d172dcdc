import EventSourcing.EventStream

/-!
# Stages of stream processing

A pipeline is a list of stages through which a stream is passed in order.  A
stage adds metadata, numbers the events, exchanges payloads, drops events, or
looks ahead; only looking ahead performs marks while the pipeline is built.
-/

namespace EventSourcing

/-- A stage of a pipeline. -/
inductive Stage (Payload : Type) where
  | addMetadata (metadata : Metadata)
  /-- Notes under a key which event in the stream it is, counted from one. -/
  | numbered (key : String)
  | replacePayload (payload : Payload)
  | keep (test : DomainEvent Payload → Bool)
  | lookAhead

namespace Stage

variable {Mark Payload : Type}

def number (key : String) (count : Nat) (event : DomainEvent Payload) :
    DomainEvent Payload × Nat :=
  (event.addMetadata (.single key (.ofNat (count + 1))), count + 1)

/-- Passes a stream through a stage, with the marks performed meanwhile. -/
def apply (stage : Stage Payload) (stream : EventStream Mark Payload) :
    List Mark × EventStream Mark Payload :=
  match stage with
  | .addMetadata metadata => ([], stream.map fun event => event.addMetadata metadata)
  | .numbered key => ([], stream.mapWithState 0 (number key))
  | .replacePayload payload => ([], stream.map fun event => event.withPayload payload)
  | .keep test => ([], stream.filter test)
  | .lookAhead =>
    let (marks, _, stream) := stream.peek
    (marks, stream)

/-- Passes a stream through the stages of a pipeline. -/
def applyAll : List (Stage Payload) → EventStream Mark Payload →
    List Mark × EventStream Mark Payload
  | [], stream => ([], stream)
  | stage :: rest, stream =>
    let (marks, stream) := stage.apply stream
    let (more, stream) := applyAll rest stream
    (marks ++ more, stream)

end Stage

end EventSourcing
