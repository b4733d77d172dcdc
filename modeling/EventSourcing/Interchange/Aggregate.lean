import EventSourcing.Aggregate.Guard
import EventSourcing.Interchange.Basic

/-!
# Aggregates as clients see them

A guard is seen with the identity and version of its aggregate, the places and
identities of the events that are not committed yet, and the state itself.
-/

namespace EventSourcing

def Guard.toView {Payload State : Type} [PayloadFamily Payload] [JsonView State]
    (configuration : AggregateConfiguration Payload State) (guard : Guard Payload State) : Json :=
  .ofMembers
    [viewAs "identity" (guard.identifier configuration), viewAs "version" guard.version,
     viewAs "last_seq" guard.lastSequenceNumber?,
     viewAs "uncommitted" (guard.uncommitted.map fun event =>
       [view event.sequenceNumber, view event.id]),
     viewAs "since_snapshot" guard.eventsSinceSnapshot,
     viewAs "deleted" (guard.isDeleted configuration), viewAs "root" guard.state]

end EventSourcing
