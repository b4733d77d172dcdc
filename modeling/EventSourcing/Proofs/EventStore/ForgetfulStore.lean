import EventSourcing.Document.Rule
import EventSourcing.Proofs.Document.MeterSerializer
import EventSourcing.Proofs.Storage.AtomicBatches
import EventSourcing.EventStore.Basic

/-!
# A store that forgets measurements

The store for examples of dropped records: an upcaster drops the measurements of meters
whenever they are read.
-/

namespace EventSourcing

theorem Backend.Sound.append {Payload : Type} [DocumentFamily Payload] {backend : Backend}
    (sound : backend.Sound) (store : EventStore Payload) (aggregateType : String)
    (events : List (DomainEvent Payload)) :
    (store.append aggregateType events backend).2.Sound := by
  unfold EventStore.append
  split
  · exact sound
  · split
    · exact sound
    · rename_i batch _
      have kept := sound.persist batch
      split <;> simp_all

namespace Meter

def forgetfulStore : EventStore MeterPayload :=
  (EventStore.ofSerializer serializer).withUpcasters
    [({ name := "measured" } : UpcastRule).toUpcaster]

/-- The events of the meter "m" with the given payloads. -/
def history (payloads : List MeterPayload) : List (DomainEvent MeterPayload) :=
  payloads.zipIdx.map fun (payload, number) =>
    .ofStamp ⟨EventId.ofNat number, default⟩ ⟨"m"⟩ number payload .empty

/-- The backend in which the events are stored. -/
def stored (payloads : List MeterPayload) : Backend :=
  (forgetfulStore.append "Meter" (history payloads) .empty).2

theorem sound_stored (payloads : List MeterPayload) : (stored payloads).Sound :=
  Backend.sound_empty.append forgetfulStore "Meter" (history payloads)

end Meter

end EventSourcing
