import EventSourcing.Proofs.EventStore.ForgetfulStore
import EventSourcing.Proofs.Repository.Clients

/-!
# Repositories of meters

The repositories for examples: in one of them a snapshot is due after every event, the
other one forgets the measurements that are stored.
-/

namespace EventSourcing

namespace Meter

open MeterPayload

def repository : Repository MeterPayload Meter Unit Unit where
  store := .ofSerializer serializer
  configuration := configuration
  fresh := {}
  trigger := .eventCount 1

theorem repository_wellBehaved : repository.WellBehaved where
  undecorated := rfl
  direct := rfl
  ignoresAggregateId := entity_ignoresAggregateId
  keepsIdentifier := identifier_evolve
  statesReadBack := by
    intro meter document written
    have regains : serializer.Regains (.reading meter) := nofun
    exact serializer_registers.deserialize_of_serialize registered_unambiguous regains written

theorem admits_installed (id : AggregateId) (registers : Nat) :
    repository.Admits (.installed id registers) where
  plain := rfl
  roundTrips := ⟨_, rfl, rfl⟩

theorem admits_measured (amount : Nat) : repository.Admits (.measured amount) where
  plain := rfl
  roundTrips := ⟨_, rfl, rfl⟩

/-- A command for the meter of the examples that applies one event. -/
def applying (number : Nat) (payload : MeterPayload) : Command MeterPayload Meter where
  target := ⟨"m"⟩
  handler guard := guard.apply configuration ⟨EventId.ofNat number, default⟩ payload .empty

/-- Installs a meter, commits the queue by itself, and measures.  An event that is refused
makes the command fail. -/
def committing : CommandHandler MeterPayload Meter := fun guard =>
  match guard.apply configuration ⟨EventId.ofNat 1, default⟩ (.installed ⟨"m"⟩ 2) .empty with
  | (.error error, left) => (.error error, left)
  | (.ok (), begun) =>
    begun.commit.2.apply configuration ⟨EventId.ofNat 2, default⟩ (.measured 5) .empty

/-- The repository of meters whose measurements are forgotten. -/
def forgetfulRepository : Repository MeterPayload Meter Unit Unit :=
  { repository with store := forgetfulStore, trigger := .never }

end Meter

end EventSourcing
