import EventSourcing.Json.Decode

/-!
# Settings of an event store

How many entries are fetched at a time, and how many snapshots of an aggregate
are kept.  Settings that are not given have their usual values.
-/

namespace EventSourcing

/-- The settings of an event store. -/
structure EventStoreConfig where
  batchSize : Nat := 100
  maxSnapshots : Nat := 2
deriving DecidableEq, Inhabited

namespace EventStoreConfig

/-- The settings with a batch size of at least one, without which reading would
make no progress. -/
def clamped (config : EventStoreConfig) : EventStoreConfig :=
  { config with batchSize := max config.batchSize 1 }

theorem clamped_pos (config : EventStoreConfig) : 0 < config.clamped.batchSize := by
  simp only [clamped]
  omega

def toJson (config : EventStoreConfig) : Json :=
  .ofMembers
    [("batch_size", .ofNat config.batchSize),
     ("max_snapshots_archived", .ofNat config.maxSnapshots)]

def decode : Decoder EventStoreConfig := fun json => do
  let found ← Decoder.record "struct EventStoreConfig"
    [Decoder.defaulted "batch_size" Decoder.count,
     Decoder.defaulted "max_snapshots_archived" Decoder.count] json
  return { batchSize := ← found.getD "batch_size" Decoder.count 100
           maxSnapshots := ← found.getD "max_snapshots_archived" Decoder.count 2 }

def describe (config : EventStoreConfig) : String :=
  Text.record "EventStoreConfig"
    [("batch_size", toString config.batchSize),
     ("max_snapshots_archived", toString config.maxSnapshots)]

end EventStoreConfig

end EventSourcing
