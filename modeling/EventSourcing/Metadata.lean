import EventSourcing.Json.Decode
import EventSourcing.Json.Describe

/-!
# Metadata of messages

Metadata are JSON values under text keys, listed in key order.  Merging is
biased to the right: where both sides have a key, the right one counts.
-/

namespace EventSourcing

/-- JSON values under text keys. -/
structure Metadata where
  entries : OrderedMap String Json
deriving DecidableEq

namespace Metadata

def empty : Metadata := ⟨.empty⟩

instance : Inhabited Metadata := ⟨empty⟩

instance : EmptyCollection Metadata := ⟨empty⟩

/-- The metadata with the given entries; the last entry of a key counts. -/
def ofList (entries : List (String × Json)) : Metadata := ⟨.ofList entries⟩

def single (key : String) (value : Json) : Metadata := ofList [(key, value)]

def insert (metadata : Metadata) (key : String) (value : Json) : Metadata :=
  ⟨metadata.entries.insert key value⟩

def isEmpty (metadata : Metadata) : Bool := metadata.entries.isEmpty

/-- Adds the entries of the second metadata to the first, replacing those with
the same key.  There is nothing to do when the second is empty. -/
def merge (first second : Metadata) : Metadata :=
  if second.isEmpty then first else ⟨first.entries.union second.entries⟩

def without (metadata : Metadata) (keys : List String) : Metadata :=
  ⟨keys.foldl OrderedMap.erase metadata.entries⟩

def get? (metadata : Metadata) (key : String) : Option Json := metadata.entries.get? key

def contains (metadata : Metadata) (key : String) : Bool := metadata.entries.contains key

def size (metadata : Metadata) : Nat := metadata.entries.size

def keys (metadata : Metadata) : List String := metadata.entries.keys

def sameValue (first second : Metadata) : Bool :=
  Json.sameMembers first.entries.toList second.entries.toList

def toJson (metadata : Metadata) : Json := .object metadata.entries.toList

def decode : Decoder Metadata := fun json => Metadata.mk <$> Decoder.entries Decoder.any json

def describeEntries (metadata : Metadata) : String :=
  Text.mapping (Json.describeMembers metadata.entries.toList)

def describe (metadata : Metadata) : String :=
  Text.record "MetaData" [("entries", metadata.describeEntries)]

end Metadata

end EventSourcing
