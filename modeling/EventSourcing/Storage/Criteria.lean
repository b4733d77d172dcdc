import EventSourcing.Storage.Entry

/-!
# Criteria for visits of all entries

Criteria restrict entries to a span of time, each end of which may be included
or not, and to one aggregate type.  Criteria without restrictions admit every
entry.
-/

namespace EventSourcing

/-- One end of a span of time. -/
inductive TimeBound where
  | inclusive (time : Timestamp)
  | exclusive (time : Timestamp)
deriving DecidableEq, Inhabited

/-- Restrictions on entries. -/
structure Criteria where
  start : Option TimeBound := none
  stop : Option TimeBound := none
  aggregateType : Option String := none
deriving DecidableEq, Inhabited

namespace TimeBound

def time : TimeBound → Timestamp
  | .inclusive time => time
  | .exclusive time => time

def isInclusive : TimeBound → Bool
  | .inclusive _ => true
  | .exclusive _ => false

def toJson : TimeBound → Json
  | .inclusive time => .ofMembers [("Inclusive", .string time.text)]
  | .exclusive time => .ofMembers [("Exclusive", .string time.text)]

/-- Reads an end from a JSON object with one member. -/
def decode : Decoder TimeBound
  | .object [("Inclusive", json)] => .inclusive <$> Decoder.timestamp json
  | .object [("Exclusive", json)] => .exclusive <$> Decoder.timestamp json
  | json => Decoder.wrongKind json "enum TimestampBound"

end TimeBound

namespace Criteria

def all : Criteria := {}

def after (criteria : Criteria) (time : Timestamp) : Criteria :=
  { criteria with start := some (.exclusive time) }

def onOrAfter (criteria : Criteria) (time : Timestamp) : Criteria :=
  { criteria with start := some (.inclusive time) }

def before (criteria : Criteria) (time : Timestamp) : Criteria :=
  { criteria with stop := some (.exclusive time) }

/-- Restricts to a time and those in front of it. -/
def onOrBefore (criteria : Criteria) (time : Timestamp) : Criteria :=
  { criteria with stop := some (.inclusive time) }

def ofType (criteria : Criteria) (aggregateType : String) : Criteria :=
  { criteria with aggregateType := some aggregateType }

def admits (criteria : Criteria) (entry : Entry) : Bool :=
  let behindStart := match criteria.start with
    | some (.inclusive time) => (compare time entry.timestamp).isLE
    | some (.exclusive time) => (compare time entry.timestamp).isLT
    | none => true
  let beforeStop := match criteria.stop with
    | some (.inclusive time) => (compare entry.timestamp time).isLE
    | some (.exclusive time) => (compare entry.timestamp time).isLT
    | none => true
  let sameType := match criteria.aggregateType with
    | some type => type == entry.aggregateType
    | none => true
  behindStart && beforeStop && sameType

def toJson (criteria : Criteria) : Json :=
  .ofMembers
    [("from", .ofOption (criteria.start.map TimeBound.toJson)),
     ("to", .ofOption (criteria.stop.map TimeBound.toJson)),
     ("aggregate_type", .ofOption (criteria.aggregateType.map .string))]

def decode : Decoder Criteria := fun json => do
  let found ← Decoder.record "struct EventCriteria"
    [Decoder.optional "from" TimeBound.decode, Decoder.optional "to" TimeBound.decode,
     Decoder.optional "aggregate_type" Decoder.string] json
  return { start := ← found.get? "from" TimeBound.decode
           stop := ← found.get? "to" TimeBound.decode
           aggregateType := ← found.get? "aggregate_type" Decoder.string }

end Criteria

end EventSourcing
