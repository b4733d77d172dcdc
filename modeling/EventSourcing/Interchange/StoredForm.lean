import EventSourcing.Interchange.Message
import EventSourcing.LogSettings
import EventSourcing.Storage.Criteria

/-!
# Stored forms by name

Settings, criteria, entries and the values in them have stored forms, which
differ from what clients see.  A client can have a stored form read and written
again, to see whether it is sound.
-/

namespace EventSourcing

/-- What was read, or that it could not be read. -/
def viewRead {Value : Type} (toJson : Value → Json) : Except DecodeError Value → Json
  | .ok value => toJson value
  | .error _ => .ofMembers [viewAs "error" "Deserialize"]

/-- The settings of the log are seen with a note whether they are the usual ones. -/
instance : JsonView LogSettings where
  view settings := .ofMembers
    [viewAs "default_filter" settings.defaultFilter, viewAs "format" settings.format.describe,
     viewAs "with_target" settings.withTarget, viewAs "is_default" (settings == {})]

def reread {Value : Type} (decode : Decoder Value) (toJson : Value → Json) (json : Json) : Json :=
  viewRead (fun value => .ofMembers [("value", toJson value)]) (decode json)

/-- Reads a stored form of a type and writes it again; the settings of the log
are only read. -/
def rereadNamed : String → Json → Json
  | "EventStoreConfig" => reread EventStoreConfig.decode EventStoreConfig.toJson
  | "EventCriteria" => reread Criteria.decode Criteria.toJson
  | "TimestampBound" => reread TimeBound.decode TimeBound.toJson
  | "EventEntry" => reread Entry.decode Entry.toJson
  | "SerializedType" => reread DocumentType.decode DocumentType.toJson
  | "SerializedObject" => reread Document.decode Document.toJson
  | "EventId" => reread Decoder.eventId view
  | "AggregateId" => reread Decoder.aggregateId view
  | "GlobalIndexToken" => reread TrackingToken.decode TrackingToken.toJson
  | "MetaData" => reread Metadata.decode Metadata.toJson
  | _ => fun json => viewRead view (LogSettings.decode json)

end EventSourcing
