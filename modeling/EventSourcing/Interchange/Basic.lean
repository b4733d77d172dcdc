import EventSourcing.Identifier
import EventSourcing.Json.Access
import EventSourcing.Metadata

/-!
# Values as clients see them

Clients of a running application see values as JSON.  `view` gives the JSON of
a value; options and lists are seen through the views of what they hold, and
success without a value is seen as the text `ok`.
-/

namespace EventSourcing

/-- Types whose values clients see as JSON. -/
class JsonView (Value : Type) where
  view : Value → Json

export JsonView (view)

instance : JsonView Json := ⟨id⟩

instance : JsonView Unit := ⟨fun _ => .string "ok"⟩

instance : JsonView Bool := ⟨.bool⟩

instance : JsonView Nat := ⟨.ofNat⟩

instance : JsonView Int := ⟨.ofInt⟩

instance : JsonView String := ⟨.string⟩

instance : JsonView EventId := ⟨fun id => .string id.text⟩

instance : JsonView AggregateId := ⟨fun id => .string id.text⟩

instance : JsonView Metadata := ⟨Metadata.toJson⟩

instance {Value : Type} [JsonView Value] : JsonView (Option Value) where
  view
    | some value => view value
    | none => .null

instance {Value : Type} [JsonView Value] : JsonView (List Value) where
  view values := .array (values.map view)

/-- The view of a value as the member of an object. -/
def viewAs {Value : Type} [JsonView Value] (key : String) (value : Value) : String × Json :=
  (key, view value)

/-- Reads an identity: from its text, or from its value. -/
def EventId.ofJson (json : Json) : EventId :=
  match json with
  | .string text => (ofText? text).getD (ofNat 0)
  | json => ofNat (json.nat?.getD 0)

end EventSourcing
