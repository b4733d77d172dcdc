import EventSourcing.Text.Quoted

/-!
# Payloads

The payloads of an application form one type, its payload family.  Each payload
has a payload type, which is told apart from others by its full name.  A
payload kind embeds one type of values into the family, so that handlers and
codecs can be written for typed values.
-/

namespace EventSourcing

/-- The type of a payload, known by its full name. -/
structure PayloadType where
  name : String
deriving DecidableEq, Inhabited

namespace PayloadType

/-- The part of a text behind the last pair of colons; pairs may overlap. -/
def lastSegment : List Char → List Char → List Char
  | segment, [] => segment
  | segment, char :: rest =>
    match char, rest with
    | ':', ':' :: behind => lastSegment behind rest
    | _, _ => lastSegment segment rest

/-- A type name without its path and its parameters. -/
def simpleNameOf (name : String) : String :=
  let path := name.toList.takeWhile (· ≠ '<')
  String.ofList (lastSegment path path)

/-- The name of a payload type without its path and its parameters. -/
def simpleName (type : PayloadType) : String := simpleNameOf type.name

def describe (type : PayloadType) : String :=
  Text.record "PayloadType" [("type_id", "TypeId(_)"), ("type_name", Text.quoted type.name)]

end PayloadType

/-- A type of payloads, each of which has a payload type. -/
class PayloadFamily (Payload : Type) where
  typeOf : Payload → PayloadType

export PayloadFamily (typeOf)

/-- How messages describe a payload: by its type only. -/
def describePayload {Payload : Type} [PayloadFamily Payload] (payload : Payload) : String :=
  Text.openRecord "Payload" [("type", Text.quoted (typeOf payload).name)]

/-- An embedding of a type of values into a payload family.  A value travels as
a payload of one payload type and comes back unchanged. -/
structure PayloadKind (Payload : Type) [PayloadFamily Payload] (Value : Type) where
  type : PayloadType
  inject : Value → Payload
  project : Payload → Option Value
  project_inject : ∀ value, project (inject value) = some value := by intros; rfl
  inject_project : ∀ payload value, project payload = some value → inject value = payload
  typeOf_inject : ∀ value, typeOf (inject value) = type := by intros; rfl

end EventSourcing
