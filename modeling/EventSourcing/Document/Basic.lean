import EventSourcing.Json.Decode
import EventSourcing.Payload

/-!
# Documents

A payload is stored as a document: JSON data under a type name that stays fixed
when programs change, with an optional revision.  A document that no registered
type can read is a payload of its own kind, so that one obsolete event does not
make a history unreadable.
-/

namespace EventSourcing

/-- The type of a document: a lasting name and an optional revision. -/
structure DocumentType where
  name : String
  revision : Option String := none
deriving DecidableEq, Inhabited

/-- The stored form of a payload. -/
structure Document where
  type : DocumentType
  data : Json
deriving DecidableEq, Inhabited

namespace DocumentType

def text (type : DocumentType) : String :=
  match type.revision with
  | some revision => type.name ++ "@" ++ revision
  | none => type.name

def toJson (type : DocumentType) : Json :=
  .ofMembers [("name", .string type.name), ("revision", .ofOption (type.revision.map .string))]

def decode : Decoder DocumentType := fun json => do
  let found ← Decoder.record "struct SerializedType"
    [Decoder.required "name" Decoder.string, Decoder.optional "revision" Decoder.string] json
  return { name := ← found.get "name" Decoder.string
           revision := ← found.get? "revision" Decoder.string }

end DocumentType

namespace Document

def toJson (document : Document) : Json :=
  .ofMembers [("data", document.data), ("serialized_type", document.type.toJson)]

def decode : Decoder Document := fun json => do
  let found ← Decoder.record "struct SerializedObject"
    [Decoder.required "data" Decoder.any,
     Decoder.required "serialized_type" DocumentType.decode] json
  return { data := ← found.get "data" Decoder.any
           type := ← found.get "serialized_type" DocumentType.decode }

end Document

/-- A payload family in which a document that cannot be read is a payload, too. -/
class DocumentFamily (Payload : Type) extends PayloadFamily Payload where
  unreadable : PayloadKind Payload Document

/-- Whether a payload is a document that could not be read. -/
def isUnreadable {Payload : Type} [DocumentFamily Payload] (payload : Payload) : Bool :=
  ((DocumentFamily.unreadable : PayloadKind Payload Document).project payload).isSome

/-- A failure to turn payloads into documents or back. -/
inductive DocumentError where
  | unregistered (payloadType : String)
  | encoding (payloadType reason : String)
  | decoding (documentType reason : String)
  | metadata (reason : String)
  | upcasting (reason : String)
deriving DecidableEq, Inhabited

def DocumentError.message : DocumentError → String
  | .unregistered payloadType => "no serialized type registered for payload " ++ payloadType
  | .encoding payloadType reason => "cannot serialize " ++ payloadType ++ ": " ++ reason
  | .decoding documentType reason => "cannot deserialize " ++ documentType ++ ": " ++ reason
  | .metadata reason => "invalid meta data: " ++ reason
  | .upcasting reason => "upcasting failed: " ++ reason

end EventSourcing
