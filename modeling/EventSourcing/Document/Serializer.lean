import EventSourcing.Document.Basic
import EventSourcing.Metadata
import EventSourcing.Table

/-!
# Serializers

A serializer knows payload types by registration: under which document type
their values are written and how they are written and read.  Payloads are
written under the latest registration of their type; documents are read by the
latest registration of their exact type, name and revision.  A document of any
other type is passed on as a payload of the unreadable kind, and written back
unchanged.
-/

namespace EventSourcing

/-- How the values of a type are written as JSON and read back. -/
structure Codec (Value : Type) where
  encode : Value → Except String Json
  decode : Decoder Value

/-- A payload type as a serializer knows it. -/
structure Registration (Payload : Type) where
  documentType : DocumentType
  encode : Payload → Option (Except String Json)
  decode : Decoder Payload

/-- The payload types that can be written and the document types that can be
read. -/
structure Serializer (Payload : Type) where
  byPayload : Table PayloadType (Registration Payload)
  byDocument : Table DocumentType (Registration Payload)

namespace Serializer

variable {Payload : Type}

def empty : Serializer Payload := ⟨.empty, .empty⟩

instance : Inhabited (Serializer Payload) := ⟨empty⟩

def encodeMetadata (metadata : Metadata) : Json := metadata.toJson

/-- Reads stored metadata; null stands for none. -/
def decodeMetadata (json : Json) : Except DocumentError Metadata :=
  match json with
  | .null => .ok .empty
  | json =>
    match Metadata.decode json with
    | .ok metadata => .ok metadata
    | .error error => .error (.metadata error.message)

def documentTypes (serializer : Serializer Payload) : List DocumentType :=
  serializer.byDocument.keys

/-- The document type under which payloads of a type are written. -/
def typeFor? (serializer : Serializer Payload) (type : PayloadType) : Option DocumentType :=
  (serializer.byPayload.get? type).map Registration.documentType

def canRead (serializer : Serializer Payload) (type : DocumentType) : Bool :=
  serializer.byDocument.contains type

/-- The texts of the readable document types in order. -/
def typeTexts (serializer : Serializer Payload) : List String :=
  (serializer.documentTypes.map DocumentType.text).mergeSort (· ≤ ·)

def describe (serializer : Serializer Payload) : String :=
  Text.record "JsonSerializer" [("types", Text.listed (serializer.typeTexts.map Text.quoted))]

/-- Registers a payload kind under a document type. -/
def register [PayloadFamily Payload] {Value : Type} (serializer : Serializer Payload)
    (kind : PayloadKind Payload Value) (codec : Codec Value) (documentType : DocumentType) :
    Serializer Payload :=
  let registration : Registration Payload :=
    { documentType
      encode := fun payload => (kind.project payload).map codec.encode
      decode := fun json => (codec.decode json).map kind.inject }
  { byPayload := serializer.byPayload.put kind.type registration
    byDocument := serializer.byDocument.put documentType registration }

variable [DocumentFamily Payload]

def serialize (serializer : Serializer Payload) (payload : Payload) :
    Except DocumentError Document :=
  let typeName := (typeOf payload).name
  match (DocumentFamily.unreadable : PayloadKind Payload Document).project payload with
  | some document => .ok document
  | none =>
    match serializer.byPayload.get? (typeOf payload) with
    | none => .error (.unregistered typeName)
    | some registration =>
      match registration.encode payload with
      | some (.ok data) => .ok ⟨registration.documentType, data⟩
      | some (.error reason) => .error (.encoding typeName reason)
      | none => .error (.unregistered typeName)

def deserialize (serializer : Serializer Payload) (document : Document) :
    Except DocumentError Payload :=
  match serializer.byDocument.get? document.type with
  | none => .ok ((DocumentFamily.unreadable : PayloadKind Payload Document).inject document)
  | some registration =>
    match registration.decode document.data with
    | .ok payload => .ok payload
    | .error error => .error (.decoding document.type.text error.message)

end Serializer

end EventSourcing
