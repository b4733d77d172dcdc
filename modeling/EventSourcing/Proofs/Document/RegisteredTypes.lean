import EventSourcing.Document.Serializer

/-!
# Registered types

A serializer is made by registering payload types, one after another, under document
types (`Serializer.Registers`).  A later registration takes the place of an earlier one
in one table or in both.  As long as no two payload types share a document type, a
document that was written is read by the very registration that has written it, and so
payloads of registered types are read back as they were
(`Serializer.Registers.deserialize_of_serialize`).
-/

namespace EventSourcing

/-- What can be written is read back unchanged. -/
def Codec.IsFaithful {Value : Type} (codec : Codec Value) : Prop :=
  ∀ value data, codec.encode value = .ok data → codec.decode data = .ok value

/-- No document type belongs to two payload types. -/
def Unambiguous (registered : List (PayloadType × DocumentType)) : Prop :=
  ∀ first ∈ registered, ∀ second ∈ registered, first.2 = second.2 → first.1 = second.1

namespace Serializer

variable {Payload : Type}

/-- A serializer and the registrations of faithful codecs that it is made by, the
latest first. -/
inductive Registers [PayloadFamily Payload] :
    List (PayloadType × DocumentType) → Serializer Payload → Prop
  | empty : Registers [] .empty
  | register {Value : Type} {registered : List (PayloadType × DocumentType)}
      {serializer : Serializer Payload} (before : Registers registered serializer)
      (kind : PayloadKind Payload Value) {codec : Codec Value} (faithful : codec.IsFaithful)
      (documentType : DocumentType) :
      Registers ((kind.type, documentType) :: registered)
        (serializer.register kind codec documentType)

/-- The registration under which payloads of a type are written also reads what it
writes. -/
structure WritesAndReads (serializer : Serializer Payload)
    (registered : List (PayloadType × DocumentType)) (type : PayloadType)
    (registration : Registration Payload) : Prop where
  listed : (type, registration.documentType) ∈ registered
  reads : serializer.byDocument.get? registration.documentType = some registration
  faithful : ∀ payload data, registration.encode payload = some (.ok data) →
    registration.decode data = .ok payload

section Registrations

variable [PayloadFamily Payload] {registered : List (PayloadType × DocumentType)}
  {serializer : Serializer Payload}

theorem Registers.writesAndReads (registers : Registers registered serializer)
    (unambiguous : Unambiguous registered) {type : PayloadType}
    {registration : Registration Payload}
    (found : serializer.byPayload.get? type = some registration) :
    serializer.WritesAndReads registered type registration := by
  induction registers with
  | empty => simp [Serializer.empty] at found
  | @register Value registered serializer before kind codec faithful documentType ih =>
    simp only [Serializer.register, Table.get?_put] at found
    by_cases isKind : type = kind.type
    · rw [if_pos isKind] at found
      obtain rfl := Option.some.inj found
      constructor
      · rw [isKind]
        exact List.mem_cons_self
      · simp [Serializer.register]
      · intro payload data written
        obtain ⟨value, projected, encoded⟩ := Option.map_eq_some_iff.mp written
        have decoded := faithful value data encoded
        simp only [decoded, Except.map, kind.inject_project payload value projected]
    · rw [if_neg isKind] at found
      have older := ih (fun first isFirst second isSecond =>
        unambiguous first (List.mem_cons_of_mem _ isFirst) second
          (List.mem_cons_of_mem _ isSecond)) found
      have stillListed := List.mem_cons_of_mem (kind.type, documentType) older.listed
      have otherDocument : registration.documentType ≠ documentType := by
        intro same
        exact isKind (unambiguous _ stillListed _ List.mem_cons_self same)
      constructor
      · exact stillListed
      · simpa [Serializer.register, otherDocument] using older.reads
      · exact older.faithful

end Registrations

variable [DocumentFamily Payload] {registered : List (PayloadType × DocumentType)}
  {serializer : Serializer Payload} {payload : Payload}

/-- A payload is not a document whose type is registered by now. -/
def Regains (serializer : Serializer Payload) (payload : Payload) : Prop :=
  ∀ document,
    (DocumentFamily.unreadable : PayloadKind Payload Document).project payload = some document →
      serializer.canRead document.type = false

/-- What was written is read back: payloads of registered types by their registration,
and unreadable documents of other types as they are. -/
theorem Registers.deserialize_of_serialize (registers : Registers registered serializer)
    (unambiguous : Unambiguous registered) (regains : serializer.Regains payload)
    {document : Document} (written : serializer.serialize payload = .ok document) :
    serializer.deserialize document = .ok payload := by
  unfold serialize at written
  cases projected :
      (DocumentFamily.unreadable : PayloadKind Payload Document).project payload with
  | some kept =>
    rw [projected] at written
    obtain rfl := Except.ok.inj written
    have unknown : serializer.byDocument.get? kept.type = none := by
      have unreadable := regains kept projected
      rwa [canRead, Table.contains, Option.isSome_eq_false_iff, Option.isNone_iff_eq_none]
        at unreadable
    rw [deserialize, unknown]
    exact congrArg Except.ok (DocumentFamily.unreadable.inject_project payload kept projected)
  | none =>
    simp only [projected] at written
    cases found : serializer.byPayload.get? (typeOf payload) with
    | none => simp [found] at written
    | some registration =>
      have known := registers.writesAndReads unambiguous found
      simp only [found] at written
      cases encoded : registration.encode payload with
      | none => simp [encoded] at written
      | some outcome =>
        cases outcome with
        | error reason => simp [encoded] at written
        | ok data =>
          rw [encoded] at written
          obtain rfl := Except.ok.inj written
          have decoded := known.faithful payload data encoded
          simp only [deserialize, known.reads, decoded]

end Serializer

end EventSourcing
