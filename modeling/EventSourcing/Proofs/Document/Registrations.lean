import EventSourcing.Proofs.Document.MeterSerializer
import Mathlib.Data.List.Induction

/-!
# Registrations in any order

The two tables of a serializer are written by the same registrations, but under different
keys, so that a later registration may replace an entry in the one and leave it in the
other: a type that gets a new name is written under it, and is still read under the old
one.  A document type given to two payload types is read as the later of them only; if that
never happens, then whatever was written under any of the names of a type is read back
(`Serializer.registerAll_coherent`).
-/

namespace EventSourcing

/-- Types of values that may be registered, each with its payload kind and its codec.
Payloads of different types differ in their payload types, and none of them is a document
that could not be read. -/
structure WritableTypes (Payload Name : Type) [DocumentFamily Payload] where
  Value : Name → Type
  kind : ∀ name, PayloadKind Payload (Value name)
  codec : ∀ name, Codec (Value name)
  kind_injective : ∀ first second, (kind first).type = (kind second).type → first = second
  kind_readable : ∀ name,
    (kind name).type ≠ (DocumentFamily.unreadable : PayloadKind Payload Document).type

/-- Whatever a value is written as, it is read back from it. -/
def Codec.Restores {Value : Type} (codec : Codec Value) (value : Value) : Prop :=
  ∀ data, codec.encode value = .ok data → codec.decode data = .ok value

/-- A key that is listed is listed once for the last time. -/
theorem exists_latest {Entry Key : Type} (key : Entry → Key) {entries : List Entry} {value : Key}
    (listed : value ∈ entries.map key) :
    ∃ front latest back, entries = front ++ latest :: back ∧ key latest = value ∧
      value ∉ back.map key := by
  induction entries using List.reverseRecOn with
  | nil => exact absurd listed List.not_mem_nil
  | append_singleton front last ih =>
    by_cases isLast : key last = value
    · exact ⟨front, last, [], rfl, isLast, List.not_mem_nil⟩
    · have notLast : value ∉ [last].map key := by simpa using Ne.symm isLast
      rw [List.map_append] at listed
      have earlier := (List.mem_append.mp listed).resolve_right notLast
      obtain ⟨before, latest, back, rfl, isKey, notBehind⟩ := ih earlier
      refine ⟨before, latest, back ++ [last], by simp, isKey, ?_⟩
      rw [List.map_append, List.mem_append]
      exact not_or.mpr ⟨notBehind, notLast⟩

namespace Serializer

variable {Payload Name : Type} [DocumentFamily Payload] (types : WritableTypes Payload Name)

/-- The entry of both tables for a type that is registered under a document type. -/
def registrationOf (name : Name) (documentType : DocumentType) : Registration Payload where
  documentType
  encode payload := ((types.kind name).project payload).map (types.codec name).encode
  decode json := ((types.codec name).decode json).map (types.kind name).inject

/-- Registers types under document types, one after another. -/
def registerAll : Serializer Payload → List (Name × DocumentType) → Serializer Payload :=
  List.foldl fun serializer registration =>
    serializer.register (types.kind registration.1) (types.codec registration.1) registration.2

variable (serializer : Serializer Payload) {registrations : List (Name × DocumentType)}
  {name : Name} {documentType : DocumentType}

theorem exists_latest_of_name (listed : name ∈ registrations.map Prod.fst) :
    ∃ front latest back, registrations = front ++ (name, latest) :: back ∧
      name ∉ back.map Prod.fst := by
  obtain ⟨front, ⟨_, latest⟩, back, split, rfl, notBehind⟩ := exists_latest Prod.fst listed
  exact ⟨front, latest, back, split, notBehind⟩

theorem exists_latest_of_type (listed : documentType ∈ registrations.map Prod.snd) :
    ∃ front owner back, registrations = front ++ (owner, documentType) :: back ∧
      documentType ∉ back.map Prod.snd := by
  obtain ⟨front, ⟨owner, _⟩, back, split, rfl, notBehind⟩ := exists_latest Prod.snd listed
  exact ⟨front, owner, back, split, notBehind⟩

/-! ## The two tables -/

theorem byPayload_registerAll_of_notMem (unlisted : name ∉ registrations.map Prod.fst) :
    (serializer.registerAll types registrations).byPayload.get? (types.kind name).type =
      serializer.byPayload.get? (types.kind name).type := by
  induction registrations generalizing serializer with
  | nil => rfl
  | cons first rest ih =>
    rw [List.map_cons, List.mem_cons, not_or] at unlisted
    have otherType : (types.kind name).type ≠ (types.kind first.1).type :=
      fun same => unlisted.1 (types.kind_injective name first.1 same)
    refine (ih _ unlisted.2).trans ?_
    simp only [register, Table.get?_put, if_neg otherType]

theorem byDocument_registerAll_of_notMem
    (unlisted : documentType ∉ registrations.map Prod.snd) :
    (serializer.registerAll types registrations).byDocument.get? documentType =
      serializer.byDocument.get? documentType := by
  induction registrations generalizing serializer with
  | nil => rfl
  | cons first rest ih =>
    rw [List.map_cons, List.mem_cons, not_or] at unlisted
    refine (ih _ unlisted.2).trans ?_
    simp only [register, Table.get?_put, if_neg unlisted.1]

theorem registerAll_append (front back : List (Name × DocumentType)) :
    serializer.registerAll types (front ++ back) =
      (serializer.registerAll types front).registerAll types back :=
  List.foldl_append

/-- The latest registration of a type is the one under which it is written. -/
theorem byPayload_registerAll_latest (front back : List (Name × DocumentType))
    (latest : name ∉ back.map Prod.fst) :
    (serializer.registerAll types (front ++ (name, documentType) :: back)).byPayload.get?
        (types.kind name).type =
      some (registrationOf types name documentType) := by
  rw [registerAll_append]
  refine (byPayload_registerAll_of_notMem types _ latest).trans ?_
  simp only [register, Table.get?_put, if_pos, registrationOf]

/-- The latest registration under a document type is the one by which it is read. -/
theorem byDocument_registerAll_latest (front back : List (Name × DocumentType))
    (latest : documentType ∉ back.map Prod.snd) :
    (serializer.registerAll types (front ++ (name, documentType) :: back)).byDocument.get?
        documentType =
      some (registrationOf types name documentType) := by
  rw [registerAll_append]
  refine (byDocument_registerAll_of_notMem types _ latest).trans ?_
  simp only [register, Table.get?_put, if_pos, registrationOf]

/-- Whatever has taken its place, a document type that was registered can be read. -/
theorem canRead_registerAll (listed : documentType ∈ registrations.map Prod.snd) :
    (serializer.registerAll types registrations).canRead documentType = true := by
  obtain ⟨front, owner, back, rfl, notBehind⟩ := exists_latest_of_type listed
  rw [canRead, Table.contains, byDocument_registerAll_latest types _ front back notBehind]
  rfl

/-! ## Payloads of registered types -/

theorem unreadable_project_inject (name : Name) (value : types.Value name) :
    (DocumentFamily.unreadable : PayloadKind Payload Document).project
      ((types.kind name).inject value) = none := by
  cases projected : (DocumentFamily.unreadable : PayloadKind Payload Document).project
      ((types.kind name).inject value) with
  | none => rfl
  | some document =>
    have isUnreadable := DocumentFamily.unreadable.inject_project _ document projected
    have sameType := congrArg typeOf isUnreadable
    rw [PayloadKind.typeOf_inject, PayloadKind.typeOf_inject] at sameType
    exact absurd sameType.symm (types.kind_readable name)

/-- A value is written under the document type of the entry for its type. -/
theorem serialize_inject_of_get?
    (found : serializer.byPayload.get? (types.kind name).type =
      some (registrationOf types name documentType)) (value : types.Value name) :
    serializer.serialize ((types.kind name).inject value) =
      match (types.codec name).encode value with
      | .ok data => .ok ⟨documentType, data⟩
      | .error reason => .error (.encoding (types.kind name).type.name reason) := by
  simp only [serialize, unreadable_project_inject, PayloadKind.typeOf_inject, found]
  simp only [registrationOf, PayloadKind.project_inject, Option.map_some]
  cases (types.codec name).encode value <;> rfl

theorem serialize_inject_of_notFound
    (notFound : serializer.byPayload.get? (types.kind name).type = none)
    (value : types.Value name) :
    serializer.serialize ((types.kind name).inject value) =
      .error (.unregistered (types.kind name).type.name) := by
  simp only [serialize, unreadable_project_inject, PayloadKind.typeOf_inject, notFound]

/-- What is written under a document type that no other type has is read back. -/
theorem deserialize_of_encode (listed : (name, documentType) ∈ registrations)
    (distinct : ∀ first ∈ registrations, ∀ second ∈ registrations,
      first.2 = second.2 → first.1 = second.1) {value : types.Value name}
    (restores : (types.codec name).Restores value) {data : Json}
    (encoded : (types.codec name).encode value = .ok data) :
    (serializer.registerAll types registrations).deserialize ⟨documentType, data⟩ =
      .ok ((types.kind name).inject value) := by
  have typeListed : documentType ∈ registrations.map Prod.snd :=
    List.mem_map.mpr ⟨_, listed, rfl⟩
  obtain ⟨front, owner, back, split, notBehind⟩ := exists_latest_of_type typeListed
  have ownerListed : (owner, documentType) ∈ registrations :=
    split ▸ List.mem_append_right front List.mem_cons_self
  obtain rfl : owner = name := distinct _ ownerListed _ listed rfl
  rw [split, deserialize, byDocument_registerAll_latest types serializer front back notBehind]
  simp only [registrationOf, restores data encoded, Except.map]

/-- What could be written of a registered type was written under one of its types. -/
theorem registered_of_serialize {value : types.Value name} {document : Document}
    (written : ((empty : Serializer Payload).registerAll types registrations).serialize
      ((types.kind name).inject value) = .ok document) :
    (name, document.type) ∈ registrations ∧
      (types.codec name).encode value = .ok document.data := by
  by_cases listed : name ∈ registrations.map Prod.fst
  · obtain ⟨front, latest, back, rfl, notBehind⟩ := exists_latest_of_name listed
    rw [serialize_inject_of_get? types _
      (byPayload_registerAll_latest types empty front back notBehind)] at written
    cases encoded : (types.codec name).encode value with
    | error reason => simp [encoded] at written
    | ok data =>
      rw [encoded] at written
      obtain rfl := Except.ok.inj written
      exact ⟨List.mem_append_right front List.mem_cons_self, rfl⟩
  · have notFound := byPayload_registerAll_of_notMem types (empty : Serializer Payload) listed
    rw [serialize_inject_of_notFound types _ notFound] at written
    cases written

/-! ## Documents of other types -/

theorem serialize_unreadable (serializer : Serializer Payload) (document : Document) :
    serializer.serialize ((DocumentFamily.unreadable : PayloadKind Payload Document).inject
      document) = .ok document := by
  simp only [serialize, PayloadKind.project_inject]

theorem deserialize_of_notMem {document : Document}
    (unlisted : document.type ∉ registrations.map Prod.snd) :
    ((empty : Serializer Payload).registerAll types registrations).deserialize document =
      .ok ((DocumentFamily.unreadable : PayloadKind Payload Document).inject document) := by
  rw [deserialize, byDocument_registerAll_of_notMem types empty unlisted]
  rfl

/-! ## Any registrations -/

/-- Whatever is registered in whatever order: payloads of a registered type are written
under its latest document type, which can be read; if no document type is given to two
types, then what can be restored at all is read back from what was written of it, be it
now, after some of the registrations, or under any other document type of its type; and
documents of other types are read and written back as they are. -/
theorem registerAll_coherent (types : WritableTypes Payload Name)
    (registrations : List (Name × DocumentType)) :
    let serializer : Serializer Payload := empty.registerAll types registrations
    (∀ name ∈ registrations.map Prod.fst, ∃ front latest back,
      registrations = front ++ (name, latest) :: back ∧ name ∉ back.map Prod.fst ∧
      serializer.typeFor? (types.kind name).type = some latest ∧
      serializer.canRead latest = true ∧
      ∀ value, serializer.serialize ((types.kind name).inject value) =
        match (types.codec name).encode value with
        | .ok data => .ok ⟨latest, data⟩
        | .error reason => .error (.encoding (types.kind name).type.name reason)) ∧
    ((∀ first ∈ registrations, ∀ second ∈ registrations,
        first.2 = second.2 → first.1 = second.1) →
      ∀ name value, (types.codec name).Restores value →
        (∀ earlier, earlier <+: registrations → ∀ document,
          ((empty : Serializer Payload).registerAll types earlier).serialize
              ((types.kind name).inject value) = .ok document →
            serializer.deserialize document = .ok ((types.kind name).inject value)) ∧
        ∀ documentType, (name, documentType) ∈ registrations →
          ∀ data, (types.codec name).encode value = .ok data →
            serializer.deserialize ⟨documentType, data⟩ =
              .ok ((types.kind name).inject value)) ∧
    ∀ document, document.type ∉ registrations.map Prod.snd →
      ∃ payload, serializer.deserialize document = .ok payload ∧
        serializer.serialize payload = .ok document := by
  intro serializer
  refine ⟨?latest, ?restored, ?kept⟩
  case latest =>
    intro name listed
    obtain ⟨front, latest, back, split, notBehind⟩ := exists_latest_of_name listed
    have found : serializer.byPayload.get? (types.kind name).type =
        some (registrationOf types name latest) := by
      rw [← byPayload_registerAll_latest types empty front back notBehind, ← split]
    have typeListed : latest ∈ registrations.map Prod.snd :=
      List.mem_map.mpr ⟨_, split ▸ List.mem_append_right front List.mem_cons_self, rfl⟩
    refine ⟨front, latest, back, split, notBehind, ?_, canRead_registerAll types _ typeListed,
      serialize_inject_of_get? types serializer found⟩
    exact congrArg (Option.map Registration.documentType) found
  case restored =>
    intro distinct name value restores
    have reads {documentType data} (listed : (name, documentType) ∈ registrations)
        (encoded : (types.codec name).encode value = .ok data) :=
      deserialize_of_encode types empty listed distinct restores encoded
    constructor
    · intro earlier isEarlier document written
      obtain ⟨listed, encoded⟩ := registered_of_serialize types written
      exact reads (isEarlier.subset listed) encoded
    · intro documentType listed data encoded
      exact reads listed encoded
  case kept =>
    intro document unlisted
    exact ⟨_, deserialize_of_notMem types unlisted, serialize_unreadable serializer document⟩

end Serializer

namespace Meter

/-- The types of what is stored about meters. -/
inductive StoredType where
  | installation
  | measurement
  | state
deriving DecidableEq

def storedTypes : WritableTypes MeterPayload StoredType where
  Value
    | .installation => AggregateId × Nat
    | .measurement => Nat
    | .state => Meter
  kind
    | .installation => MeterPayload.installation
    | .measurement => MeterPayload.measurement
    | .state => MeterPayload.state
  codec
    | .installation => installationCodec
    | .measurement => measurementCodec
    | .state => meterCodec
  kind_injective := by rintro (_ | _ | _) (_ | _ | _) <;> decide
  kind_readable := by rintro (_ | _ | _) <;> decide

/-- Measurements are renamed, and at last get a revision.  What was measured before is
still read. -/
theorem registerAll_coherent_of_renamed :
    let before : List (StoredType × DocumentType) :=
      [(.measurement, ⟨"measured", none⟩), (.installation, ⟨"installed", none⟩)]
    let registrations := before ++
      [(.measurement, ⟨"counted", none⟩), (.measurement, ⟨"counted", some "2"⟩)]
    let older : Serializer MeterPayload := Serializer.empty.registerAll storedTypes before
    let serializer : Serializer MeterPayload :=
      Serializer.empty.registerAll storedTypes registrations
    older.serialize (.measured 5) = .ok ⟨⟨"measured", none⟩, countJson 5⟩ ∧
    serializer.serialize (.measured 5) = .ok ⟨⟨"counted", some "2"⟩, countJson 5⟩ ∧
    (∃ latest, serializer.typeFor? MeterPayload.measurement.type = some latest ∧
      serializer.canRead latest = true) ∧
    serializer.deserialize ⟨⟨"measured", none⟩, countJson 5⟩ = .ok (.measured 5) ∧
    serializer.deserialize ⟨⟨"counted", none⟩, countJson 5⟩ = .ok (.measured 5) ∧
    serializer.deserialize ⟨⟨"counted", some "2"⟩, countJson 5⟩ = .ok (.measured 5) ∧
    ∃ payload, serializer.deserialize ⟨⟨"counted", some "1"⟩, countJson 5⟩ = .ok payload ∧
      serializer.serialize payload = .ok ⟨⟨"counted", some "1"⟩, countJson 5⟩ := by
  intro before registrations older serializer
  obtain ⟨latest, restored, kept⟩ := Serializer.registerAll_coherent storedTypes registrations
  have reads := restored (by decide) .measurement (5 : Nat) (measurementCodec_isFaithful 5)
  have olderWrites : older.serialize (.measured 5) = .ok ⟨⟨"measured", none⟩, countJson 5⟩ := rfl
  refine ⟨olderWrites, rfl, ?_, ?_, ?_, ?_, ?_⟩
  · obtain ⟨-, type, -, -, -, written, readable, -⟩ := latest .measurement (by decide)
    exact ⟨type, written, readable⟩
  · exact reads.1 before (List.prefix_append _ _) _ olderWrites
  · exact reads.2 ⟨"counted", none⟩ (by decide) _ rfl
  · exact reads.1 registrations List.prefix_rfl _ rfl
  · exact kept _ (by decide)

end Meter

end EventSourcing
