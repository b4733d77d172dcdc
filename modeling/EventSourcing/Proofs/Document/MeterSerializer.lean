import EventSourcing.Proofs.Aggregate.Meter
import EventSourcing.Proofs.Document.RegisteredTypes
import EventSourcing.Storage.Entry

/-!
# A serializer of meters

The serializer for examples: everything about meters is stored as JSON arrays and
numbers, and is read back as it was.
-/

namespace EventSourcing

namespace Meter

open MeterPayload

def countJson (count : Nat) : Json := .number (.integer count)

def decodeCount : Decoder Nat
  | .number (.integer value) => .ok value.toNat
  | json => Decoder.wrongKind json "a count"

/-- An installation as an array of identifier and number of registers. -/
def installationCodec : Codec (AggregateId × Nat) where
  encode installed := .ok (.array [.string installed.1.text, countJson installed.2])
  decode
    | .array [.string text, count] => (AggregateId.mk text, ·) <$> decodeCount count
    | json => Decoder.wrongKind json "an installation"

def measurementCodec : Codec Nat where
  encode amount := .ok (countJson amount)
  decode := decodeCount

/-- A meter as an array of its identifier, if it has one, and its counts. -/
def meterCodec : Codec Meter where
  encode meter := .ok (.array
    [.ofOption (meter.id.map fun id => .string id.text), .array (meter.registers.map countJson)])
  decode
    | .array [id, .array counts] => do
      return { id := ← Decoder.nullable Decoder.aggregateId id
               registers := ← counts.mapM decodeCount }
    | json => Decoder.wrongKind json "a meter"

def serializer : Serializer MeterPayload :=
  Serializer.empty
    |>.register installation installationCodec ⟨"installed", none⟩
    |>.register measurement measurementCodec ⟨"measured", none⟩
    |>.register state meterCodec ⟨"meter", none⟩

theorem mapM_decodeCount (counts : List Nat) :
    (counts.map countJson).mapM decodeCount = .ok counts := by
  induction counts with
  | nil => rfl
  | cons count rest ih =>
    rw [List.map_cons, List.mapM_cons, ih]
    rfl

theorem decode_encode_meter (meter : Meter) {data : Json}
    (encoded : meterCodec.encode meter = .ok data) : meterCodec.decode data = .ok meter := by
  obtain ⟨id, registers⟩ := meter
  obtain rfl := Except.ok.inj encoded
  simp only [meterCodec, mapM_decodeCount]
  cases id <;> rfl

theorem installationCodec_isFaithful : installationCodec.IsFaithful := by
  rintro ⟨id, registers⟩ data encoded
  obtain rfl := Except.ok.inj encoded
  rfl

theorem measurementCodec_isFaithful : measurementCodec.IsFaithful := by
  intro amount data encoded
  obtain rfl := Except.ok.inj encoded
  rfl

theorem meterCodec_isFaithful : meterCodec.IsFaithful := fun meter _ encoded =>
  decode_encode_meter meter encoded

/-- What the serializer is registered for, the latest first. -/
def registered : List (PayloadType × DocumentType) :=
  [(state.type, ⟨"meter", none⟩), (measurement.type, ⟨"measured", none⟩),
    (installation.type, ⟨"installed", none⟩)]

theorem serializer_registers : Serializer.Registers registered serializer := by
  have installed := Serializer.Registers.empty.register installation
    installationCodec_isFaithful ⟨"installed", none⟩
  have measured := installed.register measurement measurementCodec_isFaithful ⟨"measured", none⟩
  exact measured.register state meterCodec_isFaithful ⟨"meter", none⟩

theorem registered_unambiguous : Unambiguous registered := by
  unfold Unambiguous
  decide

end Meter

end EventSourcing
