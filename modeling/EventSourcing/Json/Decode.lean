import EventSourcing.Json.Printer
import EventSourcing.Text.Quoted

/-!
# Decoding typed values from JSON

A decoder turns a JSON value into a typed one or says why it cannot: the value
has the wrong kind, an integer is out of range, a field is missing, or an array
has the wrong length.  A record is read from an object, whose members are
visited in key order, or from an array with one element for each field.
-/

namespace EventSourcing

/-- Why a JSON value does not stand for a typed value. -/
inductive DecodeError where
  | wrongKind (found expected : String)
  | outOfRange (found expected : String)
  | missingField (name : String)
  | wrongLength (length : Nat) (expected : String)
  | rejected (reason : String)
deriving DecidableEq, Inhabited

def DecodeError.message : DecodeError → String
  | .wrongKind found expected => "invalid type: " ++ found ++ ", expected " ++ expected
  | .outOfRange found expected => "invalid value: " ++ found ++ ", expected " ++ expected
  | .missingField name => "missing field `" ++ name ++ "`"
  | .wrongLength length expected =>
    "invalid length " ++ toString length ++ ", expected " ++ expected
  | .rejected reason => reason

/-- A reading of JSON values as values of a type. -/
abbrev Decoder (Value : Type) := Json → Except DecodeError Value

namespace Decoder

/-- How messages name a value of an unexpected kind. -/
def nameOf : Json → String
  | .null => "null"
  | .bool value => "boolean `" ++ Text.flag value ++ "`"
  | .number (.integer value) => "integer `" ++ toString value ++ "`"
  | .number (.float value) => "floating point `" ++ value.jsonText ++ "`"
  | .string text => "string " ++ Text.quoted text
  | .array _ => "sequence"
  | .object _ => "map"

/-- The error for a value of an unexpected kind. -/
def wrongKind {Value : Type} (json : Json) (expected : String) : Except DecodeError Value :=
  .error (.wrongKind (nameOf json) expected)

def integerIn (name : String) (least greatest : Int) : Decoder Int
  | .number (.integer value) =>
    if least ≤ value ∧ value ≤ greatest then .ok value
    else .error (.outOfRange ("integer `" ++ toString value ++ "`") name)
  | json => wrongKind json name

def signed64 : Decoder Int := integerIn "i64" (-Int.pow 2 63) (Int.pow 2 63 - 1)

def unsigned64 : Decoder Nat := fun json => Int.toNat <$> integerIn "u64" 0 (Int.pow 2 64 - 1) json

def unsigned32 : Decoder Nat := fun json => Int.toNat <$> integerIn "u32" 0 (Int.pow 2 32 - 1) json

/-- A natural number that counts things in memory. -/
def count : Decoder Nat := fun json => Int.toNat <$> integerIn "usize" 0 (Int.pow 2 64 - 1) json

/-- A double precision number; integers are rounded to one. -/
def float64 : Decoder Binary64
  | .number (.float value) => .ok value
  | .number (.integer value) => .ok (.ofInt value)
  | json => wrongKind json "f64"

def string : Decoder String
  | .string text => .ok text
  | json => wrongKind json "a string"

def boolean : Decoder Bool
  | .bool value => .ok value
  | json => wrongKind json "a boolean"

/-- Null, as the value of a type that has one value. -/
def unit (name : String) : Decoder Unit
  | .null => .ok ()
  | json => wrongKind json name

def any : Decoder Json := .ok

/-- Null, or a value. -/
def nullable {Value : Type} (decode : Decoder Value) : Decoder (Option Value)
  | .null => .ok none
  | json => some <$> decode json

def list {Value : Type} (decode : Decoder Value) : Decoder (List Value)
  | .array elements => elements.mapM decode
  | json => wrongKind json "a sequence"

/-- An object whose members are all of one type. -/
def entries {Value : Type} (decode : Decoder Value) : Decoder (OrderedMap String Value)
  | .object members =>
    OrderedMap.ofList <$> members.mapM fun member => (member.1, ·) <$> decode member.2
  | json => wrongKind json "a map"

/-! ## Records -/

/-- What happens when a field has no value: an error, no value, or a default. -/
inductive Presence where
  | required
  | optional
  | defaulted
deriving DecidableEq

/-- A field of a record: its name, a check of its value, and whether it may be
missing. -/
structure Field where
  name : String
  presence : Presence
  check : Json → Except DecodeError Unit

def required {Value : Type} (name : String) (decode : Decoder Value) : Field :=
  ⟨name, .required, fun json => (decode json).map fun _ => ()⟩

/-- A field whose value may be missing or null. -/
def optional {Value : Type} (name : String) (decode : Decoder Value) : Field :=
  ⟨name, .optional, fun json => (nullable decode json).map fun _ => ()⟩

def defaulted {Value : Type} (name : String) (decode : Decoder Value) : Field :=
  ⟨name, .defaulted, fun json => (decode json).map fun _ => ()⟩

/-- The values found for the fields of a record. -/
structure Found where
  members : List (String × Json)

namespace Found

def value? (found : Found) (name : String) : Option Json := found.members.lookup name

def get {Value : Type} (found : Found) (name : String) (decode : Decoder Value) :
    Except DecodeError Value :=
  match found.value? name with
  | some json => decode json
  | none => .error (.missingField name)

/-- Decodes the value of a field that may be missing or null. -/
def get? {Value : Type} (found : Found) (name : String) (decode : Decoder Value) :
    Except DecodeError (Option Value) :=
  match found.value? name with
  | some json => nullable decode json
  | none => .ok none

/-- Decodes the value of a field with a default. -/
def getD {Value : Type} (found : Found) (name : String) (decode : Decoder Value)
    (default : Value) : Except DecodeError Value :=
  match found.value? name with
  | some json => decode json
  | none => .ok default

end Found

/-- Checks the members of an object in key order; members that are no fields
are passed over. -/
def checkMembers (fields : List Field) (members : List (String × Json)) :
    Except DecodeError Unit :=
  members.forM fun member =>
    match fields.find? fun field => field.name = member.1 with
    | some field => field.check member.2
    | none => .ok ()

/-- How a record of several fields is named when an array is too short. -/
def lengthText (name : String) (fields : List Field) : String :=
  name ++ " with " ++ toString fields.length ++
    (if fields.length = 1 then " element" else " elements")

/-- Gives the elements of an array to the fields in order, checking each. -/
def assignElements (expected : String) :
    Nat → List Field → List Json → Except DecodeError (List (String × Json))
  | _, [], _ => .ok []
  | index, field :: fields, element :: elements => do
    field.check element
    return (field.name, element) :: (← assignElements expected (index + 1) fields elements)
  | index, field :: fields, [] =>
    match field.presence with
    | .defaulted => assignElements expected (index + 1) fields []
    | _ => .error (.wrongLength index expected)

def record (name : String) (fields : List Field) : Decoder Found
  | .object members => do
    checkMembers fields members
    let missing := fields.find? fun field =>
      field.presence = .required && (members.lookup field.name).isNone
    match missing with
    | some field => .error (.missingField field.name)
    | none => .ok ⟨members⟩
  | .array elements => do
    let members ← assignElements (lengthText name fields) 0 fields elements
    if elements.length > fields.length then
      .error (.wrongLength elements.length "fewer elements in array")
    else .ok ⟨members⟩
  | json => wrongKind json name

end Decoder

end EventSourcing
