import EventSourcing.Decimal.Binary64
import EventSourcing.OrderedMap

/-!
# JSON values

Documents and metadata are JSON values.  Integers of 64 bits, signed or
unsigned, are kept apart from double precision numbers, and the members of an
object are listed in key order, the order in which they are printed.
-/

namespace EventSourcing

/-- A JSON number: an integer, or a double precision number. -/
inductive JsonNumber where
  | integer (value : Int)
  | float (value : Binary64)
deriving DecidableEq, Inhabited

/-- A JSON value. -/
inductive Json where
  | null
  | bool (value : Bool)
  | number (value : JsonNumber)
  | string (value : String)
  | array (elements : List Json)
  | object (members : List (String × Json))
deriving Inhabited

namespace JsonNumber

/-- Whether an integer fits one of the two 64-bit integer ranges. -/
def fitsInteger (value : Int) : Bool := -Int.pow 2 63 ≤ value && value < Int.pow 2 64

/-- Equality of numbers: an integer never equals a float. -/
def sameValue : JsonNumber → JsonNumber → Bool
  | .integer first, .integer second => first == second
  | .float first, .float second => first.sameValue second
  | _, _ => false

end JsonNumber

namespace Json

mutual

def decideEq : (first second : Json) → Decidable (first = second)
  | .null, .null => isTrue rfl
  | .bool first, .bool second =>
    if equal : first = second then isTrue (by rw [equal]) else isFalse (by simp [equal])
  | .number first, .number second =>
    if equal : first = second then isTrue (by rw [equal]) else isFalse (by simp [equal])
  | .string first, .string second =>
    if equal : first = second then isTrue (by rw [equal]) else isFalse (by simp [equal])
  | .array first, .array second =>
    match decideEqElements first second with
    | isTrue equal => isTrue (by rw [equal])
    | isFalse different => isFalse (by simpa using different)
  | .object first, .object second =>
    match decideEqMembers first second with
    | isTrue equal => isTrue (by rw [equal])
    | isFalse different => isFalse (by simpa using different)
  | .null, .bool _ | .null, .number _ | .null, .string _ | .null, .array _ | .null, .object _
  | .bool _, .null | .bool _, .number _ | .bool _, .string _ | .bool _, .array _
  | .bool _, .object _ | .number _, .null | .number _, .bool _ | .number _, .string _
  | .number _, .array _ | .number _, .object _ | .string _, .null | .string _, .bool _
  | .string _, .number _ | .string _, .array _ | .string _, .object _ | .array _, .null
  | .array _, .bool _ | .array _, .number _ | .array _, .string _ | .array _, .object _
  | .object _, .null | .object _, .bool _ | .object _, .number _ | .object _, .string _
  | .object _, .array _ => isFalse (by simp)

/-- Decides structural equality of lists of elements. -/
def decideEqElements : (first second : List Json) → Decidable (first = second)
  | [], [] => isTrue rfl
  | [], _ :: _ | _ :: _, [] => isFalse (by simp)
  | first :: firstRest, second :: secondRest =>
    match decideEq first second, decideEqElements firstRest secondRest with
    | isTrue equal, isTrue equalRest => isTrue (by rw [equal, equalRest])
    | isFalse different, _ => isFalse (by simp [different])
    | _, isFalse different => isFalse (by simp [different])

/-- Decides structural equality of lists of members. -/
def decideEqMembers : (first second : List (String × Json)) → Decidable (first = second)
  | [], [] => isTrue rfl
  | [], _ :: _ | _ :: _, [] => isFalse (by simp)
  | (key, first) :: firstRest, (otherKey, second) :: secondRest =>
    if equalKey : key = otherKey then
      match decideEq first second, decideEqMembers firstRest secondRest with
      | isTrue equal, isTrue equalRest => isTrue (by rw [equalKey, equal, equalRest])
      | isFalse different, _ => isFalse (by simp [different])
      | _, isFalse different => isFalse (by simp [different])
    else isFalse (by simp [equalKey])

end

instance : DecidableEq Json := decideEq

mutual

/-- Equality of values, in which the two floating point zeros are one. -/
def sameValue : Json → Json → Bool
  | .null, .null => true
  | .bool first, .bool second => first == second
  | .number first, .number second => first.sameValue second
  | .string first, .string second => first == second
  | .array first, .array second => sameElements first second
  | .object first, .object second => sameMembers first second
  | _, _ => false

def sameElements : List Json → List Json → Bool
  | [], [] => true
  | first :: firstRest, second :: secondRest =>
    sameValue first second && sameElements firstRest secondRest
  | _, _ => false

def sameMembers : List (String × Json) → List (String × Json) → Bool
  | [], [] => true
  | (key, first) :: firstRest, (otherKey, second) :: secondRest =>
    key == otherKey && sameValue first second && sameMembers firstRest secondRest
  | _, _ => false

end

def ofInt (value : Int) : Json := .number (.integer value)

def ofNat (value : Nat) : Json := .number (.integer value)

/-- The object with the given members; of several with one key the last counts. -/
def ofMembers (members : List (String × Json)) : Json :=
  .object (OrderedMap.ofList members).toList

/-- The value or, if there is none, null. -/
def ofOption : Option Json → Json
  | some value => value
  | none => .null

end Json

end EventSourcing
