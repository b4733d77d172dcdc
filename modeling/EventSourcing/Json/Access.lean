import EventSourcing.Json.Basic

/-!
# Parts of JSON values

In requests and settings most members may be left out.  A missing member reads
as null, and a part of the wrong kind as the default of the kind asked for, so
that every reading has a value.  `Json.has` tells a member that is null from one
that is missing.
-/

namespace EventSourcing.Json

def members : Json → List (String × Json)
  | .object members => members
  | _ => []

def elements : Json → List Json
  | .array elements => elements
  | _ => []

/-- The member of an object under a key, or null. -/
def member (json : Json) (key : String) : Json := (json.members.lookup key).getD .null

/-- Whether an object has a member under a key. -/
def has (json : Json) (key : String) : Bool := (json.members.lookup key).isSome

/-- Whether an object has a member under a key that is not null. -/
def gives (json : Json) (key : String) : Bool := json.member key != .null

def int? : Json → Option Int
  | .number (.integer value) => some value
  | _ => none

/-- The value of an integer that is not negative. -/
def nat? (json : Json) : Option Nat :=
  (json.int?.filter fun value => decide (0 ≤ value)).map Int.toNat

def text? : Json → Option String
  | .string value => some value
  | _ => none

def list (json : Json) (key : String) : List Json := (json.member key).elements

def texts (json : Json) (key : String) : List String := (json.list key).filterMap text?

/-- The text under a key, or else a default. -/
def textD (json : Json) (key default : String) : String :=
  (json.member key).text?.getD default

/-- The text under a key, or else the empty one. -/
def text (json : Json) (key : String) : String := json.textD key ""

/-- The natural number under a key, or else a default. -/
def natD (json : Json) (key : String) (default : Nat) : Nat :=
  (json.member key).nat?.getD default

/-- The natural number under a key, or else zero. -/
def nat (json : Json) (key : String) : Nat := json.natD key 0

/-- The integer under a key, or else zero. -/
def int (json : Json) (key : String) : Int := (json.member key).int?.getD 0

def flag (json : Json) (key : String) : Bool := json.member key == .bool true

end EventSourcing.Json
