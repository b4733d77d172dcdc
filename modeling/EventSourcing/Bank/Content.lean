import EventSourcing.Bank.State
import EventSourcing.Document.Basic

/-!
# What the messages of the bank carry

The payloads of the bank are its events, the states of its aggregates, which
travel in snapshots, plain values, and documents that nobody can read.  A label
tells them apart.  The full names of their types depend on where an
application keeps them, so they are a parameter of the payload family.
-/

namespace EventSourcing.Bank

/-- The kinds of payloads. -/
inductive Label where
  | opened | deposited | withdrawn | renamed | cardIssued | limitRaised | tagAdded | tagged
  | closed | noise | cents
  /-- Something that can never be written. -/
  | broken
  | account
  /-- A counter, of one of several aggregate types. -/
  | counter (name : String)
  /-- An aggregate without a state of its own, which holds things of one type. -/
  | box (content : String)
  | natural32 | integer64 | float64 | boolean | string | unit | naturals | json
  | unreadable
deriving DecidableEq, Inhabited

namespace Label

@[reducible] def Value : Label → Type
  | .opened | .cardIssued | .noise | .string => String
  | .deposited | .withdrawn | .limitRaised | .integer64 | .counter _ => Int
  | .renamed => Option String
  | .tagAdded => String × String
  | .tagged | .cents | .natural32 => Nat
  | .closed | .broken | .unit | .box _ => Unit
  | .account => Account
  | .float64 => Binary64
  | .boolean => Bool
  | .naturals => List Nat
  | .json => Json
  | .unreadable => Document

def name : Label → String
  | .opened => "Opened"
  | .deposited => "Deposited"
  | .withdrawn => "Withdrawn"
  | .renamed => "Renamed"
  | .cardIssued => "CardIssued"
  | .limitRaised => "LimitRaised"
  | .tagAdded => "TagAdded"
  | .tagged => "Tagged"
  | .closed => "Closed"
  | .noise => "Noise"
  | .cents => "Cents"
  | .broken => "Broken"
  | .account => "Account"
  | .counter name => name
  | .box content => "Boxed<" ++ content ++ ">"
  | .natural32 => "u32"
  | .integer64 => "i64"
  | .float64 => "f64"
  | .boolean => "bool"
  | .string => "String"
  | .unit => "Unit"
  | .naturals => "VecU32"
  | .json => "Json"
  | .unreadable => "Unknown"

/-- The labels that messages can carry, in the order in which they are listed. -/
def listed : List Label :=
  [.opened, .deposited, .withdrawn, .renamed, .cardIssued, .limitRaised, .tagAdded, .tagged,
   .closed, .noise, .cents, .broken, .account, .counter "Tally", .counter "Never",
   .counter "Replaced", .natural32, .integer64, .float64, .boolean, .string, .unit, .naturals,
   .json]

def named? (name : String) : Option Label := listed.find? fun label => label.name == name

end Label

/-- A payload of the bank: a value under a label. -/
structure Content (typeNames : Label → PayloadType) where
  label : Label
  value : label.Value

namespace Content

variable {typeNames : Label → PayloadType}

instance : PayloadFamily (Content typeNames) where
  typeOf content := typeNames content.label

/-- The values under a label as a kind of payloads. -/
def kind (label : Label) : PayloadKind (Content typeNames) label.Value where
  type := typeNames label
  inject value := ⟨label, value⟩
  project content :=
    if same : content.label = label then some (same ▸ content.value) else none
  project_inject value := by simp
  inject_project := by
    rintro ⟨actual, content⟩ value found
    by_cases same : actual = label
    · subst same
      simpa using found.symm
    · simp [same] at found
  typeOf_inject _ := rfl

instance : DocumentFamily (Content typeNames) where
  unreadable := kind .unreadable

end Content

end EventSourcing.Bank
