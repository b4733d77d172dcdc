import EventSourcing.Document.Upcaster
import EventSourcing.Json.Access

/-!
# Upcasters that are given by rules

Most rewritings of old documents only rename a type and rearrange the members
of its data.  A rule says so without code: which documents it is for, which
member becomes the new data, which members are set, and as which types the data
are written.
-/

namespace EventSourcing

/-- A rewriting of documents that is described by data. -/
structure UpcastRule where
  name : String
  /-- The revision that is rewritten; without one, all revisions are. -/
  revision : Option (Option String) := none
  /-- The reason for which the rewriting always fails. -/
  failure : Option String := none
  /-- The member that becomes the data. -/
  required : Option String := none
  /-- Members that are set in data that are an object. -/
  set : List (String × Json) := []
  /-- Whether a description of the record takes the place of the data. -/
  describesRecord : Bool := false
  /-- The types under which the data are written. -/
  targets : List DocumentType := []

/-- The record to which a document belongs, with the data of the document. -/
def UpcastContext.describe (context : UpcastContext) (data : Json) : Json :=
  .ofMembers
    [("data", data), ("id", .string context.id.text),
     ("aggregate", .string context.aggregateId.text), ("seq", .ofNat context.sequenceNumber),
     ("ts", .ofInt context.timestamp.microseconds), ("meta", context.metadata.toJson)]

namespace UpcastRule

def accepts (rule : UpcastRule) (type : DocumentType) : Bool :=
  type.name == rule.name && rule.revision.all fun revision => type.revision == revision

/-- The member that a rule requires, or all data. -/
def selected (rule : UpcastRule) (document : Document) : Except DocumentError Json :=
  match rule.required with
  | none => .ok document.data
  | some key =>
    if document.data.has key then .ok (document.data.member key)
    else .error (.upcasting (document.type.text ++ " without " ++ key))

def overwrite (rule : UpcastRule) : Json → Json
  | .object members => .ofMembers (members ++ rule.set)
  | json => json

/-- The data that a rule writes for a document. -/
def rewrite (rule : UpcastRule) (context : UpcastContext) (document : Document) :
    Except DocumentError Json :=
  (rule.selected document).map fun data =>
    if rule.describesRecord then context.describe (rule.overwrite data)
    else rule.overwrite data

def toUpcaster (rule : UpcastRule) : Upcaster where
  accepts := rule.accepts
  upcast context document :=
    match rule.failure with
    | some reason => .error (.upcasting reason)
    | none => (rule.rewrite context document).map fun data =>
      rule.targets.map fun type => ⟨type, data⟩

end UpcastRule

end EventSourcing
