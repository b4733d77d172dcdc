import EventSourcing.Bank.Content
import EventSourcing.Document.Serializer
import EventSourcing.Interchange.Message

/-!
# How the bank writes its payloads

Events and states are written as records, with the names of their fields; what
an account remembers of messages is left out.  The lasting names of the
documents are the registrations of the bank's serializer.
-/

namespace EventSourcing.Bank

/-! ## Parts of accounts -/

instance : JsonView Tag where
  view tag := .ofMembers [viewAs "name" tag.name, viewAs "hits" tag.hits]

instance : JsonView Card where
  view card := .ofMembers [viewAs "limit" card.limit, viewAs "tags" card.tags]

instance : JsonView Audit where
  view audit := .ofMembers
    [viewAs "deposits" audit.deposits, viewAs "last_seq" audit.lastSequenceNumber]

instance : JsonView Sighting where
  view sighting := .ofMembers
    [viewAs "id" sighting.id, viewAs "aggregate" sighting.aggregateId,
     viewAs "seq" sighting.sequenceNumber]

def Account.storedFields (account : Account) : List (String × Json) :=
  [viewAs "id" account.id, viewAs "balance" account.balance, viewAs "closed" account.closed,
   viewAs "raised" account.raised,
   ("cards", .object (account.cards.toList.map fun entry => (entry.1, view entry.2))),
   viewAs "audit" account.audit]

/-- An account is seen with what it remembers. -/
instance : JsonView Account where
  view account := .ofMembers (account.storedFields ++ [viewAs "seen" account.seen])

open Decoder

def Tag.decode : Decoder Tag := fun json => do
  let found ← record "struct Tag" [required "name" string, required "hits" unsigned32] json
  return ⟨← found.get "name" string, ← found.get "hits" unsigned32⟩

def Card.decode : Decoder Card := fun json => do
  let found ← record "struct Card"
    [required "limit" signed64, defaulted "tags" (list Tag.decode)] json
  return ⟨← found.get "limit" signed64, ← found.getD "tags" (list Tag.decode) []⟩

def Audit.decode : Decoder Audit := fun json => do
  let found ← record "struct Audit"
    [required "deposits" unsigned64, optional "last_seq" unsigned64] json
  return ⟨← found.get "deposits" unsigned64, ← found.get? "last_seq" unsigned64⟩

/-- Reads an account, which then remembers no messages. -/
def Account.decode : Decoder Account := fun json => do
  let found ← record "struct Account"
    [optional "id" aggregateId, required "balance" signed64, defaulted "closed" boolean,
     defaulted "raised" unsigned32, defaulted "cards" (entries Card.decode),
     defaulted "audit" Audit.decode] json
  return { id := ← found.get? "id" aggregateId
           balance := ← found.get "balance" signed64
           closed := ← found.getD "closed" boolean false
           raised := ← found.getD "raised" unsigned32 0
           cards := ← found.getD "cards" (entries Card.decode) .empty
           audit := ← found.getD "audit" Audit.decode {} }

/-! ## Payloads -/

/-- Values that are written without a record around them. -/
def plain {Value : Type} [JsonView Value] (decode : Decoder Value) : Codec Value where
  encode value := .ok (view value)
  decode := decode

def oneField {Value : Type} [JsonView Value] (label : Label) (field : String)
    (decode : Decoder Value) : Codec Value where
  encode value := .ok (.ofMembers [viewAs field value])
  decode json := do
    let found ← record ("struct " ++ label.name) [required field decode] json
    found.get field decode

/-- The one value of a type without content, which is written as null. -/
def nothing (name : String) : Codec Unit where
  encode _ := .ok .null
  decode := unit name

/-- A renaming, whose new name may be missing. -/
def nameChange : Codec (Option String) where
  encode name := .ok (.ofMembers [viewAs "id" name])
  decode json := do
    let found ← record "struct Renamed" [optional "id" string] json
    found.get? "id" string

/-- A tag for a card: the names of both. -/
def tagging : Codec (String × String) where
  encode names := .ok (.ofMembers [viewAs "card" names.1, viewAs "tag" names.2])
  decode json := do
    let found ← record "struct TagAdded" [required "card" string, required "tag" string] json
    return (← found.get "card" string, ← found.get "tag" string)

instance : JsonView Binary64 := ⟨fun value => .number (.float value)⟩

/-- How the values under a label are written and read. -/
def codec : (label : Label) → Codec label.Value
  | .opened => oneField .opened "id" string
  | .deposited => oneField .deposited "amount" signed64
  | .withdrawn => oneField .withdrawn "amount" signed64
  | .renamed => nameChange
  | .cardIssued => oneField .cardIssued "card" string
  | .limitRaised => oneField .limitRaised "by" signed64
  | .tagAdded => tagging
  | .tagged => oneField .tagged "by" unsigned32
  | .closed => nothing "unit struct Closed"
  | .noise => oneField .noise "text" string
  | .cents => oneField .cents "cents" unsigned64
  | .broken => { encode := fun _ => .error "broken payload", decode := fun _ => .ok () }
  | .account => { encode := fun account => .ok (.ofMembers account.storedFields)
                  decode := Account.decode }
  | .counter name => oneField (.counter name) "total" signed64
  | .box _ => nothing "struct Boxed"
  | .natural32 => plain unsigned32
  | .integer64 => plain signed64
  | .float64 => plain float64
  | .boolean => plain boolean
  | .string => plain string
  | .unit => nothing "unit"
  | .naturals => plain (list unsigned32)
  | .json => plain any
  | .unreadable => { encode := fun document => .ok (view document)
                     decode := fun json => .ok (.ofJson json) }

namespace Content

variable {typeNames : Label → PayloadType}

/-- The JSON value of a payload, if it can be written. -/
def toJson? : Content typeNames → Option Json
  | ⟨label, value⟩ => ((codec label).encode value).toOption

/-- Reads a payload from the name of its label and its JSON value.  What nobody
knows is a document, and what cannot be read has no content. -/
def read (name : String) (json : Json) : Content typeNames :=
  match Label.named? name with
  | none => ⟨.unreadable, .ofJson json⟩
  | some label =>
    match (codec label).decode json with
    | .ok value => ⟨label, value⟩
    | .error _ => ⟨.unit, ()⟩

instance : PayloadView (Content typeNames) where
  label content := content.label.name
  content? := toJson?
  ofContent := read

/-- The serializer that knows some labels, each under a document type. -/
def serializer (registrations : List (Label × DocumentType)) : Serializer (Content typeNames) :=
  registrations.foldl (fun serializer entry =>
    serializer.register (kind entry.1) (codec entry.1) entry.2) .empty

end Content

/-- The names under which the bank stores its payloads. -/
def registrations : List (Label × DocumentType) :=
  [(.opened, { name := "account.opened" }), (.deposited, { name := "account.deposited" }),
   (.withdrawn, { name := "account.withdrawn" }), (.renamed, { name := "account.renamed" }),
   (.cardIssued, { name := "account.card" }), (.limitRaised, { name := "account.limit" }),
   (.tagged, { name := "account.tagged" }), (.tagAdded, { name := "account.tag" }),
   (.closed, { name := "account.closed" }), (.cents, ⟨"account.cents", some "2"⟩),
   (.broken, { name := "account.broken" }), (.account, { name := "account.snapshot" })]

/-- Reads a registration: a label, a name and perhaps a revision. -/
def registrationOfJson? (json : Json) : Option (Label × DocumentType) :=
  match json.elements with
  | .string label :: .string name :: rest =>
    (Label.named? label).map fun label => (label, ⟨name, rest.head?.bind Json.text?⟩)
  | _ => none

/-- Reads a serializer: the registrations under a key or, without them, those of
the bank. -/
def Content.serializerOfJson {typeNames : Label → PayloadType} (json : Json) :
    Serializer (Content typeNames) :=
  serializer (if json = .null then registrations else json.elements.filterMap registrationOfJson?)

end EventSourcing.Bank
