import EventSourcing.Aggregate.Configuration
import EventSourcing.Bank.Codec

/-!
# The aggregates of the bank

An account is an aggregate with two groups of children: its cards, each of which
has its tags as children, and its audit.  The other aggregates are counters of
one number, which differ in how they are named and identified, and boxes, which
have no state at all.
-/

namespace EventSourcing.Bank

variable {typeNames : Label → PayloadType}

open Content (kind)

/-! ## Accounts -/

def Tag.model : EntityModel (Content typeNames) Tag :=
  EntityModel.empty.on (kind .tagged) fun tag count => { tag with hits := tag.hits + count }

def Card.tagAccess : ChildAccess Card Tag where
  get card := card.tags
  set card tags := { card with tags }
  set_get _ := rfl

/-- A card follows raised limits until the account is closed. -/
def Card.model : EntityModel (Content typeNames) Card :=
  EntityModel.empty
    |>.on (kind .limitRaised) (fun card amount => { card with limit := card.limit + amount })
    |>.on (kind .closed) (fun card _ => { card with limit := 0 })
    |>.withChildren Card.tagAccess Tag.model

/-- The audit counts deposits and notes the latest. -/
def Audit.model : EntityModel (Content typeNames) Audit :=
  EntityModel.empty.onEvent (kind .deposited) fun audit _ event =>
    ⟨audit.deposits + 1, some event.sequenceNumber⟩

namespace Account

/-- The cards of an account in the order of their names. -/
def cardAccess : ChildAccess Account Card where
  get account := account.cards.values
  set account cards := { account with cards := account.cards.withValues cards }
  set_get account := by simp

def auditAccess : ChildAccess Account Audit :=
  ChildAccess.single audit (fun account audit => { account with audit }) (fun _ => rfl)

def model : AggregateModel (Content typeNames) Account :=
  let model : AggregateModel (Content typeNames) Account :=
    { snapshotKind := kind .account, isDeleted := closed }
  model.identifiedBy id
    |>.onEvent (kind .opened) (fun account name event =>
      { account with id := some ⟨name⟩ }.see event)
    |>.on (kind .renamed) (fun account name => { account with id := name.map AggregateId.mk })
    |>.onEvent (kind .deposited) (fun account amount event =>
      { account with balance := account.balance + amount }.see event)
    |>.on (kind .withdrawn) (fun account amount =>
      { account with balance := account.balance - amount })
    |>.on (kind .cardIssued) (fun account card =>
      { account with cards := account.cards.insert card {} })
    |>.on (kind .limitRaised) (fun account _ => { account with raised := account.raised + 1 })
    |>.on (kind .tagAdded) (fun account names => account.addTag names.1 names.2)
    |>.on (kind .closed) (fun account _ => { account with closed := true })
    |>.withChildren cardAccess Card.model
    |>.withChildren auditAccess Audit.model

end Account

/-! ## Counters and boxes -/

/-- An aggregate type with its fresh state and the way clients see its states. -/
structure Aggregate (typeNames : Label → PayloadType) where
  {State : Type}
  model : AggregateModel (Content typeNames) State
  fresh : State
  [view : JsonView State]

def counter (name : String) : AggregateModel (Content typeNames) Int :=
  { snapshotKind := kind (.counter name) }

def adding (model : AggregateModel (Content typeNames) Int) :
    AggregateModel (Content typeNames) Int :=
  model.on (kind .deposited) fun total amount => total + amount

/-- The counter whose declaration is made twice: only the second one counts. -/
def redeclared : AggregateModel (Content typeNames) Int :=
  let model := (counter "Replaced").named "ignored" |>.named "LegacyName"
  let model := model.identifiedBy (fun _ => none) |>.identifiedBy fun total =>
    if total = 0 then none else some ⟨"r" ++ toString total⟩
  (adding model).on (kind .deposited) fun total amount => total - amount

/-- The aggregate of a counter; clients see its total. -/
def ofCounter (model : AggregateModel (Content typeNames) Int) : Aggregate typeNames where
  model := model
  fresh := (0 : Int)
  view := ⟨fun total => .ofMembers [viewAs "total" total]⟩

/-- A box of things of one type, which has no identifier. -/
def ofBox (content : String) : Aggregate typeNames :=
  let model : AggregateModel (Content typeNames) Unit := { snapshotKind := kind (.box content) }
  { model := model.identifiedBy fun _ => none, fresh := (), view := ⟨fun _ => .object []⟩ }

/-- The aggregate types by name; any other name stands for accounts. -/
def aggregate (name : String) : Aggregate typeNames :=
  let unidentified (model : AggregateModel (Content typeNames) Int) :=
    model.identifiedBy fun _ => none
  match name with
  | "Tally" => ofCounter (adding ((counter name).identifiedBy fun _ => some ⟨"tally"⟩))
  | "Never" => ofCounter (adding (unidentified (counter name)))
  | "Replaced" => ofCounter redeclared
  | "Anonymous" => ofCounter (adding (counter name))
  | "Blank" => ofCounter (unidentified ((counter name).named " \t\n"))
  | "Empty" => ofCounter (unidentified ((counter name).named ""))
  | "Padded" => ofCounter (unidentified ((counter name).named "  Pad ded "))
  | "BlankAnonymous" => ofCounter ((counter name).named " ")
  | "Boxed<u32>" => ofBox "u32"
  | "Boxed<String>" => ofBox "String"
  | _ => { model := Account.model, fresh := {} }

end EventSourcing.Bank
