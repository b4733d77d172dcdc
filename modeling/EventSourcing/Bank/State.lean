import EventSourcing.Event

/-!
# The states of a small bank

An account has a balance and cards; a card has a limit and tags.  Beside them
an account keeps an audit of its deposits, and it remembers the messages that it
has seen, which is not part of what is stored.
-/

namespace EventSourcing.Bank

/-- A tag on a card, with a count of what was charged under it. -/
structure Tag where
  name : String
  hits : Nat := 0
deriving DecidableEq

/-- A card of an account. -/
structure Card where
  limit : Int := 0
  tags : List Tag := []
deriving DecidableEq

/-- What the audit knows of the deposits to an account. -/
structure Audit where
  deposits : Nat := 0
  lastSequenceNumber : Option Nat := none
deriving DecidableEq

/-- What an account remembers of a message: its identity and its place. -/
structure Sighting where
  id : EventId
  aggregateId : AggregateId
  sequenceNumber : Nat
deriving DecidableEq

/-- An account. -/
structure Account where
  id : Option AggregateId := none
  balance : Int := 0
  closed : Bool := false
  /-- How often the limits of the cards were raised. -/
  raised : Nat := 0
  cards : OrderedMap String Card := .empty
  audit : Audit := {}
  seen : List Sighting := []
deriving DecidableEq

namespace Account

def see {Payload : Type} (account : Account) (event : DomainEvent Payload) : Account :=
  { account with
    seen := account.seen ++ [⟨event.id, event.aggregateId, event.sequenceNumber⟩] }

/-- Puts a tag on a card, if the account has the card. -/
def addTag (account : Account) (card tag : String) : Account :=
  match account.cards.get? card with
  | some found =>
    { account with
      cards := account.cards.insert card { found with tags := found.tags ++ [⟨tag, 0⟩] } }
  | none => account

end Account

end EventSourcing.Bank
