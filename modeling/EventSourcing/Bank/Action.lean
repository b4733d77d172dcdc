import EventSourcing.Bank.Model
import EventSourcing.Repository.Dispatcher

/-!
# Commands of the bank

A command to an account is a list of actions, which are taken in order until one
fails.  An action applies a payload, opens the account unless it is open,
demands a balance, marks the account deleted, or gives up.
-/

namespace EventSourcing.Bank

/-- A step of a decision about an account. -/
inductive Action (typeNames : Label → PayloadType) where
  | apply (payload : Content typeNames) (metadata : Metadata)
  /-- Opens the account under an identity, unless it has one. -/
  | openAs (id : String)
  /-- Fails unless the account has at least a balance. -/
  | demand (balance : Int)
  | delete
  | refuse (error : DomainError)

namespace Action

variable {typeNames : Label → PayloadType}

/-- Reads an action of a command to the account with an identity. -/
def ofJson (target : AggregateId) (json : Json) : Action typeNames :=
  match json.text "act" with
  | "apply" => .apply (payloadAt json "payload") (.ofMember json "meta")
  | "open" => .openAs target.text
  | "fail" => .refuse (.ofKind (json.text "kind") (json.text "text"))
  | "need" => .demand (json.int "balance")
  | _ => .delete

/-- Takes one action; an event that it applies gets its identity and its time
from the stamp. -/
def perform (configuration : AggregateConfiguration (Content typeNames) Account)
    (action : Action typeNames) (stamp : Stamp) : CommandHandler (Content typeNames) Account :=
  fun guard =>
    match action with
    | .apply payload metadata => guard.apply configuration stamp payload metadata
    | .openAs id =>
      if (guard.identifier configuration).isNone then
        guard.apply configuration stamp ⟨.opened, id⟩ .empty
      else (.ok (), guard)
    | .demand balance =>
      if guard.state.balance < balance then
        (.error (.invariantViolation
          ("balance " ++ toString guard.state.balance ++ " below " ++ toString balance)), guard)
      else (.ok (), guard)
    | .delete => (.ok (), guard.markDeleted)
    | .refuse error => (.error error, guard)

def performAll (configuration : AggregateConfiguration (Content typeNames) Account) :
    List (Action typeNames × Stamp) → CommandHandler (Content typeNames) Account
  | [], guard => (.ok (), guard)
  | (action, stamp) :: rest, guard =>
    match action.perform configuration stamp guard with
    | (.ok (), guard) => performAll configuration rest guard
    | (.error error, guard) => (.error error, guard)

end Action

end EventSourcing.Bank
