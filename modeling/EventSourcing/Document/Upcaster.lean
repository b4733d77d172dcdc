import EventSourcing.Document.Basic
import EventSourcing.Identifier
import EventSourcing.Metadata
import EventSourcing.Timestamp.Basic

/-!
# Upcasters

An upcaster rewrites a document of an old type into any number of documents of
newer types; rewriting into none drops the record.  In a chain, what an
upcaster writes is offered to the upcasters behind it only, so a chain always
comes to an end.  `UpcasterChain.upcast` follows one document at a time through
the chain; `UpcasterChain.upcastInStages` takes all documents through one
upcaster after another.
-/

namespace EventSourcing

/-- The stored record to which a document belongs. -/
structure UpcastContext where
  id : EventId
  aggregateId : AggregateId
  sequenceNumber : Nat
  timestamp : Timestamp
  metadata : Metadata

/-- A rewriting of documents of old types. -/
structure Upcaster where
  accepts : DocumentType → Bool
  upcast : UpcastContext → Document → Except DocumentError (List Document)

/-- Upcasters in the order in which they are applied. -/
abbrev UpcasterChain := List Upcaster

namespace UpcasterChain

/-- Rewrites a document by the first upcaster that accepts it, and what that
one writes by the upcasters behind it. -/
def upcast (context : UpcastContext) : UpcasterChain → Document →
    Except DocumentError (List Document)
  | [], document => .ok [document]
  | upcaster :: rest, document =>
    if upcaster.accepts document.type then
      match upcaster.upcast context document with
      | .ok documents =>
        List.flatten <$> documents.mapM fun document => upcast context rest document
      | .error error => .error error
    else upcast context rest document

/-- Applies one upcaster to every document that it accepts, in place. -/
def stage (context : UpcastContext) (upcaster : Upcaster) (documents : List Document) :
    Except DocumentError (List Document) :=
  List.flatten <$> documents.mapM fun document =>
    if upcaster.accepts document.type then upcaster.upcast context document else .ok [document]

/-- Applies the upcasters one after another to all documents. -/
def upcastInStages (context : UpcastContext) (chain : UpcasterChain) (documents : List Document) :
    Except DocumentError (List Document) :=
  chain.foldlM (fun documents upcaster => stage context upcaster documents) documents

def describe (chain : UpcasterChain) : String :=
  Text.record "UpcasterChain" [("upcasters", toString chain.length)]

end UpcasterChain

end EventSourcing
