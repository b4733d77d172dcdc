import EventSourcing.EventStore.Config
import EventSourcing.EventStore.Error
import EventSourcing.EventStore.EventCodec
import EventSourcing.Storage.Backend

/-!
# Reading page by page

A history is read lazily, one batch of entries at a time, up to an optional
last sequence number.  A batch that comes back short is the last one.  The next
batch starts behind the last entry fetched, so fewer and fewer entries are left
and reading comes to an end, even when upcasters drop everything.  A batch with
an entry that cannot be read ends the stream with an error in place of all its
events.

A visit of all entries proceeds in the same way in the order of time.
-/

namespace EventSourcing

/-- What happens while a stream is read: a batch is fetched, or a decorator
takes a note. -/
inductive ReadMark (Note : Type) where
  | fetched
  | noted (note : Note)
deriving DecidableEq

def ReadMark.notes {Note : Type} (marks : List (ReadMark Note)) : List Note :=
  marks.filterMap fun mark =>
    match mark with
    | .noted note => some note
    | .fetched => none

/-- The backend after the batches among the marks have been fetched. -/
def Backend.settle {Note : Type} (backend : Backend) (marks : List (ReadMark Note)) : Backend :=
  marks.foldl (fun backend mark =>
    match mark with
    | .fetched => backend.attemptFetch.2
    | .noted _ => backend) backend

/-- How entries become events, and how many are fetched at a time. -/
structure EventStore (Payload : Type) where
  codec : EventCodec Payload
  config : EventStoreConfig := {}
  batchSize_pos : 0 < config.batchSize := by decide

namespace EventStore

variable {Payload Note : Type} [DocumentFamily Payload]

/-- Whether a sequence number lies beyond an optional last one. -/
def isBeyond (last : Option Nat) (sequenceNumber : Nat) : Bool :=
  match last with
  | some last => last < sequenceNumber
  | none => false

/-- The pulls of a batch whose events could be read. -/
def delivered (events : List (DomainEvent Payload)) :
    List (Pull (ReadMark Note) (StreamItem Payload)) :=
  .mark .fetched :: events.map fun event => .item (.ok event)

def failed (error : EventStoreError) : List (Pull (ReadMark Note) (StreamItem Payload)) :=
  [.mark .fetched, .item (.error error.toStreamError)]

/-- The pulls of a history from a sequence number on.  The numbers of the entries are below
`2 ^ 64 - 1`, so that the next page can start behind any of them without overflow. -/
def pages (store : EventStore Payload) (key : StreamKey) (first : Nat) (last : Option Nat)
    (backend : Backend) : List (Pull (ReadMark Note) (StreamItem Payload)) :=
  if isBeyond last first then []
  else
    match attempted : backend.attemptFetch with
    | (some error, _) => failed (.ofStorage error)
    | (none, after) =>
      have unchanged : after.entries = backend.entries := by
        simpa [attempted] using Backend.entries_attemptFetch backend
      let batch := backend.entries.fetchBatch key first store.config.batchSize
      let wanted := batch.takeWhile fun entry => !isBeyond last entry.sequenceNumber
      match store.codec.decodeAll wanted with
      | .error error => failed (.document error)
      | .ok events =>
        if batch.length < store.config.batchSize || wanted.length < batch.length then
          delivered events
        else
          match found : batch.getLast? with
          | none => delivered events
          | some entry =>
            have member : entry ∈ backend.entries.entriesFrom key first :=
              List.mem_of_mem_take (List.mem_of_getLast? found)
            have _fewer : (after.entries.entriesFrom key (entry.sequenceNumber + 1)).length <
                (backend.entries.entriesFrom key first).length := by
              rw [unchanged]
              exact EntryStore.length_entriesFrom_lt member
            delivered events ++ store.pages key (entry.sequenceNumber + 1) last after
termination_by (backend.entries.entriesFrom key first).length

/-- Visits the entries that meet criteria in the order of time, page by page.
Tells the events visited, how the visit ended, and the backend afterwards. -/
def visitPages (store : EventStore Payload) (criteria : Criteria)
    (after : Option EntryPosition) (backend : Backend) :
    List (DomainEvent Payload) × Except EventStoreError Unit × Backend :=
  match attempted : backend.attempt .fetchFiltered with
  | (some error, backend) => ([], .error (.ofStorage error), backend)
  | (none, next) =>
    have unchanged : next.entries = backend.entries := by
      simpa [attempted] using Backend.entries_attempt .fetchFiltered backend
    let batch := backend.entries.fetchFiltered criteria after store.config.batchSize
    match store.codec.decodeUntilFailure batch with
    | (events, .error error) => (events, .error (.document error), next)
    | (events, .ok ()) =>
      if batch.length < store.config.batchSize then (events, .ok (), next)
      else
        match found : batch.getLast? with
        | none => (events, .ok (), next)
        | some entry =>
          have member : entry ∈ backend.entries.matching criteria after :=
            EntryStore.mem_fetchFiltered (List.mem_of_getLast? found)
          have _fewer : (next.entries.matching criteria (some entry.position)).length <
              (backend.entries.matching criteria after).length := by
            rw [unchanged]
            exact EntryStore.length_matching_lt member
          let (others, result, final) := store.visitPages criteria (some entry.position) next
          (events ++ others, result, final)
termination_by (backend.entries.matching criteria after).length

end EventStore

end EventSourcing
