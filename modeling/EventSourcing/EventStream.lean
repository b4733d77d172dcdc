import EventSourcing.Event

/-!
# Lazy streams of domain events

A stream is read item by item, and an item may fail.  What has to happen before
an item can be delivered, such as fetching a batch, is written into the stream
as marks in front of it: reading an item performs the marks up to it and no
others.  `EventStream.items` is the list of items that a stream still delivers;
peeking, mapping and filtering are described by what they do to it.
-/

namespace EventSourcing

/-- A failure to produce the next item of a stream. -/
structure StreamError where
  reason : String
deriving DecidableEq, Inhabited

def StreamError.message (error : StreamError) : String := "event stream failure: " ++ error.reason

/-- An item of a stream, or something that happens on the way to it. -/
inductive Pull (Mark Item : Type) where
  | mark (mark : Mark)
  | item (item : Item)
deriving DecidableEq

namespace Pull

variable {Mark Item : Type}

def items : List (Pull Mark Item) → List Item
  | [] => []
  | .mark _ :: rest => items rest
  | .item head :: rest => head :: items rest

/-- The marks in front of the first item, the item, and what follows it. -/
def uncons : List (Pull Mark Item) → List Mark × Option Item × List (Pull Mark Item)
  | [] => ([], none, [])
  | .mark first :: rest =>
    let (marks, head, remaining) := uncons rest
    (first :: marks, head, remaining)
  | .item head :: rest => ([], some head, rest)

@[simp] theorem items_append (first second : List (Pull Mark Item)) :
    items (first ++ second) = items first ++ items second := by
  induction first with
  | nil => rfl
  | cons pull rest ih => cases pull <;> simp [items, ih]

/-- Taking the first item off takes it off the list of items. -/
theorem items_eq_uncons (pulls : List (Pull Mark Item)) :
    items pulls = (uncons pulls).2.1.toList ++ items (uncons pulls).2.2 := by
  induction pulls with
  | nil => rfl
  | cons pull rest ih =>
    cases pull with
    | mark first => simpa [items, uncons] using ih
    | item head => simp [items, uncons]

end Pull

abbrev StreamItem (Payload : Type) := Except StreamError (DomainEvent Payload)

/-- A lazy stream of domain events with at most one item looked at ahead. -/
structure EventStream (Mark Payload : Type) where
  peeked : Option (StreamItem Payload)
  ahead : List (Pull Mark (StreamItem Payload))

namespace EventStream

variable {Mark Payload : Type}

/-- A stream that delivers what a list of pulls tells. -/
def ofPulls (pulls : List (Pull Mark (StreamItem Payload))) : EventStream Mark Payload :=
  ⟨none, pulls⟩

def empty : EventStream Mark Payload := ofPulls []

def ofItems (items : List (StreamItem Payload)) : EventStream Mark Payload :=
  ofPulls (items.map .item)

def ofEvents (events : List (DomainEvent Payload)) : EventStream Mark Payload :=
  ofItems (events.map .ok)

/-- Everything that a stream still tells, the item looked at first. -/
def pulls (stream : EventStream Mark Payload) : List (Pull Mark (StreamItem Payload)) :=
  (stream.peeked.map Pull.item).toList ++ stream.ahead

def items (stream : EventStream Mark Payload) : List (StreamItem Payload) :=
  Pull.items stream.pulls

/-- Takes the next item, with the marks on the way to it. -/
def next (stream : EventStream Mark Payload) :
    List Mark × Option (StreamItem Payload) × EventStream Mark Payload :=
  match stream.peeked with
  | some item => ([], some item, ⟨none, stream.ahead⟩)
  | none =>
    let (marks, item, remaining) := Pull.uncons stream.ahead
    (marks, item, ⟨none, remaining⟩)

def peek (stream : EventStream Mark Payload) :
    List Mark × Option (StreamItem Payload) × EventStream Mark Payload :=
  match stream.peeked with
  | some item => ([], some item, stream)
  | none =>
    let (marks, item, remaining) := Pull.uncons stream.ahead
    (marks, item, ⟨item, remaining⟩)

def hasNext (stream : EventStream Mark Payload) : List Mark × Bool × EventStream Mark Payload :=
  let (marks, item, stream) := stream.peek
  (marks, item.isSome, stream)

/-- Transforms the events of a list of pulls with a state that is carried from
event to event. -/
def mapPulls {State : Type}
    (transform : State → DomainEvent Payload → DomainEvent Payload × State) :
    State → List (Pull Mark (StreamItem Payload)) → List (Pull Mark (StreamItem Payload))
  | _, [] => []
  | state, .item (.ok event) :: rest =>
    let (event, state) := transform state event
    .item (.ok event) :: mapPulls transform state rest
  | state, pull :: rest => pull :: mapPulls transform state rest

/-- Transforms every event with a state that is carried from event to event;
failures are passed on. -/
def mapWithState {State : Type} (stream : EventStream Mark Payload) (start : State)
    (transform : State → DomainEvent Payload → DomainEvent Payload × State) :
    EventStream Mark Payload :=
  ofPulls (mapPulls transform start stream.pulls)

/-- Transforms every event; failures are passed on. -/
def map (stream : EventStream Mark Payload)
    (transform : DomainEvent Payload → DomainEvent Payload) : EventStream Mark Payload :=
  stream.mapWithState () fun _ event => (transform event, ())

def keeps (keep : DomainEvent Payload → Bool) : Pull Mark (StreamItem Payload) → Bool
  | .item (.ok event) => keep event
  | _ => true

/-- Keeps the events that pass a test, all failures, and all marks: what is
dropped still has to be fetched. -/
def filter (stream : EventStream Mark Payload) (keep : DomainEvent Payload → Bool) :
    EventStream Mark Payload :=
  ofPulls (stream.pulls.filter (keeps keep))

/-- Keeps the events of a list of pulls that pass a test with a state that is carried from
event to event. -/
def filterPulls {State : Type} (test : State → DomainEvent Payload → Bool × State) :
    State → List (Pull Mark (StreamItem Payload)) → List (Pull Mark (StreamItem Payload))
  | _, [] => []
  | state, .item (.ok event) :: rest =>
    let (kept, state) := test state event
    if kept then .item (.ok event) :: filterPulls test state rest
    else filterPulls test state rest
  | state, pull :: rest => pull :: filterPulls test state rest

/-- Keeps the events that pass a test with a state that is carried from event to event, all
failures, and all marks. -/
def filterWithState {State : Type} (stream : EventStream Mark Payload) (start : State)
    (test : State → DomainEvent Payload → Bool × State) : EventStream Mark Payload :=
  ofPulls (filterPulls test start stream.pulls)

def annotate (stream : EventStream Mark Payload) (note : DomainEvent Payload → Mark) :
    EventStream Mark Payload :=
  ofPulls (stream.pulls.flatMap fun pull =>
    match pull with
    | .item (.ok event) => [.mark (note event), .item (.ok event)]
    | other => [other])

/-- The pulls up to and with a number of items. -/
def takePulls : Nat → List (Pull Mark (StreamItem Payload)) →
    List (Pull Mark (StreamItem Payload))
  | 0, _ => []
  | _, [] => []
  | count, .mark mark :: rest => .mark mark :: takePulls count rest
  | count + 1, .item item :: rest => .item item :: takePulls count rest

/-- Delivers at most `count` items of the stream and then the given ones. -/
def takeThen (stream : EventStream Mark Payload) (count : Nat)
    (items : List (StreamItem Payload)) : EventStream Mark Payload :=
  ofPulls (takePulls count stream.pulls ++ items.map .item)

/-- The events up to the first failure, with the marks performed on the way. -/
def collectPulls : List (Pull Mark (StreamItem Payload)) →
    List Mark × Except StreamError (List (DomainEvent Payload))
  | [] => ([], .ok [])
  | .mark mark :: rest =>
    let (marks, result) := collectPulls rest
    (mark :: marks, result)
  | .item (.ok event) :: rest =>
    let (marks, result) := collectPulls rest
    (marks, (event :: ·) <$> result)
  | .item (.error error) :: _ => ([], .error error)

/-- Reads all events, failing at the first failure. -/
def collect (stream : EventStream Mark Payload) :
    List Mark × Except StreamError (List (DomainEvent Payload)) :=
  collectPulls stream.pulls

/-- Takes at most a number of items, with the marks on the way to them. -/
def take : Nat → EventStream Mark Payload →
    List Mark × List (StreamItem Payload) × EventStream Mark Payload
  | 0, stream => ([], [], stream)
  | count + 1, stream =>
    match stream.next with
    | (marks, none, stream) => (marks, [], stream)
    | (marks, some item, stream) =>
      let (more, items, stream) := take count stream
      (marks ++ more, item :: items, stream)

/-- Takes all items, until none is found behind them. -/
def takeAll (stream : EventStream Mark Payload) :
    List Mark × List (StreamItem Payload) × EventStream Mark Payload :=
  stream.take (stream.items.length + 1)

def marks (stream : EventStream Mark Payload) : List Mark :=
  stream.ahead.filterMap fun pull =>
    match pull with
    | .mark mark => some mark
    | .item _ => none

def describe (stream : EventStream Mark Payload) : String :=
  Text.openRecord "DomainEventStream" [("peeked", Text.flag stream.peeked.isSome)]

/-! ## What the operations do to the remaining items -/

/-- Taking the next item takes it off the remaining items. -/
theorem items_eq_next (stream : EventStream Mark Payload) :
    stream.items = stream.next.2.1.toList ++ stream.next.2.2.items := by
  obtain ⟨peeked, ahead⟩ := stream
  cases peeked with
  | some item => simp [items, pulls, next, Pull.items]
  | none => simpa [items, pulls, next] using Pull.items_eq_uncons ahead

/-- Looking at the next item leaves the remaining items as they are. -/
@[simp] theorem items_peek (stream : EventStream Mark Payload) :
    stream.peek.2.2.items = stream.items := by
  obtain ⟨peeked, ahead⟩ := stream
  cases peeked with
  | some item => rfl
  | none =>
    have := Pull.items_eq_uncons ahead
    cases found : (Pull.uncons ahead).2.1 <;>
      simp [items, pulls, peek, found, Pull.items, this]

@[simp] theorem items_map (stream : EventStream Mark Payload)
    (transform : DomainEvent Payload → DomainEvent Payload) :
    (stream.map transform).items = stream.items.map (Except.map transform) := by
  change Pull.items (mapPulls _ () stream.pulls) = (Pull.items stream.pulls).map _
  induction stream.pulls with
  | nil => rfl
  | cons pull rest ih =>
    cases pull with
    | mark mark => exact ih
    | item item => cases item <;> exact congrArg (_ :: ·) ih

@[simp] theorem items_filter (stream : EventStream Mark Payload)
    (keep : DomainEvent Payload → Bool) :
    (stream.filter keep).items =
      stream.items.filter fun item => keeps keep (.item item : Pull Mark _) := by
  change Pull.items (stream.pulls.filter (keeps keep)) = (Pull.items stream.pulls).filter _
  induction stream.pulls with
  | nil => rfl
  | cons pull rest ih =>
    cases pull with
    | mark mark => exact ih
    | item item =>
      simp only [Pull.items, List.filter_cons]
      cases keeps keep (.item item : Pull Mark (StreamItem Payload)) with
      | false => exact ih
      | true => exact congrArg (item :: ·) ih

/-- The item looked at is the first of the remaining ones. -/
theorem peek_item (stream : EventStream Mark Payload) :
    stream.peek.2.1 = stream.next.2.1 := by
  obtain ⟨peeked, ahead⟩ := stream
  cases peeked <;> rfl

/-- A test without a state is one whose state says nothing. -/
theorem filter_eq_filterWithState (stream : EventStream Mark Payload)
    (keep : DomainEvent Payload → Bool) :
    stream.filter keep = stream.filterWithState () fun _ event => (keep event, ()) := by
  unfold filter filterWithState
  apply congrArg
  induction stream.pulls with
  | nil => rfl
  | cons pull rest ih =>
    rcases pull with mark | (error | event)
    · exact congrArg (_ :: ·) ih
    · exact congrArg (_ :: ·) ih
    · simp only [List.filter_cons, keeps, filterPulls, ih]

/-- The events of items up to the first failure, which takes their place. -/
def collectItems : List (StreamItem Payload) → Except StreamError (List (DomainEvent Payload))
  | [] => .ok []
  | .ok event :: rest => (event :: ·) <$> collectItems rest
  | .error error :: _ => .error error

theorem collect_items (stream : EventStream Mark Payload) :
    stream.collect.2 = collectItems stream.items := by
  unfold collect items
  induction stream.pulls with
  | nil => rfl
  | cons pull rest ih =>
    cases pull with
    | mark mark => exact ih
    | item item =>
      cases item with
      | error error => rfl
      | ok event => simp only [collectPulls, Pull.items, collectItems, ih]

theorem collectItems_map_ok_append (events : List (DomainEvent Payload))
    (items : List (StreamItem Payload)) :
    collectItems (events.map .ok ++ items) = (events ++ ·) <$> collectItems items := by
  induction events with
  | nil =>
    rw [List.map_nil, List.nil_append]
    cases collectItems items <;> rfl
  | cons event rest ih =>
    rw [List.map_cons, List.cons_append, collectItems, ih]
    cases collectItems items <;> rfl

theorem collectItems_map_ok (events : List (DomainEvent Payload)) :
    collectItems (events.map .ok) = .ok events := by
  have collected := collectItems_map_ok_append events []
  rw [List.append_nil] at collected
  rw [collected]
  exact congrArg Except.ok (List.append_nil events)

theorem collectItems_firstFailure (events : List (DomainEvent Payload)) (error : StreamError)
    (rest : List (StreamItem Payload)) :
    collectItems (events.map .ok ++ .error error :: rest) = .error error := by
  rw [collectItems_map_ok_append]
  rfl

end EventStream

end EventSourcing
