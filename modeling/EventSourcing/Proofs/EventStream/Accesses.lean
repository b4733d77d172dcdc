import EventSourcing.EventStream

/-!
# Streams as lists

A stream keeps at most one item that has been looked at, and hands it on to whatever it is
turned into.  Nobody can tell: looking at a stream, mapping it and filtering it, in any order
and as often as one likes, show what the same shows of the plain list of its items
(`EventStream.accessAll_eq_onItems`).
-/

namespace EventSourcing

/-- A look at a stream. -/
inductive Look where
  | next
  | peek
  | hasNext
deriving DecidableEq

/-- What a look shows: the item that it takes, the item in front, or whether there is one. -/
inductive Sight (Payload : Type) where
  | taken (item : Option (StreamItem Payload))
  | shown (item : Option (StreamItem Payload))
  | found (isFound : Bool)

/-- The item that has been taken by the time of a sight. -/
def Sight.taken? {Payload : Type} : Sight Payload → Option (StreamItem Payload)
  | .taken item => item
  | _ => none

/-- What can be done to a stream: a look at it, or a decoration with a state of its own. -/
inductive Access (Payload : Type) : Type 1 where
  | look (look : Look)
  | map {State : Type} (start : State)
      (transform : State → DomainEvent Payload → DomainEvent Payload × State)
  | filter {State : Type} (start : State) (test : State → DomainEvent Payload → Bool × State)

namespace EventStream

variable {Mark Payload : Type}

def look (stream : EventStream Mark Payload) :
    Look → List Mark × Sight Payload × EventStream Mark Payload
  | .next =>
    let (marks, item, stream) := stream.next
    (marks, .taken item, stream)
  | .peek =>
    let (marks, item, stream) := stream.peek
    (marks, .shown item, stream)
  | .hasNext =>
    let (marks, isFound, stream) := stream.hasNext
    (marks, .found isFound, stream)

def access (stream : EventStream Mark Payload) :
    Access Payload → List Mark × List (Sight Payload) × EventStream Mark Payload
  | .look look =>
    let (marks, sight, stream) := stream.look look
    (marks, [sight], stream)
  | .map start transform => ([], [], stream.mapWithState start transform)
  | .filter start test => ([], [], stream.filterWithState start test)

/-- What is seen of a stream by one access after another, with the marks performed meanwhile,
and what it has become. -/
def accessAll (stream : EventStream Mark Payload) :
    List (Access Payload) → List Mark × List (Sight Payload) × EventStream Mark Payload
  | [] => ([], [], stream)
  | access :: rest =>
    let (marks, sights, stream) := stream.access access
    let (more, others, stream) := stream.accessAll rest
    (marks ++ more, sights ++ others, stream)

end EventStream

/-! ## The same of a list -/

section Lists

variable {Payload State : Type}

def Look.onItems (items : List (StreamItem Payload)) :
    Look → Sight Payload × List (StreamItem Payload)
  | .next => (.taken items.head?, items.tail)
  | .peek => (.shown items.head?, items)
  | .hasNext => (.found !items.isEmpty, items)

/-- The state behind items of which every event changes it once. -/
def stateBehind (change : State → DomainEvent Payload → State) (start : State)
    (items : List (StreamItem Payload)) : State :=
  (items.filterMap Except.toOption).foldl change start

/-- The items with each event transformed in the state behind those in front of it. -/
def mapItems (transform : State → DomainEvent Payload → DomainEvent Payload × State)
    (start : State) (items : List (StreamItem Payload)) : List (StreamItem Payload) :=
  items.mapIdx fun place item =>
    let state := stateBehind (fun state event => (transform state event).2) start
      (items.take place)
    item.map fun event => (transform state event).1

/-- An item by itself if it passes a test, as failures do, and nothing otherwise. -/
def passing (test : State → DomainEvent Payload → Bool × State) (state : State) :
    StreamItem Payload → List (StreamItem Payload)
  | .ok event => if (test state event).1 then [.ok event] else []
  | .error error => [.error error]

/-- The failures among items, and the events that pass a test in the state behind those in
front of them. -/
def filterItems (test : State → DomainEvent Payload → Bool × State) (start : State)
    (items : List (StreamItem Payload)) : List (StreamItem Payload) :=
  List.flatten <| items.mapIdx fun place item =>
    passing test
      (stateBehind (fun state event => (test state event).2) start (items.take place)) item

def Access.onItems (items : List (StreamItem Payload)) :
    Access Payload → List (Sight Payload) × List (StreamItem Payload)
  | .look kind =>
    let (sight, items) := kind.onItems items
    ([sight], items)
  | .map start transform => ([], mapItems transform start items)
  | .filter start test => ([], filterItems test start items)

def Access.allOnItems (items : List (StreamItem Payload)) :
    List (Access Payload) → List (Sight Payload) × List (StreamItem Payload)
  | [] => ([], items)
  | access :: rest =>
    let (sights, items) := access.onItems items
    let (others, items) := allOnItems items rest
    (sights ++ others, items)

/-- An event further on in a list is in the state that the first item leaves behind. -/
theorem mapItems_cons (transform : State → DomainEvent Payload → DomainEvent Payload × State)
    (start : State) (item : StreamItem Payload) (rest : List (StreamItem Payload)) :
    mapItems transform start (item :: rest) =
      (item.map fun event => (transform start event).1) ::
        mapItems transform
          (stateBehind (fun state event => (transform state event).2) start [item]) rest := by
  unfold mapItems
  rw [List.mapIdx_cons]
  cases item <;> rfl

theorem filterItems_cons (test : State → DomainEvent Payload → Bool × State) (start : State)
    (item : StreamItem Payload) (rest : List (StreamItem Payload)) :
    filterItems test start (item :: rest) =
      passing test start item ++
        filterItems test
          (stateBehind (fun state event => (test state event).2) start [item]) rest := by
  unfold filterItems
  rw [List.mapIdx_cons, List.flatten_cons]
  cases item <;> rfl

end Lists

/-- The first item of pulls is the first of their items. -/
theorem Pull.uncons_items {Mark Item : Type} (pulls : List (Pull Mark Item)) :
    (uncons pulls).2.1 = (items pulls).head? ∧ items (uncons pulls).2.2 = (items pulls).tail := by
  induction pulls with
  | nil => exact ⟨rfl, rfl⟩
  | cons pull rest ih =>
    cases pull with
    | mark mark => exact ih
    | item item => exact ⟨rfl, rfl⟩

namespace EventStream

variable {Mark Payload State : Type}

/-! ## Looks -/

/-- Taking the next item takes the first of the remaining ones. -/
theorem next_eq_onItems (stream : EventStream Mark Payload) :
    stream.next.2.1 = stream.items.head? ∧ stream.next.2.2.items = stream.items.tail := by
  obtain ⟨peeked, ahead⟩ := stream
  cases peeked with
  | some item => exact ⟨rfl, rfl⟩
  | none => exact Pull.uncons_items ahead

theorem look_eq_onItems (stream : EventStream Mark Payload) (kind : Look) :
    ((stream.look kind).2.1, (stream.look kind).2.2.items) = kind.onItems stream.items := by
  obtain ⟨item, rest⟩ := next_eq_onItems stream
  cases kind with
  | next => exact Prod.ext (congrArg Sight.taken item) rest
  | peek =>
    have shown : stream.peek.2.1 = stream.items.head? := (peek_item stream).trans item
    exact Prod.ext (congrArg Sight.shown shown) (items_peek stream)
  | hasNext =>
    have shown : stream.peek.2.1 = stream.items.head? := (peek_item stream).trans item
    have found : stream.hasNext.2.1 = !stream.items.isEmpty := by
      change stream.peek.2.1.isSome = _
      rw [shown]
      cases stream.items <;> rfl
    exact Prod.ext (congrArg Sight.found found) (items_peek stream)

/-! ## Decorations -/

theorem items_mapWithState (stream : EventStream Mark Payload) (start : State)
    (transform : State → DomainEvent Payload → DomainEvent Payload × State) :
    (stream.mapWithState start transform).items = mapItems transform start stream.items := by
  change Pull.items (mapPulls transform start stream.pulls) =
    mapItems transform start (Pull.items stream.pulls)
  induction stream.pulls generalizing start with
  | nil => rfl
  | cons pull rest ih =>
    rcases pull with mark | (error | event)
    · exact ih start
    · rw [Pull.items, mapItems_cons]
      exact congrArg (_ :: ·) (ih start)
    · rw [Pull.items, mapItems_cons, mapPulls, Pull.items, ih]
      rfl

theorem items_filterWithState (stream : EventStream Mark Payload) (start : State)
    (test : State → DomainEvent Payload → Bool × State) :
    (stream.filterWithState start test).items = filterItems test start stream.items := by
  change Pull.items (filterPulls test start stream.pulls) =
    filterItems test start (Pull.items stream.pulls)
  induction stream.pulls generalizing start with
  | nil => rfl
  | cons pull rest ih =>
    rcases pull with mark | (error | event)
    · exact ih start
    · rw [Pull.items, filterItems_cons]
      exact congrArg (_ :: ·) (ih start)
    · rcases tested : test start event with ⟨kept, next⟩
      have behind : stateBehind (fun state event => (test state event).2) start [.ok event] =
          next := congrArg Prod.snd tested
      rw [Pull.items, filterItems_cons, behind, ← ih next]
      cases kept <;> simp [filterPulls, passing, tested, Pull.items]

/-! ## Marks -/

@[simp] theorem marks_mapWithState (stream : EventStream Mark Payload) (start : State)
    (transform : State → DomainEvent Payload → DomainEvent Payload × State) :
    (stream.mapWithState start transform).marks = stream.marks := by
  have kept (pulls : List (Pull Mark (StreamItem Payload))) (state : State) :
      (ofPulls (mapPulls transform state pulls)).marks = (ofPulls pulls).marks := by
    induction pulls generalizing state with
    | nil => rfl
    | cons pull rest ih =>
      rcases pull with mark | (error | event)
      · exact congrArg (mark :: ·) (ih state)
      · exact ih state
      · exact ih _
  obtain ⟨peeked, ahead⟩ := stream
  cases peeked <;> exact kept _ start

@[simp] theorem marks_filterWithState (stream : EventStream Mark Payload) (start : State)
    (test : State → DomainEvent Payload → Bool × State) :
    (stream.filterWithState start test).marks = stream.marks := by
  have kept (pulls : List (Pull Mark (StreamItem Payload))) (state : State) :
      (ofPulls (filterPulls test state pulls)).marks = (ofPulls pulls).marks := by
    induction pulls generalizing state with
    | nil => rfl
    | cons pull rest ih =>
      rcases pull with mark | (error | event)
      · exact congrArg (mark :: ·) (ih state)
      · exact ih state
      · rcases tested : test state event with ⟨kept, next⟩
        simp only [filterPulls, tested]
        cases kept <;> exact ih next
  obtain ⟨peeked, ahead⟩ := stream
  cases peeked <;> exact kept _ start

/-- The marks on the way to an item are the first of all marks. -/
theorem marks_uncons (pulls : List (Pull Mark (StreamItem Payload))) :
    (ofPulls pulls).marks = (Pull.uncons pulls).1 ++ (ofPulls (Pull.uncons pulls).2.2).marks := by
  induction pulls with
  | nil => rfl
  | cons pull rest ih =>
    cases pull with
    | mark mark => exact congrArg (mark :: ·) ih
    | item item => rfl

theorem marks_look (stream : EventStream Mark Payload) (kind : Look) :
    stream.marks = (stream.look kind).1 ++ (stream.look kind).2.2.marks := by
  obtain ⟨peeked, ahead⟩ := stream
  cases peeked with
  | some item => cases kind <;> rfl
  | none => cases kind <;> exact marks_uncons ahead

theorem marks_access (stream : EventStream Mark Payload) (access : Access Payload) :
    stream.marks = (stream.access access).1 ++ (stream.access access).2.2.marks := by
  cases access with
  | look kind => exact marks_look stream kind
  | map start transform => exact (marks_mapWithState stream start transform).symm
  | filter start test => exact (marks_filterWithState stream start test).symm

/-- Every mark is performed once, whatever is done to a stream. -/
theorem marks_accessAll (stream : EventStream Mark Payload) (accesses : List (Access Payload)) :
    stream.marks = (stream.accessAll accesses).1 ++ (stream.accessAll accesses).2.2.marks := by
  induction accesses generalizing stream with
  | nil => rfl
  | cons access rest ih =>
    rw [marks_access stream access, ih (stream.access access).2.2, ← List.append_assoc]
    rfl

/-! ## Accesses -/

theorem access_eq_onItems (stream : EventStream Mark Payload) (access : Access Payload) :
    ((stream.access access).2.1, (stream.access access).2.2.items) =
      access.onItems stream.items := by
  cases access with
  | look kind =>
    rw [Access.onItems, ← look_eq_onItems stream kind]
    rfl
  | map start transform => exact Prod.ext rfl (items_mapWithState stream start transform)
  | filter start test => exact Prod.ext rfl (items_filterWithState stream start test)

/-- Any accesses show of a stream what they show of its items, and leave the same. -/
theorem accessAll_items (stream : EventStream Mark Payload) (accesses : List (Access Payload)) :
    ((stream.accessAll accesses).2.1, (stream.accessAll accesses).2.2.items) =
      Access.allOnItems stream.items accesses := by
  induction accesses generalizing stream with
  | nil => rfl
  | cons access rest ih =>
    rw [Access.allOnItems, ← access_eq_onItems stream access]
    simp only [← ih (stream.access access).2.2]
    rfl

/-- Looks take the first items and leave the others. -/
theorem items_eq_looks (stream : EventStream Mark Payload) (looks : List Look) :
    stream.items = (stream.accessAll (looks.map .look)).2.1.filterMap Sight.taken? ++
      (stream.accessAll (looks.map .look)).2.2.items := by
  induction looks generalizing stream with
  | nil => rfl
  | cons kind rest ih =>
    have later := ih (stream.look kind).2.2
    cases kind with
    | next =>
      have seen : (stream.accessAll ((.next :: rest).map .look)).2.1 =
          .taken stream.next.2.1 :: (stream.next.2.2.accessAll (rest.map .look)).2.1 := rfl
      rw [items_eq_next stream, seen, List.filterMap_cons]
      cases stream.next.2.1 with
      | none => exact later
      | some item => exact congrArg (item :: ·) later
    | peek => exact (items_peek stream).symm.trans later
    | hasNext => exact (items_peek stream).symm.trans later

/-- What is left behind looks are the items behind those that have been taken. -/
theorem items_looks (stream : EventStream Mark Payload) (looks : List Look) :
    (stream.accessAll (looks.map .look)).2.2.items = stream.items.drop (looks.count .next) := by
  induction looks generalizing stream with
  | nil => rfl
  | cons kind rest ih =>
    have later := ih (stream.look kind).2.2
    cases kind with
    | next =>
      rw [List.count_cons_self, ← List.drop_tail, ← (next_eq_onItems stream).2]
      exact later
    | peek =>
      have nothingTaken : Look.peek ≠ .next := by decide
      rw [List.count_cons_of_ne nothingTaken, ← items_peek stream]
      exact later
    | hasNext =>
      have nothingTaken : Look.hasNext ≠ .next := by decide
      rw [List.count_cons_of_ne nothingTaken, ← items_peek stream]
      exact later

/-! ## Collecting -/

/-- Items are events only, or there is a first failure among them. -/
theorem exists_firstFailure (items : List (StreamItem Payload)) :
    (∃ events : List (DomainEvent Payload), items = events.map .ok) ∨
      ∃ (events : List (DomainEvent Payload)) (error : StreamError)
        (rest : List (StreamItem Payload)), items = events.map .ok ++ .error error :: rest := by
  induction items with
  | nil => exact .inl ⟨[], rfl⟩
  | cons item rest ih =>
    cases item with
    | error error => exact .inr ⟨[], error, rest, rfl⟩
    | ok event =>
      rcases ih with ⟨events, rfl⟩ | ⟨events, error, later, rfl⟩
      · exact .inl ⟨event :: events, rfl⟩
      · exact .inr ⟨event :: events, error, later, rfl⟩

/-- All events are collected exactly when there is no failure left. -/
theorem collect_eq_ok_iff {stream : EventStream Mark Payload}
    {events : List (DomainEvent Payload)} :
    stream.collect.2 = .ok events ↔ stream.items = events.map .ok := by
  rw [collect_items]
  rcases exists_firstFailure stream.items with ⟨found, same⟩ | ⟨found, error, rest, same⟩
  · rw [same, collectItems_map_ok, Except.ok.injEq]
    exact (List.map_inj_right fun _ _ => Except.ok.inj).symm
  · constructor
    · intro collected
      rw [same, collectItems_firstFailure] at collected
      cases collected
    · intro onlyEvents
      rw [onlyEvents, collectItems_map_ok]

/-- Otherwise collecting fails, with the first failure. -/
theorem collect_eq_error_iff {stream : EventStream Mark Payload} {error : StreamError} :
    stream.collect.2 = .error error ↔
      ∃ (events : List (DomainEvent Payload)) (rest : List (StreamItem Payload)),
        stream.items = events.map .ok ++ .error error :: rest := by
  rw [collect_items]
  constructor
  · intro failed
    rcases exists_firstFailure stream.items with ⟨found, same⟩ | ⟨found, first, rest, same⟩
    · rw [same, collectItems_map_ok] at failed
      cases failed
    · rw [same, collectItems_firstFailure] at failed
      cases failed
      exact ⟨found, rest, same⟩
  · rintro ⟨events, rest, same⟩
    rw [same, collectItems_firstFailure]

/-- Whatever is done to a stream, looking at it, mapping and filtering it shows what the same
shows of the list of its items, and leaves as much.  Of what is left, `next` takes the first
item, `hasNext` tells whether there is one, and `peek` shows the item that the following
`next` takes.  Looks take the items in order.  Mapping and filtering change the events, each
once and in order, and keep the failures in their places; collecting gives all events, or the
first failure.  No mark is lost or performed twice. -/
theorem accessAll_eq_onItems (pulls : List (Pull Mark (StreamItem Payload)))
    (accesses : List (Access Payload)) :
    let source := ofPulls pulls
    let (marks, sights, left) := source.accessAll accesses
    (sights, left.items) = Access.allOnItems (Pull.items pulls) accesses ∧
    source.marks = marks ++ left.marks ∧
    (left.next.2.1 = left.items.head? ∧ left.next.2.2.items = left.items.tail) ∧
    (left.hasNext.2.1 = true ↔ left.items ≠ []) ∧
    (∀ looks : List Look, Look.next ∉ looks →
      let (_, _, later) := left.peek.2.2.accessAll (looks.map .look)
      later.next.2.1 = left.peek.2.1 ∧ later.items = left.items) ∧
    (∀ looks : List Look,
      let (_, seen, later) := left.accessAll (looks.map .look)
      left.items = seen.filterMap Sight.taken? ++ later.items) ∧
    (∀ (State : Type) (start : State)
      (transform : State → DomainEvent Payload → DomainEvent Payload × State),
      (left.mapWithState start transform).items =
        left.items.mapIdx fun place item =>
          let state := stateBehind (fun state event => (transform state event).2) start
            (left.items.take place)
          item.map fun event => (transform state event).1) ∧
    (∀ (State : Type) (start : State) (test : State → DomainEvent Payload → Bool × State),
      (left.filterWithState start test).items =
        List.flatten (left.items.mapIdx fun place item =>
          passing test
            (stateBehind (fun state event => (test state event).2) start
              (left.items.take place)) item)) ∧
    (∀ events, left.collect.2 = .ok events ↔ left.items = events.map .ok) ∧
    ∀ error, left.collect.2 = .error error ↔
      ∃ (events : List (DomainEvent Payload)) (rest : List (StreamItem Payload)),
        left.items = events.map .ok ++ .error error :: rest := by
  intro source
  have shows := accessAll_items source accesses
  have performed := marks_accessAll source accesses
  generalize source.accessAll accesses = outcome at shows performed ⊢
  obtain ⟨marks, sights, left⟩ := outcome
  refine ⟨shows, performed, next_eq_onItems left, ?_, ?_, items_eq_looks left,
    fun State => items_mapWithState left, fun State => items_filterWithState left,
    fun events => collect_eq_ok_iff, fun error => collect_eq_error_iff⟩
  · have found : left.hasNext.2.1 = left.items.head?.isSome := by
      rw [← (next_eq_onItems left).1, ← peek_item left]
      rfl
    rw [found]
    cases left.items <;> simp
  · intro looks quiet
    have later := items_looks left.peek.2.2 looks
    rw [List.count_eq_zero_of_not_mem quiet, List.drop_zero, items_peek] at later
    refine ⟨?_, later⟩
    rw [(next_eq_onItems _).1, later, peek_item, (next_eq_onItems left).1]

/-- The event that has been looked at is numbered as the first, when it is taken. -/
example (event : DomainEvent Payload) (error : StreamError) :
    let number (count : Nat) (event : DomainEvent Payload) : DomainEvent Payload × Nat :=
      ({ event with sequenceNumber := count }, count + 1)
    let stream : EventStream Mark Payload := ofItems [.ok event, .error error]
    (stream.accessAll [.look .peek, .map 0 number, .look .next]).2.1 =
      [.shown (some (.ok event)), .taken (some (.ok { event with sequenceNumber := 0 }))] :=
  rfl

end EventStream

end EventSourcing
