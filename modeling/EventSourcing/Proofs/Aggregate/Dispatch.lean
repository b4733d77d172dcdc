import EventSourcing.Proofs.Aggregate.Meter

/-!
# How an event walks an entity tree

An entity model is declared by calls: handlers are registered for payload types, and
groups of children with models of their own (`EntityDeclaration`).  An event walks the
tree that an entity then is (`EntityDeclaration.Walk`): the entity reacts by the handler
that was registered last for the type of the payload, and then its groups are walked in
the order of their registration, each child that the entity has when its group comes, so
also one that the reaction itself has added.  Handling an event follows this walk, and
counts the visits at which there was a reaction (`EntityDeclaration.handle_walks`).
-/

namespace EventSourcing

/-- Every payload of the type of a kind is one of its values: types are told apart by
their identity. -/
def PayloadKind.IsExact {Payload Value : Type} [PayloadFamily Payload]
    (kind : PayloadKind Payload Value) : Prop :=
  ∀ payload, typeOf payload = kind.type → (kind.project payload).isSome

theorem AggregateModel.entity_of_configure {Payload State : Type} [PayloadFamily Payload]
    {model : AggregateModel Payload State} {configuration : AggregateConfiguration Payload State}
    (configured : model.configure = .ok configuration) : configuration.entity = model.entity := by
  unfold configure at configured
  split at configured
  · cases configured
  · dsimp only at configured
    split at configured
    · cases configured
    · obtain rfl := Except.ok.inj configured
      rfl

/-! ## Declarations -/

/-- The calls that declare an entity model, the last one outermost. -/
inductive EntityDeclaration (Payload : Type) [PayloadFamily Payload] : Type → Type 1 where
  | empty {Entity : Type} : EntityDeclaration Payload Entity
  | onEvent {Entity Value : Type} (earlier : EntityDeclaration Payload Entity)
      (kind : PayloadKind Payload Value) (exact : kind.IsExact)
      (handler : Entity → Value → DomainEvent Payload → Entity) :
      EntityDeclaration Payload Entity
  | withChildren {Entity Child : Type} (earlier : EntityDeclaration Payload Entity)
      (access : ChildAccess Entity Child) (children : EntityDeclaration Payload Child) :
      EntityDeclaration Payload Entity

namespace EntityModel

variable {Payload Entity Child : Type} [PayloadFamily Payload]

/-! ## Handling by an entity and by its groups -/

/-- What an entity itself makes of an event, if it has a handler for the payload. -/
def reaction? (model : EntityModel Payload Entity) (event : DomainEvent Payload)
    (entity : Entity) : Option Entity :=
  (model.handler? (typeOf event.payload)).map fun handler => handler entity event

/-- The groups handle an event after the entity itself. -/
theorem handle_eq (model : EntityModel Payload Entity) (event : DomainEvent Payload)
    (entity : Entity) :
    model.handle event entity =
      let own := model.reaction? event entity
      let below := handleGroups event model.groups (own.getD entity)
      (below.1, below.2 + own.isSome.toNat) := by
  obtain ⟨handlers, groups⟩ := model
  rw [handle]
  cases found : handlers.get? (typeOf event.payload) with
  | none => simp only [reaction?, handler?, EntityModel.handlers, EntityModel.groups, found,
      Option.map_none, Option.getD_none, Option.isSome_none, Bool.toNat_false, Nat.add_zero]
  | some handler => simp only [reaction?, handler?, EntityModel.handlers, EntityModel.groups,
      found, Option.map_some, Option.getD_some, Option.isSome_some, Bool.toNat_true]

/-- The group that is registered last handles an event after the others. -/
theorem handleGroups_push (event : DomainEvent Payload) (access : ChildAccess Entity Child)
    (model : EntityModel Payload Child) (groups : ChildGroups Payload Entity) (entity : Entity) :
    handleGroups event (groups.push access model) entity =
      let before := handleGroups event groups entity
      let children := (access.get before.1).map (handle event model)
      (access.set before.1 (children.map Prod.fst),
        before.2 + (children.map Prod.snd).foldr (· + ·) 0) := by
  match groups with
  | .nil => simp only [ChildGroups.push, handleGroups, Nat.add_zero, Nat.zero_add]
  | .cons first firstModel rest =>
    simp only [ChildGroups.push, handleGroups, handleGroups_push event access model rest,
      Nat.add_assoc]

end EntityModel

namespace EntityDeclaration

variable {Payload : Type} [PayloadFamily Payload] {Entity Child Value : Type}

/-- Registers a handler that does not see the event. -/
def on (earlier : EntityDeclaration Payload Entity) (kind : PayloadKind Payload Value)
    (exact : kind.IsExact) (handler : Entity → Value → Entity) :
    EntityDeclaration Payload Entity :=
  earlier.onEvent kind exact fun entity value _ => handler entity value

/-- The model that has been declared. -/
def model {Entity : Type} : EntityDeclaration Payload Entity → EntityModel Payload Entity
  | .empty => .empty
  | .onEvent earlier kind _ handler => earlier.model.onEvent kind handler
  | .withChildren earlier access children => earlier.model.withChildren access children.model

theorem model_on (earlier : EntityDeclaration Payload Entity) (kind : PayloadKind Payload Value)
    (exact : kind.IsExact) (handler : Entity → Value → Entity) :
    (earlier.on kind exact handler).model = earlier.model.on kind handler := rfl

/-- What the handler that was registered last for the type of the payload makes of an
entity. -/
def reaction? {Entity : Type} (event : DomainEvent Payload) :
    EntityDeclaration Payload Entity → Entity → Option Entity
  | .empty, _ => none
  | .onEvent earlier kind _ handler, entity =>
    if kind.type = typeOf event.payload then
      (kind.project event.payload).map fun value => handler entity value event
    else earlier.reaction? event entity
  | .withChildren earlier _ _, entity => earlier.reaction? event entity

/-- The handler that the model finds in its table is the one that was registered last for
the type. -/
theorem reaction?_model (declaration : EntityDeclaration Payload Entity)
    (event : DomainEvent Payload) (entity : Entity) :
    declaration.model.reaction? event entity = declaration.reaction? event entity := by
  induction declaration with
  | empty => rfl
  | withChildren earlier access children ih => exact ih entity
  | onEvent earlier kind exact handler ih =>
    rw [reaction?, ← ih]
    simp only [model, EntityModel.onEvent, EntityModel.onType, EntityModel.reaction?,
      EntityModel.handler?, EntityModel.handlers, Table.get?_put]
    by_cases own : kind.type = typeOf event.payload
    · obtain ⟨value, projected⟩ := Option.isSome_iff_exists.mp (exact event.payload own.symm)
      simp only [own, ↓reduceIte, Option.map_some, projected]
    · simp only [own, Ne.symm own, ↓reduceIte]

theorem isSome_reaction? (declaration : EntityDeclaration Payload Entity)
    (event : DomainEvent Payload) (entity : Entity) :
    (declaration.reaction? event entity).isSome =
      declaration.model.handles (typeOf event.payload) := by
  rw [← reaction?_model, EntityModel.reaction?, Option.isSome_map]
  rfl

/-! ## Walks -/

variable (Payload) in
/-- An entity that an event comes to, with the calls that declare it. -/
structure Visit where
  {Entity : Type}
  declaration : EntityDeclaration Payload Entity
  entity : Entity

/-- Whether a handler runs at a visit. -/
def Visit.runs (event : DomainEvent Payload) (visit : Visit Payload) : Bool :=
  (visit.declaration.reaction? event visit.entity).isSome

mutual

/-- An event walks an entity with all its descendants: the entities that it comes to, in
order, and what becomes of the entity.  The entity itself comes first. -/
inductive Walk (event : DomainEvent Payload) : {Entity : Type} →
    EntityDeclaration Payload Entity → Entity → List (Visit Payload) → Entity → Prop
  | enter {Entity : Type} {declaration : EntityDeclaration Payload Entity}
      {entity after : Entity} {visits : List (Visit Payload)} :
      Descent event declaration ((declaration.reaction? event entity).getD entity) visits after →
      Walk event declaration entity (⟨declaration, entity⟩ :: visits) after

/-- An event walks the groups of an entity in the order of their registration, each with
the children that the entity has after the groups before. -/
inductive Descent (event : DomainEvent Payload) : {Entity : Type} →
    EntityDeclaration Payload Entity → Entity → List (Visit Payload) → Entity → Prop
  | empty {Entity : Type} {entity : Entity} : Descent event .empty entity [] entity
  | onEvent {Entity Value : Type} {earlier : EntityDeclaration Payload Entity}
      {kind : PayloadKind Payload Value} {exact : kind.IsExact}
      {handler : Entity → Value → DomainEvent Payload → Entity} {entity after : Entity}
      {visits : List (Visit Payload)} :
      Descent event earlier entity visits after →
      Descent event (.onEvent earlier kind exact handler) entity visits after
  | withChildren {Entity Child : Type} {earlier : EntityDeclaration Payload Entity}
      {access : ChildAccess Entity Child} {children : EntityDeclaration Payload Child}
      {entity between : Entity} {changed : List Child} {visits others : List (Visit Payload)} :
      Descent event earlier entity visits between →
      Round event children (access.get between) others changed →
      Descent event (.withChildren earlier access children) entity (visits ++ others)
        (access.set between changed)

/-- An event walks the children of a group, one after another. -/
inductive Round (event : DomainEvent Payload) : {Child : Type} →
    EntityDeclaration Payload Child → List Child → List (Visit Payload) → List Child → Prop
  | nil {Child : Type} {declaration : EntityDeclaration Payload Child} :
      Round event declaration [] [] []
  | cons {Child : Type} {declaration : EntityDeclaration Payload Child} {child after : Child}
      {rest restAfter : List Child} {visits others : List (Visit Payload)} :
      Walk event declaration child visits after →
      Round event declaration rest others restAfter →
      Round event declaration (child :: rest) (visits ++ others) (after :: restAfter)

end

variable {event : DomainEvent Payload} {declaration : EntityDeclaration Payload Entity}

/-! ## One walk only -/

/-- There is at most one walk of an entity of a declaration. -/
def WalksOnce (event : DomainEvent Payload) (declaration : EntityDeclaration Payload Entity) :
    Prop :=
  ∀ {entity after final : Entity} {visits others : List (Visit Payload)},
    Walk event declaration entity visits after → Walk event declaration entity others final →
      others = visits ∧ final = after

theorem Round.unique (once : WalksOnce event declaration) {children after final : List Entity}
    {visits others : List (Visit Payload)} (first : Round event declaration children visits after)
    (second : Round event declaration children others final) : others = visits ∧ final = after := by
  induction children generalizing visits others after final with
  | nil =>
    cases first
    cases second
    exact ⟨rfl, rfl⟩
  | cons child rest ih =>
    cases first with
    | cons firstChild firstRest =>
      cases second with
      | cons secondChild secondRest =>
        obtain ⟨rfl, rfl⟩ := once firstChild secondChild
        obtain ⟨rfl, rfl⟩ := ih firstRest secondRest
        exact ⟨rfl, rfl⟩

theorem Descent.unique {entity after final : Entity} {visits others : List (Visit Payload)}
    (first : Descent event declaration entity visits after)
    (second : Descent event declaration entity others final) :
    others = visits ∧ final = after := by
  induction declaration generalizing visits others with
  | empty =>
    cases first
    cases second
    exact ⟨rfl, rfl⟩
  | onEvent earlier kind exact handler ih =>
    cases first with
    | onEvent first =>
      cases second with
      | onEvent second => exact ih first second
  | withChildren earlier access children ihEarlier ihChildren =>
    cases first with
    | withChildren firstEarlier firstRound =>
      cases second with
      | withChildren secondEarlier secondRound =>
        -- The groups in front lead to one state, so both rounds are of the same children.
        obtain ⟨rfl, rfl⟩ := ihEarlier firstEarlier secondEarlier
        have once : WalksOnce event children := by
          rintro _ _ _ _ _ ⟨firstDescent⟩ ⟨secondDescent⟩
          obtain ⟨rfl, rfl⟩ := ihChildren firstDescent secondDescent
          exact ⟨rfl, rfl⟩
        obtain ⟨rfl, rfl⟩ := firstRound.unique once secondRound
        exact ⟨rfl, rfl⟩

theorem walksOnce (event : DomainEvent Payload) (declaration : EntityDeclaration Payload Entity) :
    WalksOnce event declaration := by
  rintro _ _ _ _ _ ⟨first⟩ ⟨second⟩
  obtain ⟨rfl, rfl⟩ := first.unique second
  exact ⟨rfl, rfl⟩

/-! ## Handling is walking -/

/-- An outcome is what a walk ends with, together with the number of its visits at which a
handler runs. -/
def Tallies {Result : Type} (event : DomainEvent Payload)
    (walk : List (Visit Payload) → Result → Prop) (outcome : Result × Nat) : Prop :=
  ∃ visits, walk visits outcome.1 ∧ outcome.2 = visits.countP (Visit.runs event)

theorem tallies_round
    (walks : ∀ entity, Tallies event (Walk event declaration entity)
      (declaration.model.handle event entity)) (children : List Entity) :
    let outcomes := children.map (declaration.model.handle event)
    Tallies event (Round event declaration children)
      (outcomes.map Prod.fst, (outcomes.map Prod.snd).foldr (· + ·) 0) := by
  induction children with
  | nil => exact ⟨[], .nil, rfl⟩
  | cons child rest ih =>
    obtain ⟨visits, walk, count⟩ := walks child
    obtain ⟨others, round, total⟩ := ih
    refine ⟨visits ++ others, .cons walk round, ?_⟩
    rw [List.countP_append, ← count, ← total]
    rfl

theorem tallies_walk
    (descends : ∀ entity, Tallies event (Descent event declaration entity)
      (EntityModel.handleGroups event declaration.model.groups entity)) (entity : Entity) :
    Tallies event (Walk event declaration entity) (declaration.model.handle event entity) := by
  obtain ⟨visits, descent, count⟩ := descends ((declaration.reaction? event entity).getD entity)
  rw [EntityModel.handle_eq, reaction?_model]
  refine ⟨⟨declaration, entity⟩ :: visits, .enter descent, ?_⟩
  rw [List.countP_cons, ← count]
  cases reacts : declaration.reaction? event entity with
  | none => simp only [Visit.runs, reacts, Option.isSome_none, Bool.toNat_false, Bool.false_eq_true,
      ↓reduceIte]
  | some after => simp only [Visit.runs, reacts, Option.isSome_some, Bool.toNat_true, ↓reduceIte]

/-- By induction on the calls: the group of the last one is walked from where the groups
before have led. -/
theorem tallies_descent (event : DomainEvent Payload)
    (declaration : EntityDeclaration Payload Entity) (entity : Entity) :
    Tallies event (Descent event declaration entity)
      (EntityModel.handleGroups event declaration.model.groups entity) := by
  induction declaration with
  | empty => exact ⟨[], .empty, rfl⟩
  | onEvent earlier kind exact handler ih =>
    obtain ⟨visits, descent, count⟩ := ih entity
    exact ⟨visits, .onEvent descent, count⟩
  | withChildren earlier access children ihEarlier ihChildren =>
    obtain ⟨visits, descent, count⟩ := ihEarlier entity
    obtain ⟨others, round, total⟩ := tallies_round (tallies_walk ihChildren)
      (access.get (EntityModel.handleGroups event earlier.model.groups entity).1)
    have pushed : (withChildren earlier access children).model.groups =
        earlier.model.groups.push access children.model := rfl
    rw [pushed, EntityModel.handleGroups_push]
    refine ⟨visits ++ others, .withChildren descent round, ?_⟩
    rw [List.countP_append, ← count, ← total]

/-! ## Walks without reactions -/

mutual

/-- Where no handler runs the entity stays as it is. -/
theorem Walk.unchanged {Entity : Type} {declaration : EntityDeclaration Payload Entity}
    {entity after : Entity} {visits : List (Visit Payload)} :
    Walk event declaration entity visits after → (∀ visit ∈ visits, visit.runs event = false) →
      after = entity
  | .enter descent, quiet => by
    obtain ⟨own, below⟩ := List.forall_mem_cons.mp quiet
    have silent : declaration.reaction? event entity = none :=
      Option.isNone_iff_eq_none.mp (Option.isSome_eq_false_iff.mp own)
    have same := descent.unchanged below
    rw [silent] at same
    exact same

theorem Descent.unchanged {Entity : Type} {declaration : EntityDeclaration Payload Entity}
    {entity after : Entity} {visits : List (Visit Payload)} :
    Descent event declaration entity visits after →
      (∀ visit ∈ visits, visit.runs event = false) → after = entity
  | .empty, _ => rfl
  | .onEvent descent, quiet => descent.unchanged quiet
  | .withChildren descent round, quiet => by
    obtain ⟨before, children⟩ := List.forall_mem_append.mp quiet
    rw [round.unchanged children, descent.unchanged before]
    exact ChildAccess.set_get _ entity

theorem Round.unchanged {Child : Type} {declaration : EntityDeclaration Payload Child}
    {children after : List Child} {visits : List (Visit Payload)} :
    Round event declaration children visits after →
      (∀ visit ∈ visits, visit.runs event = false) → after = children
  | .nil, _ => rfl
  | .cons walk round, quiet => by
    obtain ⟨first, others⟩ := List.forall_mem_append.mp quiet
    rw [walk.unchanged first, round.unchanged others]

end

/-! ## Registering again -/

section Registering

variable (declaration) {kind : PayloadKind Payload Value} (exact : kind.IsExact)
  (handler : Entity → Value → DomainEvent Payload → Entity)

/-- A further handler makes no difference to the events of other types. -/
theorem handle_onEvent_of_ne (other : kind.type ≠ typeOf event.payload) (entity : Entity) :
    (declaration.onEvent kind exact handler).model.handle event entity =
      declaration.model.handle event entity := by
  rw [EntityModel.handle_eq, EntityModel.handle_eq, reaction?_model, reaction?_model, reaction?,
    if_neg other]
  rfl

/-- To the events of its type an entity reacts by the further handler, whatever has been
registered for them before; its groups are as they were. -/
theorem handle_onEvent_of_project {value : Value}
    (projected : kind.project event.payload = some value) (entity : Entity) :
    (declaration.onEvent kind exact handler).model.handle event entity =
      let below := EntityModel.handleGroups event declaration.model.groups
        (handler entity value event)
      (below.1, below.2 + 1) := by
  have ownType : kind.type = typeOf event.payload := by
    rw [← kind.inject_project _ _ projected, kind.typeOf_inject]
  rw [EntityModel.handle_eq, reaction?_model, reaction?, if_pos ownType, projected]
  rfl

end Registering

/-! ## Aggregates -/

/-- Makes the calls of a declaration on the model of an aggregate. -/
def onAggregate (aggregate : AggregateModel Payload Entity) :
    EntityDeclaration Payload Entity → AggregateModel Payload Entity
  | .empty => aggregate
  | .onEvent earlier kind _ handler => (earlier.onAggregate aggregate).onEvent kind handler
  | .withChildren earlier access children =>
    (earlier.onAggregate aggregate).withChildren access children.model

theorem entity_onAggregate {aggregate : AggregateModel Payload Entity}
    (bare : aggregate.entity = .empty) (declaration : EntityDeclaration Payload Entity) :
    (onAggregate aggregate declaration).entity = declaration.model := by
  induction declaration with
  | empty => exact bare
  | onEvent earlier kind exact handler ih => exact congrArg (·.onEvent kind handler) (ih bare)
  | withChildren earlier access children ih _ =>
    exact congrArg (·.withChildren access children.model) (ih bare)

/-- Whatever calls have declared an entity model, there is exactly one walk of an event
through a target, and handling the event does what this walk does: it ends with the same
target, and the number that is returned is that of the visits at which a handler runs.
The number is zero if and only if no table on the walk has a handler for the type of the
payload, and then the target is as it was.  A further handler replaces what has been
registered for its type at this entity, and nothing else.  A configuration of an aggregate
that the same calls have declared handles events in the same way. -/
theorem handle_walks (declaration : EntityDeclaration Payload Entity) :
    (∀ (event : DomainEvent Payload) (target : Entity),
      let outcome := declaration.model.handle event target
      ∃ visits, Walk event declaration target visits outcome.1 ∧
        (∀ others final, Walk event declaration target others final →
          others = visits ∧ final = outcome.1) ∧
        outcome.2 = visits.countP (Visit.runs event) ∧
        (outcome.2 = 0 ↔
          ∀ visit ∈ visits, visit.declaration.model.handles (typeOf event.payload) = false) ∧
        (outcome.2 = 0 → outcome.1 = target)) ∧
    (∀ (Value : Type) (kind : PayloadKind Payload Value) (exact : kind.IsExact)
        (handler : Entity → Value → DomainEvent Payload → Entity) (event : DomainEvent Payload)
        (target : Entity),
      let outcome := (declaration.onEvent kind exact handler).model.handle event target
      (kind.type ≠ typeOf event.payload → outcome = declaration.model.handle event target) ∧
      (kind.type = typeOf event.payload → ∃ value, kind.project event.payload = some value ∧
        let below := EntityModel.handleGroups event declaration.model.groups
          (handler target value event)
        outcome = (below.1, below.2 + 1))) ∧
    ∀ (aggregate : AggregateModel Payload Entity)
      (configuration : AggregateConfiguration Payload Entity), aggregate.entity = .empty →
      (declaration.onAggregate aggregate).configure = .ok configuration → ∀ event target,
        configuration.handle target event = declaration.model.handle event target := by
  refine ⟨?_, ?_, ?_⟩
  · intro event target outcome
    obtain ⟨visits, walk, count⟩ := tallies_walk (tallies_descent event declaration) target
    have quiet : outcome.2 = 0 ↔ ∀ visit ∈ visits, visit.runs event = false := by
      rw [show outcome.2 = _ from count, List.countP_eq_zero]
      simp only [Bool.not_eq_true]
    refine ⟨visits, walk, fun others final other => walksOnce event declaration walk other,
      count, ?_, fun none => walk.unchanged (quiet.mp none)⟩
    simp only [quiet, Visit.runs, isSome_reaction?]
  · intro Value kind exact handler event target outcome
    refine ⟨fun other => handle_onEvent_of_ne declaration exact handler other target, ?_⟩
    intro own
    obtain ⟨value, projected⟩ := Option.isSome_iff_exists.mp (exact event.payload own.symm)
    exact ⟨value, projected, handle_onEvent_of_project declaration exact handler projected target⟩
  · intro aggregate configuration bare configured event target
    rw [AggregateConfiguration.handle, AggregateModel.entity_of_configure configured,
      entity_onAggregate bare]

end EntityDeclaration

namespace Meter

open MeterPayload

theorem measurement_isExact : measurement.IsExact := by
  intro payload own
  cases payload with
  | measured amount => rfl
  | installed id registers =>
    exact absurd own (by decide : (⟨"Installed"⟩ : PayloadType) ≠ ⟨"Measured"⟩)
  | reading meter => exact absurd own (by decide : (⟨"Meter"⟩ : PayloadType) ≠ ⟨"Measured"⟩)
  | unreadable document =>
    exact absurd own (by decide : (⟨"Unreadable"⟩ : PayloadType) ≠ ⟨"Measured"⟩)

/-- A meter that gets a further register whenever something is measured. -/
def growing : EntityDeclaration MeterPayload Meter :=
  (EntityDeclaration.empty.on measurement measurement_isExact fun meter _ =>
      { meter with registers := meter.registers ++ [0] }).withChildren registerAccess
    (EntityDeclaration.empty.on measurement measurement_isExact fun count amount => count + amount)

/-- The register that a measurement adds counts this measurement already: with the meter
and its first register, three handlers run. -/
theorem handle_walks_of_growing_meter :
    let event : DomainEvent MeterPayload :=
      .ofStamp ⟨EventId.ofNat 1, default⟩ ⟨"m"⟩ 0 (.measured 5) .empty
    ∃ visits, EntityDeclaration.Walk event growing { registers := [2] } visits
        { registers := [7, 5] } ∧
      visits.countP (EntityDeclaration.Visit.runs event) = 3 := by
  intro event
  obtain ⟨walks, -, -⟩ := growing.handle_walks
  obtain ⟨visits, walk, -, count, -⟩ := walks event { registers := [2] }
  exact ⟨visits, walk, count.symm⟩

end Meter

end EventSourcing
