import EventSourcing.Aggregate.Configuration

/-!
# Handlers that do not look at whose event they handle

The first event of an aggregate is handled before the aggregate has an
identifier, so a handler may see another identifier in it when the history is
replayed.  Handlers of an entity tree that do not look at the identifier make no
difference between the two: the whole tree handles an event in the same way, to
whatever aggregate the event is attributed.
-/

namespace EventSourcing

/-- The event, attributed to an aggregate. -/
def DomainEvent.attributedTo {Payload : Type} (event : DomainEvent Payload)
    (id : AggregateId) : DomainEvent Payload :=
  { event with aggregateId := id }

@[simp] theorem DomainEvent.payload_attributedTo {Payload : Type} (event : DomainEvent Payload)
    (id : AggregateId) : (event.attributedTo id).payload = event.payload := rfl

mutual

/-- No handler of the entity or of its descendants looks at the aggregate to
which an event is attributed. -/
def EntityModel.IgnoresAggregateId {Payload Entity : Type} :
    EntityModel Payload Entity → Prop
  | .mk handlers groups =>
    (∀ type handler, handlers.get? type = some handler →
      ∀ entity event id, handler entity (event.attributedTo id) = handler entity event) ∧
    groups.IgnoreAggregateId

/-- No handler of the children looks at the aggregate to which an event is
attributed. -/
def ChildGroups.IgnoreAggregateId {Payload Entity : Type} :
    ChildGroups Payload Entity → Prop
  | .nil => True
  | .cons _ model rest => model.IgnoresAggregateId ∧ rest.IgnoreAggregateId

end

namespace EntityModel

variable {Payload Entity Child Value : Type}

/-! ## Declaring such models -/

@[simp] theorem ignoresAggregateId_empty :
    (empty : EntityModel Payload Entity).IgnoresAggregateId := by
  refine ⟨?_, trivial⟩
  intro type handler found
  simp at found

/-- A further handler that does not look at the identifier changes nothing. -/
theorem ignoresAggregateId_onType {model : EntityModel Payload Entity}
    (ignores : model.IgnoresAggregateId) (type : PayloadType)
    {handler : EventHandler Payload Entity}
    (handlerIgnores : ∀ entity event id,
      handler entity (event.attributedTo id) = handler entity event) :
    (model.onType type handler).IgnoresAggregateId := by
  obtain ⟨handlers, groups⟩ := model
  refine ⟨?_, ignores.2⟩
  intro other found isFound
  simp only [EntityModel.handlers, Table.get?_put] at isFound
  split at isFound
  · cases isFound
    exact handlerIgnores
  · exact ignores.1 other found isFound

variable [PayloadFamily Payload]

/-- A handler of the values of a payload kind does not see the identifier. -/
theorem ignoresAggregateId_on {model : EntityModel Payload Entity}
    (ignores : model.IgnoresAggregateId) (kind : PayloadKind Payload Value)
    (handler : Entity → Value → Entity) :
    (model.on kind handler).IgnoresAggregateId := by
  apply ignoresAggregateId_onType ignores
  intro entity event id
  rfl

omit [PayloadFamily Payload] in
theorem ignoreAggregateId_push {groups : ChildGroups Payload Entity}
    (ignore : groups.IgnoreAggregateId) (access : ChildAccess Entity Child)
    {childModel : EntityModel Payload Child} (childIgnores : childModel.IgnoresAggregateId) :
    (groups.push access childModel).IgnoreAggregateId := by
  match groups, ignore with
  | .nil, _ => exact ⟨childIgnores, trivial⟩
  | .cons _ _ rest, ignore =>
    exact ⟨ignore.1, ignoreAggregateId_push ignore.2 access childIgnores⟩

omit [PayloadFamily Payload] in
/-- Children that do not look at the identifier may be added. -/
theorem ignoresAggregateId_withChildren {model : EntityModel Payload Entity}
    (ignores : model.IgnoresAggregateId) (access : ChildAccess Entity Child)
    {childModel : EntityModel Payload Child} (childIgnores : childModel.IgnoresAggregateId) :
    (model.withChildren access childModel).IgnoresAggregateId := by
  obtain ⟨handlers, groups⟩ := model
  exact ⟨ignores.1, ignoreAggregateId_push ignores.2 access childIgnores⟩

/-! ## Handling an event -/

mutual

/-- An entity tree that does not look at the identifier handles an event in the
same way, to whatever aggregate it is attributed. -/
theorem handle_attributedTo {Entity : Type} (event : DomainEvent Payload) (id : AggregateId) :
    ∀ (model : EntityModel Payload Entity) (entity : Entity), model.IgnoresAggregateId →
      handle (event.attributedTo id) model entity = handle event model entity
  | .mk handlers groups, entity, ignores => by
    simp only [handle, DomainEvent.payload_attributedTo]
    cases found : handlers.get? (typeOf event.payload) with
    | none => exact handleGroups_attributedTo event id groups entity ignores.2
    | some handler =>
      have same := ignores.1 _ handler found entity event id
      simp only [same, handleGroups_attributedTo event id groups _ ignores.2]

theorem handleGroups_attributedTo {Entity : Type} (event : DomainEvent Payload)
    (id : AggregateId) :
    ∀ (groups : ChildGroups Payload Entity) (entity : Entity), groups.IgnoreAggregateId →
      handleGroups (event.attributedTo id) groups entity = handleGroups event groups entity
  | .nil, _, _ => rfl
  | .cons access model rest, entity, ignore => by
    have sameChild : (fun child => handle (event.attributedTo id) model child) =
        fun child => handle event model child := by
      funext child
      exact handle_attributedTo event id model child ignore.1
    simp only [handleGroups, sameChild, handleGroups_attributedTo event id rest _ ignore.2]

end

end EntityModel

namespace AggregateConfiguration

variable {Payload : Type} [PayloadFamily Payload] {State : Type}

/-- The state after an event does not depend on the aggregate to which the event
is attributed. -/
theorem evolve_attributedTo {configuration : AggregateConfiguration Payload State}
    (ignores : configuration.entity.IgnoresAggregateId) (state : State)
    (event : DomainEvent Payload) (id : AggregateId) :
    configuration.evolve state (event.attributedTo id) = configuration.evolve state event :=
  congrArg Prod.fst (EntityModel.handle_attributedTo event id configuration.entity state ignores)

end AggregateConfiguration

end EventSourcing
