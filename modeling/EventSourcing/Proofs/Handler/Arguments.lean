import EventSourcing.Handler.Inspection
import EventSourcing.Proofs.EventStore.RoundTrip
import EventSourcing.Proofs.Handler.Priorities

/-!
# Arguments of handlers

Type, marks and place of a parameter decide where its value comes from
(`Parameter.source?`).  Inspection with the factories for the parts of an event and for
resources finds a resolver for just this source, whichever factories stand in front, and
refuses a handler if a parameter has no source, asks for a resource that there is not, or
for another payload than the handler declares.  A handler that matches an event gets one
value for each parameter, in their order, and each is what its source has in the event
(`Member.inspectAll_supplies`).
-/

namespace EventSourcing

/-! ## Sources -/

/-- Where a parameter takes its value from. -/
inductive ParameterSource where
  | message
  | domainEvent
  | metadataEntry (key : String) (kind : ValueKind) (mandatory : Bool)
  | metadata
  | timestamp
  | sequenceNumber
  | payload (type : PayloadType)
  | resource (type : PayloadType)

/-- The source of a parameter by its place: events come first, then entries of metadata by
the first mark for one, then what the type asks for.  Time and number of an event have to
be marked as such, and only the first parameter can be the payload. -/
def Parameter.source? (parameter : Parameter) (index : Nat) : Option ParameterSource :=
  match parameter.type, parameter.metadataMark? with
  | .message, _ => some .message
  | .domainEvent, _ => some .domainEvent
  | .value kind primitive, some (key, required) =>
    some (.metadataEntry key kind (primitive || required))
  | _, some (key, required) => some (.metadataEntry key .any required)
  | .metadata, none => some .metadata
  | .timestamp, none => if .timestamp ∈ parameter.marks then some .timestamp else none
  | .sequenceNumber, none =>
    if .sequenceNumber ∈ parameter.marks then some .sequenceNumber else none
  | .payload type, none => if index = 0 then some (.payload type) else none
  | .resource type, none => some (.resource type)
  | .value _ _, none => none

section Supplies

variable {Payload : Type} [PayloadFamily Payload]

namespace ParameterSource

/-- What a source has in an event: the event, which must be a domain event where one is
asked for; the entry of its metadata, which must be there and of the kind where it is
mandatory; its metadata, time, number or payload; or a resource. -/
def Supplies (resources : List Payload) (event : Event Payload) :
    ParameterSource → ParameterValue Payload → Prop
  | .message, value => value = .message event
  | .domainEvent, value => value = .message event ∧ ∃ own, event = .domain own
  | .metadataEntry key kind mandatory, value =>
    value = .value (event.message.metadata.get? key) ∧
      (mandatory = true →
        ∃ json, event.message.metadata.get? key = some json ∧ kind.accepts json = true)
  | .metadata, value => value = .metadata event.message.metadata
  | .timestamp, value => value = .timestamp event.message.timestamp
  | .sequenceNumber, value =>
    ∃ own, event = .domain own ∧ value = .sequenceNumber own.sequenceNumber
  | .payload type, value =>
    value = .payload event.message.payload ∧ typeOf event.message.payload = type
  | .resource type, value => ∃ resource ∈ resources, typeOf resource = type ∧
      value = .resource resource

/-- Whether a handler can have a source at all: a resource must be there, and the payload
must be of the type that the handler declares, if it declares one. -/
def IsOffered (resources : List Payload) (declared : Option PayloadType) :
    ParameterSource → Prop
  | .payload type => ∀ other, declared = some other → other = type
  | .resource type => ∃ resource ∈ resources, typeOf resource = type
  | _ => True

end ParameterSource

/-- Whether a parameter has a source that the handler can have. -/
def Parameter.IsServed (resources : List Payload) (declared : Option PayloadType)
    (parameter : Parameter) (index : Nat) : Prop :=
  ∃ source, parameter.source? index = some source ∧ source.IsOffered resources declared

/-- One value for each parameter, in their order, each from its source. -/
def Receives (resources : List Payload) (event : Event Payload) (parameters : List Parameter)
    (values : List (ParameterValue Payload)) : Prop :=
  List.Forall₂ (fun placed value => ∃ source, placed.1.source? placed.2 = some source ∧
    source.Supplies resources event value) parameters.zipIdx values

/-- A resolver that finds what a source has. -/
inductive Resolver.Finds (resources : List Payload) : Resolver Payload → ParameterSource → Prop
  | message : Finds resources (.message false) .message
  | domainEvent : Finds resources (.message true) .domainEvent
  | metadataEntry (key : String) (kind : ValueKind) (mandatory : Bool) :
    Finds resources (.metadataEntry key kind mandatory) (.metadataEntry key kind mandatory)
  | metadata : Finds resources .metadata .metadata
  | timestamp : Finds resources .timestamp .timestamp
  | sequenceNumber : Finds resources .sequenceNumber .sequenceNumber
  | payload (type : PayloadType) : Finds resources (.payload type) (.payload type)
  | resource {resource : Payload} (isResource : resource ∈ resources) :
    Finds resources (.fixed (.resource resource)) (.resource (typeOf resource))

variable {resources : List Payload} {resolver : Resolver Payload} {source : ParameterSource}
  {event : Event Payload}

theorem Resolver.Finds.supplies (finds : resolver.Finds resources source)
    (matched : resolver.isMatch event = true) :
    source.Supplies resources event (resolver.resolve event) := by
  cases finds with
  | message => rfl
  | domainEvent =>
    cases event with
    | plain message => simp [Resolver.isMatch, Event.domain?] at matched
    | domain own => exact ⟨rfl, own, rfl⟩
  | metadataEntry key kind mandatory =>
    refine ⟨rfl, fun isMandatory => ?_⟩
    simpa [Resolver.isMatch, isMandatory, Option.any_eq_true] using matched
  | metadata => rfl
  | timestamp => rfl
  | sequenceNumber =>
    cases event with
    | plain message => simp [Resolver.isMatch, Event.domain?] at matched
    | domain own => exact ⟨own, rfl, rfl⟩
  | payload type => exact ⟨rfl, beq_iff_eq.mp matched⟩
  | resource isResource => exact ⟨_, isResource, rfl, rfl⟩

/-- A resolver matches an event if the source has anything in it. -/
theorem Resolver.Finds.isMatch_iff (finds : resolver.Finds resources source) :
    resolver.isMatch event = true ↔ ∃ value, source.Supplies resources event value := by
  refine ⟨fun matched => ⟨_, finds.supplies matched⟩, ?_⟩
  rintro ⟨value, supplies⟩
  cases finds with
  | message => rfl
  | domainEvent =>
    obtain ⟨-, own, rfl⟩ := supplies
    rfl
  | metadataEntry key kind mandatory =>
    cases mandatory with
    | false => rfl
    | true => simpa [Resolver.isMatch, Option.any_eq_true] using supplies.2 rfl
  | metadata => rfl
  | timestamp => rfl
  | sequenceNumber =>
    obtain ⟨own, rfl, -⟩ := supplies
    rfl
  | payload type => exact beq_iff_eq.mpr supplies.2
  | resource isResource => rfl

end Supplies

namespace ResolverFactory

variable {Payload : Type} [PayloadFamily Payload] {resources : List Payload}
  {factories : List (ResolverFactory Payload)} {marks : List MemberMark} {parameter : Parameter}

/-! ## The factories for events and resources -/

/-- Whether factories are those for the parts of an event and for resources, in any order
and in composites or not. -/
def AreStandard (factories : List (ResolverFactory Payload)) (resources : List Payload) : Prop :=
  (factories.flatMap delegates).Perm
    ([message, timestamp, sequenceNumber] ++ resources.map resource)

theorem AreStandard.mem_iff (standard : AreStandard factories resources)
    {delegate : ResolverFactory Payload} :
    delegate ∈ factories.flatMap delegates ↔
      delegate = message ∨ delegate = timestamp ∨ delegate = sequenceNumber ∨
        ∃ content ∈ resources, resource content = delegate := by
  rw [List.Perm.mem_iff standard]
  simp

theorem finds_of_createForMessage {resolver : Resolver Payload}
    (accepted : createForMessage parameter = some resolver) (index : Nat)
    (declared : Option PayloadType) :
    ∃ source, parameter.source? index = some source ∧ resolver.Finds resources source ∧
      source.IsOffered resources declared := by
  unfold createForMessage at accepted
  split at accepted
  next isMessage =>
    obtain rfl := Option.some.inj accepted
    exact ⟨.message, by simp [Parameter.source?, isMessage], .message, trivial⟩
  next isDomainEvent =>
    obtain rfl := Option.some.inj accepted
    exact ⟨.domainEvent, by simp [Parameter.source?, isDomainEvent], .domainEvent, trivial⟩
  next isValue marked =>
    obtain rfl := Option.some.inj accepted
    exact ⟨_, by simp [Parameter.source?, isValue, marked], .metadataEntry _ _ _, trivial⟩
  next key required notMessage notDomainEvent notValue marked =>
    obtain rfl := Option.some.inj accepted
    refine ⟨.metadataEntry key .any required, ?_, .metadataEntry _ _ _, trivial⟩
    unfold Parameter.source?
    split <;> simp_all
  next isMetadata unmarked =>
    obtain rfl := Option.some.inj accepted
    exact ⟨.metadata, by simp [Parameter.source?, isMetadata, unmarked], .metadata, trivial⟩
  next => exact nomatch accepted

omit [PayloadFamily Payload] in
/-- A parameter that is left to other factories has no mark for metadata. -/
theorem metadataMark?_of_declined
    (declined : (createForMessage parameter : Option (Resolver Payload)) = none) :
    parameter.metadataMark? = none := by
  cases marked : parameter.metadataMark? with
  | none => rfl
  | some entry => cases type : parameter.type <;> simp [createForMessage, type, marked] at declined

/-- A resolver that the factories make finds what the source of the parameter has. -/
theorem AreStandard.exists_source (standard : AreStandard factories resources)
    {resolver : Resolver Payload}
    (created : create marks parameter (ordered factories) = some resolver) (index : Nat)
    (declared : Option PayloadType) :
    ∃ source, parameter.source? index = some source ∧ resolver.Finds resources source ∧
      source.IsOffered resources declared := by
  obtain ⟨delegate, isDelegate, accepted, higherDeclines⟩ :=
    (create_ordered_eq_some_iff.mp created).exists_highest
  have unmarked (lower : delegate.priority < (message : ResolverFactory Payload).priority) :
      parameter.metadataMark? = none :=
    metadataMark?_of_declined (higherDeclines message (standard.mem_iff.mpr (.inl rfl)) lower)
  rcases standard.mem_iff.mp isDelegate with rfl | rfl | rfl | ⟨content, isContent, rfl⟩
  · exact finds_of_createForMessage accepted index declared
  · have noEntry := unmarked (by decide : Priority.high < Priority.first)
    simp only [create, timestamp] at accepted
    split at accepted
    next asked =>
      obtain rfl := Option.some.inj accepted
      exact ⟨.timestamp, by simp [Parameter.source?, asked, noEntry], .timestamp, trivial⟩
    next => cases accepted
  · have noEntry := unmarked (by decide : Priority.high < Priority.first)
    simp only [create, sequenceNumber] at accepted
    split at accepted
    next asked =>
      obtain rfl := Option.some.inj accepted
      exact ⟨.sequenceNumber, by simp [Parameter.source?, asked, noEntry], .sequenceNumber,
        trivial⟩
    next => cases accepted
  · have noEntry := unmarked (by decide : Priority.low < Priority.first)
    simp only [create, resource] at accepted
    split at accepted
    next asked =>
      obtain rfl := Option.some.inj accepted
      exact ⟨.resource (typeOf content), by simp [Parameter.source?, asked, noEntry],
        .resource isContent, content, isContent, rfl⟩
    next => cases accepted

theorem AreStandard.declines (standard : AreStandard factories resources)
    (declined : create marks parameter (ordered factories) = none)
    {delegate : ResolverFactory Payload}
    (isStandard : delegate = message ∨ delegate = timestamp ∨ delegate = sequenceNumber ∨
      ∃ content ∈ resources, resource content = delegate) :
    create marks parameter delegate = none :=
  create_ordered_eq_none_iff_delegates.mp declined delegate (standard.mem_iff.mpr isStandard)

theorem AreStandard.noEntry (standard : AreStandard factories resources)
    (declined : create marks parameter (ordered factories) = none) :
    parameter.metadataMark? = none :=
  metadataMark?_of_declined (standard.declines declined (.inl rfl))

/-- What the factories decline is served as the payload or not at all. -/
theorem AreStandard.isServed_of_declined (standard : AreStandard factories resources)
    (declined : create marks parameter (ordered factories) = none) {index : Nat}
    {declared : Option PayloadType} :
    parameter.IsServed resources declared index ↔
      index = 0 ∧ ∃ type, parameter.type = .payload type ∧
        ∀ other, declared = some other → other = type := by
  have noMessage : (createForMessage parameter : Option (Resolver Payload)) = none :=
    standard.declines declined (.inl rfl)
  have noTimestamp := standard.declines declined (.inr (.inl rfl))
  have noNumber := standard.declines declined (.inr (.inr (.inl rfl)))
  have noEntry := standard.noEntry declined
  simp only [create, timestamp, sequenceNumber] at noTimestamp noNumber
  unfold Parameter.IsServed Parameter.source?
  cases type : parameter.type with
  | message => simp [createForMessage, type] at noMessage
  | domainEvent => simp [createForMessage, type] at noMessage
  | metadata => simp [createForMessage, type, noEntry] at noMessage
  | payload asked => by_cases first : index = 0 <;> simp [noEntry, first, ParameterSource.IsOffered]
  | value kind primitive => simp [noEntry]
  | timestamp =>
    have unmarked : .timestamp ∉ parameter.marks := by simpa [type] using noTimestamp
    simp [noEntry, unmarked]
  | sequenceNumber =>
    have unmarked : .sequenceNumber ∉ parameter.marks := by simpa [type] using noNumber
    simp [noEntry, unmarked]
  | resource asked =>
    have noResource : ∀ content ∈ resources, typeOf content ≠ asked := by
      rintro content isContent rfl
      have notAsked := standard.declines declined (.inr (.inr (.inr ⟨content, isContent, rfl⟩)))
      simp [create, resource, type] at notAsked
    simpa [noEntry, ParameterSource.IsOffered] using noResource

end ResolverFactory

namespace Member

variable {Payload : Type} [PayloadFamily Payload] {resources : List Payload}
  {factories : List (ResolverFactory Payload)} {declared : Option PayloadType}

/-! ## Inspection of one handler -/

/-- The payload type to which a handler is restricted is the one that it declares, or that
of a payload parameter of its, if it declares no other. -/
def Restricts (declared : Option PayloadType) (found : List (Resolver Payload))
    (restriction : Option PayloadType) : Prop :=
  restriction = declared ∨ ∃ type, restriction = some type ∧ .payload type ∈ found ∧
    ∀ other, declared = some other → other = type

/-- A resolver for each parameter from a place on that finds what its source has. -/
def FindsAll (resources : List Payload) (declared : Option PayloadType)
    (placed : List (Parameter × Nat)) (found : List (Resolver Payload)) : Prop :=
  List.Forall₂ (fun parameter resolver => ∃ source, parameter.1.source? parameter.2 = some source ∧
    resolver.Finds resources source ∧ source.IsOffered resources declared) placed found

omit [PayloadFamily Payload] in
theorem Restricts.cons {found : List (Resolver Payload)} {restriction : Option PayloadType}
    (restricts : Restricts declared found restriction) (resolver : Resolver Payload) :
    Restricts declared (resolver :: found) restriction := by
  rcases restricts with isDeclared | ⟨type, isType, listed, agrees⟩
  · exact .inl isDeclared
  · exact .inr ⟨type, isType, List.mem_cons_of_mem _ listed, agrees⟩

section Declined

variable {member : Member Payload} {factory : ResolverFactory Payload} {parameter : Parameter}
  (declined : factory.create member.marks parameter = none) (rest : List Parameter)

include declined

omit [PayloadFamily Payload] in
/-- A first parameter for the payload restricts the handler to payloads of its type. -/
theorem resolvers_of_payload {type : PayloadType} (isType : parameter.type = .payload type)
    (agrees : ∀ other, declared = some other → other = type) :
    member.resolvers factory declared 0 (parameter :: rest) =
      (member.resolvers factory declared 1 rest).map
        fun resolved => (some type, .payload type :: resolved.2) := by
  cases declared with
  | none =>
    simp only [resolvers, declined, isType]
    cases member.resolvers factory none 1 rest <;> rfl
  | some other =>
    obtain rfl := agrees other rfl
    simp only [resolvers, declined, isType, ↓reduceIte]
    cases member.resolvers factory (some other) 1 rest <;> rfl

omit [PayloadFamily Payload] in
theorem exists_error_of_unserved {index : Nat}
    (unserved : ¬(index = 0 ∧ ∃ type, parameter.type = .payload type ∧
      ∀ other, declared = some other → other = type)) :
    ∃ reason, member.resolvers factory declared index (parameter :: rest) = .error reason := by
  simp only [resolvers, declined]
  split
  next type isType =>
    cases declared with
    | none => exact absurd ⟨rfl, type, isType, by simp⟩ unserved
    | some other =>
      have differs : other ≠ type := by
        rintro rfl
        exact unserved ⟨rfl, other, isType, by simp⟩
      exact ⟨_, if_neg differs⟩
  next => exact ⟨_, rfl⟩

end Declined

/-- Inspection finds resolvers for all parameters, or there is one that is not served. -/
theorem resolvers_cases (standard : ResolverFactory.AreStandard factories resources)
    (declared : Option PayloadType) (member : Member Payload) (parameters : List Parameter)
    (index : Nat) :
    (∃ restriction found, member.resolvers (.ordered factories) declared index parameters =
        .ok (restriction, found) ∧
      FindsAll resources declared (parameters.zipIdx index) found ∧
      Restricts declared found restriction) ∨
    ((∃ reason, member.resolvers (.ordered factories) declared index parameters =
        .error reason) ∧
      ∃ placed ∈ parameters.zipIdx index, ¬placed.1.IsServed resources declared placed.2) := by
  induction parameters generalizing index with
  | nil => exact .inl ⟨declared, [], rfl, .nil, .inl rfl⟩
  | cons parameter rest ih =>
    rw [List.zipIdx_cons]
    cases created : ResolverFactory.create member.marks parameter (.ordered factories) with
    | some resolver =>
      have isServed := standard.exists_source created index declared
      rcases ih (index + 1) with ⟨restriction, found, resolved, finds, restricts⟩ |
        ⟨⟨reason, failed⟩, placed, isPlaced, unserved⟩
      · refine .inl ⟨restriction, resolver :: found, ?_, .cons isServed finds,
          restricts.cons resolver⟩
        simp only [resolvers, created, resolved]
        rfl
      · refine .inr ⟨⟨reason, ?_⟩, placed, List.mem_cons_of_mem _ isPlaced, unserved⟩
        simp only [resolvers, created, failed]
        rfl
    | none =>
      have served : parameter.IsServed resources declared index ↔ _ :=
        standard.isServed_of_declined created
      by_cases isPayload : parameter.IsServed resources declared index
      · obtain ⟨rfl, type, isType, agrees⟩ := served.mp isPayload
        have goesOn := resolvers_of_payload created rest isType agrees
        have isSource : parameter.source? 0 = some (.payload type) := by
          simp [Parameter.source?, isType, standard.noEntry created]
        rcases ih 1 with ⟨restriction, found, resolved, finds, -⟩ |
          ⟨⟨reason, failed⟩, placed, isPlaced, unserved⟩
        · refine .inl ⟨some type, .payload type :: found, ?_,
            .cons ⟨_, isSource, .payload type, agrees⟩ finds,
            .inr ⟨type, rfl, List.mem_cons_self, agrees⟩⟩
          rw [goesOn, resolved]
          rfl
        · refine .inr ⟨⟨reason, ?_⟩, placed, List.mem_cons_of_mem _ isPlaced, unserved⟩
          rw [goesOn, failed]
          rfl
      · exact .inr ⟨exists_error_of_unserved created rest (mt served.mpr isPayload),
          (parameter, index), List.mem_cons_self, isPayload⟩

/-- Whatever restricts a handler, it takes payloads of the type that the handler declares,
if it does, and those that all resolvers match. -/
theorem Restricts.isMatch_iff {found : List (Resolver Payload)}
    {restriction : Option PayloadType} (restricts : Restricts declared found restriction)
    (event : Event Payload) :
    ((restriction.all fun type => typeOf event.message.payload == type) &&
        found.all fun resolver => resolver.isMatch event) = true ↔
      (∀ type, declared = some type → typeOf event.message.payload = type) ∧
        ∀ resolver ∈ found, resolver.isMatch event = true := by
  simp only [Bool.and_eq_true, List.all_eq_true, Option.all_eq_true, beq_iff_eq]
  refine and_congr_left fun allMatch => ?_
  rcases restricts with rfl | ⟨type, rfl, listed, agrees⟩
  · exact forall_congr' fun type => Iff.rfl
  · have isType : typeOf event.message.payload = type := beq_iff_eq.mp (allMatch _ listed)
    constructor
    · intro _ other isDeclared
      rw [agrees other isDeclared, isType]
    · rintro _ other isOther
      rw [← Option.some.inj isOther, isType]

section Receives

variable {parameters : List Parameter} {found : List (Resolver Payload)} {event : Event Payload}

/-- What the resolvers of a handler find is what it receives. -/
theorem FindsAll.receives (finds : FindsAll resources declared parameters.zipIdx found)
    (allMatch : ∀ resolver ∈ found, resolver.isMatch event = true) :
    Receives resources event parameters (found.map fun resolver => resolver.resolve event) := by
  unfold Receives
  generalize parameters.zipIdx = placed at finds ⊢
  induction finds with
  | nil => exact .nil
  | cons first _ ih =>
    obtain ⟨source, isSource, found, -⟩ := first
    have supplies := found.supplies (allMatch _ List.mem_cons_self)
    exact .cons ⟨source, isSource, supplies⟩ (ih fun resolver listed =>
      allMatch resolver (List.mem_cons_of_mem _ listed))

theorem FindsAll.allMatch_iff (finds : FindsAll resources declared parameters.zipIdx found) :
    (∀ resolver ∈ found, resolver.isMatch event = true) ↔
      ∃ values, Receives resources event parameters values := by
  refine ⟨fun allMatch => ⟨_, finds.receives allMatch⟩, ?_⟩
  rintro ⟨values, receives⟩
  unfold Receives at receives
  generalize parameters.zipIdx = placed at finds receives
  induction finds generalizing values with
  | nil => exact fun resolver listed => absurd listed List.not_mem_nil
  | cons first _ ih =>
    obtain ⟨source, isSource, found, -⟩ := first
    cases receives with
    | cons received others =>
      obtain ⟨other, isOther, supplies⟩ := received
      obtain rfl := Option.some.inj (isSource.symm.trans isOther)
      intro resolver listed
      rcases List.mem_cons.mp listed with rfl | later
      · exact found.isMatch_iff.mpr ⟨_, supplies⟩
      · exact ih _ others resolver later

end Receives

/-! ## Inspection of all handlers -/

/-- An inspected handler is the one declared: it matches the events of the payload type that
is declared, if one is, in which all parameters have their values, and then is invoked with
these. -/
def IsPrepared (resources : List Payload) (member : Member Payload)
    (handler : InspectedHandler Payload) : Prop :=
  handler.name = member.name ∧ ∀ event : Event Payload,
    (handler.isMatch event = true ↔
      (∀ type, HandlerDefinition.eventHandlers.payloadType? member = some type →
        typeOf event.message.payload = type) ∧
      ∃ values, Receives resources event member.parameters values) ∧
    (handler.isMatch event = true →
      handler.handle event = member.invoke (handler.arguments event) ∧
      Receives resources event member.parameters (handler.arguments event))

theorem FindsAll.isServed {placed : List (Parameter × Nat)} {found : List (Resolver Payload)}
    (finds : FindsAll resources declared placed found) :
    ∀ parameter ∈ placed, parameter.1.IsServed resources declared parameter.2 := by
  induction finds with
  | nil => exact fun parameter listed => absurd listed List.not_mem_nil
  | cons first _ ih =>
    obtain ⟨source, isSource, -, isOffered⟩ := first
    exact List.forall_mem_cons.mpr ⟨⟨source, isSource, isOffered⟩, ih⟩

theorem inspect_cases (standard : ResolverFactory.AreStandard factories resources)
    (member : Member Payload) :
    let declared := HandlerDefinition.eventHandlers.payloadType? member
    ((∀ placed ∈ member.parameters.zipIdx, placed.1.IsServed resources declared placed.2) ∧
      ∃ handler, member.inspect .eventHandlers (.ordered factories) = .ok handler ∧
        member.IsPrepared resources handler) ∨
    ((∃ placed ∈ member.parameters.zipIdx, ¬placed.1.IsServed resources declared placed.2) ∧
      ∃ error, member.inspect .eventHandlers (.ordered factories) = .error error) := by
  intro declared
  rcases resolvers_cases standard declared member member.parameters 0 with
    ⟨restriction, found, resolved, finds, restricts⟩ | ⟨⟨reason, failed⟩, unserved⟩
  · let handler : InspectedHandler Payload := ⟨member.name, restriction, found, member.invoke⟩
    refine .inl ⟨finds.isServed, handler, by simp only [inspect, resolved, handler, declared], rfl,
      fun event => ?_⟩
    have matches_iff := restricts.isMatch_iff event
    refine ⟨matches_iff.trans (and_congr_right fun _ => finds.allMatch_iff), fun matched => ?_⟩
    exact ⟨rfl, finds.receives (matches_iff.mp matched).2⟩
  · exact .inr ⟨unserved, ⟨member.name, reason⟩, by simp only [inspect, failed, declared]⟩

/-- If the factories are those for the parts of an event and for resources, inspection gives
one handler for each candidate that is marked as one, or fails if a parameter of such a
candidate is not served.  A handler that matches an event gets one value for each of its
parameters, in their order, which is what the source of the parameter has in the event. -/
theorem inspectAll_supplies (standard : ResolverFactory.AreStandard factories resources)
    (members : List (Member Payload)) :
    let marked := members.filter HandlerDefinition.eventHandlers.isHandler
    let inspection := inspectAll members .eventHandlers (.ordered factories)
    (∀ handlers, inspection = .ok handlers →
      List.Forall₂ (fun member handler => member.IsPrepared resources handler) marked handlers) ∧
    ((∃ error, inspection = .error error) ↔
      ∃ member ∈ marked, ∃ placed ∈ member.parameters.zipIdx, ¬placed.1.IsServed resources
        (HandlerDefinition.eventHandlers.payloadType? member) placed.2) := by
  intro marked inspection
  constructor
  · intro handlers inspected
    refine (forall₂_of_mapM_eq_ok inspected).imp fun member handler isHandler => ?_
    rcases inspect_cases standard member with ⟨-, prepared, succeeds, isPrepared⟩ | ⟨-, _, fails⟩
    · obtain rfl := Except.ok.inj (succeeds.symm.trans isHandler)
      exact isPrepared
    · exact nomatch fails.symm.trans isHandler
  · constructor
    · rintro ⟨error, failed⟩
      obtain ⟨front, member, back, split, -, fails⟩ := mapM_eq_error_iff.mp failed
      rcases inspect_cases standard member with ⟨-, _, succeeds, -⟩ | ⟨unserved, -⟩
      · exact nomatch succeeds.symm.trans fails
      · exact ⟨member, by simp [marked, split], unserved⟩
    · rintro ⟨member, isMarked, placed, isPlaced, unserved⟩
      cases inspected : inspection with
      | error error => exact ⟨error, rfl⟩
      | ok handlers =>
        obtain ⟨handler, succeeds⟩ := exists_ok_of_mapM_eq_ok inspected isMarked
        rcases inspect_cases standard member with ⟨served, -⟩ | ⟨-, _, fails⟩
        · exact absurd (served placed isPlaced) unserved
        · exact nomatch fails.symm.trans succeeds

/-- A handler that asks for everything: the time of the event is marked as metadata too, and
so taken from there. -/
theorem inspectAll_supplies_of_measurement :
    let content : MeterPayload := .installed ⟨"m"⟩ 2
    let factories := [.standard, ResolverFactory.resource content]
    let member : Member MeterPayload :=
      { name := "count"
        marks := [.named "any", .eventHandler none]
        parameters := [.payload ⟨"Measured"⟩, .sequenceNumber, .resource ⟨"Installed"⟩,
          Parameter.timestamp.marked (.metadataEntry "time" true)]
        invoke := fun _ => .ok () }
    let event : Event MeterPayload := .domain (.ofStamp ⟨EventId.ofNat 1, default⟩ ⟨"m"⟩ 4
      (.measured 5) (.single "time" (.string "noon")))
    ResolverFactory.AreStandard factories [content] ∧
      ∃ handler, inspectAll [member] .eventHandlers (.ordered factories) = .ok [handler] ∧
        handler.isMatch event = true ∧
        Receives [content] event member.parameters (handler.arguments event) := by
  intro content factories member event
  have standard : ResolverFactory.AreStandard factories [content] := by
    have perm := (ResolverFactory.ranked_delegates_ordered
      ([.message, .timestamp, .sequenceNumber] : List (ResolverFactory MeterPayload))).perm
    exact perm.append_right [.resource content]
  obtain ⟨prepares, fails⟩ := inspectAll_supplies standard [member]
  have served : ∀ placed ∈ member.parameters.zipIdx, placed.1.IsServed [content] none placed.2 := by
    refine List.forall_mem_cons.mpr ⟨⟨_, rfl, nofun⟩, List.forall_mem_cons.mpr ⟨⟨_, rfl, trivial⟩,
      List.forall_mem_cons.mpr ⟨⟨_, rfl, content, ?_⟩, List.forall_mem_singleton.mpr
        ⟨_, rfl, trivial⟩⟩⟩⟩
    exact ⟨List.mem_singleton_self _, rfl⟩
  have received : Receives [content] event member.parameters [.payload (.measured 5),
      .sequenceNumber 4, .resource content, .value (some (.string "noon"))] := by
    refine .cons ⟨_, rfl, rfl, rfl⟩ (.cons ⟨_, rfl, _, rfl, rfl⟩ (.cons ⟨_, rfl, content, ?_⟩
      (.cons ⟨_, rfl, rfl, fun _ => ⟨_, rfl, rfl⟩⟩ .nil)))
    exact ⟨List.mem_singleton_self _, rfl, rfl⟩
  refine ⟨standard, ?_⟩
  cases inspected : inspectAll [member] .eventHandlers (.ordered factories) with
  | error error =>
    obtain ⟨other, isMember, placed, isPlaced, unserved⟩ := fails.mp ⟨error, inspected⟩
    obtain rfl := List.mem_singleton.mp isMember
    exact absurd (served placed isPlaced) unserved
  | ok handlers =>
    cases prepares handlers inspected with
    | @cons _ handler _ _ isPrepared rest =>
      cases rest
      have matched := (isPrepared.2 event).1.mpr ⟨nofun, _, received⟩
      exact ⟨handler, rfl, matched, ((isPrepared.2 event).2 matched).2⟩

end Member

end EventSourcing
