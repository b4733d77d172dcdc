import EventSourcing.Handler.Factory
import EventSourcing.Proofs.Aggregate.Meter
import Mathlib.Order.Lattice
import Mathlib.Data.List.Basic

/-!
# Factories by priority

An ordered composite asks the delegates of the composites that it is made of, ranked by
priority.  As a whole a composite asks just the factories of their own that stand in it,
at whatever depth, so none of them is lost.  The one of highest priority comes first if
no delegate is itself a composite, as with composites that have been ordered
(`ResolverFactory.ordered_ranks`).  A composite inside a given one stays as it is and
counts with its first factory, so that others get in front of those behind it
(`ResolverFactory.ordered_hidesNested`).
-/

namespace EventSourcing

/-! ## Ranking -/

section Ranking

variable {Item Answer : Type} {rank : Item → Priority} {given ranked : List Item}

/-- The same items in the order of falling rank; those of equal rank keep their order. -/
structure Ranked (rank : Item → Priority) (given ranked : List Item) : Prop where
  perm : ranked.Perm given
  falling : ranked.Pairwise fun first second => rank second ≤ rank first
  keepsOrder (level : Priority) :
    (ranked.filter fun item => rank item = level) = given.filter fun item => rank item = level

theorem ranked_mergeSort (rank : Item → Priority) (given : List Item) :
    Ranked rank given (given.mergeSort fun first second => rank second ≤ rank first) := by
  have transitive : ∀ first second third : Item, decide (rank second ≤ rank first) = true →
      decide (rank third ≤ rank second) = true → decide (rank third ≤ rank first) = true := by
    intro first second third
    simp only [decide_eq_true_eq]
    exact fun above below => le_trans below above
  have total : ∀ first second : Item,
      (decide (rank second ≤ rank first) || decide (rank first ≤ rank second)) = true := by
    intro first second
    simp only [Bool.or_eq_true, decide_eq_true_eq]
    exact le_total _ _
  have perm := given.mergeSort_perm fun first second => decide (rank second ≤ rank first)
  refine ⟨perm, ?_, fun level => ?_⟩
  · exact (List.pairwise_mergeSort transitive total given).imp of_decide_eq_true
  · -- Items of one rank are in order already, so sorting leaves them as they stand.
    have inOrder : (given.filter fun item => rank item = level).Pairwise
        fun first second => decide (rank second ≤ rank first) = true := by
      rw [List.pairwise_filter]
      refine List.pairwise_of_forall fun first second firstLevel secondLevel => ?_
      rw [of_decide_eq_true firstLevel, of_decide_eq_true secondLevel]
      exact decide_eq_true le_rfl
    have kept := (List.sublist_mergeSort transitive total inOrder
      List.filter_sublist).filter fun item => decide (rank item = level)
    simp only [List.filter_filter, Bool.and_self] at kept
    exact (kept.eq_of_length (perm.filter _).length_eq.symm).symm

/-- What the item of highest rank answers of those that answer at all, the earliest one
among equals. -/
def FirstChoice (rank : Item → Priority) (answer? : Item → Option Answer) (items : List Item)
    (answer : Answer) : Prop :=
  ∃ front item back, items = front ++ item :: back ∧ answer? item = some answer ∧
    (∀ earlier ∈ front, rank item ≤ rank earlier → answer? earlier = none) ∧
    ∀ later ∈ back, rank item < rank later → answer? later = none

variable {answer? : Item → Option Answer}

theorem FirstChoice.unique {first second : Answer}
    (isFirst : FirstChoice rank answer? given first)
    (isSecond : FirstChoice rank answer? given second) : first = second := by
  obtain ⟨front, item, back, split, answered, before, behind⟩ := isFirst
  obtain ⟨front', item', back', split', answered', before', behind'⟩ := isSecond
  have answers : answer? item ≠ none := by simp [answered]
  have answers' : answer? item' ≠ none := by simp [answered']
  have sameAnswer (same : item = item') : first = second := by
    rw [same] at answered
    exact Option.some.inj (answered.symm.trans answered')
  -- Of two items, the one in front would have to rank higher and not higher.
  rw [split, List.append_eq_append_iff] at split'
  rcases split' with ⟨between, isFront', rest⟩ | ⟨between, isFront, rest⟩
  · cases between with
    | nil => exact sameAnswer (List.cons.inj rest).1
    | cons other between =>
      obtain ⟨rfl, isBack⟩ := List.cons.inj rest
      have higher := lt_of_not_ge (mt (before' item (by simp [isFront'])) answers)
      exact absurd (behind item' (by simp [isBack]) higher) answers'
  · cases between with
    | nil => exact sameAnswer (List.cons.inj rest).1.symm
    | cons other between =>
      obtain ⟨rfl, isBack'⟩ := List.cons.inj rest
      have higher := lt_of_not_ge (mt (before item' (by simp [isFront])) answers')
      exact absurd (behind' item (by simp [isBack']) higher) answers

/-- What ranks higher than the first choice does not answer. -/
theorem FirstChoice.exists_highest {answer : Answer}
    (chosen : FirstChoice rank answer? given answer) :
    ∃ item ∈ given, answer? item = some answer ∧
      ∀ other ∈ given, rank item < rank other → answer? other = none := by
  obtain ⟨front, item, back, rfl, answered, before, behind⟩ := chosen
  refine ⟨item, by simp, answered, fun other isOther higher => ?_⟩
  rcases List.mem_append.mp isOther with inFront | notInFront
  · exact before other inFront (le_of_lt higher)
  · rcases List.mem_cons.mp notInFront with rfl | inBack
    · exact absurd higher (lt_irrefl _)
    · exact behind other inBack higher

theorem Ranked.firstChoice_of_findSome? (isRanked : Ranked rank given ranked) {answer : Answer}
    (found : ranked.findSome? answer? = some answer) :
    FirstChoice rank answer? given answer := by
  obtain ⟨ahead, item, after, split, answered, declined⟩ := List.findSome?_eq_some_iff.mp found
  have higherDeclines : ∀ other ∈ given, rank item < rank other → answer? other = none := by
    intro other isGiven higher
    have falling := isRanked.falling
    have isOther := isRanked.perm.mem_iff.mpr isGiven
    rw [split] at falling isOther
    rcases List.mem_append.mp isOther with isAhead | notAhead
    · exact declined other isAhead
    · have notHigher : rank other ≤ rank item := by
        rcases List.mem_cons.mp notAhead with rfl | isAfter
        · exact le_rfl
        · exact List.rel_of_pairwise_cons (List.pairwise_append.mp falling).2.1 isAfter
      exact absurd higher (not_lt_of_ge notHigher)
  -- Items of one rank stand in one order in both lists, so the place of the item among
  -- them is its place in the given list.
  have level := isRanked.keepsOrder (rank item)
  rw [split, List.filter_append, List.filter_cons_of_pos (by simp)] at level
  obtain ⟨front, rest, rfl, frontLevel, restLevel⟩ := List.filter_eq_append_iff.mp level.symm
  obtain ⟨others, back, rfl, otherLevel, -, -⟩ := List.filter_eq_cons_iff.mp restLevel
  refine ⟨front ++ others, item, back, by simp, answered, ?_, ?_⟩
  · intro earlier isEarlier atLeast
    rcases lt_or_eq_of_le atLeast with higher | same
    · refine higherDeclines earlier ?_ higher
      rw [← List.append_assoc]
      exact List.mem_append_left _ isEarlier
    · rcases List.mem_append.mp isEarlier with inFront | inOthers
      · have atLevel : earlier ∈ front.filter fun item' => rank item' = rank item :=
          List.mem_filter.mpr ⟨inFront, decide_eq_true same.symm⟩
        rw [frontLevel] at atLevel
        exact declined earlier (List.mem_of_mem_filter atLevel)
      · exact absurd (decide_eq_true same.symm) (otherLevel earlier inOthers)
  · intro later isLater higher
    exact higherDeclines later (by simp [isLater]) higher

theorem Ranked.findSome?_eq_none_iff (isRanked : Ranked rank given ranked) :
    ranked.findSome? answer? = none ↔ ∀ item ∈ given, answer? item = none := by
  rw [List.findSome?_eq_none_iff]
  exact forall_congr' fun item => imp_congr_left isRanked.perm.mem_iff

/-- The first answer of ranked items is that of the first choice. -/
theorem Ranked.findSome?_eq_some_iff (isRanked : Ranked rank given ranked) {answer : Answer} :
    ranked.findSome? answer? = some answer ↔ FirstChoice rank answer? given answer := by
  refine ⟨isRanked.firstChoice_of_findSome?, fun chosen => ?_⟩
  cases found : ranked.findSome? answer? with
  | none =>
    obtain ⟨front, item, back, rfl, answered, -, -⟩ := chosen
    have declined := isRanked.findSome?_eq_none_iff.mp found item (by simp)
    exact absurd (declined.symm.trans answered) nofun
  | some other => rw [chosen.unique (isRanked.firstChoice_of_findSome? found)]

end Ranking

namespace ResolverFactory

variable {Payload : Type} {factory : ResolverFactory Payload}
  {factories : List (ResolverFactory Payload)}

/-! ## The factories in a composite -/

mutual

/-- The factories of their own that stand in a factory at any depth, in order. -/
def leaves : ResolverFactory Payload → List (SingleFactory Payload)
  | .single factory => [factory]
  | .composite delegates => leavesOf delegates

def leavesOf : List (ResolverFactory Payload) → List (SingleFactory Payload)
  | [] => []
  | factory :: rest => leaves factory ++ leavesOf rest

end

theorem leavesOf_append (front back : List (ResolverFactory Payload)) :
    leavesOf (front ++ back) = leavesOf front ++ leavesOf back := by
  induction front with
  | nil => rfl
  | cons factory rest ih => rw [List.cons_append, leavesOf, ih, leavesOf, List.append_assoc]

theorem leavesOf_perm {first second : List (ResolverFactory Payload)} (perm : first.Perm second) :
    (leavesOf first).Perm (leavesOf second) := by
  induction perm with
  | nil => exact .refl _
  | cons factory _ ih => exact ih.append_left (leaves factory)
  | swap first second rest =>
    simp only [leavesOf, ← List.append_assoc]
    exact List.perm_append_comm.append_right _
  | trans _ _ ih ih' => exact ih.trans ih'

theorem leavesOf_delegates (factory : ResolverFactory Payload) :
    leavesOf factory.delegates = leaves factory := by
  cases factory with
  | single factory => rfl
  | composite delegates => rfl

/-- Taking the delegates of composites keeps the factories that stand in them. -/
theorem leavesOf_flatMap_delegates (factories : List (ResolverFactory Payload)) :
    leavesOf (factories.flatMap delegates) = leavesOf factories := by
  induction factories with
  | nil => rfl
  | cons factory rest ih =>
    rw [List.flatMap_cons, leavesOf_append, ih, leavesOf_delegates, leavesOf]

theorem leavesOf_map_single (singles : List (SingleFactory Payload)) :
    leavesOf (singles.map .single) = singles := by
  induction singles with
  | nil => rfl
  | cons factory rest ih => rw [List.map_cons, leavesOf, ih, leaves, List.singleton_append]

mutual

/-- A factory asks those that stand in it, one after another. -/
theorem create_eq_findSome? (marks : List MemberMark) (parameter : Parameter) :
    ∀ factory : ResolverFactory Payload,
      create marks parameter factory =
        (leaves factory).findSome? fun single => single.create marks parameter
  | .single factory => by simp [create, leaves]
  | .composite delegates => by
    rw [create, leaves]
    exact createFirst_eq_findSome? marks parameter delegates

theorem createFirst_eq_findSome? (marks : List MemberMark) (parameter : Parameter) :
    ∀ factories : List (ResolverFactory Payload),
      createFirst marks parameter factories =
        (leavesOf factories).findSome? fun single => single.create marks parameter
  | [] => rfl
  | factory :: rest => by
    rw [createFirst, leavesOf, List.findSome?_append, create_eq_findSome? marks parameter factory,
      createFirst_eq_findSome? marks parameter rest]

end

/-! ## Ordered composites -/

/-- The delegates of an ordered composite, in the order in which they are asked. -/
theorem delegates_ordered (factories : List (ResolverFactory Payload)) :
    (ordered factories).delegates = sortByPriority (factories.flatMap delegates) := rfl

theorem ranked_delegates_ordered (factories : List (ResolverFactory Payload)) :
    Ranked priority (factories.flatMap delegates) (ordered factories).delegates :=
  ranked_mergeSort priority (factories.flatMap delegates)

theorem createFirst_eq_findSome?_create (marks : List MemberMark) (parameter : Parameter)
    (factories : List (ResolverFactory Payload)) :
    createFirst marks parameter factories = factories.findSome? (create marks parameter) := by
  induction factories with
  | nil => rfl
  | cons factory rest ih =>
    rw [createFirst, ih, List.findSome?_cons]
    cases create marks parameter factory <;> rfl

/-- An ordered composite chooses among the delegates of the composites given to it. -/
theorem create_ordered_eq_some_iff {marks : List MemberMark} {parameter : Parameter}
    {resolver : Resolver Payload} :
    create marks parameter (ordered factories) = some resolver ↔
      FirstChoice priority (create marks parameter) (factories.flatMap delegates) resolver := by
  rw [← (ranked_delegates_ordered factories).findSome?_eq_some_iff,
    ← createFirst_eq_findSome?_create]
  rfl

theorem create_ordered_eq_none_iff_delegates {marks : List MemberMark} {parameter : Parameter} :
    create marks parameter (ordered factories) = none ↔
      ∀ delegate ∈ factories.flatMap delegates, create marks parameter delegate = none := by
  rw [← (ranked_delegates_ordered factories).findSome?_eq_none_iff,
    ← createFirst_eq_findSome?_create]
  rfl

theorem create_ordered_eq_none_iff {marks : List MemberMark} {parameter : Parameter} :
    create marks parameter (ordered factories) = none ↔
      ∀ single ∈ leavesOf factories, single.create marks parameter = none := by
  have perm := leavesOf_perm (ranked_delegates_ordered factories).perm
  rw [leavesOf_flatMap_delegates, leavesOf_delegates] at perm
  rw [create_eq_findSome?, List.findSome?_eq_none_iff]
  exact forall_congr' fun single => imp_congr_left perm.mem_iff

/-! ## Composites without composites -/

/-- Whether all delegates are factories of their own. -/
def IsFlat (factory : ResolverFactory Payload) : Prop :=
  ∀ delegate ∈ factory.delegates, ∃ single, delegate = .single single

theorem flatMap_delegates_of_isFlat (flat : ∀ factory ∈ factories, factory.IsFlat) :
    factories.flatMap delegates = (leavesOf factories).map .single := by
  have singles : ∀ delegate ∈ factories.flatMap delegates, ∃ single, delegate = .single single := by
    intro delegate isDelegate
    obtain ⟨factory, isFactory, stands⟩ := List.mem_flatMap.mp isDelegate
    exact flat factory isFactory delegate stands
  rw [← leavesOf_flatMap_delegates]
  generalize factories.flatMap delegates = inlined at singles ⊢
  induction inlined with
  | nil => rfl
  | cons delegate rest ih =>
    obtain ⟨single, rfl⟩ := singles delegate List.mem_cons_self
    rw [leavesOf, leaves, List.singleton_append, List.map_cons,
      ← ih fun other isOther => singles other (List.mem_cons_of_mem _ isOther)]

/-- Out of composites without composites, an ordered one has just the factories in them,
ranked by priority. -/
theorem exists_ranked_of_isFlat (flat : ∀ factory ∈ factories, factory.IsFlat) :
    ∃ ranked, (ordered factories).delegates = ranked.map .single ∧
      Ranked SingleFactory.priority (leavesOf factories) ranked := by
  refine ⟨_, ?_, ranked_mergeSort SingleFactory.priority (leavesOf factories)⟩
  rw [delegates_ordered, flatMap_delegates_of_isFlat flat, sortByPriority, List.map_mergeSort]
  exact fun _ _ _ _ => rfl

theorem isFlat_of_delegates_ordered {singles : List (SingleFactory Payload)}
    (isOrdered : (ordered factories).delegates = singles.map .single) :
    ∀ factory ∈ factories, factory.IsFlat := by
  intro factory isFactory delegate stands
  have perm := (ranked_delegates_ordered factories).perm
  have isDelegate := perm.mem_iff.mpr (List.mem_flatMap.mpr ⟨factory, isFactory, stands⟩)
  rw [isOrdered] at isDelegate
  obtain ⟨single, -, rfl⟩ := List.mem_map.mp isDelegate
  exact ⟨single, rfl⟩

theorem IsFlat.ordered (flat : ∀ factory ∈ factories, factory.IsFlat) :
    (ordered factories).IsFlat := by
  obtain ⟨ranked, isOrdered, -⟩ := exists_ranked_of_isFlat flat
  intro delegate isDelegate
  rw [isOrdered] at isDelegate
  obtain ⟨single, -, rfl⟩ := List.mem_map.mp isDelegate
  exact ⟨single, rfl⟩

/-- Among factories without composites in composites, the one of highest priority that
accepts a parameter makes its resolver, the earliest one among equals. -/
theorem create_ordered_of_isFlat (flat : ∀ factory ∈ factories, factory.IsFlat)
    {marks : List MemberMark} {parameter : Parameter} {resolver : Resolver Payload} :
    create marks parameter (ordered factories) = some resolver ↔
      FirstChoice SingleFactory.priority (fun single => single.create marks parameter)
        (leavesOf factories) resolver := by
  obtain ⟨ranked, isOrdered, isRanked⟩ := exists_ranked_of_isFlat flat
  rw [create_eq_findSome?, ← leavesOf_delegates, isOrdered, leavesOf_map_single,
    isRanked.findSome?_eq_some_iff]

/-! ## What an ordered composite asks -/

/-- An ordered composite ranks the delegates of the composites given to it by priority, and
makes the resolver of the first of them that accepts a parameter.  It declines just what
all factories in it decline.  Its delegates are these factories themselves, ranked by
priority, if and only if no given composite contains another one.  Then the factory of
highest priority that accepts a parameter makes its resolver, and the composite may in
turn be given to others. -/
theorem ordered_ranks (factories : List (ResolverFactory Payload)) :
    Ranked priority (factories.flatMap delegates) (ordered factories).delegates ∧
    (∀ marks parameter resolver, create marks parameter (ordered factories) = some resolver ↔
      FirstChoice priority (create marks parameter) (factories.flatMap delegates) resolver) ∧
    (∀ marks parameter, create marks parameter (ordered factories) = none ↔
      ∀ single ∈ leavesOf factories, single.create marks parameter = none) ∧
    ((∃ ranked, (ordered factories).delegates = ranked.map .single ∧
        Ranked SingleFactory.priority (leavesOf factories) ranked) ↔
      ∀ factory ∈ factories, factory.IsFlat) ∧
    ((∀ factory ∈ factories, factory.IsFlat) → (ordered factories).IsFlat ∧
      ∀ marks parameter resolver, create marks parameter (ordered factories) = some resolver ↔
        FirstChoice SingleFactory.priority (fun single => single.create marks parameter)
          (leavesOf factories) resolver) := by
  refine ⟨ranked_delegates_ordered factories, fun _ _ _ => create_ordered_eq_some_iff,
    fun _ _ => create_ordered_eq_none_iff, ⟨?_, exists_ranked_of_isFlat⟩, fun flat => ?_⟩
  · rintro ⟨ranked, isOrdered, -⟩
    exact isFlat_of_delegates_ordered isOrdered
  · exact ⟨IsFlat.ordered flat, fun _ _ _ => create_ordered_of_isFlat flat⟩

/-- The factory of highest priority is asked first, although it stands last in a composite
that is not ordered. -/
theorem ordered_ranks_of_unordered :
    let given := [.composite [resource (MeterPayload.measured 1), message], timestamp]
    (∀ factory ∈ given, factory.IsFlat) ∧ (ordered given).IsFlat ∧
      create [] .message (ordered given) = some (.message false) := by
  intro given
  have flat : ∀ factory ∈ given, factory.IsFlat := by
    simp [given, IsFlat, resource, message, timestamp, delegates]
  obtain ⟨isFlat, chooses⟩ := (ordered_ranks given).2.2.2.2 flat
  refine ⟨flat, isFlat, (chooses [] .message _).mpr ?_⟩
  exact ⟨[_], _, [_], rfl, rfl, by simp [Parameter.message], by simp [Parameter.message]⟩

/-- A factory inside two composites is asked behind one of lower priority, because what
stands in front of it there has a still lower one. -/
theorem ordered_hidesNested :
    ∃ (given : List (ResolverFactory MeterPayload)) (marks : List MemberMark)
      (parameter : Parameter) (resolver : Resolver MeterPayload),
      create marks parameter (ordered given) = some resolver ∧
      ¬FirstChoice SingleFactory.priority (fun single => single.create marks parameter)
        (leavesOf given) resolver ∧
      ¬∃ ranked, (ordered given).delegates = ranked.map .single ∧
        Ranked SingleFactory.priority (leavesOf given) ranked := by
  let metadataOnly : SingleFactory MeterPayload :=
    { name := "Fixed", priority := .high, create := fun _ _ => some .metadata }
  let given : List (ResolverFactory MeterPayload) :=
    [.composite [.composite [resource (.measured 1), message]], .single metadataOnly]
  refine ⟨given, [], .message, .metadata, ?chosen, ?notFirst, ?notFlat⟩
  case chosen =>
    refine create_ordered_eq_some_iff.mpr ⟨[_], _, [], rfl, rfl, ?_, by simp⟩
    intro earlier isEarlier atLeast
    rw [List.mem_singleton.mp isEarlier] at atLeast
    exact absurd atLeast (by decide)
  case notFirst =>
    have first : FirstChoice SingleFactory.priority
        (fun single => single.create [] Parameter.message) (leavesOf given) (.message false) := by
      refine ⟨[_], _, [_], rfl, rfl, by simp [Parameter.message], ?_⟩
      intro later isLater higher
      rw [List.mem_singleton.mp isLater] at higher
      exact absurd higher (by decide)
    exact fun other => nomatch first.unique other
  case notFlat =>
    rintro ⟨ranked, isOrdered, -⟩
    have flat := isFlat_of_delegates_ordered isOrdered _ List.mem_cons_self
    obtain ⟨single, isSingle⟩ := flat _ List.mem_cons_self
    exact nomatch isSingle

end ResolverFactory

end EventSourcing
