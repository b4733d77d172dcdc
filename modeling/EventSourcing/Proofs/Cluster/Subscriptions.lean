import EventSourcing.Proofs.Cluster.Buses
import Mathlib.Data.List.Induction

/-!
# Subscriptions to event buses

A listener is subscribed in the course of a run on a bus if a cluster was selected for it
when it subscribed and it has not unsubscribed since, however often it has subscribed
(`EventBus.Subscribed`).  In every run these are the listeners of the bus
(`EventBus.hasListener_used_iff`), and whatever is done next hands what it publishes to them
and to nobody else.  The clusters of a bus stand in the order in which listeners have first
subscribed to them (`EventBus.used_delivers`).
-/

namespace EventSourcing

variable {Payload : Type}

namespace BusAction

/-- The listener that subscribes or unsubscribes. -/
def listener? : BusAction Payload → Option (Listener Payload)
  | .subscribe listener | .unsubscribe listener => some listener
  | _ => none

/-- The cluster that an action uses: the one that is selected for a subscribing listener. -/
def place? (selector : Selector) : BusAction Payload → Option ClusterKey
  | .subscribe listener => selector.select? listener
  | _ => none

/-- The events that an action publishes. -/
def published : BusAction Payload → List (Event Payload)
  | .publish events => events
  | _ => []

end BusAction

namespace EventBus

/-- The listeners that subscribe or unsubscribe in a run. -/
def mentioned (actions : List (BusAction Payload)) : Set (Listener Payload) :=
  {listener | ∃ action ∈ actions, action.listener? = some listener}

/-- Whether a listener is subscribed after a run: it has subscribed, with success, and not
unsubscribed since. -/
def Subscribed (selector : Selector) (actions : List (BusAction Payload))
    (listener : Listener Payload) : Prop :=
  ∃ before after, actions = before ++ .subscribe listener :: after ∧
    (selector.select? listener).isSome ∧ .unsubscribe listener ∉ after

variable {selector : Selector} {actions : List (BusAction Payload)} {action : BusAction Payload}
  {bus : EventBus Payload} {roster : Set (Listener Payload)} {listener : Listener Payload}

/-! ## One action more -/

theorem not_subscribed_nil : ¬Subscribed selector [] listener := by
  rintro ⟨before, after, split, -⟩
  simp at split

theorem subscribed_concat :
    Subscribed selector (actions ++ [action]) listener ↔
      (action = .subscribe listener ∧ (selector.select? listener).isSome) ∨
        (action ≠ .unsubscribe listener ∧ Subscribed selector actions listener) := by
  constructor
  · rintro ⟨before, after, split, selected, stays⟩
    -- The subscription is the last action, or all that follows it ends with this action.
    rcases List.eq_nil_or_concat' after with rfl | ⟨rest, last, rfl⟩
    · obtain ⟨-, same⟩ := List.append_inj' split rfl
      exact .inl ⟨List.singleton_inj.mp same, selected⟩
    · rw [← List.cons_append, ← List.append_assoc] at split
      obtain ⟨same, isLast⟩ := List.append_inj' split rfl
      obtain rfl := List.singleton_inj.mp isLast
      rw [List.mem_append, not_or] at stays
      refine .inr ⟨?_, before, rest, same, selected, stays.1⟩
      rintro rfl
      exact stays.2 List.mem_cons_self
  · rintro (⟨rfl, selected⟩ | ⟨stays, before, after, rfl, selected, stayed⟩)
    · exact ⟨actions, [], rfl, selected, List.not_mem_nil⟩
    · refine ⟨before, after ++ [action], by simp, selected, ?_⟩
      rw [List.mem_append, List.mem_singleton, not_or]
      exact ⟨stayed, Ne.symm stays⟩

theorem used_concat (selector : Selector) (actions : List (BusAction Payload))
    (action : BusAction Payload) :
    used selector (actions ++ [action]) = ((used selector actions).act action).2 :=
  List.foldl_append

/-! ## The clusters in use -/

theorem eraseDups_concat {Item : Type} [DecidableEq Item] (items : List Item) (item : Item) :
    (items ++ [item]).eraseDups =
      if item ∈ items then items.eraseDups else items.eraseDups ++ [item] := by
  rw [List.eraseDups_append]
  by_cases present : item ∈ items
  · simp [List.removeAll, present]
  · simp [List.removeAll, present, List.eraseDups_cons]

theorem keys_modify_if_contains (bus : EventBus Payload) (place : ClusterKey)
    (change : Cluster Payload → Cluster Payload) :
    (if bus.clusters.contains place then bus.modify place change else bus).clusters.keys =
      bus.clusters.keys := by
  split
  next inUse => rw [modify, Table.keys_put, if_pos ((bus.clusters.mem_keys_iff place).mpr inUse)]
  next => rfl

/-- A cluster is added behind the others when it is first used. -/
theorem keys_act (bus : EventBus Payload) (action : BusAction Payload) :
    (bus.act action).2.clusters.keys =
      match action.place? bus.selector with
      | some place =>
        if place ∈ bus.clusters.keys then bus.clusters.keys else bus.clusters.keys ++ [place]
      | none => bus.clusters.keys := by
  cases action with
  | subscribe listener =>
    cases chosen : bus.selector.select? listener with
    | none => simp only [act, subscribe, BusAction.place?, chosen]
    | some place => simp only [act, subscribe, BusAction.place?, chosen, modify, Table.keys_put]
  | unsubscribe listener =>
    simp only [act, unsubscribe, BusAction.place?]
    cases bus.selector.select? listener with
    | none => rfl
    | some place => exact bus.keys_modify_if_contains place _
  | subscribeMonitor place monitor => exact bus.keys_modify_if_contains place _
  | unsubscribeMonitor place monitor => exact bus.keys_modify_if_contains place _
  | publish events =>
    simp only [act, publish, BusAction.place?]
    split
    · rfl
    · exact bus.keys_perform _
  | work key => exact bus.keys_perform _
  | report key notification => exact bus.keys_perform _

theorem selector_act (bus : EventBus Payload) (action : BusAction Payload) :
    (bus.act action).2.selector = bus.selector := by
  cases action with
  | subscribe listener =>
    cases chosen : bus.selector.select? listener <;> simp only [act, subscribe, chosen, modify]
  | unsubscribe listener =>
    simp only [act, unsubscribe]
    split
    · split <;> rfl
    · rfl
  | subscribeMonitor place monitor =>
    simp only [act]
    split <;> rfl
  | unsubscribeMonitor place monitor =>
    simp only [act]
    split <;> rfl
  | publish events =>
    simp only [act, publish]
    split <;> rfl
  | work key => rfl
  | report key notification => rfl

theorem selector_used (selector : Selector) (actions : List (BusAction Payload)) :
    (used selector actions).selector = selector := by
  induction actions using List.reverseRecOn with
  | nil => rfl
  | append_singleton actions action ih => rw [used_concat, selector_act, ih]

theorem keys_used (selector : Selector) (actions : List (BusAction Payload)) :
    (used selector actions).clusters.keys =
      (actions.filterMap (BusAction.place? selector)).eraseDups := by
  induction actions using List.reverseRecOn with
  | nil => rfl
  | append_singleton actions action ih =>
    rw [used_concat, keys_act, selector_used, ih, List.filterMap_append]
    cases used : action.place? selector with
    | none => simp [used]
    | some place => simp [used, eraseDups_concat]

/-! ## The listeners of a bus -/

/-- Listeners of clusters that are modified: those of the changed cluster, and the others. -/
theorem hasListener_modify_iff {place : ClusterKey}
    {change : Cluster Payload → Cluster Payload} :
    (bus.modify place change).HasListener listener ↔
      listener ∈ (change (bus.cluster place)).members ∨
        ∃ other ≠ place, listener ∈ (bus.cluster other).members := by
  constructor
  · rintro ⟨other, isMember⟩
    rw [cluster_modify] at isMember
    by_cases same : other = place
    · rw [if_pos same] at isMember
      exact .inl isMember
    · rw [if_neg same] at isMember
      exact .inr ⟨other, same, isMember⟩
  · rintro (isMember | ⟨other, different, isMember⟩)
    · refine ⟨place, ?_⟩
      rwa [cluster_modify, if_pos rfl]
    · refine ⟨other, ?_⟩
      rwa [cluster_modify, if_neg different]

theorem hasListener_iff_of_members {next : EventBus Payload}
    (members : ∀ place, (next.cluster place).members = (bus.cluster place).members) :
    next.HasListener listener ↔ bus.HasListener listener :=
  exists_congr fun place => by rw [members]

theorem hasListener_subscribe_iff (arranged : bus.Arranged roster)
    (apart : roster.InjOn Listener.key) {newcomer : Listener Payload}
    (isKnown : newcomer ∈ roster) {next : EventBus Payload}
    (subscribed : bus.subscribe newcomer = .ok next) :
    next.HasListener listener ↔ listener = newcomer ∨ bus.HasListener listener := by
  constructor
  · intro has
    cases chosen : bus.selector.select? newcomer with
    | none => simp [subscribe, chosen] at subscribed
    | some place =>
      simp only [subscribe, chosen, Except.ok.injEq] at subscribed
      rw [← subscribed, hasListener_modify_iff] at has
      rcases has with isMember | ⟨other, -, isMember⟩
      · rw [Cluster.subscribe] at isMember
        split at isMember
        · exact .inr ⟨place, isMember⟩
        · rcases List.mem_append.mp isMember with present | isNew
          · exact .inr ⟨place, present⟩
          · exact .inl (List.mem_singleton.mp isNew)
      · exact .inr ⟨other, isMember⟩
  · rintro (rfl | ⟨place, isMember⟩)
    · exact arranged.hasListener_subscribe apart isKnown subscribed
    · cases chosen : bus.selector.select? newcomer with
      | none => simp [subscribe, chosen] at subscribed
      | some own =>
        simp only [subscribe, chosen, Except.ok.injEq] at subscribed
        rw [← subscribed, hasListener_modify_iff]
        by_cases same : place = own
        · subst same
          rw [Cluster.subscribe]
          split
          · exact .inl isMember
          · exact .inl (List.mem_append_left _ isMember)
        · exact .inr ⟨place, same, isMember⟩

theorem members_of_not_contains {place : ClusterKey}
    (unused : ¬bus.clusters.contains place = true) : (bus.cluster place).members = [] := by
  have nothing : bus.clusters.get? place = none := by
    simpa [Table.contains] using unused
  rw [cluster, nothing]
  rfl

/-- The selector says today, as it did when the listener subscribed, where it is to be
found. -/
theorem hasListener_unsubscribe_iff (arranged : bus.Arranged roster)
    (apart : roster.InjOn Listener.key) {leaver : Listener Payload} (isKnown : leaver ∈ roster) :
    (bus.unsubscribe leaver).HasListener listener ↔
      listener ≠ leaver ∧ bus.HasListener listener := by
  -- Whoever is a member somewhere is so where the selector says.
  have selected {place : ClusterKey} (isMember : leaver ∈ (bus.cluster place).members) :=
    arranged.selected place leaver isMember
  cases chosen : bus.selector.select? leaver with
  | none =>
    simp only [unsubscribe, chosen, iff_and_self]
    rintro ⟨place, isMember⟩ rfl
    exact absurd (chosen.symm.trans (selected isMember)) nofun
  | some own =>
    have isOwn {place : ClusterKey} (isMember : leaver ∈ (bus.cluster place).members) :
        place = own := Option.some.inj ((selected isMember).symm.trans chosen)
    simp only [unsubscribe, chosen]
    split
    · rw [hasListener_modify_iff, Cluster.unsubscribe]
      constructor
      · rintro (remains | ⟨other, different, isMember⟩)
        · obtain ⟨isMember, otherKey⟩ := List.mem_filter.mp remains
          refine ⟨?_, own, isMember⟩
          rintro rfl
          exact of_decide_eq_true otherKey rfl
        · refine ⟨?_, other, isMember⟩
          rintro rfl
          exact different (isOwn isMember)
      · rintro ⟨stays, place, isMember⟩
        by_cases same : place = own
        · subst same
          refine .inl (List.mem_filter.mpr ⟨isMember, decide_eq_true fun sameKey => stays ?_⟩)
          exact apart (arranged.known place listener isMember) isKnown sameKey
        · exact .inr ⟨place, same, isMember⟩
    next unused =>
      simp only [iff_and_self]
      rintro ⟨place, isMember⟩ rfl
      obtain rfl := isOwn isMember
      rw [members_of_not_contains unused] at isMember
      exact List.not_mem_nil isMember

/-- An action without a listener leaves members alone. -/
theorem members_act_of_still (still : action.listener? = none) (place : ClusterKey) :
    ((bus.act action).2.cluster place).members = (bus.cluster place).members := by
  cases action with
  | subscribe listener => simp [BusAction.listener?] at still
  | unsubscribe listener => simp [BusAction.listener?] at still
  | subscribeMonitor own monitor =>
    simp only [act]
    split
    · exact members_cluster_modify rfl place
    · rfl
  | unsubscribeMonitor own monitor =>
    simp only [act]
    split
    · exact members_cluster_modify rfl place
    · rfl
  | publish events => exact bus.members_cluster_publish events place
  | work key =>
    exact members_cluster_perform (fun cluster => (cluster.hands_work key key).members) bus place
  | report key notification =>
    exact members_cluster_perform
      (fun cluster => (cluster.hands_report key key notification).members) bus place

/-- One action changes the listeners of a bus as it changes who is subscribed. -/
theorem hasListener_act_iff (arranged : bus.Arranged roster) (apart : roster.InjOn Listener.key)
    (isKnown : ∀ other, action.listener? = some other → other ∈ roster) :
    (bus.act action).2.HasListener listener ↔
      (action = .subscribe listener ∧ (bus.selector.select? listener).isSome) ∨
        (action ≠ .unsubscribe listener ∧ bus.HasListener listener) := by
  cases about : action.listener? with
  | none =>
    rw [hasListener_iff_of_members (members_act_of_still about)]
    constructor
    · intro has
      refine .inr ⟨?_, has⟩
      rintro rfl
      cases about
    · rintro (⟨rfl, -⟩ | ⟨-, has⟩)
      · cases about
      · exact has
  | some own =>
    cases action with
    | subscribe newcomer =>
      cases chosen : bus.selector.select? newcomer with
      | none =>
        simp only [act, subscribe, chosen, ne_eq, reduceCtorEq, not_false_eq_true, true_and,
          BusAction.subscribe.injEq]
        refine ⟨.inr, ?_⟩
        rintro (⟨rfl, isSelected⟩ | has)
        · simp [chosen] at isSelected
        · exact has
      | some place =>
        have subscribed : bus.subscribe newcomer =
            .ok (bus.modify place fun cluster => cluster.subscribe newcomer) := by
          simp only [subscribe, chosen]
        simp only [act, subscribed, hasListener_subscribe_iff arranged apart
          (isKnown newcomer rfl) subscribed, ne_eq, reduceCtorEq, not_false_eq_true, true_and,
          BusAction.subscribe.injEq]
        refine or_congr_left ⟨?_, fun both => both.1.symm⟩
        rintro rfl
        exact ⟨rfl, by rw [chosen]; rfl⟩
    | unsubscribe leaver =>
      simp only [act, hasListener_unsubscribe_iff arranged apart (isKnown leaver rfl), ne_eq,
        reduceCtorEq, false_and, false_or, BusAction.unsubscribe.injEq]
      exact and_congr_left fun _ => not_congr eq_comm
    | _ => cases about

/-! ## Runs -/

theorem mentioned_concat (actions : List (BusAction Payload)) (action : BusAction Payload) :
    mentioned actions ⊆ mentioned (actions ++ [action]) := by
  rintro listener ⟨other, isAction, about⟩
  exact ⟨other, List.mem_append_left _ isAction, about⟩

theorem arranged_mentioned (selector : Selector) (actions : List (BusAction Payload)) :
    (used selector actions).Arranged (mentioned actions) := by
  refine arranged_used selector fun action isAction => ?_
  cases action with
  | subscribe listener => exact ⟨_, isAction, rfl⟩
  | _ => trivial

/-- The listeners of a bus are those that are subscribed. -/
theorem hasListener_used_iff (selector : Selector)
    (apart : (mentioned actions).InjOn Listener.key) :
    (used selector actions).HasListener listener ↔ Subscribed selector actions listener := by
  induction actions using List.reverseRecOn with
  | nil =>
    refine iff_of_false ?_ not_subscribed_nil
    rintro ⟨place, isMember⟩
    exact List.not_mem_nil isMember
  | append_singleton actions action ih =>
    have larger := mentioned_concat actions action
    have arranged := (arranged_mentioned selector actions).mono larger
    have isKnown (other : Listener Payload) (about : action.listener? = some other) :
        other ∈ mentioned (actions ++ [action]) :=
      ⟨action, List.mem_append_right _ List.mem_cons_self, about⟩
    rw [used_concat, hasListener_act_iff arranged apart isKnown, subscribed_concat, selector_used,
      ih (apart.mono larger)]

theorem handedTo_act_of_unpublished (bus : EventBus Payload) (key : String)
    (silent : ∀ events, action ≠ .publish events) : handedTo key (bus.act action).1 = [] := by
  cases action with
  | subscribe listener =>
    simp only [act]
    split <;> rfl
  | publish events => exact absurd rfl (silent events)
  | work worker =>
    exact handedTo_perform (fun cluster => (cluster.hands_work key worker).handed) bus
  | report reporter notification =>
    exact handedTo_perform
      (fun cluster => (cluster.hands_report key reporter notification).handed) bus
  | _ => rfl

/-- After every run on a bus whose listeners are told apart by their keys, an action hands
the events that it publishes, once and in order, to every listener that is subscribed, and
nothing to anybody else, whatever listeners do with events; and the clusters in use are
listed once, in the order of their first use. -/
theorem used_delivers (selector : Selector) {actions : List (BusAction Payload)}
    (apart : (mentioned actions).InjOn Listener.key) :
    let bus := used selector actions
    bus.clusters.keys = (actions.filterMap (BusAction.place? selector)).eraseDups ∧
    ∀ action : BusAction Payload,
      (∀ listener, Subscribed selector actions listener →
        handedTo listener.key (bus.act action).1 = action.published) ∧
      ∀ key, (∀ listener, Subscribed selector actions listener → listener.key ≠ key) →
        handedTo key (bus.act action).1 = [] := by
  intro bus
  have arranged : bus.Arranged (mentioned actions) := arranged_mentioned selector actions
  refine ⟨keys_used selector actions, fun action => ?_⟩
  by_cases publishes : ∃ events, action = .publish events
  · obtain ⟨events, rfl⟩ := publishes
    constructor
    · intro listener subscribed
      exact arranged.handedTo_publish apart
        ((hasListener_used_iff selector apart).mpr subscribed) events
    · intro key foreign
      exact arranged.handedTo_publish_of_foreign (fun listener has =>
        foreign listener ((hasListener_used_iff selector apart).mp has)) events
  · rw [not_exists] at publishes
    have nothing : action.published = [] := by
      cases action with
      | publish events => exact absurd rfl (publishes events)
      | _ => rfl
    rw [nothing]
    exact ⟨fun listener _ => bus.handedTo_act_of_unpublished listener.key publishes,
      fun key _ => bus.handedTo_act_of_unpublished key publishes⟩

/-- A failing listener that has subscribed twice is handed every event once, another one
after it as well, and nothing goes to a listener that has left. -/
theorem used_delivers_of_three :
    ∃ (selector : Selector) (actions : List (BusAction Nat)) (events : List (Event Nat)),
      let bus := used selector actions
      events.length = 2 ∧
      bus.clusters.keys = [⟨"default", 0⟩, ⟨"audit", 0⟩] ∧
      handedTo "log" (bus.act (.publish events)).1 = events ∧
      handedTo "orders" (bus.act (.publish events)).1 = events ∧
      handedTo "mail" (bus.act (.publish events)).1 = [] := by
  let selector : Selector :=
    .composite [.byType "audit" ⟨"audit", 0⟩, .always ⟨"default", 0⟩]
  let log : Listener Nat := ⟨"log", "auditLog", [], .direct fun _ => .error (.failed "full")⟩
  let orders : Listener Nat := ⟨"orders", "orders", [], .direct fun _ => .ok ()⟩
  let mail : Listener Nat := ⟨"mail", "mail", [], .direct fun _ => .ok ()⟩
  let actions : List (BusAction Nat) := [.subscribe mail, .subscribe log, .subscribe log,
    .subscribe orders, .unsubscribe mail]
  let events : List (Event Nat) := [.plain ⟨EventId.ofNat 1, default, .empty, 0⟩,
    .plain ⟨EventId.ofNat 2, default, .empty, 0⟩]
  have known : mentioned actions ⊆ {log, orders, mail} := by
    rintro listener ⟨action, isAction, about⟩
    simp only [actions, List.mem_cons, List.not_mem_nil, or_false] at isAction
    rcases isAction with rfl | rfl | rfl | rfl | rfl <;>
      simp [← Option.some.inj about]
  have apart : (mentioned actions).InjOn Listener.key := by
    refine Set.InjOn.mono known ?_
    rintro first (rfl | rfl | rfl) second (rfl | rfl | rfl) sameKey <;> first
      | rfl
      | exact absurd sameKey (by decide)
  obtain ⟨listed, delivers⟩ := used_delivers selector apart
  obtain ⟨handed, nothing⟩ := delivers (.publish events)
  refine ⟨selector, actions, events, rfl, listed.trans (by decide +kernel), handed log ?_,
    handed orders ?_, nothing "mail" ?_⟩
  · exact ⟨[.subscribe mail], _, rfl, by decide +kernel, by simp [log, mail]⟩
  · exact ⟨[.subscribe mail, .subscribe log, .subscribe log], _, rfl, by decide +kernel,
      by simp [orders, mail]⟩
  · intro listener subscribed
    have stays : listener ≠ mail := by
      rintro rfl
      have leaving : actions = [.subscribe mail, .subscribe log, .subscribe log,
        .subscribe orders] ++ [.unsubscribe mail] := rfl
      rw [leaving, subscribed_concat] at subscribed
      rcases subscribed with ⟨leaves, -⟩ | ⟨stays, -⟩
      · cases leaves
      · exact stays rfl
    obtain ⟨before, after, split, -⟩ := subscribed
    have isMentioned : listener ∈ mentioned actions :=
      ⟨.subscribe listener, by rw [split]; simp, rfl⟩
    rcases known isMentioned with rfl | rfl | rfl
    · decide
    · decide
    · exact absurd rfl stays

end EventBus

end EventSourcing
