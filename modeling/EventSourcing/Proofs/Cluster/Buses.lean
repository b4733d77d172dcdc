import EventSourcing.EventBus
import EventSourcing.Proofs.Cluster.Deliveries
import EventSourcing.Proofs.Table
import Mathlib.Data.Set.Function

/-!
# Listeners of event buses

On a bus whose listeners are told apart by their keys, whatever has been done with it, a
listener is in one cluster only, the one that is selected for it (`EventBus.Arranged`).
So the bus hands all events that it publishes to each of its listeners, once and in order
(`EventBus.Arranged.handedTo_publish`).
-/

namespace EventSourcing

variable {Payload : Type}

/-- What can be done with an event bus. -/
inductive BusAction (Payload : Type) where
  | subscribe (listener : Listener Payload)
  | unsubscribe (listener : Listener Payload)
  | subscribeMonitor (place : ClusterKey) (monitor : String)
  | unsubscribeMonitor (place : ClusterKey) (monitor : String)
  | publish (events : List (Event Payload))
  | work (key : String)
  | report (key : String) (notification : Notification Payload)

/-- Whether an action subscribes nobody but listeners of a roster. -/
def BusAction.IsOf (roster : Set (Listener Payload)) : BusAction Payload → Prop
  | .subscribe listener => listener ∈ roster
  | _ => True

namespace EventBus

/-- Does something with a bus.  A listener for which no cluster is selected stays out. -/
def act (bus : EventBus Payload) :
    BusAction Payload → List (Occurrence Payload) × EventBus Payload
  | .subscribe listener =>
    match bus.subscribe listener with
    | .ok subscribed => ([], subscribed)
    | .error _ => ([], bus)
  | .unsubscribe listener => ([], bus.unsubscribe listener)
  | .subscribeMonitor place monitor =>
    ([], if bus.clusters.contains place then
        bus.modify place fun cluster => cluster.subscribeMonitor monitor
      else bus)
  | .unsubscribeMonitor place monitor =>
    ([], if bus.clusters.contains place then
        bus.modify place fun cluster => cluster.unsubscribeMonitor monitor
      else bus)
  | .publish events => bus.publish events
  | .work key => bus.perform fun cluster => cluster.work key
  | .report key notification => bus.report key notification

/-- A new bus with which some things have been done. -/
def used (selector : Selector) (actions : List (BusAction Payload)) : EventBus Payload :=
  actions.foldl (fun bus action => (bus.act action).2) { selector }

/-- Whether a listener is a member of a cluster of the bus. -/
def HasListener (bus : EventBus Payload) (listener : Listener Payload) : Prop :=
  ∃ place, listener ∈ (bus.cluster place).members

/-- The listeners of a bus are of a roster, and each of them is, once, in the cluster
selected for it. -/
structure Arranged (roster : Set (Listener Payload)) (bus : EventBus Payload) : Prop where
  places : bus.clusters.keys.Nodup
  distinct (place : ClusterKey) : (bus.cluster place).memberKeys.Nodup
  known (place : ClusterKey) : ∀ member ∈ (bus.cluster place).members, member ∈ roster
  selected (place : ClusterKey) :
    ∀ member ∈ (bus.cluster place).members, bus.selector.select? member = some place

variable {bus : EventBus Payload} {roster : Set (Listener Payload)} {listener : Listener Payload}

theorem forEach_eq (act : Cluster Payload → List (Occurrence Payload) × Cluster Payload)
    (entries : List (ClusterKey × Cluster Payload)) :
    forEach act entries = (entries.flatMap fun entry => (act entry.2).1,
      entries.map fun entry => (entry.1, (act entry.2).2)) := by
  induction entries with
  | nil => rfl
  | cons entry rest ih => simp only [forEach, ih, List.flatMap_cons, List.map_cons]

theorem cluster_modify (bus : EventBus Payload) (place other : ClusterKey)
    (change : Cluster Payload → Cluster Payload) :
    (bus.modify place change).cluster other =
      if other = place then change (bus.cluster place) else bus.cluster other := by
  by_cases same : other = place
  · simp [modify, cluster, same]
  · simp [modify, cluster, same]

theorem members_cluster_modify {place : ClusterKey}
    {change : Cluster Payload → Cluster Payload}
    (keeps : (change (bus.cluster place)).members = (bus.cluster place).members)
    (other : ClusterKey) :
    ((bus.modify place change).cluster other).members = (bus.cluster other).members := by
  rw [cluster_modify]
  by_cases same : other = place
  · rw [if_pos same, same]
    exact keeps
  · rw [if_neg same]

theorem members_cluster_perform
    {act : Cluster Payload → List (Occurrence Payload) × Cluster Payload}
    (keeps : ∀ cluster, (act cluster).2.members = cluster.members) (bus : EventBus Payload)
    (place : ClusterKey) :
    ((bus.perform act).2.cluster place).members = (bus.cluster place).members := by
  have found := Table.findEntry_map (fun cluster => (act cluster).2) place bus.clusters.entries
  simp only [perform, forEach_eq, cluster, Table.get?, found]
  cases Table.findEntry place bus.clusters.entries with
  | none => rfl
  | some cluster => exact keeps cluster

theorem keys_perform (bus : EventBus Payload)
    (act : Cluster Payload → List (Occurrence Payload) × Cluster Payload) :
    (bus.perform act).2.clusters.keys = bus.clusters.keys := by
  simp [perform, forEach_eq, Table.keys, Function.comp_def]

theorem arranged_new (selector : Selector) (roster : Set (Listener Payload)) :
    ({ selector } : EventBus Payload).Arranged roster where
  places := List.nodup_nil
  distinct _ := List.nodup_nil
  known _ _ isMember := absurd isMember List.not_mem_nil
  selected _ _ isMember := absurd isMember List.not_mem_nil

/-- Publications leave members alone. -/
theorem members_cluster_publish (bus : EventBus Payload) (events : List (Event Payload))
    (place : ClusterKey) :
    ((bus.publish events).2.cluster place).members = (bus.cluster place).members := by
  unfold publish
  split
  · rfl
  · exact members_cluster_perform (fun cluster => cluster.members_publish events) bus place

/-- Only the members of clusters matter. -/
theorem Arranged.of_members {next : EventBus Payload} (arranged : bus.Arranged roster)
    (sameSelector : next.selector = bus.selector) (places : next.clusters.keys.Nodup)
    (members : ∀ place, (next.cluster place).members = (bus.cluster place).members) :
    next.Arranged roster where
  places := places
  distinct place := by
    rw [Cluster.memberKeys, members]
    exact arranged.distinct place
  known place := by
    rw [members]
    exact arranged.known place
  selected place := by
    rw [members, sameSelector]
    exact arranged.selected place

theorem Arranged.mono {larger : Set (Listener Payload)} (arranged : bus.Arranged roster)
    (includes : roster ⊆ larger) : bus.Arranged larger :=
  { arranged with
    known := fun place member isMember => includes (arranged.known place member isMember) }

theorem Arranged.perform {act : Cluster Payload → List (Occurrence Payload) × Cluster Payload}
    (arranged : bus.Arranged roster)
    (keeps : ∀ cluster, (act cluster).2.members = cluster.members) :
    (bus.perform act).2.Arranged roster := by
  refine arranged.of_members rfl ?_ (members_cluster_perform keeps bus)
  rw [keys_perform]
  exact arranged.places

theorem Arranged.publish (arranged : bus.Arranged roster) (events : List (Event Payload)) :
    (bus.publish events).2.Arranged roster := by
  unfold EventBus.publish
  split
  · exact arranged
  · exact arranged.perform fun cluster => cluster.members_publish events

theorem Arranged.modify_keeping (arranged : bus.Arranged roster) (place : ClusterKey)
    (change : Cluster Payload → Cluster Payload)
    (keeps : (change (bus.cluster place)).members = (bus.cluster place).members) :
    (bus.modify place change).Arranged roster :=
  arranged.of_members rfl (Table.nodup_keys_put arranged.places _ _)
    (members_cluster_modify keeps)

theorem Arranged.modify {place : ClusterKey} {change : Cluster Payload → Cluster Payload}
    (arranged : bus.Arranged roster)
    (distinct : (change (bus.cluster place)).memberKeys.Nodup)
    (known : ∀ member ∈ (change (bus.cluster place)).members, member ∈ roster)
    (selected : ∀ member ∈ (change (bus.cluster place)).members,
      bus.selector.select? member = some place) :
    (bus.modify place change).Arranged roster where
  places := Table.nodup_keys_put arranged.places _ _
  distinct other := by
    rw [cluster_modify]
    by_cases same : other = place
    · rwa [if_pos same]
    · rw [if_neg same]
      exact arranged.distinct other
  known other := by
    rw [cluster_modify]
    by_cases same : other = place
    · rwa [if_pos same]
    · rw [if_neg same]
      exact arranged.known other
  selected other := by
    rw [cluster_modify]
    by_cases same : other = place
    · rw [if_pos same, same]
      exact selected
    · rw [if_neg same]
      exact arranged.selected other

theorem Arranged.subscribe {next : EventBus Payload} (arranged : bus.Arranged roster)
    (isKnown : listener ∈ roster) (subscribed : bus.subscribe listener = .ok next) :
    next.Arranged roster := by
  cases chosen : bus.selector.select? listener with
  | none => simp [EventBus.subscribe, chosen] at subscribed
  | some place =>
    simp only [EventBus.subscribe, chosen, Except.ok.injEq] at subscribed
    subst subscribed
    by_cases present : (bus.cluster place).memberKeys.contains listener.key
    · exact arranged.modify_keeping place _ (by rw [Cluster.subscribe, if_pos present])
    · have added : ((bus.cluster place).subscribe listener).members =
          (bus.cluster place).members ++ [listener] := by
        rw [Cluster.subscribe, if_neg present]
      rw [List.contains_iff_mem] at present
      refine arranged.modify ?_ ?_ ?_
      · rw [Cluster.memberKeys, added, List.map_append, List.nodup_append]
        refine ⟨arranged.distinct place, List.nodup_singleton _, ?_⟩
        rintro key isMember _ (isNew : _ ∈ [listener.key]) rfl
        exact present (List.mem_singleton.mp isNew ▸ isMember)
      · rw [added]
        simpa [or_imp, forall_and] using ⟨arranged.known place, isKnown⟩
      · rw [added]
        simpa [or_imp, forall_and] using ⟨arranged.selected place, chosen⟩

theorem Arranged.unsubscribe (arranged : bus.Arranged roster) (listener : Listener Payload) :
    (bus.unsubscribe listener).Arranged roster := by
  unfold EventBus.unsubscribe
  split
  next place _ =>
    split
    · refine arranged.modify ?_ ?_ ?_
      · exact (arranged.distinct place).sublist (List.filter_sublist.map Listener.key)
      · exact fun member isMember => arranged.known place member (List.mem_of_mem_filter isMember)
      · exact fun member isMember =>
          arranged.selected place member (List.mem_of_mem_filter isMember)
    · exact arranged
  next => exact arranged

/-- Whatever is done, listeners stay in the clusters selected for them. -/
theorem Arranged.act (arranged : bus.Arranged roster) {action : BusAction Payload}
    (isOf : action.IsOf roster) : (bus.act action).2.Arranged roster := by
  cases action with
  | subscribe listener =>
    cases subscribed : bus.subscribe listener with
    | ok next =>
      simp only [EventBus.act, subscribed]
      exact arranged.subscribe isOf subscribed
    | error error =>
      simp only [EventBus.act, subscribed]
      exact arranged
  | unsubscribe listener => exact arranged.unsubscribe listener
  | subscribeMonitor place monitor =>
    simp only [EventBus.act]
    split
    · exact arranged.modify_keeping place _ rfl
    · exact arranged
  | unsubscribeMonitor place monitor =>
    simp only [EventBus.act]
    split
    · exact arranged.modify_keeping place _ rfl
    · exact arranged
  | publish events => exact arranged.publish events
  | work key => exact arranged.perform fun cluster => (cluster.hands_work key key).members
  | report key notification =>
    exact arranged.perform fun cluster => (cluster.hands_report key key notification).members

theorem arranged_used (selector : Selector) {actions : List (BusAction Payload)}
    (areOf : ∀ action ∈ actions, action.IsOf roster) :
    (used selector actions).Arranged roster := by
  have further (bus : EventBus Payload) (arranged : bus.Arranged roster) :
      (actions.foldl (fun bus action => (bus.act action).2) bus).Arranged roster := by
    induction actions generalizing bus with
    | nil => exact arranged
    | cons action rest ih =>
      exact ih (fun other later => areOf other (List.mem_cons_of_mem _ later)) _
        (arranged.act (areOf action List.mem_cons_self))
  exact further _ (arranged_new selector roster)

/-- A listener of a bus is in one cluster only. -/
theorem Arranged.place_unique (arranged : bus.Arranged roster)
    (apart : roster.InjOn Listener.key) {place other : ClusterKey}
    (isMember : listener ∈ (bus.cluster place).members)
    (present : listener.key ∈ (bus.cluster other).memberKeys) : other = place := by
  obtain ⟨found, isFound, sameKey⟩ := List.mem_map.mp present
  have same : found = listener :=
    apart (arranged.known other found isFound) (arranged.known place listener isMember) sameKey
  subst same
  exact Option.some.inj ((arranged.selected other found isFound).symm.trans
    (arranged.selected place found isMember))

theorem Arranged.cluster_of_listed (arranged : bus.Arranged roster)
    {entry : ClusterKey × Cluster Payload} (listed : entry ∈ bus.clusters.entries) :
    bus.cluster entry.1 = entry.2 := by
  simp [cluster, Table.get?_of_mem_entries arranged.places listed]

theorem Arranged.handedTo_publish_eq (arranged : bus.Arranged roster) (key : String)
    (events : List (Event Payload)) :
    handedTo key (bus.publish events).1 =
      bus.clusters.entries.flatMap fun entry =>
        if key ∈ entry.2.memberKeys then events else [] := by
  cases events with
  | nil =>
    simp only [ite_self]
    exact (List.flatMap_eq_nil_iff.mpr fun _ _ => rfl).symm
  | cons event rest =>
    simp only [EventBus.publish, List.isEmpty_cons, Bool.false_eq_true, ↓reduceIte,
      EventBus.perform, forEach_eq, handedTo_flatMap]
    refine List.flatMap_congr fun entry listed => ?_
    have distinct := arranged.distinct entry.1
    rw [arranged.cluster_of_listed listed] at distinct
    exact (Cluster.hands_publish distinct key (event :: rest)).handed

/-- A bus hands all events, once and in order, to each of its listeners. -/
theorem Arranged.handedTo_publish (arranged : bus.Arranged roster)
    (apart : roster.InjOn Listener.key) (hasListener : bus.HasListener listener)
    (events : List (Event Payload)) : handedTo listener.key (bus.publish events).1 = events := by
  obtain ⟨place, isMember⟩ := hasListener
  have inUse : place ∈ bus.clusters.keys := by
    rw [Table.mem_keys_iff]
    cases found : bus.clusters.get? place with
    | none => simp [cluster, found] at isMember
    | some own => rfl
  have isPlace (entry : ClusterKey × Cluster Payload) (listed : entry ∈ bus.clusters.entries) :
      listener.key ∈ entry.2.memberKeys ↔ entry.1 = place := by
    rw [← arranged.cluster_of_listed listed]
    constructor
    · exact arranged.place_unique apart isMember
    · rintro rfl
      exact List.mem_map_of_mem isMember
  calc handedTo listener.key (bus.publish events).1
      = bus.clusters.entries.flatMap fun entry => if entry.1 = place then events else [] := by
        rw [arranged.handedTo_publish_eq]
        exact List.flatMap_congr fun entry listed => if_congr (isPlace entry listed) rfl rfl
    _ = bus.clusters.keys.flatMap fun other => if other = place then events else [] := by
        rw [Table.keys, List.flatMap_map]
    _ = events := by rw [flatMap_ite_of_nodup arranged.places, if_pos inUse]

/-- A bus hands nothing to anybody but its listeners. -/
theorem Arranged.handedTo_publish_of_foreign (arranged : bus.Arranged roster) {key : String}
    (foreign : ∀ listener, bus.HasListener listener → listener.key ≠ key)
    (events : List (Event Payload)) : handedTo key (bus.publish events).1 = [] := by
  rw [arranged.handedTo_publish_eq, List.flatMap_eq_nil_iff]
  intro entry listed
  rw [if_neg]
  intro present
  obtain ⟨member, isMember, isKey⟩ := List.mem_map.mp present
  rw [← arranged.cluster_of_listed listed] at isMember
  exact foreign member ⟨entry.1, isMember⟩ isKey

/-! ## What goes on between publications -/

/-- What workers do and listeners report hands nothing to anybody. -/
theorem handedTo_perform
    {act : Cluster Payload → List (Occurrence Payload) × Cluster Payload} {key : String}
    (silent : ∀ cluster, handedTo key (act cluster).1 = []) (bus : EventBus Payload) :
    handedTo key (bus.perform act).1 = [] := by
  simp only [perform, forEach_eq, handedTo_flatMap]
  exact List.flatMap_eq_nil_iff.mpr fun entry _ => silent entry.2

theorem HasListener.of_members {next : EventBus Payload} (hasListener : bus.HasListener listener)
    (members : ∀ place, (next.cluster place).members = (bus.cluster place).members) :
    next.HasListener listener := by
  obtain ⟨place, isMember⟩ := hasListener
  refine ⟨place, ?_⟩
  rwa [members]

/-- A listener whose subscription is accepted is a listener of the bus. -/
theorem Arranged.hasListener_subscribe {next : EventBus Payload} (arranged : bus.Arranged roster)
    (apart : roster.InjOn Listener.key) (isKnown : listener ∈ roster)
    (subscribed : bus.subscribe listener = .ok next) : next.HasListener listener := by
  cases chosen : bus.selector.select? listener with
  | none => simp [EventBus.subscribe, chosen] at subscribed
  | some place =>
    simp only [EventBus.subscribe, chosen, Except.ok.injEq] at subscribed
    refine ⟨place, ?_⟩
    rw [← subscribed, cluster_modify, if_pos rfl]
    by_cases present : listener.key ∈ (bus.cluster place).memberKeys
    · obtain ⟨found, isFound, sameKey⟩ := List.mem_map.mp present
      have same : found = listener := apart (arranged.known place found isFound) isKnown sameKey
      rw [Cluster.subscribe, if_pos (List.contains_iff_mem.mpr present), ← same]
      exact isFound
    · rw [Cluster.subscribe, if_neg (by simpa using present)]
      exact List.mem_append_right _ List.mem_cons_self

end EventBus

end EventSourcing
