/-!
# Ordered maps

Finite maps kept as lists of entries in strictly increasing key order.  The
order is part of the type, so a map has exactly one representation: two maps
with the same lookups are equal (`OrderedMap.ext_get?`).  Every operation is
described by what it does to lookups.
-/

namespace EventSourcing

/-- A finite map whose entries are listed in strictly increasing key order. -/
structure OrderedMap (Key Value : Type) [Ord Key] where
  toList : List (Key × Value)
  sorted : toList.Pairwise fun first second => compare first.1 second.1 = .lt

namespace OrderedMap

variable {Key Value : Type} [Ord Key]

/-- Puts an entry into an ordered list of entries, replacing the entry of the
same key. -/
def insertEntry (key : Key) (value : Value) : List (Key × Value) → List (Key × Value)
  | [] => [(key, value)]
  | entry :: rest =>
    match compare key entry.1 with
    | .lt => (key, value) :: entry :: rest
    | .eq => (key, value) :: rest
    | .gt => entry :: insertEntry key value rest

/-- The value stored under a key in a list of entries. -/
def lookupEntry [DecidableEq Key] (key : Key) : List (Key × Value) → Option Value
  | [] => none
  | entry :: rest => if key = entry.1 then some entry.2 else lookupEntry key rest

/-- Pairs the keys with new values, in order; surplus keys keep theirs. -/
def replaceValues : List (Key × Value) → List Value → List (Key × Value)
  | entry :: entries, value :: values => (entry.1, value) :: replaceValues entries values
  | entries, _ => entries

omit [Ord Key] in
theorem map_fst_replaceValues (entries : List (Key × Value)) (values : List Value) :
    (replaceValues entries values).map Prod.fst = entries.map Prod.fst := by
  fun_induction replaceValues entries values <;> simp_all

omit [Ord Key] in
theorem replaceValues_self (entries : List (Key × Value)) :
    replaceValues entries (entries.map Prod.snd) = entries := by
  induction entries with
  | nil => rfl
  | cons entry rest ih => simp [replaceValues, ih]

theorem mem_insertEntry {key : Key} {value : Value} {entries : List (Key × Value)}
    {entry : Key × Value} (member : entry ∈ insertEntry key value entries) :
    entry = (key, value) ∨ entry ∈ entries := by
  induction entries with
  | nil => simpa [insertEntry] using member
  | cons head rest ih =>
    simp only [insertEntry] at member
    split at member <;> grind

def empty : OrderedMap Key Value := ⟨[], List.Pairwise.nil⟩

instance : Inhabited (OrderedMap Key Value) := ⟨empty⟩

instance : EmptyCollection (OrderedMap Key Value) := ⟨empty⟩

def filter (map : OrderedMap Key Value) (keep : Key × Value → Bool) : OrderedMap Key Value :=
  ⟨map.toList.filter keep, map.sorted.filter keep⟩

def keys (map : OrderedMap Key Value) : List Key := map.toList.map Prod.fst

/-- The values in increasing order of their keys. -/
def values (map : OrderedMap Key Value) : List Value := map.toList.map Prod.snd

def size (map : OrderedMap Key Value) : Nat := map.toList.length

def isEmpty (map : OrderedMap Key Value) : Bool := map.toList.isEmpty

def last? (map : OrderedMap Key Value) : Option (Key × Value) := map.toList.getLast?

def drop (map : OrderedMap Key Value) (count : Nat) : OrderedMap Key Value :=
  ⟨map.toList.drop count, map.sorted.sublist (List.drop_sublist count map.toList)⟩

/-- The entries whose key is at least the given one. -/
def entriesFrom (map : OrderedMap Key Value) (key : Key) : List (Key × Value) :=
  map.toList.filter fun entry => compare entry.1 key != .lt

/-- Replaces the values, in increasing order of their keys. -/
def withValues (map : OrderedMap Key Value) (values : List Value) : OrderedMap Key Value where
  toList := replaceValues map.toList values
  sorted := by
    have keysSorted : (map.toList.map Prod.fst).Pairwise
        fun first second => compare first second = .lt := List.pairwise_map.2 map.sorted
    rw [← map_fst_replaceValues map.toList values] at keysSorted
    exact List.pairwise_map.1 keysSorted

@[simp] theorem withValues_values (map : OrderedMap Key Value) :
    map.withValues map.values = map := by
  cases map
  simp [withValues, values, replaceValues_self]

section Lookup

variable [DecidableEq Key]

def get? (map : OrderedMap Key Value) (key : Key) : Option Value :=
  lookupEntry key map.toList

/-- The value stored under a key, or a default. -/
def getD (map : OrderedMap Key Value) (key : Key) (default : Value) : Value :=
  (map.get? key).getD default

def contains (map : OrderedMap Key Value) (key : Key) : Bool :=
  (map.get? key).isSome

def erase (map : OrderedMap Key Value) (key : Key) : OrderedMap Key Value :=
  map.filter fun entry => entry.1 != key

@[simp] theorem get?_empty (key : Key) : (empty : OrderedMap Key Value).get? key = none := rfl

end Lookup

section Order

variable [Std.TransOrd Key] [Std.LawfulEqOrd Key]

theorem insertEntry_sorted (key : Key) (value : Value) {entries : List (Key × Value)}
    (sorted : entries.Pairwise fun first second => compare first.1 second.1 = .lt) :
    (insertEntry key value entries).Pairwise
      fun first second => compare first.1 second.1 = .lt := by
  induction entries with
  | nil => simp [insertEntry]
  | cons head rest ih =>
    rw [List.pairwise_cons] at sorted
    simp only [insertEntry]
    split
    next before =>
      refine List.pairwise_cons.2 ⟨?_, List.pairwise_cons.2 sorted⟩
      intro entry member
      rcases List.mem_cons.1 member with rfl | member
      · exact before
      · exact Std.TransCmp.lt_trans before (sorted.1 entry member)
    next same =>
      have sameKey : key = head.1 := Std.LawfulEqCmp.eq_of_compare same
      exact List.pairwise_cons.2
        ⟨fun entry member => sameKey ▸ sorted.1 entry member, sorted.2⟩
    next after =>
      refine List.pairwise_cons.2 ⟨?_, ih sorted.2⟩
      intro entry member
      rcases mem_insertEntry member with rfl | member
      · exact Std.OrientedCmp.lt_of_gt after
      · exact sorted.1 entry member

/-- Stores a value under a key, replacing what was stored there. -/
def insert (map : OrderedMap Key Value) (key : Key) (value : Value) : OrderedMap Key Value :=
  ⟨insertEntry key value map.toList, insertEntry_sorted key value map.sorted⟩

/-- Inserts entries one after another, later ones replacing earlier ones. -/
def insertMany (map : OrderedMap Key Value) (entries : List (Key × Value)) :
    OrderedMap Key Value :=
  entries.foldl (fun built entry => built.insert entry.1 entry.2) map

/-- The map of a list of entries; the last entry of a key wins. -/
def ofList (entries : List (Key × Value)) : OrderedMap Key Value :=
  empty.insertMany entries

/-- The entries of both maps; where both have a key, the second one's. -/
def union (first second : OrderedMap Key Value) : OrderedMap Key Value :=
  first.insertMany second.toList

/-! ## Lookups -/

variable [DecidableEq Key]

omit [Std.TransOrd Key] in
theorem lookupEntry_insertEntry (key other : Key) (value : Value) (entries : List (Key × Value)) :
    lookupEntry other (insertEntry key value entries) =
      if other = key then some value else lookupEntry other entries := by
  induction entries with
  | nil => simp [insertEntry, lookupEntry]
  | cons head rest ih =>
    simp only [insertEntry]
    split
    next before => simp [lookupEntry]
    next same =>
      have sameKey : key = head.1 := Std.LawfulEqCmp.eq_of_compare same
      by_cases equal : other = key <;> simp [lookupEntry, equal, ← sameKey]
    next after =>
      have different : key ≠ head.1 := by
        intro equal
        simp [equal, Std.ReflCmp.compare_self] at after
      by_cases equal : other = key
      · subst equal
        simp [lookupEntry, ih, different]
      · simp [lookupEntry, ih, equal]

/-- An insertion changes the lookup of its own key only. -/
@[simp] theorem get?_insert (map : OrderedMap Key Value) (key other : Key) (value : Value) :
    (map.insert key value).get? other = if other = key then some value else map.get? other :=
  lookupEntry_insertEntry key other value map.toList

omit [Std.TransOrd Key] in
theorem lookupEntry_eq_some_iff {key : Key} {value : Value} {entries : List (Key × Value)}
    (sorted : entries.Pairwise fun first second => compare first.1 second.1 = .lt) :
    lookupEntry key entries = some value ↔ (key, value) ∈ entries := by
  induction entries with
  | nil => simp [lookupEntry]
  | cons head rest ih =>
    rw [List.pairwise_cons] at sorted
    by_cases same : key = head.1
    · subst same
      have absent : ∀ found, (head.1, found) ∉ rest := by
        intro found member
        have := sorted.1 _ member
        simp [Std.ReflCmp.compare_self] at this
      simp only [lookupEntry, ↓reduceIte, Option.some.injEq, List.mem_cons, absent, or_false]
      constructor
      · rintro rfl
        rfl
      · intro equal
        exact (congrArg Prod.snd equal).symm
    · have differ : ¬ (key, value) = head := by
        intro equal
        exact same (congrArg Prod.fst equal)
      simp [lookupEntry, same, differ, ih sorted.2]

omit [Std.TransOrd Key] in
/-- A key has a value exactly when the entry is listed. -/
theorem get?_eq_some_iff {map : OrderedMap Key Value} {key : Key} {value : Value} :
    map.get? key = some value ↔ (key, value) ∈ map.toList :=
  lookupEntry_eq_some_iff map.sorted

omit [Std.TransOrd Key] in
/-- A filter keeps the values of the entries that pass. -/
theorem get?_filter (map : OrderedMap Key Value) (keep : Key × Value → Bool) (key : Key) :
    (map.filter keep).get? key = (map.get? key).filter fun value => keep (key, value) := by
  apply Option.ext
  intro value
  rw [get?_eq_some_iff]
  simp only [filter, List.mem_filter, Option.filter_eq_some_iff, get?_eq_some_iff]

omit [Std.TransOrd Key] in
/-- A removed key has no value; the other keys keep theirs. -/
@[simp] theorem get?_erase (map : OrderedMap Key Value) (key other : Key) :
    (map.erase key).get? other = if other = key then none else map.get? other := by
  rw [erase, get?_filter]
  cases map.get? other <;> by_cases equal : other = key <;> simp [equal]

/-- Entries of different keys that are inserted come in front of what has been there. -/
theorem get?_insertMany (map : OrderedMap Key Value) {entries : List (Key × Value)}
    (sorted : entries.Pairwise fun first second => compare first.1 second.1 = .lt) (key : Key) :
    (map.insertMany entries).get? key = (lookupEntry key entries).or (map.get? key) := by
  induction entries generalizing map with
  | nil => rfl
  | cons entry rest ih =>
    obtain ⟨before, restSorted⟩ := List.pairwise_cons.mp sorted
    have inserted : (map.insertMany (entry :: rest)).get? key =
        (lookupEntry key rest).or ((map.insert entry.1 entry.2).get? key) :=
      ih (map.insert entry.1 entry.2) restSorted
    rw [inserted, get?_insert, lookupEntry]
    by_cases same : key = entry.1
    · have absent : lookupEntry key rest = none := by
        apply Option.eq_none_iff_forall_ne_some.mpr
        intro value found
        have behind := before _ ((lookupEntry_eq_some_iff restSorted).mp found)
        rw [← same] at behind
        simp [Std.ReflCmp.compare_self] at behind
      rw [if_pos same, if_pos same, absent]
      rfl
    · rw [if_neg same, if_neg same]

/-- In a union the second map comes in front of the first. -/
@[simp] theorem get?_union (first second : OrderedMap Key Value) (key : Key) :
    (first.union second).get? key = (second.get? key).or (first.get? key) :=
  first.get?_insertMany second.sorted key

theorem ext_get? {first second : OrderedMap Key Value}
    (same : ∀ key, first.get? key = second.get? key) : first = second := by
  obtain ⟨entries, sorted⟩ := first
  obtain ⟨others, sortedOthers⟩ := second
  have members : ∀ entry, entry ∈ entries ↔ entry ∈ others := by
    intro entry
    have here : lookupEntry entry.1 entries = some entry.2 ↔ entry ∈ entries :=
      lookupEntry_eq_some_iff sorted
    have there : lookupEntry entry.1 others = some entry.2 ↔ entry ∈ others :=
      lookupEntry_eq_some_iff sortedOthers
    rw [← here, ← there]
    exact Eq.to_iff (congrArg (· = some entry.2) (same entry.1))
  have nodup : ∀ {list : List (Key × Value)},
      list.Pairwise (fun a b => compare a.1 b.1 = .lt) → list.Nodup := by
    intro list pairwise
    refine pairwise.imp ?_
    intro a b before equal
    subst equal
    simp [Std.ReflCmp.compare_self] at before
  have perm : entries.Perm others :=
    (List.perm_ext_iff_of_nodup (nodup sorted) (nodup sortedOthers)).2 members
  have antisymmetric : ∀ first second : Key × Value, first ∈ entries → second ∈ others →
      compare first.1 second.1 = .lt → compare second.1 first.1 = .lt → first = second := by
    intro first second _ _ before after
    have := Std.TransCmp.lt_trans before after
    simp [Std.ReflCmp.compare_self] at this
  have equal : entries = others := perm.eq_of_pairwise antisymmetric sorted sortedOthers
  subst equal
  rfl

end Order

instance [DecidableEq Key] [DecidableEq Value] : DecidableEq (OrderedMap Key Value) :=
  fun first second =>
    if equal : first.toList = second.toList then
      isTrue (by cases first; cases second; cases equal; rfl)
    else isFalse fun same => equal (congrArg toList same)

end OrderedMap

end EventSourcing
