import EventSourcing.Table
import Mathlib.Data.List.Nodup

/-!
# Keys of tables

A table that grows out of the empty one has every key once.  Its size is then the
number of keys that have a value, and its entries are the values that it finds.
-/

namespace EventSourcing

namespace Table

variable {Key Value : Type} [DecidableEq Key]

theorem mem_keys_iff (table : Table Key Value) (key : Key) :
    key ∈ table.keys ↔ (table.get? key).isSome := by
  obtain ⟨entries⟩ := table
  simp only [keys, get?]
  induction entries with
  | nil => simp [findEntry]
  | cons entry rest ih =>
    by_cases isKey : entry.1 = key
    · simp [findEntry, isKey]
    · simp [findEntry, isKey, ih, Ne.symm isKey]

/-- Changing the values of a table, each in its place, changes what is found. -/
theorem findEntry_map (change : Value → Value) (key : Key) (entries : List (Key × Value)) :
    findEntry key (entries.map fun entry => (entry.1, change entry.2)) =
      (findEntry key entries).map change := by
  induction entries with
  | nil => rfl
  | cons entry rest ih => grind [findEntry]

theorem putEntry_putEntry (key : Key) (first second : Value) (entries : List (Key × Value)) :
    putEntry key second (putEntry key first entries) = putEntry key second entries := by
  induction entries with
  | nil => simp [putEntry]
  | cons entry rest ih =>
    by_cases isKey : entry.1 = key
    · simp [putEntry, isKey]
    · simp [putEntry, isKey, ih]

/-- Of two values that are put under a key the second one counts. -/
theorem put_put (table : Table Key Value) (key : Key) (first second : Value) :
    (table.put key first).put key second = table.put key second :=
  congrArg Table.mk (putEntry_putEntry key first second table.entries)

theorem mem_entries_of_get? {table : Table Key Value} {key : Key} {value : Value}
    (found : table.get? key = some value) : (key, value) ∈ table.entries := by
  obtain ⟨entries⟩ := table
  simp only [get?] at found
  induction entries with
  | nil => simp [findEntry] at found
  | cons entry rest ih => grind [findEntry]

theorem get?_of_mem_entries {table : Table Key Value} (distinct : table.keys.Nodup) {key : Key}
    {value : Value} (listed : (key, value) ∈ table.entries) : table.get? key = some value := by
  obtain ⟨entries⟩ := table
  simp only [keys, get?] at distinct listed ⊢
  induction entries with
  | nil => exact absurd listed List.not_mem_nil
  | cons entry rest ih =>
    rw [List.map_cons, List.nodup_cons] at distinct
    rcases List.mem_cons.mp listed with rfl | later
    · simp [findEntry]
    · have differ : entry.1 ≠ key := by
        rintro rfl
        exact distinct.1 (List.mem_map.mpr ⟨_, later, rfl⟩)
      simp [findEntry, differ, ih distinct.2 later]

theorem map_fst_putEntry (key : Key) (value : Value) (entries : List (Key × Value)) :
    (putEntry key value entries).map Prod.fst =
      if key ∈ entries.map Prod.fst then entries.map Prod.fst
      else entries.map Prod.fst ++ [key] := by
  induction entries with
  | nil => simp [putEntry]
  | cons entry rest ih =>
    by_cases isKey : entry.1 = key
    · simp [putEntry, isKey]
    · simp only [putEntry, isKey, ↓reduceIte, List.map_cons, ih, List.mem_cons,
        Ne.symm isKey, false_or]
      by_cases present : key ∈ rest.map Prod.fst
      · rw [if_pos present, if_pos present]
      · rw [if_neg present, if_neg present, List.cons_append]

theorem keys_put (table : Table Key Value) (key : Key) (value : Value) :
    (table.put key value).keys =
      if key ∈ table.keys then table.keys else table.keys ++ [key] :=
  map_fst_putEntry key value table.entries

theorem keys_erase (table : Table Key Value) (key : Key) :
    (table.erase key).keys = table.keys.filter (· ≠ key) := by
  simp only [keys, erase, List.filter_map, Function.comp_def]

theorem nodup_keys_put {table : Table Key Value} (distinct : table.keys.Nodup) (key : Key)
    (value : Value) : (table.put key value).keys.Nodup := by
  rw [keys_put]
  by_cases present : key ∈ table.keys
  · rwa [if_pos present]
  · rw [if_neg present, List.nodup_append]
    refine ⟨distinct, List.nodup_singleton key, ?_⟩
    rintro other isOther _ (isKey : _ ∈ [key]) rfl
    exact present (List.mem_singleton.mp isKey ▸ isOther)

theorem nodup_keys_erase {table : Table Key Value} (distinct : table.keys.Nodup) (key : Key) :
    (table.erase key).keys.Nodup := by
  rw [keys_erase]
  exact distinct.filter _

/-- The size of a table counts those of given keys that have a value, if these are
all the keys that it can have. -/
theorem size_eq_length_filter {table : Table Key Value} (distinct : table.keys.Nodup)
    {among : List Key} (apart : among.Nodup) (covered : ∀ key ∈ table.keys, key ∈ among) :
    table.size = (among.filter fun key => (table.get? key).isSome).length := by
  have sameKeys : table.keys.Perm (among.filter fun key => (table.get? key).isSome) := by
    rw [List.perm_ext_iff_of_nodup distinct (apart.filter _)]
    intro key
    rw [List.mem_filter, ← mem_keys_iff]
    exact ⟨fun present => ⟨covered key present, present⟩, fun both => both.2⟩
  rw [← sameKeys.length_eq, keys, List.length_map, size]

end Table

end EventSourcing
