/-!
# Tables

A table maps keys to values in the order in which the keys were first put in.
Putting a value under a key that is already there replaces the value in place.
-/

namespace EventSourcing

/-- Values under keys, in the order of the first appearance of each key. -/
structure Table (Key Value : Type) where
  entries : List (Key × Value)

namespace Table

variable {Key Value : Type}

def empty : Table Key Value := ⟨[]⟩

instance : Inhabited (Table Key Value) := ⟨empty⟩

def keys (table : Table Key Value) : List Key := table.entries.map Prod.fst

def size (table : Table Key Value) : Nat := table.entries.length

variable [DecidableEq Key]

/-- Replaces the value of a key, or adds the key behind the others. -/
def putEntry (key : Key) (value : Value) : List (Key × Value) → List (Key × Value)
  | [] => [(key, value)]
  | entry :: rest =>
    if entry.1 = key then (key, value) :: rest else entry :: putEntry key value rest

def findEntry (key : Key) : List (Key × Value) → Option Value
  | [] => none
  | entry :: rest => if entry.1 = key then some entry.2 else findEntry key rest

/-- Puts a value under a key, replacing an earlier one. -/
def put (table : Table Key Value) (key : Key) (value : Value) : Table Key Value :=
  ⟨putEntry key value table.entries⟩

def get? (table : Table Key Value) (key : Key) : Option Value := findEntry key table.entries

def contains (table : Table Key Value) (key : Key) : Bool := (table.get? key).isSome

def erase (table : Table Key Value) (key : Key) : Table Key Value :=
  ⟨table.entries.filter fun entry => entry.1 ≠ key⟩

@[simp] theorem get?_empty (key : Key) : (empty : Table Key Value).get? key = none := rfl

theorem findEntry_putEntry (key other : Key) (value : Value) (entries : List (Key × Value)) :
    findEntry other (putEntry key value entries) =
      if other = key then some value else findEntry other entries := by
  induction entries with
  | nil => grind [putEntry, findEntry]
  | cons entry rest ih => grind [putEntry, findEntry]

/-- Putting a value changes the look-up of its own key only. -/
@[simp] theorem get?_put (table : Table Key Value) (key other : Key) (value : Value) :
    (table.put key value).get? other = if other = key then some value else table.get? other :=
  findEntry_putEntry key other value table.entries

/-- A removed key has no value; the others keep theirs. -/
@[simp] theorem get?_erase (table : Table Key Value) (key other : Key) :
    (table.erase key).get? other = if other = key then none else table.get? other := by
  obtain ⟨entries⟩ := table
  simp only [erase, get?]
  induction entries with
  | nil => simp [findEntry]
  | cons entry rest ih => grind [findEntry]

end Table

end EventSourcing
