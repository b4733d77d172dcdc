import EventSourcing.Metadata

/-!
# Laws of metadata

Metadata are determined by what they say under each key (`Metadata.ext_get?`).  Merging puts
the second metadata in front of the first under each key, removing takes keys away, and the
laws of both are laws of such lookups: merging is associative, with the empty metadata as its
neutral element, and keys may be removed before or after it.
-/

namespace EventSourcing

namespace Metadata

theorem ext_get? {first second : Metadata}
    (same : ∀ key, first.get? key = second.get? key) : first = second := by
  obtain ⟨entries⟩ := first
  obtain ⟨others⟩ := second
  exact congrArg Metadata.mk (OrderedMap.ext_get? same)

@[simp] theorem get?_empty (key : String) : (empty : Metadata).get? key = none := rfl

/-- Leaving out the union with nothing makes no difference. -/
theorem merge_eq_union (first second : Metadata) :
    first.merge second = ⟨first.entries.union second.entries⟩ := by
  unfold merge
  split
  next nothing =>
    have noEntries : second.entries.toList = [] := List.isEmpty_iff.mp nothing
    rw [OrderedMap.union, noEntries]
    rfl
  next => rfl

@[simp] theorem get?_merge (first second : Metadata) (key : String) :
    (first.merge second).get? key = (second.get? key).or (first.get? key) := by
  rw [merge_eq_union]
  exact OrderedMap.get?_union first.entries second.entries key

theorem get?_merge_eq_ite (first second : Metadata) (key : String) :
    (first.merge second).get? key =
      if second.contains key then second.get? key else first.get? key := by
  have isContained : second.contains key = (second.get? key).isSome := rfl
  rw [get?_merge, isContained]
  cases second.get? key <;> rfl

/-- Removed keys have no value; the others keep theirs. -/
@[simp] theorem get?_without (metadata : Metadata) (keys : List String) (key : String) :
    (metadata.without keys).get? key = if key ∈ keys then none else metadata.get? key := by
  induction keys generalizing metadata with
  | nil => rfl
  | cons removed rest ih =>
    have next : (metadata.without (removed :: rest)).get? key =
        if key ∈ rest then none else (metadata.entries.erase removed).get? key :=
      ih ⟨metadata.entries.erase removed⟩
    rw [next, OrderedMap.get?_erase]
    by_cases isRemoved : key = removed
    · simp [isRemoved]
    · simp [isRemoved, get?]

/-! ## The monoid -/

theorem merge_assoc (first second third : Metadata) :
    (first.merge second).merge third = first.merge (second.merge third) := by
  apply ext_get?
  intro key
  simp only [get?_merge, Option.or_assoc]

@[simp] theorem merge_empty (metadata : Metadata) : metadata.merge .empty = metadata := rfl

@[simp] theorem empty_merge (metadata : Metadata) : empty.merge metadata = metadata := by
  apply ext_get?
  intro key
  rw [get?_merge, get?_empty, Option.or_none]

theorem merge_without (first second : Metadata) (keys : List String) :
    (first.merge second).without keys = (first.without keys).merge (second.without keys) := by
  apply ext_get?
  intro key
  by_cases removed : key ∈ keys
  · simp [removed]
  · simp [removed]

/-! ## Layers -/

/-- What metadata say under a key when others have been laid under them, the first ones the
deepest. -/
def layered (layers : List Metadata) (own : Metadata) (key : String) : Option Json :=
  (own.get? key).or (layers.reverse.findSome? fun layer => layer.get? key)

/-- Metadata merged onto layers, one after another from the last. -/
theorem get?_foldr_merge (layers : List Metadata) (own : Metadata) (key : String) :
    (layers.foldr merge own).get? key = layered layers own key := by
  induction layers with
  | nil => simp [layered]
  | cons layer rest ih =>
    rw [List.foldr_cons, get?_merge, ih, layered, layered, List.reverse_cons,
      List.findSome?_append, Option.or_assoc]
    simp

/-- In the metadata a key has the value of the last layer that has the key. -/
example :
    layered [.single "user" (.string "system"), .single "user" (.string "batch"),
        .single "origin" (.string "billing")] (.single "note" .null) "user" =
      some (.string "batch") := by
  decide

end Metadata

end EventSourcing
