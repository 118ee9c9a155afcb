import Mathlib.Data.List.Nodup

/-!
# Lists with a unique key

`replace` puts a value in the place of the element with its key.  While keys
are unique this changes one element at most, so that lookups, filters and
counts after it follow from the ones before.
-/

namespace KeyedList

variable {α κ : Type*} [DecidableEq κ] (key : α → κ)

/-- The list with this value in the place of every element that has its key. -/
def replace (value : α) (list : List α) : List α :=
  list.map fun other => if key other = key value then value else other

variable {key} {list : List α} {old value : α}

@[simp] theorem map_key_replace (value : α) (list : List α) :
    (replace key value list).map key = list.map key := by
  rw [replace, List.map_map]
  refine List.map_congr_left fun other _ => ?_
  by_cases same : key other = key value <;> simp [same]

/-- Of two values with one key the second one is left. -/
theorem replace_replace (key : α → κ) {first second : α} (same : key first = key second)
    (list : List α) : replace key second (replace key first list) = replace key second list := by
  rw [replace, replace, replace, List.map_map]
  refine List.map_congr_left fun other _ => ?_
  by_cases here : key other = key second <;> simp [here, same]

theorem replace_of_absent (absent : ∀ other ∈ list, key other ≠ key value) :
    replace key value list = list := by
  conv_rhs => rw [← List.map_id' list]
  exact List.map_congr_left fun other member => if_neg (absent other member)

theorem mem_replace_self (member : old ∈ list) (same : key old = key value) :
    value ∈ replace key value list :=
  List.mem_map.mpr ⟨old, member, if_pos same⟩

/-- Elements of other keys stay, and none is added. -/
theorem mem_replace_of_ne (other : key old ≠ key value) :
    old ∈ replace key value list ↔ old ∈ list := by
  rw [replace, List.mem_map]
  constructor
  · rintro ⟨before, member, same⟩
    split at same
    · exact absurd (congrArg key same.symm) other
    · exact same ▸ member
  · intro member
    exact ⟨old, member, if_neg other⟩

/-- With unique keys an element is replaced by itself without an effect. -/
theorem replace_self (unique : (list.map key).Nodup) (member : old ∈ list) :
    replace key old list = list := by
  conv_rhs => rw [← List.map_id' list]
  refine List.map_congr_left fun other present => ?_
  split
  · next same => exact (List.inj_on_of_nodup_map unique present member same).symm
  · rfl

/-- A filter that does not tell the old value from the new one. -/
theorem filter_replace (unique : (list.map key).Nodup) (member : old ∈ list)
    (same : key old = key value) {p : α → Bool} (kept : p old = p value) :
    (replace key value list).filter p = replace key value (list.filter p) := by
  rw [replace, replace, List.filter_map]
  congr 1
  refine List.filter_congr fun other present => ?_
  by_cases here : key other = key value
  · rw [List.inj_on_of_nodup_map unique present member (here.trans same.symm)]
    simp [same, kept]
  · simp [here]

/-- A count loses the old value and gains the new one. -/
theorem countP_replace (unique : (list.map key).Nodup) (member : old ∈ list)
    (same : key old = key value) (p : α → Bool) :
    (replace key value list).countP p + (if p old then 1 else 0) =
      list.countP p + (if p value then 1 else 0) := by
  obtain ⟨front, back, rfl⟩ := List.append_of_mem member
  have different : ∀ other ∈ front ++ back, key other ≠ key value := by
    rw [← same]
    simp only [List.map_append, List.map_cons, List.nodup_middle, List.nodup_cons] at unique
    rintro other present here
    rw [← List.map_append, ← here] at unique
    exact unique.1 (List.mem_map_of_mem present)
  have front_same : replace key value front = front :=
    replace_of_absent fun other present => different other (List.mem_append_left back present)
  have back_same : replace key value back = back :=
    replace_of_absent fun other present => different other (List.mem_append_right front present)
  have split : replace key value (front ++ old :: back) = front ++ value :: back := by
    rw [replace, List.map_append, List.map_cons, if_pos same]
    exact congrArg₂ _ front_same (congrArg _ back_same)
  simp only [split, List.countP_append, List.countP_cons]
  omega

end KeyedList
