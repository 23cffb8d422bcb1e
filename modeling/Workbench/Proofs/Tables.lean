import Workbench.Proofs.Ledger

/-! What a table holds after a value was put into it. -/

set_option autoImplicit false

namespace Workbench.Table

variable {α β : Type} (table : Table α) (name : String) (value : α)

theorem names_put :
    (table.put name value).names = if table.contains name then table.names
      else table.names ++ [name] := by
  unfold put
  split
  · simp only [names, List.map_map]
    refine List.map_congr_left fun entry _ => ?_
    by_cases same : entry.1 = name
    · simp [same]
    · simp [same]
  · simp [add, names]

theorem mem_names_put (key : String) : key ∈ (table.put name value).names ↔
    key = name ∨ key ∈ table.names := by
  rw [names_put]
  split
  case isTrue present =>
    have listed : name ∈ table.names := (table.contains_iff name).1 present
    constructor
    · exact Or.inr
    · rintro (rfl | member)
      · exact listed
      · exact member
  case isFalse => rw [List.mem_append, List.mem_singleton, or_comm]

theorem mem_put {entry : String × α} : entry ∈ (table.put name value).entries ↔
    entry = (name, value) ∨ (entry ∈ table.entries ∧ entry.1 ≠ name) := by
  unfold put
  split
  case isTrue present =>
    obtain ⟨held, listed, key⟩ := List.mem_map.1 ((table.contains_iff name).1 present)
    constructor
    · intro member
      obtain ⟨old, listed, rfl⟩ := List.mem_map.1 member
      by_cases same : old.1 = name
      · simp [same]
      · simp [same, listed]
    · rintro (rfl | ⟨listed, other⟩)
      · exact List.mem_map.2 ⟨held, listed, by simp [key]⟩
      · exact List.mem_map.2 ⟨entry, listed, by simp [other]⟩
  case isFalse absent =>
    have other : ∀ entry ∈ table.entries, entry.1 ≠ name := by
      rintro entry listed rfl
      exact absent ((table.contains_iff _).2 (List.mem_map_of_mem listed))
    rw [add, List.mem_append, List.mem_singleton, or_comm]
    exact or_congr_right ⟨fun listed => ⟨listed, other entry listed⟩, And.left⟩

theorem lookup_replace (entries : List (String × α)) (key : String) :
    (entries.map fun entry => if entry.1 == name then (name, value) else entry).lookup key =
      if key = name then (entries.lookup key).map fun _ => value else entries.lookup key := by
  induction entries with
  | nil => simp
  | cons entry rest ih =>
    obtain ⟨other, held⟩ := entry
    rw [List.map_cons, List.lookup_cons]
    by_cases same : other = name
    · subst same
      by_cases asked : key = other
      · simp [asked]
      · rw [if_pos (beq_self_eq_true other), beq_eq_false_iff_ne.2 asked]
        simp only [ih, if_neg asked, List.lookup_cons, beq_eq_false_iff_ne.2 asked]
    · by_cases asked : key = other
      · subst asked
        simp [same]
      · rw [if_neg (by simpa using same), beq_eq_false_iff_ne.2 asked]
        simp only [ih, List.lookup_cons, beq_eq_false_iff_ne.2 asked]

theorem get?_put (key : String) :
    (table.put name value).get? key = if key = name then some value else table.get? key := by
  unfold put
  split
  case isTrue present =>
    rw [get?, lookup_replace]
    split
    case isTrue same =>
      subst same
      obtain ⟨held, found⟩ := Option.isSome_iff_exists.1 present
      rw [get?] at found
      rw [found]
      rfl
    case isFalse => rfl
  case isFalse absent =>
    rw [get?, add, List.lookup_append]
    by_cases same : key = name
    · subst same
      have nothing : table.entries.lookup key = none := Option.not_isSome_iff_eq_none.1 absent
      rw [nothing]
      simp
    · simp [List.lookup_cons, beq_eq_false_iff_ne.2 same, same, get?]

theorem get?_isSome_iff (key : String) : (table.get? key).isSome = true ↔ key ∈ table.names :=
  table.contains_iff key

/-- A table of the same names in the same order, with other values. -/
def map (change : α → β) : Table β := ⟨table.entries.map fun entry => (entry.1, change entry.2)⟩

@[simp] theorem names_map (change : α → β) : (table.map change).names = table.names := by
  simp [names, map]

theorem get?_map (change : α → β) (key : String) :
    (table.map change).get? key = (table.get? key).map change := by
  simp only [get?, map]
  induction table.entries with
  | nil => rfl
  | cons entry rest ih =>
    rw [List.map_cons, List.lookup_cons, List.lookup_cons]
    split
    · rfl
    · exact ih

theorem map_put (change : α → β) :
    (table.put name value).map change = (table.map change).put name (change value) := by
  have same : (table.map change).contains name = table.contains name := by
    rw [contains, get?_map, Option.isSome_map, contains]
  unfold put
  rw [same]
  split
  · simp only [map, List.map_map, Function.comp_def]
    congr 1
    refine List.map_congr_left fun entry _ => ?_
    split <;> rfl
  · simp [add, map]

end Workbench.Table
