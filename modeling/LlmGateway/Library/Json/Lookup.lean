import LlmGateway.Library.Json.Equal
import LlmGateway.Library.Json.Texts

/-!
# Looking up and assigning

An object without a name twice is a finite map from its names: a member stands in it exactly when it
is found under its name (`mem_iff_lookup`), and two such objects are the same JSON value exactly when
they have the same values under all names (`same_iff_lookup`). Assigning changes one name of the map
(`lookup_assign`), so it keeps sameness (`same_assign`).
-/

set_option autoImplicit false

namespace LlmGateway.Library.Json

/-- A dictionary is a map from its names. -/
theorem mem_iff_lookup {members : List (String × Json)} (distinct : (members.map Prod.fst).Nodup)
    {name : String} {value : Json} :
    (name, value) ∈ members ↔ lookup name members = some value := by
  induction members with
  | nil => simp [lookup]
  | cons member rest ih =>
      obtain ⟨other, held⟩ := member
      rw [List.map_cons, List.nodup_cons] at distinct
      by_cases same : other = name
      · subst same
        have fresh : (other, value) ∉ rest := by
          intro later
          have again : other ∈ rest.map Prod.fst := List.mem_map_of_mem (f := Prod.fst) later
          exact distinct.1 again
        simp [lookup, fresh, eq_comm]
      · have apart : ¬ name = other := fun equal => same equal.symm
        simp only [lookup, if_neg same, List.mem_cons, Prod.mk.injEq, apart, false_and, false_or]
        exact ih distinct.2

theorem lookup_assign (key name : String) (value : Json) (members : List (String × Json)) :
    lookup name (assign key value members) = if key = name then some value else lookup name members := by
  induction members with
  | nil => rfl
  | cons member rest ih =>
      obtain ⟨other, old⟩ := member
      by_cases same : other = key
      · subst same
        simp only [assign, if_pos, lookup]
        split <;> rfl
      · simp only [assign, if_neg same, lookup, ih]
        by_cases found : other = name
        · rw [if_pos found, if_pos found, if_neg fun equal => same (found.trans equal.symm)]
        · rw [if_neg found, if_neg found]

/-- With sorted keys an object has the sorted values under its names. -/
theorem mem_sortMembers_iff {members : List (String × Json)}
    (distinct : (members.map Prod.fst).Nodup) {name : String} {value : Json} :
    (name, value) ∈ sortMembers members ↔ (lookup name members).map sortKeys = some value := by
  rw [mem_sortMembers, Option.map_eq_some_iff]
  exact exists_congr fun _ => and_congr_left fun _ => mem_iff_lookup distinct

/-- **The same JSON value under every name.** -/
theorem same_iff_lookup {first second : List (String × Json)}
    (distinct : (first.map Prod.fst).Nodup) (also : (second.map Prod.fst).Nodup) :
    Same (.obj first) (.obj second) ↔
      ∀ name, (lookup name first).map sortKeys = (lookup name second).map sortKeys := by
  have one : ((sortMembers first).map Prod.fst).Nodup := (sortMembers_names first).symm ▸ distinct
  have two : ((sortMembers second).map Prod.fst).Nodup := (sortMembers_names second).symm ▸ also
  simp only [Same, sortKeys, Json.obj.injEq, insertionSort_eq_iff one two]
  constructor
  · intro same name
    refine Option.ext fun value => ?_
    rw [← mem_sortMembers_iff distinct, ← mem_sortMembers_iff also]
    exact same (name, value)
  · rintro same ⟨name, value⟩
    rw [mem_sortMembers_iff distinct, mem_sortMembers_iff also, same name]

/-- Assigning the same value keeps two objects the same. -/
theorem same_assign {first second : List (String × Json)}
    (distinct : (first.map Prod.fst).Nodup) (also : (second.map Prod.fst).Nodup)
    (same : Same (.obj first) (.obj second)) (key : String) {value other : Json}
    (equal : Same value other) : Same (.obj (assign key value first)) (.obj (assign key other second)) := by
  rw [same_iff_lookup (nodup_assign distinct) (nodup_assign also)]
  intro name
  rw [lookup_assign, lookup_assign]
  split
  · exact congrArg some equal
  · exact (same_iff_lookup distinct also).mp same name

end LlmGateway.Library.Json
