import LlmGateway.Library.Json.Value

/-!
# Equality of JSON values

Two values are equal when they are built alike and two objects have the same names with equal
values under them, in whatever order (`Json.Equal`). For values in which no object has a
name twice this is the equality after sorting all objects by their names
(`equal_iff_same`).
-/

set_option autoImplicit false

namespace LlmGateway.Library.Json

mutual
/-- Equal as JSON values: arrays item by item, objects name by name. -/
def Equal : Json → Json → Prop
  | .arr items, other => ∃ others, other = .arr others ∧ EqualItems items others
  | .obj members, other => ∃ others, other = .obj others ∧
      (∀ name, name ∈ members.map Prod.fst ↔ name ∈ others.map Prod.fst) ∧
        EqualMembers members others
  | .null, other => other = .null
  | .bool value, other => other = .bool value
  | .int value, other => other = .int value
  | .float value, other => other = .float value
  | .str value, other => other = .str value
  | .broken text, other => other = .broken text

def EqualItems : List Json → List Json → Prop
  | [], others => others = []
  | item :: rest, others => ∃ first tail, others = first :: tail ∧ Equal item first ∧
      EqualItems rest tail

/-- Each member has an equal one among the others. -/
def EqualMembers : List (String × Json) → List (String × Json) → Prop
  | [], _ => True
  | (name, value) :: rest, others => (∃ other, (name, other) ∈ others ∧ Equal value other) ∧
      EqualMembers rest others
end

/-! ## Objects with sorted keys -/

instance : Std.Total byName := ⟨fun first second => le_total first.1 second.1⟩

instance : IsTrans (String × Json) byName := ⟨fun _ _ _ low high => le_trans low high⟩

/-- Sorting by name is determined by the members, when no name occurs twice. -/
theorem insertionSort_eq_iff {first second : List (String × Json)}
    (distinct : (first.map Prod.fst).Nodup) (also : (second.map Prod.fst).Nodup) :
    first.insertionSort byName = second.insertionSort byName ↔
      ∀ member, member ∈ first ↔ member ∈ second := by
  constructor
  · intro sorted member
    rw [← List.mem_insertionSort byName, sorted, List.mem_insertionSort]
  · intro same
    have perm : first.Perm second :=
      (List.perm_ext_iff_of_nodup (List.Nodup.of_map _ distinct) (List.Nodup.of_map _ also)).mpr
        same
    have sorted := ((List.perm_insertionSort byName first).trans perm).trans
      (List.perm_insertionSort byName second).symm
    -- members with the same name are the same member
    refine sorted.eq_of_pairwise (fun one other there here low high => ?_)
      (List.pairwise_insertionSort byName first) (List.pairwise_insertionSort byName second)
    have member := (same one).mp ((List.mem_insertionSort byName).mp there)
    exact List.inj_on_of_nodup_map also member ((List.mem_insertionSort byName).mp here)
      (le_antisymm low high)

/-- The value under a name of a dictionary is determined by the name. -/
theorem value_unique {members : List (String × Json)} (distinct : (members.map Prod.fst).Nodup)
    {name : String} {value other : Json} (member : (name, value) ∈ members)
    (also : (name, other) ∈ members) : value = other :=
  congrArg Prod.snd (List.inj_on_of_nodup_map distinct member also rfl)

theorem equal_obj_iff {members others : List (String × Json)}
    (distinct : (members.map Prod.fst).Nodup) (also : (others.map Prod.fst).Nodup)
    (inner : EqualMembers members others ↔
      ∀ member ∈ sortMembers members, member ∈ sortMembers others) :
    Equal (.obj members) (.obj others) ↔ Same (.obj members) (.obj others) := by
  have one : ((sortMembers members).map Prod.fst).Nodup := (sortMembers_names members).symm ▸ distinct
  have two : ((sortMembers others).map Prod.fst).Nodup := (sortMembers_names others).symm ▸ also
  simp only [Same, sortKeys, Json.obj.injEq, insertionSort_eq_iff one two, Equal, exists_eq_left',
    inner]
  rw [← sortMembers_names members, ← sortMembers_names others]
  constructor
  · rintro ⟨names, within⟩ ⟨name, value⟩
    refine ⟨within _, fun there => ?_⟩
    -- the member of this name on the left is this member
    obtain ⟨⟨given, other⟩, member, rfl⟩ :=
      List.mem_map.mp ((names name).mpr (List.mem_map.mpr ⟨_, there, rfl⟩))
    rwa [value_unique two there (within _ member)]
  · intro same
    refine ⟨fun name => ?_, fun member there => (same member).mp there⟩
    simp only [List.mem_map, same]

/-! ## Equality and sorting -/

mutual
theorem equal_iff_same : ∀ (value other : Json), value.Keyed → other.Keyed →
    (Equal value other ↔ Same value other)
  | .null, other, _, _ => by cases other <;> simp [Equal, Same, sortKeys]
  | .bool value, other, _, _ => by cases other <;> simp [Equal, Same, sortKeys, eq_comm]
  | .int value, other, _, _ => by cases other <;> simp [Equal, Same, sortKeys, eq_comm]
  | .float value, other, _, _ => by cases other <;> simp [Equal, Same, sortKeys, eq_comm]
  | .str value, other, _, _ => by cases other <;> simp [Equal, Same, sortKeys, eq_comm]
  | .broken text, other, _, _ => by cases other <;> simp [Equal, Same, sortKeys, eq_comm]
  | .arr items, other, keyed, also => by
      cases other with
      | arr others =>
          simp only [Keyed] at keyed also
          simp only [Equal, Same, sortKeys, Json.arr.injEq, exists_eq_left']
          exact equalItems_iff items others keyed also
      | _ => simp [Equal, Same, sortKeys]
  | .obj members, other, keyed, also => by
      cases other with
      | obj others =>
          simp only [Keyed] at keyed also
          exact equal_obj_iff keyed.1 also.1 (equalMembers_iff members others keyed.2 also.2)
      | _ => simp [Equal, Same, sortKeys]

theorem equalItems_iff : ∀ (items others : List Json), KeyedItems items → KeyedItems others →
    (EqualItems items others ↔ sortItems items = sortItems others)
  | [], others, _, _ => by cases others <;> simp [EqualItems, sortItems]
  | item :: rest, others, keyed, also => by
      cases others with
      | nil => simp [EqualItems, sortItems]
      | cons first tail =>
          simp only [KeyedItems] at keyed also
          have head := equal_iff_same item first keyed.1 also.1
          have onward := equalItems_iff rest tail keyed.2 also.2
          simp only [EqualItems, sortItems, List.cons.injEq, ← onward]
          constructor
          · rintro ⟨_, _, ⟨rfl, rfl⟩, same, others⟩
            exact ⟨head.mp same, others⟩
          · rintro ⟨same, others⟩
            exact ⟨first, tail, ⟨rfl, rfl⟩, head.mpr same, others⟩

theorem equalMembers_iff : ∀ (members others : List (String × Json)), KeyedMembers members →
    KeyedMembers others → (EqualMembers members others ↔
      ∀ member ∈ sortMembers members, member ∈ sortMembers others)
  | [], _, _, _ => by simp [EqualMembers, sortMembers]
  | (name, value) :: rest, others, keyed, also => by
      simp only [KeyedMembers] at keyed
      have onward := equalMembers_iff rest others keyed.2 also
      simp only [EqualMembers, sortMembers, List.forall_mem_cons, onward, mem_sortMembers]
      refine and_congr_left fun _ => exists_congr fun other => and_congr_right fun there => ?_
      have inner : other.Keyed := (keyedMembers_iff others).mp also (name, other) there
      rw [equal_iff_same value other keyed.1 inner]
      exact eq_comm
end

end LlmGateway.Library.Json
