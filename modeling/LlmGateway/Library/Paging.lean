import Mathlib.Data.List.Sort

/-!
# Pages of a collection that grows

A collection is read in slices, from the largest key down. An element is in the slice that covers
its position, and its position is the number of elements ahead of it (`ahead`). Elements that are
added in between can only push it back, so a reader that goes on by as much as it has read finds it
in the next slice or has it ahead (`mem_slice_or_ahead`). Nothing is ahead of a reader that finds an
empty slice (`not_ahead_of_nil`).
-/

set_option autoImplicit false

namespace LlmGateway.Library.Paging

variable {α κ : Type} [LinearOrder κ] (key : α → κ)

/-- Larger keys come first. -/
def Descends (first second : α) : Prop := key second ≤ key first

instance : DecidableRel (Descends key) := fun first second =>
  inferInstanceAs (Decidable (key second ≤ key first))

instance : Std.Total (Descends key) := ⟨fun first second => le_total (key second) (key first)⟩

instance : IsTrans α (Descends key) := ⟨fun _ _ _ left right => le_trans right left⟩

/-- The elements in the order in which they are read. -/
def arranged (l : List α) : List α := l.insertionSort (Descends key)

/-- At most `limit` elements, after the first `offset`. -/
def slice (l : List α) (limit offset : ℕ) : List α := ((arranged key l).drop offset).take limit

/-- How many elements come before a key. -/
def ahead (l : List α) (place : κ) : ℕ := l.countP fun other => decide (place < key other)

variable {key} {l : List α}

theorem length_arranged (l : List α) : (arranged key l).length = l.length :=
  List.length_insertionSort (Descends key) l

theorem mem_arranged {x : α} : x ∈ arranged key l ↔ x ∈ l := List.mem_insertionSort (Descends key)

/-- Different keys stand in strictly descending order. -/
theorem arranged_strict (distinct : (l.map key).Nodup) :
    (arranged key l).Pairwise fun first second => key second < key first := by
  have sorted := List.pairwise_insertionSort (Descends key) l
  have apart : ((arranged key l).map key).Nodup :=
    ((List.perm_insertionSort (Descends key) l).map key).nodup_iff.mpr distinct
  exact (sorted.and (List.pairwise_map.mp apart)).imp fun ⟨before, differs⟩ =>
    lt_of_le_of_ne before differs.symm

/-- A new largest key comes first. -/
theorem arranged_cons {x : α} (largest : ∀ other ∈ l, key other < key x) :
    arranged key (x :: l) = x :: arranged key l := by
  rw [arranged, List.insertionSort_cons]
  change (arranged key l).orderedInsert (Descends key) x = _
  cases rest : arranged key l with
  | nil => rfl
  | cons first others =>
      have there : first ∈ l := mem_arranged.mp (rest ▸ List.mem_cons_self)
      exact List.orderedInsert_cons_of_le _ _ (largest first there).le

/-- In strictly descending order an element stands behind those that are ahead of it. -/
theorem getElem?_ahead {x : α} (strict : l.Pairwise fun first second => key second < key first)
    (member : x ∈ l) : l[ahead key l (key x)]? = some x := by
  induction l with
  | nil => cases member
  | cons first rest ih =>
      obtain ⟨before, strict⟩ := List.pairwise_cons.mp strict
      rcases List.mem_cons.mp member with rfl | later
      · have none : rest.countP (fun other => decide (key x < key other)) = 0 :=
          List.countP_eq_zero.mpr fun other there => by simpa using (before other there).le
        rw [ahead, List.countP_cons, none]
        simp
      · have one : ahead key (first :: rest) (key x) = ahead key rest (key x) + 1 := by
          rw [ahead, List.countP_cons, if_pos (decide_eq_true (before x later))]
          rfl
        rw [one, List.getElem?_cons_succ]
        exact ih strict later

/-- An element is read in the slice that covers its position. -/
theorem mem_slice {x : α} {limit offset : ℕ} (distinct : (l.map key).Nodup) (member : x ∈ l)
    (low : offset ≤ ahead key l (key x)) (high : ahead key l (key x) < offset + limit) :
    x ∈ slice key l limit offset := by
  have place := getElem?_ahead (arranged_strict distinct) (mem_arranged.mpr member)
  have same : ahead key (arranged key l) (key x) = ahead key l (key x) :=
    (List.perm_insertionSort (Descends key) l).countP_eq _
  rw [same] at place
  refine List.mem_of_getElem? (i := ahead key l (key x) - offset) ?_
  rw [slice, List.getElem?_take_of_lt (by omega), List.getElem?_drop,
    show offset + (ahead key l (key x) - offset) = ahead key l (key x) by omega, place]

/-- **What one slice does for an element that is ahead**: it is read, or it is still ahead. -/
theorem mem_slice_or_ahead {x : α} {limit offset : ℕ} (distinct : (l.map key).Nodup)
    (member : x ∈ l) (before : offset ≤ ahead key l (key x)) :
    x ∈ slice key l limit offset ∨ offset + limit ≤ ahead key l (key x) :=
  (Nat.lt_or_ge _ (offset + limit)).imp (mem_slice distinct member before) id

/-- **Growth** only pushes positions back. -/
theorem ahead_mono {more : List α} (distinct : (l.map key).Nodup) (grown : l ⊆ more) (place : κ) :
    ahead key l place ≤ ahead key more place :=
  (List.subperm_of_subset (List.Nodup.of_map key distinct) grown).countP_le _

theorem ahead_lt_length {x : α} (member : x ∈ l) : ahead key l (key x) < l.length := by
  refine lt_of_le_of_ne List.countP_le_length fun whole => ?_
  have itself := List.countP_eq_length.mp whole x member
  simp at itself

theorem slice_eq_nil_iff {limit offset : ℕ} (positive : 0 < limit) :
    slice key l limit offset = [] ↔ l.length ≤ offset := by
  rw [slice, List.take_eq_nil_iff, List.drop_eq_nil_iff, length_arranged]
  exact or_iff_right positive.ne'

/-- Nothing is ahead of an empty slice. -/
theorem not_ahead_of_nil {x : α} {limit offset : ℕ} (positive : 0 < limit) (member : x ∈ l)
    (empty : slice key l limit offset = []) : ¬ offset ≤ ahead key l (key x) := by
  have short := (slice_eq_nil_iff positive).mp empty
  have inside : ahead key l (key x) < l.length := ahead_lt_length member
  omega

/-- Slices of a collection that stays as it is continue one another. -/
theorem take_append_slice (l : List α) (limit offset : ℕ) :
    (arranged key l).take offset ++ slice key l limit offset =
      (arranged key l).take (offset + limit) :=
  (List.take_add ..).symm

end LlmGateway.Library.Paging
