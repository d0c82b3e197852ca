import Mathlib.Data.List.Sort

/-!
# Filters of a stable sort

Insertion sort by a total and transitive relation keeps the order of equals. Elements that are
filtered out before the sort or after it are therefore the same loss (`filter_insertionSort`).
-/

set_option autoImplicit false

namespace LlmGateway.Library

variable {α : Type} (r : α → α → Prop) [DecidableRel r] (p : α → Bool)

/-- An element that does not pass the filter can be left out before it is inserted. -/
theorem filter_orderedInsert_of_not {a : α} (refused : p a = false) (l : List α) :
    (l.orderedInsert r a).filter p = l.filter p := by
  induction l with
  | nil => simp [refused]
  | cons b rest ih =>
      rw [List.orderedInsert]
      split_ifs
      · simp [refused]
      · rw [List.filter_cons, List.filter_cons, ih]

/-- An element that passes the filter is inserted at the same place among those that do. -/
theorem filter_orderedInsert_of_pos [IsTrans α r] {a : α} (passed : p a = true) {l : List α}
    (ordered : l.Pairwise r) :
    (l.orderedInsert r a).filter p = (l.filter p).orderedInsert r a := by
  induction l with
  | nil => simp [passed]
  | cons b rest ih =>
      obtain ⟨below, ordered⟩ := List.pairwise_cons.mp ordered
      rw [List.orderedInsert]
      split_ifs with before
      · have first : ∀ c ∈ (b :: rest).filter p, r a c := by
          intro c member
          rcases List.mem_cons.mp (List.mem_of_mem_filter member) with rfl | later
          · exact before
          · exact IsTrans.trans _ _ _ before (below c later)
        rw [List.filter_cons_of_pos passed]
        cases kept : (b :: rest).filter p with
        | nil => rfl
        | cons c others =>
            rw [List.orderedInsert, if_pos (first c (kept ▸ List.mem_cons_self))]
      · rw [List.filter_cons, List.filter_cons, ih ordered]
        split_ifs
        · rw [List.orderedInsert, if_neg before]
        · rfl

/-- **Filtering and sorting** in either order give the same list. -/
theorem filter_insertionSort [Std.Total r] [IsTrans α r] (l : List α) :
    (l.filter p).insertionSort r = (l.insertionSort r).filter p := by
  induction l with
  | nil => rfl
  | cons a rest ih =>
      cases passed : p a with
      | true =>
          rw [List.filter_cons_of_pos passed, List.insertionSort_cons, List.insertionSort_cons, ih,
            filter_orderedInsert_of_pos r p passed (List.pairwise_insertionSort r rest)]
      | false =>
          rw [List.filter_cons_of_neg (by simp [passed]), List.insertionSort_cons, ih,
            filter_orderedInsert_of_not r p passed]

end LlmGateway.Library
