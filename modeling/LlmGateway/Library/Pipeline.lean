import Mathlib.Algebra.BigOperators.Group.List.Basic
import Mathlib.Algebra.Order.Group.Abs
import Mathlib.Algebra.Ring.Rat
import Mathlib.Algebra.Order.Ring.Rat
import Mathlib.Tactic.Abel

/-!
# What goes through a pipeline

A pipeline takes items in, and each of them is done or lost at some later time, or still pending. A
measure of the items has a tally (`tally`), and the tally over a pipeline is that of the items taken
in: it grows when one is taken in and stays when one is done or lost.
-/

set_option autoImplicit false

namespace LlmGateway.Library

variable {α M : Type} [AddCommGroup M]

/-- The tally of a measure over a list. -/
def tally (measure : α → M) (items : List α) : M := (items.map measure).sum

section Total

variable {measure : α → M} {items : List α} {item other : α} {place : ℕ}

@[simp] theorem tally_nil : tally measure [] = 0 := rfl

@[simp] theorem tally_append (items more : List α) :
    tally measure (items ++ more) = tally measure items + tally measure more := by
  rw [tally, List.map_append, List.sum_append]
  rfl

@[simp] theorem tally_singleton (item : α) : tally measure [item] = measure item := by
  rw [tally, List.map_singleton, List.sum_singleton]

@[simp] theorem tally_cons (item : α) (items : List α) :
    tally measure (item :: items) = measure item + tally measure items := by
  rw [tally, List.map_cons, List.sum_cons, tally]

theorem tally_congr {other : α → M} (same : ∀ item ∈ items, measure item = other item) :
    tally measure items = tally other items := by
  rw [tally, List.map_congr_left same, tally]

/-- One item in the place of another. -/
theorem tally_set (found : items[place]? = some item) (other : α) :
    tally measure (items.set place other) = tally measure items - measure item + measure other := by
  obtain ⟨inside, rfl⟩ := List.getElem?_eq_some_iff.mp found
  have bound : place < (items.map measure).length := by rwa [List.length_map]
  rw [tally, List.map_set, List.sum_set', dif_pos bound, List.getElem_map, tally]
  abel

theorem tally_eraseIdx (found : items[place]? = some item) :
    measure item + tally measure (items.eraseIdx place) = tally measure items := by
  obtain ⟨inside, rfl⟩ := List.getElem?_eq_some_iff.mp found
  have bound : place < (items.map measure).length := by rwa [List.length_map]
  have whole := List.add_sum_eraseIdx bound fun _ _ => AddCommute.all _ _
  rwa [List.getElem_map, List.eraseIdx_map] at whole

/-- The tally of a sum is the sum of the tallies. -/
theorem tally_add (first second : α → M) (items : List α) :
    tally (fun item => first item + second item) items = tally first items + tally second items :=
  List.sum_map_add

/-- The tally of the items of a kind. -/
theorem tally_filter (p : α → Prop) [DecidablePred p] (items : List α) :
    tally measure (items.filter fun item => p item) =
      tally (fun item => if p item then measure item else 0) items := by
  induction items with
  | nil => rfl
  | cons item items ih =>
      rw [tally_cons, ← ih, List.filter_cons]
      by_cases chosen : p item
      · rw [if_pos (decide_eq_true chosen), if_pos chosen, tally_cons]
      · rw [if_neg (by simp [chosen]), if_neg chosen, zero_add]

theorem sum_map_ite {κ : Type} [DecidableEq κ] {keys : List κ} (distinct : keys.Nodup) (key : κ) (x : M) :
    (keys.map fun k => if key = k then x else 0).sum = if key ∈ keys then x else 0 := by
  induction keys with
  | nil => rfl
  | cons k keys ih =>
      obtain ⟨new, later⟩ := List.nodup_cons.mp distinct
      rw [List.map_cons, List.sum_cons, ih later]
      by_cases same : key = k
      · rw [if_pos same, if_neg (same ▸ new), if_pos (same ▸ List.mem_cons_self), add_zero]
      · simp [same]

/-- **The parts of some items**, one for each of some keys, have the tally of the items with these
keys. -/
theorem sum_tally_filter {κ : Type} [DecidableEq κ] (key : α → κ) {keys : List κ} (distinct : keys.Nodup)
    (items : List α) :
    (keys.map fun k => tally measure (items.filter fun item => key item = k)).sum =
      tally measure (items.filter fun item => key item ∈ keys) := by
  simp only [tally_filter]
  induction items with
  | nil => simp
  | cons item items ih =>
      simp only [tally_cons, List.sum_map_add, ih, sum_map_ite distinct]
end Total

/-- Items that were taken in. -/
structure Pipeline (α : Type) where
  pending : List α := []
  done : List α := []
  lost : List α := []

namespace Pipeline

variable (pipeline : Pipeline α) (measure : α → M)

/-- An item is taken in. -/
def take (item : α) : Pipeline α := { pipeline with pending := pipeline.pending ++ [item] }

/-- A pending item is done. -/
def finish (place : ℕ) : Option (α × Pipeline α) :=
  pipeline.pending[place]?.map fun item =>
    (item, { pipeline with
      pending := pipeline.pending.eraseIdx place, done := pipeline.done ++ [item] })

/-- A pending item is lost. -/
def lose (place : ℕ) : Option (Pipeline α) :=
  pipeline.pending[place]?.map fun item =>
    { pipeline with pending := pipeline.pending.eraseIdx place, lost := pipeline.lost ++ [item] }

/-- The tally over all items that were taken in. -/
def taken : M := tally measure pipeline.pending + tally measure pipeline.done + tally measure pipeline.lost

variable {pipeline measure} {place : ℕ} {item : α} {next : Pipeline α}

theorem taken_take (item : α) :
    (pipeline.take item).taken measure = pipeline.taken measure + measure item := by
  simp only [taken, take, tally_append, tally_singleton]
  abel

theorem finish_eq_some (finished : pipeline.finish place = some (item, next)) :
    next.taken measure = pipeline.taken measure ∧ next.done = pipeline.done ++ [item] := by
  obtain ⟨found, there, same⟩ := Option.map_eq_some_iff.mp finished
  cases same
  refine ⟨?_, rfl⟩
  rw [taken, taken, tally_append, tally_singleton, ← tally_eraseIdx there]
  abel

theorem lose_eq_some (gone : pipeline.lose place = some next) :
    next.taken measure = pipeline.taken measure ∧ next.done = pipeline.done := by
  obtain ⟨item, there, rfl⟩ := Option.map_eq_some_iff.mp gone
  refine ⟨?_, rfl⟩
  rw [taken, taken, tally_append, tally_singleton, ← tally_eraseIdx there]
  abel

end Pipeline

end LlmGateway.Library
