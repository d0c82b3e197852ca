import LlmGateway.Streams.Reading
import Mathlib.Data.List.Induction

/-!
# Billed and cached counts

`capture_usage` and `ChunkAccumulator.feed` take the counts of the same chunks. A count that a
chunk does not give is kept, by both of them. They differ in the total: `capture_usage` replaces a
missing one by the sum of the other two counts, `feed` keeps the old one.

The last counts decide (`cachedUsage_eq_iff`): the two results are the same exactly when the last
chunk with counts gives a total, or its sum happens to be the total that was given before.
-/

set_option autoImplicit false

namespace LlmGateway

open LlmGateway.Library

/-! ## The two folds -/

/-- The counts that are billed for a stream. -/
def billedUsage (counts : List CountsReading) : Usage :=
  counts.foldl (fun usage counts => counts.apply usage (· + ·)) {}

/-- The counts of the cache entry of a stream. -/
def cachedUsage (counts : List CountsReading) : Usage :=
  counts.foldl (fun usage counts => counts.apply usage fun _ _ => usage.totalTokens) {}

/-- The last count that is given, or zero. -/
def kept (field : CountsReading → Option ℤ) (counts : List CountsReading) : ℤ :=
  max ((counts.filterMap field).getLastD 0) 0

/-- Wherever the last counts come without a total, their sum is the total that was given before. -/
def Balanced (counts : List CountsReading) : Prop :=
  ∀ before last, counts = before ++ [last] → last.total = none →
    max (last.prompt.getD (kept CountsReading.prompt before) +
        last.completion.getD (kept CountsReading.completion before)) 0 =
      kept CountsReading.total before

section Folds

variable (counts : List CountsReading) (last : CountsReading)

theorem kept_append (field : CountsReading → Option ℤ) :
    kept field (counts ++ [last]) = max ((field last).getD (kept field counts)) 0 := by
  unfold kept
  cases given : field last with
  | none => simp [given]
  | some n => simp [given]

theorem billedUsage_append :
    billedUsage (counts ++ [last]) = last.apply (billedUsage counts) (· + ·) := by
  rw [billedUsage, List.foldl_append]
  rfl

theorem cachedUsage_append :
    cachedUsage (counts ++ [last]) =
      last.apply (cachedUsage counts) fun _ _ => (cachedUsage counts).totalTokens := by
  rw [cachedUsage, List.foldl_append]
  rfl

/-- A fold of updates keeps the last given prompt and completion tokens, whatever it does with the
total. -/
theorem apply_kept {usage : Usage}
    (prompt : usage.promptTokens = kept CountsReading.prompt counts)
    (completion : usage.completionTokens = kept CountsReading.completion counts) (total : ℤ → ℤ → ℤ) :
    (last.apply usage total).promptTokens = kept CountsReading.prompt (counts ++ [last]) ∧
      (last.apply usage total).completionTokens =
        kept CountsReading.completion (counts ++ [last]) := by
  rw [kept_append, kept_append, ← prompt, ← completion]
  exact ⟨rfl, rfl⟩

theorem billedUsage_kept :
    (billedUsage counts).promptTokens = kept CountsReading.prompt counts ∧
      (billedUsage counts).completionTokens = kept CountsReading.completion counts := by
  induction counts using List.reverseRecOn with
  | nil => exact ⟨rfl, rfl⟩
  | append_singleton counts last ih =>
      rw [billedUsage_append]
      exact apply_kept counts last ih.1 ih.2 _

theorem cachedUsage_kept :
    cachedUsage counts =
      ⟨kept CountsReading.prompt counts, kept CountsReading.completion counts,
        kept CountsReading.total counts⟩ := by
  induction counts using List.reverseRecOn with
  | nil => rfl
  | append_singleton counts last ih =>
      rw [cachedUsage_append, ih, kept_append, kept_append, kept_append]
      rfl

/-- **The last counts decide** whether the two folds agree. -/
theorem cachedUsage_eq_iff : cachedUsage counts = billedUsage counts ↔ Balanced counts := by
  induction counts using List.reverseRecOn with
  | nil => exact ⟨fun _ before last same => by simp at same, fun _ => rfl⟩
  | append_singleton counts last _ =>
      obtain ⟨prompt, completion⟩ := billedUsage_kept counts
      have balanced : Balanced (counts ++ [last]) ↔ (last.total = none →
          max (last.prompt.getD (kept CountsReading.prompt counts) +
              last.completion.getD (kept CountsReading.completion counts)) 0 =
            kept CountsReading.total counts) := by
        constructor
        · exact fun balanced => balanced counts last rfl
        · intro balanced before other same
          obtain ⟨rfl, ends⟩ := List.append_inj' same rfl
          obtain rfl := List.singleton_inj.mp ends
          exact balanced
      rw [balanced, billedUsage_append, cachedUsage_append, cachedUsage_kept]
      have positive : max (kept CountsReading.total counts) 0 = kept CountsReading.total counts :=
        max_eq_left (le_max_right _ _)
      unfold CountsReading.apply
      cases given : last.total with
      | some total => simp [prompt, completion]
      | none =>
          simp only [prompt, completion, Option.getD_none, Usage.clamped, Usage.mk.injEq, positive,
            true_and, forall_const]
          exact eq_comm

end Folds

/-! ## Lines -/

/-- The counts of the chunks that have some. -/
def countsOf (readings : List ChunkReading) : List CountsReading :=
  readings.filterMap ChunkReading.usage

theorem foldl_usageAbsorb (readings : List ChunkReading) (usage : Usage) :
    (readings.map ChunkReading.usage).foldl Usage.absorb usage =
      (countsOf readings).foldl (fun usage counts => counts.apply usage (· + ·)) usage := by
  induction readings generalizing usage with
  | nil => rfl
  | cons reading rest ih =>
      rw [List.map_cons, List.foldl_cons, ih, countsOf, countsOf]
      cases given : reading.usage with
      | none => rw [List.filterMap_cons_none given, Usage.absorb]
      | some counts => rw [List.filterMap_cons_some given, Usage.absorb, List.foldl_cons]

theorem foldl_absorb_usage (readings : List ChunkReading) (accumulator : ChunkAccumulator) :
    (readings.foldl ChunkAccumulator.absorb accumulator).usage =
      (countsOf readings).foldl (fun usage counts => counts.apply usage fun _ _ => usage.totalTokens)
        accumulator.usage := by
  induction readings generalizing accumulator with
  | nil => rfl
  | cons reading rest ih =>
      rw [List.foldl_cons, ih, countsOf, countsOf]
      cases given : reading.usage with
      | none => rw [List.filterMap_cons_none given, ChunkAccumulator.absorb, given]
      | some counts =>
          rw [List.filterMap_cons_some given, ChunkAccumulator.absorb, given, List.foldl_cons]

/-- **Billed usage and cached usage**: folding `capture_usage` over some lines and feeding them to a
fresh accumulator give the same counts exactly when every chunk can be decoded and read and the
counts are balanced. -/
theorem billed_eq_cached_iff (python : Interpreter) (lines : List String) :
    (∃ usage accumulator,
        lines.foldlM (fun usage line => captureUsage python line usage) ({} : Usage) = .ok usage ∧
          lines.forM (ChunkAccumulator.feed python) {} = .ok () accumulator ∧
            accumulator.usage = usage) ↔
      ∃ readings, readingsOf python lines = some readings ∧ Balanced (countsOf readings) := by
  have fed := forM_feed_reading python lines {}
  cases read : readingsOf python lines with
  | none =>
      rw [read] at fed
      constructor
      · rintro ⟨usage, accumulator, -, ok, -⟩
        rw [ok] at fed
        cases fed
      · rintro ⟨readings, ⟨⟩, -⟩
  | some readings =>
      have captured := foldlM_captureUsage_reading read {}
      rw [foldl_usageAbsorb] at captured
      have counts : (readings.foldl ChunkAccumulator.absorb {}).usage = cachedUsage (countsOf readings) :=
        foldl_absorb_usage readings {}
      rw [read] at fed
      constructor
      · rintro ⟨usage, accumulator, took, ok, same⟩
        refine ⟨readings, rfl, (cachedUsage_eq_iff _).mp ?_⟩
        rw [ok] at fed
        cases fed
        rw [captured] at took
        exact counts.symm.trans (same.trans (Except.ok.inj took).symm)
      · rintro ⟨_, ⟨⟩, balanced⟩
        cases ok : lines.forM (ChunkAccumulator.feed python) {} with
        | error exception after =>
            rw [ok] at fed
            cases fed
        | ok _ accumulator =>
            rw [ok] at fed
            cases fed
            exact ⟨_, _, captured, rfl, counts.trans ((cachedUsage_eq_iff _).mpr balanced)⟩

/-- A chunk that gives its prompt and its completion tokens, but no total. -/
def totalLess : String :=
  eventLine (Json.dumps .spaced
    (.obj [("usage", .obj [("prompt_tokens", .int 1), ("completion_tokens", .int 2)])]))

/-- Three tokens are billed for it, and the cache entry has none. -/
theorem total_forgotten :
    ¬ ∃ usage accumulator,
      [totalLess].foldlM (fun usage line => captureUsage .standard line usage) ({} : Usage) =
          .ok usage ∧
        [totalLess].forM (ChunkAccumulator.feed .standard) {} = .ok () accumulator ∧
          accumulator.usage = usage := by
  rintro ⟨usage, accumulator, captured, fed, same⟩
  have billed : [totalLess].foldlM (fun usage line => captureUsage .standard line usage)
      ({} : Usage) = .ok ⟨1, 2, 3⟩ := by decide +kernel
  have cached : (match [totalLess].forM (ChunkAccumulator.feed .standard) {} with
      | .ok _ accumulator => accumulator.usage.totalTokens == 0
      | .error _ _ => false) = true := by decide +kernel
  rw [fed] at cached
  obtain rfl := Except.ok.inj (captured.symm.trans billed)
  have total : accumulator.usage.totalTokens = 0 := beq_iff_eq.mp cached
  rw [same] at total
  cases total

end LlmGateway
