import LlmGateway.Library.Runs

/-!
# Potentials

The amortised count of a run of a partial step function. An action has a cost, and it may bring
a gain. A rank of the states pays for the actions: no step costs more than what the rank
loses and the action brings.

* `amortised` adds this up over a run: what a run has cost, and what its last state still has,
  is at most what the first state had and what the actions brought.
* `exists_completion` is for actions that bring nothing. Where each state that is not final
  has such an action, a final state is reached, in at most as many steps as the rank allows.
-/

set_option autoImplicit false

namespace LlmGateway.Library

variable {σ α : Type} {step : σ → α → Option σ}

/-- What the actions of a run add up to. -/
def total (weight : α → ℕ) : List α → ℕ
  | [] => 0
  | action :: rest => weight action + total weight rest

@[simp] theorem total_nil (weight : α → ℕ) : total weight [] = 0 := rfl

@[simp] theorem total_snoc (weight : α → ℕ) (actions : List α) (action : α) :
    total weight (actions ++ [action]) = total weight actions + weight action := by
  induction actions with
  | nil =>
      change weight action + 0 = 0 + weight action
      omega
  | cons first rest ih =>
      change weight first + total weight (rest ++ [action]) =
        weight first + total weight rest + weight action
      omega

/-- **The rule of potentials.** -/
theorem amortised {cost gain : α → ℕ} {rank : σ → ℕ} {P : σ → Prop} {start : σ} (initial : P start)
    (kept : ∀ state action next, P state → step state action = some next → P next)
    (pays : ∀ state action next, P state → step state action = some next →
      cost action + rank next ≤ rank state + gain action)
    {actions : List α} {state : σ} (reached : run step start actions = some state) :
    total cost actions + rank state ≤ rank start + total gain actions := by
  have both : P state ∧ total cost actions + rank state ≤ rank start + total gain actions := by
    refine run_induction_of_step (P := fun actions state =>
      P state ∧ total cost actions + rank state ≤ rank start + total gain actions)
      ⟨initial, by simp⟩ ?_ reached
    rintro actions state action next - ⟨holds, paid⟩ moved
    have price := pays state action next holds moved
    refine ⟨kept state action next holds moved, ?_⟩
    rw [total_snoc, total_snoc]
    omega
  exact both.2

/-- **The rule of completion**: where each allowed action keeps a predicate and lowers the
rank, and each state of the predicate that is not final has an allowed action, a final state
is reached by allowed actions. -/
theorem exists_completion {Q : α → Prop} {P final : σ → Prop} {rank : σ → ℕ}
    (lowers : ∀ state action next, P state → Q action → step state action = some next →
      P next ∧ rank next < rank state)
    (advances : ∀ state, P state → ¬ final state →
      ∃ action next, Q action ∧ step state action = some next)
    {start : σ} (holds : P start) :
    ∃ actions last, (∀ action ∈ actions, Q action) ∧ run step start actions = some last ∧
      P last ∧ final last ∧ actions.length ≤ rank start := by
  induction bound : rank start using Nat.strongRecOn generalizing start with
  | ind bound' ih =>
      by_cases done : final start
      · exact ⟨[], start, by simp, rfl, holds, done, Nat.zero_le _⟩
      · obtain ⟨action, next, allowed, moved⟩ := advances start holds done
        obtain ⟨after, lower⟩ := lowers start action next holds allowed moved
        obtain ⟨rest, last, fine, reached, there, ended, short⟩ :=
          ih (rank next) (bound ▸ lower) after rfl
        refine ⟨action :: rest, last, ?_, ?_, there, ended, ?_⟩
        · intro other member
          rcases List.mem_cons.mp member with rfl | later
          · exact allowed
          · exact fine other later
        · rw [run, moved]
          exact reached
        · rw [List.length_cons]
          omega

end LlmGateway.Library
