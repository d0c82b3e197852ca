import LlmGateway.Library.Keeping
import Mathlib.Tactic.SplitIfs

/-!
# Procedures that commit more than once

A procedure works on a shared state in several transactions. Each one commits or leaves the state
as it is, but what an earlier one has committed stays when a later one fails. A lapse names the
transaction that is refused, or before which the process stops.
-/

set_option autoImplicit false

namespace LlmGateway.Library

variable {τ ε σ α β : Type}

/-- What goes wrong in a run of a procedure. -/
inductive Lapse (τ : Type) where
  | refused (name : τ)
  | stopped (name : τ)
deriving DecidableEq

/-- How a procedure ends that does not return. -/
inductive Trouble (ε : Type) where
  | raised (error : ε)
  | stopped
deriving DecidableEq

/-- Nothing goes wrong at a transaction. -/
def Spares (lapse : Option (Lapse τ)) (name : τ) : Prop :=
  lapse ≠ some (.stopped name) ∧ lapse ≠ some (.refused name)

theorem spares_none {name : τ} : Spares (none : Option (Lapse τ)) name := ⟨nofun, nofun⟩

/-- One transaction of a procedure. The body gives a result with the state to commit, or an error. -/
def transaction [DecidableEq τ] (lapse : Option (Lapse τ)) (name : τ) (refusal : ε)
    (body : σ → Except ε (α × σ)) : EStateM (Trouble ε) σ α := fun state =>
  if lapse = some (.stopped name) then .error .stopped state
  else if lapse = some (.refused name) then .error (.raised refusal) state
  else
    match body state with
    | .error error => .error (.raised error) state
    | .ok (result, next) => .ok result next

variable [DecidableEq τ] {lapse : Option (Lapse τ)} {name : τ} {refusal : ε}
  {body : σ → Except ε (α × σ)} {state next : σ} {result : α}

/-- A transaction that is spared does what its body says. -/
theorem transaction_apply (spared : Spares lapse name) :
    transaction lapse name refusal body state =
      match body state with
      | .error error => .error (.raised error) state
      | .ok (result, next) => .ok result next := by
  rw [transaction, if_neg spared.1, if_neg spared.2]

/-- **A transaction that ends in trouble has changed nothing.** -/
theorem transaction_error {trouble : Trouble ε}
    (failed : transaction lapse name refusal body state = .error trouble next) : next = state := by
  unfold transaction at failed
  split_ifs at failed
  · cases failed
    rfl
  · cases failed
    rfl
  · split at failed
    · cases failed
      rfl
    · cases failed

/-- A transaction that returns was spared, and its body gave the result. -/
theorem transaction_ok (returned : transaction lapse name refusal body state = .ok result next) :
    Spares lapse name ∧ body state = .ok (result, next) := by
  unfold transaction at returned
  split_ifs at returned with stopped refused
  split at returned
  · cases returned
  · rename_i value committed given
    cases returned
    exact ⟨⟨stopped, refused⟩, given⟩

/-- A transaction that is not spared does nothing. -/
theorem transaction_unspared (unspared : ¬ Spares lapse name) :
    ∃ trouble, transaction lapse name refusal body state = .error trouble state := by
  unfold transaction
  split_ifs with stopped refused
  · exact ⟨_, rfl⟩
  · exact ⟨_, rfl⟩
  · exact absurd ⟨stopped, refused⟩ unspared

/-- A transaction keeps what its body keeps. -/
theorem keeps_transaction {P : σ → Prop}
    (keeps : ∀ state result next, P state → body state = .ok (result, next) → P next) :
    Keeps P (transaction lapse name refusal body) := by
  intro state holds
  cases ended : transaction lapse name refusal body state with
  | error trouble next =>
      obtain rfl := transaction_error ended
      exact holds
  | ok result next => exact keeps state result next holds (transaction_ok ended).2

end LlmGateway.Library
