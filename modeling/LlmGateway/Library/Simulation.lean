import LlmGateway.Library.Runs

/-!
# Simulation of one system by another

Two systems run side by side. Each action of the first one is an action of the second one, or is
hidden from it (`observe`). A relation between their states is a simulation when every step of the
first system that meets a condition is matched: by the step of the second system with what is
observed, or by none when the action is hidden. Then every run of the first system is
matched by the run of the second one with everything that is observed (`Simulates.run`).

The second system is a function of what it does, so it has one such run. Where each step of the first
is possible exactly if one of the second is, so is each run (`run_tracked`).
-/

set_option autoImplicit false

namespace LlmGateway.Library

variable {σ τ α β : Type}

/-- A relation between the states of two systems is kept by their steps. -/
structure Simulates (step : σ → α → Option σ) (other : τ → β → Option τ) (observe : α → Option β)
    (C : σ → α → σ → Prop) (R : σ → τ → Prop) : Prop where
  matched : ∀ state action next twin seen, R state twin → step state action = some next →
    C state action next → observe action = some seen →
      ∃ later, other twin seen = some later ∧ R next later
  hidden : ∀ state action next twin, R state twin → step state action = some next →
    C state action next → observe action = none → R next twin

variable {step : σ → α → Option σ} {other : τ → β → Option τ} {observe : α → Option β}
  {C : σ → α → σ → Prop} {R : σ → τ → Prop}

/-- **The rule of simulation.** -/
theorem Simulates.run (simulates : Simulates step other observe C R) {start state : σ} {twin : τ}
    {actions : List α} (related : R start twin) (throughout : Throughout step C start actions)
    (reached : run step start actions = some state) :
    ∃ later, Library.run other twin (actions.filterMap observe) = some later ∧ R state later := by
  refine run_induction (P := fun actions state =>
    ∃ later, Library.run other twin (actions.filterMap observe) = some later ∧ R state later)
    ⟨twin, rfl, related⟩ ?_ throughout reached
  rintro before middle action next - ⟨later, ran, holds⟩ moved met
  rw [List.filterMap_append]
  cases seen : observe action with
  | none =>
      refine ⟨later, ?_, simulates.hidden middle action next later holds moved met seen⟩
      simpa [seen] using ran
  | some visible =>
      obtain ⟨last, stepped, related⟩ :=
        simulates.matched middle action next later visible holds moved met seen
      refine ⟨last, ?_, related⟩
      simpa [seen] using run_snoc_eq_some.mpr ⟨later, ran, stepped⟩

/-- **A place that is kept track of**: if each step goes through exactly when its place lets it, a run
goes through exactly when the places do, and leaves the system at the last of them. -/
theorem run_tracked {track : τ → α → Option τ}
    (each : ∀ state place action, R state place →
      Option.Rel R (step state action) (track place action))
    {state : σ} {place : τ} (related : R state place) (actions : List α) :
    Option.Rel R (Library.run step state actions) (Library.run track place actions) := by
  induction actions generalizing state place with
  | nil => exact .some related
  | cons action rest ih =>
      have stepped := each state place action related
      simp only [Library.run]
      cases moved : step state action <;> cases placed : track place action <;>
        rw [moved, placed] at stepped <;> cases stepped
      · exact .none
      · rename_i there
        exact ih there

end LlmGateway.Library
