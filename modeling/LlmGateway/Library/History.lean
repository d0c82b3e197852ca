import LlmGateway.Library.Runs

/-!
# Events of a run

Events that have happened in a run one after the other (`Occurs`), each at a step of its own. What has
happened stays (`Occurs.later`), and the next event comes after all of them (`Occurs.snoc`). An event
is a relation between the state before a step and the action.
-/

set_option autoImplicit false

namespace LlmGateway.Library

variable {σ α : Type} (step : σ → α → Option σ)

/-- **The events have happened** in this order. -/
inductive Occurs (start : σ) : List α → List (σ → α → Prop) → Prop
  | none (actions : List α) : Occurs start actions []
  | next {before after : List α} {action : α} {state : σ} {events : List (σ → α → Prop)}
      {event : σ → α → Prop} (earlier : Occurs start before events)
      (reached : run step start before = some state) (happens : event state action) :
      Occurs start (before ++ action :: after) (events ++ [event])

variable {step} {start state : σ} {actions : List α} {action : α} {events : List (σ → α → Prop)}
  {event : σ → α → Prop}

theorem Occurs.later (occurred : Occurs step start actions events) (more : List α) :
    Occurs step start (actions ++ more) events := by
  cases occurred with
  | none => exact .none _
  | next earlier reached happens =>
      rw [List.append_assoc, List.cons_append]
      exact .next earlier reached happens

/-- A step adds the event that it is. -/
theorem Occurs.snoc (occurred : Occurs step start actions events)
    (reached : run step start actions = some state) (happens : event state action) :
    Occurs step start (actions ++ [action]) (events ++ [event]) :=
  .next occurred reached happens

/-- Each of the events has happened. -/
theorem Occurs.happened (occurred : Occurs step start actions events) (member : event ∈ events) :
    ∃ before action after state, actions = before ++ action :: after ∧
      run step start before = some state ∧ event state action := by
  induction occurred with
  | none => cases member
  | @next before after action state earlierEvents last earlier reached happens ih =>
      rcases List.mem_append.mp member with old | own
      · obtain ⟨first, found, rest, there, rfl, facts⟩ := ih old
        exact ⟨first, found, rest ++ action :: after, there, by simp, facts⟩
      · cases List.mem_singleton.mp own
        exact ⟨before, action, after, state, rfl, reached, happens⟩

end LlmGateway.Library
