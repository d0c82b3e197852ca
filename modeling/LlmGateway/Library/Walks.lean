import LlmGateway.Library.Runs

/-!
# Walks up and down

A system with a step up and a step down, of which the step down undoes the step up. Whatever way a walk
takes, it comes to the same as going down to its lowest point at once and then up again (`run_walk`); a
walk that ends where it starts and never goes below changes nothing (`run_walk_balanced`).
-/

set_option autoImplicit false

namespace LlmGateway.Library

inductive Move where
  | up
  | down
deriving DecidableEq

/-! ## The shape of a walk -/

/-- How far the lowest point of a walk is below its start, and how far its end is above it. -/
structure Profile where
  depth : ℕ := 0
  height : ℕ := 0
deriving DecidableEq

def Profile.after (profile : Profile) : Move → Profile
  | .up => { profile with height := profile.height + 1 }
  | .down =>
      match profile.height with
      | 0 => { profile with depth := profile.depth + 1 }
      | height + 1 => { profile with height }

def profile (moves : List Move) : Profile := moves.foldl Profile.after {}

theorem profile_snoc (moves : List Move) (move : Move) :
    profile (moves ++ [move]) = (profile moves).after move := List.foldl_append ..

/-! ## Walking -/

section Walking

variable {σ : Type} (up down : σ → Option σ)

def walk (state : σ) : Move → Option σ
  | .up => up state
  | .down => down state

/-- The same step again and again. -/
def climb (step : σ → Option σ) : ℕ → σ → Option σ
  | 0, state => some state
  | count + 1, state => (climb step count state).bind step

variable {up down}

theorem climb_induction {step : σ → Option σ} {P : ℕ → σ → Prop} {start : σ} (initial : P 0 start)
    (next : ∀ count state later, P count state → step state = some later → P (count + 1) later)
    {count : ℕ} {state : σ} (reached : climb step count start = some state) : P count state := by
  induction count generalizing state with
  | zero =>
      cases reached
      exact initial
  | succ count ih =>
      obtain ⟨before, earlier, stepped⟩ := Option.bind_eq_some_iff.mp reached
      exact next count before state (ih earlier) stepped

variable {Valid : σ → Prop}
  (kept : ∀ state move next, Valid state → walk up down state move = some next → Valid next)
  (undone : ∀ state next, Valid state → up state = some next → down next = some state)

include kept undone

/-- **A walk** comes to the same as the descent to its lowest point and the ascent from there. -/
theorem run_walk {start state : σ} (valid : Valid start) {moves : List Move}
    (reached : run (walk up down) start moves = some state) :
    ∃ lowest, climb down (profile moves).depth start = some lowest ∧
      climb up (profile moves).height lowest = some state := by
  refine run_induction_of_step
    (P := fun moves state => ∃ lowest, climb down (profile moves).depth start = some lowest ∧
      climb up (profile moves).height lowest = some state) ⟨start, rfl, rfl⟩ ?_ reached
  rintro moves state move next - ⟨lowest, descended, ascended⟩ moved
  rw [profile_snoc]
  cases move with
  | up => exact ⟨lowest, descended, Option.bind_eq_some_iff.mpr ⟨state, ascended, moved⟩⟩
  | down =>
      cases above : (profile moves).height with
      | zero =>
          rw [above] at ascended
          cases ascended
          simp only [Profile.after, above]
          exact ⟨next, Option.bind_eq_some_iff.mpr ⟨state, descended, moved⟩, rfl⟩
      | succ height =>
          rw [above] at ascended
          simp only [Profile.after, above]
          obtain ⟨middle, earlier, last⟩ := Option.bind_eq_some_iff.mp ascended
          have low : Valid lowest := climb_induction (P := fun _ state => Valid state) valid
            (fun _ state later there moved => kept state .down later there moved) descended
          have between : Valid middle := climb_induction (P := fun _ state => Valid state) low
            (fun _ state later there moved => kept state .up later there moved) earlier
          have back := undone middle state between last
          obtain rfl : middle = next := Option.some.inj (back.symm.trans moved)
          exact ⟨lowest, descended, earlier⟩

theorem run_walk_balanced {start state : σ} (valid : Valid start) {moves : List Move}
    (reached : run (walk up down) start moves = some state) (balanced : profile moves = {}) :
    state = start := by
  obtain ⟨lowest, descended, ascended⟩ := run_walk kept undone valid reached
  rw [balanced] at descended ascended
  cases descended
  cases ascended
  rfl

end Walking

end LlmGateway.Library
