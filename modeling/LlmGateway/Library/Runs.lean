import Mathlib.Data.List.Induction
import Mathlib.Logic.Basic

/-!
# Runs of a partial step function

A system is a function that takes a state and an action to the next state, or to
nothing when the action is not possible there. A run performs a list of actions in order.

* `Throughout step C start actions` says that each step of the run meets the
  condition `C`, which may speak about the state before, the action and the state after.
* `Always step P start actions` says that every state of the run satisfies `P`, the
  first and the last one included.
* `run_induction` is the rule of invariants. What is proved may speak about the
  actions performed so far, and each step may use the condition.
* `Standing` says of a part of a run that what one of its steps has set no later one has cleared.
  Where each step that sets something makes a predicate hold and each other one that does not clear
  it keeps it, the predicate holds of the state reached (`Standing.holds`).
-/

set_option autoImplicit false

namespace LlmGateway.Library

variable {σ α : Type} (step : σ → α → Option σ)

/-- The state after a list of actions. -/
def run : σ → List α → Option σ
  | state, [] => some state
  | state, action :: rest => (step state action).bind fun next => run next rest

/-- Each step of a run meets a condition. -/
def Throughout (C : σ → α → σ → Prop) (start : σ) (actions : List α) : Prop :=
  ∀ before action after state next, actions = before ++ action :: after →
    run step start before = some state → step state action = some next → C state action next

/-- Each state of a run satisfies a predicate. -/
def Always (P : σ → Prop) (start : σ) (actions : List α) : Prop :=
  ∀ before after state, actions = before ++ after → run step start before = some state → P state

/-- Each state of a run satisfies a predicate together with the actions that led to it. -/
def AlwaysAfter (P : List α → σ → Prop) (start : σ) (actions : List α) : Prop :=
  ∀ before after state, actions = before ++ after → run step start before = some state →
    P before state

variable {step}

@[simp] theorem run_nil (state : σ) : run step state [] = some state := rfl

theorem run_append (state : σ) (first second : List α) :
    run step state (first ++ second) =
      (run step state first).bind fun next => run step next second := by
  induction first generalizing state with
  | nil => rfl
  | cons action rest ih =>
      cases moved : step state action with
      | none => simp [run, moved]
      | some next => simp [run, moved, ih]

theorem run_snoc (state : σ) (actions : List α) (action : α) :
    run step state (actions ++ [action]) =
      (run step state actions).bind fun next => step next action := by
  rw [run_append]
  congr 1
  funext next
  cases moved : step next action with
  | none => simp [run, moved]
  | some last => simp [run, moved]

theorem run_snoc_eq_some {state last : σ} {actions : List α} {action : α} :
    run step state (actions ++ [action]) = some last ↔
      ∃ next, run step state actions = some next ∧ step next action = some last := by
  rw [run_snoc, Option.bind_eq_some_iff]

theorem Throughout.initial {C : σ → α → σ → Prop} {start : σ} {actions : List α} {action : α}
    (throughout : Throughout step C start (actions ++ [action])) :
    Throughout step C start actions := by
  intro before other after state next split
  exact throughout before other (after ++ [action]) state next (by simp [split])

theorem Throughout.last {C : σ → α → σ → Prop} {start state next : σ} {actions : List α}
    {action : α} (throughout : Throughout step C start (actions ++ [action]))
    (reached : run step start actions = some state) (moved : step state action = some next) :
    C state action next :=
  throughout actions action [] state next rfl reached moved

theorem throughout_nil (C : σ → α → σ → Prop) (start : σ) : Throughout step C start [] :=
  fun _ _ _ _ _ split _ _ => (by simp at split)

/-- A run that goes on with a step that meets the condition. -/
theorem Throughout.snoc {C : σ → α → σ → Prop} {start middle last : σ} {actions : List α}
    {action : α} (throughout : Throughout step C start actions)
    (reached : run step start actions = some middle) (moved : step middle action = some last)
    (met : C middle action last) : Throughout step C start (actions ++ [action]) := by
  intro before other after state next split earlier stepped
  rcases List.eq_nil_or_concat after with rfl | ⟨rest, final, rfl⟩
  · obtain ⟨rfl, same⟩ := List.append_inj' split rfl
    cases same
    cases reached.symm.trans earlier
    cases moved.symm.trans stepped
    exact met
  · have inner : actions ++ [action] = (before ++ other :: rest) ++ [final] := by
      rw [split, List.concat_eq_append, List.append_assoc, List.cons_append]
    obtain ⟨same, -⟩ := List.append_inj' inner rfl
    exact throughout before other rest state next same earlier stepped

/-- Every condition that always holds is met throughout. -/
theorem throughout_of_forall {C : σ → α → σ → Prop} (holds : ∀ state action next, C state action next)
    (start : σ) (actions : List α) : Throughout step C start actions :=
  fun _ action _ state next _ _ _ => holds state action next

/-- A condition on the actions alone. -/
theorem throughout_of_actions {Q : α → Prop} {actions : List α} (holds : ∀ action ∈ actions, Q action)
    (start : σ) : Throughout step (fun _ action _ => Q action) start actions :=
  fun before action after _ _ split _ _ => holds action (by simp [split])

theorem Throughout.mono {C D : σ → α → σ → Prop} {start : σ} {actions : List α}
    (throughout : Throughout step C start actions)
    (weaker : ∀ state action next, C state action next → D state action next) :
    Throughout step D start actions :=
  fun before action after state next split reached moved =>
    weaker state action next (throughout before action after state next split reached moved)

theorem Throughout.and {C D : σ → α → σ → Prop} {start : σ} {actions : List α}
    (first : Throughout step C start actions) (second : Throughout step D start actions) :
    Throughout step (fun state action next => C state action next ∧ D state action next)
      start actions :=
  fun before action after state next split reached moved =>
    ⟨first before action after state next split reached moved,
      second before action after state next split reached moved⟩

theorem Throughout.of_split {C : σ → α → σ → Prop} {start : σ} {actions before after : List α}
    (throughout : Throughout step C start actions) (split : actions = before ++ after) :
    Throughout step C start before := by
  intro earlier action later state next inner
  exact throughout earlier action (later ++ after) state next (by simp [split, inner])

/-- The rest of a run, from the state that its first part leads to. -/
theorem Throughout.rest {C : σ → α → σ → Prop} {start middle : σ} {before after : List α}
    (throughout : Throughout step C start (before ++ after))
    (reached : run step start before = some middle) : Throughout step C middle after := by
  intro earlier action later state next split inner
  refine throughout (before ++ earlier) action later state next (by simp [split]) ?_
  rw [run_append, reached]
  exact inner

/-- Two parts of a run that meet a condition one after the other. -/
theorem Throughout.append {C : σ → α → σ → Prop} {start middle : σ} {before after : List α}
    (first : Throughout step C start before) (reached : run step start before = some middle)
    (second : Throughout step C middle after) : Throughout step C start (before ++ after) := by
  intro earlier action later state next split inner
  rcases List.append_eq_append_iff.mp split with ⟨between, rfl, rest⟩ | ⟨between, rfl, rest⟩
  · rw [run_append, reached] at inner
    exact second between action later state next rest inner
  · cases between with
    | nil =>
        rw [List.append_nil] at reached
        cases inner.symm.trans reached
        exact second [] action later _ next rest.symm rfl
    | cons other between =>
        obtain ⟨rfl, -⟩ := List.cons.inj rest
        exact first earlier action between state next rfl inner

/-- **The rule of invariants**: what holds at the start with no action performed, and is
preserved by each step that meets the condition, holds at the end of the run. -/
theorem run_induction {C : σ → α → σ → Prop} {start : σ} {P : List α → σ → Prop}
    (initial : P [] start)
    (preserved : ∀ actions state action next, run step start actions = some state →
      P actions state → step state action = some next → C state action next →
        P (actions ++ [action]) next)
    {actions : List α} {state : σ} (throughout : Throughout step C start actions)
    (reached : run step start actions = some state) : P actions state := by
  induction actions using List.reverseRecOn generalizing state with
  | nil =>
      obtain rfl := Option.some.inj reached
      exact initial
  | append_singleton actions action ih =>
      obtain ⟨middle, earlier, moved⟩ := run_snoc_eq_some.mp reached
      exact preserved actions middle action state earlier (ih throughout.initial earlier) moved
        (throughout.last earlier moved)

/-- An invariant of the states alone. -/
theorem invariant {C : σ → α → σ → Prop} {start : σ} {P : σ → Prop} (initial : P start)
    (preserved : ∀ state action next, P state → step state action = some next →
      C state action next → P next)
    {actions : List α} {state : σ} (throughout : Throughout step C start actions)
    (reached : run step start actions = some state) : P state :=
  run_induction (P := fun _ state => P state) initial
    (fun _ state action next _ holds moved met => preserved state action next holds moved met)
    throughout reached

/-- The rule of invariants where each step preserves the invariant. -/
theorem run_induction_of_step {start : σ} {P : List α → σ → Prop} (initial : P [] start)
    (preserved : ∀ actions state action next, run step start actions = some state →
      P actions state → step state action = some next → P (actions ++ [action]) next)
    {actions : List α} {state : σ} (reached : run step start actions = some state) :
    P actions state :=
  run_induction (C := fun _ _ _ => True) initial
    (fun actions state action next earlier holds moved _ =>
      preserved actions state action next earlier holds moved)
    (throughout_of_forall (fun _ _ _ => trivial) start actions) reached

/-- An invariant of the states alone that each step preserves. -/
theorem invariant_of_step {start : σ} {P : σ → Prop} (initial : P start)
    (preserved : ∀ state action next, P state → step state action = some next → P next)
    {actions : List α} {state : σ} (reached : run step start actions = some state) : P state :=
  run_induction_of_step (P := fun _ state => P state) initial
    (fun _ state action next _ holds moved => preserved state action next holds moved) reached

/-- A predicate that holds at the end of every run that meets a condition always holds in
such a run. -/
theorem always_of_reached {C : σ → α → σ → Prop} {P : σ → Prop} {start : σ} {actions : List α}
    (holds : ∀ before state, Throughout step C start before →
      run step start before = some state → P state)
    (throughout : Throughout step C start actions) : Always step P start actions := by
  intro before after state split reached
  exact holds before state (throughout.of_split split) reached

/-- The state after a step of the run. -/
theorem AlwaysAfter.after_step {P : List α → σ → Prop} {start : σ} {actions : List α}
    (always : AlwaysAfter step P start actions) {before after : List α} {action : α}
    {state next : σ} (split : actions = before ++ action :: after)
    (reached : run step start before = some state) (moved : step state action = some next) :
    P (before ++ [action]) next :=
  always (before ++ [action]) after next (by simp [split])
    (run_snoc_eq_some.mpr ⟨state, reached, moved⟩)

theorem Always.after_step {P : σ → Prop} {start : σ} {actions : List α}
    (always : Always step P start actions) {before after : List α} {action : α} {state next : σ}
    (split : actions = before ++ action :: after) (reached : run step start before = some state)
    (moved : step state action = some next) : P next :=
  AlwaysAfter.after_step (P := fun _ state => P state) always split reached moved

/-- The first step of a run that breaks a condition, if any does. -/
theorem throughout_of_always {C : σ → α → σ → Prop} {P : σ → Prop} {start : σ} {actions : List α}
    (always : Always step P start actions)
    (needed : ∀ state action next, P state → P next → step state action = some next →
      C state action next) : Throughout step C start actions := by
  intro before action after state next split reached moved
  exact needed state action next (always before (action :: after) state split reached)
    (always.after_step split reached moved) moved

/-- **Invariant and condition, exactly**: where each step keeps a predicate if and only if it meets
a condition, the predicate always holds if and only if the condition is met throughout. -/
theorem always_iff_throughout {C D : σ → α → σ → Prop} {P I : σ → Prop} {start : σ}
    (known : I start) (initial : P start)
    (kept : ∀ state action next, I state → step state action = some next → D state action next →
      I next)
    (exactly : ∀ state action next, I state → P state → step state action = some next →
      (P next ↔ C state action next))
    {actions : List α} (allowed : Throughout step D start actions) :
    Always step P start actions ↔ Throughout step C start actions := by
  constructor
  · intro always before action after state next split reached moved
    have now : I state := invariant known kept (allowed.of_split split) reached
    have holds : P state := always before (action :: after) state split reached
    exact (exactly state action next now holds moved).mp (always.after_step split reached moved)
  · intro met
    refine always_of_reached (fun before state throughout reached => ?_) (allowed.and met)
    have holds : I state ∧ P state := by
      refine invariant (P := fun state => I state ∧ P state) ⟨known, initial⟩ ?_ throughout reached
      rintro state action next ⟨now, holds⟩ moved ⟨fair, met⟩
      exact ⟨kept state action next now moved fair, (exactly state action next now holds moved).mpr met⟩
    exact holds.2

theorem AlwaysAfter.last {P : List α → σ → Prop} {start state : σ} {actions : List α}
    (always : AlwaysAfter step P start actions) (reached : run step start actions = some state) :
    P actions state :=
  always actions [] state (by simp) reached

/-- A test of each step of a run. -/
def passes (step : σ → α → Option σ) (test : σ → α → Bool) : σ → List α → Bool
  | _, [] => true
  | state, action :: rest =>
      test state action &&
        match step state action with
        | none => true
        | some next => passes step test next rest

/-- A run that passes a test meets the condition that the test decides. -/
theorem throughout_of_passes {C : σ → α → σ → Prop} {test : σ → α → Bool}
    (sound : ∀ state action next, test state action = true → C state action next) {start : σ}
    {actions : List α} (passed : passes step test start actions = true) :
    Throughout step C start actions := by
  induction actions generalizing start with
  | nil =>
      intro before action after state next split
      simp at split
  | cons first rest ih =>
      intro before action after state next split reached moved
      rw [passes, Bool.and_eq_true] at passed
      cases before with
      | nil =>
          obtain ⟨rfl, -⟩ := List.cons.inj split
          cases reached
          exact sound _ _ _ passed.1
      | cons other before =>
          obtain ⟨rfl, tail⟩ := List.cons.inj split
          obtain ⟨middle, stepped, later⟩ := Option.bind_eq_some_iff.mp reached
          rw [stepped] at passed
          exact ih passed.2 before action after state next tail later moved

/-- A run whose last state fails a predicate does not always satisfy it. -/
theorem not_always_of_last {P : σ → Prop} {start : σ} {actions : List α} (fails : σ → Bool)
    (broken : ∀ state, fails state = true → ¬ P state)
    (last : (run step start actions).any fails = true) : ¬ Always step P start actions := by
  intro always
  obtain ⟨state, reached, failed⟩ := (Option.any_eq_true _ _).mp last
  exact broken state failed (always actions [] state (by simp) reached)

/-! ## What stands -/

/-- In the part of a run that comes after `before`, a step has set something and no step has cleared
it since. -/
inductive Standing (step : σ → α → Option σ) (sets clears : σ → α → Prop) (start : σ)
    (before : List α) : List α → Prop
  | set {between : List α} {action : α} {state : σ}
      (reached : run step start (before ++ between) = some state) (done : sets state action) :
      Standing step sets clears start before (between ++ [action])
  | kept {between : List α} {action : α} {state : σ}
      (standing : Standing step sets clears start before between)
      (reached : run step start (before ++ between) = some state)
      (uncleared : ¬ clears state action) :
      Standing step sets clears start before (between ++ [action])

/-- **What holds of what stands.** -/
theorem Standing.holds {sets clears : σ → α → Prop} {start : σ} {P I : σ → Prop}
    (known : ∀ actions state, run step start actions = some state → I state)
    (made : ∀ state action next, I state → step state action = some next → sets state action → P next)
    (kept : ∀ state action next, I state → step state action = some next → ¬ clears state action →
      P state → P next)
    {before between : List α} {state : σ}
    (standing : Standing step sets clears start before between)
    (reached : run step start (before ++ between) = some state) : P state := by
  induction standing generalizing state with
  | set earlier done =>
      rw [← List.append_assoc] at reached
      obtain ⟨middle, there, moved⟩ := run_snoc_eq_some.mp reached
      obtain rfl := Option.some.inj (earlier.symm.trans there)
      exact made _ _ _ (known _ _ there) moved done
  | kept standing earlier uncleared ih =>
      rw [← List.append_assoc] at reached
      obtain ⟨middle, there, moved⟩ := run_snoc_eq_some.mp reached
      obtain rfl := Option.some.inj (earlier.symm.trans there)
      exact kept _ _ _ (known _ _ there) moved uncleared (ih there)

/-- Nothing stands where nothing has been set. -/
theorem not_standing {sets clears : σ → α → Prop} {start state : σ} {before between : List α}
    (unset : Throughout step (fun state action _ => ¬ sets state action) start (before ++ between))
    (reached : run step start (before ++ between) = some state) :
    ¬ Standing step sets clears start before between := by
  intro standing
  induction standing generalizing state with
  | set earlier done =>
      rw [← List.append_assoc] at reached unset
      obtain ⟨middle, there, moved⟩ := run_snoc_eq_some.mp reached
      obtain rfl := Option.some.inj (earlier.symm.trans there)
      exact unset.last there moved done
  | kept standing earlier uncleared ih =>
      rw [← List.append_assoc] at reached unset
      obtain ⟨middle, there, -⟩ := run_snoc_eq_some.mp reached
      exact ih unset.initial there

end LlmGateway.Library
