import Mathlib.Logic.Basic

/-!
# Computations that may raise

A computation with a state leaves one behind whether it returns or raises. `Keeps P m` says that
the state that `m` leaves satisfies `P` whenever the state before does. Each construct of a
`do` block has its rule.
-/

set_option autoImplicit false

namespace LlmGateway.Library

variable {ε σ α β : Type}

/-- A sequence returns what its second part returns on the result of the first one. -/
theorem bind_eq_ok {first : Except ε α} {second : α → Except ε β} {result : β} :
    first >>= second = .ok result ↔ ∃ value, first = .ok value ∧ second value = .ok result := by
  cases first with
  | error exception =>
      refine ⟨fun raised => ?_, fun ⟨value, returned, _⟩ => ?_⟩
      · cases raised
      · cases returned
  | ok value =>
      refine ⟨fun returned => ⟨value, rfl, returned⟩, ?_⟩
      rintro ⟨other, same, returned⟩
      cases same
      exact returned

/-- What follows a computation that returns. -/
theorem bind_of_ok {first : EStateM ε σ α} {state next : σ} {result : α}
    (returned : first state = .ok result next) (later : α → EStateM ε σ β) :
    (first >>= later) state = later result next := by
  simp only [bind, EStateM.bind, returned]

/-- Nothing follows a computation that raises. -/
theorem bind_of_error {first : EStateM ε σ α} {state next : σ} {exception : ε}
    (raised : first state = .error exception next) (later : α → EStateM ε σ β) :
    (first >>= later) state = .error exception next := by
  simp only [bind, EStateM.bind, raised]

/-- The state that a computation leaves, whether it returns or raises. -/
def stateAfter : EStateM.Result ε σ α → σ
  | .ok _ state => state
  | .error _ state => state

/-- The computation keeps a predicate on states. -/
def Keeps (P : σ → Prop) (m : EStateM ε σ α) : Prop := ∀ state, P state → P (stateAfter (m state))

/-- What a computation returns does not matter for the state. -/
theorem stateAfter_bind_pure (m : EStateM ε σ α) (f : α → β) (state : σ) :
    stateAfter ((m >>= fun value => pure (f value)) state) = stateAfter (m state) := by
  cases result : m state with
  | ok value next =>
      rw [bind_of_ok result]
      rfl
  | error exception next =>
      rw [bind_of_error result]
      rfl

variable {P : σ → Prop}

theorem keeps_pure (value : α) : Keeps P (pure value : EStateM ε σ α) := fun _ holds => holds

theorem keeps_throw (exception : ε) : Keeps P (throw exception : EStateM ε σ α) :=
  fun _ holds => holds

theorem keeps_modify {update : σ → σ} (keeps : ∀ state, P state → P (update state)) :
    Keeps P (modify update : EStateM ε σ PUnit) :=
  fun state holds => keeps state holds

/-- The rule of sequences: what the second part is given may depend on the state. -/
theorem Keeps.bind {first : EStateM ε σ α} {second : α → EStateM ε σ β} (keeps : Keeps P first)
    (later : ∀ value, Keeps P (second value)) : Keeps P (first >>= second) := by
  intro state holds
  have middle := keeps state holds
  cases result : first state with
  | ok value next =>
      rw [result] at middle
      have unfolded : (first >>= second) state = second value next := by
        simp only [Bind.bind, EStateM.bind, result]
      rw [unfolded]
      exact later value next middle
  | error exception next =>
      rw [result] at middle
      have unfolded : (first >>= second) state = .error exception next := by
        simp only [Bind.bind, EStateM.bind, result]
      rw [unfolded]
      exact middle

theorem Keeps.ite {condition : Prop} [Decidable condition] {first second : EStateM ε σ α}
    (left : Keeps P first) (right : Keeps P second) :
    Keeps P (if condition then first else second) := by
  split
  · exact left
  · exact right

/-- The rule of loops over a list. -/
theorem keeps_forM {body : β → EStateM ε σ PUnit} (keeps : ∀ item, Keeps P (body item)) :
    ∀ items : List β, Keeps P (items.forM body)
  | [] => keeps_pure PUnit.unit
  | item :: rest => (keeps item).bind fun _ => keeps_forM keeps rest

/-- One more item after a loop that has returned. -/
theorem forM_snoc {body : β → EStateM ε σ PUnit} {items : List β} {item : β}
    {start middle last : σ} (before : items.forM body start = .ok ⟨⟩ middle)
    (after : body item middle = .ok ⟨⟩ last) : (items ++ [item]).forM body start = .ok ⟨⟩ last := by
  induction items generalizing start with
  | nil =>
      cases before
      change (body item >>= fun _ => pure PUnit.unit) middle = _
      rw [bind_of_ok after]
      rfl
  | cons first rest ih =>
      change (body first >>= fun _ => rest.forM body) start = _ at before
      change (body first >>= fun _ => (rest ++ [item]).forM body) start = _
      cases result : body first start with
      | ok _ next =>
          rw [bind_of_ok result] at before ⊢
          exact ih before
      | error exception next =>
          rw [bind_of_error result] at before
          cases before

end LlmGateway.Library
