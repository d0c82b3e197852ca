import LlmGateway.Cluster.Calls

/-!
# One provider call for each key of a process

Concurrent calls for one cache key are coalesced when each call that goes on to register
its future finds no entry under its key (`LeadsAlone`). That is exactly when the promise
holds (`coalesced_iff`): at most one call of a process is inside `execute_with_fallback`
for a key, and a call that finds another one there joins its future.

The test of `_inflight` and the registration are separated by the wait for the lock. Two
calls can both pass the test, and the one that loses the lock registers a second future
once it stops waiting (`overtaking`).
-/

set_option autoImplicit false

namespace LlmGateway

open LlmGateway.Library
open LlmGateway.Library.Redis (Command Reply Store)

variable {env : Environment}

/-- The call is inside `execute_with_fallback`, for the key and in the process of the slot. -/
def World.Executing (env : Environment) (w : World) (id : CallId) (slot : Slot) : Prop :=
  ∃ call, w.call id = some call ∧ call.slot env = slot ∧ call.point.executing = true

/-- At most one call of a process is inside `execute_with_fallback` for a key. -/
def World.AtMostOne (env : Environment) (w : World) : Prop :=
  ∀ slot first second, w.Executing env first slot → w.Executing env second slot → first = second

/-- A call that goes on while another call of its process is asking a provider for the same
key does not ask one itself; if it looks for a future in flight, it takes that one. -/
def Joins (env : Environment) (w : World) (action : Action) (next : World) : Prop :=
  ∀ id input clock call leader, action = .chat id input clock → w.call id = some call →
    leader ≠ id → w.Executing env leader (call.slot env) →
      (w.Executing env id (call.slot env) ∨ ¬ next.Executing env id (call.slot env)) ∧
        (Misses call input →
          ∃ joined, next.call id = some joined ∧ joined.inflight = some leader)

/-- A call that goes on to register its future finds no entry under its key. -/
def LeadsAlone (env : Environment) (w : World) (action : Action) (_ : World) : Prop :=
  ∀ id input clock call, action = .chat id input clock → w.call id = some call →
    Leads env call clock input → w.inflight (call.slot env) = none

/-- The entry under a key is the one call that executes. -/
def World.Entered (env : Environment) (w : World) : Prop :=
  ∀ slot id, w.Executing env id slot → w.inflight slot = some id

theorem World.Entered.atMostOne {w : World} (entered : w.Entered env) : w.AtMostOne env := by
  intro slot first second one other
  exact Option.some.inj ((entered slot first one).symm.trans (entered slot second other))

/-! ## Registering alone is enough -/

theorem entered_init (store : Store) : (World.init store).Entered env := by
  rintro slot id ⟨call, running, -⟩
  simp [World.call, World.init] at running

/-- A step by which no call registers beside another keeps the entry of each call that
executes. -/
theorem entered_step {w next : World} {action : Action} (entered : w.Entered env)
    (moved : w.step env action = some next)
    (alone : LeadsAlone env w action next) : next.Entered env := by
  rintro slot other ⟨found, running, place, inside⟩
  cases moves_of_step moved with
  | starts fresh calls inflight futures =>
      rw [inflight]
      rw [calls, Function.update_apply] at running
      split_ifs at running with same
      · obtain rfl := Option.some.inj running
        cases inside
      · exact entered slot other ⟨found, running, place, inside⟩
  | stays _ calls inflight futures =>
      rw [inflight]
      exact entered slot other ⟨found, calls ▸ running, place, inside⟩
  | @turns id call input clock turn _ before turns calls inflight futures =>
      have same := (turns_arguments turns).slot env
      rw [calls, Function.update_apply] at running
      split_ifs at running with self
      · -- the call that went on
        subst self
        obtain rfl := Option.some.inj running
        rw [inflight, ← place, same, Function.update_self]
        rcases turns_table turns with ⟨-, entry, -⟩ | ⟨-, entry, executing, -⟩ | ⟨-, outside, -, -⟩
        · exact entry
        · rw [entry]
          exact entered _ other ⟨call, before, rfl, executing.symm.trans inside⟩
        · rw [outside] at inside
          cases inside
      · -- another call: its entry is not the one that changes
        have old := entered slot other ⟨found, running, place, inside⟩
        rw [inflight, Function.update_apply]
        split_ifs with here
        · subst here
          rcases turns_table turns with ⟨leads, -, -⟩ | ⟨-, entry, -, -⟩ | ⟨-, -, entry, -⟩
          · exact absurd (alone id input clock call rfl before leads) (by rw [old]; simp)
          · exact entry.trans old
          · rw [entry, Process.retire_entry, if_neg]
            · exact old
            · exact fun own => self (Option.some.inj (old.symm.trans own))
        · exact old

/-- A call that misses the cache joins the call that executes, if there is one. -/
theorem joins_of_entered {w next : World} {action : Action} (entered : w.Entered env)
    (moved : w.step env action = some next) (alone : LeadsAlone env w action next) :
    Joins env w action next := by
  rintro id input clock call leader rfl running different executing
  have entry : w.inflight (call.slot env) = some leader := entered _ _ executing
  cases moves_of_step moved with
  | stays other => exact absurd rfl (other id input clock)
  | @turns _ call' _ _ turn _ before turns calls inflight futures =>
      obtain rfl := Option.some.inj (running.symm.trans before)
      have self : next.call id = some turn.call := by rw [calls, Function.update_self]
      constructor
      · rcases turns_table turns with ⟨leads, -, -⟩ | ⟨-, -, executing, -⟩ | ⟨inside, -, -, -⟩
        · exact absurd (alone id input clock call rfl running leads) (by rw [entry]; simp)
        · by_cases inside : call.point.executing = true
          · exact .inl ⟨call, running, rfl, inside⟩
          · refine .inr ?_
            rintro ⟨after, there, -, now⟩
            obtain rfl := Option.some.inj (self.symm.trans there)
            exact inside (executing.symm.trans now)
        · exact .inl ⟨call, running, rfl, inside⟩
      · intro missed
        exact ⟨turn.call, self, turns_joins missed entry turns⟩

/-- A run in which each call registers alone keeps the promise. -/
theorem entered_run {store : Store} {actions : List Action} {w : World}
    (alone : Throughout (World.step env) (LeadsAlone env) (.init store) actions)
    (reached : run (World.step env) (.init store) actions = some w) :
    w.Sound env ∧ w.Entered env :=
  invariant (P := fun w => w.Sound env ∧ w.Entered env)
    ⟨sound_init env store, entered_init store⟩
    (fun _ _ _ holds moved met =>
      ⟨sound_step holds.1 moved, entered_step holds.2 moved met⟩)
    alone reached

/-! ## Registering alone is needed -/

/-- Where a call registers beside an entry, two calls execute after the step. -/
theorem leadsAlone_of_atMostOne {w next : World} {action : Action} (sound : w.Sound env)
    (one : next.AtMostOne env) (moved : w.step env action = some next) :
    LeadsAlone env w action next := by
  rintro id input clock call rfl running leads
  by_contra occupied
  obtain ⟨leader, entry⟩ := Option.ne_none_iff_exists'.mp occupied
  obtain ⟨other, there, place, inside⟩ := sound.tabled _ leader entry
  have different : leader ≠ id := by
    rintro rfl
    obtain rfl := Option.some.inj (running.symm.trans there)
    have early := leads.early
    cases point : call.point <;> rw [point] at early inside <;> cases early <;> cases inside
  cases moves_of_step moved with
  | stays far => exact far id input clock rfl
  | @turns _ call' _ _ turn _ before turns calls inflight futures =>
      obtain rfl := Option.some.inj (running.symm.trans before)
      refine different (one (call.slot env) leader id ⟨other, ?_, place, inside⟩
        ⟨turn.call, ?_, (turns_arguments turns).slot env, (turns_register leads turns).2⟩)
      · rw [calls, Function.update_of_ne different, there]
      · rw [calls, Function.update_self]

/-- **Coalescing, exactly.** In a run from an empty process, at most one call of a process
is inside `execute_with_fallback` for a key at any moment, and a call that goes on beside it
joins its future, if and only if each call that registers its future finds no
entry under its key. -/
theorem coalesced_iff (env : Environment) (store : Store) (actions : List Action) :
    (Always (World.step env) (World.AtMostOne env) (.init store) actions ∧
        Throughout (World.step env) (Joins env) (.init store) actions) ↔
      Throughout (World.step env) (LeadsAlone env) (.init store) actions := by
  constructor
  · rintro ⟨one, -⟩ before action after state next split reached moved
    exact leadsAlone_of_atMostOne (sound_run reached) (one.after_step split reached moved) moved
  · intro alone
    constructor
    · refine always_of_reached (fun before state throughout reached => ?_) alone
      exact (entered_run throughout reached).2.atMostOne
    · intro before action after state next split reached moved
      have start : Throughout (World.step env) (LeadsAlone env) (.init store) before :=
        alone.of_split split
      exact joins_of_entered (entered_run start reached).2 moved
        (alone before action after state next split reached moved)

/-! ## Two calls at the provider -/

/-- Two identical requests in one process. Both miss the cache and find no future in flight.
The first gets the lock and asks the provider; the second loses the lock, waits for two
seconds and asks the provider too. -/
def overtaking : List Action :=
  [arrive 0 0, arrive 1 0] ++ exchange 0 .nil early ++ exchange 1 .nil early ++
    exchange 0 .ok early ++ exchange 1 .nil early ++ exchange 1 .nil early ++ [.chat 1 .slept overdue]

/-- Two calls are inside `execute_with_fallback` for one slot. -/
def bothExecute (env : Environment) (first second : CallId) (w : World) : Bool :=
  match w.call first, w.call second with
  | some one, some other =>
      one.point.executing && other.point.executing && one.slot env == other.slot env
  | _, _ => false

theorem not_atMostOne_of_both {first second : CallId} (different : first ≠ second) {w : World}
    (both : bothExecute env first second w = true) : ¬ w.AtMostOne env := by
  intro one
  unfold bothExecute at both
  split at both
  · rename_i call other here there
    simp only [Bool.and_eq_true, beq_iff_eq] at both
    obtain ⟨⟨inside, also⟩, same⟩ := both
    exact different (one (other.slot env) first second ⟨call, here, same, inside⟩
      ⟨other, there, rfl, also⟩)
  · cases both

/-- **The promise is broken** with Redis up: in the run `overtaking` two calls of one
process are inside `execute_with_fallback` for one key. -/
theorem overtaking_not_coalesced :
    RedisUp overtaking ∧ Uncancelled overtaking ∧
      ¬ Always (World.step demoEnvironment) (World.AtMostOne demoEnvironment)
        (.init Redis.Store.empty) overtaking := by
  refine ⟨by decide, by decide, ?_⟩
  exact not_always_of_last (bothExecute demoEnvironment 0 1)
    (fun _ => not_atMostOne_of_both (by decide)) (by decide +kernel)

end LlmGateway
