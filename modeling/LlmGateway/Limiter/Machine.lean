import LlmGateway.Cluster.Machine
import LlmGateway.Library.SlidingWindow

/-!
# Overlapping rate limit checks

Any number of calls of `check_rate_limit_status` over one Redis. A check is two steps: the
pipeline, which Redis executes at the time of the check, and after a rejection the command
that takes the member out again. The second step comes as late as it likes, and it may fail.
Redis removes a key once the time of its last `EXPIRE` has passed.

`Tracks` is the invariant of all runs. It relates the sorted sets to the checks made so far:
an accepted check, or a rejected one that has not rolled back, is a member of its set as long as
it lies in the window.
-/

set_option autoImplicit false

namespace LlmGateway

open LlmGateway.Library
open LlmGateway.Library.Redis (SortedSet Store)

/-! ## State and steps -/

/-- A check whose pipeline has been executed, with its status. -/
structure Check where
  virtualKeyId : ℤ
  now : ℚ
  member : String
  status : RateLimitStatus
deriving DecidableEq

/-- Redis with the times at which keys expire, all checks in order, and the rejected ones that
have not rolled back. -/
structure Limiter where
  store : Store
  deadlines : String → Option ℚ
  clock : ℚ
  checks : List Check
  waiting : List Check

/-- Before the first check. -/
def Limiter.init (store : Store) (clock : ℚ) : Limiter := ⟨store, fun _ => none, clock, [], []⟩

inductive LimiterAction where
  | check (virtualKeyId : ℤ) (now : ℚ) (member : String)
  | rollback (check : Check) (delivery : Delivery)
  | expire (key : String) (now : ℚ)

namespace Limiter

variable (settings : Settings) (l : Limiter)

/-- The random part of a member makes it a new one for its key. -/
def Unused (virtualKeyId : ℤ) (member : String) : Prop :=
  ∀ check ∈ l.checks, check.virtualKeyId = virtualKeyId → check.member ≠ member

instance (virtualKeyId : ℤ) (member : String) : Decidable (l.Unused virtualKeyId member) :=
  inferInstanceAs (Decidable (∀ _ ∈ l.checks, _))

/-- The state after the pipeline of a check. A rejected check goes on to roll back. -/
def afterPipeline (virtualKeyId : ℤ) (now : ℚ) (member : String) : Limiter :=
  let key := rateLimitKey virtualKeyId
  let (store, replies) := Redis.executeAll l.store (checkPipeline settings virtualKeyId now member)
  let count := pipelineCount replies
  let check := ⟨virtualKeyId, now, member, verdict settings count⟩
  { store
    deadlines := Function.update l.deadlines key
      ((store key).map fun _ => now + settings.rateLimitWindowSeconds)
    clock := now
    checks := l.checks ++ [check]
    waiting := if count.isSome && !check.status.allowed then l.waiting ++ [check] else l.waiting }

/-- The state after the rollback of a rejected check. -/
def afterRollback (check : Check) (delivery : Delivery) : Limiter :=
  let key := rateLimitKey check.virtualKeyId
  let store := delivery.apply l.store (rollbackCommand check.virtualKeyId check.member)
  { l with
    store
    deadlines := Function.update l.deadlines key ((store key).bind fun _ => l.deadlines key)
    waiting := l.waiting.erase check }

/-- **One step.** Time does not go back, and a key expires once its deadline has passed. -/
def step : LimiterAction → Option Limiter
  | .check virtualKeyId now member =>
      if l.clock ≤ now ∧ l.Unused virtualKeyId member then
        some (l.afterPipeline settings virtualKeyId now member)
      else none
  | .rollback check delivery =>
      if check ∈ l.waiting then some (l.afterRollback check delivery) else none
  | .expire key now =>
      match l.deadlines key with
      | none => none
      | some deadline =>
          if l.clock ≤ now ∧ deadline ≤ now then
            some
              { l with
                store := l.store.erase key
                deadlines := Function.update l.deadlines key none
                clock := now }
          else none

/-- The sorted set of a virtual key. -/
def members (virtualKeyId : ℤ) : SortedSet :=
  (Redis.sortedSetAt l.store (rateLimitKey virtualKeyId)).getD []

end Limiter

/-- The store holds no key of the rate limiter. -/
def Unlimited (store : Store) : Prop := ∀ virtualKeyId, store (rateLimitKey virtualKeyId) = none

/-! ## What a step is -/

/-- What the pipeline of a check does, on a key that holds a sorted set or nothing. -/
structure Checks (settings : Settings) (l : Limiter) (check : Check) (next : Limiter) :
    Prop where
  status : check.status = verdict settings
    (some ((afterCheck settings check.now check.member (l.members check.virtualKeyId)).length : ℤ))
  members : next.members check.virtualKeyId =
    afterCheck settings check.now check.member (l.members check.virtualKeyId)
  sets : ∀ virtualKeyId, Redis.sortedSetAt l.store (rateLimitKey virtualKeyId) ≠ none →
    Redis.sortedSetAt next.store (rateLimitKey virtualKeyId) ≠ none
  others : ∀ virtualKeyId, virtualKeyId ≠ check.virtualKeyId →
    next.members virtualKeyId = l.members virtualKeyId ∧
      next.deadlines (rateLimitKey virtualKeyId) = l.deadlines (rateLimitKey virtualKeyId)
  deadline : next.deadlines (rateLimitKey check.virtualKeyId) =
    some (check.now + settings.rateLimitWindowSeconds)
  clock : next.clock = check.now
  checks : next.checks = l.checks ++ [check]
  waiting : next.waiting = if check.status.allowed then l.waiting else l.waiting ++ [check]

/-- What a rollback or the expiry of a key does: it takes members out of sets. -/
structure Removes (l : Limiter) (next : Limiter) : Prop where
  sets : ∀ virtualKeyId, Redis.sortedSetAt l.store (rateLimitKey virtualKeyId) ≠ none →
    Redis.sortedSetAt next.store (rateLimitKey virtualKeyId) ≠ none
  members : ∀ virtualKeyId, (next.members virtualKeyId).Sublist (l.members virtualKeyId)
  deadlines : ∀ key deadline, next.deadlines key = some deadline → l.deadlines key = some deadline
  clock : l.clock ≤ next.clock
  checks : next.checks = l.checks

/-- **The steps of the limiter.** -/
inductive LimiterSteps (settings : Settings) (l : Limiter) : LimiterAction → Limiter → Prop
  | check {check : Check} {next : Limiter} (order : l.clock ≤ check.now)
      (unused : l.Unused check.virtualKeyId check.member) (checks : Checks settings l check next) :
      LimiterSteps settings l (.check check.virtualKeyId check.now check.member) next
  | rollback {check : Check} {delivery : Delivery} {next : Limiter} (waits : check ∈ l.waiting)
      (removes : Removes l next) (clock : next.clock = l.clock)
      (waiting : next.waiting = l.waiting.erase check)
      (kept : ∀ virtualKeyId member score, (member, score) ∈ l.members virtualKeyId →
        ¬ (virtualKeyId = check.virtualKeyId ∧ member = check.member) →
          (member, score) ∈ next.members virtualKeyId)
      (gone : delivery ≠ .refused →
        ∀ score, (check.member, score) ∉ next.members check.virtualKeyId) :
      LimiterSteps settings l (.rollback check delivery) next
  | expire {key : String} {now deadline : ℚ} {next : Limiter} (removes : Removes l next)
      (due : l.deadlines key = some deadline) (passed : deadline ≤ now) (clock : next.clock = now)
      (waiting : next.waiting = l.waiting)
      (kept : ∀ virtualKeyId, rateLimitKey virtualKeyId ≠ key →
        next.members virtualKeyId = l.members virtualKeyId) :
      LimiterSteps settings l (.expire key now) next

section Step

variable {settings : Settings} {l next : Limiter} {action : LimiterAction}

theorem members_congr {first second : Limiter} {virtualKeyId : ℤ}
    (same : first.store (rateLimitKey virtualKeyId) = second.store (rateLimitKey virtualKeyId)) :
    first.members virtualKeyId = second.members virtualKeyId := by
  rw [Limiter.members, Limiter.members, Redis.sortedSetAt_congr same]

theorem rateLimitKey_ne {first second : ℤ} (apart : first ≠ second) :
    rateLimitKey first ≠ rateLimitKey second := fun same =>
  apart (rateLimitKey_injective same)

/-- The pipeline of a check. -/
theorem checks_afterPipeline (window : 0 < settings.rateLimitWindowSeconds) (virtualKeyId : ℤ)
    (now : ℚ) (member : String)
    (sets : Redis.sortedSetAt l.store (rateLimitKey virtualKeyId) ≠ none) :
    ∃ status, Checks settings l ⟨virtualKeyId, now, member, status⟩
      (l.afterPipeline settings virtualKeyId now member) := by
  obtain ⟨set, found⟩ := Option.ne_none_iff_exists'.mp sets
  obtain ⟨written, counted⟩ := executeAll_checkPipeline window now member found
  have before : l.members virtualKeyId = set := by rw [Limiter.members, found]; rfl
  have after : (l.afterPipeline settings virtualKeyId now member).store =
      l.store.put (rateLimitKey virtualKeyId) (.sortedSet (afterCheck settings now member set)) :=
    written
  have away : ∀ other, other ≠ virtualKeyId →
      (l.afterPipeline settings virtualKeyId now member).store (rateLimitKey other) =
        l.store (rateLimitKey other) := fun other apart => by
    rw [after, Store.put_of_ne _ _ (rateLimitKey_ne apart)]
  refine ⟨verdict settings (pipelineCount (Redis.executeAll l.store
    (checkPipeline settings virtualKeyId now member)).2), ?_, ?_, fun other present => ?_,
    fun other apart => ⟨members_congr (away other apart), ?_⟩, ?_, rfl, rfl, ?_⟩
  · rw [counted, before]
  · rw [Limiter.members, after, Redis.sortedSetAt, Store.put_self, before]
    rfl
  · by_cases same : other = virtualKeyId
    · rw [same, after, Redis.sortedSetAt, Store.put_self]
      simp
    · rwa [Redis.sortedSetAt_congr (away other same)]
  · exact Function.update_of_ne (rateLimitKey_ne apart) _ _
  · simp only [Limiter.afterPipeline, written, Function.update_self, Store.put_self,
      Option.map_some]
  · simp only [Limiter.afterPipeline, counted, Option.isSome_some, Bool.true_and]
    cases allowed : (verdict settings (some
      ((afterCheck settings now member set).length : ℤ))).allowed <;> simp

/-- Removing a member from a set. -/
theorem execute_rollbackCommand {store : Store} {virtualKeyId : ℤ} {set : SortedSet}
    (member : String) (found : Redis.sortedSetAt store (rateLimitKey virtualKeyId) = some set) :
    (Redis.execute store (rollbackCommand virtualKeyId member)).1 =
      Redis.putSortedSet store (rateLimitKey virtualKeyId) (set.remove member) := by
  simp only [rollbackCommand, Redis.execute, found]

theorem steps_afterRollback {check : Check} {delivery : Delivery} (waits : check ∈ l.waiting)
    (sets : Redis.sortedSetAt l.store (rateLimitKey check.virtualKeyId) ≠ none) :
    LimiterSteps settings l (.rollback check delivery) (l.afterRollback check delivery) := by
  obtain ⟨set, found⟩ := Option.ne_none_iff_exists'.mp sets
  have before : l.members check.virtualKeyId = set := by rw [Limiter.members, found]; rfl
  have written := execute_rollbackCommand check.member found
  -- the store after the command, when it has been executed
  have executed : delivery ≠ .refused → (l.afterRollback check delivery).store =
      Redis.putSortedSet l.store (rateLimitKey check.virtualKeyId) (set.remove check.member) := by
    intro arrives
    cases delivery with
    | answered => exact written
    | lost => exact written
    | refused => exact absurd rfl arrives
  have away : ∀ other, other ≠ check.virtualKeyId →
      (l.afterRollback check delivery).store (rateLimitKey other) =
        l.store (rateLimitKey other) := by
    intro other apart
    by_cases arrives : delivery = .refused
    · rw [arrives]
      rfl
    · rw [executed arrives, Redis.putSortedSet_other _ _ (rateLimitKey_ne apart)]
  have own : (l.afterRollback check delivery).members check.virtualKeyId =
      if delivery = .refused then set else set.remove check.member := by
    split_ifs with arrives
    · rw [arrives]
      exact before
    · rw [Limiter.members, executed arrives, Redis.sortedSetAt_putSortedSet]
      rfl
  refine .rollback waits ⟨fun other present => ?_, fun other => ?_, fun key deadline due => ?_,
    le_refl _, rfl⟩ rfl rfl (fun other name score there apart => ?_) fun arrives score => ?_
  · by_cases same : other = check.virtualKeyId
    · subst same
      by_cases arrives : delivery = .refused
      · rw [arrives]
        exact present
      · rw [executed arrives, Redis.sortedSetAt_putSortedSet]
        simp
    · rwa [Redis.sortedSetAt_congr (away other same)]
  · by_cases same : other = check.virtualKeyId
    · subst same
      rw [own, before]
      split_ifs
      · exact List.Sublist.refl _
      · exact List.filter_sublist
    · rw [members_congr (away other same)]
  · simp only [Limiter.afterRollback, Function.update_apply] at due
    split_ifs at due with same
    · obtain ⟨-, -, kept⟩ := Option.bind_eq_some_iff.mp due
      rwa [same]
    · exact due
  · by_cases same : other = check.virtualKeyId
    · subst same
      rw [own]
      rw [before] at there
      split_ifs
      · exact there
      · exact SortedSet.mem_remove.mpr ⟨there, fun named => apart ⟨rfl, named⟩⟩
    · rwa [members_congr (away other same)]
  · rw [own, if_neg arrives]
    exact fun there => (SortedSet.mem_remove.mp there).2 rfl

/-- **Nothing else happens**: every step of the limiter is one of them, where its keys hold
sorted sets. -/
theorem limiterSteps_of_step (window : 0 < settings.rateLimitWindowSeconds)
    (sets : ∀ virtualKeyId, Redis.sortedSetAt l.store (rateLimitKey virtualKeyId) ≠ none)
    (moved : l.step settings action = some next) : LimiterSteps settings l action next := by
  cases action with
  | check virtualKeyId now member =>
      simp only [Limiter.step] at moved
      split at moved
      · rename_i allowed
        cases moved
        obtain ⟨status, checks⟩ :=
          checks_afterPipeline window virtualKeyId now member (sets virtualKeyId)
        exact .check allowed.1 allowed.2 checks
      · cases moved
  | rollback check delivery =>
      simp only [Limiter.step] at moved
      split at moved
      · rename_i waits
        cases moved
        exact steps_afterRollback waits (sets check.virtualKeyId)
      · cases moved
  | expire key now =>
      simp only [Limiter.step] at moved
      split at moved
      · cases moved
      · rename_i deadline due
        split at moved
        · rename_i passed
          cases moved
          have kept : ∀ virtualKeyId, rateLimitKey virtualKeyId ≠ key →
              l.store.erase key (rateLimitKey virtualKeyId) =
                l.store (rateLimitKey virtualKeyId) := fun virtualKeyId apart =>
            Store.erase_of_ne _ apart
          refine .expire ⟨fun other present => ?_, fun other => ?_, fun name time there => ?_,
            passed.1, rfl⟩ due passed.2 rfl rfl fun other apart => members_congr (kept other apart)
          · by_cases same : rateLimitKey other = key
            · simp [Redis.sortedSetAt, same]
            · rwa [Redis.sortedSetAt_congr (kept other same)]
          · by_cases same : rateLimitKey other = key
            · simp [Limiter.members, Redis.sortedSetAt, same]
            · rw [Limiter.members, Limiter.members, Redis.sortedSetAt_congr (kept other same)]
          · simp only [Function.update_apply] at there
            split_ifs at there
            exact there
        · cases moved

end Step

end LlmGateway
