import LlmGateway.Services.Cache

/-!
# The rate limiter

`check_rate_limit_status` of `core/rate_limiter.py`. The check is one pipeline, which Redis
executes atomically, and a rollback command after a rejection. `verdict` reads the third
reply of the pipeline.
-/

set_option autoImplicit false

namespace LlmGateway

open LlmGateway.Library
open LlmGateway.Library.Redis (Command Reply SortedSet Store)

/-- `RateLimitStatus`. -/
structure RateLimitStatus where
  allowed : Bool
  limit : ℤ
  remaining : ℤ
  windowSeconds : ℤ
deriving DecidableEq

/-- The pipeline of a check at the time `now`, with the member it inserts. -/
def checkPipeline (settings : Settings) (virtualKeyId : ℤ) (now : ℚ) (member : String) :
    List Command :=
  let key := rateLimitKey virtualKeyId
  [.zremrangebyscore key 0 (now - settings.rateLimitWindowSeconds), .zadd key member now,
    .zcard key, .expire key settings.rateLimitWindowSeconds]

/-- The command that takes a rejected member out again. -/
def rollbackCommand (virtualKeyId : ℤ) (member : String) : Command :=
  .zrem (rateLimitKey virtualKeyId) member

/-- The count that the replies of the pipeline give; `execute` of the client raises when
one of them is an error. -/
def pipelineCount : List Reply → Option ℤ
  | [.integer _, .integer _, .integer count, .integer _] => some count
  | _ => none

/-- The status of a check. Without a count Redis has failed, and the settings decide. -/
def verdict (settings : Settings) (count : Option ℤ) : RateLimitStatus :=
  match count with
  | none =>
      { allowed := settings.rateLimitFailOpen
        limit := settings.rateLimitRequests
        remaining := if settings.rateLimitFailOpen then settings.rateLimitRequests else 0
        windowSeconds := settings.rateLimitWindowSeconds }
  | some count =>
      let allowed := decide (count ≤ settings.rateLimitRequests)
      { allowed
        limit := settings.rateLimitRequests
        remaining := if allowed then max 0 (settings.rateLimitRequests - count) else 0
        windowSeconds := settings.rateLimitWindowSeconds }

/-! ## The pipeline as one operation on a sorted set -/

/-- The sorted set after the pipeline: what is left of the window, and the new member. -/
def afterCheck (settings : Settings) (now : ℚ) (member : String) (set : SortedSet) : SortedSet :=
  (set.removeRange 0 (now - settings.rateLimitWindowSeconds)).add member now

/-- **The pipeline**, on a key that holds a sorted set or nothing: it stores the new set and
counts its members. -/
theorem executeAll_checkPipeline {settings : Settings} {store : Store} {virtualKeyId : ℤ}
    {set : SortedSet} (window : 0 < settings.rateLimitWindowSeconds) (now : ℚ) (member : String)
    (found : Redis.sortedSetAt store (rateLimitKey virtualKeyId) = some set) :
    (Redis.executeAll store (checkPipeline settings virtualKeyId now member)).1 =
        store.put (rateLimitKey virtualKeyId) (.sortedSet (afterCheck settings now member set)) ∧
      pipelineCount (Redis.executeAll store (checkPipeline settings virtualKeyId now member)).2 =
        some ((afterCheck settings now member set).length : ℤ) := by
  have filled : (afterCheck settings now member set).isEmpty = false := by
    simp [afterCheck, SortedSet.add]
  have stored : ∀ other : SortedSet,
      Redis.putSortedSet store (rateLimitKey virtualKeyId) other =
        store.put (rateLimitKey virtualKeyId) (.sortedSet other) ∨ other.isEmpty = true := by
    intro other
    rw [Redis.putSortedSet]
    split
    · exact .inr ‹_›
    · exact .inl rfl
  have written := (stored (afterCheck settings now member set)).resolve_right (by simp [filled])
  have pruned := Redis.sortedSetAt_putSortedSet store (rateLimitKey virtualKeyId)
    (set.removeRange 0 (now - settings.rateLimitWindowSeconds))
  have inserted := Redis.sortedSetAt_putSortedSet store (rateLimitKey virtualKeyId)
    (afterCheck settings now member set)
  rw [afterCheck] at written inserted
  simp only [checkPipeline, Redis.executeAll, Redis.execute, found, pruned,
    Redis.putSortedSet_putSortedSet, inserted]
  rw [written, Store.put_self]
  simp [pipelineCount, afterCheck, not_le.mpr window]

end LlmGateway
