import LlmGateway.Limiter.Verdicts

/-!
# The rate limiter while Redis fails

Overlapping checks whose pipelines may fail, too. A pipeline that Redis has not executed leaves
nothing behind. One that was executed but whose reply is lost leaves its member in the set, and its
check does not roll back, whatever the count was. Either way the settings decide (`verdict`).

* `outage_safety`: a window holds no more accepted checks than the limit says, save those let through
  for want of an answer, if the settings let such checks through.
* `rejected_for_attempts`: a check that Redis answers is rejected only if as many earlier attempts as the
  limit says have reached Redis in its window. A client that stays below its limit is never rejected for
  members that others of its checks left behind.
-/

set_option autoImplicit false

namespace LlmGateway

open LlmGateway.Library
open LlmGateway.Library.Redis (Store)
open LlmGateway.Library.SlidingWindow (recent)

/-! ## State and steps -/

/-- A check that has been answered to its caller: what Redis made of it, how its pipeline fared, and the
status that was returned. -/
structure Attempted where
  check : Check
  delivery : Delivery
  status : RateLimitStatus

namespace Attempted

variable (attempted : Attempted)

/-- Redis has executed the pipeline. -/
def Reached : Prop := attempted.delivery ≠ .refused

instance : Decidable attempted.Reached := inferInstanceAs (Decidable (_ ≠ _))

end Attempted

/-- A limiter, the time, and all attempts in order. The limiter knows those that reached Redis. -/
structure FailingLimiter where
  limiter : Limiter
  clock : ℚ
  attempts : List Attempted

/-- Before the first attempt. -/
def FailingLimiter.init (store : Store) (clock : ℚ) : FailingLimiter :=
  ⟨.init store clock, clock, []⟩

inductive FailingAction where
  | check (virtualKeyId : ℤ) (now : ℚ) (member : String) (delivery : Delivery)
  | rollback (check : Check) (delivery : Delivery)
  | expire (key : String) (now : ℚ)

namespace FailingLimiter

variable (settings : Settings) (f : FailingLimiter)

/-- What Redis makes of a check that reaches it. -/
def executed (virtualKeyId : ℤ) (now : ℚ) (member : String) : Check :=
  ⟨virtualKeyId, now, member, verdict settings (pipelineCount (Redis.executeAll f.limiter.store
    (checkPipeline settings virtualKeyId now member)).2)⟩

/-- The state after a check. Only a check that has been answered may go on to roll back. -/
def afterCheck (virtualKeyId : ℤ) (now : ℚ) (member : String) : Delivery → FailingLimiter
  | .answered =>
      let check := f.executed settings virtualKeyId now member
      { limiter := f.limiter.afterPipeline settings virtualKeyId now member
        clock := now
        attempts := f.attempts ++ [⟨check, .answered, check.status⟩] }
  | .lost =>
      { limiter :=
          { f.limiter.afterPipeline settings virtualKeyId now member with
            waiting := f.limiter.waiting }
        clock := now
        attempts := f.attempts ++
          [⟨f.executed settings virtualKeyId now member, .lost, verdict settings none⟩] }
  | .refused =>
      { f with
        clock := now
        attempts := f.attempts ++
          [⟨⟨virtualKeyId, now, member, verdict settings none⟩, .refused, verdict settings none⟩] }

/-- **One step.** -/
def step : FailingAction → Option FailingLimiter
  | .check virtualKeyId now member delivery =>
      if f.clock ≤ now ∧ f.limiter.Unused virtualKeyId member then
        some (f.afterCheck settings virtualKeyId now member delivery)
      else none
  | .rollback check delivery =>
      (f.limiter.step settings (.rollback check delivery)).map fun limiter => { f with limiter }
  | .expire key now =>
      if f.clock ≤ now then
        (f.limiter.step settings (.expire key now)).map fun limiter => { f with limiter, clock := now }
      else none

end FailingLimiter

/-! ## What every run keeps -/

/-- **The attempts and the limiter.** -/
structure FailingLimiter.Kept (settings : Settings) (f : FailingLimiter) : Prop where
  tracks : f.limiter.Tracks settings
  paced : f.limiter.Paced settings
  /-- The limiter knows exactly the attempts that reached Redis. -/
  known : f.limiter.checks =
    (f.attempts.filter fun attempted => decide attempted.Reached).map Attempted.check
  behind : f.limiter.clock ≤ f.clock
  told : ∀ attempted ∈ f.attempts,
    attempted.status = if attempted.delivery = .answered then attempted.check.status
      else verdict settings none

section Steps

variable {settings : Settings} {f next : FailingLimiter} {action : FailingAction}

/-- A limiter that will roll back fewer checks tracks them as well. -/
theorem Limiter.Tracks.forget {l : Limiter} (tracks : l.Tracks settings) {waiting : List Check}
    (fewer : waiting.Sublist l.waiting) : ({ l with waiting } : Limiter).Tracks settings where
  sets := tracks.sets
  entries := tracks.entries
  nodup := tracks.nodup
  slots check made live :=
    tracks.slots check made (live.imp_right fun waits => fewer.subset waits)
  deadlines := tracks.deadlines
  order := tracks.order
  past := tracks.past
  named := tracks.named
  distinct := tracks.distinct.sublist fewer
  waits check waits := tracks.waits check (fewer.subset waits)

theorem failingKept_init {store : Store} (unlimited : Unlimited store) (clock : ℚ) :
    (FailingLimiter.init store clock).Kept settings where
  tracks := tracks_init unlimited clock
  paced _ := SlidingWindow.paced_nil _ _
  known := rfl
  behind := le_refl _
  told _ impossible := absurd impossible List.not_mem_nil

/-- The pipeline is a step of the limiter. -/
theorem steps_of_check (window : 0 < settings.rateLimitWindowSeconds) (kept : f.Kept settings)
    {virtualKeyId : ℤ} {now : ℚ} {member : String} (order : f.clock ≤ now)
    (unused : f.limiter.Unused virtualKeyId member) :
    LimiterSteps settings f.limiter (.check virtualKeyId now member)
      (f.limiter.afterPipeline settings virtualKeyId now member) := by
  refine limiterSteps_of_step window kept.tracks.sets ?_
  rw [Limiter.step, if_pos ⟨le_trans kept.behind order, unused⟩]

theorem failingKept_check (window : 0 < settings.rateLimitWindowSeconds) (kept : f.Kept settings)
    {virtualKeyId : ℤ} {now : ℚ} {member : String} (order : f.clock ≤ now)
    (unused : f.limiter.Unused virtualKeyId member) (delivery : Delivery) :
    (f.afterCheck settings virtualKeyId now member delivery).Kept settings := by
  have steps := steps_of_check window kept order unused
  have tracks := tracks_step kept.tracks steps
  have paced := paced_step tracks kept.paced steps
  cases delivery with
  | answered =>
      refine ⟨tracks, paced, ?_, le_refl _, ?_⟩
      · simp [FailingLimiter.afterCheck, Attempted.Reached, kept.known, Limiter.afterPipeline,
          FailingLimiter.executed]
      · intro attempted member
        rcases List.mem_append.mp member with old | own
        · exact kept.told attempted old
        · rw [List.mem_singleton.mp own, if_pos rfl]
  | lost =>
      refine ⟨tracks.forget ?_, paced, ?_, le_refl _, ?_⟩
      · simp only [Limiter.afterPipeline]
        split
        · exact List.sublist_append_left _ _
        · exact List.Sublist.refl _
      · simp [FailingLimiter.afterCheck, Attempted.Reached, kept.known, Limiter.afterPipeline,
          FailingLimiter.executed]
      · intro attempted member
        rcases List.mem_append.mp member with old | own
        · exact kept.told attempted old
        · rw [List.mem_singleton.mp own]
          rfl
  | refused =>
      refine ⟨kept.tracks, kept.paced, ?_, le_trans kept.behind order, ?_⟩
      · simp [FailingLimiter.afterCheck, Attempted.Reached, kept.known]
      · intro attempted member
        rcases List.mem_append.mp member with old | own
        · exact kept.told attempted old
        · rw [List.mem_singleton.mp own]
          rfl

/-- **One step** keeps it. -/
theorem failingKept_step (window : 0 < settings.rateLimitWindowSeconds) (kept : f.Kept settings)
    (moved : f.step settings action = some next) : next.Kept settings := by
  cases action with
  | check virtualKeyId now member delivery =>
      simp only [FailingLimiter.step] at moved
      split at moved
      · rename_i admitted
        cases moved
        exact failingKept_check window kept admitted.1 admitted.2 delivery
      · cases moved
  | rollback check delivery =>
      obtain ⟨limiter, stepped, rfl⟩ := Option.map_eq_some_iff.mp moved
      have steps := limiterSteps_of_step window kept.tracks.sets stepped
      have tracks := tracks_step kept.tracks steps
      have paced := paced_step tracks kept.paced steps
      cases steps with
      | rollback _ removes clock =>
          exact ⟨tracks, paced, removes.checks.trans kept.known, clock ▸ kept.behind, kept.told⟩
  | expire key now =>
      simp only [FailingLimiter.step] at moved
      split at moved
      · obtain ⟨limiter, stepped, rfl⟩ := Option.map_eq_some_iff.mp moved
        have steps := limiterSteps_of_step window kept.tracks.sets stepped
        have tracks := tracks_step kept.tracks steps
        have paced := paced_step tracks kept.paced steps
        cases steps with
        | expire removes due passed clock =>
            exact ⟨tracks, paced, removes.checks.trans kept.known, clock.le, kept.told⟩
      · cases moved

theorem failingKept_run {store : Store} (window : 0 < settings.rateLimitWindowSeconds)
    (unlimited : Unlimited store) {clock : ℚ} {actions : List FailingAction}
    (reached : run (FailingLimiter.step settings) (.init store clock) actions = some f) :
    f.Kept settings :=
  invariant_of_step (failingKept_init unlimited clock)
    (fun _ _ _ kept moved => failingKept_step window kept moved) reached

end Steps

/-! ## Safety -/

namespace FailingLimiter

variable (f : FailingLimiter) (virtualKeyId : ℤ) (inside : ℚ → Bool)

/-- How many checks of a key have been accepted at certain times. -/
def granted : ℕ :=
  f.attempts.countP fun attempted =>
    attempted.check.virtualKeyId == virtualKeyId && attempted.status.allowed &&
      inside attempted.check.now

/-- How many have had no answer from Redis. -/
def unanswered : ℕ :=
  f.attempts.countP fun attempted =>
    attempted.check.virtualKeyId == virtualKeyId && decide (attempted.delivery ≠ .answered) &&
      inside attempted.check.now

end FailingLimiter

section Safety

variable {settings : Settings} {f : FailingLimiter}

/-- The accepted checks of the limiter, among the attempts. -/
theorem length_accepted (kept : f.Kept settings) (virtualKeyId : ℤ) (inside : ℚ → Bool) :
    ((f.limiter.accepted virtualKeyId).filter inside).length =
      f.attempts.countP fun attempted =>
        attempted.check.virtualKeyId == virtualKeyId && attempted.check.status.allowed &&
          inside attempted.check.now && decide attempted.Reached := by
  rw [Limiter.accepted, acceptedTimes, kept.known, List.filter_map, List.length_map,
    List.filter_filter, ← List.countP_eq_length_filter, List.countP_map, List.countP_filter]
  refine List.countP_congr fun attempted _ => ?_
  simp only [Function.comp_apply, Bool.and_eq_true]
  constructor
  · rintro ⟨⟨time, key, allowed⟩, reached⟩
    exact ⟨⟨⟨key, allowed⟩, time⟩, reached⟩
  · rintro ⟨⟨⟨key, allowed⟩, time⟩, reached⟩
    exact ⟨⟨time, key, allowed⟩, reached⟩

/-- An accepted check is one that the limiter has accepted, or one without an answer that the settings
let through. -/
theorem granted_le (kept : f.Kept settings) (virtualKeyId : ℤ) (inside : ℚ → Bool) :
    f.granted virtualKeyId inside ≤
      ((f.limiter.accepted virtualKeyId).filter inside).length +
        if settings.rateLimitFailOpen then f.unanswered virtualKeyId inside else 0 := by
  rw [length_accepted kept, FailingLimiter.granted,
    List.countP_eq_countP_filter_add _ _ fun attempted => decide (attempted.delivery = .answered),
    List.countP_filter, List.countP_filter]
  refine Nat.add_le_add (List.countP_mono_left fun attempted member => ?_) ?_
  · simp only [Bool.and_eq_true, decide_eq_true_eq]
    rintro ⟨⟨⟨key, allowed⟩, time⟩, answered⟩
    rw [kept.told attempted member, if_pos answered] at allowed
    exact ⟨⟨⟨key, allowed⟩, time⟩, by simp [Attempted.Reached, answered]⟩
  · split
    · refine List.countP_mono_left fun attempted _ => ?_
      simp only [Bool.and_eq_true, Bool.not_eq_true', decide_eq_false_iff_not, decide_eq_true_eq]
      rintro ⟨⟨⟨key, -⟩, time⟩, unanswered⟩
      exact ⟨⟨key, unanswered⟩, time⟩
    · rename_i closed
      refine (List.countP_eq_zero.mpr fun attempted member => ?_).le
      simp only [Bool.and_eq_true, Bool.not_eq_true', decide_eq_false_iff_not, not_and, not_not]
      rintro ⟨⟨-, allowed⟩, -⟩
      by_contra unanswered
      rw [kept.told attempted member, if_neg unanswered] at allowed
      exact closed allowed

theorem granted_le_of_bounded (kept : f.Kept settings) {virtualKeyId : ℤ} {inside : ℚ → Bool} {limit : ℤ}
    (bounded : (((f.limiter.accepted virtualKeyId).filter inside).length : ℤ) ≤ limit) :
    (f.granted virtualKeyId inside : ℤ) ≤
      limit + if settings.rateLimitFailOpen then (f.unanswered virtualKeyId inside : ℤ) else 0 := by
  have counted := granted_le kept virtualKeyId inside
  split at counted
  · rename_i lenient
    rw [if_pos lenient]
    omega
  · rename_i strict
    rw [if_neg strict]
    omega

/-- **Safety during outages.** In any run of overlapping checks, whatever becomes of their pipelines
and of their rollbacks, every half-open window of the configured width holds at most as many accepted
checks of a key as the limit says, and beyond these only checks without an answer, if the settings let
such checks through. -/
theorem outage_safety (settings : Settings) (window : 1 ≤ settings.rateLimitWindowSeconds)
    (store : Store) (unlimited : Unlimited store) (clock : ℚ) (actions : List FailingAction)
    (f : FailingLimiter)
    (reached : run (FailingLimiter.step settings) (.init store clock) actions = some f)
    (virtualKeyId : ℤ) (start : ℚ) :
    let from_ time := decide (start ≤ time ∧ time < start + settings.rateLimitWindowSeconds)
    let upTo time := decide (start < time ∧ time ≤ start + settings.rateLimitWindowSeconds)
    (f.granted virtualKeyId from_ : ℤ) ≤ max settings.rateLimitRequests 0 +
        (if settings.rateLimitFailOpen then (f.unanswered virtualKeyId from_ : ℤ) else 0) ∧
      (f.granted virtualKeyId upTo : ℤ) ≤ max settings.rateLimitRequests 0 +
        if settings.rateLimitFailOpen then (f.unanswered virtualKeyId upTo : ℤ) else 0 := by
  have kept := failingKept_run window unlimited reached
  have sorted : (f.limiter.accepted virtualKeyId).Pairwise (· ≤ ·) :=
    List.pairwise_map.mpr (kept.tracks.order.filter _)
  exact ⟨granted_le_of_bounded kept ((kept.paced virtualKeyId).window_left sorted start),
    granted_le_of_bounded kept ((kept.paced virtualKeyId).window_right sorted start)⟩

end Safety

/-- Checks of one key: Redis refuses the first, it loses the reply to the second, and the third, which it
answers, comes too early. The fourth does not. -/
def outage : List FailingAction :=
  [.check 1 100 "100.0:0a" .refused, .check 1 101 "101.0:0b" .lost,
    .check 1 110 "110.0:0c" .answered, .rollback ⟨1, 110, "110.0:0c", ⟨false, 1, 0, 10⟩⟩ .refused,
    .expire (rateLimitKey 1) 120, .check 1 121 "121.0:0d" .answered]

/-- The theorem about these checks, where two are let through for want of an answer. -/
theorem outage_safety_lenient :
    let lenient := { demoLimits with rateLimitFailOpen := true }
    let from_ (time : ℚ) := decide (100 ≤ time ∧ time < 100 + (lenient.rateLimitWindowSeconds : ℚ))
    ∃ f, run (FailingLimiter.step lenient) (.init Store.empty 0) outage = some f ∧
      f.granted 1 from_ = 2 ∧ f.unanswered 1 from_ = 2 ∧
        (f.granted 1 from_ : ℤ) ≤ max lenient.rateLimitRequests 0 +
          if lenient.rateLimitFailOpen then (f.unanswered 1 from_ : ℤ) else 0 := by
  intro lenient from_
  have performed : (run (FailingLimiter.step lenient) (.init Store.empty 0) outage).map
      (fun f => (f.granted 1 from_, f.unanswered 1 from_)) = some (2, 2) := by decide +kernel
  obtain ⟨f, reached, same⟩ := Option.map_eq_some_iff.mp performed
  obtain ⟨granted, unanswered⟩ := Prod.mk.inj same
  exact ⟨f, reached, granted, unanswered, (outage_safety lenient (by decide) Store.empty unlimited_empty 0
    outage f reached 1 100).1⟩

/-! ## Rejections -/

/-- The attempts of the key of a check that have reached Redis in its window. -/
def attemptsWithin (settings : Settings) (attempts : List Attempted) (check : Check) : ℕ :=
  attempts.countP fun other =>
    other.check.virtualKeyId == check.virtualKeyId && decide other.Reached &&
      decide (check.now - settings.window < other.check.now)

/-- Rejections have a reason in the attempts before. -/
structure FailingLimiter.Reasoned (settings : Settings) (f : FailingLimiter) : Prop where
  kept : f.Kept settings
  start : 0 ≤ f.clock
  positive : ∀ attempted ∈ f.attempts, 0 ≤ attempted.check.now
  reasons : ∀ before attempted after, f.attempts = before ++ attempted :: after →
    attempted.delivery = .answered → attempted.status.allowed = false →
      settings.rateLimitRequests ≤ (attemptsWithin settings before attempted.check : ℤ)

section Rejections

variable {settings : Settings} {f next : FailingLimiter} {action : FailingAction}

/-- The attempts of a window, among the checks that the limiter knows. -/
theorem length_checks (kept : f.Kept settings) (check : Check) :
    (f.limiter.checks.filter fun other => other.virtualKeyId == check.virtualKeyId &&
        decide (check.now - settings.window < other.now)).length =
      attemptsWithin settings f.attempts check := by
  rw [kept.known, List.filter_map, List.length_map, List.filter_filter, ← List.countP_eq_length_filter,
    attemptsWithin]
  refine List.countP_congr fun other _ => ?_
  simp only [Function.comp_apply, Bool.and_eq_true]
  constructor
  · rintro ⟨⟨key, recent⟩, reached⟩
    exact ⟨⟨key, reached⟩, recent⟩
  · rintro ⟨⟨key, reached⟩, recent⟩
    exact ⟨⟨key, recent⟩, reached⟩

/-- The count of a check is that of the attempts of its window at most, and itself. -/
theorem length_afterCheck_le (reasoned : f.Reasoned settings) {check : Check}
    (unused : f.limiter.Unused check.virtualKeyId check.member) :
    (afterCheck settings check.now check.member (f.limiter.members check.virtualKeyId)).length ≤
      attemptsWithin settings f.attempts check + 1 := by
  have tracks := reasoned.kept.tracks
  let pruned := (f.limiter.members check.virtualKeyId).removeRange 0
    (check.now - settings.rateLimitWindowSeconds)
  let recent := f.limiter.checks.filter fun other => other.virtualKeyId == check.virtualKeyId &&
    decide (check.now - settings.window < other.now)
  have names : pruned.map Prod.fst ⊆ recent.map Check.member := by
    intro member there
    obtain ⟨⟨name, score⟩, inner, rfl⟩ := List.mem_map.mp there
    obtain ⟨inside, left⟩ := Redis.SortedSet.mem_removeRange.mp inner
    obtain ⟨other, made, key, rfl, rfl⟩ := tracks.entries _ name score inside
    refine List.mem_map_of_mem (List.mem_filter.mpr ⟨made, ?_⟩)
    rw [reasoned.kept.known] at made
    obtain ⟨attempted, listed, rfl⟩ := List.mem_map.mp made
    have positive := reasoned.positive attempted (List.mem_filter.mp listed).1
    simp only [Bool.and_eq_true, beq_iff_eq, decide_eq_true_eq]
    exact ⟨key, left positive⟩
  have distinct : (pruned.map Prod.fst).Nodup := (tracks.nodup _).sublist (List.filter_sublist.map _)
  have fewer : pruned.length ≤ recent.length := by
    simpa only [List.length_map] using (List.subperm_of_subset distinct names).length_le
  rw [afterCheck, Redis.SortedSet.length_add, ← length_checks reasoned.kept]
  · exact Nat.add_le_add_right fewer 1
  · intro score there
    exact tracks.absent unused score (Redis.SortedSet.mem_removeRange.mp there).1

/-- A rejection by Redis has its reason. -/
theorem reason_of_rejected (window : 0 < settings.rateLimitWindowSeconds) (reasoned : f.Reasoned settings)
    {virtualKeyId : ℤ} {now : ℚ} {member : String} (order : f.clock ≤ now)
    (unused : f.limiter.Unused virtualKeyId member)
    (rejected : (f.executed settings virtualKeyId now member).status.allowed = false) :
    settings.rateLimitRequests ≤
      (attemptsWithin settings f.attempts (f.executed settings virtualKeyId now member) : ℤ) := by
  have steps := steps_of_check window reasoned.kept order unused
  generalize taken : FailingLimiter.executed settings f virtualKeyId now member = check at rejected
  have made : (f.limiter.afterPipeline settings virtualKeyId now member).checks =
      f.limiter.checks ++ [check] := by rw [← taken]; rfl
  generalize f.limiter.afterPipeline settings virtualKeyId now member = after at steps made
  cases steps with
  | @check other _ _ unused checks =>
      have same : other = check := by
        rw [checks.checks] at made
        exact List.singleton_inj.mp (List.append_cancel_left made)
      subst same
      have counted := length_afterCheck_le reasoned unused
      rw [checks.status, ← Bool.not_eq_true, verdict_allowed] at rejected
      omega

theorem reasoned_snoc (reasoned : f.Reasoned settings) {attempted : Attempted} (kept : next.Kept settings)
    (made : next.attempts = f.attempts ++ [attempted]) (clock : next.clock = attempted.check.now)
    (order : f.clock ≤ attempted.check.now)
    (reason : attempted.delivery = .answered → attempted.status.allowed = false →
      settings.rateLimitRequests ≤ (attemptsWithin settings f.attempts attempted.check : ℤ)) :
    next.Reasoned settings := by
  have later : 0 ≤ attempted.check.now := le_trans reasoned.start order
  refine ⟨kept, clock ▸ later, ?_, ?_⟩
  · intro other member
    rw [made] at member
    rcases List.mem_append.mp member with old | own
    · exact reasoned.positive other old
    · rwa [List.mem_singleton.mp own]
  · intro before other after split
    rw [made] at split
    rcases List.eq_nil_or_concat after with rfl | ⟨middle, last, rfl⟩
    · obtain ⟨rfl, own⟩ := List.append_inj' split rfl
      obtain rfl := List.singleton_inj.mp own
      exact reason
    · rw [List.concat_eq_append, ← List.cons_append, ← List.append_assoc] at split
      exact reasoned.reasons before other middle (List.append_inj' split rfl).1

/-- **One step** keeps it. -/
theorem reasoned_step (window : 0 < settings.rateLimitWindowSeconds) (reasoned : f.Reasoned settings)
    (moved : f.step settings action = some next) : next.Reasoned settings := by
  have kept := failingKept_step window reasoned.kept moved
  cases action with
  | check virtualKeyId now member delivery =>
      simp only [FailingLimiter.step] at moved
      split at moved
      · rename_i admitted
        cases moved
        cases delivery with
        | answered =>
            exact reasoned_snoc reasoned kept rfl rfl admitted.1 fun _ rejected =>
              reason_of_rejected window reasoned admitted.1 admitted.2 rejected
        | lost | refused =>
            exact reasoned_snoc reasoned kept rfl rfl admitted.1 fun impossible => nomatch impossible
      · cases moved
  | rollback check delivery =>
      obtain ⟨limiter, stepped, rfl⟩ := Option.map_eq_some_iff.mp moved
      exact ⟨kept, reasoned.start, reasoned.positive, reasoned.reasons⟩
  | expire key now =>
      simp only [FailingLimiter.step] at moved
      split at moved
      · rename_i order
        obtain ⟨limiter, stepped, rfl⟩ := Option.map_eq_some_iff.mp moved
        exact ⟨kept, le_trans reasoned.start order, reasoned.positive, reasoned.reasons⟩
      · cases moved

end Rejections

/-- **Rejections have a reason.** In any run, whatever becomes of pipelines and rollbacks, a check that
Redis has answered is rejected only if at least as many earlier attempts of its key as the limit says
have reached Redis in the window that ends with it. -/
theorem rejected_for_attempts (settings : Settings) (window : 1 ≤ settings.rateLimitWindowSeconds)
    (store : Store) (unlimited : Unlimited store) (clock : ℚ) (start : 0 ≤ clock)
    (actions : List FailingAction) (f : FailingLimiter)
    (reached : run (FailingLimiter.step settings) (.init store clock) actions = some f) :
    ∀ before attempted after, f.attempts = before ++ attempted :: after →
      attempted.delivery = .answered → attempted.status.allowed = false →
        settings.rateLimitRequests ≤ (attemptsWithin settings before attempted.check : ℤ) := by
  have reasoned : f.Reasoned settings := by
    refine invariant_of_step (P := fun f => f.Reasoned settings) ?_ ?_ reached
    · exact ⟨failingKept_init unlimited clock, start, fun _ impossible => absurd impossible List.not_mem_nil,
        fun before _ _ split => absurd split (by simp [FailingLimiter.init])⟩
    · exact fun _ _ _ reasoned moved => reasoned_step window reasoned moved
  exact reasoned.reasons

/-- The theorem about the same checks. The third is rejected for the second. -/
theorem rejected_for_attempts_lost :
    ∃ f, run (FailingLimiter.step demoLimits) (.init Store.empty 0) outage = some f ∧
      ∃ before attempted after, f.attempts = before ++ attempted :: after ∧
        attempted.delivery = .answered ∧ attempted.status.allowed = false ∧
        demoLimits.rateLimitRequests ≤ (attemptsWithin demoLimits before attempted.check : ℤ) := by
  have performed : (run (FailingLimiter.step demoLimits) (.init Store.empty 0) outage).map
      (fun f => f.attempts.map fun attempted => (attempted.delivery, attempted.status.allowed)) =
        some [(.refused, false), (.lost, false), (.answered, false), (.answered, true)] := by
    decide +kernel
  obtain ⟨f, reached, same⟩ := Option.map_eq_some_iff.mp performed
  obtain ⟨first, rest, split, -, same⟩ := List.map_eq_cons_iff.mp same
  obtain ⟨second, rest, rfl, -, same⟩ := List.map_eq_cons_iff.mp same
  obtain ⟨third, rest, rfl, came, -⟩ := List.map_eq_cons_iff.mp same
  obtain ⟨answered, rejected⟩ := Prod.mk.inj came
  exact ⟨f, reached, [first, second], third, rest, split, answered, rejected,
    rejected_for_attempts demoLimits (by decide) Store.empty unlimited_empty 0 (by decide) outage f reached
      [first, second] third rest split answered rejected⟩

end LlmGateway
