import LlmGateway.Limiter.Tracking

/-!
# What the rate limiter promises

* `rate_limit_safety`: with any overlap of checks, and whatever becomes of the rollbacks, a
  window of the configured width holds at most as many accepted checks as the limit says.
* `rejected_iff`: with every rollback executed, checks are rejected for accepted checks alone
  exactly in the runs in which no check finds slots taken by rejected checks that have
  not rolled back yet. `rejected_for_rejected` is a run with such a check.
* `rate_limit_refinement`: checks that do not overlap answer as the reference limiter does,
  which keeps all accepted timestamps.
-/

set_option autoImplicit false

namespace LlmGateway

open LlmGateway.Library
open LlmGateway.Library.Redis (SortedSet Store)
open LlmGateway.Library.SlidingWindow (Paced admits offer recent)

variable {settings : Settings} {l next : Limiter} {action : LimiterAction}

/-! ## Counting members -/

/-- The window of a check, as a number of seconds. -/
def Settings.window (settings : Settings) : ℚ := settings.rateLimitWindowSeconds

/-- The timestamps accepted among some checks of a virtual key, in order. -/
def acceptedTimes (checks : List Check) (virtualKeyId : ℤ) : List ℚ :=
  (checks.filter fun check => check.virtualKeyId == virtualKeyId && check.status.allowed).map
    Check.now

/-- The accepted timestamps of a virtual key. -/
def Limiter.accepted (l : Limiter) (virtualKeyId : ℤ) : List ℚ :=
  acceptedTimes l.checks virtualKeyId

theorem acceptedTimes_snoc (checks : List Check) (check : Check) (virtualKeyId : ℤ) :
    acceptedTimes (checks ++ [check]) virtualKeyId =
      if check.virtualKeyId = virtualKeyId ∧ check.status.allowed = true then
        acceptedTimes checks virtualKeyId ++ [check.now]
      else acceptedTimes checks virtualKeyId := by
  rw [acceptedTimes, List.filter_append, List.map_append]
  split
  · rename_i own
    rw [List.filter_cons_of_pos (by simp [own])]
    rfl
  · rename_i foreign
    rw [List.filter_cons_of_neg (by simpa using foreign)]
    simp [acceptedTimes]

/-- The checks of a set of checks of one key have different members. -/
theorem Limiter.Tracks.nodup_members (tracks : l.Tracks settings) {inside : Check → Bool}
    {virtualKeyId : ℤ}
    (key : ∀ check ∈ l.checks, inside check = true → check.virtualKeyId = virtualKeyId) :
    ((l.checks.filter inside).map Check.member).Nodup := by
  rw [List.Nodup, List.pairwise_map, List.pairwise_filter]
  refine tracks.named.imp_of_mem fun one other differ first second => differ ?_
  rw [key _ one first, key _ other second]

/-- Checks whose members lie in a set are at most as many as the set has members. -/
theorem Limiter.Tracks.length_le (tracks : l.Tracks settings) {inside : Check → Bool}
    (virtualKeyId : ℤ) {set : SortedSet}
    (held : ∀ check ∈ l.checks, inside check = true → check.virtualKeyId = virtualKeyId ∧
      (check.member, check.now) ∈ set) : (l.checks.filter inside).length ≤ set.length := by
  have nodup := tracks.nodup_members fun check made inner => (held check made inner).1
  have subset : (l.checks.filter inside).map Check.member ⊆ set.map Prod.fst := by
    intro member there
    obtain ⟨check, made, rfl⟩ := List.mem_map.mp there
    obtain ⟨known, inner⟩ := List.mem_filter.mp made
    exact List.mem_map.mpr ⟨_, (held check known inner).2, rfl⟩
  simpa using (List.subperm_of_subset nodup subset).length_le

/-- When the members of a set are those of some checks, there are as many. -/
theorem Limiter.Tracks.length_eq (tracks : l.Tracks settings) {inside : Check → Bool}
    (virtualKeyId : ℤ) {set : SortedSet} (distinct : (set.map Prod.fst).Nodup)
    (held : ∀ check ∈ l.checks, inside check = true → check.virtualKeyId = virtualKeyId ∧
      (check.member, check.now) ∈ set)
    (only : ∀ member score, (member, score) ∈ set →
      ∃ check ∈ l.checks, inside check = true ∧ check.member = member) :
    set.length = (l.checks.filter inside).length := by
  refine le_antisymm ?_ (tracks.length_le virtualKeyId held)
  have subset : set.map Prod.fst ⊆ (l.checks.filter inside).map Check.member := by
    intro member there
    obtain ⟨⟨name, score⟩, inner, rfl⟩ := List.mem_map.mp there
    obtain ⟨check, made, counted, same⟩ := only name score inner
    exact List.mem_map.mpr ⟨check, List.mem_filter.mpr ⟨made, counted⟩, same⟩
  simpa using (List.subperm_of_subset distinct subset).length_le

/-- The accepted timestamps of a window, as checks. -/
theorem length_recent_accepted (l : Limiter) (virtualKeyId : ℤ) (width now : ℚ) :
    (recent width now (l.accepted virtualKeyId)).length =
      (l.checks.filter fun check => (check.virtualKeyId == virtualKeyId && check.status.allowed) &&
        decide (now - width < check.now ∧ check.now ≤ now)).length := by
  rw [recent, Limiter.accepted, acceptedTimes, List.filter_map, List.length_map, List.filter_filter]
  congr 2
  funext check
  exact Bool.and_comm _ _

theorem Limiter.accepted_check {check : Check} (checks : Checks settings l check next)
    (virtualKeyId : ℤ) : next.accepted virtualKeyId =
      if check.virtualKeyId = virtualKeyId ∧ check.status.allowed = true then
        l.accepted virtualKeyId ++ [check.now]
      else l.accepted virtualKeyId := by
  rw [Limiter.accepted, checks.checks, acceptedTimes_snoc]
  rfl

/-! ## Safety -/

/-- The accepted checks of each key are paced. -/
def Limiter.Paced (settings : Settings) (l : Limiter) : Prop :=
  ∀ virtualKeyId, SlidingWindow.Paced settings.window settings.rateLimitRequests
    (l.accepted virtualKeyId)

/-- The status of a check that Redis has answered. -/
theorem verdict_allowed {count : ℤ} :
    (verdict settings (some count)).allowed = true ↔ count ≤ settings.rateLimitRequests := by
  simp [verdict]

theorem paced_step (later : next.Tracks settings)
    (paced : l.Paced settings) (moved : LimiterSteps settings l action next) :
    next.Paced settings := by
  intro virtualKeyId
  cases moved with
  | @check check _ order unused checks =>
      rw [Limiter.accepted_check checks]
      split
      · rename_i own
        obtain ⟨rfl, allowed⟩ := own
        refine SlidingWindow.paced_snoc (paced _) ?_
        have after : l.accepted check.virtualKeyId ++ [check.now] =
            next.accepted check.virtualKeyId := by
          rw [Limiter.accepted_check checks, if_pos ⟨rfl, allowed⟩]
        -- each accepted check of the window is a member of the set that was counted
        have fewer : (recent settings.window check.now (next.accepted check.virtualKeyId)).length ≤
            (next.members check.virtualKeyId).length := by
          rw [length_recent_accepted]
          refine later.length_le check.virtualKeyId fun other made inner => ?_
          simp only [Bool.and_eq_true, beq_iff_eq, decide_eq_true_eq] at inner
          obtain ⟨⟨key, accepted⟩, recent, -⟩ := inner
          refine ⟨key, key ▸ later.slots other made (.inl accepted) ?_⟩
          rw [checks.clock]
          exact recent
        rw [checks.status, verdict_allowed, ← checks.members] at allowed
        rw [after]
        exact le_trans (Int.ofNat_le.mpr fewer) allowed
      · exact paced virtualKeyId
  | rollback waits removes => rw [Limiter.accepted, removes.checks]; exact paced virtualKeyId
  | expire removes => rw [Limiter.accepted, removes.checks]; exact paced virtualKeyId

theorem paced_run {store : Store} (window : 0 < settings.rateLimitWindowSeconds)
    (unlimited : Unlimited store) {clock : ℚ} {actions : List LimiterAction}
    (reached : run (Limiter.step settings) (.init store clock) actions = some l) :
    l.Tracks settings ∧ l.Paced settings := by
  refine invariant_of_step (P := fun l => l.Tracks settings ∧ l.Paced settings)
    ⟨tracks_init unlimited clock, fun _ => SlidingWindow.paced_nil _ _⟩ ?_ reached
  rintro l action next ⟨tracks, paced⟩ moved
  have steps := limiterSteps_of_step window tracks.sets moved
  exact ⟨tracks_step tracks steps, paced_step (tracks_step tracks steps) paced steps⟩

/-- **Safety of the rate limit.** In any run of overlapping checks, with rollbacks that come late
or fail and keys that expire, every half-open window of the configured width holds at most
as many accepted checks of a key as the limit says. -/
theorem rate_limit_safety (settings : Settings) (window : 1 ≤ settings.rateLimitWindowSeconds)
    (store : Store) (unlimited : Unlimited store) (clock : ℚ) (actions : List LimiterAction)
    (l : Limiter) (reached : run (Limiter.step settings) (.init store clock) actions = some l)
    (virtualKeyId : ℤ) (start : ℚ) :
    (((l.accepted virtualKeyId).filter fun time =>
        decide (start ≤ time ∧ time < start + settings.rateLimitWindowSeconds)).length : ℤ) ≤
        max settings.rateLimitRequests 0 ∧
      (((l.accepted virtualKeyId).filter fun time =>
        decide (start < time ∧ time ≤ start + settings.rateLimitWindowSeconds)).length : ℤ) ≤
        max settings.rateLimitRequests 0 := by
  obtain ⟨tracks, paced⟩ := paced_run window unlimited reached
  have sorted : (l.accepted virtualKeyId).Pairwise (· ≤ ·) :=
    List.pairwise_map.mpr (tracks.order.filter _)
  exact ⟨(paced virtualKeyId).window_left sorted start,
    (paced virtualKeyId).window_right sorted start⟩

/-- One slot in ten seconds. -/
def demoLimits : Settings := { rateLimitRequests := 1, rateLimitWindowSeconds := 10 }

/-- Three checks of one key. The first is accepted. The second is rejected, and it has not rolled
back when the third comes, which finds the first outside its window. -/
def overlapping : List LimiterAction :=
  [.check 1 100 "100.0:0a", .check 1 109 "109.0:0b", .check 1 110 "110.0:0c"]

theorem unlimited_empty : Unlimited Store.empty := fun _ => rfl

/-- The theorem about a run of three checks. -/
theorem rate_limit_safety_overlapping :
    ∃ l, run (Limiter.step demoLimits) (.init Store.empty 0) overlapping = some l ∧
      (((l.accepted 1).filter fun time =>
          decide (100 ≤ time ∧ time < 100 + (demoLimits.rateLimitWindowSeconds : ℚ))).length : ℤ) ≤
          max demoLimits.rateLimitRequests 0 ∧
        (((l.accepted 1).filter fun time =>
          decide (100 < time ∧ time ≤ 100 + (demoLimits.rateLimitWindowSeconds : ℚ))).length : ℤ) ≤
          max demoLimits.rateLimitRequests 0 := by
  have performed : (run (Limiter.step demoLimits) (.init Store.empty 0) overlapping).isSome = true := by
    decide +kernel
  obtain ⟨l, reached⟩ := Option.isSome_iff_exists.mp performed
  exact ⟨l, reached, rate_limit_safety demoLimits (by decide) Store.empty unlimited_empty 0
    overlapping l reached 1 100⟩

/-! ## Rejections, when every rollback is executed -/

/-- A rollback is executed and answered. -/
def LimiterAction.Answered : LimiterAction → Prop
  | .rollback _ delivery => delivery = .answered
  | .check _ _ _ | .expire _ _ => True

instance (action : LimiterAction) : Decidable action.Answered := by
  unfold LimiterAction.Answered
  split <;> infer_instance

/-- Every rollback of the run is executed and answered. -/
def Reliable (actions : List LimiterAction) : Prop := ∀ action ∈ actions, action.Answered

instance (actions : List LimiterAction) : Decidable (Reliable actions) :=
  inferInstanceAs (Decidable (∀ action ∈ actions, action.Answered))

/-- The members of the sets are those of live checks. -/
structure Limiter.Exact (settings : Settings) (l : Limiter) : Prop where
  tracks : l.Tracks settings
  entries : ∀ virtualKeyId member score, (member, score) ∈ l.members virtualKeyId →
    ∃ check ∈ l.checks, l.Live check ∧ check.virtualKeyId = virtualKeyId ∧
      check.member = member ∧ check.now = score
  positive : ∀ check ∈ l.checks, 0 ≤ check.now
  clock : 0 ≤ l.clock

theorem exact_init {store : Store} (unlimited : Unlimited store) {clock : ℚ} (start : 0 ≤ clock) :
    (Limiter.init store clock).Exact settings where
  tracks := tracks_init unlimited clock
  entries virtualKeyId member score there := by
    rw [Limiter.members_eq_nil (unlimited virtualKeyId)] at there
    cases there
  positive check member := by cases member
  clock := start

theorem exact_step (exact_ : l.Exact settings) (moved : LimiterSteps settings l action next)
    (answered : action.Answered) : next.Exact settings := by
  have tracks := tracks_step exact_.tracks moved
  cases moved with
  | @check check _ order unused checks =>
      have start : 0 ≤ check.now := le_trans exact_.clock order
      refine ⟨tracks, ?_, ?_, checks.clock ▸ start⟩
      · intro other member score there
        have old : (member, score) ∈ l.members other →
            ∃ check ∈ next.checks, next.Live check ∧ check.virtualKeyId = other ∧
              check.member = member ∧ check.now = score := by
          intro inside
          obtain ⟨found, made, live, facts⟩ := exact_.entries other member score inside
          refine ⟨found, checks.checks ▸ List.mem_append_left _ made, live.imp_right ?_, facts⟩
          intro waiting
          rw [checks.waiting]
          split
          · exact waiting
          · exact List.mem_append_left _ waiting
        by_cases same : other = check.virtualKeyId
        · subst same
          rw [checks.members] at there
          rcases mem_afterCheck.mp there with ⟨⟨inside, -⟩, -⟩ | ⟨rfl, rfl⟩
          · exact old inside
          · refine ⟨check, by simp [checks.checks], ?_, rfl, rfl, rfl⟩
            cases allowed : check.status.allowed with
            | true => exact .inl allowed
            | false => exact .inr (by simp [checks.waiting, allowed])
        · exact old ((checks.others other same).1 ▸ there)
      · intro other made
        rw [checks.checks] at made
        rcases List.mem_append.mp made with old | own
        · exact exact_.positive other old
        · exact List.mem_singleton.mp own ▸ start
  | @rollback check delivery _ waits removes clock waiting kept gone =>
      refine ⟨tracks, fun other member score there => ?_, removes.checks ▸ exact_.positive,
        clock ▸ exact_.clock⟩
      obtain ⟨found, made, live, key, name, score_⟩ :=
        exact_.entries other member score ((removes.members other).subset there)
      refine ⟨found, removes.checks ▸ made, live.imp_right fun still => ?_, key, name, score_⟩
      -- the member of the check itself is gone
      have differs : found ≠ check := by
        rintro rfl
        rw [← key, ← name] at there
        exact gone (by rw [show delivery = .answered from answered]; simp) score there
      rw [waiting]
      exact (List.mem_erase_of_ne differs).mpr still
  | expire removes due passed clock waiting kept =>
      refine ⟨tracks, fun other member score there => ?_, removes.checks ▸ exact_.positive,
        le_trans exact_.clock removes.clock⟩
      rw [removes.checks]
      obtain ⟨found, made, live, facts⟩ :=
        exact_.entries other member score ((removes.members other).subset there)
      exact ⟨found, made, live.imp_right fun still => waiting ▸ still, facts⟩

theorem exact_run {store : Store} (window : 0 < settings.rateLimitWindowSeconds)
    (unlimited : Unlimited store) {clock : ℚ} (start : 0 ≤ clock) {actions : List LimiterAction}
    (reliable : Reliable actions)
    (reached : run (Limiter.step settings) (.init store clock) actions = some l) :
    l.Exact settings :=
  invariant (exact_init unlimited start)
    (fun _ _ _ holds moved answered => exact_step holds
      (limiterSteps_of_step window holds.tracks.sets moved) answered)
    (throughout_of_actions reliable _) reached

/-- The accepted checks of a key that lie in the window of a new one. -/
def Limiter.taken (settings : Settings) (l : Limiter) (virtualKeyId : ℤ) (now : ℚ) : ℕ :=
  (recent settings.window now (l.accepted virtualKeyId)).length

/-- The rejected checks of a key that lie in the window and have not rolled back. -/
def Limiter.pending (settings : Settings) (l : Limiter) (virtualKeyId : ℤ) (now : ℚ) : ℕ :=
  (l.waiting.filter fun check => check.virtualKeyId == virtualKeyId &&
    decide (now - settings.window < check.now ∧ check.now ≤ now)).length

theorem Limiter.Tracks.nodup_checks (tracks : l.Tracks settings) : l.checks.Nodup :=
  tracks.named.imp fun differ same => differ (congrArg _ same) (congrArg _ same)

/-- The live checks of a window are the accepted and the rejected ones. -/
theorem length_live (tracks : l.Tracks settings) (virtualKeyId : ℤ) (now : ℚ) :
    (l.checks.filter fun check => check.virtualKeyId == virtualKeyId && decide (l.Live check) &&
      decide (now - settings.window < check.now ∧ check.now ≤ now)).length =
        l.taken settings virtualKeyId now + l.pending settings virtualKeyId now := by
  rw [List.length_eq_countP_add_countP fun check => check.status.allowed,
    List.countP_eq_length_filter, List.countP_eq_length_filter, List.filter_filter,
    List.filter_filter]
  congr 1
  · rw [Limiter.taken, length_recent_accepted]
    congr 2
    funext check
    rw [Bool.eq_iff_iff]
    simp only [Bool.and_eq_true, decide_eq_true_eq, beq_iff_eq]
    exact ⟨fun ⟨allowed, ⟨key, _⟩, window⟩ => ⟨⟨key, allowed⟩, window⟩,
      fun ⟨⟨key, allowed⟩, window⟩ => ⟨allowed, ⟨key, .inl allowed⟩, window⟩⟩
  · -- the rejected ones are those that wait for their rollback
    refine List.Perm.length_eq ((List.perm_ext_iff_of_nodup (tracks.nodup_checks.filter _)
      (tracks.distinct.filter _)).mpr fun check => ?_)
    simp only [List.mem_filter, Bool.and_eq_true, decide_eq_true_eq, beq_iff_eq]
    constructor
    · rintro ⟨-, rejected, ⟨key, live⟩, window⟩
      exact ⟨live.resolve_left rejected, key, window⟩
    · rintro ⟨waits, key, window⟩
      obtain ⟨made, rejected⟩ := tracks.waits check waits
      exact ⟨made, by simp [rejected], ⟨key, .inr waits⟩, window⟩

/-- **The count of a check**: the accepted checks of its window, the rejected ones that have not
rolled back, and itself. -/
theorem length_afterCheck (exact_ : l.Exact settings) {check : Check}
    (order : l.clock ≤ check.now) (unused : l.Unused check.virtualKeyId check.member) :
    (afterCheck settings check.now check.member (l.members check.virtualKeyId)).length =
      l.taken settings check.virtualKeyId check.now +
        l.pending settings check.virtualKeyId check.now + 1 := by
  have tracks := exact_.tracks
  rw [afterCheck, SortedSet.length_add, ← length_live tracks]
  · congr 1
    refine tracks.length_eq check.virtualKeyId ((tracks.nodup _).sublist (List.filter_sublist.map _)) ?_ ?_
    · intro other made inner
      simp only [Bool.and_eq_true, beq_iff_eq, decide_eq_true_eq] at inner
      obtain ⟨⟨key, live⟩, recent, -⟩ := inner
      refine ⟨key, SortedSet.mem_removeRange.mpr ⟨key ▸ tracks.slots other made live ?_,
        fun _ => recent⟩⟩
      exact lt_of_le_of_lt (sub_le_sub_right order _) recent
    · intro member score there
      obtain ⟨inside, kept⟩ := SortedSet.mem_removeRange.mp there
      obtain ⟨other, made, live, key, name, rfl⟩ := exact_.entries _ member score inside
      refine ⟨other, made, ?_, name⟩
      simp only [Bool.and_eq_true, beq_iff_eq, decide_eq_true_eq]
      exact ⟨⟨key, live⟩, kept (exact_.positive other made),
        le_trans (tracks.past other made) order⟩
  · intro score there
    exact tracks.absent unused score (SortedSet.mem_removeRange.mp there).1

/-- A check is rejected only when as many accepted ones as the limit says lie in its window. -/
def RejectsForAccepted (settings : Settings) (l : Limiter) (action : LimiterAction)
    (next : Limiter) : Prop :=
  ∀ virtualKeyId now member status, action = .check virtualKeyId now member →
    next.checks = l.checks ++ [⟨virtualKeyId, now, member, status⟩] → status.allowed = false →
      settings.rateLimitRequests ≤ l.taken settings virtualKeyId now

/-- A check that finds a free slot among the accepted checks finds one that no rejected check
occupies. -/
def SlotsFree (settings : Settings) (l : Limiter) (action : LimiterAction) (_ : Limiter) : Prop :=
  ∀ virtualKeyId now member, action = .check virtualKeyId now member →
    settings.rateLimitRequests ≤ l.taken settings virtualKeyId now ∨
      (l.taken settings virtualKeyId now + l.pending settings virtualKeyId now : ℤ) <
        settings.rateLimitRequests

/-- What a check answers, from the accepted and the rejected checks of its window. -/
theorem status_of_checks (exact_ : l.Exact settings) {check : Check} (order : l.clock ≤ check.now)
    (unused : l.Unused check.virtualKeyId check.member)
    (checks : Checks settings l check next) : check.status = verdict settings
      (some (l.taken settings check.virtualKeyId check.now +
        l.pending settings check.virtualKeyId check.now + 1)) := by
  rw [checks.status, length_afterCheck exact_ order unused]
  push_cast
  rfl

theorem rejectsForAccepted_iff (exact_ : l.Exact settings)
    (moved : LimiterSteps settings l action next) :
    RejectsForAccepted settings l action next ↔ SlotsFree settings l action next := by
  cases moved with
  | @check check _ order unused checks =>
      have answer := status_of_checks exact_ order unused checks
      have rejected : check.status.allowed = false ↔ settings.rateLimitRequests ≤
          (l.taken settings check.virtualKeyId check.now +
            l.pending settings check.virtualKeyId check.now : ℤ) := by
        rw [answer, ← Bool.not_eq_true, verdict_allowed]
        omega
      constructor
      · intro promise virtualKeyId now member same
        cases same
        by_cases allowed : check.status.allowed = false
        · exact .inl (promise _ _ _ check.status rfl checks.checks allowed)
        · exact .inr (not_le.mp fun full => allowed (rejected.mpr full))
      · intro free virtualKeyId now member status same made refused
        cases same
        have own : check.status = status := by
          rw [checks.checks] at made
          exact congrArg Check.status (List.cons.inj (List.append_cancel_left made)).1
        rcases free _ _ _ rfl with full | room
        · exact full
        · exact absurd (rejected.mp (own ▸ refused)) (not_le.mpr room)
  | rollback | expire => simp [RejectsForAccepted, SlotsFree]

/-- **Rejections, exactly.** When every rollback is executed, the checks of a run are rejected for
accepted checks alone if and only if no check finds its free slots occupied by rejected checks
that have not rolled back. -/
theorem rejected_iff (settings : Settings) (window : 1 ≤ settings.rateLimitWindowSeconds)
    (store : Store) (unlimited : Unlimited store) (clock : ℚ) (start : 0 ≤ clock)
    (actions : List LimiterAction) (reliable : Reliable actions) :
    Throughout (Limiter.step settings) (RejectsForAccepted settings) (.init store clock) actions ↔
      Throughout (Limiter.step settings) (SlotsFree settings) (.init store clock) actions := by
  have each : ∀ before action after state next, actions = before ++ action :: after →
      run (Limiter.step settings) (.init store clock) before = some state →
        state.step settings action = some next →
          (RejectsForAccepted settings state action next ↔ SlotsFree settings state action next) := by
    intro before action after state next split reached moved
    have exact_ := exact_run window unlimited start
      (fun action member => reliable action (by simp [split, member])) reached
    exact rejectsForAccepted_iff exact_ (limiterSteps_of_step window exact_.tracks.sets moved)
  exact ⟨fun promise before action after state next split reached moved =>
      (each before action after state next split reached moved).mp
        (promise before action after state next split reached moved),
    fun free before action after state next split reached moved =>
      (each before action after state next split reached moved).mpr
        (free before action after state next split reached moved)⟩

/-- The condition on a check. -/
def findsFree (settings : Settings) (l : Limiter) : LimiterAction → Bool
  | .check virtualKeyId now _ =>
      decide (settings.rateLimitRequests ≤ l.taken settings virtualKeyId now ∨
        (l.taken settings virtualKeyId now + l.pending settings virtualKeyId now : ℤ) <
          settings.rateLimitRequests)
  | _ => true

/-- The second check is rejected for the first one. -/
theorem rejected_overlapping :
    Throughout (Limiter.step demoLimits) (RejectsForAccepted demoLimits) (.init Store.empty 0)
      (overlapping.take 2) := by
  refine (rejected_iff demoLimits (by decide) Store.empty unlimited_empty 0 (by decide)
    (overlapping.take 2) (by decide)).mpr ?_
  have passed : passes (Limiter.step demoLimits) (findsFree demoLimits) (.init Store.empty 0)
      (overlapping.take 2) = true := by decide +kernel
  refine throughout_of_passes (fun l action _ test virtualKeyId now member check => ?_) passed
  subst check
  exact of_decide_eq_true test

/-- The last check was rejected, and no accepted one lies in its window. -/
def rejectedForRejected (settings : Settings) (l : Limiter) : LimiterAction → Bool
  | .check virtualKeyId now member =>
      (l.step settings (.check virtualKeyId now member)).any fun next =>
        match next.checks.getLast? with
        | some check => next.checks == l.checks ++ [⟨virtualKeyId, now, member, check.status⟩] &&
            !check.status.allowed &&
              decide ((l.taken settings virtualKeyId now : ℤ) < settings.rateLimitRequests)
        | none => false
  | _ => false

/-- **A rejected check makes another one fail**: in the run `overlapping`, in which no command
fails, the third check is rejected although no accepted one lies in its window. -/
theorem rejected_for_rejected :
    Reliable overlapping ∧
      ¬ Throughout (Limiter.step demoLimits) (RejectsForAccepted demoLimits) (.init Store.empty 0)
        overlapping := by
  refine ⟨by decide, fun promise => ?_⟩
  have last : (run (Limiter.step demoLimits) (.init Store.empty 0) (overlapping.take 2)).any
      (fun l => rejectedForRejected demoLimits l (.check 1 110 "110.0:0c")) = true := by
    decide +kernel
  obtain ⟨l, reached, failed⟩ := (Option.any_eq_true _ _).mp last
  obtain ⟨next, moved, failed⟩ := (Option.any_eq_true _ _).mp failed
  split at failed
  · rename_i check there
    simp only [Bool.and_eq_true, beq_iff_eq, decide_eq_true_eq, Bool.not_eq_true'] at failed
    obtain ⟨⟨made, rejected⟩, room⟩ := failed
    have full := promise (overlapping.take 2) (.check 1 110 "110.0:0c") [] l next rfl reached moved
      1 110 "110.0:0c" check.status rfl made rejected
    exact absurd full (not_le.mpr room)
  · cases failed

/-! ## Checks that do not overlap -/

/-- What the reference limiter answers, which keeps all accepted timestamps of a key. -/
def referenceStatus (settings : Settings) (accepted : List ℚ) (now : ℚ) : RateLimitStatus :=
  let allowed := admits settings.window settings.rateLimitRequests accepted now
  { allowed
    limit := settings.rateLimitRequests
    remaining :=
      if allowed then
        settings.rateLimitRequests - ((recent settings.window now accepted).length + 1)
      else 0
    windowSeconds := settings.rateLimitWindowSeconds }

/-- The answers of the reference limiter to a sequence of calls, from the timestamps accepted so
far of each key. -/
def referenceAnswers (settings : Settings) :
    (ℤ → List ℚ) → List (ℤ × ℚ) → List RateLimitStatus
  | _, [] => []
  | accepted, (virtualKeyId, now) :: rest =>
      referenceStatus settings (accepted virtualKeyId) now ::
        referenceAnswers settings
          (Function.update accepted virtualKeyId
            (offer settings.window settings.rateLimitRequests (accepted virtualKeyId) now)) rest

/-- A check begins when no other one has still to roll back. -/
def Alone (l : Limiter) (action : LimiterAction) (_ : Limiter) : Prop :=
  ∀ virtualKeyId now member, action = .check virtualKeyId now member → l.waiting = []

/-- Each check answers as the reference limiter does, from the accepted ones before it. -/
def Referenced (settings : Settings) (checks : List Check) : Prop :=
  ∀ before check after, checks = before ++ check :: after →
    check.status = referenceStatus settings (acceptedTimes before check.virtualKeyId) check.now

theorem referenced_nil : Referenced settings [] := by
  intro before check after split
  simp at split

theorem referenced_snoc {checks : List Check} {check : Check}
    (referenced : Referenced settings checks)
    (answer : check.status =
      referenceStatus settings (acceptedTimes checks check.virtualKeyId) check.now) :
    Referenced settings (checks ++ [check]) := by
  intro before other after split
  cases after using List.reverseRecOn with
  | nil =>
      obtain ⟨rfl, same⟩ := List.append_inj' split rfl
      obtain rfl := (List.cons.inj same).1
      exact answer
  | append_singleton after last _ =>
      rw [← List.cons_append, ← List.append_assoc] at split
      exact referenced before other after (List.append_inj' split rfl).1

/-- A verdict without rejected checks in the window is that of the reference limiter. -/
theorem verdict_eq_referenceStatus (accepted : List ℚ) (now : ℚ) :
    verdict settings (some ((recent settings.window now accepted).length + 1)) =
      referenceStatus settings accepted now := by
  simp only [verdict, referenceStatus, admits, Int.add_one_le_iff, RateLimitStatus.mk.injEq,
    true_and, and_true]
  by_cases room : ((recent settings.window now accepted).length : ℤ) < settings.rateLimitRequests
  · simp only [room, decide_true, if_true]
    omega
  · simp [room]

theorem referenced_step (exact_ : l.Exact settings) (referenced : Referenced settings l.checks)
    (moved : LimiterSteps settings l action next) (alone : Alone l action next) :
    Referenced settings next.checks := by
  cases moved with
  | @check check _ order unused checks =>
      have idle := alone _ _ _ rfl
      rw [checks.checks]
      refine referenced_snoc referenced ?_
      have answer := status_of_checks exact_ order unused checks
      have none_ : l.pending settings check.virtualKeyId check.now = 0 := by
        simp [Limiter.pending, idle]
      rw [none_, Nat.cast_zero, add_zero, Limiter.taken] at answer
      exact answer.trans (verdict_eq_referenceStatus _ _)
  | rollback waits removes => exact removes.checks ▸ referenced
  | expire removes => exact removes.checks ▸ referenced

theorem referenced_run {store : Store} (window : 0 < settings.rateLimitWindowSeconds)
    (unlimited : Unlimited store) {clock : ℚ} (start : 0 ≤ clock) {actions : List LimiterAction}
    (reliable : Reliable actions)
    (alone : Throughout (Limiter.step settings) Alone (.init store clock) actions)
    (reached : run (Limiter.step settings) (.init store clock) actions = some l) :
    l.Exact settings ∧ Referenced settings l.checks := by
  refine invariant (P := fun l => l.Exact settings ∧ Referenced settings l.checks)
    ⟨exact_init unlimited start, referenced_nil⟩ ?_
    ((throughout_of_actions reliable _).and alone) reached
  rintro l action next ⟨exact_, referenced⟩ moved ⟨answered, single⟩
  have steps := limiterSteps_of_step window exact_.tracks.sets moved
  exact ⟨exact_step exact_ steps answered, referenced_step exact_ referenced steps single⟩

/-! ### The reference limiter over a whole run -/

/-- What the reference limiter keeps after a check that answers as it does. -/
theorem acceptedTimes_step {checks : List Check} {check : Check}
    (answer : check.status =
      referenceStatus settings (acceptedTimes checks check.virtualKeyId) check.now) :
    acceptedTimes (checks ++ [check]) = Function.update (acceptedTimes checks) check.virtualKeyId
      (offer settings.window settings.rateLimitRequests (acceptedTimes checks check.virtualKeyId)
        check.now) := by
  funext virtualKeyId
  rw [acceptedTimes_snoc, Function.update_apply]
  have verdict_ : check.status.allowed = admits settings.window settings.rateLimitRequests
      (acceptedTimes checks check.virtualKeyId) check.now := by rw [answer]; rfl
  by_cases same : virtualKeyId = check.virtualKeyId
  · subst same
    simp only [true_and, if_true, offer, verdict_]
  · rw [if_neg same, if_neg fun own => same own.1.symm]

/-- Checks that answer as the reference limiter does, from some point on. -/
theorem statuses_eq_referenceAnswers (before after : List Check)
    (referenced : Referenced settings (before ++ after)) :
    after.map Check.status = referenceAnswers settings (acceptedTimes before)
      (after.map fun check => (check.virtualKeyId, check.now)) := by
  induction after generalizing before with
  | nil => rfl
  | cons check after ih =>
      have answer := referenced before check after rfl
      rw [List.map_cons, List.map_cons, referenceAnswers, ← answer, ← acceptedTimes_step answer,
        ← ih _ (by simpa using referenced)]

/-- The timestamps of the checks of a key. -/
def timesOf (checks : List Check) (virtualKeyId : ℤ) : List ℚ :=
  (checks.filter fun check => check.virtualKeyId == virtualKeyId).map Check.now

/-- What the reference limiter keeps after several checks, for one key. -/
theorem acceptedTimes_append (before middle after : List Check) (virtualKeyId : ℤ)
    (referenced : Referenced settings (before ++ middle ++ after)) :
    acceptedTimes (before ++ middle) virtualKeyId =
      (timesOf middle virtualKeyId).foldl (offer settings.window settings.rateLimitRequests)
        (acceptedTimes before virtualKeyId) := by
  induction middle generalizing before with
  | nil => rw [List.append_nil]; rfl
  | cons check middle ih =>
      have answer := referenced before check (middle ++ after) (by simp)
      have onward := ih (before ++ [check]) (by simpa using referenced)
      rw [← List.append_cons] at onward
      rw [onward, acceptedTimes_step answer, Function.update_apply, timesOf, timesOf]
      split_ifs with same
      · rw [List.filter_cons_of_pos (by simp [same]), List.map_cons, List.foldl_cons, same]
      · rw [List.filter_cons_of_neg (by simpa using Ne.symm same)]

/-- **Remaining calls are granted**: after a check that reports `remaining`, that many next checks
of its key are allowed, whenever they come. -/
theorem allowed_of_remaining {checks before after : List Check} {check later : Check}
    (window : 0 < settings.window) (referenced : Referenced settings checks)
    (order : checks.Pairwise fun first second => first.now ≤ second.now)
    (split : checks = before ++ check :: after)
    (soon : later ∈ (after.filter fun other => other.virtualKeyId == check.virtualKeyId).take
      check.status.remaining.toNat) : later.status.allowed = true := by
  subst split
  obtain ⟨earlier, rest, taken⟩ := List.append_of_mem soon
  -- the check that is meant, and the checks of the key before it
  obtain ⟨middle, tail, cut, before_, own⟩ : ∃ middle tail, after = middle ++ later :: tail ∧
      (middle.filter fun other => other.virtualKeyId == check.virtualKeyId) = earlier ∧
        later.virtualKeyId = check.virtualKeyId := by
    have whole := List.take_append_drop check.status.remaining.toNat
      (after.filter fun other => other.virtualKeyId == check.virtualKeyId)
    rw [taken, List.append_assoc, List.cons_append] at whole
    obtain ⟨first, second, rfl, inside, onward⟩ := List.filter_eq_append_iff.mp whole.symm
    obtain ⟨skipped, tail, rfl, foreign, own, -⟩ := List.filter_eq_cons_iff.mp onward
    refine ⟨first ++ skipped, tail, by simp, ?_, by simpa using own⟩
    rw [List.filter_append, inside, List.filter_eq_nil_iff.mpr foreign, List.append_nil]
  have answer := referenced before check after rfl
  have reply : later.status = referenceStatus settings
      (acceptedTimes (before ++ check :: middle) later.virtualKeyId) later.now :=
    referenced (before ++ check :: middle) later tail (by simp [cut])
  have kept : acceptedTimes (before ++ check :: middle) check.virtualKeyId =
      (earlier.map Check.now).foldl (offer settings.window settings.rateLimitRequests)
        (acceptedTimes (before ++ [check]) check.virtualKeyId) := by
    rw [List.append_cons, acceptedTimes_append (before ++ [check]) middle (later :: tail)
      check.virtualKeyId (by simpa [cut] using referenced), timesOf, before_]
  -- a check that reports remaining calls was accepted
  have accepted : admits settings.window settings.rateLimitRequests
      (acceptedTimes before check.virtualKeyId) check.now = true := by
    by_contra refused
    rw [answer, referenceStatus] at soon
    simp only [refused] at soon
    simp at soon
  have left : check.status.remaining = settings.rateLimitRequests -
      ((recent settings.window check.now (acceptedTimes before check.virtualKeyId)).length + 1) := by
    rw [answer, referenceStatus]
    simp only [accepted, if_true]
  have times : acceptedTimes (before ++ [check]) check.virtualKeyId =
      acceptedTimes before check.virtualKeyId ++ [check.now] := by
    rw [acceptedTimes_step answer, Function.update_self, offer, if_pos accepted]
  rw [reply, own, kept]
  obtain ⟨-, ordered, across⟩ := List.pairwise_append.mp order
  refine SlidingWindow.granted_of_room check.now
    (((after.filter fun other => other.virtualKeyId == check.virtualKeyId).take
      check.status.remaining.toNat).map Check.now) ?_ ?_ ?_ (earlier.map Check.now) later.now
    (rest.map Check.now) (by rw [taken, List.map_append, List.map_cons])
  · rw [← List.map_cons, List.pairwise_map]
    refine ordered.sublist (List.Sublist.cons_cons check ?_)
    exact (List.take_sublist _ _).trans List.filter_sublist
  · intro time member
    rw [times] at member
    rcases List.mem_append.mp member with old | new
    · obtain ⟨other, made, rfl⟩ := List.mem_map.mp old
      exact across other (List.mem_filter.mp made).1 check List.mem_cons_self
    · exact le_of_eq (List.mem_singleton.mp new)
  · have few : ((after.filter fun other => other.virtualKeyId == check.virtualKeyId).take
        check.status.remaining.toNat).length ≤ check.status.remaining.toNat :=
      List.length_take_le _ _
    have some_ : 0 < check.status.remaining.toNat := by
      rcases Nat.eq_zero_or_pos check.status.remaining.toNat with none_ | positive
      · rw [none_] at soon
        simp at soon
      · exact positive
    rw [times, SlidingWindow.recent_append, SlidingWindow.recent_self window, List.length_append,
      List.length_singleton, List.length_map]
    push_cast
    omega

/-- **Refinement of the rate limiter.** Checks that do not overlap, over any keys and with keys that
expire, answer as the reference limiter does; and a check that reports remaining calls is
followed by as many allowed ones. -/
theorem rate_limit_refinement (settings : Settings) (window : 1 ≤ settings.rateLimitWindowSeconds)
    (store : Store) (unlimited : Unlimited store) (clock : ℚ) (start : 0 ≤ clock)
    (actions : List LimiterAction) (reliable : Reliable actions)
    (alone : Throughout (Limiter.step settings) Alone (.init store clock) actions) (l : Limiter)
    (reached : run (Limiter.step settings) (.init store clock) actions = some l) :
    l.checks.map Check.status = referenceAnswers settings (fun _ => [])
        (l.checks.map fun check => (check.virtualKeyId, check.now)) ∧
      ∀ before check after, l.checks = before ++ check :: after →
        ∀ later ∈ (after.filter fun other => other.virtualKeyId == check.virtualKeyId).take
          check.status.remaining.toNat, later.status.allowed = true := by
  obtain ⟨exact_, referenced⟩ := referenced_run window unlimited start reliable alone reached
  refine ⟨statuses_eq_referenceAnswers [] l.checks referenced, ?_⟩
  intro before check after split later soon
  refine allowed_of_remaining ?_ referenced exact_.tracks.order split soon
  exact Int.cast_pos.mpr window

/-- Three checks of one key, one after the other; the second is rejected and rolls back. -/
def sequential : List LimiterAction :=
  [.check 1 100 "100.0:0a", .check 1 105 "105.0:0b",
    .rollback ⟨1, 105, "105.0:0b", ⟨false, 1, 0, 10⟩⟩ .answered, .expire (rateLimitKey 1) 115,
    .check 1 116 "116.0:0c"]

/-- A test of `Alone`. -/
def beginsAlone (l : Limiter) : LimiterAction → Bool
  | .check _ _ _ => l.waiting.isEmpty
  | _ => true

theorem alone_of_beginsAlone (l : Limiter) (action : LimiterAction) (next : Limiter)
    (tested : beginsAlone l action = true) : Alone l action next := by
  rintro virtualKeyId now member rfl
  exact List.isEmpty_iff.mp tested

/-- The theorem about three checks that do not overlap. -/
theorem rate_limit_refinement_sequential :
    ∃ l, run (Limiter.step demoLimits) (.init Store.empty 0) sequential = some l ∧
      l.checks.map Check.status = referenceAnswers demoLimits (fun _ => [])
          (l.checks.map fun check => (check.virtualKeyId, check.now)) ∧
        ∀ before check after, l.checks = before ++ check :: after →
          ∀ later ∈ (after.filter fun other => other.virtualKeyId == check.virtualKeyId).take
            check.status.remaining.toNat, later.status.allowed = true := by
  have performed : (run (Limiter.step demoLimits) (.init Store.empty 0) sequential).isSome = true := by
    decide +kernel
  have tested : passes (Limiter.step demoLimits) beginsAlone (.init Store.empty 0) sequential =
      true := by decide +kernel
  obtain ⟨l, reached⟩ := Option.isSome_iff_exists.mp performed
  exact ⟨l, reached, rate_limit_refinement demoLimits (by decide) Store.empty unlimited_empty 0
    (by decide) sequential (by decide) (throughout_of_passes alone_of_beginsAlone tested) l reached⟩

end LlmGateway
