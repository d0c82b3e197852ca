import LlmGateway.Limiter.Machine

/-!
# The sorted set and the log of checks

`Tracks` holds in every state of every run (`tracks_run`), with any overlap of checks, with
rollbacks that come late or fail, and with keys that expire. It does not say that a
set holds nothing else: a rejected check whose rollback has failed stays in it.

From it follows that the accepted checks of a window are at most as many as the
limit allows (`rate_limit_safety`).
-/

set_option autoImplicit false

namespace LlmGateway

open LlmGateway.Library
open LlmGateway.Library.Redis (SortedSet Store)

variable {settings : Settings} {l next : Limiter} {action : LimiterAction}

/-! ## The invariant -/

/-- An accepted check, or a rejected one that has not rolled back. -/
def Limiter.Live (l : Limiter) (check : Check) : Prop :=
  check.status.allowed = true ∨ check ∈ l.waiting

instance (l : Limiter) (check : Check) : Decidable (l.Live check) :=
  inferInstanceAs (Decidable (_ ∨ _))

/-- **The sorted sets and the checks made so far.** -/
structure Limiter.Tracks (settings : Settings) (l : Limiter) : Prop where
  sets : ∀ virtualKeyId, Redis.sortedSetAt l.store (rateLimitKey virtualKeyId) ≠ none
  /-- A member of a set is that of a check. -/
  entries : ∀ virtualKeyId member score, (member, score) ∈ l.members virtualKeyId →
    ∃ check ∈ l.checks, check.virtualKeyId = virtualKeyId ∧ check.member = member ∧
      check.now = score
  nodup : ∀ virtualKeyId, ((l.members virtualKeyId).map Prod.fst).Nodup
  /-- A live check of the window is a member of its set. -/
  slots : ∀ check ∈ l.checks, l.Live check →
    l.clock - settings.rateLimitWindowSeconds < check.now →
      (check.member, check.now) ∈ l.members check.virtualKeyId
  /-- A set expires when all its members have left the window. -/
  deadlines : ∀ virtualKeyId deadline, l.deadlines (rateLimitKey virtualKeyId) = some deadline →
    ∀ member score, (member, score) ∈ l.members virtualKeyId →
      score + settings.rateLimitWindowSeconds ≤ deadline
  order : l.checks.Pairwise fun first second => first.now ≤ second.now
  past : ∀ check ∈ l.checks, check.now ≤ l.clock
  named : l.checks.Pairwise fun first second =>
    first.virtualKeyId = second.virtualKeyId → first.member ≠ second.member
  distinct : l.waiting.Nodup
  waits : ∀ check ∈ l.waiting, check ∈ l.checks ∧ check.status.allowed = false

theorem Limiter.members_eq_nil {l : Limiter} {virtualKeyId : ℤ}
    (absent : l.store (rateLimitKey virtualKeyId) = none) : l.members virtualKeyId = [] := by
  simp [Limiter.members, Redis.sortedSetAt, absent]

theorem tracks_init {store : Store} (unlimited : Unlimited store) (clock : ℚ) :
    (Limiter.init store clock).Tracks settings where
  sets virtualKeyId := by simp [Limiter.init, Redis.sortedSetAt, unlimited virtualKeyId]
  entries virtualKeyId member score there := by
    rw [Limiter.members_eq_nil (unlimited virtualKeyId)] at there
    cases there
  nodup virtualKeyId := by
    rw [Limiter.members_eq_nil (unlimited virtualKeyId)]
    exact List.nodup_nil
  slots check member := by cases member
  deadlines virtualKeyId deadline due := by cases due
  order := List.Pairwise.nil
  past check member := by cases member
  named := List.Pairwise.nil
  distinct := List.nodup_nil
  waits check member := by cases member

/-- A check is named by its key and its member. -/
theorem Limiter.Tracks.unique (tracks : l.Tracks settings) {first second : Check}
    (one : first ∈ l.checks) (other : second ∈ l.checks)
    (key : first.virtualKeyId = second.virtualKeyId) (member : first.member = second.member) :
    first = second := by
  exact List.Pairwise.forall_of_forall_of_flip
    (R := fun first second => first.virtualKeyId = second.virtualKeyId →
      first.member = second.member → first = second)
    (fun _ _ _ _ => rfl) (tracks.named.imp fun differ key same => absurd same (differ key))
    (tracks.named.imp fun differ key same => absurd same.symm (differ key.symm)) one other key
    member

/-! ## Each step keeps it -/

theorem Limiter.Tracks.score_le (tracks : l.Tracks settings) {virtualKeyId : ℤ} {member : String}
    {score : ℚ} (there : (member, score) ∈ l.members virtualKeyId) : score ≤ l.clock := by
  obtain ⟨check, made, -, -, rfl⟩ := tracks.entries virtualKeyId member score there
  exact tracks.past check made

/-- The member of an unused name is not in the set. -/
theorem Limiter.Tracks.absent (tracks : l.Tracks settings) {virtualKeyId : ℤ} {member : String}
    (unused : l.Unused virtualKeyId member) (score : ℚ) :
    (member, score) ∉ l.members virtualKeyId := fun there => by
  obtain ⟨check, made, key, same, -⟩ := tracks.entries virtualKeyId member score there
  exact unused check made key same

theorem mem_afterCheck {now score : ℚ} {member other : String} {set : SortedSet} :
    (other, score) ∈ afterCheck settings now member set ↔
      ((other, score) ∈ set ∧ (0 ≤ score → now - settings.rateLimitWindowSeconds < score)) ∧
        other ≠ member ∨ other = member ∧ score = now := by
  rw [afterCheck, SortedSet.mem_add, SortedSet.mem_removeRange]

theorem tracks_check {check : Check} (tracks : l.Tracks settings) (order : l.clock ≤ check.now)
    (unused : l.Unused check.virtualKeyId check.member)
    (checks : Checks settings l check next) : next.Tracks settings := by
  have new : check ∉ l.checks := fun made => unused check made rfl rfl
  have waited : ∀ other ∈ next.waiting, other ∈ l.waiting ∨
      other = check ∧ check.status.allowed = false := by
    intro other member
    rw [checks.waiting] at member
    split at member
    · exact .inl member
    · rename_i rejected
      rcases List.mem_append.mp member with old | own
      · exact .inl old
      · exact .inr ⟨List.mem_singleton.mp own, by simpa using rejected⟩
  refine ⟨fun other => checks.sets other (tracks.sets other), ?_, ?_, ?_, ?_, ?_, ?_, ?_, ?_, ?_⟩
  · intro other member score there
    rw [checks.checks]
    by_cases same : other = check.virtualKeyId
    · subst same
      rw [checks.members] at there
      rcases mem_afterCheck.mp there with ⟨⟨old, -⟩, -⟩ | ⟨rfl, rfl⟩
      · obtain ⟨found, made, facts⟩ := tracks.entries _ member score old
        exact ⟨found, List.mem_append_left _ made, facts⟩
      · exact ⟨check, by simp, rfl, rfl, rfl⟩
    · rw [(checks.others other same).1] at there
      obtain ⟨found, made, facts⟩ := tracks.entries other member score there
      exact ⟨found, List.mem_append_left _ made, facts⟩
  · intro other
    by_cases same : other = check.virtualKeyId
    · rw [same, checks.members]
      exact SortedSet.nodup_add ((tracks.nodup _).sublist (List.filter_sublist.map _))
    · rw [(checks.others other same).1]
      exact tracks.nodup other
  · intro other made live recent
    rw [checks.clock] at recent
    rw [checks.checks] at made
    rcases List.mem_append.mp made with old | own
    · have differs : other ≠ check := fun same => new (same ▸ old)
      have before : l.Live other := by
        rcases live with accepted | waiting
        · exact .inl accepted
        · exact .inr ((waited other waiting).resolve_right fun same => differs same.1)
      have inside := tracks.slots other old before
        (lt_of_le_of_lt (sub_le_sub_right order _) recent)
      by_cases same : other.virtualKeyId = check.virtualKeyId
      · rw [same, checks.members]
        rw [same] at inside
        exact mem_afterCheck.mpr (.inl ⟨⟨inside, fun _ => recent⟩, unused other old same⟩)
      · rw [(checks.others _ same).1]
        exact inside
    · obtain rfl := List.mem_singleton.mp own
      rw [checks.members]
      exact mem_afterCheck.mpr (.inr ⟨rfl, rfl⟩)
  · intro other deadline due member score there
    by_cases same : other = check.virtualKeyId
    · subst same
      rw [checks.deadline] at due
      obtain rfl := Option.some.inj due
      rw [checks.members] at there
      rcases mem_afterCheck.mp there with ⟨⟨old, -⟩, -⟩ | ⟨-, rfl⟩
      · exact add_le_add_left (le_trans (tracks.score_le old) order) _
      · exact le_refl _
    · rw [(checks.others other same).2] at due
      rw [(checks.others other same).1] at there
      exact tracks.deadlines other deadline due member score there
  · rw [checks.checks, List.pairwise_append]
    refine ⟨tracks.order, List.pairwise_singleton _ _, fun old made own member => ?_⟩
    obtain rfl := List.mem_singleton.mp member
    exact le_trans (tracks.past old made) order
  · intro other made
    rw [checks.clock]
    rw [checks.checks] at made
    rcases List.mem_append.mp made with old | own
    · exact le_trans (tracks.past other old) order
    · obtain rfl := List.mem_singleton.mp own
      exact le_refl _
  · rw [checks.checks, List.pairwise_append]
    refine ⟨tracks.named, List.pairwise_singleton _ _, fun old made own member => ?_⟩
    obtain rfl := List.mem_singleton.mp member
    exact unused old made
  · rw [checks.waiting]
    split
    · exact tracks.distinct
    · rw [List.nodup_append]
      refine ⟨tracks.distinct, by simp, fun old waits own member => ?_⟩
      obtain rfl := List.mem_singleton.mp member
      rintro rfl
      exact new (tracks.waits _ waits).1
  · intro other waits
    rw [checks.checks]
    rcases waited other waits with old | ⟨rfl, rejected⟩
    · exact ⟨List.mem_append_left _ (tracks.waits other old).1, (tracks.waits other old).2⟩
    · exact ⟨by simp, rejected⟩

/-- A step that only takes members out of the sets keeps the invariant, if it leaves the members
of the live checks of the window. -/
theorem Limiter.Tracks.remove (tracks : l.Tracks settings) (removes : Removes l next)
    (slots : ∀ check ∈ next.checks, next.Live check →
      next.clock - settings.rateLimitWindowSeconds < check.now →
        (check.member, check.now) ∈ next.members check.virtualKeyId)
    (distinct : next.waiting.Nodup) (waits : next.waiting ⊆ l.waiting) : next.Tracks settings where
  sets virtualKeyId := removes.sets virtualKeyId (tracks.sets virtualKeyId)
  entries virtualKeyId member score there := by
    rw [removes.checks]
    exact tracks.entries virtualKeyId member score ((removes.members virtualKeyId).subset there)
  nodup virtualKeyId := (tracks.nodup virtualKeyId).sublist ((removes.members virtualKeyId).map _)
  slots := slots
  deadlines virtualKeyId deadline due member score there :=
    tracks.deadlines virtualKeyId deadline (removes.deadlines _ _ due) member score
      ((removes.members virtualKeyId).subset there)
  order := removes.checks ▸ tracks.order
  past check made := le_trans (tracks.past check (removes.checks ▸ made)) removes.clock
  named := removes.checks ▸ tracks.named
  distinct := distinct
  waits check waiting := removes.checks ▸ tracks.waits check (waits waiting)

/-- **One step of the limiter.** -/
theorem tracks_step (tracks : l.Tracks settings) (moved : LimiterSteps settings l action next) :
    next.Tracks settings := by
  cases moved with
  | check order unused checks => exact tracks_check tracks order unused checks
  | @rollback check delivery _ waits removes clock waiting kept gone =>
      refine tracks.remove removes (fun other made live recent => ?_)
        (waiting ▸ tracks.distinct.erase check) (waiting ▸ List.erase_subset)
      rw [removes.checks] at made
      rw [clock] at recent
      obtain ⟨known, rejected⟩ := tracks.waits check waits
      -- the rolled back check is live no more
      have differs : other ≠ check := by
        rintro rfl
        rcases live with accepted | still
        · rw [rejected] at accepted
          cases accepted
        · rw [waiting] at still
          exact tracks.distinct.not_mem_erase still
      have before : l.Live other := live.imp_right fun still => by
        rw [waiting] at still
        exact List.mem_of_mem_erase still
      exact kept _ _ _ (tracks.slots other made before recent) fun same =>
        differs (tracks.unique made known same.1 same.2)
  | @expire key now deadline _ removes due passed clock waiting kept =>
      refine tracks.remove removes (fun other made live recent => ?_)
        (waiting ▸ tracks.distinct) (waiting ▸ List.Subset.refl _)
      rw [removes.checks] at made
      rw [Limiter.Live, waiting] at live
      have inside := tracks.slots other made live
        (lt_of_le_of_lt (sub_le_sub_right removes.clock _) recent)
      by_cases same : rateLimitKey other.virtualKeyId = key
      · -- the key has expired, and with it the window of the check
        have left := tracks.deadlines other.virtualKeyId deadline (same ▸ due) _ _ inside
        rw [clock] at recent
        exact absurd recent (not_lt.mpr (le_sub_iff_add_le.mpr (le_trans left passed)))
      · rw [kept _ same]
        exact inside

/-- **Every state of a run tracks its checks.** -/
theorem tracks_run {store : Store} (window : 0 < settings.rateLimitWindowSeconds)
    (unlimited : Unlimited store) {clock : ℚ} {actions : List LimiterAction}
    (reached : run (Limiter.step settings) (.init store clock) actions = some l) :
    l.Tracks settings :=
  invariant_of_step (tracks_init unlimited clock)
    (fun _ _ _ tracks moved => tracks_step tracks (limiterSteps_of_step window tracks.sets moved))
    reached

end LlmGateway
