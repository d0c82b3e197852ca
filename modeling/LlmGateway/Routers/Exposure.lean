import LlmGateway.Routers.Mediation

/-!
# The exposure of the services

Every request that is handed to the services holds an attempt of the rate limiter of its own, one that
was accepted for its key (`Endpoint.Holding`). So in a window of the rate limit the services see no
more requests of a key than its limit says, whatever Redis and the database do meanwhile, and none of
them asks for more tokens than the ceiling (`exposure_bounded`).
-/

set_option autoImplicit false

namespace LlmGateway

open LlmGateway.Library

/-! ## Attempts and requests -/

/-- The virtual key and the attempt of a request that the rate limiter has accepted. -/
def Passage.attempt : Passage → Option (ℤ × ℕ)
  | .limited virtualKeyId attempt | .keyCheck virtualKeyId attempt _ | .keyCleared virtualKeyId attempt
  | .cleared virtualKeyId attempt | .dispatched virtualKeyId attempt _ => some (virtualKeyId, attempt)
  | .arrived | .authenticated _ | .closed | .lapsed => none

/-- The request has been accepted by the rate limiter, at the attempt `i`. -/
def Endpoint.Holds (e : Endpoint) (n : ℕ) (virtualKeyId : ℤ) (i : ℕ) : Prop :=
  ∃ visit, e.visits[n]? = some visit ∧ visit.passage.attempt = some (virtualKeyId, i)

/-- The attempt is of the key, and it is accepted. -/
def FailingLimiter.Accepts (f : FailingLimiter) (virtualKeyId : ℤ) (i : ℕ) : Prop :=
  ∃ attempted, f.attempts[i]? = some attempted ∧ attempted.check.virtualKeyId = virtualKeyId ∧
    attempted.status.allowed = true

/-- Each request that the rate limiter has accepted holds an attempt of its own. -/
structure Endpoint.Holding (app : App) (e : Endpoint) : Prop where
  kept : e.limiter.Kept app.env.settings
  held : ∀ n virtualKeyId i, e.Holds n virtualKeyId i → e.limiter.Accepts virtualKeyId i
  apart : ∀ n m virtualKeyId own i, e.Holds n virtualKeyId i → e.Holds m own i → n = m

section Holding

variable {app : App} {e next : Endpoint} {action : EndpointAction} {n : ℕ} {visit : Visit}
  {turned : Turned}

/-- A check adds its attempt. -/
theorem attempts_of_check {settings : Settings} {f after : FailingLimiter} {virtualKeyId : ℤ} {now : ℚ}
    {member : String} {delivery : Delivery}
    (checked : f.step settings (.check virtualKeyId now member delivery) = some after) :
    ∃ attempted, after.attempts = f.attempts ++ [attempted] ∧
      attempted.check.virtualKeyId = virtualKeyId := by
  simp only [FailingLimiter.step] at checked
  split at checked
  · cases checked
    cases delivery with
    | answered | lost | refused => exact ⟨_, rfl, rfl⟩
  · cases checked

/-- Nothing else does. -/
theorem attempts_of_other {settings : Settings} {f after : FailingLimiter} {action : FailingAction}
    (moved : f.step settings action = some after)
    (apart : ∀ virtualKeyId now member delivery, action ≠ .check virtualKeyId now member delivery) :
    after.attempts = f.attempts := by
  cases action with
  | check virtualKeyId now member delivery => exact absurd rfl (apart virtualKeyId now member delivery)
  | rollback =>
      obtain ⟨limiter, -, rfl⟩ := Option.map_eq_some_iff.mp moved
      rfl
  | expire =>
      simp only [FailingLimiter.step] at moved
      split at moved
      · obtain ⟨limiter, -, rfl⟩ := Option.map_eq_some_iff.mp moved
        rfl
      · cases moved

/-- A guard keeps the attempt of the request, or turns the request away. -/
theorem attempt_of_guard (taken : e.turn app visit action = some turned) :
    turned.passage.attempt = none ∨ turned.passage.attempt = visit.passage.attempt := by
  cases action with
  | authenticate n now =>
      simp only [Endpoint.turn] at taken
      split at taken
      · cases taken
        unfold App.authenticate
        split <;> exact .inl rfl
      · cases taken
  | readKey n =>
      simp only [Endpoint.turn] at taken
      split at taken
      · rename_i passage
        cases taken
        unfold App.readKey
        rw [passage]
        split <;> exact .inr rfl
      · cases taken
  | readKeySpend n =>
      simp only [Endpoint.turn] at taken
      split at taken
      · rename_i passage
        cases taken
        unfold App.readKeySpend
        rw [passage]
        split
        · exact .inl rfl
        · exact .inr rfl
      · cases taken
  | readGlobalSpend n =>
      simp only [Endpoint.turn] at taken
      split at taken
      · rename_i passage
        cases taken
        unfold App.readGlobalSpend
        rw [passage]
        split
        · exact .inl rfl
        · exact .inr rfl
      · cases taken
  | lapse n =>
      simp only [Endpoint.turn] at taken
      split at taken <;> cases taken
      exact .inl rfl
  | enter n latencyMs =>
      simp only [Endpoint.turn] at taken
      split at taken
      · rename_i virtualKeyId attempt passage
        cases taken
        unfold App.enter
        rw [passage]
        split
        · exact .inl rfl
        · exact .inl rfl
        · rename_i request _
          rcases dispatch_passage app visit virtualKeyId attempt (e.limits attempt) latencyMs request with
            closed | ⟨sent, dispatched⟩
          · exact .inl (by rw [closed]; rfl)
          · exact .inr (by rw [dispatched]; rfl)
      · cases taken
  | finish n outcome latencyMs =>
      simp only [Endpoint.turn] at taken
      split at taken
      · rename_i passage _
        cases taken
        rw [passage]
        exact .inr rfl
      · cases taken
  | limit | arrive | rollback | expire | change => cases taken

theorem FailingLimiter.Accepts.later {f after : FailingLimiter} {virtualKeyId : ℤ} {i : ℕ}
    {more : List Attempted} (accepts : f.Accepts virtualKeyId i)
    (grown : after.attempts = f.attempts ++ more) : after.Accepts virtualKeyId i := by
  obtain ⟨attempted, there, facts⟩ := accepts
  refine ⟨attempted, ?_, facts⟩
  rw [grown, List.getElem?_append_left (List.getElem?_eq_some_iff.mp there).1]
  exact there

/-- A request that holds an attempt after a step has held it before, or it has just been accepted. -/
theorem holds_of_step (moved : e.step app action = some next) {virtualKeyId : ℤ} {i : ℕ}
    (holds : next.Holds n virtualKeyId i) :
    e.Holds n virtualKeyId i ∨
      ∃ now member delivery attempted, action = .limit n now member delivery ∧
        next.limiter.attempts = e.limiter.attempts ++ [attempted] ∧
          attempted.check.virtualKeyId = virtualKeyId ∧ attempted.status.allowed = true ∧
            i = e.limiter.attempts.length := by
  obtain ⟨later, there, held⟩ := holds
  rcases visit_of_step moved there with before | ⟨arrived, -⟩ | ⟨visit, turned, found, turns, rfl⟩
  · exact .inl ⟨later, before, held⟩
  · rw [arrived] at held
    cases held
  · cases turns with
    | guard own taken =>
        rcases attempt_of_guard taken with none | same
        · rw [none] at held
          cases held
        · exact .inl ⟨visit, found, same ▸ held⟩
    | @limit now member delivery own limiter attempted passage checked last =>
        obtain ⟨added, grown, keyed⟩ := attempts_of_check checked
        rw [grown, List.getLast?_append, List.getLast?_singleton, Option.some_or,
          Option.some.injEq] at last
        subst last
        simp only [App.limit] at held
        split at held
        · rename_i allowed
          cases held
          exact .inr ⟨now, member, delivery, added, rfl, grown, keyed, allowed, by simp [grown]⟩
        · cases held

/-- The limiter takes a step of its own or none. -/
theorem limiter_of_step (moved : e.step app action = some next) :
    next.limiter = e.limiter ∨ ∃ other, e.limiter.step app.env.settings other = some next.limiter := by
  cases endpointSteps_of_step moved with
  | arrive | change => exact .inl rfl
  | redis stepped => exact .inr ⟨_, stepped⟩
  | turn found turns =>
      cases turns with
      | guard => exact .inl rfl
      | limit passage checked => exact .inr ⟨_, checked⟩

theorem attempts_grow {settings : Settings} {f after : FailingLimiter} {action : FailingAction}
    (moved : f.step settings action = some after) :
    ∃ more, after.attempts = f.attempts ++ more := by
  by_cases check : ∃ virtualKeyId now member delivery, action = .check virtualKeyId now member delivery
  · obtain ⟨virtualKeyId, now, member, delivery, rfl⟩ := check
    obtain ⟨attempted, grown, -⟩ := attempts_of_check moved
    exact ⟨[attempted], grown⟩
  · refine ⟨[], ?_⟩
    rw [List.append_nil]
    exact attempts_of_other moved fun virtualKeyId now member delivery same =>
      check ⟨virtualKeyId, now, member, delivery, same⟩

/-- The attempts stay. -/
theorem attempts_of_step (moved : e.step app action = some next) :
    ∃ more, next.limiter.attempts = e.limiter.attempts ++ more := by
  rcases limiter_of_step moved with same | ⟨other, stepped⟩
  · exact ⟨[], by rw [same, List.append_nil]⟩
  · exact attempts_grow stepped

/-- **One step** keeps the attempts apart. -/
theorem holding_step (window : 0 < app.env.settings.rateLimitWindowSeconds) (holding : e.Holding app)
    (moved : e.step app action = some next) : next.Holding app := by
  have kept : next.limiter.Kept app.env.settings := by
    rcases limiter_of_step moved with same | ⟨other, stepped⟩
    · exact same ▸ holding.kept
    · exact failingKept_step window holding.kept stepped
  obtain ⟨more, grown⟩ := attempts_of_step moved
  have old {n : ℕ} {virtualKeyId : ℤ} {i : ℕ} (holds : e.Holds n virtualKeyId i) :
      i < e.limiter.attempts.length := by
    obtain ⟨attempted, there, -⟩ := holding.held n virtualKeyId i holds
    exact (List.getElem?_eq_some_iff.mp there).1
  refine ⟨kept, fun n virtualKeyId i holds => ?_, fun n m virtualKeyId own i first second => ?_⟩
  · rcases holds_of_step moved holds with before | ⟨_, _, _, attempted, -, added, key, allowed, rfl⟩
    · exact (holding.held n virtualKeyId i before).later grown
    · refine ⟨attempted, ?_, key, allowed⟩
      rw [added, List.getElem?_concat_length]
  · rcases holds_of_step moved first with before | ⟨_, _, _, _, rfl, -, -, -, place⟩
    · rcases holds_of_step moved second with earlier | ⟨_, _, _, _, -, -, -, -, place⟩
      · exact holding.apart n m virtualKeyId own i before earlier
      · have inside := old before
        omega
    · rcases holds_of_step moved second with earlier | ⟨_, _, _, _, same, -⟩
      · have inside := old earlier
        omega
      · cases same
        rfl

theorem holding_run (window : 0 < app.env.settings.rateLimitWindowSeconds) {db : Database}
    {store : Redis.Store} (unlimited : Unlimited store) {clock : ℚ} {actions : List EndpointAction}
    (reached : run (Endpoint.step app) (.init db store clock) actions = some e) : e.Holding app := by
  refine invariant_of_step (P := fun e => e.Holding app) ?_
    (fun _ _ _ holding moved => holding_step window holding moved) reached
  have none {n : ℕ} {virtualKeyId : ℤ} {i : ℕ} :
      ¬ (Endpoint.init db store clock).Holds n virtualKeyId i := by
    rintro ⟨visit, there, -⟩
    simp [Endpoint.init] at there
  exact ⟨failingKept_init unlimited clock, fun _ _ _ holds => absurd holds none,
    fun _ _ _ _ _ holds => absurd holds none⟩

end Holding

/-! ## Exposure -/

/-- Different places of a list that pass a test are as many as the elements that pass it, at most. -/
theorem length_le_countP {α : Type} {p : α → Bool} (l : List α) {places : List ℕ} (distinct : places.Nodup)
    (pass : ∀ i ∈ places, ∃ a, l[i]? = some a ∧ p a = true) : places.length ≤ l.countP p := by
  have inside : places ⊆ (l.zipIdx.filter fun entry => p entry.1).map Prod.snd := by
    intro i member
    obtain ⟨a, there, passes⟩ := pass i member
    exact List.mem_map.mpr
      ⟨(a, i), List.mem_filter.mpr ⟨List.mem_zipIdx_iff_getElem?.mpr there, passes⟩, rfl⟩
  calc places.length ≤ ((l.zipIdx.filter fun entry => p entry.1).map Prod.snd).length :=
        (List.subperm_of_subset distinct inside).length_le
    _ = l.zipIdx.countP (p ∘ Prod.fst) := by rw [List.length_map, ← List.countP_eq_length_filter]; rfl
    _ = l.countP p := by rw [← List.countP_map, List.zipIdx_map_fst]

namespace Endpoint

variable (e : Endpoint) (virtualKeyId : ℤ) (inside : ℚ → Bool)

/-- The attempt of a request. -/
def attemptOf (n : ℕ) : ℕ :=
  ((e.visits[n]?.bind fun visit => visit.passage.attempt).map Prod.snd).getD 0

/-- The requests of a key that have been handed over, with an attempt at certain times. -/
def handedOver : List ℕ :=
  (List.range e.visits.length).filter fun n =>
    (e.visits[n]?.bind fun visit => visit.passage.handed).any fun handed =>
      handed.1 == virtualKeyId &&
        e.limiter.attempts[handed.2.1]?.any fun attempted => inside attempted.check.now

end Endpoint

section Exposure

variable {app : App} {e : Endpoint} {virtualKeyId : ℤ} {inside : ℚ → Bool} {n : ℕ}

theorem attemptOf_of_holds {i : ℕ} (holds : e.Holds n virtualKeyId i) : e.attemptOf n = i := by
  obtain ⟨visit, there, held⟩ := holds
  simp only [Endpoint.attemptOf, there, Option.bind_some, held, Option.map_some, Option.getD_some]

/-- A request that is handed over holds an attempt of that time. -/
theorem holds_of_handedOver (member : n ∈ e.handedOver virtualKeyId inside) :
    e.Holds n virtualKeyId (e.attemptOf n) ∧
      ∃ attempted, e.limiter.attempts[e.attemptOf n]? = some attempted ∧
        inside attempted.check.now = true := by
  obtain ⟨⟨own, i, sent⟩, handed, facts⟩ := (Option.any_eq_true _ _).mp (List.mem_filter.mp member).2
  obtain ⟨visit, there, dispatched⟩ := Option.bind_eq_some_iff.mp handed
  obtain ⟨same, timed⟩ := Bool.and_eq_true_iff.mp facts
  obtain ⟨attempted, found, timely⟩ := (Option.any_eq_true _ _).mp timed
  obtain rfl : own = virtualKeyId := eq_of_beq same
  have holds : e.Holds n own i := ⟨visit, there, by rw [Passage.handed_eq_some.mp dispatched]; rfl⟩
  rw [attemptOf_of_holds holds]
  exact ⟨holds, attempted, found, timely⟩

/-- As many requests are handed over as checks are accepted, at most. -/
theorem length_handedOver_le (holding : e.Holding app) :
    (e.handedOver virtualKeyId inside).length ≤ e.limiter.granted virtualKeyId inside := by
  have distinct : ((e.handedOver virtualKeyId inside).map e.attemptOf).Nodup := by
    refine List.Nodup.map_on (fun n first m second same => ?_) (List.nodup_range.filter _)
    have own := (holds_of_handedOver first).1
    exact holding.apart n m _ _ _ own (same ▸ (holds_of_handedOver second).1)
  rw [← List.length_map (f := e.attemptOf), FailingLimiter.granted]
  refine length_le_countP _ distinct fun i member => ?_
  obtain ⟨n, handed, rfl⟩ := List.mem_map.mp member
  obtain ⟨holds, attempted, there, timely⟩ := holds_of_handedOver handed
  obtain ⟨accepted, found, key, allowed⟩ := holding.held n virtualKeyId _ holds
  obtain rfl := Option.some.inj (there.symm.trans found)
  exact ⟨attempted, there, by simp [key, allowed, timely]⟩

end Exposure

/-- **The exposure is bounded.** In every run of the endpoint, whatever becomes of Redis and of the
database meanwhile, every half-open window of the configured width holds no more attempts of a key with
which a request has been handed to the services than the limit says, and beyond these only attempts
without an answer from Redis, if the settings let such attempts through. Every request that has been
handed over asks for some number of tokens that is no more than the ceiling. -/
theorem exposure_bounded (app : App) (window : 1 ≤ app.env.settings.rateLimitWindowSeconds)
    (store : Redis.Store) (unlimited : Unlimited store) (db : Database) (clock : ℚ)
    (actions : List EndpointAction) (e : Endpoint)
    (reached : run (Endpoint.step app) (.init db store clock) actions = some e)
    (virtualKeyId : ℤ) (start : ℚ) :
    let settings := app.env.settings
    let from_ time := decide (start ≤ time ∧ time < start + settings.rateLimitWindowSeconds)
    let upTo time := decide (start < time ∧ time ≤ start + settings.rateLimitWindowSeconds)
    ((e.handedOver virtualKeyId from_).length : ℤ) ≤ max settings.rateLimitRequests 0 +
        (if settings.rateLimitFailOpen then (e.limiter.unanswered virtualKeyId from_ : ℤ) else 0) ∧
      ((e.handedOver virtualKeyId upTo).length : ℤ) ≤ max settings.rateLimitRequests 0 +
        (if settings.rateLimitFailOpen then (e.limiter.unanswered virtualKeyId upTo : ℤ) else 0) ∧
      ∀ (n : ℕ) (visit : Visit) (own : ℤ) (i : ℕ) (sent : ChatRequest), e.visits[n]? = some visit →
        visit.passage = .dispatched own i sent →
          ∃ count, sent.maxTokens = some count ∧ count ≤ app.maxTokensPerRequest := by
  have holding := holding_run window unlimited reached
  have kept := holding.kept
  have sorted : (e.limiter.limiter.accepted virtualKeyId).Pairwise (· ≤ ·) :=
    List.pairwise_map.mpr (kept.tracks.order.filter _)
  have left := granted_le_of_bounded kept ((kept.paced virtualKeyId).window_left sorted start)
  have right := granted_le_of_bounded kept ((kept.paced virtualKeyId).window_right sorted start)
  refine ⟨le_trans (Int.ofNat_le.mpr (length_handedOver_le holding)) left,
    le_trans (Int.ofNat_le.mpr (length_handedOver_le holding)) right, ?_⟩
  intro n visit own i sent there passage
  have mediated := mediated_run rfl reached n visit there
  simp only [Mediated, passage] at mediated
  obtain ⟨limit, occurred⟩ := mediated
  obtain ⟨_, _, _, _, -, -, _, _, -, -, enforced, -⟩ :=
    occurred.happened (List.mem_append_right _ (List.mem_singleton_self _))
  exact enforceMaxTokens_bounded enforced

/-- The theorem about the two requests of that day, of which one was handed over. -/
theorem exposure_bounded_visit :
    let settings := visitedApp.env.settings
    let from_ (time : ℚ) := decide ((100 : ℚ) ≤ time ∧ time < 100 + settings.rateLimitWindowSeconds)
    ∃ e, run (Endpoint.step visitedApp) (.init visitedDatabase Redis.Store.empty 0) visits = some e ∧
      (e.handedOver 1 from_).length = 1 ∧
        ((e.handedOver 1 from_).length : ℤ) ≤ max settings.rateLimitRequests 0 +
          if settings.rateLimitFailOpen then (e.limiter.unanswered 1 from_ : ℤ) else 0 := by
  intro settings from_
  have performed : (run (Endpoint.step visitedApp) (.init visitedDatabase Redis.Store.empty 0) visits).map
      (fun e => (e.handedOver 1 from_).length) = some 1 := by decide +kernel
  obtain ⟨e, reached, one⟩ := Option.map_eq_some_iff.mp performed
  exact ⟨e, reached, one, (exposure_bounded visitedApp (by decide) Redis.Store.empty unlimited_empty
    visitedDatabase 0 visits e reached 1 100).1⟩

end LlmGateway
