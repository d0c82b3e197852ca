import LlmGateway.Spending.Ledger

/-!
# What a spend cap promises

A cap is the limit of one virtual key or the global one. It admits a request at the read that it
compares with its limit, so that is the moment of an admission. Three things hold in every run
in which the limit stays as it is (`spend_cap`):

* a request is admitted only if the spend at its check was below the limit;
* after the last admission the spend stays below the limit and the costs of the requests that
  were outstanding then;
* after a rejection no request that was still to be checked is admitted.

The second is the overshoot of an `Account`, which `Cap.account` reads off a ledger.
-/

set_option autoImplicit false

namespace LlmGateway

open LlmGateway.Library

/-! ## Caps -/

inductive Cap where
  | key (virtualKeyId : ℤ)
  | global

namespace Cap

variable (cap : Cap)

/-- The limit, if there is one. -/
def limit (settings : Settings) (db : Database) : Option ℚ :=
  match cap with
  | key virtualKeyId => keyLimit (db.getKeyById virtualKeyId)
  | global => settings.globalSpendLimitUsd

/-- The spend that is compared with the limit. -/
def spent (db : Database) : ℚ :=
  match cap with
  | key virtualKeyId => db.getKeySpendUsd virtualKeyId
  | global => db.getGlobalSpendUsd

/-- The usage of a virtual key counts. -/
def covers (virtualKeyId : ℤ) : Bool :=
  match cap with
  | key own => decide (virtualKeyId = own)
  | global => true

/-- The step that compares the spend with the limit for a request. -/
def check (request : ℕ) : LedgerAction :=
  match cap with
  | key _ => .readKeySpend request
  | global => .readGlobalSpend request

/-- A stage after the check. -/
def passed : Stage → Bool
  | .globalCheck _ =>
      match cap with
      | key _ => true
      | global => false
  | .admitted | .charged => true
  | _ => false

end Cap

/-- The spend cap has let the request through. -/
def Stage.isAdmitted : Stage → Bool
  | .admitted | .charged => true
  | _ => false

def Stage.isCharged : Stage → Bool
  | .charged => true
  | _ => false

namespace Ledger

variable (cap : Cap) (l : Ledger)

/-- The requests that count for the cap and whose stage passes a test. -/
def ids (test : Stage → Bool) : Finset ℕ :=
  (Finset.range l.requests.length).filter fun request =>
    (l.requests[request]?).any fun found => cap.covers found.virtualKeyId && test found.stage

theorem mem_ids {test : Stage → Bool} {request : ℕ} :
    request ∈ l.ids cap test ↔ ∃ found, l.requests[request]? = some found ∧
      cap.covers found.virtualKeyId = true ∧ test found.stage = true := by
  simp only [ids, Finset.mem_filter, Finset.mem_range, Option.any_eq_true, Bool.and_eq_true]
  constructor
  · rintro ⟨-, passes⟩
    exact passes
  · intro passes
    obtain ⟨found, there, -⟩ := id passes
    exact ⟨(List.getElem?_eq_some_iff.mp there).1, passes⟩

end Ledger

namespace Cap

variable (cap : Cap)

/-- The limit that a stage is going to compare the spend with. -/
def pending : Stage → Option ℚ
  | .keyCheck limit =>
      match cap with
      | key _ => some limit
      | global => none
  | .globalCheck limit =>
      match cap with
      | key _ => none
      | global => some limit
  | _ => none

end Cap

/-! ## One step -/

section Step

variable {settings : Settings} {cap : Cap} {limit : ℚ} {l next : Ledger} {action : LedgerAction}
  {db : Database} {request : ℕ} {virtualKeyId : ℤ} {stage later : Stage}

theorem passed_of_admitted (admitted : stage.isAdmitted = true) : cap.passed stage = true := by
  cases stage <;> simp_all [Stage.isAdmitted, Cap.passed]

theorem admitted_of_charged (charged : stage.isCharged = true) : stage.isAdmitted = true := by
  cases stage <;> simp_all [Stage.isAdmitted, Stage.isCharged]

/-- A request passes the check only below the limit that it is compared with. -/
theorem StageTurns.below (turns : StageTurns settings db request virtualKeyId action stage later)
    (limited : cap.limit settings db = some limit) (covered : cap.covers virtualKeyId = true)
    (passed : cap.passed later = true) :
    cap.passed stage = true ∨
      action = cap.check request ∧ ∃ own, cap.pending stage = some own ∧ cap.spent db < own := by
  cases cap with
  | key own =>
      obtain rfl : virtualKeyId = own := by simpa [Cap.covers] using covered
      cases turns with
      | keyPassed below => exact .inr ⟨rfl, _, rfl, below⟩
      | keyRejected reached => cases passed
      | globalPassed below => exact .inl rfl
      | globalRejected reached => cases passed
      | charged same => exact .inl rfl
      | keyAbandoned => cases passed
      | globalAbandoned => cases passed
  | global =>
      have set : settings.globalSpendLimitUsd = some limit := limited
      cases turns with
      | keyPassed below =>
          rw [afterKeyCheck, set] at passed
          cases passed
      | keyRejected reached => cases passed
      | globalPassed below => exact .inr ⟨rfl, _, rfl, below⟩
      | globalRejected reached => cases passed
      | charged same => exact .inl rfl
      | keyAbandoned => cases passed
      | globalAbandoned => cases passed

/-- A check compares the spend with a limit, and rejects the request once it is reached. -/
theorem StageTurns.rejects
    (turns : StageTurns settings db request virtualKeyId (cap.check request) stage later)
    (covered : cap.covers virtualKeyId = true) :
    ∃ own, cap.pending stage = some own ∧ (own ≤ cap.spent db →
      ∃ exception : HttpException, later = .rejected exception ∧ exception.status = 429) := by
  cases cap with
  | key own =>
      obtain rfl : virtualKeyId = own := by simpa [Cap.covers] using covered
      cases turns with
      | keyPassed below => exact ⟨_, rfl, fun reached => absurd below (not_lt.mpr reached)⟩
      | keyRejected reached => exact ⟨_, rfl, fun _ => ⟨_, rfl, rfl⟩⟩
  | global =>
      cases turns with
      | globalPassed below => exact ⟨_, rfl, fun reached => absurd below (not_lt.mpr reached)⟩
      | globalRejected reached => exact ⟨_, rfl, fun _ => ⟨_, rfl, rfl⟩⟩

/-- A check that rejects finds the limit reached. -/
theorem StageTurns.reached {exception : HttpException}
    (turns : StageTurns settings db request virtualKeyId (cap.check request) stage
      (.rejected exception))
    (covered : cap.covers virtualKeyId = true) :
    ∃ own, cap.pending stage = some own ∧ own ≤ cap.spent db := by
  generalize same : Stage.rejected exception = result at turns
  cases cap with
  | key own =>
      obtain rfl : virtualKeyId = own := by simpa [Cap.covers] using covered
      cases turns with
      | keyPassed below =>
          unfold afterKeyCheck at same
          split at same
          · cases same
          · cases same
      | keyRejected reached => exact ⟨_, rfl, reached⟩
  | global =>
      cases turns with
      | globalPassed below => cases same
      | globalRejected reached => exact ⟨_, rfl, reached⟩

/-- A stage that is going to be compared has not passed. -/
theorem not_passed_of_pending {own : ℚ} (compares : cap.pending stage = some own) :
    cap.passed stage = false := by
  cases cap <;> cases stage <;> simp_all [Cap.pending, Cap.passed]

/-- The limit of a comparison to come is the limit of the cap. -/
theorem StageTurns.pending {own : ℚ}
    (turns : StageTurns settings db request virtualKeyId action stage later)
    (limited : cap.limit settings db = some limit) (compares : cap.pending later = some own) :
    own = limit := by
  cases cap with
  | key id =>
      cases turns with
      | keyPassed below =>
          unfold afterKeyCheck at compares
          split at compares
          · cases compares
          · cases compares
      | _ => cases compares
  | global =>
      have set : settings.globalSpendLimitUsd = some limit := limited
      cases turns with
      | keyPassed below =>
          rw [afterKeyCheck, set] at compares
          exact (Option.some.inj compares).symm
      | _ => cases compares

/-- What a test of the stage that every turn keeps. -/
def Kept (test : Stage → Bool) : Prop :=
  ∀ settings db request virtualKeyId action stage later,
    StageTurns settings db request virtualKeyId action stage later → test stage = true →
      test later = true

theorem kept_charged : Kept Stage.isCharged := by
  intro settings db request virtualKeyId action stage later turns charged
  cases turns <;> cases charged

/-- A request that has just been looked up is still to be compared. -/
theorem pending_afterLookup (limited : cap.limit settings db = some limit)
    (covered : cap.covers virtualKeyId = true) :
    cap.passed (afterLookup settings (db.getKeyById virtualKeyId)) = false ∧
      ∀ own, cap.pending (afterLookup settings (db.getKeyById virtualKeyId)) = some own →
        own = limit := by
  unfold afterLookup
  cases cap with
  | key id =>
      obtain rfl : virtualKeyId = id := by simpa [Cap.covers] using covered
      have set : keyLimit (db.getKeyById virtualKeyId) = some limit := limited
      rw [set]
      exact ⟨rfl, fun own compares => (Option.some.inj compares).symm⟩
  | global =>
      have set : settings.globalSpendLimitUsd = some limit := limited
      unfold afterKeyCheck
      rw [set]
      cases keyLimit (db.getKeyById virtualKeyId) with
      | none => exact ⟨rfl, fun own compares => (Option.some.inj compares).symm⟩
      | some other =>
          refine ⟨rfl, fun own compares => ?_⟩
          cases compares

/-! ## The requests of a cap -/

/-- A test that turns keep holds of more and more requests. -/
theorem LedgerSteps.ids_subset {test : Stage → Bool} (steps : LedgerSteps settings l action next)
    (kept : Kept test) : l.ids cap test ⊆ next.ids cap test := by
  intro request member
  obtain ⟨found, there, covered, passes⟩ := l.mem_ids cap |>.mp member
  rcases steps.request_later there with same | ⟨stage, same, turns⟩
  · exact next.mem_ids cap |>.mpr ⟨found, same, covered, passes⟩
  · exact next.mem_ids cap |>.mpr ⟨_, same, covered, kept _ _ _ _ _ _ _ turns passes⟩

/-- The comparisons to come are with the limit of the cap. -/
def Ledger.Compares (cap : Cap) (limit : ℚ) (l : Ledger) : Prop :=
  ∀ (request : ℕ) (found : SpendRequest) (own : ℚ), l.requests[request]? = some found →
    cap.covers found.virtualKeyId = true → cap.pending found.stage = some own → own = limit

theorem LedgerSteps.compares (steps : LedgerSteps settings l action next)
    (limited : cap.limit settings l.db = some limit) (compares : l.Compares cap limit) :
    next.Compares cap limit := by
  intro request found own there covered waits
  rcases steps.request there with same | ⟨-, entered⟩ | ⟨stage, -, turns⟩
  · exact compares request found own same covered waits
  · rw [entered] at waits
    exact (pending_afterLookup limited covered).2 own waits
  · exact turns.pending limited waits

/-- A step lets a request pass only below the limit, and only the step that checks it. -/
theorem LedgerSteps.passes (steps : LedgerSteps settings l action next)
    (limited : cap.limit settings l.db = some limit) (compares : l.Compares cap limit)
    (passed : request ∈ next.ids cap cap.passed) :
    request ∈ l.ids cap cap.passed ∨
      action = cap.check request ∧ cap.spent l.db < limit := by
  obtain ⟨found, there, covered, passes⟩ := next.mem_ids cap |>.mp passed
  rcases steps.request there with same | ⟨-, entered⟩ | ⟨stage, earlier, turns⟩
  · exact .inl (l.mem_ids cap |>.mpr ⟨found, same, covered, passes⟩)
  · rw [entered, (pending_afterLookup limited covered).1] at passes
    cases passes
  · rcases turns.below limited covered passes with before | ⟨checks, own, waits, below⟩
    · exact .inl (l.mem_ids cap |>.mpr ⟨_, earlier, covered, before⟩)
    · rw [compares request _ own earlier covered waits] at below
      exact .inr ⟨checks, below⟩

/-! ## The spend of a cap -/

/-- What a step adds to the spend. -/
def Cap.charge (cap : Cap) : LedgerAction → ℚ
  | .persist _ record =>
      if cap.covers record.virtualKeyId then Decimal.column 6 record.estimatedCost else 0
  | _ => 0

theorem okLogs_append (db : Database) (keyId : Option ℤ) (row : UsageLog) :
    ((({ db with usageLogs := db.usageLogs ++ [row] } : Database).okLogs keyId).map
        UsageLog.estimatedCost).sum =
      ((db.okLogs keyId).map UsageLog.estimatedCost).sum +
        if decide (row.status = .ok) && keyId.all fun id => decide (row.virtualKeyId = id) then
          row.estimatedCost
        else 0 := by
  simp only [Database.okLogs, List.filter_append, List.map_append, List.sum_append,
    List.filter_singleton, cond_eq_ite]
  split_ifs <;> simp

theorem spent_after (cap : Cap) (db : Database) (action : LedgerAction) :
    cap.spent (db.after action) = cap.spent db + cap.charge action := by
  cases cap with
  | key own =>
      cases action with
      | persist request record =>
          refine (okLogs_append db (some own) _).trans ?_
          by_cases counts : record.virtualKeyId = own <;>
            simp [Cap.charge, Cap.covers, Cap.spent, Database.getKeySpendUsd,
              Database.usageLogData, counts]
      | logFailure virtualKeyId provider model latencyMs errorType =>
          refine (okLogs_append db (some own) _).trans ?_
          simp [Cap.charge, Cap.spent, Database.getKeySpendUsd]
      | _ => exact (add_zero _).symm
  | global =>
      cases action with
      | persist request record =>
          refine (okLogs_append db none _).trans ?_
          simp [Cap.charge, Cap.covers, Cap.spent, Database.getGlobalSpendUsd,
            Database.usageLogData]
      | logFailure virtualKeyId provider model latencyMs errorType =>
          refine (okLogs_append db none _).trans ?_
          simp [Cap.charge, Cap.spent, Database.getGlobalSpendUsd]
      | _ => exact (add_zero _).symm

/-- Each row that is committed costs what its request costs. -/
def Charges (cost : ℕ → ℚ) (_ : Ledger) (action : LedgerAction) (_ : Ledger) : Prop :=
  ∀ request record, action = .persist request record →
    Decimal.column 6 record.estimatedCost = cost request

theorem not_charged_afterKeyCheck (settings : Settings) :
    (afterKeyCheck settings).isCharged = false := by
  unfold afterKeyCheck
  split
  · rfl
  · rfl

theorem not_charged_afterLookup (settings : Settings) (key : Option ApiKey) :
    (afterLookup settings key).isCharged = false := by
  unfold afterLookup
  split
  · exact not_charged_afterKeyCheck settings
  · rfl

/-- Only the commit of its row charges a request. -/
theorem StageTurns.charges
    (turns : StageTurns settings db request virtualKeyId action stage later)
    (charged : later.isCharged = true) :
    ∃ record : UsageRecord, action = .persist request record ∧
      record.virtualKeyId = virtualKeyId := by
  cases turns with
  | keyPassed below =>
      rw [not_charged_afterKeyCheck] at charged
      cases charged
  | charged own => exact ⟨_, rfl, own⟩
  | _ => cases charged

/-- A commit finds its request admitted and charges it. -/
theorem LedgerSteps.persists {record : UsageRecord}
    (steps : LedgerSteps settings l (.persist request record) next) :
    l.requests[request]? = some ⟨record.virtualKeyId, .admitted⟩ ∧
      next.requests[request]? = some ⟨record.virtualKeyId, .charged⟩ := by
  generalize same : LedgerAction.persist request record = action at steps
  cases steps with
  | enter virtualKeyId => cases same
  | turn found turns =>
      cases turns with
      | charged own =>
          cases same
          rw [own]
          have inside := (List.getElem?_eq_some_iff.mp found).1
          exact ⟨found, by rw [Ledger.turn, List.getElem?_set_self inside]⟩
      | _ => cases same
  | logFailure _ _ _ _ _ => cases same
  | administer _ => cases same

theorem LedgerSteps.mem_charged (steps : LedgerSteps settings l action next) :
    request ∈ next.ids cap Stage.isCharged ↔ request ∈ l.ids cap Stage.isCharged ∨
      ∃ record, action = .persist request record ∧ cap.covers record.virtualKeyId = true := by
  constructor
  · intro member
    obtain ⟨found, there, covered, charged⟩ := next.mem_ids cap |>.mp member
    rcases steps.request there with same | ⟨-, entered⟩ | ⟨stage, -, turns⟩
    · exact .inl (l.mem_ids cap |>.mpr ⟨found, same, covered, charged⟩)
    · rw [entered, not_charged_afterLookup] at charged
      cases charged
    · obtain ⟨record, persists, own⟩ := turns.charges charged
      exact .inr ⟨record, persists, by rwa [own]⟩
  · rintro (before | ⟨record, rfl, covered⟩)
    · exact steps.ids_subset kept_charged before
    · exact next.mem_ids cap |>.mpr ⟨_, steps.persists.2, covered, rfl⟩

theorem charge_nonneg {cost : ℕ → ℚ} (nonneg : ∀ request, 0 ≤ cost request)
    (charges : Charges cost l action next) : 0 ≤ cap.charge action := by
  cases action with
  | persist request record =>
      rw [Cap.charge]
      split_ifs
      · rw [charges request record rfl]
        exact nonneg request
      · exact le_refl 0
  | _ => exact le_refl (0 : ℚ)

/-- The spend is what the charged requests cost, and what was spent before. -/
theorem LedgerSteps.spent {cost : ℕ → ℚ} {opening : ℚ} (steps : LedgerSteps settings l action next)
    (charges : Charges cost l action next)
    (accounts : cap.spent l.db =
      opening + ∑ request ∈ l.ids cap Stage.isCharged, cost request) :
    cap.spent next.db = opening + ∑ request ∈ next.ids cap Stage.isCharged, cost request := by
  rw [steps.db, spent_after, accounts, add_assoc]
  congr 1
  by_cases persists : ∃ request record, action = .persist request record ∧
      cap.covers record.virtualKeyId = true
  · obtain ⟨request, record, rfl, covered⟩ := persists
    have fresh : request ∉ l.ids cap Stage.isCharged := by
      intro member
      obtain ⟨found, there, -, charged⟩ := l.mem_ids cap |>.mp member
      rw [steps.persists.1] at there
      cases there
      cases charged
    have grown : next.ids cap Stage.isCharged = insert request (l.ids cap Stage.isCharged) := by
      ext other
      rw [steps.mem_charged, Finset.mem_insert]
      constructor
      · rintro (before | ⟨_, same, -⟩)
        · exact .inr before
        · cases same
          exact .inl rfl
      · rintro (rfl | before)
        · exact .inr ⟨record, rfl, covered⟩
        · exact .inl before
    rw [grown, Finset.sum_insert fresh, add_comm, Cap.charge, if_pos covered,
      charges request record rfl]
  · have same : next.ids cap Stage.isCharged = l.ids cap Stage.isCharged := by
      ext other
      rw [steps.mem_charged, or_iff_left]
      rintro ⟨record, committed, covered⟩
      exact persists ⟨other, record, committed, covered⟩
    have free : cap.charge action = 0 := by
      cases action with
      | persist request record =>
          exact if_neg fun covered => persists ⟨request, record, rfl, covered⟩
      | _ => rfl
    rw [same, free, add_zero]

end Step

/-! ## Runs -/

section Run

variable {settings : Settings} {cap : Cap} {limit : ℚ} {cost : ℕ → ℚ} {db : Database}
  {start l next : Ledger} {action : LedgerAction} {actions : List LedgerAction} {request : ℕ}

/-- The limit stays as it is, and rows cost what their requests cost. -/
def Regular (settings : Settings) (cap : Cap) (limit : ℚ) (cost : ℕ → ℚ) (l : Ledger)
    (action : LedgerAction) (next : Ledger) : Prop :=
  cap.limit settings l.db = some limit ∧ Charges cost l action next

theorem regular_of_always
    (limited : Always (Ledger.step settings) (fun l => cap.limit settings l.db = some limit)
      start actions)
    (charges : Throughout (Ledger.step settings) (Charges cost) start actions) :
    Throughout (Ledger.step settings) (Regular settings cap limit cost) start actions :=
  (throughout_of_always limited fun _ _ _ before _ _ => before).and charges

/-- What holds of the requests and the spend in every state of a run. -/
structure CapAccounted (cap : Cap) (limit : ℚ) (cost : ℕ → ℚ) (opening : ℚ) (l : Ledger) :
    Prop where
  compares : l.Compares cap limit
  spent : cap.spent l.db = opening + ∑ request ∈ l.ids cap Stage.isCharged, cost request

theorem capAccounted_init (cap : Cap) (limit : ℚ) (cost : ℕ → ℚ) (db : Database) :
    CapAccounted cap limit cost (cap.spent db) ⟨db, []⟩ where
  compares := fun request found own there => by simp at there
  spent := by simp [Ledger.ids]

theorem capAccounted_of_run
    (regular : Throughout (Ledger.step settings) (Regular settings cap limit cost) ⟨db, []⟩
      actions)
    (reached : run (Ledger.step settings) ⟨db, []⟩ actions = some l) :
    CapAccounted cap limit cost (cap.spent db) l := by
  refine invariant (capAccounted_init cap limit cost db) ?_ regular reached
  intro state action next holds moved met
  have steps := ledgerSteps_of_step moved
  exact ⟨steps.compares met.1 holds.compares, steps.spent met.2 holds.spent⟩

/-- A test that turns keep holds of more and more requests along a run. -/
theorem ids_subset_of_run (cap : Cap) {test : Stage → Bool} (kept : Kept test)
    (reached : run (Ledger.step settings) start actions = some l) :
    start.ids cap test ⊆ l.ids cap test :=
  invariant_of_step (P := fun state => start.ids cap test ⊆ state.ids cap test)
    (Finset.Subset.refl _)
    (fun _ _ _ holds moved => holds.trans ((ledgerSteps_of_step moved).ids_subset kept)) reached

/-- In such a run every step lets requests pass only below the limit. -/
def PassesBelow (cap : Cap) (limit : ℚ) (l : Ledger) (action : LedgerAction) (next : Ledger) :
    Prop :=
  ∀ request ∈ next.ids cap cap.passed, request ∈ l.ids cap cap.passed ∨
    action = cap.check request ∧ cap.spent l.db < limit

theorem passesBelow_of_regular
    (regular : Throughout (Ledger.step settings) (Regular settings cap limit cost) ⟨db, []⟩
      actions) :
    Throughout (Ledger.step settings) (PassesBelow cap limit) ⟨db, []⟩ actions := by
  intro before action after state next split earlier moved request member
  have met := regular before action after state next split earlier moved
  exact (ledgerSteps_of_step moved).passes met.1
    (capAccounted_of_run (regular.of_split split) earlier).compares member

/-- A request that is let through was checked below the limit. -/
theorem check_of_passed
    (passes : Throughout (Ledger.step settings) (PassesBelow cap limit) ⟨db, []⟩ actions)
    (reached : run (Ledger.step settings) ⟨db, []⟩ actions = some l) :
    ∀ request ∈ l.ids cap cap.passed, ∃ before after state,
      actions = before ++ cap.check request :: after ∧
        run (Ledger.step settings) ⟨db, []⟩ before = some state ∧ cap.spent state.db < limit := by
  refine run_induction (P := fun actions l => ∀ request ∈ l.ids cap cap.passed,
    ∃ before after state, actions = before ++ cap.check request :: after ∧
      run (Ledger.step settings) ⟨db, []⟩ before = some state ∧ cap.spent state.db < limit)
    ?_ ?_ passes reached
  · intro request member
    simp [Ledger.ids] at member
  · intro actions state action next earlier holds moved met request member
    rcases met request member with before | ⟨rfl, below⟩
    · obtain ⟨before, after, state, rfl, rest⟩ := holds request before
      exact ⟨before, after ++ [action], state, by simp, rest⟩
    · exact ⟨actions, [], state, rfl, earlier, below⟩

/-- The last of the checks that let some requests through. -/
theorem last_check (targets : Finset ℕ)
    (passes : Throughout (Ledger.step settings) (PassesBelow cap limit) ⟨db, []⟩ actions)
    (reached : run (Ledger.step settings) ⟨db, []⟩ actions = some l)
    (nonempty : (targets ∩ l.ids cap cap.passed).Nonempty) :
    ∃ before request after checked, actions = before ++ cap.check request :: after ∧
      run (Ledger.step settings) ⟨db, []⟩ (before ++ [cap.check request]) = some checked ∧
        request ∈ targets ∧ targets ∩ l.ids cap cap.passed ⊆ checked.ids cap cap.passed := by
  refine run_induction (P := fun actions l => (targets ∩ l.ids cap cap.passed).Nonempty →
    ∃ before request after checked, actions = before ++ cap.check request :: after ∧
      run (Ledger.step settings) ⟨db, []⟩ (before ++ [cap.check request]) = some checked ∧
        request ∈ targets ∧ targets ∩ l.ids cap cap.passed ⊆ checked.ids cap cap.passed)
    ?_ ?_ passes reached nonempty
  · intro nonempty
    obtain ⟨request, member⟩ := nonempty
    simp [Ledger.ids] at member
  · intro actions state action next earlier holds moved met nonempty
    by_cases older : targets ∩ next.ids cap cap.passed ⊆ state.ids cap cap.passed
    · have still : targets ∩ next.ids cap cap.passed ⊆ targets ∩ state.ids cap cap.passed :=
        Finset.subset_inter Finset.inter_subset_left older
      obtain ⟨before, request, after, checked, rfl, there, target, last⟩ :=
        holds (nonempty.mono still)
      exact ⟨before, request, after ++ [action], checked, by simp, there, target,
        still.trans last⟩
    · -- some target passes in this step, so this step is its check
      obtain ⟨request, member, fresh⟩ := Finset.not_subset.mp older
      obtain ⟨target, passed⟩ := Finset.mem_inter.mp member
      rcases met request passed with before | ⟨rfl, -⟩
      · exact absurd before fresh
      · exact ⟨actions, request, [], next, rfl, run_snoc_eq_some.mpr ⟨state, earlier, moved⟩,
          target, Finset.inter_subset_right⟩

/-- Once the limit is reached, it stays reached and no check lets a request through. -/
theorem closed_of_reached {rest : List LedgerAction} (nonneg : ∀ request, 0 ≤ cost request)
    (regular : Throughout (Ledger.step settings) (Regular settings cap limit cost) start rest)
    (compares : start.Compares cap limit) (spent : limit ≤ cap.spent start.db)
    (reached : run (Ledger.step settings) start rest = some l) :
    l.Compares cap limit ∧ limit ≤ cap.spent l.db ∧
      l.ids cap cap.passed ⊆ start.ids cap cap.passed := by
  have initial : start.Compares cap limit ∧ limit ≤ cap.spent start.db ∧
      start.ids cap cap.passed ⊆ start.ids cap cap.passed := ⟨compares, spent, subset_rfl⟩
  refine invariant (P := fun l => l.Compares cap limit ∧ limit ≤ cap.spent l.db ∧
    l.ids cap cap.passed ⊆ start.ids cap cap.passed) initial ?_ regular reached
  intro state action next holds moved met
  obtain ⟨compares, spent, older⟩ := holds
  have steps := ledgerSteps_of_step moved
  refine ⟨steps.compares met.1 compares, ?_, fun request passed => ?_⟩
  · rw [steps.db, spent_after]
    exact spent.trans (le_add_of_nonneg_right (charge_nonneg nonneg met.2))
  · rcases steps.passes met.1 compares passed with before | ⟨-, below⟩
    · exact older before
    · exact absurd below (not_lt.mpr spent)

end Run

/-! ## The promise -/

/-- A request that counts for the cap has been rejected with a 429. -/
def Ledger.Rejects (cap : Cap) (l : Ledger) (request : ℕ) : Prop :=
  ∃ virtualKeyId exception, l.requests[request]? = some ⟨virtualKeyId, .rejected exception⟩ ∧
    cap.covers virtualKeyId = true ∧ exception.status = 429

/-- A check of the run let a request through, and no other request that is admitted in the end
came to its check later. -/
structure LastAdmission (settings : Settings) (cap : Cap) (start : Ledger)
    (actions : List LedgerAction) (l checked : Ledger) : Prop where
  check : ∃ before request after, actions = before ++ cap.check request :: after ∧
    run (Ledger.step settings) start (before ++ [cap.check request]) = some checked ∧
      request ∈ l.ids cap Stage.isAdmitted
  last : l.ids cap Stage.isAdmitted ⊆ checked.ids cap cap.passed

/-- The requests admitted and not charged at a moment of a run. The ones that another cap turned
away later are not among them. -/
def Cap.outstanding (cap : Cap) (l checked : Ledger) : Finset ℕ :=
  (checked.ids cap cap.passed ∩ l.ids cap Stage.isAdmitted) \ checked.ids cap Stage.isCharged

/-- From a moment of a run on, no check lets a request through. -/
structure Closed (settings : Settings) (cap : Cap) (checked : Ledger)
    (after : List LedgerAction) (l : Ledger) : Prop where
  admitted : l.ids cap Stage.isAdmitted ⊆ checked.ids cap cap.passed
  rejects : ∀ more request rest state found next, after = more ++ cap.check request :: rest →
    run (Ledger.step settings) checked more = some state →
      state.requests[request]? = some found → cap.covers found.virtualKeyId = true →
        state.step settings (cap.check request) = some next → next.Rejects cap request

/-- **The promise of a spend cap**, at the end of a run. -/
structure SpendCap (settings : Settings) (cap : Cap) (limit : ℚ) (cost : ℕ → ℚ) (start : Ledger)
    (actions : List LedgerAction) (l : Ledger) : Prop where
  below : ∀ request ∈ l.ids cap Stage.isAdmitted, ∃ before after state,
    actions = before ++ cap.check request :: after ∧
      run (Ledger.step settings) start before = some state ∧ cap.spent state.db < limit
  last : (l.ids cap Stage.isAdmitted).Nonempty →
    ∃ checked, LastAdmission settings cap start actions l checked
  overshoot : ∀ checked, LastAdmission settings cap start actions l checked →
    cap.spent l.db < limit + ∑ request ∈ cap.outstanding l checked, cost request
  closed : ∀ before request after checked, actions = before ++ cap.check request :: after →
    run (Ledger.step settings) start (before ++ [cap.check request]) = some checked →
      checked.Rejects cap request → Closed settings cap checked after l

section Promise

variable {settings : Settings} {cap : Cap} {limit : ℚ} {cost : ℕ → ℚ} {db : Database}
  {l checked : Ledger} {actions : List LedgerAction}

theorem admitted_subset_passed (cap : Cap) (l : Ledger) :
    l.ids cap Stage.isAdmitted ⊆ l.ids cap cap.passed := by
  intro request member
  obtain ⟨found, there, covered, admitted⟩ := l.mem_ids cap |>.mp member
  exact l.mem_ids cap |>.mpr ⟨found, there, covered, passed_of_admitted admitted⟩

theorem charged_subset_admitted (cap : Cap) (l : Ledger) :
    l.ids cap Stage.isCharged ⊆ l.ids cap Stage.isAdmitted := by
  intro request member
  obtain ⟨found, there, covered, charged⟩ := l.mem_ids cap |>.mp member
  exact l.mem_ids cap |>.mpr ⟨found, there, covered, admitted_of_charged charged⟩

/-- A cap as an account, at a moment of a run that ends later. -/
def Cap.account (cap : Cap) (opening : ℚ) (l checked : Ledger)
    (later : checked.ids cap Stage.isCharged ⊆ l.ids cap Stage.isCharged) : Library.Account ℕ ℚ where
  opening := opening
  admitted := checked.ids cap cap.passed ∩ l.ids cap Stage.isAdmitted
  charged := checked.ids cap Stage.isCharged
  charged_subset := Finset.subset_inter
    ((charged_subset_admitted cap checked).trans (admitted_subset_passed cap checked))
    (later.trans (charged_subset_admitted cap l))

/-- The turn of a request at its check. -/
theorem LedgerSteps.check {state : Ledger} {request : ℕ}
    (steps : LedgerSteps settings state (cap.check request) checked) :
    ∃ virtualKeyId stage later, state.requests[request]? = some ⟨virtualKeyId, stage⟩ ∧
      checked.requests[request]? = some ⟨virtualKeyId, later⟩ ∧
        StageTurns settings state.db request virtualKeyId (cap.check request) stage later := by
  generalize same : cap.check request = action at steps
  cases steps with
  | enter virtualKeyId => cases cap <;> cases same
  | @turn _ other virtualKeyId stage later found turns =>
      have own : other = request := by cases cap <;> cases turns <;> cases same <;> rfl
      subst own
      have inside := (List.getElem?_eq_some_iff.mp found).1
      exact ⟨virtualKeyId, stage, later, found, by rw [Ledger.turn, List.getElem?_set_self inside],
        same ▸ turns⟩
  | logFailure _ _ _ _ _ => cases cap <;> cases same
  | administer _ => cases cap <;> cases same

/-- A request that is rejected by a check found the limit reached. -/
theorem LedgerSteps.reached {state : Ledger} {request : ℕ}
    (steps : LedgerSteps settings state (cap.check request) checked)
    (compares : state.Compares cap limit) (rejected : checked.Rejects cap request) :
    limit ≤ cap.spent state.db := by
  obtain ⟨virtualKeyId, stage, later, earlier, there, turns⟩ := steps.check
  obtain ⟨_, exception, found, covered, -⟩ := rejected
  cases there.symm.trans found
  obtain ⟨own, waits, spent⟩ := turns.reached covered
  rwa [compares request _ own earlier covered waits] at spent

/-- A check that finds the limit reached rejects its request. -/
theorem LedgerSteps.rejects {state : Ledger} {request : ℕ} {found : SpendRequest}
    (steps : LedgerSteps settings state (cap.check request) checked)
    (compares : state.Compares cap limit) (there : state.requests[request]? = some found)
    (covered : cap.covers found.virtualKeyId = true) (spent : limit ≤ cap.spent state.db) :
    checked.Rejects cap request := by
  obtain ⟨virtualKeyId, stage, later, earlier, after, turns⟩ := steps.check
  cases there.symm.trans earlier
  obtain ⟨own, waits, rejects⟩ := turns.rejects covered
  obtain ⟨exception, rfl, status⟩ := rejects (by rwa [compares request _ own earlier covered waits])
  exact ⟨virtualKeyId, exception, after, covered, status⟩

/-- A limit stays as it is when nobody changes the keys. -/
theorem always_limited (limited : cap.limit settings db = some limit)
    (calm : ∀ action ∈ actions, ∀ apiKeys, action ≠ .administer apiKeys) :
    Always (Ledger.step settings) (fun l => cap.limit settings l.db = some limit) ⟨db, []⟩
      actions := by
  refine always_of_reached (C := fun _ action _ => ∀ apiKeys, action ≠ .administer apiKeys)
    (fun before state throughout reached => ?_) (throughout_of_actions calm _)
  refine invariant (P := fun l => cap.limit settings l.db = some limit) limited ?_ throughout
    reached
  intro state action next holds moved met
  rw [(ledgerSteps_of_step moved).db]
  cases action with
  | administer apiKeys => exact absurd rfl (met apiKeys)
  | _ => cases cap <;> exact holds

/-- The second promise. -/
theorem overshoot_of_lastAdmission (nonneg : ∀ request, 0 ≤ cost request)
    (regular : Throughout (Ledger.step settings) (Regular settings cap limit cost) ⟨db, []⟩
      actions)
    (reached : run (Ledger.step settings) ⟨db, []⟩ actions = some l)
    (admission : LastAdmission settings cap ⟨db, []⟩ actions l checked) :
    cap.spent l.db < limit + ∑ request ∈ cap.outstanding l checked, cost request := by
  obtain ⟨⟨before, request, after, split, there, admitted⟩, last⟩ := admission
  obtain ⟨state, earlier, moved⟩ := run_snoc_eq_some.mp there
  have steps := ledgerSteps_of_step moved
  have met := regular before (cap.check request) after state checked split earlier moved
  have whole : actions = (before ++ [cap.check request]) ++ after := by simp [split]
  have rest : run (Ledger.step settings) checked after = some l := by
    rwa [whole, run_append, there] at reached
  have later := ids_subset_of_run cap kept_charged rest
  -- the check let its request through, so it found the spend below the limit
  have below : cap.spent checked.db < limit := by
    have unspent : cap.spent checked.db = cap.spent state.db := by
      rw [steps.db, spent_after]
      cases cap <;> exact add_zero _
    obtain ⟨virtualKeyId, stage, reachedStage, found, after', turns⟩ := steps.check
    obtain ⟨other, same, covered, passed⟩ := checked.mem_ids cap |>.mp (last admitted)
    cases after'.symm.trans same
    have compares := (capAccounted_of_run (regular.of_split split) earlier).compares
    rcases turns.below met.1 covered passed with already | ⟨-, own, waits, below⟩
    · obtain ⟨own, waits, -⟩ := turns.rejects covered
      rw [not_passed_of_pending waits] at already
      cases already
    · rwa [unspent, ← compares request _ own found covered waits]
  have ends := (capAccounted_of_run regular reached).spent
  have begins := (capAccounted_of_run (regular.of_split whole) there).spent
  have admissions : (cap.account (cap.spent db) l l subset_rfl).admitted ⊆
      (cap.account (cap.spent db) l checked later).admitted := by
    intro request member
    have admitted := (Finset.mem_inter.mp member).2
    exact Finset.mem_inter.mpr ⟨last admitted, admitted⟩
  have begun : (cap.account (cap.spent db) l checked later).spent cost = cap.spent checked.db :=
    begins.symm
  calc cap.spent l.db = (cap.account (cap.spent db) l l subset_rfl).spent cost := ends
    _ < limit + ∑ request ∈ (cap.account (cap.spent db) l checked later).outstanding,
        cost request := Account.overshoot nonneg rfl admissions (begun.trans_lt below)
    _ = limit + ∑ request ∈ cap.outstanding l checked, cost request := rfl

/-- The third promise. -/
theorem closed_of_rejects {before after : List LedgerAction} {request : ℕ}
    (nonneg : ∀ request, 0 ≤ cost request)
    (regular : Throughout (Ledger.step settings) (Regular settings cap limit cost) ⟨db, []⟩
      actions)
    (reached : run (Ledger.step settings) ⟨db, []⟩ actions = some l)
    (split : actions = before ++ cap.check request :: after)
    (there : run (Ledger.step settings) ⟨db, []⟩ (before ++ [cap.check request]) = some checked)
    (rejected : checked.Rejects cap request) : Closed settings cap checked after l := by
  obtain ⟨state, earlier, moved⟩ := run_snoc_eq_some.mp there
  have steps := ledgerSteps_of_step moved
  have whole : actions = (before ++ [cap.check request]) ++ after := by simp [split]
  have rest : run (Ledger.step settings) checked after = some l := by
    rwa [whole, run_append, there] at reached
  have spent : limit ≤ cap.spent checked.db := by
    rw [steps.db, spent_after]
    have full := steps.reached (capAccounted_of_run (regular.of_split split) earlier).compares rejected
    cases cap <;> exact full.trans (add_zero _).ge
  have compares := (capAccounted_of_run (regular.of_split whole) there).compares
  have following : Throughout (Ledger.step settings) (Regular settings cap limit cost) checked
      after := (whole ▸ regular).rest there
  refine ⟨?_, fun more later others state found next inside ran exists_ covered checks => ?_⟩
  · exact (admitted_subset_passed cap l).trans
      (closed_of_reached nonneg following compares spent rest).2.2
  · obtain ⟨waits, full, -⟩ :=
      closed_of_reached nonneg (following.of_split inside) compares spent ran
    exact (ledgerSteps_of_step checks).rejects waits exists_ covered full

/-- **Spend caps are kept**: for the limit of a key and for the global one, in every run in which
the limit stays as it is and no request costs less than nothing. -/
theorem spend_cap (settings : Settings) (cap : Cap) (limit : ℚ) (cost : ℕ → ℚ) (db : Database)
    (actions : List LedgerAction) (l : Ledger) (nonneg : ∀ request, 0 ≤ cost request)
    (limited : Always (Ledger.step settings) (fun l => cap.limit settings l.db = some limit)
      ⟨db, []⟩ actions)
    (charges : Throughout (Ledger.step settings) (Charges cost) ⟨db, []⟩ actions)
    (reached : run (Ledger.step settings) ⟨db, []⟩ actions = some l) :
    SpendCap settings cap limit cost ⟨db, []⟩ actions l := by
  have regular := regular_of_always limited charges
  have passes := passesBelow_of_regular regular
  refine ⟨fun request admitted => ?_, fun nonempty => ?_, fun checked admission => ?_,
    fun before request after checked split there rejected => ?_⟩
  · exact check_of_passed passes reached request (admitted_subset_passed cap l admitted)
  · have within : l.ids cap Stage.isAdmitted ∩ l.ids cap cap.passed =
        l.ids cap Stage.isAdmitted :=
      Finset.inter_eq_left.mpr (admitted_subset_passed cap l)
    obtain ⟨before, request, after, checked, split, there, admitted, last⟩ :=
      last_check (l.ids cap Stage.isAdmitted) passes reached (by rwa [within])
    exact ⟨checked, ⟨before, request, after, split, there, admitted⟩, by rwa [within] at last⟩
  · exact overshoot_of_lastAdmission nonneg regular reached admission
  · exact closed_of_rejects nonneg regular reached split there rejected

/-- A key that may spend a dollar, and the record of a request that costs seventy cents. -/
def cappedDatabase : Database where
  apiKeys :=
    [{ id := 1, hashedKey := "", clientName := "client", spendLimitUsd := some 1,
       expiresAt := none, createdAt := 0 }]

def seventyCents : UsageRecord where
  virtualKeyId := 1
  provider := "openai"
  model := "gpt-4o"
  inputTokens := 1000
  outputTokens := 1000
  latencyMs := 10
  estimatedCost := 7 / 10

/-- Two requests are admitted before either of them is charged; a third one is rejected. -/
def overspending : List LedgerAction :=
  [.enter 1, .readKeySpend 0, .enter 1, .readKeySpend 1, .persist 0 seventyCents,
    .persist 1 seventyCents, .enter 1, .readKeySpend 2]

theorem spend_cap_overspending :
    ∃ l, run (Ledger.step {}) ⟨cappedDatabase, []⟩ overspending = some l ∧
      SpendCap {} (.key 1) 1 (fun _ => 7 / 10) ⟨cappedDatabase, []⟩ overspending l := by
  have ends : (run (Ledger.step {}) ⟨cappedDatabase, []⟩ overspending).isSome = true := by
    decide +kernel
  obtain ⟨l, reached⟩ := Option.isSome_iff_exists.mp ends
  refine ⟨l, reached, spend_cap {} (.key 1) 1 (fun _ => 7 / 10) cappedDatabase overspending l
    (fun _ => by norm_num) (always_limited (by decide +kernel) fun action member keys => ?_)
    (throughout_of_actions (fun action member request record same => ?_) _) reached⟩
  · rintro rfl
    simp [overspending] at member
  · subst same
    have own : record = seventyCents := by
      simp only [overspending, List.mem_cons, LedgerAction.persist.injEq, reduceCtorEq, false_or,
        List.not_mem_nil, or_false] at member
      rcases member with first | second
      · exact first.2
      · exact second.2
    have stored : Decimal.column 6 seventyCents.estimatedCost = 7 / 10 := by decide +kernel
    rw [own, stored]

end Promise

end LlmGateway
