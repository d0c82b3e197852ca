import LlmGateway.Library.Budget
import LlmGateway.Library.Runs
import LlmGateway.Routers.Guards

/-!
# Requests and what they spend

Any number of requests pass the spend cap over one database and write their usage when they
like. `enforce_spend_cap` is up to three steps, one for each read of the database; the commit
of `persist_usage` is a step that comes as late as it likes after the admission, or never.
In between, other requests write failures, and keys are created, revoked or changed.

`LedgerSteps` says what a step does to the requests and to the successful rows. A request
that passes the cap undisturbed is admitted exactly when `enforce_spend_cap` returns
(`run_enforceSpendCap`).
-/

set_option autoImplicit false

namespace LlmGateway

open LlmGateway.Library

/-! ## State and steps -/

/-- Where a request is.

* `keyCheck`, `globalCheck`: before the read that is compared with the limit;
* `charged`: its row is committed;
* `abandoned`: it was cancelled before its admission, or the database failed. -/
inductive Stage where
  | keyCheck (limit : ℚ)
  | globalCheck (limit : ℚ)
  | admitted
  | charged
  | rejected (exception : HttpException)
  | abandoned

/-- A request of a virtual key. -/
structure SpendRequest where
  virtualKeyId : ℤ
  stage : Stage

/-- The database and all requests, each named by its place. -/
structure Ledger where
  db : Database
  requests : List SpendRequest := []

inductive LedgerAction where
  | enter (virtualKeyId : ℤ)
  | readKeySpend (request : ℕ)
  | readGlobalSpend (request : ℕ)
  | persist (request : ℕ) (record : UsageRecord)
  | abandon (request : ℕ)
  | logFailure (virtualKeyId : ℤ) (provider model : String) (latencyMs : ℕ) (errorType : String)
  | administer (apiKeys : List ApiKey)

/-- The stage after the comparison with the limit of the key. -/
def afterKeyCheck (settings : Settings) : Stage :=
  match settings.globalSpendLimitUsd with
  | none => .admitted
  | some limit => .globalCheck limit

/-- The stage after the key has been looked up. -/
def afterLookup (settings : Settings) (key : Option ApiKey) : Stage :=
  match keyLimit key with
  | none => afterKeyCheck settings
  | some limit => .keyCheck limit

/-- The stage after a comparison. -/
def compared {α : Type} (passed : Stage) (result : Except HttpException α) : Stage :=
  match result with
  | .error exception => .rejected exception
  | .ok _ => passed

theorem compared_ok {α : Type} (passed : Stage) (value : α) :
    compared passed (.ok value) = passed := rfl

/-- The database after a step. -/
def Database.after (db : Database) : LedgerAction → Database
  | .persist _ record => db.persistUsage record
  | .logFailure virtualKeyId provider model latencyMs errorType =>
      db.createFailedUsageLog virtualKeyId provider model latencyMs errorType
  | .administer apiKeys => { db with apiKeys }
  | _ => db

namespace Ledger

variable (settings : Settings) (l : Ledger)

/-- A request goes on to another stage. -/
def turn (action : LedgerAction) (request : ℕ) (virtualKeyId : ℤ) (stage : Stage) : Ledger :=
  ⟨l.db.after action, l.requests.set request ⟨virtualKeyId, stage⟩⟩

/-- **One step.** -/
def step (action : LedgerAction) : Option Ledger :=
  match action with
  | .enter virtualKeyId =>
      some { l with
        requests := l.requests ++
          [⟨virtualKeyId, afterLookup settings (l.db.getKeyById virtualKeyId)⟩] }
  | .readKeySpend request =>
      match l.requests[request]? with
      | some ⟨virtualKeyId, .keyCheck limit⟩ =>
          some (l.turn action request virtualKeyId (compared (afterKeyCheck settings)
            (checkKeySpend limit (l.db.getKeySpendUsd virtualKeyId))))
      | _ => none
  | .readGlobalSpend request =>
      match l.requests[request]? with
      | some ⟨virtualKeyId, .globalCheck limit⟩ =>
          some (l.turn action request virtualKeyId
            (compared .admitted (checkGlobalSpend limit l.db.getGlobalSpendUsd)))
      | _ => none
  | .persist request record =>
      match l.requests[request]? with
      | some ⟨virtualKeyId, .admitted⟩ =>
          if record.virtualKeyId = virtualKeyId then
            some (l.turn action request virtualKeyId .charged)
          else none
      | _ => none
  | .abandon request =>
      match l.requests[request]? with
      | some ⟨virtualKeyId, .keyCheck _⟩ => some (l.turn action request virtualKeyId .abandoned)
      | some ⟨virtualKeyId, .globalCheck _⟩ => some (l.turn action request virtualKeyId .abandoned)
      | _ => none
  | .logFailure .. | .administer _ => some { l with db := l.db.after action }

end Ledger

/-! ## What a step is -/

/-- The turn of a request of a virtual key, on a database. -/
inductive StageTurns (settings : Settings) (db : Database) (request : ℕ) (virtualKeyId : ℤ) :
    LedgerAction → Stage → Stage → Prop
  | keyPassed {limit : ℚ} (below : db.getKeySpendUsd virtualKeyId < limit) :
      StageTurns settings db request virtualKeyId (.readKeySpend request) (.keyCheck limit)
        (afterKeyCheck settings)
  | keyRejected {limit : ℚ} (reached : limit ≤ db.getKeySpendUsd virtualKeyId) :
      StageTurns settings db request virtualKeyId (.readKeySpend request) (.keyCheck limit)
        (.rejected (keySpendExceeded limit (db.getKeySpendUsd virtualKeyId)))
  | globalPassed {limit : ℚ} (below : db.getGlobalSpendUsd < limit) :
      StageTurns settings db request virtualKeyId (.readGlobalSpend request) (.globalCheck limit)
        .admitted
  | globalRejected {limit : ℚ} (reached : limit ≤ db.getGlobalSpendUsd) :
      StageTurns settings db request virtualKeyId (.readGlobalSpend request) (.globalCheck limit)
        (.rejected globalSpendExceeded)
  | charged {record : UsageRecord} (own : record.virtualKeyId = virtualKeyId) :
      StageTurns settings db request virtualKeyId (.persist request record) .admitted .charged
  | keyAbandoned {limit : ℚ} :
      StageTurns settings db request virtualKeyId (.abandon request) (.keyCheck limit) .abandoned
  | globalAbandoned {limit : ℚ} :
      StageTurns settings db request virtualKeyId (.abandon request) (.globalCheck limit) .abandoned

/-- **The steps of the ledger.** -/
inductive LedgerSteps (settings : Settings) (l : Ledger) : LedgerAction → Ledger → Prop
  | enter (virtualKeyId : ℤ) :
      LedgerSteps settings l (.enter virtualKeyId)
        { l with
          requests := l.requests ++
            [⟨virtualKeyId, afterLookup settings (l.db.getKeyById virtualKeyId)⟩] }
  | turn {action : LedgerAction} {request : ℕ} {virtualKeyId : ℤ} {stage next : Stage}
      (found : l.requests[request]? = some ⟨virtualKeyId, stage⟩)
      (turns : StageTurns settings l.db request virtualKeyId action stage next) :
      LedgerSteps settings l action (l.turn action request virtualKeyId next)
  | logFailure (virtualKeyId : ℤ) (provider model : String) (latencyMs : ℕ) (errorType : String) :
      LedgerSteps settings l (.logFailure virtualKeyId provider model latencyMs errorType)
        { l with
          db := l.db.createFailedUsageLog virtualKeyId provider model latencyMs errorType }
  | administer (apiKeys : List ApiKey) :
      LedgerSteps settings l (.administer apiKeys) { l with db := { l.db with apiKeys } }

section Step

variable {settings : Settings} {l next : Ledger} {action : LedgerAction}

theorem stageTurns_key (db : Database) (request : ℕ) (virtualKeyId : ℤ) (limit : ℚ) :
    StageTurns settings db request virtualKeyId (.readKeySpend request) (.keyCheck limit)
      (compared (afterKeyCheck settings)
        (checkKeySpend limit (db.getKeySpendUsd virtualKeyId))) := by
  unfold checkKeySpend
  split_ifs with reached
  · exact .keyRejected reached
  · exact .keyPassed (not_le.mp reached)

theorem stageTurns_global (db : Database) (request : ℕ) (virtualKeyId : ℤ) (limit : ℚ) :
    StageTurns settings db request virtualKeyId (.readGlobalSpend request) (.globalCheck limit)
      (compared .admitted (checkGlobalSpend limit db.getGlobalSpendUsd)) := by
  unfold checkGlobalSpend
  split_ifs with reached
  · exact .globalRejected reached
  · exact .globalPassed (not_le.mp reached)

/-- **Nothing else happens.** -/
theorem ledgerSteps_of_step (moved : l.step settings action = some next) :
    LedgerSteps settings l action next := by
  cases action with
  | enter virtualKeyId =>
      cases moved
      exact .enter virtualKeyId
  | readKeySpend request =>
      simp only [Ledger.step] at moved
      split at moved
      · rename_i virtualKeyId limit found
        cases moved
        exact .turn found (stageTurns_key _ _ _ _)
      · cases moved
  | readGlobalSpend request =>
      simp only [Ledger.step] at moved
      split at moved
      · rename_i virtualKeyId limit found
        cases moved
        exact .turn found (stageTurns_global _ _ _ _)
      · cases moved
  | persist request record =>
      simp only [Ledger.step] at moved
      split at moved
      · rename_i virtualKeyId found
        split_ifs at moved with own
        cases moved
        exact .turn found (.charged own)
      · cases moved
  | abandon request =>
      simp only [Ledger.step] at moved
      split at moved
      · rename_i found
        cases moved
        exact .turn found .keyAbandoned
      · rename_i found
        cases moved
        exact .turn found .globalAbandoned
      · cases moved
  | logFailure virtualKeyId provider model latencyMs errorType =>
      cases moved
      exact .logFailure virtualKeyId provider model latencyMs errorType
  | administer apiKeys =>
      cases moved
      exact .administer apiKeys

/-- What has become of a request in a step. -/
theorem LedgerSteps.request (steps : LedgerSteps settings l action next) {request : ℕ}
    {later : SpendRequest} (found : next.requests[request]? = some later) :
    l.requests[request]? = some later ∨
      (request = l.requests.length ∧
        later.stage = afterLookup settings (l.db.getKeyById later.virtualKeyId)) ∨
      ∃ stage, l.requests[request]? = some ⟨later.virtualKeyId, stage⟩ ∧
        StageTurns settings l.db request later.virtualKeyId action stage later.stage := by
  cases steps with
  | enter virtualKeyId =>
      rcases lt_trichotomy request l.requests.length with inside | last | outside
      · left
        rwa [List.getElem?_append_left inside] at found
      · right
        left
        subst last
        simp at found
        subst found
        exact ⟨rfl, rfl⟩
      · rw [List.getElem?_eq_none (by simp; omega)] at found
        cases found
  | @turn _ other virtualKeyId stage changed there turns =>
      by_cases same : request = other
      · subst same
        right
        right
        have inside : request < l.requests.length := (List.getElem?_eq_some_iff.mp there).1
        rw [Ledger.turn, List.getElem?_set_self inside] at found
        cases found
        exact ⟨stage, there, turns⟩
      · left
        rwa [Ledger.turn, List.getElem?_set_ne (Ne.symm same)] at found
  | logFailure _ _ _ _ _ => exact .inl found
  | administer _ => exact .inl found

/-- A request stays in its place and keeps its key. -/
theorem LedgerSteps.request_later (steps : LedgerSteps settings l action next) {request : ℕ}
    {earlier : SpendRequest} (found : l.requests[request]? = some earlier) :
    next.requests[request]? = some earlier ∨
      ∃ stage, next.requests[request]? = some ⟨earlier.virtualKeyId, stage⟩ ∧
        StageTurns settings l.db request earlier.virtualKeyId action earlier.stage stage := by
  have inside : request < l.requests.length := (List.getElem?_eq_some_iff.mp found).1
  cases steps with
  | enter virtualKeyId =>
      left
      rwa [List.getElem?_append_left inside]
  | @turn _ other virtualKeyId stage changed there turns =>
      by_cases same : request = other
      · subst same
        rw [there] at found
        cases found
        exact .inr ⟨changed, by rw [Ledger.turn, List.getElem?_set_self inside], turns⟩
      · left
        rwa [Ledger.turn, List.getElem?_set_ne (Ne.symm same)]
  | logFailure _ _ _ _ _ => exact .inl found
  | administer _ => exact .inl found

/-- The database after a step. -/
theorem LedgerSteps.db (steps : LedgerSteps settings l action next) :
    next.db = l.db.after action := by
  cases steps with
  | enter virtualKeyId => rfl
  | turn found turns => rfl
  | logFailure _ _ _ _ _ => rfl
  | administer _ => rfl

end Step

/-! ## A request that nothing disturbs -/

section Undisturbed

variable (settings : Settings) (l : Ledger) (virtualKeyId : ℤ)

/-- The requests with one more. -/
def Ledger.with (stage : Stage) : Ledger :=
  { l with requests := l.requests ++ [⟨virtualKeyId, stage⟩] }

theorem step_with_keyCheck (limit : ℚ) :
    (l.with virtualKeyId (.keyCheck limit)).step settings (.readKeySpend l.requests.length) =
      some (l.with virtualKeyId (compared (afterKeyCheck settings)
        (checkKeySpend limit (l.db.getKeySpendUsd virtualKeyId)))) := by
  simp [Ledger.step, Ledger.with, Ledger.turn, Database.after]

theorem step_with_globalCheck (limit : ℚ) :
    (l.with virtualKeyId (.globalCheck limit)).step settings
        (.readGlobalSpend l.requests.length) =
      some (l.with virtualKeyId (compared .admitted
        (checkGlobalSpend limit l.db.getGlobalSpendUsd))) := by
  simp [Ledger.step, Ledger.with, Ledger.turn, Database.after]

/-- The rest of the cap, after the comparison with the limit of the key. -/
theorem run_afterKeyCheck :
    ∃ actions, run (Ledger.step settings) (l.with virtualKeyId (afterKeyCheck settings)) actions =
      some (l.with virtualKeyId (compared .admitted (enforceGlobalCap settings l.db))) := by
  unfold afterKeyCheck enforceGlobalCap
  cases settings.globalSpendLimitUsd with
  | none => exact ⟨[], rfl⟩
  | some limit =>
      refine ⟨[.readGlobalSpend l.requests.length], ?_⟩
      simp only [run, step_with_globalCheck, Option.bind_some]

/-- A request that passes the cap while nothing else happens is admitted exactly when
`enforce_spend_cap` returns. -/
theorem run_enforceSpendCap :
    ∃ actions, run (Ledger.step settings) l (.enter virtualKeyId :: actions) =
      some (l.with virtualKeyId
        (compared .admitted (enforceSpendCap settings l.db virtualKeyId))) := by
  obtain ⟨later, reached⟩ := run_afterKeyCheck settings l virtualKeyId
  have entered : l.step settings (.enter virtualKeyId) = some (l.with virtualKeyId
    (afterLookup settings (l.db.getKeyById virtualKeyId))) := rfl
  -- the result of the second half decides once the first half has passed
  have settled : compared .admitted (enforceGlobalCap settings l.db) = compared .admitted
      (do enforceGlobalCap settings l.db; pure virtualKeyId) := by
    cases enforceGlobalCap settings l.db with
    | error exception => rfl
    | ok _ => rfl
  cases found : keyLimit (l.db.getKeyById virtualKeyId) with
  | none =>
      refine ⟨later, ?_⟩
      simp only [run, entered, afterLookup, found, Option.bind_some, reached, settled]
      simp only [enforceSpendCap, enforceKeyCap, found]
      rfl
  | some limit =>
      cases checked : checkKeySpend limit (l.db.getKeySpendUsd virtualKeyId) with
      | error exception =>
          refine ⟨[.readKeySpend l.requests.length], ?_⟩
          simp only [run, entered, afterLookup, found, step_with_keyCheck, checked,
            Option.bind_some]
          simp only [enforceSpendCap, enforceKeyCap, found, checked]
          rfl
      | ok _ =>
          refine ⟨.readKeySpend l.requests.length :: later, ?_⟩
          simp only [run, entered, afterLookup, found, step_with_keyCheck, checked, compared_ok,
            Option.bind_some, reached, settled]
          simp only [enforceSpendCap, enforceKeyCap, found, checked]
          rfl

end Undisturbed

end LlmGateway
