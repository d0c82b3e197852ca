import LlmGateway.Routers.Guards
import LlmGateway.Storage.Logs
import LlmGateway.Storage.Migrations

/-!
# The gateway after a migration

What the migrations do to the records of the gateway. The tables hold a database of the gateway, row by
row (`Versioned.Holds`); an upgrade changes nothing that they hold, and a downgrade loses what its
revision has added (`remains`). The selects of the gateway name the columns of the last revision, so
that it reads the database there only (`Versioned.Stores`); its guards notice the loss
(`migrated_gateway`).
-/

set_option autoImplicit false

namespace LlmGateway

open LlmGateway.Library

/-! ## Stored databases -/

/-- An optional value in a cell. -/
def cell {α : Type} (make : α → Cell) (value : Option α) : Option Cell := value.map make

structure ApiKey.Stored (row : Row Cell) (key : ApiKey) : Prop where
  id : row "id" = some (.integer key.id)
  hashedKey : row "hashed_key" = some (.text key.hashedKey)
  clientName : row "client_name" = some (.text key.clientName)
  isActive : row "is_active" = some (.boolean key.isActive)
  spendLimitUsd : row "spend_limit_usd" = cell .numeric key.spendLimitUsd
  expiresAt : row "expires_at" = cell .instant key.expiresAt
  createdAt : row "created_at" = some (.instant key.createdAt)

/-- A row without a status is one of a schema that does not know of it: "registros antigos entram como
'ok'". -/
structure UsageLog.Stored (row : Row Cell) (log : UsageLog) : Prop where
  virtualKeyId : row "virtual_key_id" = some (.integer log.virtualKeyId)
  provider : row "provider" = some (.text log.provider)
  model : row "model" = some (.text log.model)
  inputTokens : row "input_tokens" = some (.integer log.inputTokens)
  outputTokens : row "output_tokens" = some (.integer log.outputTokens)
  latencyMs : row "latency_ms" = some (.integer log.latencyMs)
  estimatedCost : row "estimated_cost" = some (.numeric log.estimatedCost)
  status : row "status" = some (.text log.status.toString) ∨ row "status" = none ∧ log.status = .ok
  errorType : row "error_type" = cell .text log.errorType

def AuditAction.toString : AuditAction → String
  | .keyCreated => "key_created"
  | .keyRevoked => "key_revoked"

/-- The text of a moment is a parameter. -/
structure AuditLog.Stored (isoformat : ℚ → String) (row : Row Cell) (entry : AuditLog) : Prop where
  action : row "action" = some (.text entry.action.toString)
  virtualKeyId : row "virtual_key_id" = some (.integer entry.virtualKeyId)
  clientName : row "client_name" = some (.text entry.clientName)
  detail : row "detail" = cell .text (entry.detail.text isoformat)

/-- The rows of the tables are those of the database, where a column that is missing is empty. -/
structure Versioned.Holds (isoformat : ℚ → String) (s : Versioned) (db : Database) : Prop where
  apiKeys : List.Forall₂ ApiKey.Stored (s.schema.rows "api_keys") db.apiKeys
  usageLogs : List.Forall₂ UsageLog.Stored (s.schema.rows "usage_logs") db.usageLogs
  auditLogs : List.Forall₂ (AuditLog.Stored isoformat) (s.schema.rows "audit_logs") db.auditLogs

/-- The columns that the selects of `storage/orm.py` name, table by table. -/
def ormColumns : List (String × List String) :=
  [("api_keys",
      ["id", "hashed_key", "client_name", "is_active", "spend_limit_usd", "expires_at", "created_at"]),
    ("usage_logs",
      ["id", "virtual_key_id", "provider", "model", "input_tokens", "output_tokens", "latency_ms",
        "estimated_cost", "status", "error_type", "timestamp"]),
    ("audit_logs", ["id", "action", "virtual_key_id", "client_name", "detail", "created_at"])]

/-- A schema on which the selects of the gateway do not fail. -/
def Selectable (catalog : Catalog) : Prop :=
  ∀ entry ∈ ormColumns, ∀ column ∈ entry.2, column ∈ catalog.columnsOf entry.1

instance : DecidablePred Selectable := fun catalog =>
  inferInstanceAs (Decidable (∀ entry ∈ ormColumns, ∀ column ∈ entry.2,
    column ∈ catalog.columnsOf entry.1))

/-- **The gateway reads the database**: its selects find all their columns, and the rows. -/
structure Versioned.Stores (isoformat : ℚ → String) (s : Versioned) (db : Database) : Prop
    extends s.Holds isoformat db where
  selectable : Selectable s.schema.catalog

/-- What is left of a key when its schema goes down from the last revision and comes back. -/
def ApiKey.remains (depth : ℕ) (key : ApiKey) : ApiKey :=
  { key with
    spendLimitUsd := if 1 ≤ depth then none else key.spendLimitUsd
    expiresAt := if 3 ≤ depth then none else key.expiresAt }

def UsageLog.remains (depth : ℕ) (log : UsageLog) : UsageLog :=
  { log with
    status := if 2 ≤ depth then .ok else log.status
    errorType := if 2 ≤ depth then none else log.errorType }

/-- What is left of a database. -/
def remains (depth : ℕ) (db : Database) : Database where
  apiKeys := if 4 ≤ depth then [] else db.apiKeys.map (ApiKey.remains depth)
  usageLogs := if 4 ≤ depth then [] else db.usageLogs.map (UsageLog.remains depth)
  auditLogs := if 3 ≤ depth then [] else db.auditLogs

section Rows

variable {isoformat : ℚ → String} {s t : Versioned} {db : Database}

theorem Versioned.Holds.same (holds : s.Holds isoformat db) (rows : t.schema.rows = s.schema.rows) :
    t.Holds isoformat db := by
  obtain ⟨apiKeys, usageLogs, auditLogs⟩ := holds
  exact ⟨rows ▸ apiKeys, rows ▸ usageLogs, rows ▸ auditLogs⟩

/-- The rows of the keys alone are changed. -/
theorem Versioned.Holds.update_apiKeys (holds : s.Holds isoformat db) {rows : List (Row Cell)}
    (changed : t.schema.rows = Function.update s.schema.rows "api_keys" rows) {apiKeys : List ApiKey}
    (stored : List.Forall₂ ApiKey.Stored rows apiKeys) : t.Holds isoformat { db with apiKeys } where
  apiKeys := by
    rw [changed, Function.update_self]
    exact stored
  usageLogs := by
    rw [changed, Function.update_of_ne (by decide)]
    exact holds.usageLogs
  auditLogs := by
    rw [changed, Function.update_of_ne (by decide)]
    exact holds.auditLogs

/-- The rows of the usage alone are changed. -/
theorem Versioned.Holds.update_usageLogs (holds : s.Holds isoformat db) {rows : List (Row Cell)}
    (changed : t.schema.rows = Function.update s.schema.rows "usage_logs" rows) {usageLogs : List UsageLog}
    (stored : List.Forall₂ UsageLog.Stored rows usageLogs) : t.Holds isoformat { db with usageLogs } where
  apiKeys := by
    rw [changed, Function.update_of_ne (by decide)]
    exact holds.apiKeys
  usageLogs := by
    rw [changed, Function.update_self]
    exact stored
  auditLogs := by
    rw [changed, Function.update_of_ne (by decide)]
    exact holds.auditLogs

/-- The rows that are there when the status comes are successful ones. -/
theorem UsageLog.Stored.fill {row : Row Cell} {log : UsageLog} (stored : UsageLog.Stored row log)
    (absent : row "status" = none) :
    UsageLog.Stored (Function.update row "status" (some (.text "ok"))) log := by
  obtain ⟨virtualKeyId, provider, model, inputTokens, outputTokens, latencyMs, estimatedCost, status,
    errorType⟩ := stored
  have ok : log.status = .ok := by
    rcases status with held | ⟨-, ok⟩
    · rw [absent] at held
      cases held
    · exact ok
  refine ⟨virtualKeyId, provider, model, inputTokens, outputTokens, latencyMs, estimatedCost, .inl ?_,
    errorType⟩
  rw [Function.update_self, ok]
  rfl

theorem holds_addStatusToUsageLogs (sound : s.schema.Sound) (holds : s.Holds isoformat db)
    (made : run Schema.change s.schema addStatusToUsageLogs.upgrade = some t.schema) :
    t.Holds isoformat db := by
  obtain ⟨middle, first, rest⟩ := Option.bind_eq_some_iff.mp made
  have rows : t.schema.rows = middle.rows :=
    Schema.rows_run_of_blank (Schema.sound_change sound first) (by simp [Change.Blank]) rest
  rw [(Schema.change_eq_some.mp first).2.2, Change.refill] at rows
  refine holds.update_usageLogs rows (List.forall₂_map_left_iff.mpr ?_)
  have absent : ∀ row ∈ s.schema.rows "usage_logs", row "status" = none :=
    fun row member => sound.null (Schema.absent_of_addColumn first) member
  refine List.Forall₂.imp ?_ ((List.forall₂_and_left _ _).mpr ⟨absent, holds.usageLogs⟩)
  rintro row log ⟨absent, stored⟩
  exact stored.fill absent

/-- **An upgrade** changes nothing that is stored. -/
theorem holds_upgrade (sound : s.schema.Sound) (holds : s.Holds isoformat db)
    (upgraded : s.upgrade = some t) : t.Holds isoformat db := by
  obtain ⟨revision, member, -, -, made⟩ := upgrade_eq_some upgraded
  simp only [revisions, List.mem_cons, List.not_mem_nil, or_false] at member
  rcases member with rfl | rfl | rfl | rfl
  · refine holds.same (Schema.rows_run_of_blank sound ?_ made)
    simp [initialSchema, Change.Blank]
  · refine holds.same (Schema.rows_run_of_blank sound ?_ made)
    simp [addKeyExpiryAndAuditLog, Change.Blank]
  · exact holds_addStatusToUsageLogs sound holds made
  · refine holds.same (Schema.rows_run_of_blank sound ?_ made)
    simp [addSpendLimitToApiKeys, Change.Blank]

/-! ### Downgrades -/

theorem ApiKey.Stored.dropSpendLimit {row : Row Cell} {key : ApiKey} (stored : ApiKey.Stored row key) :
    ApiKey.Stored (Function.update row "spend_limit_usd" none) { key with spendLimitUsd := none } :=
  ⟨stored.id, stored.hashedKey, stored.clientName, stored.isActive, rfl, stored.expiresAt, stored.createdAt⟩

theorem ApiKey.Stored.dropExpiry {row : Row Cell} {key : ApiKey} (stored : ApiKey.Stored row key) :
    ApiKey.Stored (Function.update row "expires_at" none) { key with expiresAt := none } :=
  ⟨stored.id, stored.hashedKey, stored.clientName, stored.isActive, stored.spendLimitUsd, rfl,
    stored.createdAt⟩

theorem UsageLog.Stored.dropStatus {row : Row Cell} {log : UsageLog} (stored : UsageLog.Stored row log) :
    UsageLog.Stored (Function.update (Function.update row "error_type" none) "status" none)
      { log with status := .ok, errorType := none } :=
  ⟨stored.virtualKeyId, stored.provider, stored.model, stored.inputTokens, stored.outputTokens,
    stored.latencyMs, stored.estimatedCost, .inr ⟨rfl, rfl⟩, rfl⟩

theorem holds_dropSpendLimit (holds : s.Holds isoformat (remains 0 db))
    (made : run Schema.change s.schema addSpendLimitToApiKeys.downgrade = some t.schema) :
    t.Holds isoformat (remains 1 db) := by
  have rows : t.schema.rows = Function.update s.schema.rows "api_keys"
      ((s.schema.rows "api_keys").map fun row => Function.update row "spend_limit_usd" none) :=
    Schema.rows_run made
  have dropped := List.rel_map (R := ApiKey.Stored) (fun _ _ stored => stored.dropSpendLimit) holds.apiKeys
  have left : List.Forall₂ ApiKey.Stored
      ((s.schema.rows "api_keys").map fun row => Function.update row "spend_limit_usd" none)
      (remains 1 db).apiKeys := by
    simpa [remains, ApiKey.remains, Function.comp_def] using dropped
  exact holds.update_apiKeys rows left

theorem holds_dropStatus (holds : s.Holds isoformat (remains 1 db))
    (made : run Schema.change s.schema addStatusToUsageLogs.downgrade = some t.schema) :
    t.Holds isoformat (remains 2 db) := by
  have rows : t.schema.rows = Function.update s.schema.rows "usage_logs"
      ((s.schema.rows "usage_logs").map fun row =>
        Function.update (Function.update row "error_type" none) "status" none) := by
    rw [Schema.rows_run made]
    simp [addStatusToUsageLogs, Change.refill, Function.comp_def]
  have dropped := List.rel_map (R := UsageLog.Stored) (fun _ _ stored => stored.dropStatus) holds.usageLogs
  have left : List.Forall₂ UsageLog.Stored
      ((s.schema.rows "usage_logs").map fun row =>
        Function.update (Function.update row "error_type" none) "status" none) (remains 2 db).usageLogs := by
    simpa [remains, UsageLog.remains, Function.comp_def] using dropped
  exact holds.update_usageLogs rows left

theorem holds_dropExpiry (holds : s.Holds isoformat (remains 2 db))
    (made : run Schema.change s.schema addKeyExpiryAndAuditLog.downgrade = some t.schema) :
    t.Holds isoformat (remains 3 db) := by
  have rows : t.schema.rows = Function.update (Function.update s.schema.rows "api_keys"
      ((s.schema.rows "api_keys").map fun row => Function.update row "expires_at" none)) "audit_logs" [] :=
    Schema.rows_run made
  refine ⟨?_, ?_, ?_⟩
  · have dropped := List.rel_map (R := ApiKey.Stored) (fun _ _ stored => stored.dropExpiry) holds.apiKeys
    rw [rows, Function.update_of_ne (by decide), Function.update_self]
    simpa [remains, ApiKey.remains, Function.comp_def] using dropped
  · rw [rows, Function.update_of_ne (by decide), Function.update_of_ne (by decide)]
    exact holds.usageLogs
  · rw [rows, Function.update_self]
    exact .nil

theorem holds_dropTables (holds : s.Holds isoformat (remains 3 db))
    (made : run Schema.change s.schema initialSchema.downgrade = some t.schema) :
    t.Holds isoformat (remains 4 db) := by
  have rows :
      t.schema.rows = Function.update (Function.update s.schema.rows "usage_logs" []) "api_keys" [] :=
    Schema.rows_run made
  refine ⟨?_, ?_, ?_⟩
  · rw [rows, Function.update_self]
    exact .nil
  · rw [rows, Function.update_of_ne (by decide), Function.update_self]
    exact .nil
  · rw [rows, Function.update_of_ne (by decide), Function.update_of_ne (by decide)]
    exact holds.auditLogs

/-- **A downgrade** loses what its revision has added. -/
theorem holds_downgrade {depth : ℕ} (version : s.version = versionBelow depth)
    (holds : s.Holds isoformat (remains depth db)) (downgraded : s.downgrade = some t) :
    t.version = versionBelow (depth + 1) ∧ t.Holds isoformat (remains (depth + 1) db) := by
  obtain ⟨revision, member, above, named, made⟩ := downgrade_eq_some downgraded
  rw [version] at above
  match depth with
  | 0 =>
      obtain rfl := eq_of_revision member (show addSpendLimitToApiKeys ∈ revisions by simp [revisions]) above
      exact ⟨named, holds_dropSpendLimit holds made⟩
  | 1 =>
      obtain rfl := eq_of_revision member (show addStatusToUsageLogs ∈ revisions by simp [revisions]) above
      exact ⟨named, holds_dropStatus holds made⟩
  | 2 =>
      obtain rfl := eq_of_revision member
        (show addKeyExpiryAndAuditLog ∈ revisions by simp [revisions]) above
      exact ⟨named, holds_dropExpiry holds made⟩
  | 3 =>
      obtain rfl := eq_of_revision member (show initialSchema ∈ revisions by simp [revisions]) above
      exact ⟨named, holds_dropTables holds made⟩
  | depth + 4 => cases above

theorem remains_zero (db : Database) : remains 0 db = db := by
  have keys : ApiKey.remains 0 = id := rfl
  have logs : UsageLog.remains 0 = id := rfl
  simp [remains, keys, logs]

/-- **A walk** from the last revision keeps what the revisions above its lowest point have not added. -/
theorem holds_walk {moves : List Move} (sound : s.schema.Sound) (head : s.version = versionBelow 0)
    (holds : s.Holds isoformat db) (reached : run Versioned.migrate s moves = some t) :
    t.Holds isoformat (remains (profile moves).depth db) := by
  obtain ⟨lowest, descended, ascended⟩ := run_walk
    (fun _ _ _ sound migrated => sound_migrate sound migrated)
    (fun _ _ sound upgraded => downgrade_upgrade sound upgraded) sound reached
  have low : lowest.schema.Sound ∧ lowest.version = versionBelow (profile moves).depth ∧
      lowest.Holds isoformat (remains (profile moves).depth db) := by
    refine climb_induction (P := fun depth s => s.schema.Sound ∧ s.version = versionBelow depth ∧
      s.Holds isoformat (remains depth db)) ⟨sound, head, by rwa [remains_zero]⟩ ?_ descended
    rintro depth state next ⟨sound, version, holds⟩ downgraded
    exact ⟨@sound_migrate state next .down sound downgraded, holds_downgrade version holds downgraded⟩
  have high : t.schema.Sound ∧ t.Holds isoformat (remains (profile moves).depth db) := by
    refine climb_induction (P := fun _ s => s.schema.Sound ∧
      s.Holds isoformat (remains (profile moves).depth db)) ⟨low.1, low.2.2⟩ ?_ ascended
    rintro height state next ⟨sound, holds⟩ upgraded
    exact ⟨@sound_migrate state next .up sound upgraded, holds_upgrade sound holds upgraded⟩
  exact high.2

end Rows

/-! ## The gateway after a walk -/

section Guards

variable {env : Environment} {db : Database} {depth : ℕ}

theorem apiKeys_remains (above : depth ≤ 3) :
    (remains depth db).apiKeys = db.apiKeys.map (ApiKey.remains depth) :=
  if_neg (by omega)

/-- The lookups find the same keys. -/
theorem find_remains (above : depth ≤ 3) (test : ApiKey → Bool)
    (same : ∀ key, test (ApiKey.remains depth key) = test key) :
    (remains depth db).apiKeys.find? test = (db.apiKeys.find? test).map (ApiKey.remains depth) := by
  rw [apiKeys_remains above, List.find?_map]
  congr 2
  funext key
  exact same key

/-- What has been spent stays, if failed requests cost nothing. -/
theorem okLogs_remains (above : depth ≤ 3)
    (free : ∀ log ∈ db.usageLogs, log.status = .error → log.estimatedCost = 0) (keyId : Option ℤ) :
    (((remains depth db).okLogs keyId).map UsageLog.estimatedCost).sum =
      ((db.okLogs keyId).map UsageLog.estimatedCost).sum := by
  have logs : (remains depth db).usageLogs = db.usageLogs.map (UsageLog.remains depth) := if_neg (by omega)
  unfold Database.okLogs
  rw [logs]
  generalize db.usageLogs = logs at free
  induction logs with
  | nil => rfl
  | cons log rest ih =>
      have later := ih fun log member => free log (List.mem_cons_of_mem _ member)
      simp only [List.map_cons, List.filter_cons]
      cases status : log.status with
      | ok =>
          have ok : (log.remains depth).status = .ok := by simp [UsageLog.remains, status]
          have own : (log.remains depth).virtualKeyId = log.virtualKeyId := rfl
          rw [ok, own]
          split
          · rw [List.map_cons, List.map_cons, List.sum_cons, List.sum_cons, later]
            rfl
          · exact later
      | error =>
          have none : (log.remains depth).estimatedCost = 0 := free log List.mem_cons_self status
          have failed : decide (LogStatus.error = LogStatus.ok) = false := rfl
          rw [failed, Bool.false_and, if_neg Bool.false_ne_true, ← later]
          split
          · rw [List.map_cons, List.sum_cons, none, zero_add]
          · rfl

/-- A key authenticates as before; once its expiry is lost, it does not expire any more. -/
theorem authenticateRequest_remains {now : ℚ} {header : Option String} {virtualKeyId : ℤ} :
    authenticateRequest env (remains depth db) now header = .ok virtualKeyId ↔
      depth ≤ 3 ∧ ∃ rawKey key, bearerKey header = some rawKey ∧
        db.getKeyByHash (hashKey env rawKey) = some key ∧ key.isActive = true ∧
          (depth ≤ 2 → isExpired key.expiresAt now = false) ∧ key.id = virtualKeyId := by
  rw [authenticateRequest_eq_ok]
  by_cases above : depth ≤ 3
  · have found (rawKey : String) : (remains depth db).getKeyByHash (hashKey env rawKey) =
        (db.getKeyByHash (hashKey env rawKey)).map (ApiKey.remains depth) :=
      find_remains above _ fun key => rfl
    have expiry (key : ApiKey) : isExpired (key.remains depth).expiresAt now = false ↔
        (depth ≤ 2 → isExpired key.expiresAt now = false) := by
      by_cases kept : depth ≤ 2
      · simp [ApiKey.remains, kept, show ¬ 3 ≤ depth by omega]
      · simp [ApiKey.remains, kept, show 3 ≤ depth by omega, isExpired]
    simp only [above, true_and, found, Option.map_eq_some_iff]
    constructor
    · rintro ⟨rawKey, _, carried, ⟨key, there, rfl⟩, active, current, named⟩
      exact ⟨rawKey, key, carried, there, active, (expiry key).mp current, named⟩
    · rintro ⟨rawKey, key, carried, there, active, current, named⟩
      exact ⟨rawKey, _, carried, ⟨key, there, rfl⟩, active, (expiry key).mpr current, named⟩
  · have empty : (remains depth db).apiKeys = [] := if_pos (by omega)
    simp [Database.getKeyByHash, empty, above]

/-- Without its limit a key may spend without one. -/
theorem enforceKeyCap_remains (below : 1 ≤ depth) (virtualKeyId : ℤ) :
    enforceKeyCap (remains depth db) virtualKeyId = .ok () := by
  have unlimited : keyLimit ((remains depth db).getKeyById virtualKeyId) = none := by
    by_cases above : depth ≤ 3
    · have found : (remains depth db).getKeyById virtualKeyId =
          (db.getKeyById virtualKeyId).map (ApiKey.remains depth) :=
        find_remains above _ fun key => rfl
      rw [found]
      cases db.getKeyById virtualKeyId with
      | none => rfl
      | some key => exact if_pos below
    · have empty : (remains depth db).apiKeys = [] := if_pos (by omega)
      rw [Database.getKeyById, empty]
      rfl
  rw [enforceKeyCap, unlimited]

end Guards

theorem cell_injective {α : Type} {make : α → Cell} (injective : Function.Injective make) :
    Function.Injective (cell make) :=
  Option.map_injective injective

/-- A row stores one key. -/
theorem ApiKey.Stored.unique {row : Row Cell} {first second : ApiKey} (one : ApiKey.Stored row first)
    (other : ApiKey.Stored row second) : first = second := by
  have id := one.id.symm.trans other.id
  have hashedKey := one.hashedKey.symm.trans other.hashedKey
  have clientName := one.clientName.symm.trans other.clientName
  have isActive := one.isActive.symm.trans other.isActive
  have spendLimitUsd := cell_injective (fun _ _ => Cell.numeric.inj)
    (one.spendLimitUsd.symm.trans other.spendLimitUsd)
  have expiresAt := cell_injective (fun _ _ => Cell.instant.inj) (one.expiresAt.symm.trans other.expiresAt)
  have createdAt := one.createdAt.symm.trans other.createdAt
  cases first
  cases second
  simp_all

/-- A row stores one entry of the logs. -/
theorem UsageLog.Stored.unique {row : Row Cell} {first second : UsageLog} (one : UsageLog.Stored row first)
    (other : UsageLog.Stored row second) : first = second := by
  have virtualKeyId := one.virtualKeyId.symm.trans other.virtualKeyId
  have provider := one.provider.symm.trans other.provider
  have model := one.model.symm.trans other.model
  have inputTokens := one.inputTokens.symm.trans other.inputTokens
  have outputTokens := one.outputTokens.symm.trans other.outputTokens
  have latencyMs := one.latencyMs.symm.trans other.latencyMs
  have estimatedCost := one.estimatedCost.symm.trans other.estimatedCost
  have errorType := cell_injective (fun _ _ => Cell.text.inj) (one.errorType.symm.trans other.errorType)
  have status : first.status = second.status := by
    rcases one.status with held | ⟨null, ok⟩ <;> rcases other.status with there | ⟨absent, fine⟩
    · have same : first.status.toString = second.status.toString :=
        Cell.text.inj (Option.some.inj (held.symm.trans there))
      revert same
      cases first.status <;> cases second.status <;> decide
    · cases held.symm.trans absent
    · cases null.symm.trans there
    · rw [ok, fine]
  cases first
  cases second
  simp_all

theorem Versioned.Holds.unique {isoformat : ℚ → String} {s : Versioned} {first second : Database}
    (one : s.Holds isoformat first) (other : s.Holds isoformat second) :
    first.apiKeys = second.apiKeys ∧ first.usageLogs = second.usageLogs :=
  ⟨List.right_unique_forall₂' (R := ApiKey.Stored) (fun _ _ _ => ApiKey.Stored.unique) one.apiKeys
      other.apiKeys,
    List.right_unique_forall₂' (R := UsageLog.Stored) (fun _ _ _ => UsageLog.Stored.unique) one.usageLogs
      other.usageLogs⟩

def expiredKey : ApiKey where
  id := 1
  hashedKey := "e3b0c44298fc1c149afbf4c8996fb92427ae41e4649b934ca495991b7852b855"
  clientName := "demo"
  spendLimitUsd := some (1 / 4)
  expiresAt := some 100
  createdAt := 0

def spentLog : UsageLog :=
  { virtualKeyId := 1, provider := "openai", model := "gpt-4o", estimatedCost := 3 / 10 }

theorem stores_expiredStart (isoformat : ℚ → String) :
    expiredStart.Stores isoformat { apiKeys := [expiredKey], usageLogs := [spentLog] } where
  selectable := by decide +kernel
  apiKeys := .cons ⟨rfl, rfl, rfl, rfl, rfl, rfl, rfl⟩ .nil
  usageLogs := .cons ⟨rfl, rfl, rfl, rfl, rfl, rfl, rfl, .inl rfl, rfl⟩ .nil
  auditLogs := .nil

/-- The selects find their columns at the last revision, and at no other. -/
theorem selectable_iff {s : Versioned} {depth : ℕ} (here : s.At depth) :
    Selectable s.schema.catalog ↔ s.version = versionBelow 0 := by
  rw [here.catalog, here.version]
  have based := here.based
  obtain rfl | rfl | rfl | rfl | rfl : depth = 0 ∨ depth = 1 ∨ depth = 2 ∨ depth = 3 ∨ depth = 4 := by
    omega
  all_goals decide +kernel

/-- **The gateway after a walk** from the last revision and wherever it leads. It reads the database
exactly if the walk has come back to the last revision. As long as the tables were not dropped, every
key has then spent what it had spent, for a failed request is recorded without a cost (`free`). A key
authenticates as before, but for its expiry, which is lost below the second revision: then it does not
expire any more. Its limit is lost with the first downgrade, and no upgrade brings it back. -/
theorem migrated_gateway (isoformat : ℚ → String) (start state : Versioned) (here : start.At 0)
    (db : Database) (stores : start.Stores isoformat db)
    (free : ∀ log ∈ db.usageLogs, log.status = .error → log.estimatedCost = 0) (moves : List Move)
    (reached : run Versioned.migrate start moves = some state) :
    ((∃ migrated, state.Stores isoformat migrated) ↔ state.version = start.version) ∧
      ∀ migrated, state.Stores isoformat migrated →
      ((profile moves).depth ≤ 3 →
        (∀ keyId, migrated.getKeySpendUsd keyId = db.getKeySpendUsd keyId) ∧
          migrated.getGlobalSpendUsd = db.getGlobalSpendUsd) ∧
      (1 ≤ (profile moves).depth → ∀ keyId, enforceKeyCap migrated keyId = .ok ()) ∧
      ∀ env now header keyId, authenticateRequest env migrated now header = .ok keyId ↔
        (profile moves).depth ≤ 3 ∧ ∃ rawKey key, bearerKey header = some rawKey ∧
          db.getKeyByHash (hashKey env rawKey) = some key ∧ key.isActive = true ∧
            ((profile moves).depth ≤ 2 → isExpired key.expiresAt now = false) ∧ key.id = keyId := by
  have held := holds_walk here.sound here.version stores.toHolds reached
  have tracked := run_tracked (fun _ _ move there => migrate_position there move) here moves
  constructor
  · rw [reached] at tracked
    generalize run position 0 moves = place at tracked
    cases tracked with
    | some there =>
        rw [here.version, ← selectable_iff there]
        exact ⟨fun ⟨_, stored⟩ => stored.selectable, fun selectable => ⟨_, held, selectable⟩⟩
  · intro migrated stored
    obtain ⟨apiKeys, usageLogs⟩ := stored.unique held
    -- The guards do not read the audit log.
    cases migrated
    subst apiKeys usageLogs
    exact ⟨fun above =>
        ⟨fun keyId => okLogs_remains above free (some keyId), okLogs_remains above free none⟩,
      fun below keyId => enforceKeyCap_remains below keyId,
      fun env now header keyId => authenticateRequest_remains⟩

/-- The theorem about the expired key: after a walk down to the first revision and back it
authenticates again, and it has no limit any more. -/
theorem migrated_gateway_expired :
    ∃ state, run Versioned.migrate expiredStart [.down, .down, .down, .up, .up, .up] = some state ∧
      (∃ migrated, state.Stores toString migrated) ∧ ∀ migrated, state.Stores toString migrated →
        migrated.getKeySpendUsd 1 = 3 / 10 ∧ enforceKeyCap migrated 1 = .ok () ∧
          authenticateRequest demoEnvironment migrated 200 (some "Bearer sk-demo") = .ok 1 := by
  have performed : (run Versioned.migrate expiredStart [.down, .down, .down, .up, .up, .up]).any
      (fun state => state.version == expiredStart.version) = true := by decide +kernel
  obtain ⟨state, reached, same⟩ := (Option.any_eq_true _ _).mp performed
  obtain ⟨readable, guards⟩ := migrated_gateway toString expiredStart state at_expiredStart _
    (stores_expiredStart toString) (by decide +kernel) _ reached
  refine ⟨state, reached, readable.mpr (beq_iff_eq.mp same), fun migrated stored => ?_⟩
  obtain ⟨spent, capped, authenticates⟩ := guards migrated stored
  refine ⟨((spent (by decide)).1 1).trans (by decide +kernel), capped (by decide) 1,
    (authenticates demoEnvironment 200 _ 1).mpr ⟨by decide, "sk-demo", expiredKey, by decide +kernel,
      by decide +kernel, rfl, fun kept => absurd kept (by decide), rfl⟩⟩

end LlmGateway
