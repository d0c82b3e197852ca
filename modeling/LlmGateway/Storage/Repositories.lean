import LlmGateway.Services.Usage
import Mathlib.Algebra.BigOperators.Group.List.Basic
import Mathlib.Algebra.Order.BigOperators.Group.List

/-!
# The database

The tables of `storage/orm.py` and the functions of `storage/repositories.py` that the
endpoints of the gateway use. Each function is one transaction, so it takes the database of
its moment and gives the one it commits.

Amounts are exact: a `NUMERIC` column keeps a fixed number of decimal places, and a sum of
amounts is not rounded. A time is a number of seconds; one without a time zone is UTC.
-/

set_option autoImplicit false

namespace LlmGateway

open LlmGateway.Library

/-! ## Tables -/

/-- `ApiKey`, a row of `api_keys`. -/
structure ApiKey where
  id : ℤ
  hashedKey : String
  clientName : String
  isActive : Bool := true
  spendLimitUsd : Option ℚ
  expiresAt : Option ℚ
  createdAt : ℚ
deriving DecidableEq

/-- The `status` of a row of `usage_logs`. -/
inductive LogStatus where
  | ok
  | error
deriving DecidableEq

/-- `UsageLog`, a row of `usage_logs`. -/
structure UsageLog where
  virtualKeyId : ℤ
  provider : String := ""
  model : String := ""
  inputTokens : ℤ := 0
  outputTokens : ℤ := 0
  latencyMs : ℕ := 0
  estimatedCost : ℚ := 0
  status : LogStatus := .ok
  errorType : Option String := none
deriving DecidableEq

/-- The `action` of an audit entry. -/
inductive AuditAction where
  | keyCreated
  | keyRevoked
deriving DecidableEq

/-- What the `detail` of an audit entry names. -/
structure AuditDetail where
  expiresAt : Option ℚ := none
  spendLimitUsd : Option ℚ := none
deriving DecidableEq

/-- Its text, if it names anything; that of a moment is a parameter. -/
def AuditDetail.text (isoformat : ℚ → String) (detail : AuditDetail) : Option String :=
  match (detail.expiresAt.map fun expiry => "expires_at=" ++ isoformat expiry).toList ++
      (detail.spendLimitUsd.map fun limit => "spend_limit_usd=" ++ Decimal.str 2 limit).toList with
  | [] => none
  | parts => some ("; ".intercalate parts)

/-- `AuditLog`, a row of `audit_logs`. -/
structure AuditLog where
  action : AuditAction
  virtualKeyId : ℤ
  clientName : String
  detail : AuditDetail := {}
deriving DecidableEq

/-- The three tables, the rows of each in the order of their ids. -/
structure Database where
  apiKeys : List ApiKey := []
  usageLogs : List UsageLog := []
  auditLogs : List AuditLog := []
deriving DecidableEq

namespace Database

variable (db : Database)

/-! ## Keys -/

/-- `get_key_by_hash`. -/
def getKeyByHash (keyHash : String) : Option ApiKey :=
  db.apiKeys.find? fun key => key.hashedKey == keyHash

/-- `get_key_by_id`. -/
def getKeyById (keyId : ℤ) : Option ApiKey := db.apiKeys.find? fun key => key.id == keyId

/-- `list_keys`. -/
def listKeys : List ApiKey := db.apiKeys

/-- Inserting a row into `api_keys`. The id and the digest of a key are unique in the table. -/
def insertKey (key : ApiKey) : Option Database :=
  if (db.getKeyByHash key.hashedKey).isSome ∨ (db.getKeyById key.id).isSome then none
  else some { db with apiKeys := db.apiKeys ++ [key] }

/-- `deactivate_key`: the updated row with the database, or nothing without such a key. -/
def deactivateKey (keyId : ℤ) : Option (ApiKey × Database) :=
  (db.getKeyById keyId).map fun key =>
    ({ key with isActive := false },
      { db with
        apiKeys := db.apiKeys.map fun other =>
          if other.id = keyId then { other with isActive := false } else other })

/-- `create_audit_log`. -/
def createAuditLog (entry : AuditLog) : Database := { db with auditLogs := db.auditLogs ++ [entry] }

/-! ## Usage -/

/-- The successful rows that count for a virtual key, or all of them. -/
def okLogs (keyId : Option ℤ) : List UsageLog :=
  db.usageLogs.filter fun row =>
    decide (row.status = .ok) && keyId.all fun id => decide (row.virtualKeyId = id)

/-- `get_key_spend_usd`. -/
def getKeySpendUsd (keyId : ℤ) : ℚ := ((db.okLogs (some keyId)).map UsageLog.estimatedCost).sum

/-- `get_global_spend_usd`. -/
def getGlobalSpendUsd : ℚ := ((db.okLogs none).map UsageLog.estimatedCost).sum

/-- `create_usage_log`. -/
def createUsageLog (data : UsageLog) : Database :=
  { db with
    usageLogs := db.usageLogs ++
      [{ data with estimatedCost := Decimal.column 6 data.estimatedCost }] }

/-- `create_failed_usage_log`. -/
def createFailedUsageLog (virtualKeyId : ℤ) (provider model : String) (latencyMs : ℕ)
    (errorType : String) : Database :=
  { db with
    usageLogs := db.usageLogs ++
      [{ virtualKeyId, provider, model, latencyMs, status := .error,
         errorType := some errorType }] }

/-- The row that `persist_usage` gives to `create_usage_log`. -/
def usageLogData (record : UsageRecord) : UsageLog where
  virtualKeyId := record.virtualKeyId
  provider := record.provider
  model := record.model
  inputTokens := record.inputTokens
  outputTokens := record.outputTokens
  latencyMs := record.latencyMs
  estimatedCost := record.estimatedCost

/-- `persist_usage`, when the database takes the row. When it does not, the failure is logged
and nothing is written. -/
def persistUsage (record : UsageRecord) : Database := db.createUsageLog (usageLogData record)

/-- A background task that has committed its row. -/
def perform : UsageTask → Database
  | .persistUsage record => db.persistUsage record
  | .createFailedUsageLog virtualKeyId provider model latencyMs errorType =>
      db.createFailedUsageLog virtualKeyId provider model latencyMs errorType

end Database

end LlmGateway
