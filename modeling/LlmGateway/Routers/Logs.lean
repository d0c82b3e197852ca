import LlmGateway.Storage.Logs

/-!
# The logs endpoint

`GET /api/logs` of `routers/logs.py`, past its guard. The query is a validated one; the page and
the total are read one after the other, so the table may have grown in between.
-/

set_option autoImplicit false

namespace LlmGateway

open LlmGateway.Library

/-- The parameters of the query, within their bounds. -/
structure LogsQuery where
  limit : ℕ := 100
  offset : ℕ := 0
  status : Option LogStatus := none
  model : Option String := none
  provider : Option String := none
  positive : 1 ≤ limit
  bounded : limit ≤ 500

def LogsQuery.filter (query : LogsQuery) : LogFilter where
  status := query.status.map LogStatus.toString
  model := query.model
  provider := query.provider

/-- One entry of `logs`. -/
structure LogEntry where
  id : ℤ
  timestamp : ℚ
  provider : String
  model : String
  inputTokens : ℤ
  outputTokens : ℤ
  totalTokens : ℤ
  latencyMs : ℕ
  estimatedCost : ℚ
  status : LogStatus
  errorType : Option String
deriving DecidableEq

def LogEntry.ofRow (log : LogRow) : LogEntry where
  id := log.id
  timestamp := log.timestamp
  provider := log.provider
  model := log.model
  inputTokens := log.inputTokens
  outputTokens := log.outputTokens
  totalTokens := log.inputTokens + log.outputTokens
  latencyMs := log.latencyMs
  estimatedCost := log.estimatedCost
  status := log.status
  errorType := log.errorType

/-- The body of the answer. -/
structure LogsPage where
  total : ℕ
  logs : List LogEntry

/-- `list_logs`, on the table as it is when the page is read and when the rows are counted. -/
def listLogs (listed counted : LogTable) (query : LogsQuery) : LogsPage where
  logs := (listUsageLogs listed query.limit query.filter query.offset).map LogEntry.ofRow
  total := countUsageLogs counted query.filter

/-- The total tells when to stop, if nothing is written in between. -/
theorem listLogs_nil_iff (table : LogTable) (query : LogsQuery) :
    (listLogs table table query).logs = [] ↔ (listLogs table table query).total ≤ query.offset := by
  rw [listLogs, List.map_eq_nil_iff]
  exact Paging.slice_eq_nil_iff query.positive

/-- Rows that are written in between are counted, so the total is never too small. -/
theorem length_listLogs_le {listed counted : LogTable} (query : LogsQuery)
    (grown : listed.rows ⊆ counted.rows) :
    (listLogs listed counted query).logs.length ≤ (listLogs listed counted query).total := by
  have more : listed.matching query.filter ⊆ counted.matching query.filter := by
    intro row member
    rw [LogTable.mem_matching] at member ⊢
    exact ⟨grown member.1, member.2⟩
  have distinct := List.Nodup.of_map LogRow.id (listed.matching_distinct query.filter)
  calc (listLogs listed counted query).logs.length
      ≤ (listed.matching query.filter).length := by
        rw [listLogs, List.length_map, LogTable.listUsageLogs_eq, Paging.slice, List.length_take,
          List.length_drop, Paging.length_arranged]
        exact (min_le_right _ _).trans (Nat.sub_le _ _)
    _ ≤ (counted.matching query.filter).length :=
        (List.subperm_of_subset distinct more).length_le

end LlmGateway
