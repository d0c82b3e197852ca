import LlmGateway.Library.Paging
import LlmGateway.Library.Runs
import LlmGateway.Storage.Repositories

/-!
# Reading the logs

The rows of `usage_logs` with their ids, and `list_usage_logs` and `count_usage_logs` of
`storage/repositories.py`.

A reader that pages through the logs takes them `limit` at a time, from the newest down, until it
gets an empty page. Rows may be written in between (`LogReader.step`). Whatever is written, the
reader gets every matching row that was there at the start (`Progress`); and if nothing is written,
its pages are the matching rows in descending order of their ids, one after the other (`Continues`).
-/

set_option autoImplicit false

namespace LlmGateway

open LlmGateway.Library

/-! ## The table -/

def LogStatus.toString : LogStatus → String
  | ok => "ok"
  | error => "error"

/-- A row of `usage_logs` as it is stored. -/
structure LogRow extends UsageLog where
  id : ℤ
  timestamp : ℚ
deriving DecidableEq

/-- `usage_logs`: no two rows have one id. -/
structure LogTable where
  rows : List LogRow
  distinct : (rows.map LogRow.id).Nodup

namespace LogTable

def empty : LogTable := ⟨[], List.nodup_nil⟩

/-- Inserting a row. -/
def insert (table : LogTable) (row : LogRow) : Option LogTable :=
  if fresh : row.id ∈ table.rows.map LogRow.id then none
  else some ⟨row :: table.rows, List.nodup_cons.mpr ⟨fresh, table.distinct⟩⟩

end LogTable

/-- The filters of a query; nothing stands for any value. -/
structure LogFilter where
  status : Option String := none
  model : Option String := none
  provider : Option String := none

/-- `stmt.where(column == value)`, if a value is given. -/
def whereEqual (column : LogRow → String) (value : Option String) (rows : List LogRow) :
    List LogRow :=
  match value with
  | none => rows
  | some text => rows.filter fun row => column row == text

/-- `list_usage_logs`. -/
def listUsageLogs (table : LogTable) (limit : ℕ) (filter : LogFilter) (offset : ℕ) : List LogRow :=
  let stmt := table.rows
  let stmt := whereEqual (fun row => row.status.toString) filter.status stmt
  let stmt := whereEqual (fun row => row.model) filter.model stmt
  let stmt := whereEqual (fun row => row.provider) filter.provider stmt
  Paging.slice LogRow.id stmt limit offset

/-- `count_usage_logs`. -/
def countUsageLogs (table : LogTable) (filter : LogFilter) : ℕ :=
  let stmt := table.rows
  let stmt := whereEqual (fun row => row.status.toString) filter.status stmt
  let stmt := whereEqual (fun row => row.model) filter.model stmt
  let stmt := whereEqual (fun row => row.provider) filter.provider stmt
  stmt.length

/-- A value is any, or the one that is given. -/
def Meets (value : Option String) (text : String) : Prop := ∀ wanted, value = some wanted → text = wanted

/-- The row matches the filters. -/
structure LogFilter.Matches (filter : LogFilter) (row : LogRow) : Prop where
  status : Meets filter.status row.status.toString
  model : Meets filter.model row.model
  provider : Meets filter.provider row.provider

theorem mem_whereEqual {column : LogRow → String} {value : Option String} {rows : List LogRow}
    {row : LogRow} : row ∈ whereEqual column value rows ↔ row ∈ rows ∧ Meets value (column row) := by
  cases value with
  | none => simp [whereEqual, Meets]
  | some text => simp [whereEqual, Meets]

theorem whereEqual_sublist (column : LogRow → String) (value : Option String) (rows : List LogRow) :
    (whereEqual column value rows).Sublist rows := by
  cases value with
  | none => exact List.Sublist.refl rows
  | some text => exact List.filter_sublist

namespace LogTable

variable (table : LogTable) (filter : LogFilter)

/-- The rows that match the filters. -/
def matching : List LogRow :=
  whereEqual (fun row => row.provider) filter.provider
    (whereEqual (fun row => row.model) filter.model
      (whereEqual (fun row => row.status.toString) filter.status table.rows))

theorem listUsageLogs_eq (limit offset : ℕ) :
    listUsageLogs table limit filter offset =
      Paging.slice LogRow.id (table.matching filter) limit offset := rfl

theorem mem_matching {row : LogRow} :
    row ∈ table.matching filter ↔ row ∈ table.rows ∧ filter.Matches row := by
  rw [matching, mem_whereEqual, mem_whereEqual, mem_whereEqual]
  exact ⟨fun ⟨⟨⟨member, status⟩, model⟩, provider⟩ => ⟨member, status, model, provider⟩,
    fun ⟨member, status, model, provider⟩ => ⟨⟨⟨member, status⟩, model⟩, provider⟩⟩

theorem matching_distinct : ((table.matching filter).map LogRow.id).Nodup := by
  have kept : (table.matching filter).Sublist table.rows :=
    ((whereEqual_sublist _ _ _).trans (whereEqual_sublist _ _ _)).trans (whereEqual_sublist _ _ _)
  exact (kept.map LogRow.id).nodup table.distinct

variable {table filter}

theorem insert_grows {row : LogRow} {next : LogTable} (inserted : table.insert row = some next) :
    table.matching filter ⊆ next.matching filter := by
  unfold insert at inserted
  split_ifs at inserted
  obtain rfl := Option.some.inj inserted
  intro other member
  rw [mem_matching] at member ⊢
  exact ⟨List.mem_cons_of_mem row member.1, member.2⟩

end LogTable

/-! ## The rows of the database -/

/-- The row that a background task writes. -/
def UsageTask.row : UsageTask → UsageLog
  | .persistUsage record =>
      { Database.usageLogData record with
        estimatedCost := Decimal.column 6 record.estimatedCost }
  | .createFailedUsageLog virtualKeyId provider model latencyMs errorType =>
      { virtualKeyId, provider, model, latencyMs, status := .error, errorType := some errorType }

theorem Database.perform_row (db : Database) (task : UsageTask) :
    (db.perform task).usageLogs = db.usageLogs ++ [task.row] := by
  cases task <;> rfl

/-- The table holds the rows of the database, which are in the order of their ids. -/
def Database.Stores (db : Database) (table : LogTable) : Prop :=
  (Paging.arranged LogRow.id table.rows).reverse.map LogRow.toUsageLog = db.usageLogs

/-- **A task writes a row of the table**, under an id that is larger than all before. -/
theorem Database.Stores.perform {db : Database} {table next : LogTable} {row : LogRow}
    {task : UsageTask} (stores : db.Stores table) (written : row.toUsageLog = task.row)
    (increasing : ∀ other ∈ table.rows, other.id < row.id)
    (inserted : table.insert row = some next) : (db.perform task).Stores next := by
  unfold LogTable.insert at inserted
  split_ifs at inserted
  obtain rfl := Option.some.inj inserted
  rw [Stores, Paging.arranged_cons increasing, List.reverse_cons, List.map_append, stores,
    db.perform_row, ← written]
  rfl

/-! ## A reader -/

/-- A reader with the pages that it has read, and the table as it is now. -/
structure LogReader where
  table : LogTable
  offset : ℕ := 0
  pages : List (List LogRow) := []

inductive LogAction where
  | insert (row : LogRow)
  | read

namespace LogReader

variable (limit : ℕ) (filter : LogFilter)

/-- Before the first page. -/
def start (table : LogTable) : LogReader := { table }

/-- The reader has read an empty page. -/
def Finished (reader : LogReader) : Prop := reader.pages.getLast? = some []

instance (reader : LogReader) : Decidable reader.Finished :=
  inferInstanceAs (Decidable (reader.pages.getLast? = some []))

/-- The reader after its next page. -/
def turnPage (reader : LogReader) : LogReader :=
  { reader with
    offset := reader.offset + limit
    pages := reader.pages ++ [listUsageLogs reader.table limit filter reader.offset] }

/-- **One step**: a row is written, or the reader reads its next page, unless the last one was
empty. -/
def step (reader : LogReader) : LogAction → Option LogReader
  | .insert row => (reader.table.insert row).map fun table => { reader with table }
  | .read => if reader.Finished then none else some (reader.turnPage limit filter)

variable {limit filter}

theorem finished_turnPage {reader : LogReader} : (reader.turnPage limit filter).Finished ↔
    listUsageLogs reader.table limit filter reader.offset = [] := by
  rw [Finished, turnPage, List.getLast?_append, List.getLast?_singleton]
  simp

/-! ### Rows that are written in between -/

/-- A row of the start has been read, or it is ahead of the reader, who has not finished. -/
structure Progress (filter : LogFilter) (row : LogRow) (reader : LogReader) : Prop where
  stored : row ∈ reader.table.matching filter
  reached : (∃ page ∈ reader.pages, row ∈ page) ∨
    ¬ reader.Finished ∧
      reader.offset ≤ Paging.ahead LogRow.id (reader.table.matching filter) row.id

theorem progress_step (positive : 0 < limit) {row : LogRow} {reader next : LogReader}
    {action : LogAction} (progress : Progress filter row reader)
    (moved : reader.step limit filter action = some next) : Progress filter row next := by
  cases action with
  | insert new =>
      obtain ⟨table, inserted, rfl⟩ := Option.map_eq_some_iff.mp moved
      have grows : reader.table.matching filter ⊆ table.matching filter :=
        LogTable.insert_grows inserted
      refine ⟨grows progress.stored, progress.reached.imp_right fun ⟨open_, before⟩ => ⟨open_, ?_⟩⟩
      exact before.trans (Paging.ahead_mono (reader.table.matching_distinct filter) grows row.id)
  | read =>
      simp only [step] at moved
      split_ifs at moved
      obtain rfl := Option.some.inj moved
      refine ⟨progress.stored, ?_⟩
      rcases progress.reached with ⟨page, read, inside⟩ | ⟨-, before⟩
      · exact .inl ⟨page, List.mem_append_left _ read, inside⟩
      · have next : row ∈ Paging.slice LogRow.id (reader.table.matching filter) limit reader.offset ∨
            reader.offset + limit ≤ Paging.ahead LogRow.id (reader.table.matching filter) row.id :=
          Paging.mem_slice_or_ahead (reader.table.matching_distinct filter) progress.stored before
        rcases next with inside | later
        · exact .inl ⟨_, List.mem_append_right _ (List.mem_singleton_self _), inside⟩
        · refine .inr ⟨fun finished => ?_, later⟩
          have empty := finished_turnPage.mp finished
          exact Paging.not_ahead_of_nil positive progress.stored empty before

theorem progress_run (positive : 0 < limit) {table : LogTable} {row : LogRow}
    (member : row ∈ table.matching filter) {actions : List LogAction} {reader : LogReader}
    (reached : run (step limit filter) (start table) actions = some reader) :
    Progress filter row reader :=
  invariant_of_step ⟨member, .inr ⟨by simp [Finished, start], Nat.zero_le _⟩⟩
    (fun _ _ _ progress moved => progress_step positive progress moved) reached

/-! ### Nothing is written in between -/

/-- The pages of a reader continue one another. -/
structure Continues (filter : LogFilter) (table : LogTable) (reader : LogReader) : Prop where
  same : reader.table = table
  pages : reader.pages.flatten =
    (Paging.arranged LogRow.id (table.matching filter)).take reader.offset
  whole : reader.Finished → countUsageLogs table filter ≤ reader.offset

theorem continues_step (positive : 0 < limit) {table : LogTable} {reader next : LogReader}
    (continues : Continues filter table reader)
    (moved : reader.step limit filter .read = some next) : Continues filter table next := by
  simp only [step] at moved
  split_ifs at moved
  obtain rfl := Option.some.inj moved
  obtain ⟨rfl, pages, -⟩ := continues
  refine ⟨rfl, ?_, fun finished => ?_⟩
  · rw [turnPage, List.flatten_append, List.flatten_singleton, pages]
    exact Paging.take_append_slice _ limit reader.offset
  · have empty := finished_turnPage.mp finished
    have short := (Paging.slice_eq_nil_iff positive).mp empty
    exact short.trans (Nat.le_add_right _ limit)

theorem continues_run (positive : 0 < limit) {table : LogTable} {reads : ℕ} {reader : LogReader}
    (reached : run (step limit filter) (start table) (List.replicate reads .read) = some reader) :
    Continues filter table reader := by
  refine invariant (C := fun _ action _ => action = LogAction.read)
    ⟨rfl, by simp [start], by simp [Finished, start]⟩ ?_
    (throughout_of_actions (fun action member => List.eq_of_mem_replicate member) _) reached
  rintro state action next continues moved rfl
  exact continues_step positive continues moved

/-- Where nothing is written the reader comes to an end. -/
theorem finishes (positive : 0 < limit) (rows : ℕ) {reader : LogReader}
    (running : ¬ reader.Finished) (left : countUsageLogs reader.table filter ≤ reader.offset + rows) :
    ∃ reads last, run (step limit filter) reader (List.replicate reads .read) = some last ∧
      last.Finished := by
  have moved : reader.step limit filter .read = some (reader.turnPage limit filter) :=
    if_neg running
  induction rows generalizing reader with
  | zero =>
      refine ⟨1, reader.turnPage limit filter, ?_, finished_turnPage.mpr ?_⟩
      · rw [List.replicate_one, run, moved]
        rfl
      · exact (Paging.slice_eq_nil_iff positive).mpr left
  | succ rows ih =>
      by_cases finished : (reader.turnPage limit filter).Finished
      · refine ⟨1, reader.turnPage limit filter, ?_, finished⟩
        rw [List.replicate_one, run, moved]
        rfl
      · have rest : countUsageLogs (reader.turnPage limit filter).table filter ≤
            (reader.turnPage limit filter).offset + rows := by
          simp only [turnPage]
          omega
        obtain ⟨reads, last, reached, finished⟩ := ih finished rest (if_neg finished)
        refine ⟨reads + 1, last, ?_, finished⟩
        rw [List.replicate_succ, run, moved]
        exact reached

end LogReader

open LogReader in
/-- **Paging the logs.** Whatever is written while the pages are read, the reader who gets an empty
page has read every matching row of the start. If nothing is written, there is such a page, and up
to it the pages have no row in common, are in descending order, and are as long together as
`count_usage_logs` says. -/
theorem paging_skips_nothing {limit : ℕ} (positive : 1 ≤ limit) (filter : LogFilter)
    (table : LogTable) :
    (∀ actions reader, run (step limit filter) (start table) actions = some reader →
      reader.Finished → ∀ row ∈ table.rows, filter.Matches row → ∃ page ∈ reader.pages, row ∈ page) ∧
    (∀ reads reader, run (step limit filter) (start table) (List.replicate reads .read) = some reader →
      reader.Finished →
        reader.pages.flatten.Pairwise (fun first second => second.id < first.id) ∧
        reader.pages.Pairwise List.Disjoint ∧
        (reader.pages.map List.length).sum = countUsageLogs table filter) ∧
    ∃ reads reader, run (step limit filter) (start table) (List.replicate reads .read) = some reader ∧
      reader.Finished := by
  refine ⟨?_, ?_, ?_⟩
  · intro actions reader reached finished row member matched
    have progress := progress_run positive ((table.mem_matching filter).mpr ⟨member, matched⟩) reached
    exact progress.reached.resolve_right fun ⟨running, _⟩ => running finished
  · intro reads reader reached finished
    obtain ⟨-, pages, whole⟩ := continues_run positive reached
    have all : reader.pages.flatten = Paging.arranged LogRow.id (table.matching filter) := by
      rw [pages, List.take_of_length_le]
      rw [Paging.length_arranged]
      exact whole finished
    have strict := Paging.arranged_strict (table.matching_distinct filter)
    refine ⟨all ▸ strict, ?_, ?_⟩
    · have distinct : reader.pages.flatten.Nodup :=
        all ▸ strict.imp fun before same => absurd (congrArg LogRow.id same) before.ne'
      exact (List.nodup_flatten.mp distinct).2
    · rw [← List.length_flatten, all, Paging.length_arranged]
      rfl
  · exact finishes positive (countUsageLogs table filter) (by simp [Finished, start])
      (by simp [start])

/-- Three rows of one provider. -/
def demoRow (id : ℤ) : LogRow := { virtualKeyId := 1, provider := "openai", id, timestamp := id }

def demoLogs : LogTable := ⟨[demoRow 1, demoRow 2], by decide⟩

/-- A row is written after the first page, and pushes the others back. -/
def interrupted : List LogAction := [.read, .insert (demoRow 3), .read, .read, .read]

theorem paging_skips_nothing_interrupted :
    ∃ reader, run (LogReader.step 1 {}) (.start demoLogs) interrupted = some reader ∧
      ∃ page ∈ reader.pages, demoRow 1 ∈ page := by
  have ended : (run (LogReader.step 1 {}) (.start demoLogs) interrupted).any
      (fun reader => decide reader.Finished) = true := by decide +kernel
  obtain ⟨reader, reached, finished⟩ := (Option.any_eq_true _ _).mp ended
  refine ⟨reader, reached, ?_⟩
  exact (paging_skips_nothing (le_refl 1) {} demoLogs).1 interrupted reader reached
    (of_decide_eq_true finished) (demoRow 1) List.mem_cons_self
    ⟨by simp [Meets], by simp [Meets], by simp [Meets]⟩

end LlmGateway
