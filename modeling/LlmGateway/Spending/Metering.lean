import LlmGateway.Library.Pipeline
import LlmGateway.Services.PrometheusMetrics
import LlmGateway.Storage.Logs

/-!
# The counters and the table

The usage of a request is recorded twice: `record_usage` and `record_failure` count it at once in the
process, and a background task writes its row of `usage_logs` at some later time, if nothing comes in
between. Any number of processes do so over one table.

What the counters of all processes are incremented by is what the table has gained, and what the table
is still missing: the rows that are not written yet, those that never will be, and the records whose
counters raised before a row was scheduled. A counter shows a double (`PrometheusCounter`), so requests
and tokens are shown exactly as long as they have 53 bits; a cost in the table is rounded, so that the
increments of the costs agree to half a millionth of a dollar for each row (`metrics_reconcile`).
-/

set_option autoImplicit false

namespace LlmGateway

open LlmGateway.Library
open PrometheusMetrics (safe modelLabel increment)

/-! ## Processes -/

/-- A process: its counters, the tasks that it has scheduled, and the records whose metrics raised. -/
structure Worker where
  metrics : Metrics := {}
  tasks : Pipeline UsageTask := {}
  refused : List UsageRecord := []

namespace Worker

variable (w : Worker)

/-- `emit_metric(record)`, then `_fire_and_forget(persist_usage(record))`. -/
def usage (record : UsageRecord) : Worker :=
  match PrometheusMetrics.recordUsage record w.metrics with
  | .ok _ metrics => { w with metrics, tasks := w.tasks.take (.persistUsage record) }
  | .error _ metrics => { w with metrics, refused := w.refused ++ [record] }

/-- `record_failed_request`. -/
def failure (virtualKeyId : ℤ) (provider model : String) (latencyMs : ℕ) (errorType : String) : Worker :=
  match PrometheusMetrics.recordFailure provider model errorType w.metrics with
  | .ok _ metrics =>
      { w with
        metrics
        tasks := w.tasks.take (.createFailedUsageLog virtualKeyId provider model latencyMs errorType) }
  | .error _ metrics => { w with metrics }

end Worker

/-- The database, and all processes, each named by its place. -/
structure Metering where
  db : Database
  workers : List Worker

/-- Before the first request of so many processes. -/
def Metering.init (processes : ℕ) (db : Database) : Metering := ⟨db, List.replicate processes {}⟩

/-- A task is committed, or it is lost: the database refuses its row, or the process stops. -/
inductive MeteringAction where
  | usage (worker : ℕ) (record : UsageRecord)
  | failure (worker : ℕ) (virtualKeyId : ℤ) (provider model : String) (latencyMs : ℕ) (errorType : String)
  | commit (worker task : ℕ)
  | lose (worker task : ℕ)
  | administer (apiKeys : List ApiKey)

namespace Metering

variable (m : Metering)

/-- **One step.** -/
def step : MeteringAction → Option Metering
  | .usage worker record =>
      m.workers[worker]?.map fun w => { m with workers := m.workers.set worker (w.usage record) }
  | .failure worker virtualKeyId provider model latencyMs errorType =>
      m.workers[worker]?.map fun w =>
        { m with
          workers := m.workers.set worker
            (w.failure virtualKeyId provider model latencyMs errorType) }
  | .commit worker task =>
      m.workers[worker]?.bind fun w => (w.tasks.finish task).map fun (done, tasks) =>
        ⟨m.db.perform done, m.workers.set worker { w with tasks }⟩
  | .lose worker task =>
      m.workers[worker]?.bind fun w => (w.tasks.lose task).map fun tasks =>
        { m with workers := m.workers.set worker { w with tasks } }
  | .administer apiKeys => some { m with db := { m.db with apiKeys } }

end Metering

/-! ## Counters -/

/-- The labels of a counter, or of the histogram. -/
inductive Series where
  | requests (provider model status : String)
  | tokens (provider direction : String)
  | cost (provider : String)
  | latency (provider : String)
deriving DecidableEq

/-- The series counts requests or tokens. -/
def Series.Counts : Series → Prop
  | requests _ _ _ | tokens _ _ => True
  | cost _ | latency _ => False

namespace Sample

/-- The series that an increment belongs to. -/
def series : Sample → Series
  | request provider model status => .requests provider model status
  | tokens provider direction _ => .tokens provider direction
  | cost provider _ => .cost provider
  | latency provider _ => .latency provider

/-- What it is incremented by; a cost is the decimal of the record, before it becomes a double. -/
def amount : Sample → ℚ
  | request _ _ _ => 1
  | tokens _ _ amount => amount
  | cost _ amount => amount
  | latency _ seconds => seconds

end Sample

namespace Metrics

variable (metrics : Metrics)

/-- The series that a process has. -/
def series : List Series := (metrics.samples.map Sample.series).dedup

/-- The increments of a series. -/
def increments (series : Series) : List Sample := metrics.samples.filter fun sample => sample.series = series

/-- Their sum. -/
def total (series : Series) : ℚ := tally Sample.amount (metrics.increments series)

end Metrics

/-- A counter of `prometheus_client`: what it shows after its increments. That is a double, and whole
numbers whose sum has 53 bits at most are added up exactly. -/
structure PrometheusCounter where
  shows : List ℚ → Double
  exact : ∀ amounts : List ℕ, amounts.sum < 2 ^ 53 →
    shows (amounts.map (Nat.cast : ℕ → ℚ)) = .finite amounts.sum

/-- The counter that adds one double after the other. -/
def doubleCounter : PrometheusCounter where
  shows amounts := amounts.foldl (fun value amount => value.add (.ofRat amount)) (.finite 0)
  exact amounts small := by
    have whole := Double.foldl_add_natCast amounts 0 (by rwa [zero_add])
    rwa [Nat.cast_zero, zero_add] at whole

/-! ## Gauges -/

/-- What is measured: the series that are added up, and what they make of a task, of a record whose
metrics raised, and of a row. -/
structure Gauge where
  covers : Series → Bool
  task : UsageTask → ℚ
  refusal : UsageRecord → ℚ
  row : UsageLog → ℚ

/-- What an increment adds. -/
def Gauge.sample (gauge : Gauge) (sample : Sample) : ℚ :=
  if gauge.covers sample.series then sample.amount else 0

namespace Gauge

variable (provider : String)

/-- `llm_gateway_requests_total` for the successes of a provider with a model. -/
def served (model : String) : Gauge where
  covers
    | .requests other name status => other = provider ∧ name = model ∧ status = "ok"
    | _ => false
  task
    | .persistUsage record => if safe record.provider = provider ∧ safe record.model = model then 1 else 0
    | _ => 0
  refusal record := if safe record.provider = provider ∧ safe record.model = model then 1 else 0
  row row :=
    if row.status = .ok ∧ safe row.provider = provider ∧ safe row.model = model then 1 else 0

/-- The same counter for the failures of a provider with a type. -/
def failed (errorType : String) : Gauge where
  covers
    | .requests other _ status => other = provider ∧ status = "error:" ++ errorType
    | _ => false
  task
    | .createFailedUsageLog _ other _ _ type => if safe other = provider ∧ type = errorType then 1 else 0
    | _ => 0
  refusal _ := 0
  row row :=
    if row.status = .error ∧ safe row.provider = provider ∧ row.errorType = some errorType then 1 else 0

/-- `llm_gateway_tokens_total` for the input of a provider. -/
def input : Gauge where
  covers
    | .tokens other direction => other = provider ∧ direction = "input"
    | _ => false
  task
    | .persistUsage record => if safe record.provider = provider then record.inputTokens else 0
    | _ => 0
  refusal record :=
    if safe record.provider = provider ∧ FitsCounter record.inputTokens then record.inputTokens else 0
  row row := if safe row.provider = provider then row.inputTokens else 0

/-- The same counter for its output. -/
def output : Gauge where
  covers
    | .tokens other direction => other = provider ∧ direction = "output"
    | _ => false
  task
    | .persistUsage record => if safe record.provider = provider then record.outputTokens else 0
    | _ => 0
  refusal record :=
    if safe record.provider = provider ∧ FitsCounter record.inputTokens ∧
        FitsCounter record.outputTokens then
      record.outputTokens
    else 0
  row row := if safe row.provider = provider then row.outputTokens else 0

/-- `llm_gateway_estimated_cost_usd` for a provider. -/
def cost : Gauge where
  covers
    | .cost other => other = provider
    | _ => false
  task
    | .persistUsage record => if safe record.provider = provider then record.estimatedCost else 0
    | _ => 0
  refusal _ := 0
  row row := if safe row.provider = provider then row.estimatedCost else 0

end Gauge

/-! ## What is counted -/

/-- The increments of `record_usage`, up to the first one that is refused. -/
def recordedSamples (record : UsageRecord) : List Sample :=
  .request (safe record.provider) (safe record.model) "ok" ::
    if FitsCounter record.inputTokens then
      .tokens (safe record.provider) "input" record.inputTokens ::
        if FitsCounter record.outputTokens then
          .tokens (safe record.provider) "output" record.outputTokens ::
            if (Double.ofRat record.estimatedCost).isNegative then []
            else
              [.cost (safe record.provider) record.estimatedCost,
                .latency (safe record.provider) (record.latencyMs / 1000)]
        else []
    else []

theorem incrementTokens_refused {amount : ℤ} (unfit : ¬ FitsCounter amount) :
    ∃ exception, incrementTokens amount = .error exception := by
  cases counted : incrementTokens amount with
  | ok => exact absurd (incrementTokens_ok_iff.mp counted) unfit
  | error exception => exact ⟨exception, rfl⟩

theorem recordUsage_samples (record : UsageRecord) (metrics : Metrics) :
    (stateAfter (PrometheusMetrics.recordUsage record metrics)).samples =
      metrics.samples ++ recordedSamples record := by
  rw [recordUsage_apply]
  by_cases input : FitsCounter record.inputTokens
  swap
  · obtain ⟨exception, refused⟩ := incrementTokens_refused input
    rw [bind_of_error (increment_refused refused _)]
    simp [stateAfter, recordedSamples, input]
  rw [bind_of_ok (increment_apply (incrementTokens_ok_iff.mpr input) _)]
  by_cases output : FitsCounter record.outputTokens
  swap
  · obtain ⟨exception, refused⟩ := incrementTokens_refused output
    rw [bind_of_error (increment_refused refused _)]
    simp [stateAfter, recordedSamples, input, output]
  rw [bind_of_ok (increment_apply (incrementTokens_ok_iff.mpr output) _)]
  cases cost : (Double.ofRat record.estimatedCost).isNegative with
  | true =>
      have refused : incrementCost record.estimatedCost = .error .valueError := if_pos cost
      rw [bind_of_error (increment_refused refused _)]
      simp [stateAfter, recordedSamples, input, output, cost]
  | false =>
      have counted : incrementCost record.estimatedCost = .ok () := if_neg (by simp [cost])
      rw [bind_of_ok (increment_apply counted _)]
      change _ ++ [Sample.latency (safe record.provider) (record.latencyMs / 1000)] = _
      simp [recordedSamples, input, output, cost]

/-- **The gauge is sound**: it makes the same of an increment and of its task, and nearly the same of the
row. -/
structure Gauge.Sound (gauge : Gauge) (error : ℚ) : Prop where
  usage : ∀ record, emitMetric record = .ok () →
    tally gauge.sample (recordedSamples record) = gauge.task (.persistUsage record)
  refused : ∀ record, emitMetric record ≠ .ok () →
    tally gauge.sample (recordedSamples record) = gauge.refusal record
  failure : ∀ virtualKeyId provider label model latencyMs errorType,
    gauge.sample (.request (safe provider) label ("error:" ++ errorType)) =
      gauge.task (.createFailedUsageLog virtualKeyId provider model latencyMs errorType)
  stored : ∀ task : UsageTask, |gauge.row task.row - gauge.task task| ≤ error

section Sound

variable (provider : String)

/-- The increments of a record that is counted whole. -/
theorem recordedSamples_emitted {record : UsageRecord} (emitted : emitMetric record = .ok ()) :
    recordedSamples record =
      [.request (safe record.provider) (safe record.model) "ok",
        .tokens (safe record.provider) "input" record.inputTokens,
        .tokens (safe record.provider) "output" record.outputTokens,
        .cost (safe record.provider) record.estimatedCost,
        .latency (safe record.provider) (record.latencyMs / 1000)] := by
  obtain ⟨input, output, cost⟩ := emitMetric_ok_iff.mp emitted
  simp [recordedSamples, input, output, cost]

theorem ok_ne_error (errorType : String) : "ok" ≠ "error:" ++ errorType := by
  intro same
  simpa using congrArg String.toList same

theorem sound_served (model : String) : (Gauge.served provider model).Sound 0 where
  usage record emitted := by
    simp [recordedSamples_emitted emitted, Gauge.sample, Gauge.served, Sample.series, Sample.amount]
  refused record _ := by
    unfold recordedSamples
    split_ifs <;> simp_all [Gauge.sample, Gauge.served, Sample.series, Sample.amount]
  failure _ _ _ _ _ errorType := by
    simp [Gauge.sample, Gauge.served, Sample.series, (ok_ne_error errorType).symm]
  stored task := by
    cases task <;> simp [Gauge.served, UsageTask.row, Database.usageLogData]

theorem sound_failed (errorType : String) : (Gauge.failed provider errorType).Sound 0 where
  usage record emitted := by
    simp [recordedSamples_emitted emitted, Gauge.sample, Gauge.failed, Sample.series, ok_ne_error]
  refused record _ := by
    unfold recordedSamples
    split_ifs <;> simp [Gauge.sample, Gauge.failed, Sample.series, ok_ne_error]
  failure _ _ _ _ _ _ := by
    simp [Gauge.sample, Gauge.failed, Sample.series, Sample.amount]
  stored task := by
    cases task <;> simp [Gauge.failed, UsageTask.row, Database.usageLogData]

theorem sound_input : (Gauge.input provider).Sound 0 where
  usage record emitted := by
    simp [recordedSamples_emitted emitted, Gauge.sample, Gauge.input, Sample.series, Sample.amount]
  refused record _ := by
    unfold recordedSamples
    split_ifs <;> simp_all [Gauge.sample, Gauge.input, Sample.series, Sample.amount]
  failure _ _ _ _ _ _ := rfl
  stored task := by
    cases task <;> simp [Gauge.input, UsageTask.row, Database.usageLogData]

theorem sound_output : (Gauge.output provider).Sound 0 where
  usage record emitted := by
    simp [recordedSamples_emitted emitted, Gauge.sample, Gauge.output, Sample.series, Sample.amount]
  refused record _ := by
    unfold recordedSamples
    split_ifs <;> simp_all [Gauge.sample, Gauge.output, Sample.series, Sample.amount]
  failure _ _ _ _ _ _ := rfl
  stored task := by
    cases task <;> simp [Gauge.output, UsageTask.row, Database.usageLogData]

theorem sound_cost : (Gauge.cost provider).Sound (1 / 2 / 10 ^ 6) where
  usage record emitted := by
    simp [recordedSamples_emitted emitted, Gauge.sample, Gauge.cost, Sample.series, Sample.amount]
  refused record failed := by
    rw [ne_eq, emitMetric_ok_iff] at failed
    unfold recordedSamples
    split_ifs <;> simp_all [Gauge.sample, Gauge.cost, Sample.series]
  failure _ _ _ _ _ _ := rfl
  stored task := by
    have unit : (0 : ℚ) ≤ 1 / 2 / 10 ^ 6 := by norm_num
    cases task with
    | persistUsage record =>
        simp only [Gauge.cost, UsageTask.row, Database.usageLogData]
        split_ifs
        · exact Decimal.abs_column_sub_le 6 record.estimatedCost
        · rwa [sub_zero, abs_zero]
    | createFailedUsageLog =>
        simp only [Gauge.cost, UsageTask.row, ite_self, sub_zero, abs_zero]
        exact unit

end Sound

/-! ## Runs -/

/-- What a process has counted is what it has scheduled and what was refused. -/
def Worker.Balanced (gauge : Gauge) (w : Worker) : Prop :=
  tally gauge.sample w.metrics.samples = w.tasks.taken gauge.task + tally gauge.refusal w.refused

namespace Metering

variable (m : Metering) (gauge : Gauge)

/-- What the counters of all processes say. -/
def counted : ℚ := tally (fun w => tally gauge.sample w.metrics.samples) m.workers

/-- What the rows of the table say. -/
def stored (db : Database) : ℚ := tally gauge.row db.usageLogs

/-- What all tasks that are done say. -/
def done : ℚ := tally (fun w => tally gauge.task w.tasks.done) m.workers

/-- How many tasks are done. -/
def written : ℚ := tally (fun w => (w.tasks.done.length : ℚ)) m.workers

/-- What the table misses: the tasks that are pending or lost, and the records that were refused. -/
def missing : ℚ :=
  tally (fun w => tally gauge.task w.tasks.pending + tally gauge.task w.tasks.lost +
    tally gauge.refusal w.refused) m.workers

/-- What the table has gained, and what it misses. -/
def told (db : Database) : ℚ := stored gauge m.db - stored gauge db + m.missing gauge

/-- **The books are kept.** -/
structure Kept (error : ℚ) (db : Database) : Prop where
  balanced : ∀ w ∈ m.workers, w.Balanced gauge
  near : |stored gauge m.db - stored gauge db - m.done gauge| ≤ error * m.written
  rows : (m.db.usageLogs.length : ℚ) = db.usageLogs.length + m.written

end Metering

section Runs

variable {gauge : Gauge} {error : ℚ} {db : Database} {m next : Metering} {w : Worker} {place : ℕ}

theorem balanced_usage (sound : gauge.Sound error) (balanced : w.Balanced gauge) (record : UsageRecord) :
    (w.usage record).Balanced gauge ∧ (w.usage record).tasks.done = w.tasks.done := by
  have samples := recordUsage_samples record w.metrics
  have returns := @recordUsage_returns w.metrics record
  unfold Worker.usage
  cases counted : PrometheusMetrics.recordUsage record w.metrics with
  | ok _ after =>
      rw [counted] at samples
      have emitted := returns.mp ⟨after, counted⟩
      refine ⟨?_, rfl⟩
      simp only [Worker.Balanced, stateAfter] at balanced samples ⊢
      rw [samples, tally_append, balanced, sound.usage record emitted, Pipeline.taken_take]
      ring
  | error exception after =>
      rw [counted] at samples
      have refused : emitMetric record ≠ .ok () := by
        intro emitted
        obtain ⟨other, same⟩ := returns.mpr emitted
        cases counted.symm.trans same
      refine ⟨?_, rfl⟩
      simp only [Worker.Balanced, stateAfter] at balanced samples ⊢
      rw [samples, tally_append, balanced, sound.refused record refused, tally_append, tally_singleton]
      ring

theorem balanced_failure (sound : gauge.Sound error) (balanced : w.Balanced gauge) (virtualKeyId : ℤ)
    (provider model : String) (latencyMs : ℕ) (errorType : String) :
    (w.failure virtualKeyId provider model latencyMs errorType).Balanced gauge ∧
      (w.failure virtualKeyId provider model latencyMs errorType).tasks.done = w.tasks.done := by
  have counted : PrometheusMetrics.recordFailure provider model errorType w.metrics =
      .ok () { w.metrics with
        samples := w.metrics.samples ++ [.request (safe provider)
          (modelLabel w.metrics.servedModels model) ("error:" ++ errorType)] } :=
    increment_apply incrementTokens_one _
  unfold Worker.failure
  rw [counted]
  refine ⟨?_, rfl⟩
  simp only [Worker.Balanced] at balanced ⊢
  rw [tally_append, tally_singleton, balanced, Pipeline.taken_take,
    sound.failure virtualKeyId provider _ model latencyMs errorType]
  ring

/-- A process goes on without writing a row. -/
theorem books_set (kept : m.Kept gauge error db) (found : m.workers[place]? = some w) {after : Worker}
    (balanced : after.Balanced gauge) (done : after.tasks.done = w.tasks.done) :
    Metering.Kept { m with workers := m.workers.set place after } gauge error db := by
  refine ⟨fun other member => ?_, ?_, ?_⟩
  · rcases List.mem_or_eq_of_mem_set member with old | rfl
    · exact kept.balanced other old
    · exact balanced
  · simpa only [Metering.done, Metering.written, tally_set found, done, sub_add_cancel] using kept.near
  · simpa only [Metering.written, tally_set found, done, sub_add_cancel] using kept.rows

/-- A process writes a row. -/
theorem books_commit (sound : gauge.Sound error) (kept : m.Kept gauge error db)
    (found : m.workers[place]? = some w) {task : UsageTask} {tasks : Pipeline UsageTask} {position : ℕ}
    (finished : w.tasks.finish position = some (task, tasks)) :
    Metering.Kept ⟨m.db.perform task, m.workers.set place { w with tasks }⟩ gauge error db := by
  obtain ⟨taken, done⟩ :
      tasks.taken gauge.task = w.tasks.taken gauge.task ∧ tasks.done = w.tasks.done ++ [task] :=
    Pipeline.finish_eq_some finished
  have more : Metering.written ⟨m.db.perform task, m.workers.set place { w with tasks }⟩ =
      m.written + 1 := by
    simp only [Metering.written, tally_set found, done, List.length_append, List.length_singleton,
      Nat.cast_add, Nat.cast_one]
    ring
  refine ⟨fun other member => ?_, ?_, ?_⟩
  · rcases List.mem_or_eq_of_mem_set member with old | rfl
    · exact kept.balanced other old
    · have balanced := kept.balanced w (List.mem_of_getElem? found)
      simp only [Worker.Balanced] at balanced ⊢
      rw [taken]
      exact balanced
  · have gained : Metering.stored gauge (m.db.perform task) - Metering.stored gauge db -
        Metering.done ⟨m.db.perform task, m.workers.set place { w with tasks }⟩ gauge =
          (Metering.stored gauge m.db - Metering.stored gauge db - m.done gauge) +
            (gauge.row task.row - gauge.task task) := by
      simp only [Metering.stored, Metering.done, Database.perform_row, tally_append, tally_singleton,
        tally_set found, done]
      ring
    rw [gained, more]
    calc |(Metering.stored gauge m.db - Metering.stored gauge db - m.done gauge) +
            (gauge.row task.row - gauge.task task)|
        ≤ |Metering.stored gauge m.db - Metering.stored gauge db - m.done gauge| +
            |gauge.row task.row - gauge.task task| := abs_add_le _ _
      _ ≤ error * m.written + error := add_le_add kept.near (sound.stored task)
      _ = error * (m.written + 1) := by ring
  · rw [more, Database.perform_row, List.length_append, List.length_singleton, Nat.cast_add, kept.rows]
    ring

/-- **One step** keeps the books. -/
theorem books_step (sound : gauge.Sound error) (kept : m.Kept gauge error db) {action : MeteringAction}
    (moved : m.step action = some next) : next.Kept gauge error db := by
  have balanced {place : ℕ} {w : Worker} (found : m.workers[place]? = some w) : w.Balanced gauge :=
    kept.balanced w (List.mem_of_getElem? found)
  cases action with
  | usage place record =>
      obtain ⟨w, found, rfl⟩ := Option.map_eq_some_iff.mp moved
      obtain ⟨later, done⟩ := balanced_usage sound (balanced found) record
      exact books_set kept found later done
  | failure place virtualKeyId provider model latencyMs errorType =>
      obtain ⟨w, found, rfl⟩ := Option.map_eq_some_iff.mp moved
      obtain ⟨later, done⟩ :=
        balanced_failure sound (balanced found) virtualKeyId provider model latencyMs errorType
      exact books_set kept found later done
  | commit place position =>
      obtain ⟨w, found, moved⟩ := Option.bind_eq_some_iff.mp moved
      obtain ⟨⟨task, tasks⟩, finished, rfl⟩ := Option.map_eq_some_iff.mp moved
      exact books_commit sound kept found finished
  | lose place position =>
      obtain ⟨w, found, moved⟩ := Option.bind_eq_some_iff.mp moved
      obtain ⟨tasks, gone, rfl⟩ := Option.map_eq_some_iff.mp moved
      obtain ⟨taken, done⟩ :
          tasks.taken gauge.task = w.tasks.taken gauge.task ∧ tasks.done = w.tasks.done :=
        Pipeline.lose_eq_some gone
      refine books_set kept found ?_ done
      have before := balanced found
      simp only [Worker.Balanced] at before ⊢
      rw [taken]
      exact before
  | administer apiKeys =>
      cases moved
      exact ⟨kept.balanced, kept.near, kept.rows⟩

theorem books_init (processes : ℕ) (db : Database) :
    (Metering.init processes db).Kept gauge error db := by
  have fresh : ∀ measure : Worker → ℚ, measure {} = 0 →
      tally measure (Metering.init processes db).workers = 0 := by
    intro measure nothing
    rw [Metering.init, tally, List.map_replicate, nothing, List.sum_replicate, nsmul_zero]
  refine ⟨fun w member => ?_, ?_, ?_⟩
  · rw [List.eq_of_mem_replicate member, Worker.Balanced, Pipeline.taken]
    simp
  · rw [Metering.done, Metering.written, fresh _ rfl, fresh _ (by simp)]
    simp [Metering.init]
  · rw [Metering.written, fresh _ (by simp), add_zero]
    rfl

/-- **The gauge agrees with the table** in every run, up to the error of each row. -/
theorem counted_near (sound : gauge.Sound error) {processes : ℕ} {actions : List MeteringAction}
    (reached : run Metering.step (.init processes db) actions = some m) :
    |m.counted gauge - m.told gauge db| ≤
      error * (m.db.usageLogs.length - db.usageLogs.length) := by
  have kept : m.Kept gauge error db :=
    invariant_of_step (P := fun m => m.Kept gauge error db) (books_init processes db)
      (fun _ _ _ kept moved => books_step sound kept moved) reached
  have counted : m.counted gauge = m.done gauge + m.missing gauge := by
    rw [Metering.counted, Metering.done, Metering.missing, ← tally_add]
    refine tally_congr fun w member => ?_
    rw [kept.balanced w member, Pipeline.taken]
    ring
  have same : m.counted gauge - m.told gauge db =
      -(Metering.stored gauge m.db - Metering.stored gauge db - m.done gauge) := by
    rw [counted, Metering.told]
    ring
  rw [same, abs_neg, kept.rows, add_sub_cancel_left]
  exact kept.near

/-- A gauge without an error agrees exactly. -/
theorem counted_eq (sound : gauge.Sound 0) {processes : ℕ} {actions : List MeteringAction}
    (reached : run Metering.step (.init processes db) actions = some m) :
    m.counted gauge = m.told gauge db := by
  have near := counted_near sound reached
  rw [zero_mul] at near
  exact sub_eq_zero.mp (abs_nonpos_iff.mp near)

end Runs

/-! ## What is shown -/

/-- What a counter of a process shows. -/
def PrometheusCounter.value (counter : PrometheusCounter) (metrics : Metrics) (series : Series) : Double :=
  counter.shows ((metrics.increments series).map Sample.amount)

/-- Requests and tokens are counted by whole numbers. -/
def Metrics.Whole (metrics : Metrics) : Prop :=
  ∀ sample ∈ metrics.samples, sample.series.Counts → ∃ n : ℕ, sample.amount = n

namespace Metering

variable (m : Metering) (gauge : Gauge)

/-- What the series of a gauge show, in all processes. -/
def scrape (counter : PrometheusCounter) : List Double :=
  m.workers.flatMap fun w => (w.metrics.series.filter gauge.covers).map (counter.value w.metrics)

/-- What they were incremented by. -/
def totals : List ℚ :=
  m.workers.flatMap fun w => (w.metrics.series.filter gauge.covers).map w.metrics.total

/-- The series of a gauge show numbers in all processes, with this sum. -/
def Shows (counter : PrometheusCounter) (total : ℚ) : Prop :=
  ∃ values : List ℚ, m.scrape gauge counter = values.map .finite ∧ values.sum = total

/-- **The counters and the table agree** on a gauge: all counters together were incremented by what the
table has gained and what it misses, and that is what they show if it has 53 bits at most. -/
structure Agrees (counter : PrometheusCounter) (db : Database) : Prop where
  incremented : m.counted gauge = m.told gauge db
  shown : m.told gauge db < 2 ^ 53 → m.Shows gauge counter (m.told gauge db)

end Metering

section Shown

variable {gauge : Gauge} {metrics : Metrics} {series : Series} {m next : Metering}

/-- The series of a gauge say together what all its increments say. -/
theorem sum_totals (metrics : Metrics) (gauge : Gauge) :
    ((metrics.series.filter gauge.covers).map metrics.total).sum = tally gauge.sample metrics.samples := by
  have distinct : (metrics.series.filter gauge.covers).Nodup := (List.nodup_dedup _).filter _
  have parts := @sum_tally_filter _ _ _ Sample.amount _ _ Sample.series _ distinct metrics.samples
  refine parts.trans ?_
  rw [tally_filter]
  refine tally_congr fun sample member => ?_
  have listed : sample.series ∈ metrics.series :=
    List.mem_dedup.mpr (List.mem_map_of_mem member)
  simp [Gauge.sample, List.mem_filter, listed]

theorem Metering.sum_totals (m : Metering) (gauge : Gauge) : (m.totals gauge).sum = m.counted gauge := by
  rw [Metering.totals, Metering.counted, tally, List.flatMap_def, List.sum_flatten, List.map_map]
  exact congrArg List.sum (List.map_congr_left fun w _ => LlmGateway.sum_totals w.metrics gauge)

/-- **A counter of whole numbers** shows their sum, if that has 53 bits at most. -/
theorem value_eq (counter : PrometheusCounter) (whole : metrics.Whole) (counts : series.Counts)
    (small : metrics.total series < 2 ^ 53) :
    counter.value metrics series = .finite (metrics.total series) := by
  have natural : ∀ sample ∈ metrics.increments series, ((⌊sample.amount⌋₊ : ℕ) : ℚ) = sample.amount := by
    intro sample member
    obtain ⟨inside, same⟩ := List.mem_filter.mp member
    obtain ⟨n, amount⟩ := whole sample inside (by rwa [of_decide_eq_true same])
    rw [amount, Nat.floor_natCast]
  have amounts : (metrics.increments series).map Sample.amount =
      ((metrics.increments series).map fun sample => ⌊sample.amount⌋₊).map (Nat.cast : ℕ → ℚ) := by
    rw [List.map_map]
    exact List.map_congr_left fun sample member => (natural sample member).symm
  have total : metrics.total series =
      (((metrics.increments series).map fun sample => ⌊sample.amount⌋₊).sum : ℕ) := by
    rw [← Nat.coe_castRingHom, map_list_sum]
    exact congrArg List.sum amounts
  rw [total] at small ⊢
  rw [PrometheusCounter.value, amounts]
  exact counter.exact _ (by exact_mod_cast small)

theorem total_nonneg (whole : metrics.Whole) (counts : series.Counts) : 0 ≤ metrics.total series := by
  refine List.sum_nonneg fun amount member => ?_
  obtain ⟨sample, inside, rfl⟩ := List.mem_map.mp member
  obtain ⟨listed, same⟩ := List.mem_filter.mp inside
  obtain ⟨n, amount⟩ := whole sample listed (by rwa [of_decide_eq_true same])
  rw [amount]
  exact Nat.cast_nonneg n

/-- **The scrape of all processes** is what the counters were incremented by. -/
theorem scrape_eq (counter : PrometheusCounter)
    (counts : ∀ series, gauge.covers series = true → series.Counts)
    (whole : ∀ w ∈ m.workers, w.metrics.Whole) (small : m.counted gauge < 2 ^ 53) :
    m.Shows gauge counter (m.counted gauge) := by
  refine ⟨m.totals gauge, ?_, m.sum_totals gauge⟩
  have covered {w : Worker} {series : Series} (member : series ∈ w.metrics.series.filter gauge.covers) :
      series.Counts := counts series (List.mem_filter.mp member).2
  have nonneg : ∀ total ∈ m.totals gauge, 0 ≤ total := by
    intro total member
    obtain ⟨w, inside, member⟩ := List.mem_flatMap.mp member
    obtain ⟨series, listed, rfl⟩ := List.mem_map.mp member
    exact total_nonneg (whole w inside) (covered listed)
  rw [Metering.scrape, Metering.totals, List.map_flatMap]
  refine List.flatMap_congr fun w inside => ?_
  rw [List.map_map]
  refine List.map_congr_left fun series listed => value_eq counter (whole w inside) (covered listed) ?_
  have member : w.metrics.total series ∈ m.totals gauge :=
    List.mem_flatMap.mpr ⟨w, inside, List.mem_map_of_mem listed⟩
  calc w.metrics.total series
      ≤ (m.totals gauge).sum := List.single_le_sum nonneg _ member
    _ = m.counted gauge := m.sum_totals gauge
    _ < 2 ^ 53 := small

/-- The metrics of a process after a step: those of before, or after a call of the module. -/
theorem metrics_step {action : MeteringAction} (moved : m.step action = some next) {w : Worker}
    (member : w ∈ next.workers) : ∃ old ∈ m.workers, w.metrics = old.metrics ∨
      (∃ record, w.metrics = stateAfter (PrometheusMetrics.recordUsage record old.metrics)) ∨
        ∃ provider model errorType,
          w.metrics = stateAfter (PrometheusMetrics.recordFailure provider model errorType old.metrics) := by
  have set {place : ℕ} {old new : Worker} (found : m.workers[place]? = some old)
      (inside : w ∈ m.workers.set place new) : w ∈ m.workers ∨ w = new ∧ old ∈ m.workers :=
    (List.mem_or_eq_of_mem_set inside).imp_right fun same => ⟨same, List.mem_of_getElem? found⟩
  cases action with
  | usage place record =>
      obtain ⟨old, found, rfl⟩ := Option.map_eq_some_iff.mp moved
      rcases set found member with kept | ⟨rfl, inside⟩
      · exact ⟨w, kept, .inl rfl⟩
      · refine ⟨old, inside, .inr (.inl ⟨record, ?_⟩)⟩
        unfold Worker.usage
        cases PrometheusMetrics.recordUsage record old.metrics <;> rfl
  | failure place virtualKeyId provider model latencyMs errorType =>
      obtain ⟨old, found, rfl⟩ := Option.map_eq_some_iff.mp moved
      rcases set found member with kept | ⟨rfl, inside⟩
      · exact ⟨w, kept, .inl rfl⟩
      · refine ⟨old, inside, .inr (.inr ⟨provider, model, errorType, ?_⟩)⟩
        unfold Worker.failure
        cases PrometheusMetrics.recordFailure provider model errorType old.metrics <;> rfl
  | commit place position =>
      obtain ⟨old, found, moved⟩ := Option.bind_eq_some_iff.mp moved
      obtain ⟨⟨task, tasks⟩, finished, rfl⟩ := Option.map_eq_some_iff.mp moved
      rcases set found member with kept | ⟨rfl, inside⟩
      · exact ⟨w, kept, .inl rfl⟩
      · exact ⟨old, inside, .inl rfl⟩
  | lose place position =>
      obtain ⟨old, found, moved⟩ := Option.bind_eq_some_iff.mp moved
      obtain ⟨tasks, gone, rfl⟩ := Option.map_eq_some_iff.mp moved
      rcases set found member with kept | ⟨rfl, inside⟩
      · exact ⟨w, kept, .inl rfl⟩
      · exact ⟨old, inside, .inl rfl⟩
  | administer apiKeys =>
      cases moved
      exact ⟨w, member, .inl rfl⟩

theorem whole_recordedSamples (record : UsageRecord) :
    ∀ sample ∈ recordedSamples record, sample.series.Counts → ∃ n : ℕ, sample.amount = n := by
  have tokens {amount : ℤ} (fits : FitsCounter amount) : ∃ n : ℕ, (amount : ℚ) = n :=
    ⟨amount.toNat, by exact_mod_cast (Int.toNat_of_nonneg fits.1).symm⟩
  unfold recordedSamples
  intro sample member counts
  split_ifs at member with input output cost <;>
    simp only [List.mem_cons, List.not_mem_nil, or_false] at member
  · rcases member with rfl | rfl | rfl
    · exact ⟨1, Nat.cast_one.symm⟩
    · exact tokens input
    · exact tokens output
  · rcases member with rfl | rfl | rfl | rfl | rfl
    · exact ⟨1, Nat.cast_one.symm⟩
    · exact tokens input
    · exact tokens output
    · exact counts.elim
    · exact counts.elim
  · rcases member with rfl | rfl
    · exact ⟨1, Nat.cast_one.symm⟩
    · exact tokens input
  · exact ⟨1, member ▸ Nat.cast_one.symm⟩

/-- **Every run** counts requests and tokens by whole numbers. -/
theorem whole_run {processes : ℕ} {db : Database} {actions : List MeteringAction}
    (reached : run Metering.step (.init processes db) actions = some m) :
    ∀ w ∈ m.workers, w.metrics.Whole := by
  refine invariant_of_step (P := fun m : Metering => ∀ w ∈ m.workers, w.metrics.Whole) ?_ ?_ reached
  · intro w member
    rw [List.eq_of_mem_replicate member]
    exact fun sample impossible => absurd impossible List.not_mem_nil
  · intro state action after whole moved w member
    obtain ⟨old, inside, same | ⟨record, same⟩ | ⟨provider, model, errorType, same⟩⟩ :=
      metrics_step moved member
    · rw [same]
      exact whole old inside
    · intro sample counted
      rw [same, recordUsage_samples] at counted
      exact (List.mem_append.mp counted).elim (whole old inside sample) (whole_recordedSamples record sample)
    · intro sample counted counts
      rw [same, recordFailure_state] at counted
      rcases List.mem_append.mp counted with before | new
      · exact whole old inside sample before counts
      · rw [List.mem_singleton.mp new]
        exact ⟨1, Nat.cast_one.symm⟩

/-- **Every run** agrees on a gauge of requests or tokens. -/
theorem agrees_run (counter : PrometheusCounter) (sound : gauge.Sound 0)
    (counts : ∀ series, gauge.covers series = true → series.Counts) {processes : ℕ} {db : Database}
    {actions : List MeteringAction} (reached : run Metering.step (.init processes db) actions = some m) :
    m.Agrees gauge counter db := by
  have incremented := counted_eq sound reached
  refine ⟨incremented, fun small => ?_⟩
  rw [← incremented] at small ⊢
  exact scrape_eq counter counts (whole_run reached) small

end Shown

/-- **The counters and the table agree.** In every run of any number of processes over one table,
whatever tasks are late or lost and whatever counters refuse: for each provider the requests that were
served with a model, the requests that failed with a type, and the tokens in each direction by which the
counters of all processes were incremented are those of the rows that the table has gained and of what
it misses, and the counters show them as long as they have 53 bits at most; and the costs for which they
were incremented are, to half a millionth of a dollar for each row. -/
theorem metrics_reconcile (counter : PrometheusCounter) (processes : ℕ) (db : Database)
    (actions : List MeteringAction) (m : Metering)
    (reached : run Metering.step (.init processes db) actions = some m) (provider : String) :
    (∀ model, m.Agrees (.served provider model) counter db) ∧
      (∀ errorType, m.Agrees (.failed provider errorType) counter db) ∧
      m.Agrees (.input provider) counter db ∧
      m.Agrees (.output provider) counter db ∧
      |m.counted (.cost provider) - m.told (.cost provider) db| ≤
        1 / 2 / 10 ^ 6 * (m.db.usageLogs.length - db.usageLogs.length) := by
  refine ⟨fun model => ?_, fun errorType => ?_, ?_, ?_, counted_near (sound_cost provider) reached⟩
  · exact agrees_run counter (sound_served provider model)
      (fun series covered => by cases series <;> trivial) reached
  · exact agrees_run counter (sound_failed provider errorType)
      (fun series covered => by cases series <;> trivial) reached
  · exact agrees_run counter (sound_input provider)
      (fun series covered => by cases series <;> trivial) reached
  · exact agrees_run counter (sound_output provider)
      (fun series covered => by cases series <;> trivial) reached

/-- A request of three tenths of a millionth of a dollar. -/
def meteredRecord : UsageRecord := ⟨1, "openai", "gpt-4o", 10, 5, 120, 3 / 10000000⟩

/-- Two processes serve a request each, and the second rejects one. The first row is written, the
second is still pending, and the row of the rejection is lost. -/
def metered : List MeteringAction :=
  [.usage 0 meteredRecord, .commit 0 0, .usage 1 meteredRecord,
    .failure 1 1 "" "gpt-9" 3 "model_not_found", .lose 1 1]

/-- The theorem about these processes: two requests are counted and shown, and one is in the table. -/
theorem metrics_reconcile_two :
    ∃ m, run Metering.step (.init 2 {}) metered = some m ∧
      m.counted (.served "openai" "gpt-4o") = 2 ∧ m.Shows (.served "openai" "gpt-4o") doubleCounter 2 ∧
        Metering.stored (.served "openai" "gpt-4o") m.db = 1 ∧
          |m.counted (.cost "openai") - m.told (.cost "openai") {}| ≤
            1 / 2 / 10 ^ 6 * (m.db.usageLogs.length - ({} : Database).usageLogs.length) := by
  have performed : (run Metering.step (.init 2 {}) metered).map (fun m =>
      (m.told (.served "openai" "gpt-4o") {}, Metering.stored (.served "openai" "gpt-4o") m.db)) =
        some (2, 1) := by decide +kernel
  obtain ⟨m, reached, same⟩ := Option.map_eq_some_iff.mp performed
  obtain ⟨told, stored⟩ := Prod.mk.inj same
  obtain ⟨served, -, -, -, costs⟩ := metrics_reconcile doubleCounter 2 {} metered m reached "openai"
  obtain ⟨incremented, shown⟩ := served "gpt-4o"
  rw [told] at incremented shown
  exact ⟨m, reached, incremented, shown (by norm_num), stored, costs⟩

end LlmGateway
