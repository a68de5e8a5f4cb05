import Openlit.AutoEvaluations
import Openlit.Values

/-!
A run of `autoEvaluate` (`lib/platform/evaluation/index.ts`) and the log of the
runs (`lib/platform/cron-log/index.ts`). The last successful run is looked up
in the current database of the signed-in user, if there is one, and not in that
of the evaluation config. Each run ends before the next begins.
-/
namespace Openlit.AutoEvaluationRuns
open Openlit.Text Openlit.Values Openlit.AutoEvaluations

structure CronLogRow where
  id : String
  cron_id : String
  cron_type : String
  run_status : String
  «meta» : Fields
  error_stacktrace : StringMap
  started_at : String
  finished_at : String
  duration : Int
/-- A row of `SELECT *`, under the names of the columns. -/
def CronLogRow.json (row : CronLogRow) : Fields :=
  [("id", .str row.id), ("cron_id", .str row.cron_id), ("cron_type", .str row.cron_type), ("run_status", .str row.run_status),
    ("meta", .map row.meta), ("error_stacktrace", .map (row.error_stacktrace.map fun entry => (entry.1, .str entry.2))),
    ("started_at", .str row.started_at), ("finished_at", .str row.finished_at), ("duration", .int row.duration)]

structure Database where
  traces : List TraceRow := []
  evaluations : List EvaluationRow := []
  cronLogs : List CronLogRow := []
/-- The configs, and the tables of each database. -/
structure Store where
  evaluationConfigs : List EvaluationConfig
  databaseConfigs : List String
  databases : String → Database

/-- Who sends the request, and the current database of a user. -/
inductive Session
  | signedOut
  | signedIn (current : Option String)
/-- What happens to the queries and the evaluations of a run, and its times. -/
structure Environment where
  session : Session
  lookupError : Option String := none
  fetchError : Option String := none
  logError : Option String := none
  services : Nat → Services
  logId : String
  startedAt : String
  finishedAt : String
  duration : Int
/-- `parseDateTimeBestEffort`, which rejects what it cannot read. -/
class DateTimes where
  parseDateTimeBestEffort : String → Except String Int

structure AutoEvaluationConfig where
  evaluationConfigId : String
  cronId : String
structure Response where
  success : Bool
  err : Option String
/-- What a run answers or throws, the traces that it evaluates, and the store after it. -/
structure Outcome where
  response : Except String Response
  attempted : List TraceRow
  store : Store

/-! ### The log -/

def SUCCESS : String := "SUCCESS"
def FAILURE : String := "FAILURE"
def PARTIAL_SUCCESS : String := "PARTIAL_SUCCESS"

/-- The query for the last successful run, on the database that `dataCollector` takes without an id. -/
def lastRunRows (env : Environment) (store : Store) (cronId : String) : Except String (List Fields) :=
  match env.session with
  | .signedOut => .error "Error: Unauthorized user!"
  | .signedIn none => .error "ClickHouse Query Error: Cannot read properties of undefined (reading 'username')"
  | .signedIn (some current) =>
    match env.lookupError with
    | some err => .error err
    | none =>
      let rows := (store.databases current).cronLogs.filter fun row => row.cron_id = cronId ∧ row.run_status = SUCCESS
      .ok (((rows.mergeSort fun a b => b.started_at ≤ a.started_at).take 1).map (·.json))
/-- The `startedAt` of the first row; an error where there is no row. -/
def getLastRunCronLogByCronId (env : Environment) (store : Store) (cronId : String) : Except String (Option String) :=
  match lastRunRows env store cronId with
  | .error _ => .ok none
  | .ok [] => .error "TypeError: Cannot read properties of undefined (reading 'startedAt')"
  | .ok (row :: _) => .ok (asString (get row "startedAt"))

/-- No column is named `startedAt`. -/
theorem json_startedAt (row : CronLogRow) : asString (Values.get row.json "startedAt") = none := by
  simp [Values.get, CronLogRow.json, lookup_entry, asString]

/-- The lookup has a row to read, or does not get that far. -/
def Answered (env : Environment) (store : Store) (cronId : String) : Prop :=
  ∀ current, env.session = .signedIn (some current) → env.lookupError = none →
    ∃ row ∈ (store.databases current).cronLogs, row.cron_id = cronId ∧ row.run_status = SUCCESS

/-- The lookup never gives a time; without a row to read it throws. -/
theorem lastRun_cases (env : Environment) (store : Store) (cronId : String) :
    (Answered env store cronId ∧ getLastRunCronLogByCronId env store cronId = .ok none) ∨
      (¬Answered env store cronId ∧ ∃ thrown, getLastRunCronLogByCronId env store cronId = .error thrown) := by
  unfold Answered getLastRunCronLogByCronId lastRunRows
  cases env.session with
  | signedOut => exact .inl ⟨nofun, rfl⟩
  | signedIn user =>
    cases user with
    | none => exact .inl ⟨nofun, rfl⟩
    | some current =>
      cases env.lookupError with
      | some err => exact .inl ⟨fun _ _ none => absurd none (by simp), rfl⟩
      | none =>
        dsimp only
        generalize listed : ((store.databases current).cronLogs.filter fun row => row.cron_id = cronId ∧ row.run_status = SUCCESS) = rows
        have among (row : CronLogRow) : row ∈ rows ↔
            row ∈ (store.databases current).cronLogs ∧ row.cron_id = cronId ∧ row.run_status = SUCCESS := by
          rw [← listed, List.mem_filter, decide_eq_true_iff]
        have sorted := List.mergeSort_perm rows fun a b => b.started_at ≤ a.started_at
        cases first : rows.mergeSort fun a b => b.started_at ≤ a.started_at with
        | nil =>
          rw [first] at sorted
          right
          refine ⟨fun answered => ?_, _, rfl⟩
          obtain ⟨row, inside, last⟩ := answered current rfl rfl
          have there := (among row).mpr ⟨inside, last⟩
          rw [sorted.symm.eq_nil] at there
          cases there
        | cons row rest =>
          rw [first] at sorted
          left
          refine ⟨?_, congrArg Except.ok (json_startedAt row)⟩
          rintro _ ⟨⟩ -
          exact ⟨row, (among row).mp (sorted.mem_iff.mp List.mem_cons_self)⟩

def Store.update (store : Store) (id : String) (change : Database → Database) : Store :=
  { store with databases := Function.update store.databases id (change (store.databases id)) }
/-- The error of the insert, and the store after it. -/
def insertCronLog (env : Environment) (row : CronLogRow) (databaseConfigId : String) (store : Store) : Option String × Store :=
  match env.logError with
  | some err => (some err, store)
  | none => (none, store.update databaseConfigId fun db => { db with cronLogs := db.cronLogs ++ [row] })

theorem cronLogs_insert (env : Environment) (row : CronLogRow) (id : String) (store : Store) :
    ((insertCronLog env row id store).2.databases id).cronLogs =
      if env.logError = none then (store.databases id).cronLogs ++ [row] else (store.databases id).cronLogs := by
  unfold insertCronLog
  cases env.logError with
  | none => simp [Store.update]
  | some err => simp
theorem traces_update {store : Store} {database : String} (change : Database → Database)
    (keeps : ∀ db, db.traces ⊆ (change db).traces) (id : String) :
    (store.databases id).traces ⊆ ((store.update database change).databases id).traces := by
  by_cases same : id = database
  · subst same
    simpa [Store.update] using keeps (store.databases id)
  · simp [Store.update, same]
theorem traces_evaluated (rows : List EvaluationRow) (store : Store) (database id : String) :
    (store.databases id).traces ⊆ ((store.update database fun db =>
      { db with evaluations := db.evaluations ++ rows }).databases id).traces :=
  traces_update (fun db => { db with evaluations := db.evaluations ++ rows }) (fun _ => List.Subset.refl _) id
theorem traces_insert (env : Environment) (row : CronLogRow) (database : String) (store : Store) (id : String) :
    (store.databases id).traces ⊆ ((insertCronLog env row database store).2.databases id).traces := by
  unfold insertCronLog
  cases env.logError with
  | some err => exact List.Subset.refl _
  | none => exact traces_update (fun db => { db with cronLogs := db.cronLogs ++ [row] }) (fun db => List.Subset.refl _) id
/-- A log that has one entry more. -/
theorem logged_iff {logError : Option String} {logs after : List CronLogRow} {row : CronLogRow}
    (inserted : after = if logError = none then logs ++ [row] else logs) : (∃ entry, after = logs ++ [entry]) ↔ logError = none := by
  by_cases none : logError = none
  · rw [if_pos none] at inserted
    exact iff_of_true ⟨row, inserted⟩ none
  · rw [if_neg none] at inserted
    refine iff_of_false ?_ none
    rintro ⟨entry, same⟩
    simp [inserted] at same

/-! ### A run -/

/-- A trace of a supported operation type whose span has no automatic evaluation. -/
def Due (db : Database) (trace : TraceRow) : Prop :=
  trace ∈ db.traces ∧ supported trace = true ∧ ∀ e ∈ db.evaluations, e.source = "auto" → e.span_id ≠ trace.spanId
theorem due_fetched {db : Database} {trace : TraceRow} (due : Due db trace) :
    trace ∈ tracesToEvaluate none db.traces db.evaluations :=
  (mem_tracesToEvaluate none _ _ trace).mpr ⟨due.1, due.2.1, rfl, .inr due.2.2⟩

/-- The lookup does not throw, the log is written, and the traces are read if one is due. -/
structure Unhindered (env : Environment) (request : AutoEvaluationConfig) (config : EvaluationConfig) (store : Store) :
    Prop where
  answered : Answered env store request.cronId
  logged : env.logError = none
  fetched : env.fetchError = none ∨ ∀ trace, ¬Due (store.databases config.databaseConfigId) trace

/-- The configs that a run needs are there. -/
def Found (request : AutoEvaluationConfig) (config : EvaluationConfig) (store : Store) : Prop :=
  store.evaluationConfigs.find? (·.id = request.evaluationConfigId) = some config ∧
    config.databaseConfigId ∈ store.databaseConfigs

section
variable [DateTimes]

def fetchTraces (env : Environment) (lastRunTime : Option String) (db : Database) : Except String (List TraceRow) :=
  match env.fetchError with
  | some err => .error err
  | none =>
    match present lastRunTime with
    | none => .ok (tracesToEvaluate none db.traces db.evaluations)
    | some text => (DateTimes.parseDateTimeBestEffort text).map fun time => tracesToEvaluate (some time) db.traces db.evaluations

/-- The errors by span, of which the last one of a span stays. -/
def errorObject (results : List (TraceRow × Except String Unit)) : StringMap :=
  results.foldl (fun errors (trace, result) =>
    match result with
    | .ok _ => errors
    | .error err => errors.filter (·.1 ≠ trace.spanId) ++ [(trace.spanId, err)]) []
def runStatus (errorCount total : Nat) : String :=
  if errorCount = total then FAILURE else if errorCount > 0 then PARTIAL_SUCCESS else SUCCESS

def autoEvaluate (env : Environment) (request : AutoEvaluationConfig) (store : Store) : Outcome :=
  match store.evaluationConfigs.find? (·.id = request.evaluationConfigId) with
  | none => ⟨.ok ⟨false, some "Evaluation config not set!"⟩, [], store⟩
  | some config =>
    if config.databaseConfigId ∉ store.databaseConfigs then ⟨.ok ⟨false, some "No database config present!"⟩, [], store⟩
    else
      match getLastRunCronLogByCronId env store request.cronId with
      | .error thrown => ⟨.error thrown, [], store⟩
      | .ok lastRunTime =>
        let cronLog (run_status : String) (properties : Fields) (error_stacktrace : StringMap) : CronLogRow :=
          ⟨env.logId, request.cronId, "SPAN_EVALUATION", run_status, properties, error_stacktrace, env.startedAt, env.finishedAt,
            env.duration⟩
        match fetchTraces env lastRunTime (store.databases config.databaseConfigId) with
        | .error err =>
          let row := cronLog FAILURE [] [("error", "Error fetching trace! : " ++ err)]
          let (cronLogErr, after) := insertCronLog env row config.databaseConfigId store
          ⟨.ok ⟨false, some (cronLogErr.getD err)⟩, [], after⟩
        | .ok traces =>
          let results := traces.zipIdx.map fun (trace, index) =>
            getEvaluationConfigForTrace (env.services index) trace config "auto"
          let evaluated := store.update config.databaseConfigId fun db =>
            { db with evaluations := db.evaluations ++ results.filterMap (·.2) }
          let errorCount := results.countP fun result => result.1.toOption.isNone
          let properties : Fields :=
            [("totalSpans", .int traces.length), ("totalEvaluated", .int (results.length - errorCount)),
              ("totalFailed", .int errorCount), ("spanIds", .list (traces.map (.str ·.spanId)))]
          let row := cronLog (runStatus errorCount results.length) properties (errorObject (traces.zip (results.map (·.1))))
          let (cronLogErr, after) := insertCronLog env row config.databaseConfigId evaluated
          ⟨.ok ⟨true, cronLogErr⟩, traces, after⟩

/-! ### What a run does -/

/-- The run logs one entry and evaluates every trace that is due. -/
def Completes (env : Environment) (request : AutoEvaluationConfig) (config : EvaluationConfig) (store : Store) : Prop :=
  let outcome := autoEvaluate env request store
  (∃ row, (outcome.store.databases config.databaseConfigId).cronLogs =
    (store.databases config.databaseConfigId).cronLogs ++ [row]) ∧
  ∀ trace, Due (store.databases config.databaseConfigId) trace → trace ∈ outcome.attempted
theorem completes_iff {request : AutoEvaluationConfig} {config : EvaluationConfig} {store : Store}
    (found : Found request config store) (env : Environment) :
    Completes env request config store ↔ Unhindered env request config store := by
  unfold Completes
  rw [autoEvaluate, found.1]
  simp only [if_neg (not_not.mpr found.2)]
  rcases lastRun_cases env store request.cronId with ⟨answered, lookup⟩ | ⟨never, thrown, lookup⟩
  · rw [lookup]
    cases fetch : env.fetchError with
    | some err =>
      simp only [fetchTraces, fetch]
      rw [logged_iff (cronLogs_insert env _ config.databaseConfigId store)]
      constructor
      · rintro ⟨logged, all⟩
        exact ⟨answered, logged, .inr fun trace due => nomatch all trace due⟩
      · rintro ⟨-, logged, fetched⟩
        refine ⟨logged, fun trace due => absurd due (fetched.resolve_left (by simp [fetch]) trace)⟩
    | none =>
      simp only [fetchTraces, fetch, present, Option.filter_none]
      have kept (rows : List EvaluationRow) : ((store.update config.databaseConfigId fun db =>
          { db with evaluations := db.evaluations ++ rows }).databases config.databaseConfigId).cronLogs =
            (store.databases config.databaseConfigId).cronLogs := by
        simp [Store.update]
      rw [logged_iff ((cronLogs_insert env _ config.databaseConfigId _).trans (by rw [kept]))]
      constructor
      · rintro ⟨logged, -⟩
        exact ⟨answered, logged, .inl fetch⟩
      · rintro ⟨-, logged, -⟩
        exact ⟨logged, fun trace due => due_fetched due⟩
  · rw [lookup]
    refine iff_of_false ?_ fun unhindered => never unhindered.answered
    rintro ⟨⟨row, same⟩, -⟩
    simp at same

/-! ### Sequences of runs -/

/-- What happens between the runs, besides the runs themselves. -/
inductive Event
  | arrive (database : String) (trace : TraceRow)
  | manual (database : String) (row : EvaluationRow) (asked : Manual row)
  | configure (evaluationConfigs : List EvaluationConfig) (databaseConfigs : List String)
  | run (env : Environment) (request : AutoEvaluationConfig)
def apply (store : Store) : Event → Store
  | .arrive database trace => store.update database fun db => { db with traces := db.traces ++ [trace] }
  | .manual database row _ => store.update database fun db => { db with evaluations := db.evaluations ++ [row] }
  | .configure evaluationConfigs databaseConfigs => { store with evaluationConfigs, databaseConfigs }
  | .run env request => (autoEvaluate env request store).store

theorem traces_run (env : Environment) (request : AutoEvaluationConfig) (store : Store) (id : String) :
    (store.databases id).traces ⊆ ((autoEvaluate env request store).store.databases id).traces := by
  unfold autoEvaluate
  split
  · exact List.Subset.refl _
  · split
    · exact List.Subset.refl _
    · split
      · exact List.Subset.refl _
      · dsimp only
        split
        · exact traces_insert env _ _ store id
        · refine List.Subset.trans ?_ (traces_insert env _ _ _ id)
          exact traces_evaluated _ store _ id
theorem traces_kept (events : List Event) (store : Store) (id : String) :
    (store.databases id).traces ⊆ ((events.foldl apply store).databases id).traces := by
  induction events generalizing store with
  | nil => exact List.Subset.refl _
  | cons event rest ih =>
    refine List.Subset.trans ?_ (ih (apply store event))
    cases event with
    | arrive database trace =>
      exact traces_update (fun db => { db with traces := db.traces ++ [trace] }) (fun db => List.subset_append_left _ _) id
    | manual database row asked =>
      exact traces_evaluated [row] store database id
    | configure evaluationConfigs databaseConfigs => exact List.Subset.refl _
    | run env request => exact traces_run env request store id

/-- In any sequence of arrivals and runs, a run that finds its configs logs one
    entry and evaluates all that is due exactly if nothing hinders it; and a
    trace that was stored at any time before is then evaluated unless its span
    has been already, whether it arrived late or its evaluation failed. -/
theorem runs_complete_iff (start : Store) (before : List Event) (env : Environment) (request : AutoEvaluationConfig)
    (config : EvaluationConfig) (found : Found request config (before.foldl apply start)) :
    (Completes env request config (before.foldl apply start) ↔ Unhindered env request config (before.foldl apply start)) ∧
      (Unhindered env request config (before.foldl apply start) →
        ∀ earlier later, before = earlier ++ later →
          ∀ trace ∈ ((earlier.foldl apply start).databases config.databaseConfigId).traces, supported trace = true →
            (∀ e ∈ ((before.foldl apply start).databases config.databaseConfigId).evaluations,
              e.source = "auto" → e.span_id ≠ trace.spanId) →
              trace ∈ (autoEvaluate env request (before.foldl apply start)).attempted) := by
  refine ⟨completes_iff found env, ?_⟩
  intro unhindered earlier later split trace stored isSupported unevaluated
  have kept : trace ∈ ((before.foldl apply start).databases config.databaseConfigId).traces := by
    rw [split, List.foldl_append]
    exact traces_kept later (earlier.foldl apply start) config.databaseConfigId stored
  exact ((completes_iff found env).mpr unhindered).2 trace ⟨kept, isSupported, unevaluated⟩

end

/-- A database with one trace, which no run has evaluated. -/
def sampleStore : Store :=
  { evaluationConfigs := [sampleConfig]
    databaseConfigs := ["d1"]
    databases := fun _ => { traces := [sampleTrace] } }
def sampleRequest : AutoEvaluationConfig := ⟨"e1", "c1"⟩
def sampleEnvironment (session : Session) : Environment :=
  { session
    services := fun _ => sampleServices
    logId := "l1"
    startedAt := "2024-05-01 10:05:00"
    finishedAt := "2024-05-01 10:05:02"
    duration := 2 }
@[reducible] def sampleDateTimes : DateTimes := ⟨fun text => .error ("Cannot parse DateTime: " ++ text)⟩
theorem sampleStore_found : Found sampleRequest sampleConfig sampleStore := ⟨rfl, by decide⟩

theorem runs_complete_cron :
    let _ := sampleDateTimes
    Completes (sampleEnvironment .signedOut) sampleRequest sampleConfig sampleStore := by
  intro dateTimes
  exact (runs_complete_iff sampleStore [] (sampleEnvironment .signedOut) sampleRequest sampleConfig sampleStore_found).1.mpr
    ⟨nofun, rfl, .inl rfl⟩
/-- A signed-in user starts the first run: there is no log to look up. -/
theorem first_run_throws :
    let _ := sampleDateTimes
    Found sampleRequest sampleConfig sampleStore ∧
      ¬Completes (sampleEnvironment (.signedIn (some "d1"))) sampleRequest sampleConfig sampleStore := by
  intro dateTimes
  refine ⟨sampleStore_found, fun completes => ?_⟩
  obtain ⟨row, inside, -⟩ := ((completes_iff sampleStore_found _).mp completes).answered "d1" rfl rfl
  cases inside

end Openlit.AutoEvaluationRuns
