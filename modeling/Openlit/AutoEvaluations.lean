import Mathlib.Logic.Relation
import Openlit.RuleLinks
import Openlit.RulePreview

/-!
Evaluations of traces (`lib/platform/evaluation/index.ts`): the query for the
traces that have no automatic evaluation yet, the evaluation of a trace, which
stores a row with its source, and the feedback of a user. A run of
`autoEvaluate` makes the query once; its evaluations end later, each on its
own. The order of the traces and the judgements of the model are left out.
-/
namespace Openlit.AutoEvaluations
open Openlit.Text Openlit.Relations Openlit.RuleLinks

/-! ### The tables -/

/-- A trace, with the prompt and the response of its events. -/
structure TraceRow extends RulePreview.TraceRow where
  spanId : String
  timestamp : Int
  timestampText : String
  prompt : Option String
  response : Option String
structure EvaluationRow where
  span_id : String
  «meta» : List (String × String)
/-- `meta['source']`, where an absent key reads as the empty text. -/
def EvaluationRow.source (e : EvaluationRow) : String := (e.meta.lookup "source").getD ""

def SUPPORTED_EVALUATION_OPERATIONS : List String := ["chat"]
def supported (trace : TraceRow) : Bool :=
  (trace.spanAttributes "gen_ai.operation.name").getD "" ∈ SUPPORTED_EVALUATION_OPERATIONS
def arrivedSince (lastRunTime : Option Int) (trace : TraceRow) : Bool := lastRunTime.all (· ≤ trace.timestamp)
/-- The query of `autoEvaluate`. -/
def tracesToEvaluate (lastRunTime : Option Int) (traces : List TraceRow) (evaluations : List EvaluationRow) : List TraceRow :=
  let joined := leftJoin (fun t e => t.spanId = e.span_id) traces (evaluations.filter (·.source = "auto"))
  (joined.filter fun (t, e) => supported t && e.all (·.span_id = "") && arrivedSince lastRunTime t).map (·.1)

/-! ### The evaluation of a trace -/

structure EvaluationType where
  id : String
  enabled : Bool
  rules : List RuleWithPriority := []
  ruleId : Option String := none
  priority : Option Int := none
  prompt : Option String := none
  defaultPrompt : Option String := none
structure EvaluationConfig where
  id : String
  databaseConfigId : String
  provider : String
  model : String
  secret : String
  evaluationTypes : List EvaluationType
structure RuleEngineContextResult where
  contextContents : List String
  matchingRuleIds : List String
  contextEntityIds : List String
structure RunEvaluationParams where
  provider : String
  model : String
  apiKey : String
  prompt : String
  contexts : String
  response : String
/-- The tokens of an evaluation, and its estimated cost where it is positive. -/
structure Usage where
  promptTokens : Nat
  completionTokens : Nat
  cost : Option String
/-- What the services answer at the time of an evaluation: the rule engine, the model, and the insert. -/
structure Services where
  contexts : TraceRow → List RuleWithPriority → RuleEngineContextResult
  runEvaluation : RunEvaluationParams → Except String (Option Usage)
  storeError : Option String

def enabledTypes (evaluationTypes : List EvaluationType) : List EvaluationType :=
  if (evaluationTypes.filter (·.enabled)).length > 0 then evaluationTypes.filter (·.enabled)
  else (evaluationTypes.filter fun t => t.id = "hallucination" ∨ t.id = "bias" ∨ t.id = "toxicity").map
    fun t => { t with enabled := true }
def rulesWithPriority (types : List EvaluationType) : List RuleWithPriority :=
  types.flatMap fun t =>
    if t.rules ≠ [] then t.rules.filter fun r => r.ruleId ≠ "" ∧ trim r.ruleId ≠ ""
    else ((present t.ruleId).map fun ruleId => { ruleId, priority := t.priority.getD 0 }).toList
/-- The prompt of each type, the custom one first. -/
def prebuiltParts (types : List EvaluationType) : List String :=
  types.filterMap fun t => (present (t.prompt.map trim)).or (present (t.defaultPrompt.map trim))
def metaBase (config : EvaluationConfig) (trace : TraceRow) (result : RuleEngineContextResult) (source : String)
    (usage : Option Usage) : List (String × String) :=
  [("model", config.provider ++ "/" ++ config.model), ("traceTimeStamp", trace.timestampText),
    ("ruleIds", ",".intercalate result.matchingRuleIds), ("contextIds", ",".intercalate result.contextEntityIds),
    ("contextApplied", if result.contextContents.length > 0 then "yes" else "no"), ("source", source)] ++
  match usage with
  | none => []
  | some u =>
    [("promptTokens", toString u.promptTokens), ("completionTokens", toString u.completionTokens)] ++
      (u.cost.map fun cost => ("cost", cost)).toList
/-- The outcome, and the row that is stored. -/
def getEvaluationConfigForTrace (services : Services) (trace : TraceRow) (config : EvaluationConfig) (source : String) :
    Except String Unit × Option EvaluationRow :=
  let types := enabledTypes config.evaluationTypes
  let result := services.contexts trace (rulesWithPriority types)
  let params : RunEvaluationParams :=
    { provider := config.provider
      model := config.model
      apiKey := config.secret
      prompt := trace.prompt.getD ""
      contexts := "\n\n".intercalate (prebuiltParts types ++ result.contextContents)
      response := trace.response.getD "" }
  match services.runEvaluation params with
  | .error error => (.error error, none)
  | .ok usage =>
    match services.storeError with
    | some err => (.error err, none)
    | none => (.ok (), some { span_id := trace.spanId, «meta» := metaBase config trace result source usage })
/-- The row of `storeManualFeedback`. -/
def manualFeedback (spanId rating : String) (comment : Option String) : EvaluationRow :=
  { span_id := spanId
    «meta» := [("source", "manual_feedback"), ("feedback_rating", rating)] ++
      ((present comment).map fun comment => ("feedback_comment", comment)).toList }

/-! ### The query -/

/-- A trace is in the result if its span has no row with source `auto`; a span
    without an id is there in any case. -/
theorem mem_tracesToEvaluate (lastRunTime : Option Int) (traces : List TraceRow) (evaluations : List EvaluationRow)
    (trace : TraceRow) :
    trace ∈ tracesToEvaluate lastRunTime traces evaluations ↔
      trace ∈ traces ∧ supported trace = true ∧ arrivedSince lastRunTime trace = true ∧
        (trace.spanId = "" ∨ ∀ e ∈ evaluations, e.source = "auto" → e.span_id ≠ trace.spanId) := by
  simp only [tracesToEvaluate, List.mem_map, List.mem_filter, Bool.and_eq_true, Prod.exists, exists_and_right, exists_eq_right]
  constructor
  · rintro ⟨partner, member, ⟨isSupported, unmatched⟩, arrived⟩
    cases partner with
    | none =>
      obtain ⟨stored, alone⟩ := (mem_leftJoin_none _ _ _ _).mp member
      refine ⟨stored, isSupported, arrived, .inr fun e inside auto same => ?_⟩
      simpa [same] using alone e (List.mem_filter.mpr ⟨inside, by simpa using auto⟩)
    | some e =>
      obtain ⟨stored, -, same⟩ := (mem_leftJoin_some _ _ _ _ _).mp member
      simp only [Option.all_some, decide_eq_true_eq] at unmatched same
      exact ⟨stored, isSupported, arrived, .inl (same.trans unmatched)⟩
  · rintro ⟨stored, isSupported, arrived, free⟩
    by_cases alone : ∀ e ∈ evaluations.filter (·.source = "auto"), decide (trace.spanId = e.span_id) = false
    · exact ⟨none, (mem_leftJoin_none _ _ _ _).mpr ⟨stored, alone⟩, ⟨isSupported, rfl⟩, arrived⟩
    · simp only [not_forall, Bool.not_eq_false, decide_eq_true_eq] at alone
      obtain ⟨e, isAuto, same⟩ := alone
      obtain ⟨inside, auto⟩ := List.mem_filter.mp isAuto
      rcases free with empty | none
      · refine ⟨some e, (mem_leftJoin_some _ _ _ _ _).mpr ⟨stored, isAuto, by simpa using same⟩, ⟨isSupported, ?_⟩, arrived⟩
        simp [← same, empty]
      · exact absurd same.symm (none e inside (by simpa using auto))

/-! ### The rows of an evaluation -/

theorem source_metaBase (config : EvaluationConfig) (trace : TraceRow) (result : RuleEngineContextResult) (source : String)
    (usage : Option Usage) : (metaBase config trace result source usage).lookup "source" = some source := rfl
/-- An evaluation stores at most one row, which has its source. -/
theorem evaluated_row {services : Services} {trace : TraceRow} {config : EvaluationConfig} {source : String} {e : EvaluationRow}
    (stored : (getEvaluationConfigForTrace services trace config source).2 = some e) :
    e.span_id = trace.spanId ∧ e.source = source := by
  unfold getEvaluationConfigForTrace at stored
  dsimp only at stored
  split at stored
  · cases stored
  · split at stored
    · cases stored
    · obtain rfl := Option.some.inj stored
      exact ⟨rfl, by rw [EvaluationRow.source, source_metaBase]; rfl⟩

/-! ### Runs at once -/

/-- The tables, and the evaluations that the runs have begun and that have not ended. -/
structure State where
  traces : List TraceRow
  evaluations : List EvaluationRow
  underWay : List (Nat × TraceRow)

/-- A row that a user has asked for. -/
inductive Manual : EvaluationRow → Prop
  | evaluation {services trace config e} (stored : (getEvaluationConfigForTrace services trace config "manual").2 = some e) :
      Manual e
  | feedback (spanId rating : String) (comment : Option String) : Manual (manualFeedback spanId rating comment)

inductive Step : State → State → Prop
  | arrive (st : State) (trace : TraceRow) : Step st { st with traces := st.traces ++ [trace] }
  | begin (st : State) (run : Nat) (lastRunTime : Option Int) :
      Step st { st with underWay := st.underWay ++
        (tracesToEvaluate lastRunTime st.traces st.evaluations).map (run, ·) }
  | finish {st : State} {before after : List (Nat × TraceRow)} {run : Nat} {trace : TraceRow} (services : Services)
      (config : EvaluationConfig) (begun : st.underWay = before ++ (run, trace) :: after) :
      Step st { st with
        evaluations := st.evaluations ++ (getEvaluationConfigForTrace services trace config "auto").2.toList
        underWay := before ++ after }
  | manual (st : State) {e : EvaluationRow} (asked : Manual e) : Step st { st with evaluations := st.evaluations ++ [e] }

def autoRows (spanId : String) (st : State) : Nat := st.evaluations.countP fun e => e.span_id = spanId ∧ e.source = "auto"
def evaluating (spanId : String) (st : State) : Nat := st.underWay.countP fun begun => begun.2.spanId = spanId

theorem manual_source {e : EvaluationRow} (asked : Manual e) : e.source ≠ "auto" := by
  cases asked with
  | evaluation stored =>
    rw [(evaluated_row stored).2]
    decide
  | feedback spanId rating comment =>
    show "manual_feedback" ≠ "auto"
    decide
/-- A user's row is not among those that the query looks for. -/
theorem tracesToEvaluate_manual {e : EvaluationRow} (asked : Manual e) (lastRunTime : Option Int) (traces : List TraceRow)
    (evaluations : List EvaluationRow) :
    tracesToEvaluate lastRunTime traces (evaluations ++ [e]) = tracesToEvaluate lastRunTime traces evaluations := by
  have skipped : [e].filter (·.source = "auto") = [] := by simp [manual_source asked]
  rw [tracesToEvaluate, List.filter_append, skipped, List.append_nil, tracesToEvaluate]
theorem autoRows_eq_zero (spanId : String) (st : State) :
    autoRows spanId st = 0 ↔ ∀ e ∈ st.evaluations, e.source = "auto" → e.span_id ≠ spanId := by
  rw [autoRows, List.countP_eq_zero]
  constructor
  · intro none e inside auto same
    exact none e inside (by simp [same, auto])
  · intro none e inside isAuto
    obtain ⟨same, auto⟩ : e.span_id = spanId ∧ e.source = "auto" := by simpa using isAuto
    exact none e inside auto same
theorem mem_tracesToEvaluate_iff {spanId : String} (named : spanId ≠ "") (lastRunTime : Option Int) (st : State) {trace : TraceRow}
    (span : trace.spanId = spanId) :
    trace ∈ tracesToEvaluate lastRunTime st.traces st.evaluations ↔
      trace ∈ st.traces ∧ supported trace = true ∧ arrivedSince lastRunTime trace = true ∧ autoRows spanId st = 0 := by
  rw [mem_tracesToEvaluate, autoRows_eq_zero, span, or_iff_right named]

section
variable {spanId : String} (named : spanId ≠ "")
include named

/-- A step adds no evaluation of a span that has a row already. -/
theorem step_rows {a b : State} (step : Step a b) :
    autoRows spanId b + evaluating spanId b ≤ autoRows spanId a + evaluating spanId a ∨
      (autoRows spanId a = 0 ∧ autoRows spanId b = 0) := by
  cases step with
  | arrive trace => exact .inl (Nat.le_refl _)
  | begin run lastRunTime =>
    by_cases none : autoRows spanId a = 0
    · exact .inr ⟨none, none⟩
    · have nothing : ((tracesToEvaluate lastRunTime a.traces a.evaluations).map (run, ·)).countP
          (fun begun => begun.2.spanId = spanId) = 0 := by
        rw [List.countP_eq_zero]
        intro begun inside span
        obtain ⟨trace, found, rfl⟩ := List.mem_map.mp inside
        exact none ((mem_tracesToEvaluate_iff named lastRunTime a (of_decide_eq_true span)).mp found).2.2.2
      left
      simp only [autoRows, evaluating, List.countP_append, nothing]
      omega
  | @finish before after run trace services config begun =>
    have row : (getEvaluationConfigForTrace services trace config "auto").2.toList.countP
        (fun e => e.span_id = spanId ∧ e.source = "auto") ≤ if trace.spanId = spanId then 1 else 0 := by
      cases stored : (getEvaluationConfigForTrace services trace config "auto").2 with
      | none => simp
      | some e => simp [List.countP_cons, evaluated_row stored]
    left
    simp only [autoRows, evaluating, begun, List.countP_append, List.countP_cons, decide_eq_true_eq]
    omega
  | manual asked =>
    left
    simp [autoRows, evaluating, List.countP_append, manual_source asked]

/-- If never more than some number of evaluations of a span are under way while it has no row, it never gets more rows. -/
theorem run_rows {limit : Nat} {start st : State}
    (run : Relation.ReflTransGen (fun a b => Step a b ∧ (autoRows spanId b = 0 → evaluating spanId b ≤ limit)) start st)
    (initial : autoRows spanId start + evaluating spanId start ≤ limit) :
    autoRows spanId st + evaluating spanId st ≤ limit := by
  induction run with
  | refl => exact initial
  | tail _ next ih =>
    rcases step_rows named next.1 with fewer | ⟨-, none⟩
    · exact fewer.trans ih
    · have few := next.2 none
      omega

/-- In any interleaving the runs evaluate a span only until it has a row with
    source `auto`, and what users ask for makes no difference. -/
theorem automatic_evaluations (limit : Nat) (start st : State)
    (run : Relation.ReflTransGen (fun a b => Step a b ∧ (autoRows spanId b = 0 → evaluating spanId b ≤ limit)) start st)
    (initial : autoRows spanId start + evaluating spanId start ≤ limit) :
    autoRows spanId st ≤ limit ∧
      (∀ lastRunTime trace, trace.spanId = spanId →
        (trace ∈ tracesToEvaluate lastRunTime st.traces st.evaluations ↔
          trace ∈ st.traces ∧ supported trace = true ∧ arrivedSince lastRunTime trace = true ∧ autoRows spanId st = 0)) ∧
      ∀ e, Manual e → ∀ lastRunTime,
        tracesToEvaluate lastRunTime st.traces (st.evaluations ++ [e]) = tracesToEvaluate lastRunTime st.traces st.evaluations := by
  refine ⟨?_, ?_, ?_⟩
  · have few := run_rows named run initial
    omega
  · intro lastRunTime trace span
    exact mem_tracesToEvaluate_iff named lastRunTime st span
  · intro e asked lastRunTime
    exact tracesToEvaluate_manual asked lastRunTime st.traces st.evaluations

end

def sampleTrace : TraceRow :=
  { serviceName := "app"
    spanName := "chat gpt-4o"
    spanKind := "Client"
    duration := 1200
    statusCode := "Ok"
    spanAttributes := fun name => if name = "gen_ai.operation.name" then some "chat" else none
    resourceAttributes := fun _ => none
    spanId := "5fb397be34d26b51"
    timestamp := 1714557600
    timestampText := "2024-05-01 10:00:00.000000000"
    prompt := some "Who wrote Hamlet?"
    response := some "Shakespeare" }
def sampleConfig : EvaluationConfig :=
  { id := "e1", databaseConfigId := "d1", provider := "openai", model := "gpt-4o", secret := "sk", evaluationTypes := [] }
/-- The model answers, and the row is stored. -/
def sampleServices : Services :=
  { contexts := fun _ _ => ⟨[], [], []⟩, runEvaluation := fun _ => .ok none, storeError := none }
def sampleRow : EvaluationRow :=
  { span_id := sampleTrace.spanId, «meta» := metaBase sampleConfig sampleTrace ⟨[], [], []⟩ "auto" none }
theorem sample_query : tracesToEvaluate none [sampleTrace] [] = [sampleTrace] := by
  simp [tracesToEvaluate, leftJoin, supported, sampleTrace, SUPPORTED_EVALUATION_OPERATIONS, arrivedSince]
theorem begin_sample (run : Nat) (underWay : List (Nat × TraceRow)) :
    Step ⟨[sampleTrace], [], underWay⟩ ⟨[sampleTrace], [], underWay ++ [(run, sampleTrace)]⟩ := by
  have step := Step.begin ⟨[sampleTrace], [], underWay⟩ run none
  rw [sample_query] at step
  exact step
theorem finish_sample (run : Nat) (evaluations : List EvaluationRow) (underWay : List (Nat × TraceRow)) :
    Step ⟨[sampleTrace], evaluations, (run, sampleTrace) :: underWay⟩ ⟨[sampleTrace], evaluations ++ [sampleRow], underWay⟩ :=
  @Step.finish ⟨[sampleTrace], evaluations, (run, sampleTrace) :: underWay⟩ [] underWay run sampleTrace sampleServices sampleConfig rfl

theorem automatic_evaluations_sample :
    autoRows sampleTrace.spanId ⟨[sampleTrace], [sampleRow], []⟩ ≤ 1 :=
  (automatic_evaluations (show sampleTrace.spanId ≠ "" by decide) 1 ⟨[sampleTrace], [], []⟩ _
    ((Relation.ReflTransGen.single ⟨begin_sample 1 [], fun _ => by decide⟩).tail ⟨finish_sample 1 [] [], fun _ => by decide⟩)
    (by decide)).1
/-- Two runs make the query before either has stored the row. -/
theorem overlapping_runs :
    ∃ st, Relation.ReflTransGen Step ⟨[sampleTrace], [], []⟩ st ∧ autoRows sampleTrace.spanId st = 2 := by
  refine ⟨⟨[sampleTrace], [sampleRow, sampleRow], []⟩, ?_, by decide⟩
  refine .head (begin_sample 1 []) (.head (begin_sample 2 [(1, sampleTrace)]) ?_)
  exact .head (finish_sample 1 [] [(2, sampleTrace)]) (.single (finish_sample 2 [sampleRow] []))

end Openlit.AutoEvaluations
