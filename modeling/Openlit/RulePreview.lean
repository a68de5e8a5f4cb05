import Openlit.RuleEngine

/-!
The preview of a rule (`api/rule-engine/rules/[id]/preview/route.ts`), which
evaluates the rule on traces in TypeScript, and the fields that an evaluation
takes from a trace (`lib/platform/evaluation/rule-engine-context.ts`). The
choice of the 100 latest traces and of the first five matches is left out.
-/
namespace Openlit.RulePreview
open Openlit.Text Openlit.RuleEngine

/-- A row of the traces. The attributes are maps from names to texts. -/
structure TraceRow where
  serviceName : String
  spanName : String
  spanKind : String
  duration : Int
  statusCode : String
  spanAttributes : String → Option String
  resourceAttributes : String → Option String

/-! ### The fields of a trace -/

def TRACE_TO_RULE_FIELDS : List (String × (TraceRow → Option String)) :=
  [("ServiceName", fun t => some t.serviceName),
   ("SpanName", fun t => some t.spanName),
   ("SpanKind", fun t => some t.spanKind),
   ("StatusCode", fun t => some t.statusCode),
   ("deployment.environment", fun t =>
     (t.resourceAttributes "deployment.environment").or (t.spanAttributes "deployment.environment")),
   ("service.name", fun t => t.resourceAttributes "service.name"),
   ("gen_ai.system", fun t => t.spanAttributes "gen_ai.system"),
   ("gen_ai.request.model", fun t => t.spanAttributes "gen_ai.request.model")]
/-- The texts that are there and not empty. -/
def extractedTexts (entries : List (String × (TraceRow → Option String))) (trace : TraceRow) : List (String × String) :=
  entries.filterMap fun entry => (present (entry.2 trace)).map (entry.1, ·)
theorem extractedTexts_keys (entries : List (String × (TraceRow → Option String))) (trace : TraceRow) :
    ((extractedTexts entries trace).map (·.1)).Sublist (entries.map (·.1)) := by
  induction entries with
  | nil => exact .slnil
  | cons entry rest ih =>
    cases found : present (entry.2 trace) with
    | none => simpa [extractedTexts, found] using ih.cons entry.1
    | some text => simpa [extractedTexts, found] using ih.cons_cons entry.1
/-- `extractRuleEngineFieldsFromTrace`. -/
def extractRuleEngineFieldsFromTrace [Platform] (trace : TraceRow) : InputFields where
  entries := (extractedTexts TRACE_TO_RULE_FIELDS trace).map fun entry => (entry.1, .string entry.2)
  keys := by
    have fields : (TRACE_TO_RULE_FIELDS.map (·.1)).Nodup := by decide
    simpa [Function.comp_def] using fields.sublist (extractedTexts_keys TRACE_TO_RULE_FIELDS trace)

/-! ### The preview -/

/-- The numbers and regular expressions of JavaScript: `parseFloat`, where `none` is `NaN`, and
    the test of a text, where `none` is an expression that does not compile. -/
class PreviewPlatform extends Platform where
  parseFloat : String → Option Float64
  regExpTest : String → String → Option Bool

structure Condition where
  field : String
  operator : RuleConditionOperator
  value : String
  data_type : RuleConditionDataType
structure ConditionGroup where
  condition_operator : RuleGroupOperator
  conditions : List Condition

/-- The column of a field; ClickHouse reads an attribute that is not there as the empty text. -/
def getTraceFieldValue (trace : TraceRow) (field : String) : String :=
  let mapped (attributes : String → Option String) := (attributes field).getD ""
  match field with
  | "ServiceName" => trace.serviceName
  | "SpanName" => trace.spanName
  | "SpanKind" => trace.spanKind
  | "Duration" => toString trace.duration
  | "StatusCode" => trace.statusCode
  | "deployment.environment" => mapped trace.spanAttributes
  | "service.name" => mapped trace.resourceAttributes
  | "gen_ai.system" => mapped trace.spanAttributes
  | "gen_ai.request.model" => mapped trace.spanAttributes
  | "gen_ai.usage.input_tokens" => mapped trace.spanAttributes
  | "gen_ai.usage.output_tokens" => mapped trace.spanAttributes
  | "gen_ai.usage.total_cost" => mapped trace.spanAttributes
  | "gen_ai.request.temperature" => mapped trace.spanAttributes
  | _ => ""

section
variable [PreviewPlatform]
open Platform PreviewPlatform

/-- The comparisons of `evalCondition`; none with `NaN` holds, so that it differs from every number. -/
def evalNumber (cond : Condition) (tv : Float64) : Bool :=
  let cv := parseFloat cond.value
  match cond.operator with
  | .equals => cv.any (eq tv ·)
  | .notEquals => !cv.any (eq tv ·)
  | .gt => cv.any (lt · tv)
  | .gte => cv.any (le · tv)
  | .lt => cv.any (lt tv ·)
  | .lte => cv.any (le tv ·)
  | .between =>
    let bounds := (split cond.value ',').map parseFloat
    (bounds[0]?.join).any (le · tv) && (bounds[1]?.join).any (le tv ·)
  | _ => false
/-- The texts of `evalCondition`. -/
def evalText (cond : Condition) (traceValue : String) : Bool :=
  match cond.operator with
  | .equals => traceValue = cond.value
  | .notEquals => traceValue ≠ cond.value
  | .contains => contains traceValue cond.value
  | .notContains => !contains traceValue cond.value
  | .startsWith => hasPrefix traceValue cond.value
  | .endsWith => hasSuffix traceValue cond.value
  | .regex => (regExpTest cond.value traceValue).getD false
  | .opIn => traceValue ∈ (split cond.value ',').map trim
  | .notIn => traceValue ∉ (split cond.value ',').map trim
  | _ => false
def evalCondition (cond : Condition) (traceValue : String) : Bool :=
  match cond.data_type with
  | .number =>
    match parseFloat traceValue with
    | none => false
    | some tv => evalNumber cond tv
  | _ => evalText cond traceValue

def evaluateGroup (group : ConditionGroup) (trace : TraceRow) : Bool :=
  if group.conditions.length = 0 then false
  else aggregate group.condition_operator
    (group.conditions.map fun cond => evalCondition cond (getTraceFieldValue trace cond.field))
def evaluateRule (groups : List ConditionGroup) (groupOperator : RuleGroupOperator) (trace : TraceRow) : Bool :=
  if groups.length = 0 then false else aggregate groupOperator (groups.map (evaluateGroup · trace))

end

def toCondition (c : RuleCondition) : Condition := ⟨c.field, c.operator, c.value, c.data_type⟩
/-- The groups of a rule as `getRuleById` reads them. -/
def conditionGroups (store : RuleStore) (ruleId : String) : List ConditionGroup :=
  let conditions := store.conditions.filter (·.rule_id = ruleId)
  (store.groups.filter (·.rule_id = ruleId)).map fun group =>
    { condition_operator := group.condition_operator
      conditions := (conditions.filter (·.group_id = group.id)).map toCondition }
/-- Whether the preview of a rule lists a trace. -/
def preview [PreviewPlatform] (store : RuleStore) (rule : Rule) (trace : TraceRow) : Bool :=
  evaluateRule (conditionGroups store rule.id) rule.group_operator trace

end Openlit.RulePreview
