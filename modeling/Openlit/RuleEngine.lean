import Openlit.Relations
import Openlit.Text

/-!
The rule engine (`lib/platform/rule-engine/evaluate.ts`): the query that
compiles the conditions of all rules to joins and aggregates over an inline
table of the input fields. The literals of the query are taken to read as the
texts that they are made from. A match is a `UInt8` of 0 or 1, here a truth
value, whose `min` over a group is `all` and whose `max` is `any`. The order of
the rows and the data of the linked entities are left out.
-/
namespace Openlit.RuleEngine
open Openlit.Text Openlit.Relations

inductive RuleGroupOperator
  | and
  | or
  deriving DecidableEq, Repr
inductive RuleStatus
  | active
  | inactive
  deriving DecidableEq, Repr
inductive RuleConditionOperator
  | equals
  | notEquals
  | contains
  | notContains
  | startsWith
  | endsWith
  | regex
  | opIn
  | notIn
  | gt
  | gte
  | lt
  | lte
  | between
  deriving DecidableEq, Repr
inductive RuleConditionDataType
  | string
  | number
  | boolean
  deriving DecidableEq, Repr
inductive RuleEntityType
  | context
  | prompt
  | evaluation
  deriving DecidableEq, Repr

/-! ### The tables -/

structure Rule where
  id : String
  group_operator : RuleGroupOperator
  status : RuleStatus
structure RuleConditionGroup where
  id : String
  rule_id : String
  condition_operator : RuleGroupOperator
structure RuleCondition where
  rule_id : String
  group_id : String
  field : String
  operator : RuleConditionOperator
  value : String
  data_type : RuleConditionDataType
structure RuleEntity where
  id : String
  rule_id : String
  entity_type : RuleEntityType
  entity_id : String
/-- The four tables. Ids are generated UUIDs, and a condition is only ever
    inserted with its group, for the same rule. -/
structure RuleStore where
  rules : List Rule
  groups : List RuleConditionGroup
  conditions : List RuleCondition
  entities : List RuleEntity
  ruleIds : (rules.map (·.id)).Nodup
  groupIds : (groups.map (·.id)).Nodup
  owned : ∀ c ∈ conditions, ∀ g ∈ groups, g.id = c.group_id → g.rule_id = c.rule_id

/-! ### The input -/

/-- The platforms' numbers: `String(n)` of JavaScript, and ClickHouse's
    `Float64` with its reading of a text and its comparisons. A regular
    expression that does not compile makes ClickHouse reject the query. -/
class Platform where
  JsNumber : Type
  numberText : JsNumber → String
  Float64 : Type
  toFloat64OrZero : String → Float64
  eq : Float64 → Float64 → Bool
  lt : Float64 → Float64 → Bool
  le : Float64 → Float64 → Bool
  regexMatch : String → String → Option Bool

section
variable [Platform]
open Platform

inductive FieldValue
  | string (s : String)
  | number (n : JsNumber)
  | boolean (b : Bool)
/-- A field value as `String(v)`. -/
def FieldValue.text : FieldValue → String
  | .string s => s
  | .number n => numberText n
  | .boolean b => if b then "true" else "false"
/-- `Record<string, string | number | boolean>`. -/
structure InputFields where
  entries : List (String × FieldValue)
  keys : (entries.map (·.1)).Nodup
/-- The rows of `input_values`. -/
def inputValues (fields : InputFields) : List (String × String) := fields.entries.map fun entry => (entry.1, entry.2.text)

/-! ### The query -/

def splitByChar (s : String) (index : Nat) : String := ((split s ',')[index - 1]?).getD ""
/-- The `multiIf` of a condition on the value of its field. -/
def conditionMatch (c : RuleCondition) (value : String) : Option Bool :=
  let number := toFloat64OrZero value
  let bound := toFloat64OrZero c.value
  match c.data_type, c.operator with
  | .string, .equals => some (value = c.value)
  | .string, .notEquals => some (value ≠ c.value)
  | .string, .contains => some (contains value c.value)
  | .string, .notContains => some !(contains value c.value)
  | .string, .startsWith => some (hasPrefix value c.value)
  | .string, .endsWith => some (hasSuffix value c.value)
  | .string, .regex => regexMatch value c.value
  | .string, .opIn => some (value ∈ split c.value ',')
  | .string, .notIn => some (value ∉ split c.value ',')
  | .number, .equals => some (eq number bound)
  | .number, .notEquals => some !(eq number bound)
  | .number, .gt => some (lt bound number)
  | .number, .gte => some (le bound number)
  | .number, .lt => some (lt number bound)
  | .number, .lte => some (le number bound)
  | .number, .between =>
    some (le (toFloat64OrZero (splitByChar c.value 1)) number && le number (toFloat64OrZero (splitByChar c.value 2)))
  | .boolean, .equals => some (value = c.value)
  | _, _ => some false

structure ConditionMatch where
  rule_id : String
  group_id : String
  condition_match : Bool
structure GroupMatch where
  rule_id : String
  group_id : String
  group_match : Bool
structure RuleMatch where
  rule_id : String
  rule_match : Bool

/-- `condition_matches`; `none` where the query is rejected. -/
def conditionMatches (store : RuleStore) (input : List (String × String)) : Option (List ConditionMatch) :=
  (innerJoin (fun c iv => iv.1 = c.field) store.conditions input).mapM fun row =>
    (conditionMatch row.1 row.2.2).map fun matched =>
      { rule_id := row.1.rule_id, group_id := row.1.group_id, condition_match := matched }

end

/-- `CASE WHEN operator = 'AND' THEN min(..) ELSE max(..) END` over a group, which has a row. -/
def aggregate (operator : RuleGroupOperator) (values : List Bool) : Bool :=
  if operator = .and then values.all id else values.any id
/-- `group_matches`. -/
def groupMatches (store : RuleStore) (cms : List ConditionMatch) : List GroupMatch :=
  (groupBy (fun row => (row.1.rule_id, row.1.group_id, row.2.condition_operator))
    (innerJoin (fun cm g => g.id = cm.group_id) cms store.groups)).map fun group =>
      { rule_id := group.1.1
        group_id := group.1.2.1
        group_match := aggregate group.1.2.2 (group.2.map (·.1.condition_match)) }
/-- `rule_matches`. -/
def ruleMatches (store : RuleStore) (gms : List GroupMatch) : List RuleMatch :=
  (groupBy (fun row => (row.1.rule_id, row.2.group_operator))
    ((innerJoin (fun gm r => r.id = gm.rule_id) gms store.rules).filter (·.2.status = .active))).map fun group =>
      { rule_id := group.1.1
        rule_match := aggregate group.1.2 (group.2.map (·.1.group_match)) }
/-- The rows of the query: the matching rules with their entities of the type. -/
def matchingEntities (store : RuleStore) (rms : List RuleMatch) (entity_type : RuleEntityType) :
    List (RuleMatch × RuleEntity) :=
  (innerJoin (fun rm re => re.rule_id = rm.rule_id) rms store.entities).filter fun row =>
    row.1.rule_match && row.2.entity_type = entity_type

structure EvaluateResult where
  matchingRuleIds : List String
  entities : List (String × RuleEntityType × String)

/-- The ids and the entities of the rows; `new Set` keeps the first of equal ids. -/
def evaluateResult (rows : List (RuleMatch × RuleEntity)) : EvaluateResult :=
  { matchingRuleIds := (rows.map (·.1.rule_id)).eraseDups
    entities := rows.map fun row => (row.1.rule_id, row.2.entity_type, row.2.entity_id) }
/-- `evaluateRules`, without the data of the entities; `none` where it throws. -/
def evaluateRules [Platform] (store : RuleStore) (fields : InputFields) (entity_type : RuleEntityType) :
    Option EvaluateResult :=
  if fields.entries.length = 0 then some { matchingRuleIds := [], entities := [] }
  else do
    let cms ← conditionMatches store (inputValues fields)
    pure (evaluateResult (matchingEntities store (ruleMatches store (groupMatches store cms)) entity_type))

end Openlit.RuleEngine
