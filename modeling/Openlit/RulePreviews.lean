import Openlit.RulePreview
import Openlit.RuleSemantics

/-!
The preview of a rule against its evaluation. The evaluation knows eight fields
and drops the conditions on others; it reads numbers and lists in its own way and
compares truth values for equality alone. The two agree on all rules that can be
made of some conditions exactly where each condition is read alike, or none passes.
-/
namespace Openlit.RulePreviews
open Openlit.Text Openlit.RuleEngine Openlit.RuleSemantics Openlit.RulePreview

section
variable [PreviewPlatform]
open Platform PreviewPlatform

/-! ### Conditions that are read alike -/

/-- What a number is compared with. -/
structure Bounds where
  value : Option Float64
  low : Option Float64
  high : Option Float64
def parsedBounds (value : String) : Bounds where
  value := parseFloat value
  low := (split value ',')[0]?.bind parseFloat
  high := (split value ',')[1]?.bind parseFloat
def queryBounds (value : String) : Bounds where
  value := some (toFloat64OrZero value)
  low := some (toFloat64OrZero (splitByChar value 1))
  high := some (toFloat64OrZero (splitByChar value 2))
def compared (operator : RuleConditionOperator) (bounds : Bounds) (number : Float64) : Bool :=
  match operator with
  | .equals => bounds.value.any (eq number ·)
  | .notEquals => !bounds.value.any (eq number ·)
  | .gt => bounds.value.any (lt · number)
  | .gte => bounds.value.any (le · number)
  | .lt => bounds.value.any (lt number ·)
  | .lte => bounds.value.any (le number ·)
  | .between => bounds.low.any (le · number) && bounds.high.any (le number ·)
  | _ => false

/-- The text of the preview and that of the evaluation lead to one answer: the numbers that are
    read compare alike, a trimmed list has the one exactly if the list has the other, and a
    truth value is compared for equality or fails the preview. -/
def ReadAlike (cond : Condition) (shown text : String) : Prop :=
  match cond.data_type, cond.operator with
  | .number, operator =>
    (parseFloat shown).any (compared operator (parsedBounds cond.value)) =
      compared operator (queryBounds cond.value) (toFloat64OrZero text)
  | .string, .opIn | .string, .notIn => shown ∈ (split cond.value ',').map trim ↔ text ∈ split cond.value ','
  | .string, _ => evalText cond shown = evalText cond text
  | .boolean, .equals => shown = cond.value ↔ text = cond.value
  | .boolean, _ => evalText cond shown = false

def stored (cond : Condition) (rule_id group_id : String) : RuleCondition where
  rule_id := rule_id
  group_id := group_id
  field := cond.field
  operator := cond.operator
  value := cond.value
  data_type := cond.data_type
/-- The condition's field has a text that the evaluation reads as the preview reads its column. -/
def Alike (trace : TraceRow) (cond : Condition) : Prop :=
  ∃ text, (cond.field, text) ∈ inputValues (extractRuleEngineFieldsFromTrace trace) ∧
    ReadAlike cond (getTraceFieldValue trace cond.field) text
/-- The condition passes on neither side. -/
def Fails (trace : TraceRow) (cond : Condition) : Prop :=
  evalCondition cond (getTraceFieldValue trace cond.field) = false ∧
    ∀ text, (cond.field, text) ∈ inputValues (extractRuleEngineFieldsFromTrace trace) →
      conditionMatch (stored cond "" "") text ≠ some true

/-- A rule that an evaluation looks at, of conditions of a kind. Groups of a conjunction have one at least. -/
structure MadeOf (store : RuleStore) (entity_type : RuleEntityType) (rule : Rule) (kind : Condition → Prop) : Prop where
  stored : rule ∈ store.rules
  active : rule.status = .active
  entity : HasEntity store entity_type rule
  groups : rule.group_operator = .and → ∀ g, InRule store rule g → ∃ c, InGroup store g c
  conditions : ∀ g, InRule store rule g → ∀ c, InGroup store g c → kind (toCondition c)
/-- The preview lists a trace exactly if an evaluation of the trace's fields returns the rule. -/
def Agrees (store : RuleStore) (entity_type : RuleEntityType) (rule : Rule) (trace : TraceRow) : Prop :=
  ∀ result, evaluateRules store (extractRuleEngineFieldsFromTrace trace) entity_type = some result →
    (preview store rule trace = true ↔ rule.id ∈ result.matchingRuleIds)

/-! ### One condition -/

theorem evalCondition_number {cond : Condition} (number : cond.data_type = .number) (text : String) :
    evalCondition cond text = (parseFloat text).any (compared cond.operator (parsedBounds cond.value)) := by
  rw [evalCondition, number]
  cases parseFloat text with
  | none => rfl
  | some tv =>
    simp only [Option.any_some, evalNumber, compared, parsedBounds, List.getElem?_map]
    cases cond.operator with
    | between => cases (split cond.value ',')[0]? <;> cases (split cond.value ',')[1]? <;> rfl
    | _ => rfl
theorem conditionMatch_number {c : RuleCondition} (number : c.data_type = .number) (text : String) :
    conditionMatch c text = some (compared c.operator (queryBounds c.value) (toFloat64OrZero text)) := by
  rw [conditionMatch, number]
  cases c.operator <;> rfl

theorem readAlike_iff {c : RuleCondition} (plain : c.operator ≠ .regex) (shown text : String) :
    ReadAlike (toCondition c) shown text ↔ (evalCondition (toCondition c) shown = true ↔ conditionMatch c text = some true) := by
  cases type : c.data_type with
  | number =>
    have number : (toCondition c).data_type = .number := type
    rw [evalCondition_number number, conditionMatch_number type, ReadAlike, number, Option.some.injEq]
    exact Bool.eq_iff_iff
  | string =>
    cases operator : c.operator with
    | notIn =>
      simp only [ReadAlike, evalCondition, evalText, conditionMatch, toCondition, type, operator, Option.some.injEq,
        decide_eq_true_iff]
      exact not_iff_not.symm
    | notEquals =>
      simp only [ReadAlike, evalCondition, evalText, conditionMatch, toCondition, type, operator, Option.some.injEq,
        decide_eq_true_iff, decide_eq_decide]
    | _ => simp_all [ReadAlike, evalCondition, evalText, conditionMatch, toCondition]
  | boolean =>
    cases operator : c.operator <;>
      simp_all [ReadAlike, evalCondition, evalText, conditionMatch, toCondition]

/-! ### A rule -/

/-- The preview of a condition passes. -/
def Shown (trace : TraceRow) (c : RuleCondition) : Prop :=
  evalCondition (toCondition c) (getTraceFieldValue trace c.field) = true
def GroupShown (store : RuleStore) (trace : TraceRow) (g : RuleConditionGroup) : Prop :=
  (∃ c, InGroup store g c) ∧ Combined g.condition_operator (InGroup store g) (Shown trace)

omit [PreviewPlatform] in
/-- An aggregate over rows, of which there is one, decides the formula of the items that they stand for. -/
theorem aggregate_rows {α : Type} (operator : RuleGroupOperator) {rows : List α} {matched : α → Bool} {items holds : α → Prop}
    (members : ∀ a, a ∈ rows ↔ items a) (same : ∀ a, items a → (matched a = true ↔ holds a)) :
    (if rows.length = 0 then false else aggregate operator (rows.map matched)) = true ↔
      (∃ a, items a) ∧ Combined operator items holds := by
  have decided : aggregate operator (rows.map matched) = true ↔ Combined operator items holds :=
    (aggregate_iff operator rows matched).trans (combined_iff
      (fun a row => ⟨a, (members a).mp row, same a ((members a).mp row)⟩)
      fun a item => ⟨a, (members a).mpr item, same a item⟩)
  by_cases none : rows.length = 0
  · rw [if_pos none]
    constructor
    · exact nofun
    · rintro ⟨⟨a, item⟩, -⟩
      have row := (members a).mpr item
      rw [List.length_eq_zero_iff.mp none] at row
      cases row
  · obtain ⟨a, row⟩ := List.length_pos_iff_exists_mem.mp (Nat.pos_of_ne_zero none)
    rw [if_neg none, decided]
    exact (and_iff_right ⟨a, (members a).mp row⟩).symm

/-- The conditions of a group as the preview reads them. -/
def readConditions (store : RuleStore) (g : RuleConditionGroup) : List RuleCondition :=
  (store.conditions.filter (·.rule_id = g.rule_id)).filter (·.group_id = g.id)
omit [PreviewPlatform] in
theorem mem_readConditions {store : RuleStore} {g : RuleConditionGroup} (inGroups : g ∈ store.groups) (c : RuleCondition) :
    c ∈ readConditions store g ↔ InGroup store g c := by
  simp only [readConditions, List.mem_filter, decide_eq_true_iff, InGroup]
  constructor
  · rintro ⟨⟨condition, -⟩, group⟩
    exact ⟨condition, group⟩
  · rintro ⟨condition, group⟩
    exact ⟨⟨condition, (store.owned c condition g inGroups group.symm).symm⟩, group⟩
theorem groupShown_iff {store : RuleStore} {g : RuleConditionGroup} (inGroups : g ∈ store.groups) (trace : TraceRow) :
    evaluateGroup ⟨g.condition_operator, (readConditions store g).map toCondition⟩ trace = true ↔ GroupShown store trace g := by
  rw [evaluateGroup, List.map_map, List.length_map]
  exact aggregate_rows g.condition_operator (mem_readConditions inGroups) fun _ _ => Iff.rfl
/-- The preview decides the rule's formula, of the answers that it has. -/
theorem preview_iff (store : RuleStore) (rule : Rule) (trace : TraceRow) : preview store rule trace = true ↔
    (∃ g, InRule store rule g) ∧ Combined rule.group_operator (InRule store rule) (GroupShown store trace) := by
  have members (g : RuleConditionGroup) : g ∈ store.groups.filter (·.rule_id = rule.id) ↔ InRule store rule g := by
    rw [List.mem_filter, decide_eq_true_iff, InRule]
  have read : conditionGroups store rule.id = (store.groups.filter (·.rule_id = rule.id)).map fun g =>
      ⟨g.condition_operator, (readConditions store g).map toCondition⟩ := by
    refine List.map_congr_left fun g inside => ?_
    rw [readConditions, ((members g).mp inside).2]
  rw [preview, evaluateRule, read, List.length_map, List.map_map]
  exact aggregate_rows rule.group_operator members fun g inside => groupShown_iff inside.1 trace

/-! ### The preview and the query -/

/-- The rows of the input that an evaluation of a trace works on. -/
def traceInput (trace : TraceRow) : List (String × String) := inputValues (extractRuleEngineFieldsFromTrace trace)

theorem returned_iff {store : RuleStore} {fields : InputFields} {entity_type : RuleEntityType} {rule : Rule} {result : EvaluateResult}
    (inRules : rule ∈ store.rules) (active : rule.status = .active) (entity : HasEntity store entity_type rule)
    (ran : evaluateRules store fields entity_type = some result) :
    rule.id ∈ result.matchingRuleIds ↔ QueryHolds store (inputValues fields) rule := by
  rcases evaluateRules_cases store fields entity_type with ⟨rejected, -⟩ | ⟨-, result', ran', returned⟩
  · cases rejected.symm.trans ran
  · obtain rfl := Option.some.inj (ran.symm.trans ran')
    rw [returned]
    constructor
    · rintro ⟨other, inside, same, -, -, holds⟩
      obtain rfl := List.inj_on_of_nodup_map store.ruleIds inside inRules same
      exact holds
    · intro holds
      exact ⟨rule, inRules, rfl, active, entity, holds⟩

theorem satisfied_read {trace : TraceRow} {c : RuleCondition} {text : String} (present : (c.field, text) ∈ traceInput trace) :
    Satisfied (traceInput trace) c ↔ conditionMatch c text = some true := by
  constructor
  · rintro ⟨value, there, answer⟩
    rwa [inputValues_unique present there]
  · intro answer
    exact ⟨text, present, answer⟩
theorem present_of_satisfied {input : List (String × String)} {c : RuleCondition} (satisfied : Satisfied input c) : Present input c := by
  obtain ⟨value, there, -⟩ := satisfied
  exact ⟨value, there⟩
theorem alike_iff {trace : TraceRow} {c : RuleCondition} (plain : c.operator ≠ .regex) :
    Alike trace (toCondition c) ↔ Present (traceInput trace) c ∧ (Shown trace c ↔ Satisfied (traceInput trace) c) := by
  constructor
  · rintro ⟨text, present, alike⟩
    exact ⟨⟨text, present⟩, ((readAlike_iff plain _ _).mp alike).trans (satisfied_read present).symm⟩
  · rintro ⟨⟨text, present⟩, same⟩
    exact ⟨text, present, (readAlike_iff plain _ _).mpr (same.trans (satisfied_read present))⟩
theorem fails_iff {trace : TraceRow} {c : RuleCondition} :
    Fails trace (toCondition c) ↔ ¬ Shown trace c ∧ ¬ Satisfied (traceInput trace) c := by
  refine and_congr (Bool.not_eq_true _).symm.to_iff ?_
  constructor
  · rintro unmatched ⟨text, present, answer⟩
    exact unmatched text present answer
  · intro unsatisfied text present answer
    exact unsatisfied ⟨text, present, answer⟩

omit [PreviewPlatform] in
theorem combined_some {α : Type} {operator : RuleGroupOperator} {items holds : α → Prop}
    (combined : (∃ a, items a) ∧ Combined operator items holds) : ∃ a, items a ∧ holds a := by
  obtain ⟨⟨a, item⟩, combined⟩ := combined
  cases operator with
  | and => exact ⟨a, item, combined a item⟩
  | or => exact combined

section
variable {store : RuleStore} {entity_type : RuleEntityType} {rule : Rule} {kind : Condition → Prop} {trace : TraceRow}
  (made : MadeOf store entity_type rule kind)
include made

/-- Conditions that are read alike make the same formula. -/
theorem preview_of_alike (plain : ∀ cond, kind cond → cond.operator ≠ .regex) (alike : ∀ cond, kind cond → Alike trace cond) :
    preview store rule trace = true ↔ QueryHolds store (traceInput trace) rule := by
  have read (g : RuleConditionGroup) (inRule : InRule store rule g) (c : RuleCondition) (inside : InGroup store g c) :
      Present (traceInput trace) c ∧ (Shown trace c ↔ Satisfied (traceInput trace) c) := by
    have listed := made.conditions g inRule c inside
    exact (alike_iff (plain _ listed)).mp (alike _ listed)
  have group (g : RuleConditionGroup) (inRule : InRule store rule g) :
      GroupShown store trace g ↔ Live store (traceInput trace) g ∧ Passes store (traceInput trace) g := by
    refine and_congr ?_ (combined_iff ?_ ?_)
    · exact exists_congr fun c => ⟨fun inside => ⟨inside, (read g inRule c inside).1⟩, And.left⟩
    · exact fun c inside => ⟨c, ⟨inside, (read g inRule c inside).1⟩, (read g inRule c inside).2⟩
    · exact fun c there => ⟨c, there.1, (read g inRule c there.1).2⟩
  rw [preview_iff, QueryHolds]
  cases operator : rule.group_operator with
  | and =>
    have live (g : RuleConditionGroup) (inRule : InRule store rule g) : Live store (traceInput trace) g := by
      obtain ⟨c, inside⟩ := made.groups operator g inRule
      exact ⟨c, inside, (read g inRule c inside).1⟩
    constructor
    · rintro ⟨⟨g, inRule⟩, all⟩
      exact ⟨⟨g, inRule, live g inRule⟩, fun h there => ((group h there.1).mp (all h there.1)).2⟩
    · rintro ⟨⟨g, inRule, -⟩, all⟩
      exact ⟨⟨g, inRule⟩, fun h there => (group h there).mpr ⟨live h there, all h ⟨there, live h there⟩⟩⟩
  | or =>
    constructor
    · rintro ⟨-, g, inRule, shown⟩
      obtain ⟨live, passes⟩ := (group g inRule).mp shown
      exact ⟨⟨g, inRule, live⟩, g, ⟨inRule, live⟩, passes⟩
    · rintro ⟨-, g, ⟨inRule, live⟩, passes⟩
      exact ⟨⟨g, inRule⟩, g, inRule, (group g inRule).mpr ⟨live, passes⟩⟩

/-- Of conditions that all fail nothing passes. -/
theorem preview_of_fails (fails : ∀ cond, kind cond → Fails trace cond) :
    ¬ preview store rule trace = true ∧ ¬ QueryHolds store (traceInput trace) rule := by
  have fail (g : RuleConditionGroup) (inRule : InRule store rule g) (c : RuleCondition) (inside : InGroup store g c) :
      ¬ Shown trace c ∧ ¬ Satisfied (traceInput trace) c := fails_iff.mp (fails _ (made.conditions g inRule c inside))
  constructor
  · intro shown
    obtain ⟨g, inRule, inGroup, holds⟩ := combined_some ((preview_iff store rule trace).mp shown)
    obtain ⟨c, inside, passes⟩ := combined_some ⟨inGroup, holds⟩
    exact (fail g inRule c inside).1 passes
  · intro holds
    obtain ⟨g, ⟨inRule, c, inside, present⟩, passes⟩ := combined_some holds
    obtain ⟨d, ⟨inside, -⟩, satisfied⟩ := combined_some ⟨⟨c, inside, present⟩, passes⟩
    exact (fail g inRule d inside).2 satisfied
end

/-! ### Rules of one group -/

def theRule : Rule := { id := "r", group_operator := .and, status := .active }
def theGroup : RuleConditionGroup := { id := "g", rule_id := "r", condition_operator := .and }
/-- A store with one rule, whose conditions are all to hold. -/
def oneGroup (conditions : List Condition) : RuleStore where
  rules := [theRule]
  groups := [theGroup]
  conditions := conditions.map (stored · "r" "g")
  entities := [{ id := "e", rule_id := "r", entity_type := .context, entity_id := "guide" }]
  ruleIds := by decide
  groupIds := by decide
  owned := by
    intro c member g inGroups _
    obtain ⟨cond, -, rfl⟩ := List.mem_map.mp member
    rw [List.mem_singleton.mp inGroups]
    rfl

/-- The preview agrees with the evaluation on all rules that are made of conditions of a kind. -/
def AgreesOn (kind : Condition → Prop) (trace : TraceRow) : Prop :=
  ∀ (store : RuleStore) (entity_type : RuleEntityType) (rule : Rule),
    MadeOf store entity_type rule kind → Agrees store entity_type rule trace

omit [PreviewPlatform] in
theorem oneGroup_inRule {conditions : List Condition} {g : RuleConditionGroup} :
    InRule (oneGroup conditions) theRule g ↔ g = theGroup := by
  constructor
  · rintro ⟨inGroups, -⟩
    exact List.mem_singleton.mp inGroups
  · rintro rfl
    exact ⟨List.mem_singleton_self _, rfl⟩
omit [PreviewPlatform] in
theorem oneGroup_inGroup {conditions : List Condition} {c : RuleCondition} :
    InGroup (oneGroup conditions) theGroup c ↔ ∃ cond ∈ conditions, stored cond "r" "g" = c := by
  constructor
  · rintro ⟨member, -⟩
    exact List.mem_map.mp member
  · rintro ⟨cond, member, rfl⟩
    exact ⟨List.mem_map_of_mem member, rfl⟩
omit [PreviewPlatform] in
theorem oneGroup_madeOf {kind : Condition → Prop} {conditions : List Condition} (some_ : conditions ≠ [])
    (listed : ∀ cond ∈ conditions, kind cond) : MadeOf (oneGroup conditions) .context theRule kind where
  stored := List.mem_singleton_self _
  active := rfl
  entity := ⟨_, List.mem_singleton_self _, rfl, rfl⟩
  groups := by
    intro _ g inRule
    obtain ⟨cond, member⟩ := List.exists_mem_of_ne_nil conditions some_
    rw [oneGroup_inRule.mp inRule]
    exact ⟨_, oneGroup_inGroup.mpr ⟨cond, member, rfl⟩⟩
  conditions := by
    intro g inRule c inside
    rw [oneGroup_inRule.mp inRule] at inside
    obtain ⟨cond, member, rfl⟩ := oneGroup_inGroup.mp inside
    exact listed cond member

theorem conditionMatch_defined {c : RuleCondition} (plain : c.operator ≠ .regex) (text : String) : conditionMatch c text ≠ none := by
  rw [conditionMatch]
  split <;> simp_all
theorem oneGroup_evaluates {kind : Condition → Prop} (plain : ∀ cond, kind cond → cond.operator ≠ .regex)
    {conditions : List Condition} (listed : ∀ cond ∈ conditions, kind cond) (trace : TraceRow) :
    ∃ result, evaluateRules (oneGroup conditions) (extractRuleEngineFieldsFromTrace trace) .context = some result := by
  rcases evaluateRules_cases (oneGroup conditions) (extractRuleEngineFieldsFromTrace trace) .context with
    ⟨-, never⟩ | ⟨-, result, ran, -⟩
  · refine absurd (fun c member text _ => ?_) never
    obtain ⟨cond, listing, rfl⟩ := List.mem_map.mp member
    exact conditionMatch_defined (plain cond (listed cond listing)) text
  · exact ⟨result, ran⟩

/-- All conditions pass the preview exactly if there is one on a field of the input and all such ones are satisfied. -/
theorem oneGroup_agrees {kind : Condition → Prop} {trace : TraceRow} (plain : ∀ cond, kind cond → cond.operator ≠ .regex)
    (agrees : AgreesOn kind trace) {conditions : List Condition} (some_ : conditions ≠ []) (listed : ∀ cond ∈ conditions, kind cond) :
    (∀ cond ∈ conditions, Shown trace (stored cond "r" "g")) ↔
      (∃ cond ∈ conditions, Present (traceInput trace) (stored cond "r" "g")) ∧
        ∀ cond ∈ conditions, Present (traceInput trace) (stored cond "r" "g") →
          Satisfied (traceInput trace) (stored cond "r" "g") := by
  have made := oneGroup_madeOf some_ listed
  obtain ⟨result, ran⟩ := oneGroup_evaluates plain listed trace
  have same := agrees _ _ _ made result ran
  rw [returned_iff made.stored made.active made.entity ran, preview_iff] at same
  have shown : ((∃ g, InRule (oneGroup conditions) theRule g) ∧
      Combined theRule.group_operator (InRule (oneGroup conditions) theRule) (GroupShown (oneGroup conditions) trace)) ↔
      ∀ cond ∈ conditions, Shown trace (stored cond "r" "g") := by
    constructor
    · rintro ⟨-, all⟩ cond member
      exact (all theGroup (oneGroup_inRule.mpr rfl)).2 _ (oneGroup_inGroup.mpr ⟨cond, member, rfl⟩)
    · intro all
      refine ⟨⟨theGroup, oneGroup_inRule.mpr rfl⟩, fun g inRule => ?_⟩
      obtain ⟨cond, member⟩ := List.exists_mem_of_ne_nil conditions some_
      rw [oneGroup_inRule.mp inRule]
      refine ⟨⟨_, oneGroup_inGroup.mpr ⟨cond, member, rfl⟩⟩, fun c inside => ?_⟩
      obtain ⟨other, listing, rfl⟩ := oneGroup_inGroup.mp inside
      exact all other listing
  have queried : QueryHolds (oneGroup conditions) (traceInput trace) theRule ↔
      (∃ cond ∈ conditions, Present (traceInput trace) (stored cond "r" "g")) ∧
        ∀ cond ∈ conditions, Present (traceInput trace) (stored cond "r" "g") →
          Satisfied (traceInput trace) (stored cond "r" "g") := by
    constructor
    · rintro ⟨⟨g, inRule, c, inside, present⟩, all⟩
      obtain rfl := oneGroup_inRule.mp inRule
      obtain ⟨cond, member, rfl⟩ := oneGroup_inGroup.mp inside
      refine ⟨⟨cond, member, present⟩, fun other listing there => ?_⟩
      exact all theGroup ⟨inRule, _, inside, present⟩ _ ⟨oneGroup_inGroup.mpr ⟨other, listing, rfl⟩, there⟩
    · rintro ⟨⟨cond, member, present⟩, all⟩
      refine ⟨⟨theGroup, oneGroup_inRule.mpr rfl, _, oneGroup_inGroup.mpr ⟨cond, member, rfl⟩, present⟩, ?_⟩
      rintro g ⟨inRule, -⟩
      rw [oneGroup_inRule.mp inRule]
      rintro c ⟨inside, there⟩
      obtain ⟨other, listing, rfl⟩ := oneGroup_inGroup.mp inside
      exact all other listing there
  exact shown.symm.trans (same.trans queried)

/-- The preview agrees with the evaluation on all rules that can be made of some
    conditions exactly if each of them is read alike, or none of them passes. -/
theorem preview_agrees_iff (trace : TraceRow) (kind : Condition → Prop) (plain : ∀ cond, kind cond → cond.operator ≠ .regex) :
    AgreesOn kind trace ↔ (∀ cond, kind cond → Alike trace cond) ∨ ∀ cond, kind cond → Fails trace cond := by
  constructor
  · intro agrees
    by_cases alike : ∀ cond, kind cond → Alike trace cond
    · exact .inl alike
    · -- a condition that is not read alike is dropped, and beside one that passes the two would differ
      obtain ⟨odd, listed, unlike⟩ : ∃ cond, kind cond ∧ ¬ Alike trace cond := by simpa using alike
      have single (cond : Condition) (listing : kind cond) :
          Shown trace (stored cond "r" "g") ↔ Satisfied (traceInput trace) (stored cond "r" "g") := by
        have alone := oneGroup_agrees plain agrees (List.cons_ne_nil cond []) (by simpa using listing)
        simp only [List.mem_singleton, forall_eq, exists_eq_left] at alone
        rw [alone]
        constructor
        · rintro ⟨present, satisfied⟩
          exact satisfied present
        · intro satisfied
          exact ⟨present_of_satisfied satisfied, fun _ => satisfied⟩
      have absent : ¬ Present (traceInput trace) (stored odd "r" "g") := fun present =>
        unlike ((alike_iff (c := stored odd "r" "g") (plain odd listed)).mpr ⟨present, single odd listed⟩)
      refine .inr fun cond listing => (fails_iff (c := stored cond "r" "g")).mpr ?_
      have unsatisfied : ¬ Satisfied (traceInput trace) (stored cond "r" "g") := by
        intro satisfied
        have both := oneGroup_agrees plain agrees (List.cons_ne_nil odd [cond]) (by simp [listed, listing])
        have shown := both.mpr ⟨⟨cond, by simp, present_of_satisfied satisfied⟩, by simp [absent, satisfied]⟩
        exact absent (present_of_satisfied ((single odd listed).mp (shown odd (by simp))))
      exact ⟨mt (single cond listing).mp unsatisfied, unsatisfied⟩
  · rintro (alike | fails) store entity_type rule made result ran
    · rw [returned_iff made.stored made.active made.entity ran]
      exact preview_of_alike made plain alike
    · rw [returned_iff made.stored made.active made.entity ran]
      obtain ⟨unshown, unmatched⟩ := preview_of_fails made fails
      exact iff_of_false unshown unmatched

/-- A text that both sides have is read alike, except in a list. -/
theorem readAlike_same {cond : Condition} (type : cond.data_type = .string) (single : cond.operator ≠ .opIn ∧ cond.operator ≠ .notIn)
    (text : String) : ReadAlike cond text text := by
  rw [ReadAlike, type]
  cases operator : cond.operator <;> simp_all

end

/-! ### A condition on a number of tokens -/

/-- The number that a text of digits writes. -/
def decimal (s : String) : Option Nat :=
  if s.toList ≠ [] ∧ s.toList.all Char.isDigit = true then some (s.toList.foldl (fun n c => 10 * n + (c.toNat - 48)) 0) else none
/-- Numbers as natural ones, read from their digits. -/
@[reducible] def digitPlatform : PreviewPlatform where
  JsNumber := Nat
  numberText n := toString n
  Float64 := Nat
  toFloat64OrZero s := (decimal s).getD 0
  eq a b := a = b
  lt a b := a < b
  le a b := a ≤ b
  regexMatch _ _ := none
  parseFloat s := decimal s
  regExpTest _ _ := none

/-- A span of five input tokens. -/
def shortChat : TraceRow where
  serviceName := "chat"
  spanName := "openai.chat"
  spanKind := "Client"
  duration := 2000000
  statusCode := "Ok"
  spanAttributes name :=
    if name = "gen_ai.system" then some "openai" else if name = "gen_ai.usage.input_tokens" then some "5" else none
  resourceAttributes _ := none

/-- Comparisons of the system with a text. -/
def OnSystem (cond : Condition) : Prop :=
  cond.field = "gen_ai.system" ∧ cond.data_type = .string ∧ cond.operator ∉ [.opIn, .notIn, .regex]
theorem system_agrees : @AgreesOn digitPlatform OnSystem shortChat := by
  let _ := digitPlatform
  refine (preview_agrees_iff shortChat OnSystem fun cond listed => ?_).mpr (.inl fun cond listed => ?_)
  · obtain ⟨-, -, operator⟩ := listed
    simp_all
  · obtain ⟨field, type, operator⟩ := listed
    rw [Alike, field]
    exact ⟨"openai", by decide +kernel, readAlike_same type (by simp_all) "openai"⟩

/-- Long prompts to one system. -/
def longPrompts : List Condition :=
  [{ field := "gen_ai.system", operator := .equals, value := "openai", data_type := .string },
   { field := "gen_ai.usage.input_tokens", operator := .gt, value := "1000", data_type := .number }]
/-- A short prompt gets the rule for long ones, and the preview does not list it. -/
theorem token_condition_dropped : ¬ ∀ [PreviewPlatform] (kind : Condition → Prop), (∀ cond, kind cond → cond.operator ≠ .regex) →
    ∀ trace, AgreesOn kind trace := by
  intro agrees
  let _ := digitPlatform
  have made : MadeOf (oneGroup longPrompts) .context theRule (· ∈ longPrompts) := oneGroup_madeOf (by decide) fun _ => id
  have plain : ∀ cond ∈ longPrompts, cond.operator ≠ .regex := by decide
  obtain ⟨result, ran⟩ := @oneGroup_evaluates _ (· ∈ longPrompts) plain longPrompts (fun _ => id) shortChat
  have same := agrees (· ∈ longPrompts) plain shortChat _ _ _ made result ran
  have unlisted : preview (oneGroup longPrompts) theRule shortChat = false := by decide +kernel
  have returned : (evaluateRules (oneGroup longPrompts) (extractRuleEngineFieldsFromTrace shortChat) .context).map
      (·.matchingRuleIds) = some ["r"] := by decide +kernel
  rw [ran] at returned
  have ids : result.matchingRuleIds = ["r"] := Option.some.inj returned
  have listed := same.mpr (by rw [ids]; exact List.mem_singleton_self _)
  rw [unlisted] at listed
  cases listed

end Openlit.RulePreviews
