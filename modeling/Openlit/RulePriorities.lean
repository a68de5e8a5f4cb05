import Mathlib.Order.Lattice
import Openlit.AutoEvaluations
import Openlit.RuleSemantics

/-!
The contexts of an evaluation whose rules have priorities
(`lib/platform/evaluation/rule-engine-context.ts`). The rules are evaluated
twice, over the same tables: for the rules that match, and for the contexts
that the configured ones among them have. What is left open is the order of the
rows of a query and the order in which the contexts arrive.
-/
namespace Openlit.RulePriorities
open Openlit.Text Openlit.Relations Openlit.RuleEngine Openlit.RuleSemantics Openlit.RulePreview
open Openlit.AutoEvaluations (RuleEngineContextResult)

/-! ### Evaluations with data -/

/-- The orders that an evaluation finds. -/
structure Orders where
  rows : List (RuleMatch × RuleEntity) → List (RuleMatch × RuleEntity)
  arrivals : List String → List String
  rows_perm : ∀ given, (rows given).Perm given
  arrivals_perm : ∀ ids, (arrivals ids).Perm ids

/-- The result with `entity_data`, which has the content of each context that is read. -/
structure EvaluateData extends EvaluateResult where
  entity_data : Option (List (String × Option String))

def contextKey (id : String) : String := "context:" ++ id
/-- The content of each context of the rows, once; `none` where it is not there, or where its query fails. -/
def entityData (orders : Orders) (contents : String → Option String) (entities : List (String × RuleEntityType × String)) :
    List (String × Option String) :=
  (orders.arrivals (entities.map (·.2.2)).eraseDups).map fun id => (contextKey id, contents id)
/-- `evaluateRules` for contexts with their data. -/
def evaluateContexts [Platform] (orders : Orders) (store : RuleStore) (contents : String → Option String) (fields : InputFields) :
    Option EvaluateData :=
  if fields.entries.length = 0 then some { matchingRuleIds := [], entities := [], entity_data := none }
  else do
    let cms ← conditionMatches store (inputValues fields)
    let result := evaluateResult (orders.rows (matchingEntities store (ruleMatches store (groupMatches store cms)) .context))
    pure { result with entity_data := some (entityData orders contents result.entities) }

/-- The `(.+)` of `/^context:(.+)$/`, which stops at the end of a line. -/
def contextIdOf (key : String) : Option String :=
  let id := key.toList.drop "context:".length
  if "context:".toList <+: key.toList ∧ id ≠ [] ∧ id.all (· ∉ ['\n', '\r', '\u2028', '\u2029']) then some (String.ofList id) else none

def getContextFromRuleEngineForTrace [Platform] (orders : Orders) (store : RuleStore) (contents : String → Option String)
    (trace : TraceRow) : RuleEngineContextResult :=
  let fields := extractRuleEngineFieldsFromTrace trace
  if fields.entries.length = 0 then { contextContents := [], matchingRuleIds := [], contextEntityIds := [] }
  else
    match evaluateContexts orders store contents fields with
    | none => { contextContents := [], matchingRuleIds := [], contextEntityIds := [] }
    | some result =>
      match result.entity_data with
      | none => { contextContents := [], matchingRuleIds := result.matchingRuleIds, contextEntityIds := [] }
      | some data =>
        let filled := data.filterMap fun (key, content) => (present content).map (key, ·)
        { contextContents := filled.map (·.2)
          matchingRuleIds := result.matchingRuleIds
          contextEntityIds := filled.filterMap (contextIdOf ·.1) }

/-! ### Priorities -/

/-- Priorities are numbers, of which only the order counts. -/
structure RuleWithPriority (Priority : Type) where
  ruleId : String
  priority : Priority

section
variable {Priority : Type}

/-- `priorityByRule.get`: of the entries for a rule the last one counts. -/
def priorityByRule (rulesWithPriority : List (RuleWithPriority Priority)) (ruleId : String) : Option Priority :=
  (rulesWithPriority.reverse.find? (·.ruleId = ruleId)).map (·.priority)
/-- `priorityByRule.get(ruleId) ?? 0`. -/
def priorityOf [Zero Priority] (rulesWithPriority : List (RuleWithPriority Priority)) (ruleId : String) : Priority :=
  (priorityByRule rulesWithPriority ruleId).getD 0

variable [LinearOrder Priority] [Zero Priority]

/-- The contexts of a rule, with the rule. -/
def contextsOfRule (entities : List (String × RuleEntityType × String)) (data : List (String × Option String)) (ruleId : String) :
    List (String × String × String) :=
  (entities.filter fun e => e.1 = ruleId ∧ e.2.1 = .context).filterMap fun e =>
    (present (data.lookup (contextKey e.2.2)).join).map (ruleId, e.2.2, ·)

def getContextFromRulesWithPriority [Platform] (first second : Orders) (store : RuleStore) (contents : String → Option String)
    (trace : TraceRow) (rulesWithPriority : List (RuleWithPriority Priority)) : RuleEngineContextResult :=
  let result := getContextFromRuleEngineForTrace first store contents trace
  if rulesWithPriority.length = 0 then result
  else
    let matchingRules := result.matchingRuleIds.filter fun id => (priorityByRule rulesWithPriority id).isSome
    if matchingRules.length = 0 then result
    else
      let sorted := matchingRules.mergeSort fun a b => priorityOf rulesWithPriority b ≤ priorityOf rulesWithPriority a
      let fields := extractRuleEngineFieldsFromTrace trace
      if fields.entries.length = 0 then { contextContents := [], matchingRuleIds := sorted, contextEntityIds := [] }
      else
        match evaluateContexts second store contents fields with
        | none => result
        | some evalResult =>
          match evalResult.entity_data with
          | none => { contextContents := [], matchingRuleIds := sorted, contextEntityIds := [] }
          | some data =>
            let found := sorted.flatMap (contextsOfRule evalResult.entities data)
            { contextContents := found.map (·.2.2), matchingRuleIds := sorted, contextEntityIds := found.map (·.2.1) }

/-! ### The rules that match -/

section
variable [Platform] {store : RuleStore} {trace : TraceRow}

/-- The rule engine returns the rule for the fields of the trace, as one that has a context. -/
def MatchesTrace (store : RuleStore) (trace : TraceRow) (ruleId : String) : Prop :=
  ∃ result, evaluateRules store (extractRuleEngineFieldsFromTrace trace) .context = some result ∧ ruleId ∈ result.matchingRuleIds

/-- These are the active rules with a context whose conditions on fields of the trace pass. -/
theorem matchesTrace_iff (store : RuleStore) (trace : TraceRow) (ruleId : String) :
    MatchesTrace store trace ruleId ↔ Evaluable store (inputValues (extractRuleEngineFieldsFromTrace trace)) ∧
      ∃ r ∈ store.rules, r.id = ruleId ∧ r.status = .active ∧ HasEntity store .context r ∧
        QueryHolds store (inputValues (extractRuleEngineFieldsFromTrace trace)) r := by
  rcases evaluateRules_cases store (extractRuleEngineFieldsFromTrace trace) .context with ⟨rejected, never⟩ | ⟨evaluable, result, ran, ids⟩
  · simp [MatchesTrace, rejected, never]
  · simp [MatchesTrace, ran, ids, evaluable]

/-- The rows that an evaluation of a trace with fields has, where it is not rejected. -/
def Rows (store : RuleStore) (trace : TraceRow) (rows : List (RuleMatch × RuleEntity)) : Prop :=
  (extractRuleEngineFieldsFromTrace trace).entries.length ≠ 0 ∧
    ∃ cms, conditionMatches store (inputValues (extractRuleEngineFieldsFromTrace trace)) = some cms ∧
      rows = matchingEntities store (ruleMatches store (groupMatches store cms)) .context

theorem evaluateContexts_eq {rows : List (RuleMatch × RuleEntity)} (fetched : Rows store trace rows) (orders : Orders)
    (contents : String → Option String) :
    evaluateContexts orders store contents (extractRuleEngineFieldsFromTrace trace) =
      some { evaluateResult (orders.rows rows) with
        entity_data := some (entityData orders contents (evaluateResult (orders.rows rows)).entities) } := by
  obtain ⟨fields, cms, ran, rfl⟩ := fetched
  rw [evaluateContexts, if_neg fields, ran]
  rfl
omit [Platform] in
theorem mem_matchingRuleIds_rows {rows : List (RuleMatch × RuleEntity)} (orders : Orders) (ruleId : String) :
    ruleId ∈ (evaluateResult (orders.rows rows)).matchingRuleIds ↔ ∃ row ∈ rows, row.1.rule_id = ruleId := by
  simp only [evaluateResult, List.mem_eraseDups, List.mem_map, (orders.rows_perm rows).mem_iff]
theorem matchesTrace_rows {rows : List (RuleMatch × RuleEntity)} (fetched : Rows store trace rows) (ruleId : String) :
    MatchesTrace store trace ruleId ↔ ∃ row ∈ rows, row.1.rule_id = ruleId := by
  obtain ⟨fields, cms, ran, rfl⟩ := fetched
  simp only [MatchesTrace, evaluateRules, if_neg fields, ran]
  simp [evaluateResult, List.mem_eraseDups]
/-- Without rows no rule matches, and nothing is found. -/
theorem without_rows (none : ∀ rows, ¬Rows store trace rows) (orders : Orders) (contents : String → Option String) :
    (∀ ruleId, ¬MatchesTrace store trace ruleId) ∧ (getContextFromRuleEngineForTrace orders store contents trace).matchingRuleIds = [] := by
  unfold MatchesTrace getContextFromRuleEngineForTrace evaluateRules evaluateContexts
  by_cases fields : (extractRuleEngineFieldsFromTrace trace).entries.length = 0
  · simp [fields]
  · cases ran : conditionMatches store (inputValues (extractRuleEngineFieldsFromTrace trace)) with
    | none => simp [fields, ran]
    | some cms => exact absurd ⟨fields, cms, ran, rfl⟩ (none _)

theorem matchingRuleIds_rows {rows : List (RuleMatch × RuleEntity)} (fetched : Rows store trace rows) (orders : Orders)
    (contents : String → Option String) :
    (getContextFromRuleEngineForTrace orders store contents trace).matchingRuleIds =
      (evaluateResult (orders.rows rows)).matchingRuleIds := by
  rw [getContextFromRuleEngineForTrace, if_neg fetched.1, evaluateContexts_eq fetched]
theorem mem_matchingRuleIds (orders : Orders) (contents : String → Option String) (ruleId : String) :
    ruleId ∈ (getContextFromRuleEngineForTrace orders store contents trace).matchingRuleIds ↔ MatchesTrace store trace ruleId := by
  by_cases some : ∃ rows, Rows store trace rows
  · obtain ⟨rows, fetched⟩ := some
    rw [matchingRuleIds_rows fetched, mem_matchingRuleIds_rows, matchesTrace_rows fetched]
  · obtain ⟨never, nothing⟩ := without_rows (not_exists.mp some) orders contents
    simp [nothing, never]
theorem nodup_matchingRuleIds (orders : Orders) (contents : String → Option String) :
    (getContextFromRuleEngineForTrace orders store contents trace).matchingRuleIds.Nodup := by
  by_cases some : ∃ rows, Rows store trace rows
  · obtain ⟨rows, fetched⟩ := some
    rw [matchingRuleIds_rows fetched]
    exact nodup_eraseDups _
  · rw [(without_rows (not_exists.mp some) orders contents).2]
    exact List.nodup_nil

/-! ### The contexts of the rules -/

/-- A context is attached to a rule. -/
def Attached (store : RuleStore) (ruleId contextId : String) : Prop :=
  ∃ e ∈ store.entities, e.rule_id = ruleId ∧ e.entity_type = .context ∧ e.entity_id = contextId

omit [Platform] in
theorem mem_rows_attached {rows : List (RuleMatch × RuleEntity)} {cms : List ConditionMatch}
    (fetched : rows = matchingEntities store (ruleMatches store (groupMatches store cms)) .context) {ruleId : String}
    (matched : ∃ row ∈ rows, row.1.rule_id = ruleId) (contextId : String) :
    (∃ row ∈ rows, row.1.rule_id = ruleId ∧ row.2.entity_type = .context ∧ row.2.entity_id = contextId) ↔
      Attached store ruleId contextId := by
  subst fetched
  constructor
  · rintro ⟨row, inside, rfl, type, rfl⟩
    obtain ⟨-, stored, on⟩ := (mem_innerJoin _ _ _ _).mp (List.mem_filter.mp inside).1
    exact ⟨row.2, stored, by simpa using on, type, rfl⟩
  · rintro ⟨e, stored, same, type, rfl⟩
    obtain ⟨row, inside, rfl⟩ := matched
    obtain ⟨joined, selected⟩ := List.mem_filter.mp inside
    obtain ⟨isMatch, -, -⟩ := (mem_innerJoin _ _ _ _).mp joined
    obtain ⟨matched, -⟩ := Bool.and_eq_true_iff.mp selected
    refine ⟨(row.1, e), List.mem_filter.mpr ⟨(mem_innerJoin _ _ _ _).mpr ⟨isMatch, stored, by simpa using same⟩, ?_⟩, rfl, type, rfl⟩
    simp [matched, type]

omit [Platform] in
theorem contextKey_inj {id other : String} : contextKey id = contextKey other ↔ id = other := by
  rw [contextKey, contextKey, ← String.toList_inj, String.toList_append, String.toList_append, List.append_cancel_left_eq,
    String.toList_inj]
omit [Platform] in
theorem lookup_contextKey {contents : String → Option String} {ids : List String} {id : String} (inside : id ∈ ids) :
    (ids.map fun id => (contextKey id, contents id)).lookup (contextKey id) = some (contents id) := by
  induction ids with
  | nil => cases inside
  | cons other rest ih =>
    rw [List.map_cons, List.lookup_cons]
    by_cases same : id = other
    · simp [same]
    · have different : (contextKey id == contextKey other) = false := by simpa [contextKey_inj] using same
      rw [different]
      exact ih ((List.mem_cons.mp inside).resolve_left same)

omit [Platform] in
/-- What the contents of an evaluation are, for the contexts of its rows. -/
theorem lookup_arrivals {rows : List (RuleMatch × RuleEntity)} (orders : Orders) (contents : String → Option String)
    {row : RuleMatch × RuleEntity} (inside : row ∈ rows) :
    (entityData orders contents (evaluateResult (orders.rows rows)).entities).lookup (contextKey row.2.entity_id) =
      some (contents row.2.entity_id) := by
  apply lookup_contextKey
  rw [(orders.arrivals_perm _).mem_iff, List.mem_eraseDups]
  simp only [evaluateResult, List.map_map, List.mem_map, (orders.rows_perm rows).mem_iff]
  exact ⟨row, inside, rfl⟩
theorem mem_contextsOfRule {rows : List (RuleMatch × RuleEntity)} (fetched : Rows store trace rows) (orders : Orders)
    (contents : String → Option String) {ruleId : String} (matched : MatchesTrace store trace ruleId)
    (found : String × String × String) :
    found ∈ contextsOfRule (evaluateResult (orders.rows rows)).entities
        (entityData orders contents (evaluateResult (orders.rows rows)).entities) ruleId ↔
      found.1 = ruleId ∧ Attached store ruleId found.2.1 ∧ contents found.2.1 = some found.2.2 ∧ found.2.2 ≠ "" := by
  obtain ⟨-, cms, -, table⟩ := id fetched
  rw [← mem_rows_attached table ((matchesTrace_rows fetched ruleId).mp matched)]
  have entity (e : String × RuleEntityType × String) : e ∈ (evaluateResult (orders.rows rows)).entities ↔
      ∃ row ∈ rows, (row.1.rule_id, row.2.entity_type, row.2.entity_id) = e := by
    simp only [evaluateResult, List.mem_map, (orders.rows_perm rows).mem_iff]
  simp only [contextsOfRule, List.mem_filterMap, List.mem_filter, entity]
  constructor
  · rintro ⟨_, ⟨⟨row, inside, rfl⟩, same⟩, value⟩
    obtain ⟨rfl, type⟩ := of_decide_eq_true same
    rw [lookup_arrivals orders contents inside] at value
    obtain ⟨content, filled, rfl⟩ := Option.map_eq_some_iff.mp value
    obtain ⟨read, nonempty⟩ := Option.filter_eq_some_iff.mp filled
    exact ⟨rfl, ⟨row, inside, rfl, type, rfl⟩, read, by simpa using nonempty⟩
  · rintro ⟨rfl, ⟨row, inside, same, type, context⟩, read, nonempty⟩
    refine ⟨_, ⟨⟨row, inside, rfl⟩, decide_eq_true ⟨same, type⟩⟩, ?_⟩
    obtain ⟨rule, contextId, content⟩ := found
    rw [lookup_arrivals orders contents inside, context]
    simp [read, present, Option.filter, nonempty]

/-! ### In the order of their priorities -/

variable {rulesWithPriority : List (RuleWithPriority Priority)}

/-- A configured rule that matches the trace. -/
def Chosen (store : RuleStore) (trace : TraceRow) (rulesWithPriority : List (RuleWithPriority Priority)) (ruleId : String) : Prop :=
  (∃ entry ∈ rulesWithPriority, entry.ruleId = ruleId) ∧ MatchesTrace store trace ruleId

/-- The contexts of the chosen rules and the rules themselves, in an order in which the priorities never
    increase. Each context stands where some rule has it, which is named by `sources`. -/
structure Prioritised (store : RuleStore) (contents : String → Option String) (trace : TraceRow)
    (rulesWithPriority : List (RuleWithPriority Priority)) (result : RuleEngineContextResult) : Prop where
  rules : ∀ ruleId, ruleId ∈ result.matchingRuleIds ↔ Chosen store trace rulesWithPriority ruleId
  once : result.matchingRuleIds.Nodup
  rulesOrdered : result.matchingRuleIds.Pairwise fun a b => priorityOf rulesWithPriority b ≤ priorityOf rulesWithPriority a
  contexts : ∃ sources : List (String × String × String),
    result.contextContents = sources.map (·.2.2) ∧ result.contextEntityIds = sources.map (·.2.1) ∧
      (sources.Pairwise fun a b => priorityOf rulesWithPriority b.1 ≤ priorityOf rulesWithPriority a.1) ∧
      ∀ ruleId contextId content, (ruleId, contextId, content) ∈ sources ↔
        Chosen store trace rulesWithPriority ruleId ∧ Attached store ruleId contextId ∧ contents contextId = some content ∧ content ≠ ""

omit [LinearOrder Priority] [Zero Priority] [Platform] in
theorem priorityByRule_isSome_iff (ruleId : String) :
    (priorityByRule rulesWithPriority ruleId).isSome = true ↔ ∃ entry ∈ rulesWithPriority, entry.ruleId = ruleId := by
  simp [priorityByRule, List.find?_isSome]

omit [Platform] in
theorem sorted_by_priority (ids : List String) :
    (ids.mergeSort fun a b => priorityOf rulesWithPriority b ≤ priorityOf rulesWithPriority a).Pairwise
      fun a b => priorityOf rulesWithPriority b ≤ priorityOf rulesWithPriority a := by
  have sorted := @List.pairwise_mergeSort _ (fun a b => decide (priorityOf rulesWithPriority b ≤ priorityOf rulesWithPriority a))
    (fun a b c above below => by
      simp only [decide_eq_true_eq] at above below ⊢
      exact le_trans below above)
    (fun a b => by simpa using le_total (priorityOf rulesWithPriority b) (priorityOf rulesWithPriority a)) ids
  exact sorted.imp of_decide_eq_true

omit [LinearOrder Priority] [Zero Priority] [Platform] in
theorem contextsOfRule_rule {entities : List (String × RuleEntityType × String)} {data : List (String × Option String)} {ruleId : String}
    {found : String × String × String} (inside : found ∈ contextsOfRule entities data ruleId) : found.1 = ruleId := by
  obtain ⟨e, -, value⟩ := List.mem_filterMap.mp inside
  obtain ⟨content, -, rfl⟩ := Option.map_eq_some_iff.mp value
  rfl
/-- The chosen rules, once each and sorted, with the contexts that a second evaluation finds for them. -/
theorem prioritised_of_sorted {rows : List (RuleMatch × RuleEntity)} (fetched : Rows store trace rows) (orders : Orders)
    (contents : String → Option String) {matchingRules : List String}
    (chosen : ∀ ruleId, ruleId ∈ matchingRules ↔ Chosen store trace rulesWithPriority ruleId) (once : matchingRules.Nodup) :
    let sorted := matchingRules.mergeSort fun a b => priorityOf rulesWithPriority b ≤ priorityOf rulesWithPriority a
    let found := sorted.flatMap (contextsOfRule (evaluateResult (orders.rows rows)).entities
      (entityData orders contents (evaluateResult (orders.rows rows)).entities))
    Prioritised store contents trace rulesWithPriority
      { contextContents := found.map (·.2.2), matchingRuleIds := sorted, contextEntityIds := found.map (·.2.1) } := by
  intro sorted found
  have inSorted (ruleId : String) : ruleId ∈ sorted ↔ Chosen store trace rulesWithPriority ruleId := by
    rw [List.mem_mergeSort, chosen]
  refine ⟨inSorted, (List.mergeSort_perm ..).nodup_iff.mpr once, sorted_by_priority matchingRules, found, rfl, rfl, ?_, ?_⟩
  · rw [List.pairwise_flatMap]
    constructor
    · intro ruleId _
      apply List.pairwise_of_forall_mem_list
      intro a inA b inB
      rw [contextsOfRule_rule inA, contextsOfRule_rule inB]
    · refine (sorted_by_priority matchingRules).imp ?_
      intro ruleId other ordered a inA b inB
      rwa [contextsOfRule_rule inA, contextsOfRule_rule inB]
  · intro ruleId contextId content
    rw [List.mem_flatMap]
    constructor
    · rintro ⟨rule, inside, member⟩
      have isChosen := (inSorted rule).mp inside
      obtain ⟨rfl, attached, read, nonempty⟩ := (mem_contextsOfRule fetched orders contents isChosen.2 _).mp member
      exact ⟨isChosen, attached, read, nonempty⟩
    · rintro ⟨isChosen, attached, read, nonempty⟩
      exact ⟨ruleId, (inSorted ruleId).mpr isChosen,
        (mem_contextsOfRule fetched orders contents isChosen.2 _).mpr ⟨rfl, attached, read, nonempty⟩⟩

/-- For every trace and every list of configured rules: the chosen rules and their contexts in the order of
    the priorities, or, where no rule is chosen, what there is without priorities. -/
theorem getContextFromRulesWithPriority_prioritised (first second : Orders) (store : RuleStore) (contents : String → Option String)
    (trace : TraceRow) (rulesWithPriority : List (RuleWithPriority Priority)) :
    ((∃ ruleId, Chosen store trace rulesWithPriority ruleId) →
      Prioritised store contents trace rulesWithPriority
        (getContextFromRulesWithPriority first second store contents trace rulesWithPriority)) ∧
    ((¬∃ ruleId, Chosen store trace rulesWithPriority ruleId) →
      getContextFromRulesWithPriority first second store contents trace rulesWithPriority =
        getContextFromRuleEngineForTrace first store contents trace) := by
  let matchingRules := (getContextFromRuleEngineForTrace first store contents trace).matchingRuleIds.filter fun id =>
    (priorityByRule rulesWithPriority id).isSome
  have chosen (ruleId : String) : ruleId ∈ matchingRules ↔ Chosen store trace rulesWithPriority ruleId := by
    rw [List.mem_filter, mem_matchingRuleIds, priorityByRule_isSome_iff, Chosen, and_comm]
  constructor
  · rintro ⟨ruleId, isChosen⟩
    obtain ⟨rows, fetched⟩ : ∃ rows, Rows store trace rows := by
      by_contra none
      exact (without_rows (not_exists.mp none) first contents).1 ruleId isChosen.2
    have configured : rulesWithPriority.length ≠ 0 := by
      obtain ⟨entry, inside, -⟩ := isChosen.1
      exact (List.length_pos_of_mem inside).ne'
    have some : matchingRules.length ≠ 0 := (List.length_pos_of_mem ((chosen ruleId).mpr isChosen)).ne'
    rw [getContextFromRulesWithPriority]
    simp only [if_neg configured, if_neg fetched.1, evaluateContexts_eq fetched]
    rw [if_neg some]
    exact prioritised_of_sorted fetched second contents chosen ((nodup_matchingRuleIds first contents).filter _)
  · intro none
    have empty : matchingRules = [] := List.eq_nil_iff_forall_not_mem.mpr fun ruleId inside => none ⟨ruleId, (chosen ruleId).mp inside⟩
    rw [getContextFromRulesWithPriority]
    simp only [show (List.filter _ _ : List String) = [] from empty]
    simp

end

end

end Openlit.RulePriorities
