import Openlit.RuleEngine

/-!
The rules against their documentation. The joins drop the conditions whose field
is not in the input, and then the groups without a row, so the query decides the
formula of what is left. It agrees with the documented formula exactly where
what was dropped would not have changed it (`Faithful`).
-/
namespace Openlit.RuleSemantics
open Openlit.Relations Openlit.RuleEngine

/-! ### The documented semantics -/

/-- A conjunction or a disjunction over items. -/
def Combined {α : Type} (operator : RuleGroupOperator) (items : α → Prop) (holds : α → Prop) : Prop :=
  match operator with
  | .and => ∀ a, items a → holds a
  | .or => ∃ a, items a ∧ holds a

def InGroup (store : RuleStore) (g : RuleConditionGroup) (c : RuleCondition) : Prop :=
  c ∈ store.conditions ∧ c.group_id = g.id
def InRule (store : RuleStore) (r : Rule) (g : RuleConditionGroup) : Prop := g ∈ store.groups ∧ g.rule_id = r.id
def HasEntity (store : RuleStore) (entity_type : RuleEntityType) (r : Rule) : Prop :=
  ∃ e ∈ store.entities, e.rule_id = r.id ∧ e.entity_type = entity_type

section
variable [Platform]

/-- A condition on a field that is in the input, with a value that passes it. -/
def Satisfied (input : List (String × String)) (c : RuleCondition) : Prop :=
  ∃ value, (c.field, value) ∈ input ∧ conditionMatch c value = some true
def GroupHolds (store : RuleStore) (input : List (String × String)) (g : RuleConditionGroup) : Prop :=
  (∃ c, InGroup store g c) ∧ Combined g.condition_operator (InGroup store g) (Satisfied input)
def RuleHolds (store : RuleStore) (input : List (String × String)) (r : Rule) : Prop :=
  (∃ g, InRule store r g) ∧ Combined r.group_operator (InRule store r) (GroupHolds store input)
/-- A rule is to be returned for an entity type. -/
def Matches (store : RuleStore) (input : List (String × String)) (entity_type : RuleEntityType) (r : Rule) : Prop :=
  r.status = .active ∧ HasEntity store entity_type r ∧ RuleHolds store input r

/-! ### What the query decides -/

def Present (input : List (String × String)) (c : RuleCondition) : Prop := ∃ value, (c.field, value) ∈ input
/-- A group has a condition whose field is in the input. -/
def Live (store : RuleStore) (input : List (String × String)) (g : RuleConditionGroup) : Prop :=
  ∃ c, InGroup store g c ∧ Present input c
/-- The conditions of a group whose fields are in the input pass. -/
def Passes (store : RuleStore) (input : List (String × String)) (g : RuleConditionGroup) : Prop :=
  Combined g.condition_operator (fun c => InGroup store g c ∧ Present input c) (Satisfied input)
def LiveInRule (store : RuleStore) (input : List (String × String)) (r : Rule) (g : RuleConditionGroup) : Prop :=
  InRule store r g ∧ Live store input g
def QueryHolds (store : RuleStore) (input : List (String × String)) (r : Rule) : Prop :=
  (∃ g, LiveInRule store input r g) ∧ Combined r.group_operator (LiveInRule store input r) (Passes store input)

/-- Every condition on a field of the input has an answer. -/
def Evaluable (store : RuleStore) (input : List (String × String)) : Prop :=
  ∀ c ∈ store.conditions, ∀ value, (c.field, value) ∈ input → conditionMatch c value ≠ none

theorem inputValues_unique {fields : InputFields} {key v w : String} (left : (key, v) ∈ inputValues fields)
    (right : (key, w) ∈ inputValues fields) : v = w := by
  obtain ⟨a, inA, sameA⟩ := List.mem_map.mp left
  obtain ⟨b, inB, sameB⟩ := List.mem_map.mp right
  have keys : a.1 = b.1 := (congrArg Prod.fst sameA).trans (congrArg Prod.fst sameB).symm
  obtain rfl := List.inj_on_of_nodup_map fields.keys inA inB keys
  exact (congrArg Prod.snd sameA).symm.trans (congrArg Prod.snd sameB)

/-! ### The rows of the query -/

omit [Platform] in
theorem combined_iff {α β : Type} {operator : RuleGroupOperator} {items : α → Prop} {others : β → Prop}
    {holds : α → Prop} {passes : β → Prop} (there : ∀ a, items a → ∃ b, others b ∧ (holds a ↔ passes b))
    (back : ∀ b, others b → ∃ a, items a ∧ (holds a ↔ passes b)) :
    Combined operator items holds ↔ Combined operator others passes := by
  cases operator with
  | and =>
    constructor
    · intro all b other
      obtain ⟨a, item, same⟩ := back b other
      exact same.mp (all a item)
    · intro all a item
      obtain ⟨b, other, same⟩ := there a item
      exact same.mpr (all b other)
  | or =>
    constructor
    · rintro ⟨a, item, holds⟩
      obtain ⟨b, other, same⟩ := there a item
      exact ⟨b, other, same.mp holds⟩
    · rintro ⟨b, other, passes⟩
      obtain ⟨a, item, same⟩ := back b other
      exact ⟨a, item, same.mpr passes⟩
omit [Platform] in
theorem aggregate_iff {α : Type} (operator : RuleGroupOperator) (rows : List α) (matched : α → Bool) :
    aggregate operator (rows.map matched) = true ↔ Combined operator (· ∈ rows) (matched · = true) := by
  cases operator <;> simp [aggregate, Combined]

/-- The rows of `condition_matches`, one for each condition on a field of the input. -/
theorem mem_conditionMatches {store : RuleStore} {input : List (String × String)} {cms : List ConditionMatch}
    (evaluated : conditionMatches store input = some cms) (cm : ConditionMatch) :
    cm ∈ cms ↔ ∃ c ∈ store.conditions, ∃ value, (c.field, value) ∈ input ∧
      c.rule_id = cm.rule_id ∧ c.group_id = cm.group_id ∧ conditionMatch c value = some cm.condition_match := by
  rw [mem_mapM evaluated]
  constructor
  · rintro ⟨⟨c, field, value⟩, joined, row⟩
    obtain ⟨condition, present, on⟩ := (mem_innerJoin _ _ _ _).mp joined
    obtain ⟨matched, answer, rfl⟩ := Option.map_eq_some_iff.mp row
    have same : field = c.field := by simpa using on
    exact ⟨c, condition, value, same ▸ present, rfl, rfl, answer⟩
  · rintro ⟨c, condition, value, present, rule, group, answer⟩
    refine ⟨(c, c.field, value), (mem_innerJoin _ _ _ _).mpr ⟨condition, present, by simp⟩, ?_⟩
    rw [answer, Option.map_some, rule, group]
theorem conditionMatches_isSome_iff (store : RuleStore) (input : List (String × String)) :
    (∃ cms, conditionMatches store input = some cms) ↔ Evaluable store input := by
  rw [conditionMatches, mapM_isSome_iff]
  constructor
  · intro defined c condition value present
    have row := defined (c, c.field, value) ((mem_innerJoin _ _ _ _).mpr ⟨condition, present, by simp⟩)
    simpa using row
  · rintro evaluable ⟨c, field, value⟩ joined
    obtain ⟨condition, present, on⟩ := (mem_innerJoin _ _ _ _).mp joined
    have same : field = c.field := by simpa using on
    simpa using evaluable c condition value (same ▸ present)

section
variable {store : RuleStore} {fields : InputFields} {cms : List ConditionMatch}
  (evaluated : conditionMatches store (inputValues fields) = some cms)
include evaluated

/-- A joined row of `group_matches` comes from a condition of the group on a field of the input. -/
theorem joined_group {cm : ConditionMatch} {g : RuleConditionGroup} (inRows : cm ∈ cms) (stored : g ∈ store.groups)
    (on : g.id = cm.group_id) : ∃ c value, InGroup store g c ∧ (c.field, value) ∈ inputValues fields ∧
      conditionMatch c value = some cm.condition_match ∧ cm.rule_id = g.rule_id := by
  obtain ⟨c, condition, value, present, rule, group, answer⟩ := (mem_conditionMatches evaluated cm).mp inRows
  have owned := store.owned c condition g stored (on.trans group.symm)
  exact ⟨c, value, ⟨condition, group.trans on.symm⟩, present, answer, rule.symm.trans owned.symm⟩
theorem exists_joined {g : RuleConditionGroup} (stored : g ∈ store.groups) {c : RuleCondition} {value : String}
    (inside : InGroup store g c) (present : (c.field, value) ∈ inputValues fields) :
    ∃ cm ∈ cms, cm.rule_id = g.rule_id ∧ g.id = cm.group_id ∧ conditionMatch c value = some cm.condition_match := by
  obtain ⟨matched, answer⟩ := Option.ne_none_iff_exists'.mp
    ((conditionMatches_isSome_iff store _).mp ⟨cms, evaluated⟩ c inside.1 value present)
  have owned := store.owned c inside.1 g stored inside.2.symm
  exact ⟨⟨c.rule_id, c.group_id, matched⟩,
    (mem_conditionMatches evaluated _).mpr ⟨c, inside.1, value, present, rfl, rfl, answer⟩, owned.symm, inside.2.symm,
    answer⟩

omit evaluated in
/-- A condition on a field of the input is satisfied exactly if its one answer is a match. -/
theorem satisfied_iff {c : RuleCondition} {value : String} {matched : Bool}
    (present : (c.field, value) ∈ inputValues fields) (answer : conditionMatch c value = some matched) :
    matched = true ↔ Satisfied (inputValues fields) c := by
  constructor
  · rintro rfl
    exact ⟨value, present, answer⟩
  · rintro ⟨other, there, passed⟩
    obtain rfl := inputValues_unique present there
    exact Option.some.inj (answer.symm.trans passed)

/-- The aggregate over the rows of a group decides the conditions on fields of the input. -/
theorem passes_iff {g : RuleConditionGroup} (stored : g ∈ store.groups) {rows : List (ConditionMatch × RuleConditionGroup)}
    (members : ∀ row, row ∈ rows ↔ row ∈ innerJoin (fun cm g => g.id = cm.group_id) cms store.groups ∧ row.2 = g) :
    aggregate g.condition_operator (rows.map (·.1.condition_match)) = true ↔ Passes store (inputValues fields) g := by
  rw [aggregate_iff, Passes]
  refine combined_iff ?_ ?_
  · rintro ⟨cm, h⟩ member
    obtain ⟨joined, rfl⟩ := (members _).mp member
    obtain ⟨inRows, -, on⟩ := (mem_innerJoin _ _ _ _).mp joined
    obtain ⟨c, value, inside, present, answer, -⟩ := joined_group evaluated inRows stored (by simpa using on)
    exact ⟨c, ⟨inside, value, present⟩, satisfied_iff present answer⟩
  · rintro c ⟨inside, value, present⟩
    obtain ⟨cm, inRows, -, on, answer⟩ := exists_joined evaluated stored inside present
    exact ⟨(cm, g), (members _).mpr ⟨(mem_innerJoin _ _ _ _).mpr ⟨inRows, stored, by simpa using on⟩, rfl⟩,
      satisfied_iff present answer⟩

/-- The rows of `group_matches`: one for each group with a condition on a field of the input. -/
theorem mem_groupMatches (gm : GroupMatch) :
    gm ∈ groupMatches store cms ↔ ∃ g ∈ store.groups, Live store (inputValues fields) g ∧
      g.rule_id = gm.rule_id ∧ g.id = gm.group_id ∧ (gm.group_match = true ↔ Passes store (inputValues fields) g) := by
  let rightKey (g : RuleConditionGroup) := (g.rule_id, g.id, g.condition_operator)
  have keyed : ∀ row ∈ innerJoin (fun cm g => g.id = cm.group_id) cms store.groups,
      (row.1.rule_id, row.1.group_id, row.2.condition_operator) = rightKey row.2 := by
    intro row joined
    obtain ⟨inRows, stored, on⟩ := (mem_innerJoin _ _ _ _).mp joined
    have on : row.2.id = row.1.group_id := by simpa using on
    obtain ⟨-, -, -, -, -, rule⟩ := joined_group evaluated inRows stored on
    simp only [rightKey, on, rule]
  have distinct : ∀ row ∈ innerJoin (fun cm g => g.id = cm.group_id) cms store.groups,
      ∀ other ∈ innerJoin (fun cm g => g.id = cm.group_id) cms store.groups,
        rightKey row.2 = rightKey other.2 → row.2 = other.2 := by
    intro row joined other joined' same
    have id : row.2.id = other.2.id := congrArg (fun key => key.2.1) same
    exact List.inj_on_of_nodup_map store.groupIds ((mem_innerJoin _ _ _ _).mp joined).2.1
      ((mem_innerJoin _ _ _ _).mp joined').2.1 id
  rw [groupMatches, List.mem_map]
  constructor
  · rintro ⟨group, grouped, rfl⟩
    obtain ⟨⟨cm, g⟩, joined, label, members⟩ := groupBy_right keyed distinct grouped
    obtain ⟨inRows, stored, on⟩ := (mem_innerJoin _ _ _ _).mp joined
    obtain ⟨c, value, inside, present, -, -⟩ := joined_group evaluated inRows stored (by simpa using on)
    refine ⟨g, stored, ⟨c, inside, value, present⟩, by rw [label], by rw [label], ?_⟩
    simpa only [label] using passes_iff evaluated stored members
  · rintro ⟨g, stored, ⟨c, inside, value, present⟩, rule, id, matched⟩
    obtain ⟨cm, inRows, -, on, -⟩ := exists_joined evaluated stored inside present
    have joined : (cm, g) ∈ innerJoin (fun cm g => decide (g.id = cm.group_id)) cms store.groups :=
      (mem_innerJoin _ _ _ _).mpr ⟨inRows, stored, by simpa using on⟩
    obtain ⟨group, grouped, label, members⟩ := exists_groupBy_right keyed distinct joined
    have same := Bool.eq_iff_iff.mpr ((passes_iff evaluated stored members).trans matched.symm)
    have whole : GroupMatch.mk g.rule_id g.id gm.group_match = gm := by rw [rule, id]
    refine ⟨group, grouped, ?_⟩
    rw [label]
    exact (congrArg (GroupMatch.mk g.rule_id g.id) same).trans whole

theorem exists_groupMatch {r : Rule} {g : RuleConditionGroup} (live : LiveInRule store (inputValues fields) r g) :
    ∃ gm ∈ groupMatches store cms, r.id = gm.rule_id ∧
      (gm.group_match = true ↔ Passes store (inputValues fields) g) := by
  obtain ⟨⟨stored, rule⟩, live⟩ := live
  by_cases passes : Passes store (inputValues fields) g
  · exact ⟨⟨g.rule_id, g.id, true⟩, (mem_groupMatches evaluated _).mpr ⟨g, stored, live, rfl, rfl, by simp [passes]⟩,
      rule.symm, by simp [passes]⟩
  · exact ⟨⟨g.rule_id, g.id, false⟩, (mem_groupMatches evaluated _).mpr ⟨g, stored, live, rfl, rfl, by simp [passes]⟩,
      rule.symm, by simp [passes]⟩

omit [Platform] evaluated in
/-- The joined rows of `rule_matches`. -/
theorem mem_ruleRows {gms : List GroupMatch} (row : GroupMatch × Rule) :
    row ∈ (innerJoin (fun gm r => r.id = gm.rule_id) gms store.rules).filter (·.2.status = .active) ↔
      row.1 ∈ gms ∧ row.2 ∈ store.rules ∧ row.2.id = row.1.rule_id ∧ row.2.status = .active := by
  rw [List.mem_filter, mem_innerJoin, decide_eq_true_iff, decide_eq_true_iff, and_assoc, and_assoc]

/-- The aggregate over the rows of a rule decides its groups with a condition on a field of the input. -/
theorem ruleMatch_iff {r : Rule} (stored : r ∈ store.rules) (active : r.status = .active) {rows : List (GroupMatch × Rule)}
    (members : ∀ row, row ∈ rows ↔
      row ∈ (innerJoin (fun gm r => r.id = gm.rule_id) (groupMatches store cms) store.rules).filter (·.2.status = .active) ∧
      row.2 = r) :
    aggregate r.group_operator (rows.map (·.1.group_match)) = true ↔
      Combined r.group_operator (LiveInRule store (inputValues fields) r) (Passes store (inputValues fields)) := by
  rw [aggregate_iff]
  refine combined_iff ?_ ?_
  · rintro ⟨gm, q⟩ member
    obtain ⟨joined, rfl⟩ := (members _).mp member
    obtain ⟨inRows, -, on, -⟩ := (mem_ruleRows _).mp joined
    obtain ⟨g, inGroups, live, rule, -, matched⟩ := (mem_groupMatches evaluated gm).mp inRows
    exact ⟨g, ⟨⟨inGroups, rule.trans on.symm⟩, live⟩, matched⟩
  · intro g live
    obtain ⟨gm, inRows, on, matched⟩ := exists_groupMatch evaluated live
    exact ⟨(gm, r), (members _).mpr ⟨(mem_ruleRows _).mpr ⟨inRows, stored, on, active⟩, rfl⟩, matched⟩

/-- The rows of `rule_matches`: one for each active rule with such a group. -/
theorem mem_ruleMatches (rm : RuleMatch) :
    rm ∈ ruleMatches store (groupMatches store cms) ↔ ∃ r ∈ store.rules, r.status = .active ∧
      (∃ g, LiveInRule store (inputValues fields) r g) ∧ r.id = rm.rule_id ∧
      (rm.rule_match = true ↔
        Combined r.group_operator (LiveInRule store (inputValues fields) r) (Passes store (inputValues fields))) := by
  let rightKey (r : Rule) := (r.id, r.group_operator)
  let rows := (innerJoin (fun gm r => r.id = gm.rule_id) (groupMatches store cms) store.rules).filter
    (·.2.status = .active)
  have keyed : ∀ row ∈ rows, (row.1.rule_id, row.2.group_operator) = rightKey row.2 := by
    intro row joined
    simp only [rightKey, ((mem_ruleRows row).mp joined).2.2.1]
  have distinct : ∀ row ∈ rows, ∀ other ∈ rows, rightKey row.2 = rightKey other.2 → row.2 = other.2 := by
    intro row joined other joined' same
    exact List.inj_on_of_nodup_map store.ruleIds ((mem_ruleRows row).mp joined).2.1 ((mem_ruleRows other).mp joined').2.1
      (congrArg Prod.fst same)
  rw [ruleMatches, List.mem_map]
  constructor
  · rintro ⟨group, grouped, rfl⟩
    obtain ⟨⟨gm, r⟩, joined, label, members⟩ := groupBy_right keyed distinct grouped
    obtain ⟨inRows, stored, on, active⟩ := (mem_ruleRows _).mp joined
    obtain ⟨g, inGroups, live, rule, -, -⟩ := (mem_groupMatches evaluated gm).mp inRows
    refine ⟨r, stored, active, ⟨g, ⟨inGroups, rule.trans on.symm⟩, live⟩, by rw [label], ?_⟩
    simpa only [label] using ruleMatch_iff evaluated stored active members
  · rintro ⟨r, stored, active, ⟨g, live⟩, id, matched⟩
    obtain ⟨gm, inRows, on, -⟩ := exists_groupMatch evaluated live
    have joined : (gm, r) ∈ rows := (mem_ruleRows _).mpr ⟨inRows, stored, on, active⟩
    obtain ⟨group, grouped, label, members⟩ := exists_groupBy_right keyed distinct joined
    have same := Bool.eq_iff_iff.mpr ((ruleMatch_iff evaluated stored active members).trans matched.symm)
    have whole : RuleMatch.mk r.id rm.rule_match = rm := by rw [id]
    refine ⟨group, grouped, ?_⟩
    rw [label]
    exact (congrArg (RuleMatch.mk r.id) same).trans whole

/-- The ids that the query returns are those of the active rules with an entity
    of the type whose conditions on fields of the input pass. -/
theorem mem_query (entity_type : RuleEntityType) (id : String) :
    id ∈ (evaluateResult (matchingEntities store (ruleMatches store (groupMatches store cms))
        entity_type)).matchingRuleIds ↔
      ∃ r ∈ store.rules, r.id = id ∧ r.status = .active ∧ HasEntity store entity_type r ∧
        QueryHolds store (inputValues fields) r := by
  rw [evaluateResult, List.mem_eraseDups, List.mem_map]
  constructor
  · rintro ⟨⟨rm, e⟩, row, rfl⟩
    obtain ⟨joined, selected⟩ := List.mem_filter.mp row
    obtain ⟨matchRow, entity, on⟩ := (mem_innerJoin _ _ _ _).mp joined
    obtain ⟨matched, type⟩ := Bool.and_eq_true_iff.mp selected
    obtain ⟨r, stored, active, live, same, holds⟩ := (mem_ruleMatches evaluated rm).mp matchRow
    have on : e.rule_id = rm.rule_id := by simpa using on
    exact ⟨r, stored, same, active, ⟨e, entity, on.trans same.symm, by simpa using type⟩, live, holds.mp matched⟩
  · rintro ⟨r, stored, rfl, active, ⟨e, entity, on, type⟩, live, holds⟩
    refine ⟨(⟨r.id, true⟩, e), List.mem_filter.mpr ⟨(mem_innerJoin _ _ _ _).mpr ⟨?_, entity, by simpa using on⟩, ?_⟩, rfl⟩
    · exact (mem_ruleMatches evaluated _).mpr ⟨r, stored, active, live, rfl, by simp [holds]⟩
    · simpa using type

end

/-! ### Where the query and the documentation agree -/

/-- All conditions of a group are on fields of the input. -/
def Complete (store : RuleStore) (input : List (String × String)) (g : RuleConditionGroup) : Prop :=
  ∀ c, InGroup store g c → Present input c

/-- What the joins drop does not change the rule. Of a conjunction of groups,
    either some group already fails on the fields of the input, or no group has a
    condition on them, or every group has one and no conjunction of conditions
    misses a field. Of a disjunction of groups, either one holds, or all fail on
    the fields of the input. -/
def Faithful (store : RuleStore) (input : List (String × String)) (r : Rule) : Prop :=
  match r.group_operator with
  | .and =>
    (∃ g, LiveInRule store input r g ∧ ¬ Passes store input g) ∨
    (∀ g, InRule store r g → ¬ Live store input g) ∨
    ∀ g, InRule store r g → Live store input g ∧ (g.condition_operator = .and → Complete store input g)
  | .or =>
    (∃ g, InRule store r g ∧ GroupHolds store input g) ∨ ∀ g, LiveInRule store input r g → ¬ Passes store input g

/-- A group holds exactly if it passes on the fields of the input and, as a conjunction, misses none. -/
theorem groupHolds_iff (store : RuleStore) (input : List (String × String)) (g : RuleConditionGroup) :
    GroupHolds store input g ↔
      Live store input g ∧ Passes store input g ∧ (g.condition_operator = .and → Complete store input g) := by
  have present {c : RuleCondition} (satisfied : Satisfied input c) : Present input c := by
    obtain ⟨value, there, -⟩ := satisfied
    exact ⟨value, there⟩
  rw [GroupHolds, Passes]
  cases operator : g.condition_operator with
  | and =>
    constructor
    · rintro ⟨⟨c, inside⟩, all⟩
      exact ⟨⟨c, inside, present (all c inside)⟩, fun d there => all d there.1, fun _ d there => present (all d there)⟩
    · rintro ⟨⟨c, inside, -⟩, passes, complete⟩
      exact ⟨⟨c, inside⟩, fun d there => passes d ⟨there, complete rfl d there⟩⟩
  | or =>
    constructor
    · rintro ⟨-, c, inside, satisfied⟩
      exact ⟨⟨c, inside, present satisfied⟩, ⟨c, ⟨inside, present satisfied⟩, satisfied⟩, nofun⟩
    · rintro ⟨-, ⟨c, ⟨inside, -⟩, satisfied⟩, -⟩
      exact ⟨⟨c, inside⟩, c, inside, satisfied⟩

/-- The query returns every rule that holds. -/
theorem queryHolds_of_ruleHolds {store : RuleStore} {input : List (String × String)} {r : Rule}
    (holds : RuleHolds store input r) : QueryHolds store input r := by
  obtain ⟨⟨g, inside⟩, combined⟩ := holds
  rw [QueryHolds]
  cases operator : r.group_operator with
  | and =>
    rw [operator] at combined
    have all (h : RuleConditionGroup) (there : InRule store r h) := (groupHolds_iff store input h).mp (combined h there)
    exact ⟨⟨g, inside, (all g inside).1⟩, fun h there => (all h there.1).2.1⟩
  | or =>
    rw [operator] at combined
    obtain ⟨h, there, holds⟩ := combined
    obtain ⟨live, passes, -⟩ := (groupHolds_iff store input h).mp holds
    exact ⟨⟨h, there, live⟩, h, ⟨there, live⟩, passes⟩

/-- It returns no other rule exactly where what it drops does not matter. -/
theorem faithful_iff (store : RuleStore) (input : List (String × String)) (r : Rule) :
    Faithful store input r ↔ (QueryHolds store input r → RuleHolds store input r) := by
  rw [Faithful, QueryHolds, RuleHolds]
  cases operator : r.group_operator with
  | and =>
    constructor
    · rintro (⟨g, live, fails⟩ | nothing | whole) ⟨⟨first, inside, live'⟩, passes⟩
      · exact absurd (passes g live) fails
      · exact absurd live' (nothing first inside)
      · exact ⟨⟨first, inside⟩, fun g there => (groupHolds_iff store input g).mpr
          ⟨(whole g there).1, passes g ⟨there, (whole g there).1⟩, (whole g there).2⟩⟩
    · intro sound
      by_cases fails : ∃ g, LiveInRule store input r g ∧ ¬ Passes store input g
      · exact .inl fails
      by_cases some_ : ∃ g, LiveInRule store input r g
      · have passes : ∀ g, LiveInRule store input r g → Passes store input g :=
          fun g live => by_contra fun fail => fails ⟨g, live, fail⟩
        obtain ⟨-, holds⟩ := sound ⟨some_, passes⟩
        refine .inr (.inr fun g there => ?_)
        obtain ⟨live, -, complete⟩ := (groupHolds_iff store input g).mp (holds g there)
        exact ⟨live, complete⟩
      · exact .inr (.inl fun g there live => some_ ⟨g, there, live⟩)
  | or =>
    constructor
    · rintro (⟨g, inside, holds⟩ | nothing) ⟨-, h, live, passes⟩
      · exact ⟨⟨g, inside⟩, g, inside, holds⟩
      · exact absurd passes (nothing h live)
    · intro sound
      by_cases passing : ∃ g, LiveInRule store input r g ∧ Passes store input g
      · obtain ⟨h, live, passes⟩ := passing
        obtain ⟨-, g, inside, holds⟩ := sound ⟨⟨h, live⟩, h, live, passes⟩
        exact .inl ⟨g, inside, holds⟩
      · exact .inr fun g live passes => passing ⟨g, live, passes⟩

/-- The ids returned for a type are exactly those of the rules that are to be returned for it. -/
def Correct (store : RuleStore) (fields : InputFields) (entity_type : RuleEntityType) : Prop :=
  ∃ result, evaluateRules store fields entity_type = some result ∧ ∀ id, id ∈ result.matchingRuleIds ↔
    ∃ r ∈ store.rules, r.id = id ∧ Matches store (inputValues fields) entity_type r

/-- All that an evaluation can do: be rejected, or return the ids that the query decides. -/
theorem evaluateRules_cases (store : RuleStore) (fields : InputFields) (entity_type : RuleEntityType) :
    (evaluateRules store fields entity_type = none ∧ ¬ Evaluable store (inputValues fields)) ∨
    (Evaluable store (inputValues fields) ∧
      ∃ result, evaluateRules store fields entity_type = some result ∧ ∀ id, id ∈ result.matchingRuleIds ↔
        ∃ r ∈ store.rules, r.id = id ∧ r.status = .active ∧ HasEntity store entity_type r ∧
          QueryHolds store (inputValues fields) r) := by
  by_cases empty : fields.entries.length = 0
  · have noInput : inputValues fields = [] := by
      rw [inputValues, List.length_eq_zero_iff.mp empty, List.map_nil]
    refine .inr ⟨?_, { matchingRuleIds := [], entities := [] }, by rw [evaluateRules, if_pos empty], fun id => ?_⟩
    · intro c _ value present
      simp [noInput] at present
    · constructor
      · intro returned
        cases returned
      · rintro ⟨r, -, -, -, -, ⟨g, -, c, -, value, present⟩, -⟩
        simp [noInput] at present
  · rw [evaluateRules, if_neg empty]
    cases ran : conditionMatches store (inputValues fields) with
    | none =>
      refine .inl ⟨rfl, fun evaluable => ?_⟩
      obtain ⟨cms, evaluated⟩ := (conditionMatches_isSome_iff store _).mpr evaluable
      simp [ran] at evaluated
    | some cms =>
      refine .inr ⟨(conditionMatches_isSome_iff store _).mp ⟨cms, ran⟩, ?_⟩
      exact ⟨evaluateResult (matchingEntities store (ruleMatches store (groupMatches store cms)) entity_type), rfl,
        mem_query ran entity_type⟩

/-- The evaluation is right exactly if every condition on a field of the input
    can be evaluated and what the joins drop does not change an active rule with
    an entity of the type. -/
theorem evaluateRules_correct_iff (store : RuleStore) (fields : InputFields) (entity_type : RuleEntityType) :
    Correct store fields entity_type ↔ Evaluable store (inputValues fields) ∧
      ∀ r ∈ store.rules, r.status = .active → HasEntity store entity_type r → Faithful store (inputValues fields) r := by
  rcases evaluateRules_cases store fields entity_type with ⟨rejected, never⟩ | ⟨evaluable, result, ran, returned⟩
  · constructor
    · rintro ⟨result, ran, -⟩
      cases rejected.symm.trans ran
    · rintro ⟨evaluable, -⟩
      exact absurd evaluable never
  · constructor
    · rintro ⟨result', ran', correct⟩
      obtain rfl := Option.some.inj (ran.symm.trans ran')
      refine ⟨evaluable, fun r stored active entity => (faithful_iff store _ r).mpr fun holds => ?_⟩
      obtain ⟨q, inside, same, -, -, ruleHolds⟩ :=
        (correct r.id).mp ((returned r.id).mpr ⟨r, stored, rfl, active, entity, holds⟩)
      obtain rfl := List.inj_on_of_nodup_map store.ruleIds inside stored same
      exact ruleHolds
    · rintro ⟨-, faithful⟩
      refine ⟨result, ran, fun id => (returned id).trans ?_⟩
      constructor
      · rintro ⟨r, stored, same, active, entity, holds⟩
        exact ⟨r, stored, same, active, entity, (faithful_iff store _ r).mp (faithful r stored active entity) holds⟩
      · rintro ⟨r, stored, same, active, entity, holds⟩
        exact ⟨r, stored, same, active, entity, queryHolds_of_ruleHolds holds⟩

end

/-! ### A conjunction that misses a field -/

/-- Numbers as natural ones: no condition of the sample looks at them. -/
@[reducible] def plainPlatform : Platform where
  JsNumber := Nat
  numberText n := toString n
  Float64 := Nat
  toFloat64OrZero _ := 0
  eq a b := a = b
  lt a b := a < b
  le a b := a ≤ b
  regexMatch _ _ := none

/-- A rule for the premium users of one model, linked to a context. -/
def premiumStore : RuleStore where
  rules := [{ id := "r", group_operator := .and, status := .active }]
  groups := [{ id := "g", rule_id := "r", condition_operator := .and }]
  conditions :=
    [{ rule_id := "r", group_id := "g", field := "model", operator := .equals, value := "gpt-4",
       data_type := .string },
     { rule_id := "r", group_id := "g", field := "tier", operator := .equals, value := "premium",
       data_type := .string }]
  entities := [{ id := "e", rule_id := "r", entity_type := .context, entity_id := "guide" }]
  ruleIds := by decide
  groupIds := by decide
  owned := by decide
/-- An input that names the model alone. -/
def modelOnly [Platform] : InputFields := { entries := [("model", .string "gpt-4")], keys := List.nodup_singleton _ }

/-- An input without a tier gets the rule for premium users. -/
theorem missing_field_matches :
    ¬ ∀ [Platform] (store : RuleStore) (fields : InputFields) (entity_type : RuleEntityType),
        Correct store fields entity_type := by
  intro all
  let _ := plainPlatform
  obtain ⟨result, ran, correct⟩ := all premiumStore modelOnly .context
  have returned : (evaluateRules premiumStore modelOnly .context).map (·.matchingRuleIds) = some ["r"] := by decide
  rw [ran] at returned
  obtain ⟨r, stored, -, -, -, -, holds⟩ := (correct "r").mp (by simp [Option.some.inj returned])
  obtain rfl := List.mem_singleton.mp stored
  obtain ⟨-, conditions⟩ := holds _ ⟨List.mem_singleton_self _, rfl⟩
  obtain ⟨value, present, -⟩ := conditions _ ⟨List.mem_cons_of_mem _ (List.mem_singleton_self _), rfl⟩
  simp [inputValues, modelOnly] at present

end Openlit.RuleSemantics
