import Openlit.Interleavings
import Openlit.Programs
import Openlit.Text

/-!
Saving the condition groups of a rule (`addConditionGroupsToRule` of
`lib/platform/rule-engine/index.ts`): the deletes of the old groups and
conditions, whose errors nobody looks at, and then an insert for each group and
one for its conditions. Every query is a call of its own, and a call that fails
changes nothing. The literals of the queries are taken to read as the texts
that they are made from.
-/
namespace Openlit.RuleSaves
open Openlit.Interleavings Openlit.Programs Openlit.Programs.Program Openlit.Text

/-! ### The request -/

/-- `Partial<RuleConditionInput>`. -/
structure RuleConditionInput where
  field : Option String := none
  operator : Option String := none
  value : Option String := none
  data_type : Option String := none
structure RuleConditionGroupInput where
  condition_operator : Option String := none
  conditions : Option (List RuleConditionInput) := none

def VALID_OPERATORS : List String :=
  ["equals", "not_equals", "contains", "not_contains", "starts_with", "ends_with", "regex", "in", "not_in",
    "gt", "gte", "lt", "lte", "between"]
def isBlank (s : Option String) : Bool := s.all (trim · = "")
/-- `verifyConditionInput`, as the error that it finds. -/
def verifyConditionInput (input : RuleConditionInput) : Option String :=
  if isBlank input.field then some "Condition field is required!"
  else if input.operator.all (· ∉ VALID_OPERATORS) then some "Condition operator is required and must be valid!"
  else if isBlank input.value then some "Condition value is required!"
  else none
def verifyConditionGroupInput (input : RuleConditionGroupInput) : Option String :=
  match input.conditions.getD [] with
  | [] => some "At least one condition is required in each group!"
  | conditions => conditions.findSome? verifyConditionInput

/-! ### The tables -/

inductive Table
  | groups
  | conditions
  deriving DecidableEq
structure GroupRow where
  id : String
  rule_id : String
  condition_operator : String
  deriving DecidableEq
structure ConditionRow where
  id : String
  rule_id : String
  group_id : String
  field : String
  operator : String
  value : String
  data_type : String
  deriving DecidableEq
/-- A row of one of the two tables. -/
inductive Row
  | group (row : GroupRow)
  | condition (row : ConditionRow)
  deriving DecidableEq

def Row.table : Row → Table
  | .group _ => .groups
  | .condition _ => .conditions
def Row.rule_id : Row → String
  | .group row => row.rule_id
  | .condition row => row.rule_id

inductive Call
  | delete (table : Table)
  | insert (rows : List Row)
/-- The deletes are those of the rule's rows. -/
def perform (ruleId : String) (db : List Row) : Call → List Row
  | .delete table => db.filter fun row => ¬(row.table = table ∧ row.rule_id = ruleId)
  | .insert rows => db ++ rows
def ruleRows (ruleId : String) (db : List Row) : List Row := db.filter (·.rule_id = ruleId)

/-! ### The save -/

/-- What `crypto.randomUUID` gives for each group and each condition. -/
structure Ids where
  group : Nat → String
  condition : Nat → Nat → String
/-- The error, if any, of each call: of the deletes, and of the inserts of the group at a place and of its conditions. -/
structure Outcomes where
  delete : Table → Option String
  insert : Table → Nat → Option String

abbrev Saving (α : Type) := Program (List Row) String α

/-- `dataCollector` for a call, with the error that it returns. -/
def dataCollector (ruleId : String) (err : Option String) (call : Call) : Saving (Option String) :=
  statement fun db => .ok (err, if err.isNone then perform ruleId db call else db)
def throwIfError : Option String → Saving Unit
  | none => pure ()
  | some message => fail message

def groupRow (ruleId : String) (ids : Ids) (group : RuleConditionGroupInput) (place : Nat) : Row :=
  .group
    { id := ids.group place
      rule_id := ruleId
      condition_operator := (present group.condition_operator).getD "AND" }
def conditionRow (ruleId : String) (ids : Ids) (place : Nat) (condition : RuleConditionInput) (number : Nat) : Row :=
  .condition
    { id := ids.condition place number
      rule_id := ruleId
      group_id := ids.group place
      field := condition.field.getD "undefined"
      operator := condition.operator.getD "undefined"
      value := condition.value.getD "undefined"
      data_type := (present condition.data_type).getD "string" }
def conditionRows (ruleId : String) (ids : Ids) (group : RuleConditionGroupInput) (place : Nat) : List Row :=
  (group.conditions.getD []).zipIdx.map fun (condition, number) => conditionRow ruleId ids place condition number

/-- One round of the loop over the groups. -/
def insertGroup (outcomes : Outcomes) (ruleId : String) (ids : Ids) (group : RuleConditionGroupInput) (place : Nat) :
    Saving Unit := do
  let groupErr ← dataCollector ruleId (outcomes.insert .groups place) (.insert [groupRow ruleId ids group place])
  throwIfError groupErr
  let conditionValues := conditionRows ruleId ids group place
  if conditionValues.length > 0 then
    let condErr ← dataCollector ruleId (outcomes.insert .conditions place) (.insert conditionValues)
    throwIfError condErr
  else pure ()

/-- A list of groups as submitted, with the ids that its rows get. -/
structure Save where
  conditionGroups : List RuleConditionGroupInput
  ids : Ids

def addConditionGroupsToRule (user : Option String) (outcomes : Outcomes) (ruleId : String) (save : Save) : Saving String := do
  throwIfError (if user.isNone then some "Unauthorized user!" else none)
  throwIfError (save.conditionGroups.findSome? verifyConditionGroupInput)
  let _ ← dataCollector ruleId (outcomes.delete .groups) (.delete .groups)
  let _ ← dataCollector ruleId (outcomes.delete .conditions) (.delete .conditions)
  foldEach (fun _ (group, place) => insertGroup outcomes ruleId save.ids group place) save.conditionGroups.zipIdx ()
  pure "Condition group added successfully!"

/-! ### The calls of a save -/

/-- An insert of the loop: into which table, for the group at which place, and what. -/
structure Insert where
  table : Table
  place : Nat
  rows : List Row

def groupInserts (ruleId : String) (ids : Ids) (group : RuleConditionGroupInput) (place : Nat) : List Insert :=
  let conditionValues := conditionRows ruleId ids group place
  ⟨.groups, place, [groupRow ruleId ids group place]⟩ ::
    if conditionValues.length > 0 then [⟨.conditions, place, conditionValues⟩] else []
def Save.inserts (save : Save) (ruleId : String) : List Insert :=
  save.conditionGroups.zipIdx.flatMap fun (group, place) => groupInserts ruleId save.ids group place
/-- The groups and conditions of the submitted list. -/
def Save.rows (save : Save) (ruleId : String) : List Row := (save.inserts ruleId).flatMap (·.rows)
/-- The calls of a save in which none fails: both deletes are under way at once. -/
def Save.Calls (save : Save) (ruleId : String) (calls : List Call) : Prop :=
  ∃ deletes, deletes.Perm [.delete .groups, .delete .conditions] ∧
    calls = deletes ++ (save.inserts ruleId).map fun insert => .insert insert.rows
def Refused (user : Option String) (save : Save) : Prop :=
  user = none ∨ ∃ group ∈ save.conditionGroups, verifyConditionGroupInput group ≠ none

theorem groupInserts_rows {ruleId : String} {ids : Ids} {group : RuleConditionGroupInput} {place : Nat} {insert : Insert}
    (inside : insert ∈ groupInserts ruleId ids group place) :
    ∀ row ∈ insert.rows, row.table = insert.table ∧ row.rule_id = ruleId := by
  rw [groupInserts, List.mem_cons] at inside
  rcases inside with rfl | later
  · simp [groupRow, Row.table, Row.rule_id]
  · split at later
    · rw [List.mem_singleton] at later
      subst later
      intro row there
      rw [conditionRows, List.mem_map] at there
      obtain ⟨_, -, rfl⟩ := there
      exact ⟨rfl, rfl⟩
    · cases later
theorem inserts_rows {save : Save} {ruleId : String} {insert : Insert} (inside : insert ∈ save.inserts ruleId) :
    ∀ row ∈ insert.rows, row.table = insert.table ∧ row.rule_id = ruleId := by
  rw [Save.inserts, List.mem_flatMap] at inside
  obtain ⟨_, -, among⟩ := inside
  exact groupInserts_rows among

/-! ### A save alone -/

/-- The loop over the inserts, up to the first that fails. -/
def insertAll (outcomes : Outcomes) : List Insert → List Row → Except String Unit × List Row
  | [], db => (.ok (), db)
  | insert :: rest, db =>
    match outcomes.insert insert.table insert.place with
    | some err => (.error err, db)
    | none => insertAll outcomes rest (db ++ insert.rows)

section
variable (outcomes : Outcomes) (ruleId : String)

theorem insertAll_append (first second : List Insert) (db : List Row) :
    insertAll outcomes (first ++ second) db =
      match insertAll outcomes first db with
      | (.ok _, db') => insertAll outcomes second db'
      | (.error err, db') => (.error err, db') := by
  induction first generalizing db with
  | nil => rfl
  | cons insert rest ih =>
    simp only [List.cons_append, insertAll]
    cases outcomes.insert insert.table insert.place with
    | some err => rfl
    | none => exact ih (db ++ insert.rows)
theorem insertAll_succeeds {inserts : List Insert} (succeed : ∀ i ∈ inserts, outcomes.insert i.table i.place = none)
    (db : List Row) : insertAll outcomes inserts db = (.ok (), db ++ inserts.flatMap (·.rows)) := by
  induction inserts generalizing db with
  | nil => simp [insertAll]
  | cons insert rest ih =>
    rw [List.forall_mem_cons] at succeed
    simp only [insertAll, succeed.1, ih succeed.2, List.flatMap_cons, List.append_assoc]

theorem run_dataCollector (err : Option String) (call : Call) (db : List Row) :
    (dataCollector ruleId err call).run db = (.ok err, if err.isNone then perform ruleId db call else db) := by
  rw [dataCollector, run_statement]
theorem run_insertGroup (ids : Ids) (group : RuleConditionGroupInput) (place : Nat) (db : List Row) :
    (insertGroup outcomes ruleId ids group place).run db = insertAll outcomes (groupInserts ruleId ids group place) db := by
  rw [insertGroup, run_bind, run_dataCollector, groupInserts, insertAll]
  cases outcomes.insert .groups place with
  | some err => rfl
  | none =>
    by_cases more : (conditionRows ruleId ids group place).length > 0
    · simp only [throwIfError, if_pos more, run_bind, run_pure, run_dataCollector, insertAll]
      cases outcomes.insert .conditions place <;> rfl
    · simp only [throwIfError, if_neg more, run_bind, run_pure, insertAll]
      rfl
theorem run_insertGroups (ids : Ids) (groups : List (RuleConditionGroupInput × Nat)) (db : List Row) :
    (foldEach (fun _ (group, place) => insertGroup outcomes ruleId ids group place) groups ()).run db =
      insertAll outcomes (groups.flatMap fun (group, place) => groupInserts ruleId ids group place) db := by
  induction groups generalizing db with
  | nil => rfl
  | cons entry rest ih =>
    rw [foldEach, run_bind, run_insertGroup, List.flatMap_cons, insertAll_append]
    rcases insertAll outcomes (groupInserts ruleId ids entry.1 entry.2) db with ⟨_ | _, db'⟩
    · rfl
    · exact ih db'

/-- The two deletes leave nothing of the rule. -/
theorem perform_deletes (db : List Row) :
    perform ruleId (perform ruleId db (.delete .groups)) (.delete .conditions) = db.filter (·.rule_id ≠ ruleId) := by
  simp only [perform, List.filter_filter]
  refine List.filter_congr fun row _ => ?_
  by_cases own : row.rule_id = ruleId
  · cases row.table <;> simp [own]
  · simp [own]

theorem run_refused {user : Option String} {save : Save} (refused : Refused user save) (db : List Row) :
    ∃ err, (addConditionGroupsToRule user outcomes ruleId save).run db = (.error err, db) := by
  cases user with
  | none => exact ⟨"Unauthorized user!", rfl⟩
  | some email =>
    obtain ⟨group, inside, rejected⟩ := refused.resolve_left nofun
    obtain ⟨err, found⟩ := Option.ne_none_iff_exists'.mp fun none =>
      rejected (List.findSome?_eq_none_iff.mp none group inside)
    refine ⟨err, ?_⟩
    rw [addConditionGroupsToRule, found]
    rfl
/-- An accepted request whose deletes succeed answers as its inserts do. -/
theorem run_accepted {user : Option String} {save : Save} (accepted : ¬Refused user save)
    (deleted : ∀ table, outcomes.delete table = none) (db : List Row) :
    (addConditionGroupsToRule user outcomes ruleId save).run db =
      let result := insertAll outcomes (save.inserts ruleId) (db.filter (·.rule_id ≠ ruleId))
      (result.1.map fun _ => "Condition group added successfully!", result.2) := by
  obtain ⟨email, rfl⟩ := Option.ne_none_iff_exists'.mp fun none => accepted (.inl none)
  have verified : save.conditionGroups.findSome? verifyConditionGroupInput = none := by
    rw [List.findSome?_eq_none_iff]
    intro group inside
    by_contra rejected
    exact accepted (.inr ⟨group, inside, rejected⟩)
  rw [addConditionGroupsToRule, verified, deleted, deleted, ← perform_deletes ruleId db]
  simp only [Option.isNone_none, Option.isNone_some, Bool.false_eq_true, if_false, throwIfError, run_bind, run_pure, run_dataCollector, if_true,
    run_insertGroups]
  rw [← Save.inserts]
  rcases insertAll outcomes (save.inserts ruleId) _ with ⟨_ | _, db'⟩ <;> rfl

theorem ruleRows_inserted (db : List Row) {inserts : List Insert} {save : Save} (part : inserts ⊆ save.inserts ruleId) :
    ruleRows ruleId (db.filter (·.rule_id ≠ ruleId) ++ inserts.flatMap (·.rows)) = inserts.flatMap (·.rows) := by
  rw [ruleRows, List.filter_append, List.filter_filter]
  have gone : db.filter (fun row => decide (row.rule_id = ruleId) && decide (row.rule_id ≠ ruleId)) = [] := by
    simp
  have mine : (inserts.flatMap (·.rows)).filter (·.rule_id = ruleId) = inserts.flatMap (·.rows) := by
    rw [List.filter_eq_self]
    intro row there
    obtain ⟨insert, inside, among⟩ := List.mem_flatMap.mp there
    exact decide_eq_true (inserts_rows (part inside) row among).2
  rw [gone, mine, List.nil_append]

end

/-- What an accepted save leaves of the rule when the deletes succeed: what the
    inserts before the first one that fails have put there. -/
structure Leaves (outcomes : Outcomes) (ruleId : String) (save : Save) (result : Except String String × List Row) : Prop where
  succeeds : (∀ i ∈ save.inserts ruleId, outcomes.insert i.table i.place = none) →
    result.1 = .ok "Condition group added successfully!" ∧ ruleRows ruleId result.2 = save.rows ruleId
  stops : ∀ done insert rest err, save.inserts ruleId = done ++ insert :: rest →
    (∀ i ∈ done, outcomes.insert i.table i.place = none) → outcomes.insert insert.table insert.place = some err →
      result.1 = .error err ∧ ruleRows ruleId result.2 = done.flatMap (·.rows)

theorem run_leaves {user : Option String} {outcomes : Outcomes} (ruleId : String) {save : Save} (accepted : ¬Refused user save)
    (deleted : ∀ table, outcomes.delete table = none) (db : List Row) :
    Leaves outcomes ruleId save ((addConditionGroupsToRule user outcomes ruleId save).run db) := by
  rw [run_accepted outcomes ruleId accepted deleted]
  constructor
  · intro succeed
    rw [insertAll_succeeds outcomes succeed]
    exact ⟨rfl, ruleRows_inserted ruleId db (List.Subset.refl _)⟩
  · intro done insert rest err same succeed failed
    rw [same, insertAll_append, insertAll_succeeds outcomes succeed]
    simp only [insertAll, failed]
    have part : done ⊆ save.inserts ruleId := by simp [same]
    exact ⟨rfl, ruleRows_inserted ruleId db part⟩

theorem foldl_inserts (ruleId : String) (inserts : List Insert) (db : List Row) :
    (inserts.map fun insert => Call.insert insert.rows).foldl (perform ruleId) db = db ++ inserts.flatMap (·.rows) := by
  induction inserts generalizing db with
  | nil => simp
  | cons insert rest ih =>
    rw [List.map_cons, List.foldl_cons, ih, List.flatMap_cons, perform, List.append_assoc]
/-- An accepted save whose calls all succeed does what its calls do, in either order of the deletes. -/
theorem run_calls {user : Option String} {outcomes : Outcomes} {ruleId : String} {save : Save} (accepted : ¬Refused user save)
    (deleted : ∀ table, outcomes.delete table = none)
    (succeed : ∀ i ∈ save.inserts ruleId, outcomes.insert i.table i.place = none)
    {calls : List Call} (of : save.Calls ruleId calls) (db : List Row) :
    ((addConditionGroupsToRule user outcomes ruleId save).run db).2 = calls.foldl (perform ruleId) db := by
  obtain ⟨deletes, both, rfl⟩ := of
  have order : deletes.foldl (perform ruleId) db = db.filter (·.rule_id ≠ ruleId) := by
    rw [← perform_deletes ruleId db]
    refine both.foldl_eq' (fun first isFirst second isSecond db => ?_) db
    have delete {call : Call} (inside : call ∈ deletes) : ∃ table, call = .delete table := by
      rcases List.mem_pair.mp (both.mem_iff.mp inside) with rfl | rfl
      · exact ⟨.groups, rfl⟩
      · exact ⟨.conditions, rfl⟩
    obtain ⟨table, rfl⟩ := delete isFirst
    obtain ⟨other, rfl⟩ := delete isSecond
    simp only [perform, List.filter_filter, Bool.and_comm]
  rw [run_accepted outcomes ruleId accepted deleted, insertAll_succeeds outcomes succeed, List.foldl_append, order,
    foldl_inserts]

/-! ### Two saves at once -/

/-- The table after calls of both saves. -/
def after (ruleId : String) (events : List (Bool × Call)) (db : List Row) : List Row :=
  events.foldl (fun db event => perform ruleId db event.2) db
/-- One save's deletes come after all inserts of the other into the table, and
    none of the other's deletes comes after its own inserts into the table. -/
structure Before (events : List (Bool × Call)) (first second : Bool) : Prop where
  deleted : ∀ table before after, events = before ++ (second, .delete table) :: after →
    ∀ rows, (first, .insert rows) ∈ after → ∀ row ∈ rows, row.table ≠ table
  kept : ∀ table before after, events = before ++ (first, .delete table) :: after →
    ∀ rows, (second, .insert rows) ∈ before → ∀ row ∈ rows, row.table ≠ table

/-- The row was inserted, and its table not deleted since. -/
def Inserted (events : List (Bool × Call)) (row : Row) : Prop :=
  ∃ before who rows later, events = before ++ (who, .insert rows) :: later ∧ row ∈ rows ∧
    ∀ other, (other, .delete row.table) ∉ later

theorem inserted_cons (event : Bool × Call) (events : List (Bool × Call)) (row : Row) :
    Inserted (event :: events) row ↔
      (∃ rows, event.2 = .insert rows ∧ row ∈ rows ∧ ∀ other, (other, .delete row.table) ∉ events) ∨ Inserted events row := by
  constructor
  · rintro ⟨before, who, rows, later, same, there, stays⟩
    cases before with
    | nil =>
      obtain ⟨rfl, rfl⟩ := List.cons.inj same
      exact .inl ⟨rows, rfl, there, stays⟩
    | cons head tail =>
      obtain ⟨rfl, rfl⟩ := List.cons.inj same
      exact .inr ⟨tail, who, rows, later, rfl, there, stays⟩
  · rintro (⟨rows, inserts, there, stays⟩ | ⟨before, who, rows, later, rfl, there, stays⟩)
    · obtain ⟨who, call⟩ := event
      cases inserts
      exact ⟨[], who, rows, events, rfl, there, stays⟩
    · exact ⟨event :: before, who, rows, later, rfl, there, stays⟩
/-- A row of the rule is there if it was inserted or there before, and its table not deleted since. -/
theorem mem_after {ruleId : String} (events : List (Bool × Call)) (db : List Row) {row : Row} (own : row.rule_id = ruleId) :
    row ∈ after ruleId events db ↔ Inserted events row ∨ (row ∈ db ∧ ∀ other, (other, .delete row.table) ∉ events) := by
  induction events generalizing db with
  | nil => simp [after, Inserted]
  | cons event rest ih =>
    rw [inserted_cons, show after ruleId (event :: rest) db = after ruleId rest (perform ruleId db event.2) from rfl, ih]
    obtain ⟨who, call⟩ := event
    cases call with
    | insert rows =>
      simp only [perform, List.mem_append, Call.insert.injEq, exists_eq_left', List.mem_cons, Prod.mk.injEq, reduceCtorEq,
        and_false, false_or]
      tauto
    | delete table =>
      simp only [perform, List.mem_filter, own, and_true, decide_eq_true_eq, reduceCtorEq, false_and, exists_false, false_or,
        List.mem_cons, Prod.mk.injEq, Call.delete.injEq, not_or, forall_and]
      have other : (∀ other, ¬(other = who ∧ row.table = table)) ↔ row.table ≠ table :=
        ⟨fun none same => none who ⟨rfl, same⟩, fun differ _ same => differ same.2⟩
      rw [other, and_assoc]

def Call.rows : Call → List Row
  | .delete _ => []
  | .insert rows => rows
/-- The tables hold what was there and what the calls have put there, in order. -/
theorem after_sublist (ruleId : String) (events : List (Bool × Call)) (db : List Row) :
    (after ruleId events db).Sublist (db ++ (events.map (·.2)).flatMap Call.rows) := by
  induction events generalizing db with
  | nil => simp [after]
  | cons event rest ih =>
    refine (ih (perform ruleId db event.2)).trans ?_
    obtain ⟨who, call⟩ := event
    cases call with
    | insert rows => simp [perform, Call.rows]
    | delete table => exact List.Sublist.append List.filter_sublist (List.Sublist.refl _)

section
variable {ruleId : String} {save : Save} {calls : List Call}

theorem Save.Calls.rows (of : save.Calls ruleId calls) : calls.flatMap Call.rows = save.rows ruleId := by
  obtain ⟨deletes, both, rfl⟩ := of
  have none : deletes.flatMap Call.rows = [] := by
    rw [List.flatMap_eq_nil_iff]
    intro call inside
    rcases List.mem_pair.mp (both.mem_iff.mp inside) with rfl | rfl <;> rfl
  rw [List.flatMap_append, none, List.nil_append, List.flatMap_map]
  rfl
theorem Save.Calls.delete_mem (of : save.Calls ruleId calls) (table : Table) : .delete table ∈ calls := by
  obtain ⟨deletes, both, rfl⟩ := of
  refine List.mem_append_left _ (both.mem_iff.mpr ?_)
  cases table <;> simp
/-- After an insert or a delete of a table, the save does not delete the table any more. -/
theorem Save.Calls.delete_first (of : save.Calls ruleId calls) {before later : List Call} {call : Call} {table : Table}
    (same : calls = before ++ call :: later) (here : call = .delete table ∨ ∃ rows, call = .insert rows) :
    .delete table ∉ later := by
  obtain ⟨deletes, both, rfl⟩ := of
  have noInsert : ∀ rows, .insert rows ∉ deletes := fun rows inside => by
    simpa using both.mem_iff.mp inside
  have once : deletes.Nodup := both.nodup_iff.mpr (by simp)
  intro again
  rcases List.append_eq_append_iff.mp same with ⟨between, rfl, rest⟩ | ⟨between, rfl, rest⟩
  · -- the call is one of the inserts, and so is everything after it
    have inside : .delete table ∈ (save.inserts ruleId).map fun insert => Call.insert insert.rows := by
      rw [rest]
      simp [again]
    simp at inside
  · cases between with
    | nil =>
      have inside : .delete table ∈ (save.inserts ruleId).map fun insert => Call.insert insert.rows := by
        rw [List.nil_append] at rest
        rw [← rest]
        simp [again]
      simp at inside
    | cons head tail =>
      obtain ⟨rfl, rfl⟩ := List.cons.inj rest
      rcases here with rfl | ⟨rows, rfl⟩
      · rcases List.mem_append.mp again with twice | inside
        · simp [List.nodup_append, twice] at once
        · simp at inside
      · exact noInsert rows (by simp)

end

section
variable {ruleId : String} {save : Bool → Save} {events : List (Bool × Call)} {db : List Row}
  (calls : ∀ who, (save who).Calls ruleId (own who events))
include calls

theorem mem_rows {who : Bool} {row : Row} :
    row ∈ (save who).rows ruleId ↔ ∃ rows, (who, .insert rows) ∈ events ∧ row ∈ rows := by
  rw [← (calls who).rows, List.mem_flatMap]
  constructor
  · rintro ⟨call, inside, there⟩
    cases call with
    | delete table => cases there
    | insert rows => exact ⟨rows, mem_own.mp inside, there⟩
  · rintro ⟨rows, inside, there⟩
    exact ⟨.insert rows, mem_own.mpr inside, there⟩

variable (fresh : (db ++ ((save true).rows ruleId ++ (save false).rows ruleId)).Nodup)
include fresh

theorem nodup_after : (after ruleId events db).Nodup := by
  have parts := (own_perm events).flatMap_right Call.rows
  rw [List.flatMap_append, (calls true).rows, (calls false).rows] at parts
  exact (after_sublist ruleId events db).nodup ((parts.append_left db).nodup_iff.mp fresh)

omit calls in
theorem nodup_rows (who : Bool) : ((save who).rows ruleId).Nodup := by
  have both := List.nodup_append.mp (List.nodup_append.mp fresh).2.1
  cases who with
  | true => exact both.1
  | false => exact both.2.1
omit calls in
theorem not_both {who : Bool} {row : Row} (mine : row ∈ (save who).rows ruleId) : row ∉ (save !who).rows ruleId := by
  intro theirs
  have apart := (List.nodup_append.mp (List.nodup_append.mp fresh).2.1).2.2
  cases who with
  | true => exact apart row mine row theirs rfl
  | false => exact apart row theirs row mine rfl

omit calls fresh in
theorem rule_of_mem {who : Bool} {row : Row} (mine : row ∈ (save who).rows ruleId) : row.rule_id = ruleId := by
  obtain ⟨insert, inside, there⟩ := List.mem_flatMap.mp mine
  exact (inserts_rows inside row there).2
omit fresh in
/-- Nothing of the old rows is left. -/
theorem mem_result {row : Row} :
    row ∈ ruleRows ruleId (after ruleId events db) ↔ row.rule_id = ruleId ∧ Inserted events row := by
  rw [ruleRows, List.mem_filter, decide_eq_true_iff, and_comm]
  refine and_congr_right fun own => ?_
  rw [mem_after events db own, or_iff_left]
  rintro ⟨-, stays⟩
  exact stays true (mem_own.mp ((calls true).delete_mem row.table))
omit fresh in
theorem delete_not_later {who : Bool} {before later : List (Bool × Call)} {call : Call} {table : Table}
    (same : events = before ++ (who, call) :: later) (here : call = .delete table ∨ ∃ rows, call = .insert rows) :
    (who, .delete table) ∉ later := by
  intro again
  have split : own who events = own who before ++ call :: own who later := by rw [same, own_split]
  exact (calls who).delete_first split here (mem_own.mpr again)
omit fresh in
theorem mem_rows_of_inserted {who : Bool} {rows : List Row} {row : Row} (inside : (who, .insert rows) ∈ events)
    (there : row ∈ rows) : row ∈ (save who).rows ruleId := (mem_rows calls).mpr ⟨rows, inside, there⟩
/-- A row is in one of a save's inserts only. -/
theorem insert_once {who : Bool} {before later : List (Bool × Call)} {rows others : List Row} {row : Row}
    (same : events = before ++ later) (first : (who, .insert rows) ∈ before) (there : row ∈ rows) (also : row ∈ others) :
    (who, .insert others) ∉ later := by
  intro again
  have once : ((own who events).flatMap Call.rows).Nodup := by
    rw [(calls who).rows]
    exact nodup_rows fresh who
  rw [same, own_append, List.flatMap_append, List.nodup_append] at once
  refine once.2.2 row ?_ row ?_ rfl
  · exact List.mem_flatMap.mpr ⟨.insert rows, mem_own.mpr first, there⟩
  · exact List.mem_flatMap.mpr ⟨.insert others, mem_own.mpr again, also⟩

/-- If the rule has the list of one save, the calls came in the order for it. -/
theorem before_of_perm {second : Bool}
    (result : (ruleRows ruleId (after ruleId events db)).Perm ((save second).rows ruleId)) : Before events (!second) second := by
  constructor
  · rintro table before later same rows inside row there rfl
    -- otherwise the other's row would still be there
    have mine : row ∈ (save !second).rows ruleId := mem_rows_of_inserted calls (by simp [same, inside]) there
    refine not_both fresh mine ?_
    rw [Bool.not_not, ← result.mem_iff, mem_result calls]
    obtain ⟨between, last, rfl⟩ := List.append_of_mem inside
    have split : events = (before ++ (second, .delete row.table) :: between) ++ (!second, .insert rows) :: last := by
      simp [same]
    refine ⟨rule_of_mem mine, _, !second, rows, last, split, there, fun other again => ?_⟩
    by_cases who : other = second
    · rw [who] at again
      exact delete_not_later calls same (.inl rfl) (by simp [again])
    · rw [Bool.eq_not_of_ne who] at again
      exact delete_not_later calls split (.inr ⟨rows, rfl⟩) again
  · rintro table before later same rows inside row there rfl
    have mine : row ∈ (save second).rows ruleId := mem_rows_of_inserted calls (by simp [same, inside]) there
    obtain ⟨-, before', who, rows', later', same', there', stays⟩ := (mem_result calls).mp (result.mem_iff.mpr mine)
    have again : (who, .insert rows') ∈ later := mem_of_not_later (same.symm.trans same') (by simp) (stays _)
    by_cases who_eq : who = second
    · -- the row would be inserted a second time, after the delete
      rw [who_eq] at again
      exact insert_once calls fresh same inside there there' (List.mem_cons_of_mem _ again)
    · rw [Bool.eq_not_of_ne who_eq] at again
      exact not_both fresh mine (mem_rows_of_inserted calls (by simp [same, again]) there')
theorem perm_of_before {second : Bool} (before : Before events (!second) second) :
    (ruleRows ruleId (after ruleId events db)).Perm ((save second).rows ruleId) := by
  have nodup := (nodup_after calls fresh).filter (·.rule_id = ruleId)
  refine (List.perm_ext_iff_of_nodup nodup (nodup_rows fresh second)).mpr fun row => ?_
  refine (mem_result calls).trans ⟨?_, fun mine => ⟨rule_of_mem mine, ?_⟩⟩
  · rintro ⟨-, early, who, rows, later, same, there, stays⟩
    by_cases who_eq : who = second
    · rw [← who_eq]
      exact mem_rows_of_inserted calls (by simp [same]) there
    · -- a row of the other is deleted later
      rw [Bool.eq_not_of_ne who_eq] at same
      have delete : (second, Call.delete row.table) ∈ events := mem_own.mp ((calls second).delete_mem row.table)
      obtain ⟨early', later', split⟩ := List.append_of_mem delete
      refine absurd (mem_of_not_later (same.symm.trans split) (by simp) fun inside => ?_) (stays second)
      exact before.deleted row.table early' later' split rows inside row there rfl
  · obtain ⟨rows, inside, there⟩ := (mem_rows calls).mp mine
    obtain ⟨early, later, split⟩ := List.append_of_mem inside
    refine ⟨early, second, rows, later, split, there, fun other again => ?_⟩
    by_cases who : other = second
    · rw [who] at again
      exact delete_not_later calls split (.inr ⟨rows, rfl⟩) again
    · rw [Bool.eq_not_of_ne who] at again
      obtain ⟨between, last, rfl⟩ := List.append_of_mem again
      refine before.kept row.table (early ++ (second, .insert rows) :: between) last ?_ rows (by simp) row there rfl
      simp [split]

end

/-- What a save leaves of the rule: nothing new if it is refused; else, if its
    deletes succeed, what its inserts have put there up to the first that fails.
    Two saves at once leave the list of one of them exactly if their calls come
    in the order for it. -/
theorem save_leaves (ruleId : String) (save : Bool → Save) (db : List Row) :
    (∀ user outcomes who, Refused user (save who) →
      ∃ err, (addConditionGroupsToRule user outcomes ruleId (save who)).run db = (.error err, db)) ∧
    (∀ user outcomes who, ¬Refused user (save who) → (∀ table, outcomes.delete table = none) →
      Leaves outcomes ruleId (save who) ((addConditionGroupsToRule user outcomes ruleId (save who)).run db)) ∧
    ((db ++ ((save true).rows ruleId ++ (save false).rows ruleId)).Nodup →
      ∀ events, (∀ who, (save who).Calls ruleId (own who events)) → ∀ second,
        (ruleRows ruleId (after ruleId events db)).Perm ((save second).rows ruleId) ↔ Before events (!second) second) := by
  refine ⟨?_, ?_, ?_⟩
  · intro user outcomes who refused
    exact run_refused outcomes ruleId refused db
  · intro user outcomes who accepted deleted
    exact run_leaves ruleId accepted deleted db
  · intro fresh events calls second
    exact ⟨before_of_perm calls fresh, perm_of_before calls fresh⟩

def systemCondition (value : String) : RuleConditionInput :=
  { field := some "gen_ai.system", operator := some "equals", value := some value }
/-- One group with one condition. -/
def sampleSave (value : String) (group condition : String) : Save :=
  { conditionGroups := [{ condition_operator := some "OR", conditions := some [systemCondition value] }]
    ids := { group := fun _ => group, condition := fun _ _ => condition } }
def sampleSaves : Bool → Save
  | true => sampleSave "openai" "g1" "c1"
  | false => sampleSave "mistral" "g2" "c2"
def storedRows : List Row := (sampleSave "anthropic" "g0" "c0").rows "r1"

theorem sampleSave_inserts (value group condition : String) :
    (sampleSave value group condition).inserts "r1" =
      [⟨.groups, 0, [.group ⟨group, "r1", "OR"⟩]⟩,
        ⟨.conditions, 0, [.condition ⟨condition, "r1", group, "gen_ai.system", "equals", value, "string"⟩]⟩] := rfl
/-- The second save starts before the first has inserted its condition. -/
def sampleEvents : List (Bool × Call) :=
  [(true, .delete .groups), (true, .delete .conditions), (true, .insert [.group ⟨"g1", "r1", "OR"⟩]), (false, .delete .groups),
    (true, .insert [.condition ⟨"c1", "r1", "g1", "gen_ai.system", "equals", "openai", "string"⟩]), (false, .delete .conditions),
    (false, .insert [.group ⟨"g2", "r1", "OR"⟩]),
    (false, .insert [.condition ⟨"c2", "r1", "g2", "gen_ai.system", "equals", "mistral", "string"⟩])]
theorem sampleEvents_calls (who : Bool) : (sampleSaves who).Calls "r1" (own who sampleEvents) := by
  refine ⟨[.delete .groups, .delete .conditions], .refl _, ?_⟩
  cases who with
  | true => rw [sampleSaves, sampleSave_inserts]; rfl
  | false => rw [sampleSaves, sampleSave_inserts]; rfl

theorem save_leaves_sample :
    (∃ err, (addConditionGroupsToRule none ⟨fun _ => none, fun _ _ => none⟩ "r1" (sampleSaves true)).run storedRows =
      (.error err, storedRows)) ∧
    Leaves ⟨fun _ => none, fun _ _ => none⟩ "r1" (sampleSaves true)
      ((addConditionGroupsToRule (some "ada@example.org") ⟨fun _ => none, fun _ _ => none⟩ "r1" (sampleSaves true)).run
        storedRows) ∧
    Before sampleEvents true false := by
  have leaves := save_leaves "r1" sampleSaves storedRows
  refine ⟨leaves.1 none _ true (.inl rfl), leaves.2.1 (some "ada@example.org") _ true ?_ fun _ => rfl, ?_⟩
  · rintro (none | ⟨group, inside, rejected⟩)
    · cases none
    · rw [sampleSaves, sampleSave, List.mem_singleton] at inside
      subst inside
      exact absurd (by decide +kernel) rejected
  · exact (leaves.2.2 (by decide) sampleEvents sampleEvents_calls false).mp (by decide)

/-- A save leaves exactly its list, or, with an error, exactly what was there. -/
def Atomic (ruleId : String) (save : Save) (db : List Row) : Except String String × List Row → Prop
  | (.ok _, db') => ruleRows ruleId db' = save.rows ruleId
  | (.error _, db') => ruleRows ruleId db' = ruleRows ruleId db
/-- The insert of the conditions fails: the rule has a group without conditions. -/
theorem half_installed :
    let outcomes : Outcomes :=
      { delete := fun _ => none, insert := fun table _ => if table = .conditions then some "timeout" else none }
    let save := sampleSave "openai" "g1" "c1"
    let result := (addConditionGroupsToRule (some "ada@example.org") outcomes "r1" save).run storedRows
    result = (.error "timeout", [.group ⟨"g1", "r1", "OR"⟩]) ∧ ¬Atomic "r1" save storedRows result := by
  intro outcomes save result
  have ran : result = (.error "timeout", [.group ⟨"g1", "r1", "OR"⟩]) := by decide +kernel
  refine ⟨ran, ?_⟩
  rw [ran]
  show ruleRows "r1" _ ≠ ruleRows "r1" storedRows
  decide +kernel

end Openlit.RuleSaves
