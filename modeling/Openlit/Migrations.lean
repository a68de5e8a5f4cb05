import Mathlib.Data.Set.Subsingleton
import Mathlib.Logic.Function.Basic
import Openlit.Runs

/-!
The ClickHouse migrations (`clickhouse/migrations/`), in any order of the steps of
any calls on one database config. A call looks for the record of its migration,
sends all queries at once, and records the migration if none has failed; then the
dashboards are seeded into an empty board table, and the Openground records are
copied. Neither is one step, so calls overlap, and a migration without a record
sends all its queries again. A run of `migrations()` is a call of each migration;
calls that find no config do nothing and are left out.
-/
namespace Openlit.Migrations
open Openlit.Runs

/-! ### The migrations -/

inductive Migration
  | prompt
  | vault
  | evaluation
  | evaluationTypeDefaults
  | cronLog
  | customDashboards
  | openground
  | opengroundCustomModels
  | ruleEngine
  deriving DecidableEq

def clickhouseMigrationId : Migration → String
  | .prompt => "create-prompt-table"
  | .vault => "create-vault-table"
  | .evaluation => "create-evaluation-table-2"
  | .evaluationTypeDefaults => "create-evaluation-type-defaults-table-5"
  | .cronLog => "create-cron-log-table"
  | .customDashboards => "create-custom-dashboards-table"
  | .openground => "create-openground-table"
  | .opengroundCustomModels => "create-openground-custom-models-table"
  | .ruleEngine => "create-rule-engine-table"
theorem clickhouseMigrationId_injective : Function.Injective clickhouseMigrationId := by
  intro a b
  cases a <;> cases b <;> decide

/-- `CREATE TABLE IF NOT EXISTS`, or the insertion of the default rows. -/
inductive Query
  | create (table : String)
  | insert (table : String)
  deriving DecidableEq
def queries : Migration → List Query
  | .prompt => [.create "openlit_prompts", .create "openlit_prompt_versions", .create "openlit_prompt_version_downloads"]
  | .vault => [.create "openlit_vault"]
  | .evaluation => [.create "openlit_evaluation"]
  | .evaluationTypeDefaults => [.create "openlit_evaluation_type_defaults", .insert "openlit_evaluation_type_defaults"]
  | .cronLog => [.create "openlit_cron_logger"]
  | .customDashboards =>
    [.create "openlit_folder", .create "openlit_board", .create "openlit_widget", .create "openlit_board_widget"]
  | .openground => [.create "openlit_openground", .create "openlit_openground_providers", .create "openlit_openground_configs"]
  | .opengroundCustomModels => [.create "openlit_openground_custom_models"]
  | .ruleEngine =>
    [.create "openlit_rules", .create "openlit_rule_condition_groups", .create "openlit_rule_conditions",
      .create "openlit_rule_entities", .create "openlit_contexts"]
/-- The layouts that `CreateCustomDashboardsSeed` imports, in its order. -/
def seedDashboards : List String := ["LLM-dashboard", "Vector-DB", "GPU-dashboard"]

/-- What a call does to the database: a query by its position, the copy of the
    Openground records, or a dashboard by its position. -/
inductive Effect
  | query (migration : Migration) (position : Nat)
  | copy
  | seed (position : Nat)
  deriving DecidableEq

/-! ### The calls -/

inductive Stage
  | check
  /-- The queries without an answer, and if one has failed. -/
  | queries (pending : List Nat) (failed : Bool)
  | record
  | copy
  | isBoardTableEmpty
  /-- The dashboard that is imported next. -/
  | importing (position : Nat)
  | ended

/-- How often each effect has been applied, the records, the rows of the board table, and where each call is. -/
structure World (Call : Type) where
  applied : Effect → Nat
  recorded : List String
  boards : Nat
  stage : Call → Stage
/-- The next step of a call: if it fails, which query is answered, and if an import ends the seed with an exception. -/
structure Event (Call : Type) where
  call : Call
  failed : Bool
  query : Nat
  stops : Bool

/-- After the queries: the dashboards are seeded in any case, the records are copied after a record. -/
def afterRecord (m : Migration) (recorded : Bool) : Stage :=
  match m with
  | .customDashboards => .isBoardTableEmpty
  | .openground => if recorded then .copy else .ended
  | _ => .ended
def afterQueries (m : Migration) (pending : List Nat) (failed : Bool) : Stage :=
  if pending = [] then if failed then afterRecord m false else .record else .queries pending failed
/-- The stage of a call whose check has passed. -/
def sent (m : Migration) : Stage := afterQueries m (List.range (queries m).length) false

section
variable {Call : Type}

def start (boards : Nat) : World Call := { applied := fun _ => 0, recorded := [], boards, stage := fun _ => .check }

/-- A check that cannot read the records passes too. -/
def passes (w : World Call) (m : Migration) (failed : Bool) : Bool := failed || !w.recorded.contains (clickhouseMigrationId m)
/-- `isBoardTableEmpty`; an error ends the seed. -/
def empty (w : World Call) (failed : Bool) : Bool := !failed && w.boards = 0

variable [DecidableEq Call]

def World.at (w : World Call) (call : Call) (stage : Stage) : World Call := { w with stage := Function.update w.stage call stage }
def World.apply (w : World Call) (x : Effect) : World Call := { w with applied := Function.update w.applied x (w.applied x + 1) }

/-- A step of a call of a migration. -/
def advance (m : Migration) (w : World Call) (e : Event Call) : World Call :=
  match w.stage e.call with
  | .check => if passes w m e.failed then w.at e.call (sent m) else w.at e.call .ended
  | .queries pending failed =>
    if e.query ∈ pending then
      let rest := pending.filter (· ≠ e.query)
      if e.failed then w.at e.call (afterQueries m rest true)
      else (w.apply (.query m e.query)).at e.call (afterQueries m rest failed)
    else w
  | .record =>
    if e.failed then w.at e.call (afterRecord m false)
    else { w with recorded := w.recorded ++ [clickhouseMigrationId m] }.at e.call (afterRecord m true)
  | .copy => if e.failed then w.at e.call .ended else (w.apply .copy).at e.call .ended
  | .isBoardTableEmpty => if empty w e.failed then w.at e.call (.importing 0) else w.at e.call .ended
  | .importing position =>
    let next := if e.stops || position + 1 = seedDashboards.length then .ended else .importing (position + 1)
    if e.failed then w.at e.call next
    else { w.apply (.seed position) with boards := w.boards + 1 }.at e.call next
  | .ended => w
/-- A step of a run, in which each call is of a migration. -/
def step (of : Call → Migration) (w : World Call) (e : Event Call) : World Call := advance (of e.call) w e

end

end Openlit.Migrations
