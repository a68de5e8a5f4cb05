import Openlit.RuleLinks
import Openlit.Runs

/-!
Calls that mark, create and import boards and create widgets
(`manage-dashboard/board.ts`, `manage-dashboard/widget.ts`), statement by
statement. A call without a config runs each of its statements on the database
that is the user's current one then. Of a board are kept its id, its mark and
its creation time, and of a widget its id and its creation time; the other
columns are what the call has sanitized. Every row has the call that has
inserted it, which no statement reads, and the widgets of an import are calls of
their own.
-/
namespace Openlit.DashboardCalls
open Openlit.RuleLinks Openlit.Runs
open Storage

section
variable {Call Db Columns : Type}

structure Board (Call Columns : Type) where
  id : String
  is_main_dashboard : Bool
  columns : Columns
  created_at : Nat
  origin : Call
/-- The boards of a database; their ids are different. -/
structure BoardTable (Call Columns : Type) where
  rows : List (Board Call Columns)
  ids : (rows.map (·.id)).Nodup
structure Widget (Call Columns : Type) where
  id : String
  columns : Columns
  created_at : Nat
  origin : Call

/-- What a new board is created from. -/
structure BoardInput (Columns : Type) where
  isMainDashboard : Bool
  columns : Columns
structure WidgetInput (Columns : Type) where
  id : Option String
  columns : Columns

/-- A call with its arguments, of which the last is `databaseConfigId`. -/
inductive Request (Db Columns : Type)
  | setMainDashboard (boardId : String)
  | createBoard (board : BoardInput Columns) (databaseConfigId : Option Db)
  | importBoardLayout (data : BoardInput Columns) (databaseConfigId : Option Db)
  | createWidget (widget : WidgetInput Columns) (databaseConfigId : Option Db)

/-- What a call has answered: an error, or the row that it has read. The answers
    of `setMainDashboard` come with what it does not look at: if the board was
    `found`, and if its first statement has `unmarked` a board. -/
inductive Answer (Call Columns : Type)
  | err
  | notUpdated (unmarked : Bool)
  | updated (found unmarked : Bool)
  | board (row : Option (Board Call Columns))
  | widget (row : Widget Call Columns)
/-- The statement that a call is at. -/
inductive Stage (Call Db Columns : Type)
  | unset (boardId : String)
  | set (boardId : String) (unmarked : Bool)
  | readMain (data : BoardInput Columns) (databaseConfigId : Option Db)
  | insertBoard (board : BoardInput Columns) (databaseConfigId : Option Db)
  | readBoard
  | insertWidget (widget : WidgetInput Columns) (databaseConfigId : Option Db)
  | readWidget (databaseConfigId : Option Db)
  | ended (answer : Answer Call Columns)

def Request.first : Request Db Columns → Stage Call Db Columns
  | .setMainDashboard boardId => .unset boardId
  | .createBoard board databaseConfigId => .insertBoard board databaseConfigId
  | .importBoardLayout data databaseConfigId => .readMain data databaseConfigId
  | .createWidget widget databaseConfigId => .insertWidget widget databaseConfigId

/-- The tables of each database, and where each call is. -/
structure World (Call Db Columns : Type) where
  boards : Db → BoardTable Call Columns
  widgets : Db → List (Widget Call Columns)
  stage : Call → Stage Call Db Columns
def start (requests : Call → Request Db Columns) : World Call Db Columns :=
  { boards := fun _ => ⟨[], List.nodup_nil⟩, widgets := fun _ => [], stage := fun call => (requests call).first }

/-- The next statement of a call: the current database of its user, the time, if
    the statement fails, and which of the newest rows `LIMIT 1` takes. -/
structure Event (Call Db : Type) where
  call : Call
  current : Db
  now : Nat
  failed : Bool
  pick : Nat

/-! ### The statements -/

def unsetRow (b : Board Call Columns) : Board Call Columns := { b with is_main_dashboard := false }
def setRow (uuid : String) (b : Board Call Columns) : Board Call Columns :=
  if b.id = uuid then { b with is_main_dashboard := true } else b

@[simp] theorem setRow_id (uuid : String) (b : Board Call Columns) : (setRow uuid b).id = b.id := by
  by_cases same : b.id = uuid <;> simp [setRow, same]
@[simp] theorem setRow_marked (uuid : String) (b : Board Call Columns) :
    (setRow uuid b).is_main_dashboard = true ↔ b.is_main_dashboard = true ∨ b.id = uuid := by
  by_cases same : b.id = uuid <;> simp [setRow, same]

/-- `UPDATE is_main_dashboard = false WHERE is_main_dashboard = true`. -/
def unsetQuery (boards : BoardTable Call Columns) : BoardTable Call Columns where
  rows := boards.rows.map unsetRow
  ids := by simpa [Function.comp_def, unsetRow] using boards.ids
/-- `UPDATE is_main_dashboard = true WHERE id = ..`. -/
def setQuery (uuid : String) (boards : BoardTable Call Columns) : BoardTable Call Columns where
  rows := boards.rows.map (setRow uuid)
  ids := by simpa [Function.comp_def] using boards.ids
def BoardTable.marked (boards : BoardTable Call Columns) : Bool := boards.rows.any (·.is_main_dashboard)
/-- The rows that `ORDER BY created_at DESC LIMIT 1` may take. -/
def newest {Row : Type} (created_at : Row → Nat) (rows : List Row) : List Row :=
  rows.filter fun row => rows.all fun other => created_at other ≤ created_at row
def latest {Row : Type} (created_at : Row → Nat) (pick : Nat) (rows : List Row) : Option Row :=
  (newest created_at rows)[pick]?.or (newest created_at rows).head?

section
variable [Storage]

def newBoard (call : Call) (now : Nat) (board : BoardInput Columns) (boards : BoardTable Call Columns) : Board Call Columns :=
  { id := generateUUIDv4 (boards.rows.map (·.id))
    is_main_dashboard := board.isMainDashboard
    columns := board.columns
    created_at := now
    origin := call }
def BoardTable.insert (boards : BoardTable Call Columns) (call : Call) (now : Nat) (board : BoardInput Columns) :
    BoardTable Call Columns where
  rows := boards.rows ++ [newBoard call now board boards]
  ids := by
    rw [List.map_append, List.nodup_append]
    refine ⟨boards.ids, List.nodup_singleton _, ?_⟩
    intro id old _ added same
    rw [List.map_singleton, List.mem_singleton] at added
    exact generated_new _ (added ▸ same ▸ old)
/-- The given id, or a new one; a text that is no UUID is an error. -/
def widgetId (given : Option String) (used : List String) : Option String :=
  match given with
  | none => some (generateUUIDv4 used)
  | some text => toUUID (sanitizeValue text)
def newWidget (call : Call) (now : Nat) (widget : WidgetInput Columns) (widgets : List (Widget Call Columns)) :
    Option (Widget Call Columns) :=
  (widgetId widget.id (widgets.map (·.id))).map fun id => { id, columns := widget.columns, created_at := now, origin := call }

variable [DecidableEq Call] [DecidableEq Db]

def World.at (w : World Call Db Columns) (call : Call) (stage : Stage Call Db Columns) : World Call Db Columns :=
  { w with stage := Function.update w.stage call stage }
def World.setBoards (w : World Call Db Columns) (d : Db) (boards : BoardTable Call Columns) : World Call Db Columns :=
  { w with boards := Function.update w.boards d boards }
def World.setWidgets (w : World Call Db Columns) (d : Db) (widgets : List (Widget Call Columns)) : World Call Db Columns :=
  { w with widgets := Function.update w.widgets d widgets }

/-- `setMainDashboard` does not look at the error of its first statement. -/
def unsetMain (w : World Call Db Columns) (e : Event Call Db) (boardId : String) : World Call Db Columns :=
  if e.failed then w.at e.call (.set boardId false)
  else (w.at e.call (.set boardId (w.boards e.current).marked)).setBoards e.current (unsetQuery (w.boards e.current))
/-- The id that a `setQuery` is run with; a text that is no UUID is an error. -/
def addressed (e : Event Call Db) (boardId : String) : Option String := if e.failed then none else toUUID boardId
def setMain (w : World Call Db Columns) (e : Event Call Db) (boardId : String) (unmarked : Bool) : World Call Db Columns :=
  match addressed e boardId with
  | none => w.at e.call (.ended (.notUpdated unmarked))
  | some uuid =>
    let found := (w.boards e.current).rows.any (·.id = uuid)
    (w.at e.call (.ended (.updated found unmarked))).setBoards e.current (setQuery uuid (w.boards e.current))
/-- An import is marked as it says unless a marked board is read; a failed read finds none. -/
def readMain (w : World Call Db Columns) (e : Event Call Db) (data : BoardInput Columns) (databaseConfigId : Option Db) :
    World Call Db Columns :=
  let found := !e.failed && (w.boards (databaseConfigId.getD e.current)).marked
  w.at e.call (.insertBoard { data with isMainDashboard := if found then false else data.isMainDashboard } databaseConfigId)
def insertBoard (w : World Call Db Columns) (e : Event Call Db) (board : BoardInput Columns) (databaseConfigId : Option Db) :
    World Call Db Columns :=
  if e.failed then w.at e.call (.ended .err)
  else
    let d := databaseConfigId.getD e.current
    (w.at e.call .readBoard).setBoards d ((w.boards d).insert e.call e.now board)
/-- The query of `createBoard` has no config, and `[0]` of no rows is `undefined`. -/
def readBoard (w : World Call Db Columns) (e : Event Call Db) : World Call Db Columns :=
  if e.failed then w.at e.call (.ended .err)
  else w.at e.call (.ended (.board (latest (·.created_at) e.pick (w.boards e.current).rows)))
def insertWidget (w : World Call Db Columns) (e : Event Call Db) (widget : WidgetInput Columns)
    (databaseConfigId : Option Db) : World Call Db Columns :=
  let d := databaseConfigId.getD e.current
  match if e.failed then none else newWidget e.call e.now widget (w.widgets d) with
  | none => w.at e.call (.ended .err)
  | some row => (w.at e.call (.readWidget databaseConfigId)).setWidgets d (w.widgets d ++ [row])
def readWidget (w : World Call Db Columns) (e : Event Call Db) (databaseConfigId : Option Db) : World Call Db Columns :=
  match if e.failed then none else latest (·.created_at) e.pick (w.widgets (databaseConfigId.getD e.current)) with
  | none => w.at e.call (.ended .err)
  | some row => w.at e.call (.ended (.widget row))

/-- A call that has ended does nothing more. -/
def step (w : World Call Db Columns) (e : Event Call Db) : World Call Db Columns :=
  match w.stage e.call with
  | .unset boardId => unsetMain w e boardId
  | .set boardId unmarked => setMain w e boardId unmarked
  | .readMain data databaseConfigId => readMain w e data databaseConfigId
  | .insertBoard board databaseConfigId => insertBoard w e board databaseConfigId
  | .readBoard => readBoard w e
  | .insertWidget widget databaseConfigId => insertWidget w e widget databaseConfigId
  | .readWidget databaseConfigId => readWidget w e databaseConfigId
  | .ended _ => w

end

end

end Openlit.DashboardCalls
