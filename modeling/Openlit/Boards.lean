import Openlit.ClickHouse
import Openlit.JsonParse

/-!
Boards and their widgets (`manage-dashboard/board.ts`, `manage-dashboard/widget.ts`,
`helpers/server/widget.ts`): the layout of a board and the import of one. An
exported layout is read back as the value that it was written from. ClickHouse
takes every query that it is given here; times other than a board's creation are
left out, and so is what a created widget is answered with.
-/
namespace Openlit.Boards
open Openlit.JsonText Openlit.JsonParse Openlit.Literals Openlit.RuleLinks Openlit.ClickHouse
open Storage

/-! ### The tables -/

section
variable [Storage]

structure BoardRow where
  id : UUID
  title : String
  description : String
  is_main_dashboard : Bool
  is_pinned : Bool
  tags : String
  created_at : Nat
structure WidgetRow where
  id : UUID
  title : String
  description : String
  widget_type : String
  properties : String
  config : String
structure BoardWidgetRow where
  id : UUID
  board_id : UUID
  widget_id : UUID
  position : String
structure Database where
  boards : List BoardRow
  widgets : List WidgetRow
  boardWidgets : List BoardWidgetRow

/-- A UUID that is not among those given. -/
def newUUID (used : List UUID) : UUID := ⟨generateUUIDv4 (used.map (·.text)), generated_read _⟩

end

/-- The row that `ORDER BY created_at DESC LIMIT 1` gives is one of the newest, and what a query does
    whose literal ends early is left open. -/
class BoardPlatform extends Platform where
  letter_tab : letter '\t' = some 't'
  letter_n : ∀ {c}, letter c = some 'n' → c = '\n'
  letter_t : ∀ {c}, letter c = some 't' → c = '\t'
  generated_nonempty : ∀ ids, generateUUIDv4 ids ≠ ""
  newest : List BoardRow → Option BoardRow
  newest_some : ∀ {rows}, rows ≠ [] → (newest rows).isSome = true
  newest_latest : ∀ {rows row}, newest rows = some row → row ∈ rows ∧ ∀ other ∈ rows, other.created_at ≤ row.created_at
  unreadPosition : String → List BoardWidgetRow → List BoardWidgetRow

/-- An answer with an error, or an exception. -/
inductive Failure
  | err (message : String)
  | thrown
  deriving DecidableEq, Repr

/-! ### JavaScript's values -/

def truthy : Json → Bool
  | .null => false
  | .bool b => b
  | .number text => text ≠ "0"
  | .string text => text ≠ ""
  | .array _ | .object _ => true
/-- `value || {}`. -/
def orEmpty (value : Option Json) : Json := (value.filter truthy).getD (.object [])
/-- The value of a name; only objects have these names. -/
def fieldOf (name : String) : Json → Option Json
  | .object fields => fields.lookup name
  | _ => none

/-! ### Widgets -/

/-- `Widget`. -/
structure WidgetData where
  id : String
  title : String
  description : String
  type : String
  properties : Json
  config : Json

/-- Two characters as one, wherever they follow each other. -/
def replacePair (a b one : Char) : List Char → List Char
  | x :: y :: rest =>
    if x = a ∧ y = b then one :: replacePair a b one rest else x :: replacePair a b one (y :: rest)
  | rest => rest
/-- The four replacements of `sanitizeWidget`. -/
def unescaped (text : List Char) : List Char :=
  replacePair '\\' 't' '\t' (replacePair '\\' 'n' '\n' (replacePair '\\' '\'' '\'' (replacePair '\'' '\'' '\'' text)))

/-- The restored value of `query` or `content`, which throws where it is not a text. -/
def unescapedValue (value : Json) : Except Failure Json :=
  if truthy value then
    match value with
    | .string text => pure (.string (String.ofList (unescaped text.toList)))
    | _ => throw .thrown
  else pure value
def restoredField (key : String) (value : Json) : Except Failure Json :=
  if key = "query" ∨ key = "content" then unescapedValue value else pure value
def restoredFields : List (String × Json) → Except Failure (List (String × Json))
  | [] => pure []
  | (key, value) :: fields => do
    let value ← restoredField key value
    let fields ← restoredFields fields
    pure ((key, value) :: fields)

section
variable [Platform]

def sanitizeConfig (config : Json) : Except Failure Json :=
  match sanitizeField config with
  | .object fields => (restoredFields fields).map .object
  | other => pure other
def sanitizeWidget (widget : WidgetData) : Except Failure WidgetData := do
  let config ← sanitizeConfig widget.config
  pure
    { id := sanitizeValue widget.id
      title := sanitizeValue widget.title
      description := sanitizeValue widget.description
      type := sanitizeValue widget.type
      properties := sanitizeField widget.properties
      config := config }
/-- The row that `createWidget` inserts; an id that is no UUID is rejected. -/
def widgetRow (widget : WidgetData) : Option WidgetRow :=
  (readUUID widget.id).map fun id =>
    { id := id
      title := widget.title
      description := widget.description
      widget_type := widget.type
      properties := jsonStringify (orEmpty (some widget.properties))
      config := jsonStringify (orEmpty (some widget.config)) }
def createWidget (widget : WidgetData) (db : Database) : Except Failure Database := do
  let widget ← sanitizeWidget widget
  pure { db with widgets := db.widgets ++ (widgetRow widget).toList }

end

/-- The new lines and tabs of `unsanitizeWidget`. -/
def escapedLines (text : String) : String :=
  String.ofList (text.toList.flatMap fun c => if c = '\n' then ['\\', 'n'] else if c = '\t' then ['\\', 't'] else [c])

/-! ### Layouts -/

structure LayoutItem where
  i : String
  x : Option Json
  y : Option Json
  w : Option Json
  h : Option Json
/-- What a layout holds; its widgets are by their ids. -/
structure Layout where
  id : String
  title : String
  description : String
  isMainDashboard : Bool
  isPinned : Bool
  tags : String
  lg : List LayoutItem
  widgets : List (String × WidgetData)

section
variable [Storage]

/-- `normalizeWidgetToClient` of the widget with an id, of which the last row counts, with the defaults of a layout. -/
def widgetData (db : Database) (widgetId : String) : WidgetData :=
  match db.widgets.reverse.find? (·.id.text = widgetId) with
  | some row =>
    { id := widgetId
      title := row.title
      description := row.description
      type := row.widget_type
      properties := orEmpty (if row.properties = "" then none else jsonParse row.properties)
      config := orEmpty (if row.config = "" then none else jsonParse (escapedLines row.config)) }
  | none => { id := widgetId, title := "", description := "", type := "", properties := .object [], config := .object [] }

def layoutItem (mapping : BoardWidgetRow) : Except Failure LayoutItem :=
  match jsonParse (if mapping.position = "" then "\x7b\x7d" else mapping.position) with
  | none | some .null => throw .thrown
  | some position =>
    pure
      { i := mapping.widget_id.text
        x := fieldOf "x" position
        y := fieldOf "y" position
        w := fieldOf "w" position
        h := fieldOf "h" position }
def getBoardLayout (id : String) (db : Database) : Except Failure Layout :=
  match (toUUID id).bind fun id => db.boards.find? (·.id.text = id) with
  | none => throw (.err "Board data not found!")
  | some board => do
    let mappings := db.boardWidgets.filter (·.board_id.text = board.id.text)
    let lg ← mappings.mapM layoutItem
    pure
      { id := board.id.text
        title := board.title
        description := board.description
        isMainDashboard := board.is_main_dashboard
        isPinned := board.is_pinned
        tags := board.tags
        lg := lg
        widgets := (mappings.map (·.widget_id.text)).eraseDups.map fun widgetId => (widgetId, widgetData db widgetId) }

end

/-- The text of a position. -/
def positionText (layout : LayoutItem) : String :=
  jsonStringify (.object
    ([("x", layout.x), ("y", layout.y), ("w", layout.w), ("h", layout.h)].filterMap fun field => field.2.map (field.1, ·)))

section
variable [BoardPlatform]
open BoardPlatform

/-- One item of the loop of `updateBoardLayout`: a mapping that exists is updated, one that does not is inserted. -/
def saveMapping (boardId : String) (existing : List BoardWidgetRow) (widgets : List (String × WidgetData))
    (rows : List BoardWidgetRow) (layout : LayoutItem) : List BoardWidgetRow :=
  match widgets.lookup layout.i with
  | none => rows
  | some widget =>
    if widget.id = "" then rows
    else match existing.reverse.find? (·.widget_id.text = widget.id) with
      | some mapping =>
        match literalText (positionText layout) with
        | some position => rows.map fun row => if row.id.text = mapping.id.text then { row with position := position } else row
        | none => unreadPosition (positionText layout) rows
      | none =>
        match readUUID (sanitizeValue boardId), readUUID (sanitizeValue widget.id) with
        | some board_id, some widget_id =>
          rows ++
            [{ id := newUUID (rows.map (·.id))
               board_id := board_id
               widget_id := widget_id
               position := positionText layout }]
        | _, _ => rows
def updateBoardLayout (boardId : String) (lg : List LayoutItem) (widgets : List (String × WidgetData)) (db : Database) : Database :=
  let existing := db.boardWidgets.filter (·.board_id.text = boardId)
  let newWidgetIds := lg.filterMap fun layout => Text.present ((widgets.lookup layout.i).map (·.id))
  let dropped := existing.filter fun mapping => mapping.widget_id.text ∉ newWidgetIds
  let rows := db.boardWidgets.filter fun row => ¬ (row.id.text ∈ dropped.map (·.id.text) ∧ row.board_id.text = boardId)
  { db with boardWidgets := lg.foldl (saveMapping boardId existing widgets) rows }

/-! ### The import -/

/-- `Partial<Board>`. -/
structure BoardData where
  title : String
  description : String
  isPinned : Bool
  isMainDashboard : Bool
  tags : Option Json

/-- The row that `createBoard` inserts, with an id that no row has. -/
def boardRow (board : BoardData) (now : Nat) (db : Database) : BoardRow :=
  { id := newUUID (db.boards.map (·.id) ++ db.boardWidgets.map (·.board_id))
    title := sanitizeValue board.title
    description := sanitizeValue board.description
    is_main_dashboard := board.isMainDashboard
    is_pinned := board.isPinned
    tags := (board.tags.map fun tags => jsonStringify (sanitizeField tags)).getD "[]"
    created_at := now }
/-- `createBoard`, which answers with a newest board. -/
def createBoard (board : BoardData) (now : Nat) (db : Database) : Except Failure (BoardRow × Database) :=
  let boards := db.boards ++ [boardRow board now db]
  match newest boards with
  | some board => pure (board, { db with boards := boards })
  | none => throw .thrown

/-- The `boardData` of an import. -/
def boardData (data : Layout) (db : Database) : BoardData :=
  { title := data.title
    description := data.description
    isPinned := data.isPinned
    isMainDashboard := if db.boards.any (·.is_main_dashboard) then false else data.isMainDashboard
    tags := if data.tags = "" then some (.array []) else jsonParse data.tags }
/-- As many texts of `randomUUID`. -/
def randomUUIDs (used : List UUID) : Nat → List UUID
  | 0 => []
  | count + 1 => newUUID used :: randomUUIDs (newUUID used :: used) count
/-- The new ids of the widgets, in their order. -/
def newWidgetIds (data : Layout) (db : Database) : List UUID :=
  randomUUIDs (db.widgets.map (·.id) ++ db.boardWidgets.map (·.widget_id)) data.widgets.length
/-- `widgetIdMap.get`; an id without a widget becomes `undefined`. -/
def newWidgetId (data : Layout) (db : Database) (id : String) : String :=
  (((data.widgets.map (·.2.id)).zip ((newWidgetIds data db).map (·.text))).reverse.lookup id).getD "undefined"
def updatedWidgets (data : Layout) (db : Database) : List WidgetData :=
  List.zipWith (fun entry id => { entry.2 with id := id.text }) data.widgets (newWidgetIds data db)
def updatedLayouts (data : Layout) (db : Database) : List LayoutItem :=
  data.lg.map fun layout => { layout with i := newWidgetId data db layout.i }

def importBoardLayout (data : Layout) (now : Nat) (db : Database) : Except Failure (BoardRow × Database) := do
  let (board, created) ← createBoard (boardData data db) now db
  let widgets := updatedWidgets data db
  let written ← widgets.foldlM (fun db widget => createWidget widget db) created
  pure (board, updateBoardLayout board.id.text (updatedLayouts data db) (widgets.map fun widget => (widget.id, widget)) written)

end
end Openlit.Boards
