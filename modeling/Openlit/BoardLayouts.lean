import Openlit.BoardExports
import Openlit.Relations

/-!
The update of a board's layout under every answer of the database. Its rows are
read first; those of widgets that the layout no longer has are deleted, and each
item of the layout updates the last row that its widget was read with, or inserts
one. No error is looked at: after a read that failed every item is inserted again,
and a statement that fails changes nothing. The update always reports success.
-/
namespace Openlit.BoardLayouts
open Openlit.Text Openlit.Relations Openlit.RuleLinks Openlit.ClickHouse Openlit.Boards Openlit.StoredWidgets Openlit.BoardExports
open Openlit.Literals hiding Layout
open Storage

section
variable [BoardPlatform]

/-- A layout with its widgets. The ids are those that the database writes, or temporary ones, which are no
    UUIDs; the text of a position, four numbers, does not end the literal that it is written in. -/
structure LayoutConfig where
  lg : List LayoutItem
  widgets : List (String × WidgetData)
  ids : ∀ entry ∈ widgets, toUUID (sanitizeValue entry.2.id) = none ∨ ∃ id : UUID, entry.2.id = id.text
  closed : ∀ layout ∈ lg, Closed (positionText layout)
structure MappingTable where
  rows : List BoardWidgetRow
  ids : (rows.map (·.id.text)).Nodup

/-- What the database answers an update of a board's layout: the rows in any order, or an error, and whether the
    statements for a row and for an item succeed. -/
structure Answers (board : UUID) (table : MappingTable) where
  existing : Option (List BoardWidgetRow)
  read : ∀ rows ∈ existing, rows.Perm (table.rows.filter (·.board_id.text = board.text))
  deleted : UUID → Bool
  saved : Nat → Bool

/-- The id of an item's widget. -/
def widgetId (config : LayoutConfig) (layout : LayoutItem) : Option String :=
  present ((config.widgets.lookup layout.i).map (·.id))
def newWidgetIds (config : LayoutConfig) : List String := config.lg.filterMap (widgetId config)

def saveMappings (board : UUID) (existing : List BoardWidgetRow) (config : LayoutConfig) (saved : Nat → Bool)
    (entries : List (LayoutItem × Nat)) (rows : List BoardWidgetRow) : List BoardWidgetRow :=
  entries.foldl (fun rows entry =>
    if saved entry.2 then saveMapping board.text existing config.widgets rows entry.1 else rows) rows
variable {board : UUID} {table : MappingTable}

/-- The rows after the deletes. -/
def keptRows (config : LayoutConfig) (answers : Answers board table) : List BoardWidgetRow :=
  let dropped := (answers.existing.getD []).filter fun mapping =>
    mapping.widget_id.text ∉ newWidgetIds config ∧ answers.deleted mapping.id
  table.rows.filter fun row => ¬(row.id.text ∈ dropped.map (·.id.text) ∧ row.board_id.text = board.text)
/-- The rows after an update. -/
def updateBoardLayout (config : LayoutConfig) (answers : Answers board table) : List BoardWidgetRow :=
  saveMappings board (answers.existing.getD []) config answers.saved config.lg.zipIdx (keptRows config answers)

/-! ### What is to be stored -/

/-- The widget ids and positions of rows and of items. -/
def storedRows (board : UUID) (rows : List BoardWidgetRow) : List (Option String × String) :=
  (rows.filter (·.board_id.text = board.text)).map fun row => (some row.widget_id.text, row.position)
/-- No widget is created for a temporary id. -/
def submittedRows (config : LayoutConfig) (lg : List LayoutItem) : List (Option String × String) :=
  lg.filterMap fun layout => (widgetId config layout).map fun id => (toUUID (sanitizeValue id), positionText layout)
/-- The rows are those of the layout, each as often. -/
def Saves (config : LayoutConfig) (answers : Answers board table) : Prop :=
  (storedRows board (updateBoardLayout config answers)).Perm (submittedRows config config.lg)

/-! ### When it is stored -/

def Given (config : LayoutConfig) : Prop := ∀ id ∈ newWidgetIds config, toUUID (sanitizeValue id) ≠ none
/-- The positions of a widget. -/
def positions (config : LayoutConfig) (id : String) (lg : List LayoutItem) : List String :=
  (lg.filter (widgetId config · = some id)).map positionText
/-- The items whose statement succeeds, and those whose does not. -/
def savedItems (saved : Nat → Bool) (entries : List (LayoutItem × Nat)) : List LayoutItem :=
  (entries.filter fun entry => saved entry.2).map (·.1)
def unsavedItems (saved : Nat → Bool) (entries : List (LayoutItem × Nat)) : List LayoutItem :=
  (entries.filter fun entry => !saved entry.2).map (·.1)
/-- The position that the updates of a widget leave, if one succeeds. -/
def lastWritten (config : LayoutConfig) (id : String) (lg : List LayoutItem) : Option String :=
  ((lg.filter (widgetId config · = some id)).map fun layout => valueOf (positionText layout)).getLast?

/-- After a read: what is dropped is deleted, what is new is inserted, and a widget that stays has its submitted
    positions once its last row has the position that the updates leave. -/
structure Applied (config : LayoutConfig) (answers : Answers board table) (existing : List BoardWidgetRow) : Prop where
  deleted : ∀ mapping ∈ existing, mapping.widget_id.text ∉ newWidgetIds config → answers.deleted mapping.id = true
  inserted : ∀ entry ∈ config.lg.zipIdx, ∀ id ∈ widgetId config entry.1, (∀ mapping ∈ existing, mapping.widget_id.text ≠ id) →
    answers.saved entry.2 = true
  updated : ∀ id ∈ newWidgetIds config, ∀ others last, existing.filter (·.widget_id.text = id) = others ++ [last] →
    (others.map (·.position) ++
      [(lastWritten config id (savedItems answers.saved config.lg.zipIdx)).getD last.position]).Perm (positions config id config.lg)
/-- Every widget exists. After a failed read, what was stored is what is not inserted again. -/
def Complete (config : LayoutConfig) (answers : Answers board table) : Prop :=
  Given config ∧
    match answers.existing with
    | some existing => Applied config answers existing
    | none => (storedRows board table.rows).Perm (submittedRows config (unsavedItems answers.saved config.lg.zipIdx))

/-- The items whose statements fail change nothing. -/
theorem saveMappings_eq (existing : List BoardWidgetRow) (config : LayoutConfig) (saved : Nat → Bool)
    (entries : List (LayoutItem × Nat)) (rows : List BoardWidgetRow) :
    saveMappings board existing config saved entries rows =
      (savedItems saved entries).foldl (saveMapping board.text existing config.widgets) rows := by
  rw [saveMappings, savedItems, List.foldl_map, List.foldl_filter]
/-- Without an error this is the update whose statements all succeed. -/
theorem updateBoardLayout_succeeds (config : LayoutConfig) {answers : Answers board table} {db : Boards.Database}
    (same : db.boardWidgets = table.rows) (read : answers.existing = some (table.rows.filter (·.board_id.text = board.text)))
    (deleted : ∀ id, answers.deleted id = true) (saved : ∀ index, answers.saved index = true) :
    updateBoardLayout config answers = (Boards.updateBoardLayout board.text config.lg config.widgets db).boardWidgets := by
  have all (lg : List LayoutItem) : savedItems answers.saved lg.zipIdx = lg := by
    rw [savedItems, List.filter_eq_self.mpr fun entry _ => saved entry.2, List.zipIdx_map_fst]
  simp only [updateBoardLayout, saveMappings_eq, all, keptRows, read, same, Option.getD_some, deleted, and_true, Boards.updateBoardLayout]
  rfl

/-! ### The rows of one widget -/

theorem widgetId_eq_some_iff {config : LayoutConfig} {layout : LayoutItem} {id : String} :
    widgetId config layout = some id ↔ id ≠ "" ∧ ∃ widget, config.widgets.lookup layout.i = some widget ∧ widget.id = id := by
  rw [widgetId, present, Option.filter_eq_some_iff, Option.map_eq_some_iff, and_comm]
  simp
theorem mem_newWidgetIds {config : LayoutConfig} {id : String} :
    id ∈ newWidgetIds config ↔ ∃ layout ∈ config.lg, widgetId config layout = some id := List.mem_filterMap
/-- The id of a widget that exists is one that the database writes. -/
theorem exists_uuid {config : LayoutConfig} {layout : LayoutItem} {id : String} (isWidget : widgetId config layout = some id)
    (given : toUUID (sanitizeValue id) ≠ none) : ∃ w : UUID, id = w.text := by
  obtain ⟨-, widget, found, rfl⟩ := widgetId_eq_some_iff.mp isWidget
  exact (config.ids _ (Lookups.mem_of_lookup found)).resolve_left given
theorem toUUID_text (w : UUID) : toUUID (sanitizeValue w.text) = some w.text := by
  rw [sanitizeValue_text, w.read]

section
variable {existing rows : List BoardWidgetRow} {config : LayoutConfig} {layout : LayoutItem} {id : String}

theorem saveMapping_unknown (unknown : widgetId config layout = none) :
    saveMapping board.text existing config.widgets rows layout = rows := by
  rw [widgetId, present] at unknown
  rw [saveMapping]
  cases found : config.widgets.lookup layout.i with
  | none => rfl
  | some widget =>
    rw [found, Option.map_some, Option.filter_eq_none_iff] at unknown
    exact if_pos (by simpa using unknown)
theorem saveMapping_mapped (isWidget : widgetId config layout = some id) {mapping : BoardWidgetRow}
    (found : existing.reverse.find? (·.widget_id.text = id) = some mapping) (closed : Closed (positionText layout)) :
    saveMapping board.text existing config.widgets rows layout =
      rows.map fun row => if row.id.text = mapping.id.text then { row with position := valueOf (positionText layout) } else row := by
  obtain ⟨nonempty, widget, isThere, rfl⟩ := widgetId_eq_some_iff.mp isWidget
  simp only [saveMapping, isThere, if_neg nonempty, found, literalText_of_closed closed]
theorem saveMapping_new {w : UUID} (isWidget : widgetId config layout = some w.text)
    (missing : existing.reverse.find? (·.widget_id.text = w.text) = none) :
    saveMapping board.text existing config.widgets rows layout =
      rows ++ [{ id := newUUID (rows.map (·.id)), board_id := board, widget_id := w, position := positionText layout }] := by
  obtain ⟨nonempty, widget, isThere, isId⟩ := widgetId_eq_some_iff.mp isWidget
  rw [← isId] at missing nonempty
  simp only [saveMapping, isThere, if_neg nonempty, missing]
  simp only [isId, sanitizeValue_text, readUUID_text]

end

/-- The ids and positions of the rows of a widget. -/
def mappingsOf (board : UUID) (id : String) (rows : List BoardWidgetRow) : List (String × String) :=
  (rows.filter fun row => row.board_id.text = board.text ∧ row.widget_id.text = id).map fun row => (row.id.text, row.position)
def moved (mapping position : String) (entry : String × String) : String × String :=
  if entry.1 = mapping then (entry.1, position) else entry

/-- The rows that are updated are there, with their widgets. -/
structure Tracked (targets rows : List BoardWidgetRow) : Prop where
  present : ∀ mapping ∈ targets, mapping.id.text ∈ rows.map (·.id.text)
  widget : ∀ mapping ∈ targets, ∀ row ∈ rows, row.id.text = mapping.id.text → row.widget_id.text = mapping.widget_id.text

theorem mappingsOf_move (id mapping position : String) (rows : List BoardWidgetRow) :
    mappingsOf board id (rows.map fun row => if row.id.text = mapping then { row with position := position } else row) =
      (mappingsOf board id rows).map (moved mapping position) := by
  rw [mappingsOf, List.filter_map, List.map_map, mappingsOf, List.map_map]
  have same : ((fun row : BoardWidgetRow => decide (row.board_id.text = board.text ∧ row.widget_id.text = id)) ∘
      fun row => if row.id.text = mapping then { row with position := position } else row) =
        fun row => decide (row.board_id.text = board.text ∧ row.widget_id.text = id) := by
    funext row
    simp only [Function.comp_apply]
    split <;> rfl
  rw [same]
  refine List.map_congr_left fun row _ => ?_
  simp only [Function.comp_apply, moved]
  split <;> simp_all
omit [BoardPlatform] in
theorem map_moved_of_ne {mapping position : String} {entries : List (String × String)} (apart : ∀ entry ∈ entries, entry.1 ≠ mapping) :
    entries.map (moved mapping position) = entries := by
  have each : ∀ entry ∈ entries, moved mapping position entry = id entry := fun entry inside => if_neg (apart entry inside)
  rw [List.map_congr_left each, List.map_id]

/-! ### What the items do to it -/

/-- The rows whose widget the layout has. -/
def targets (config : LayoutConfig) (existing : List BoardWidgetRow) : List BoardWidgetRow :=
  existing.filter (·.widget_id.text ∈ newWidgetIds config)

section
variable {existing rows : List BoardWidgetRow} {config : LayoutConfig} {layout : LayoutItem} {id : String}

theorem tracked_nil : Tracked (targets config []) rows where
  present _ inside := absurd inside List.not_mem_nil
  widget _ inside := absurd inside List.not_mem_nil
theorem found_target (inside : layout ∈ config.lg) (isWidget : widgetId config layout = some id) {mapping : BoardWidgetRow}
    (found : existing.reverse.find? (·.widget_id.text = id) = some mapping) :
    mapping ∈ targets config existing ∧ mapping.widget_id.text = id := by
  have isId : mapping.widget_id.text = id := by simpa using List.find?_some found
  refine ⟨List.mem_filter.mpr ⟨List.mem_reverse.mp (List.mem_of_find?_eq_some found), ?_⟩, isId⟩
  simpa [isId] using mem_newWidgetIds.mpr ⟨layout, inside, isWidget⟩
theorem tracked_saveMapping (inside : layout ∈ config.lg) (given : Given config) (tracked : Tracked (targets config existing) rows) :
    Tracked (targets config existing) (saveMapping board.text existing config.widgets rows layout) := by
  cases isWidget : widgetId config layout with
  | none => rwa [saveMapping_unknown isWidget]
  | some id =>
    obtain ⟨w, rfl⟩ := exists_uuid isWidget (given id (mem_newWidgetIds.mpr ⟨layout, inside, isWidget⟩))
    cases found : existing.reverse.find? (·.widget_id.text = w.text) with
    | some mapping =>
      rw [saveMapping_mapped isWidget found (config.closed layout inside)]
      constructor
      · intro target among
        have there := tracked.present target among
        rw [List.map_map]
        convert there using 2
        funext row
        simp only [Function.comp_apply]
        split <;> rfl
      · intro target among row there sameId
        obtain ⟨origin, isOrigin, rfl⟩ := List.mem_map.mp there
        have same := tracked.widget target among origin isOrigin
        split at sameId
        · rw [if_pos (by assumption)]
          exact same sameId
        · rw [if_neg (by assumption)]
          exact same sameId
    | none =>
      rw [saveMapping_new isWidget found]
      constructor
      · intro target among
        rw [List.map_append]
        exact List.mem_append_left _ (tracked.present target among)
      · intro target among row there sameId
        rcases List.mem_append.mp there with old | new
        · exact tracked.widget target among row old sameId
        · obtain rfl := List.mem_singleton.mp new
          have fresh := newUUID_new (rows.map (·.id))
          rw [List.map_map] at fresh
          dsimp only at sameId
          exact absurd (sameId ▸ tracked.present target among) fresh
/-- The rows of another widget stay. -/
theorem mappingsOf_saveMapping_other (inside : layout ∈ config.lg) (given : Given config)
    (tracked : Tracked (targets config existing) rows) (other : widgetId config layout ≠ some id) :
    mappingsOf board id (saveMapping board.text existing config.widgets rows layout) = mappingsOf board id rows := by
  cases isWidget : widgetId config layout with
  | none => rw [saveMapping_unknown isWidget]
  | some named =>
    have apart : named ≠ id := fun same => other (by rw [isWidget, same])
    obtain ⟨w, rfl⟩ := exists_uuid isWidget (given named (mem_newWidgetIds.mpr ⟨layout, inside, isWidget⟩))
    cases found : existing.reverse.find? (·.widget_id.text = w.text) with
    | some mapping =>
      obtain ⟨target, isNamed⟩ := found_target inside isWidget found
      rw [saveMapping_mapped isWidget found (config.closed layout inside), mappingsOf_move]
      refine map_moved_of_ne fun entry isEntry sameId => ?_
      obtain ⟨row, there, rfl⟩ := List.mem_map.mp isEntry
      obtain ⟨isRow, holds⟩ := List.mem_filter.mp there
      have isId : row.widget_id.text = id := (of_decide_eq_true holds).2
      exact apart (isNamed.symm.trans ((tracked.widget mapping target row isRow sameId).symm.trans isId))
    | none =>
      rw [saveMapping_new isWidget found, mappingsOf, List.filter_append, mappingsOf]
      simp [apart]

/-- The last row of a stored widget gets the position that is written last. -/
theorem mappingsOf_stored (given : Given config) {mapping : BoardWidgetRow}
    (found : existing.reverse.find? (·.widget_id.text = id) = some mapping) {lg : List LayoutItem}
    (items : ∀ layout ∈ lg, layout ∈ config.lg) (tracked : Tracked (targets config existing) rows) :
    mappingsOf board id (lg.foldl (saveMapping board.text existing config.widgets) rows) =
      (mappingsOf board id rows).map fun entry => moved mapping.id.text ((lastWritten config id lg).getD entry.2) entry := by
  induction lg generalizing rows with
  | nil =>
    have each : ∀ entry ∈ mappingsOf board id rows, moved mapping.id.text ((lastWritten config id []).getD entry.2) entry = entry := by
      intro entry _
      simp [moved, lastWritten]
    rw [List.map_congr_left each, List.map_id']
    rfl
  | cons layout lg ih =>
    rw [List.forall_mem_cons] at items
    rw [List.foldl_cons, ih items.2 (tracked_saveMapping items.1 given tracked)]
    by_cases isWidget : widgetId config layout = some id
    · have last : lastWritten config id (layout :: lg) =
          some ((lastWritten config id lg).getD (valueOf (positionText layout))) := by
        simp only [lastWritten]
        rw [List.filter_cons_of_pos (by simpa using isWidget), List.map_cons, List.getLast?_cons]
      rw [saveMapping_mapped isWidget found (config.closed layout items.1), mappingsOf_move, List.map_map, last]
      refine List.map_congr_left fun entry _ => ?_
      simp only [Function.comp_apply, moved]
      split <;> simp_all
    · have last : lastWritten config id (layout :: lg) = lastWritten config id lg := by
        simp only [lastWritten]
        rw [List.filter_cons_of_neg (by simpa using isWidget)]
      rw [mappingsOf_saveMapping_other items.1 given tracked isWidget, last]
/-- A widget without a row gets one for each item. -/
theorem mappingsOf_unstored (given : Given config) (missing : existing.reverse.find? (·.widget_id.text = id) = none)
    {lg : List LayoutItem} (items : ∀ layout ∈ lg, layout ∈ config.lg) (tracked : Tracked (targets config existing) rows) :
    (mappingsOf board id (lg.foldl (saveMapping board.text existing config.widgets) rows)).map (·.2) =
      (mappingsOf board id rows).map (·.2) ++ positions config id lg := by
  induction lg generalizing rows with
  | nil => simp [positions]
  | cons layout lg ih =>
    rw [List.forall_mem_cons] at items
    rw [List.foldl_cons, ih items.2 (tracked_saveMapping items.1 given tracked)]
    by_cases isWidget : widgetId config layout = some id
    · obtain ⟨w, rfl⟩ := exists_uuid isWidget (given id (mem_newWidgetIds.mpr ⟨layout, items.1, isWidget⟩))
      rw [saveMapping_new isWidget missing, positions, positions, List.filter_cons_of_pos (by simpa using isWidget), mappingsOf,
        List.filter_append, mappingsOf]
      simp
    · rw [mappingsOf_saveMapping_other items.1 given tracked isWidget, positions, positions,
        List.filter_cons_of_neg (by simpa using isWidget)]

end

/-! ### The rows of every widget -/

section
variable {rows : List BoardWidgetRow} {config : LayoutConfig} {id : String}

theorem given_of_perm (saves : (storedRows board rows).Perm (submittedRows config config.lg)) : Given config := by
  intro id isNew temporary
  obtain ⟨layout, inside, isWidget⟩ := mem_newWidgetIds.mp isNew
  have submitted : (none, positionText layout) ∈ submittedRows config config.lg :=
    List.mem_filterMap.mpr ⟨layout, inside, by rw [isWidget, Option.map_some, temporary]⟩
  obtain ⟨row, -, isRow⟩ := List.mem_map.mp (saves.mem_iff.mpr submitted)
  cases isRow
theorem storedRows_filter (rows : List BoardWidgetRow) (key : Option String) :
    (storedRows board rows).filter (·.1 = key) =
      (key.map fun id => ((mappingsOf board id rows).map (·.2)).map (key, ·)).getD [] := by
  rw [storedRows, List.filter_map, List.filter_filter]
  cases key with
  | none => simp
  | some id =>
    rw [Option.map_some, Option.getD_some, mappingsOf, List.map_map, List.map_map]
    have same (row : BoardWidgetRow) :
        (((fun entry : Option String × String => decide (entry.1 = some id)) ∘ fun row : BoardWidgetRow =>
          (some row.widget_id.text, row.position)) row && decide (row.board_id.text = board.text)) =
            decide (row.board_id.text = board.text ∧ row.widget_id.text = id) := by
      simp [Bool.and_comm]
    simp only [same]
    refine List.map_congr_left fun row inside => ?_
    have isId : row.widget_id.text = id := (of_decide_eq_true (List.mem_filter.mp inside).2).2
    simp [isId]
theorem submittedRows_filter (given : Given config) {lg : List LayoutItem} (items : ∀ layout ∈ lg, layout ∈ config.lg)
    (key : Option String) :
    (submittedRows config lg).filter (·.1 = key) = (key.map fun id => (positions config id lg).map (key, ·)).getD [] := by
  induction lg with
  | nil => cases key <;> rfl
  | cons layout lg ih =>
    rw [List.forall_mem_cons] at items
    have later := ih items.2
    cases isWidget : widgetId config layout with
    | none =>
      have skipped : submittedRows config (layout :: lg) = submittedRows config lg := by simp [submittedRows, isWidget]
      have passed (id : String) : positions config id (layout :: lg) = positions config id lg := by simp [positions, isWidget]
      simp only [skipped, passed, later]
    | some id =>
      obtain ⟨w, rfl⟩ := exists_uuid isWidget (given id (mem_newWidgetIds.mpr ⟨layout, items.1, isWidget⟩))
      have first : submittedRows config (layout :: lg) = (some w.text, positionText layout) :: submittedRows config lg := by
        simp [submittedRows, isWidget, toUUID_text]
      rw [first]
      by_cases same : some w.text = key
      · subst same
        rw [List.filter_cons_of_pos (by simp), later]
        simp [positions, isWidget]
      · rw [List.filter_cons_of_neg (by simpa using same), later]
        cases key with
        | none => rfl
        | some other =>
          have apart : ¬ w.text = other := by simpa using same
          simp [positions, isWidget, apart]
/-- The rows are those of items if every widget has the positions that it has among the items. -/
theorem perm_submittedRows_iff (given : Given config) {lg : List LayoutItem} (items : ∀ layout ∈ lg, layout ∈ config.lg) :
    (storedRows board rows).Perm (submittedRows config lg) ↔
      ∀ id, ((mappingsOf board id rows).map (·.2)).Perm (positions config id lg) := by
  rw [perm_iff_filter_key (·.1)]
  simp only [storedRows_filter, submittedRows_filter given items]
  have paired (key : Option String) : Function.Injective fun position : String => (key, position) :=
    fun _ _ same => congrArg Prod.snd same
  constructor
  · intro same id
    exact (List.map_perm_map_iff (paired (some id))).mp (same (some id))
  · intro same key
    cases key with
    | none => exact List.Perm.nil
    | some id => exact (List.map_perm_map_iff (paired (some id))).mpr (same id)

theorem items_subset {config : LayoutConfig} {chosen : LayoutItem × Nat → Bool} :
    ∀ layout ∈ (config.lg.zipIdx.filter chosen).map (·.1), layout ∈ config.lg := by
  intro layout inside
  rw [← List.zipIdx_map_fst 0 config.lg]
  exact List.map_subset _ (List.filter_subset_self _) inside
theorem savedItems_subset {config : LayoutConfig} {saved : Nat → Bool} :
    ∀ layout ∈ savedItems saved config.lg.zipIdx, layout ∈ config.lg := items_subset
theorem unsavedItems_subset {config : LayoutConfig} {saved : Nat → Bool} :
    ∀ layout ∈ unsavedItems saved config.lg.zipIdx, layout ∈ config.lg := items_subset
/-- Every item is among the saved or the others. -/
theorem positions_perm (config : LayoutConfig) (id : String) (saved : Nat → Bool) (lg : List LayoutItem) :
    (positions config id (savedItems saved lg.zipIdx) ++ positions config id (unsavedItems saved lg.zipIdx)).Perm
      (positions config id lg) := by
  have parts := List.filter_append_perm (fun entry : LayoutItem × Nat => saved entry.2) lg.zipIdx
  have items := parts.map Prod.fst
  rw [List.zipIdx_map_fst, List.map_append] at items
  have chosen := (items.filter (widgetId config · = some id)).map positionText
  rwa [List.filter_append, List.map_append] at chosen
theorem append_saved_perm_iff {stored : List String} {saved : Nat → Bool} :
    (stored ++ positions config id (savedItems saved config.lg.zipIdx)).Perm (positions config id config.lg) ↔
      stored.Perm (positions config id (unsavedItems saved config.lg.zipIdx)) := by
  rw [← List.Perm.congr_right (positions_perm config id saved config.lg), (@List.perm_append_comm _ stored _).congr_left,
    List.perm_append_left_iff]

end

/-! ### After a read -/

section
variable {config : LayoutConfig} {answers : Answers board table} {existing : List BoardWidgetRow} {id : String}

theorem read_perm (read : answers.existing = some existing) (id : String) :
    (existing.filter (·.widget_id.text = id)).Perm
      (table.rows.filter fun row => row.board_id.text = board.text ∧ row.widget_id.text = id) := by
  have rows := (answers.read existing read).filter (·.widget_id.text = id)
  rw [List.filter_filter] at rows
  have same (row : BoardWidgetRow) : (decide (row.widget_id.text = id) && decide (row.board_id.text = board.text)) =
      decide (row.board_id.text = board.text ∧ row.widget_id.text = id) := by
    simp [Bool.and_comm]
  simpa only [same] using rows
theorem mem_read (read : answers.existing = some existing) {mapping : BoardWidgetRow} :
    mapping ∈ existing ↔ mapping ∈ table.rows ∧ mapping.board_id.text = board.text := by
  rw [(answers.read existing read).mem_iff, List.mem_filter, decide_eq_true_iff]
/-- A row is told by its id. -/
theorem eq_of_sameId {row mapping : BoardWidgetRow} (isRow : row ∈ table.rows) (isMapping : mapping ∈ table.rows)
    (same : row.id.text = mapping.id.text) : row = mapping := List.inj_on_of_nodup_map table.ids isRow isMapping same

theorem keptRows_eq (read : answers.existing = some existing) :
    keptRows config answers = table.rows.filter fun row =>
      ¬(row.board_id.text = board.text ∧ row.widget_id.text ∉ newWidgetIds config ∧ answers.deleted row.id = true) := by
  rw [keptRows, read, Option.getD_some]
  refine List.filter_congr fun row isRow => decide_eq_decide.mpr (not_congr ?_)
  constructor
  · rintro ⟨isDropped, onBoard⟩
    obtain ⟨mapping, among, same⟩ := List.mem_map.mp isDropped
    obtain ⟨isRead, holds⟩ := List.mem_filter.mp among
    obtain rfl := eq_of_sameId ((mem_read read).mp isRead).1 isRow same
    exact ⟨onBoard, of_decide_eq_true holds⟩
  · rintro ⟨onBoard, removed⟩
    refine ⟨List.mem_map.mpr ⟨row, List.mem_filter.mpr ⟨(mem_read read).mpr ⟨isRow, onBoard⟩, ?_⟩, rfl⟩, onBoard⟩
    exact decide_eq_true removed
theorem mappingsOf_kept (read : answers.existing = some existing) (isNew : id ∈ newWidgetIds config) :
    mappingsOf board id (keptRows config answers) = mappingsOf board id table.rows := by
  rw [keptRows_eq read, mappingsOf, List.filter_filter, mappingsOf]
  congr 1
  refine List.filter_congr fun row _ => ?_
  by_cases holds : row.board_id.text = board.text ∧ row.widget_id.text = id
  · simp [holds, isNew]
  · simp [holds]
theorem mappingsOf_dropped (read : answers.existing = some existing) (isOld : id ∉ newWidgetIds config) :
    mappingsOf board id (keptRows config answers) = [] ↔
      ∀ mapping ∈ existing, mapping.widget_id.text = id → answers.deleted mapping.id = true := by
  rw [keptRows_eq read, mappingsOf, List.filter_filter, List.map_eq_nil_iff, List.filter_eq_nil_iff]
  constructor
  · intro none mapping isRead isId
    obtain ⟨isRow, onBoard⟩ := (mem_read read).mp isRead
    simpa [onBoard, isId, isOld] using none mapping isRow
  · intro all row isRow
    rw [Bool.and_eq_true, decide_eq_true_iff, decide_eq_true_iff]
    rintro ⟨⟨onBoard, isId⟩, kept⟩
    exact kept ⟨onBoard, isId ▸ isOld, all row ((mem_read read).mpr ⟨isRow, onBoard⟩) isId⟩
theorem tracked_keptRows (read : answers.existing = some existing) : Tracked (targets config existing) (keptRows config answers) := by
  rw [keptRows_eq read]
  constructor
  · intro mapping among
    obtain ⟨isRead, isNew⟩ := List.mem_filter.mp among
    refine List.mem_map.mpr ⟨mapping, List.mem_filter.mpr ⟨((mem_read read).mp isRead).1, ?_⟩, rfl⟩
    simp [of_decide_eq_true isNew]
  · intro mapping among row there sameId
    obtain ⟨isRead, -⟩ := List.mem_filter.mp among
    rw [eq_of_sameId (List.mem_filter.mp there).1 ((mem_read read).mp isRead).1 sameId]

/-- A widget that was not stored has its positions if every one is inserted. -/
theorem unstored_iff (given : Given config) (read : answers.existing = some existing)
    (absent : existing.filter (·.widget_id.text = id) = []) :
    ((mappingsOf board id (updateBoardLayout config answers)).map (·.2)).Perm (positions config id config.lg) ↔
      ∀ entry ∈ config.lg.zipIdx, widgetId config entry.1 = some id → answers.saved entry.2 = true := by
  have missing : existing.reverse.find? (·.widget_id.text = id) = none := by
    rw [← List.getLast?_filter, absent, List.getLast?_nil]
  have unstored : mappingsOf board id (keptRows config answers) = [] := by
    have rows := read_perm read id
    rw [absent, List.nil_perm] at rows
    rw [keptRows_eq read, mappingsOf, List.filter_comm, rows]
    rfl
  rw [updateBoardLayout, read, Option.getD_some, saveMappings_eq,
    mappingsOf_unstored given missing savedItems_subset (tracked_keptRows read), append_saved_perm_iff, unstored, List.map_nil,
    List.nil_perm, positions, List.map_eq_nil_iff, List.filter_eq_nil_iff]
  simp only [unsavedItems, List.mem_map, List.mem_filter]
  constructor
  · intro none entry inside isWidget
    by_contra failed
    exact none entry.1 ⟨entry, ⟨inside, by simpa using failed⟩, rfl⟩ (by simpa using isWidget)
  · rintro all layout ⟨entry, ⟨inside, failed⟩, rfl⟩ isWidget
    rw [all entry inside (by simpa using isWidget)] at failed
    cases failed
/-- A widget that was stored has its positions if its last row gets the missing one, and none if its rows are deleted. -/
theorem stored_iff (given : Given config) (read : answers.existing = some existing) {others : List BoardWidgetRow}
    {last : BoardWidgetRow} (stored : existing.filter (·.widget_id.text = id) = others ++ [last]) (isNew : id ∈ newWidgetIds config) :
    ((mappingsOf board id (updateBoardLayout config answers)).map (·.2)).Perm (positions config id config.lg) ↔
      (others.map (·.position) ++
        [(lastWritten config id (savedItems answers.saved config.lg.zipIdx)).getD last.position]).Perm (positions config id config.lg) := by
  have found : existing.reverse.find? (·.widget_id.text = id) = some last := by
    rw [← List.getLast?_filter, stored, List.getLast?_concat]
  refine List.Perm.congr_left ?_ _
  rw [updateBoardLayout, read, Option.getD_some, saveMappings_eq, mappingsOf_stored given found savedItems_subset (tracked_keptRows read),
    mappingsOf_kept read isNew, mappingsOf, List.map_map, List.map_map]
  have rows := read_perm read id
  rw [stored] at rows
  refine (rows.symm.map _).trans (List.Perm.of_eq ?_)
  have distinct : ((others ++ [last]).map (·.id.text)).Nodup := by
    refine ((rows.map _).nodup_iff).mpr (List.Nodup.sublist ?_ table.ids)
    exact List.filter_sublist.map _
  rw [List.map_append, List.nodup_append] at distinct
  rw [List.map_append]
  congr 1
  · refine List.map_congr_left fun row inside => ?_
    have apart : row.id.text ≠ last.id.text := distinct.2.2 _ (List.mem_map_of_mem inside) _ (by simp)
    simp [moved, apart]
  · simp [moved]
theorem removed_iff (given : Given config) (read : answers.existing = some existing) {others : List BoardWidgetRow}
    {last : BoardWidgetRow} (stored : existing.filter (·.widget_id.text = id) = others ++ [last]) (isOld : id ∉ newWidgetIds config) :
    ((mappingsOf board id (updateBoardLayout config answers)).map (·.2)).Perm (positions config id config.lg) ↔
      ∀ mapping ∈ existing, mapping.widget_id.text = id → answers.deleted mapping.id = true := by
  have found : existing.reverse.find? (·.widget_id.text = id) = some last := by
    rw [← List.getLast?_filter, stored, List.getLast?_concat]
  have unnamed (lg : List LayoutItem) (items : ∀ layout ∈ lg, layout ∈ config.lg) : lg.filter (widgetId config · = some id) = [] := by
    rw [List.filter_eq_nil_iff]
    intro layout inside isWidget
    exact isOld (mem_newWidgetIds.mpr ⟨layout, items layout inside, by simpa using isWidget⟩)
  rw [← mappingsOf_dropped read isOld, updateBoardLayout, read, Option.getD_some, saveMappings_eq,
    mappingsOf_stored given found savedItems_subset (tracked_keptRows read), positions, unnamed _ fun _ inside => inside,
    List.map_nil, List.perm_nil, List.map_eq_nil_iff, List.map_eq_nil_iff]

theorem saves_after_read (given : Given config) (read : answers.existing = some existing) :
    Saves config answers ↔ Applied config answers existing := by
  rw [Saves, perm_submittedRows_iff given fun _ inside => inside]
  have stored (id : String) (mapping : BoardWidgetRow) (isRead : mapping ∈ existing) (isId : mapping.widget_id.text = id) :
      ∃ others last, existing.filter (·.widget_id.text = id) = others ++ [last] := by
    rcases List.eq_nil_or_concat (existing.filter (·.widget_id.text = id)) with absent | ⟨others, last, isStored⟩
    · exact absurd (decide_eq_true isId) (List.filter_eq_nil_iff.mp absent mapping isRead)
    · exact ⟨others, last, by rw [isStored, List.concat_eq_append]⟩
  constructor
  · intro saves
    constructor
    · intro mapping isRead isOld
      obtain ⟨others, last, isStored⟩ := stored _ mapping isRead rfl
      exact (removed_iff given read isStored isOld).mp (saves _) mapping isRead rfl
    · intro entry inside id isWidget absent
      have none : existing.filter (·.widget_id.text = id) = [] := by simpa [List.filter_eq_nil_iff] using absent
      exact (unstored_iff given read none).mp (saves id) entry inside isWidget
    · intro id isNew others last isStored
      exact (stored_iff given read isStored isNew).mp (saves id)
  · intro applied id
    rcases List.eq_nil_or_concat (existing.filter (·.widget_id.text = id)) with absent | ⟨others, last, isStored⟩
    · rw [unstored_iff given read absent]
      intro entry inside isWidget
      exact applied.inserted entry inside id isWidget (by simpa [List.filter_eq_nil_iff] using absent)
    · rw [List.concat_eq_append] at isStored
      by_cases isNew : id ∈ newWidgetIds config
      · exact (stored_iff given read isStored isNew).mpr (applied.updated id isNew others last isStored)
      · rw [removed_iff given read isStored isNew]
        rintro mapping isRead rfl
        exact applied.deleted mapping isRead isNew
theorem saves_after_failure (given : Given config) (failed : answers.existing = none) :
    Saves config answers ↔
      (storedRows board table.rows).Perm (submittedRows config (unsavedItems answers.saved config.lg.zipIdx)) := by
  have kept : keptRows config answers = table.rows := by simp [keptRows, failed]
  rw [Saves, perm_submittedRows_iff given fun _ inside => inside, perm_submittedRows_iff given unsavedItems_subset]
  refine forall_congr' fun id => ?_
  rw [updateBoardLayout, failed, Option.getD_none, kept, saveMappings_eq, mappingsOf_unstored given rfl savedItems_subset tracked_nil,
    append_saved_perm_iff]

end

/-- The stored rows become those of the layout exactly if every widget exists and, after a read, the rows that are
    dropped are deleted, the new items inserted and the positions that stay written, each once; after a failed
    read, if what was stored is what is not inserted again. -/
theorem saves_iff (config : LayoutConfig) (answers : Answers board table) : Saves config answers ↔ Complete config answers := by
  have given (saves : Saves config answers) : Given config := given_of_perm saves
  rw [Complete, ← and_iff_right_of_imp given]
  refine and_congr_right fun given => ?_
  cases read : answers.existing with
  | none => exact saves_after_failure given read
  | some existing => exact saves_after_read given read

end

/-! ### A board of one widget, which is saved as it is -/

section
attribute [local instance] sqlstringBoards

def sampleConfig : LayoutConfig where
  lg := [corner]
  widgets := [(sampleUUID.text, requests)]
  ids := by simpa using .inr ⟨sampleUUID, rfl⟩
  closed := by decide
def sampleTable : MappingTable where
  rows := (database "").boardWidgets
  ids := List.nodup_singleton _
def failedRead : Answers sampleUUID sampleTable where
  existing := none
  read := nofun
  deleted _ := true
  saved _ := true

/-- After a failed read the row of a widget is inserted again. -/
theorem row_saved_twice : ¬Saves sampleConfig failedRead := by
  intro saves
  have sameLength := saves.length_eq
  exact absurd sameLength (by decide)

end
end Openlit.BoardLayouts
