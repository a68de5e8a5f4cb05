import Openlit.StoredWidgets

/-!
The layout of a board against that of the board which its export is imported as.
-/
namespace Openlit.BoardExports
open Openlit.JsonText Openlit.JsonParse Openlit.Lookups Openlit.Relations Openlit.RuleLinks Openlit.ClickHouse Openlit.Boards
open Openlit.StoredWidgets
open Openlit.Literals hiding Layout
open Storage

section
variable [BoardPlatform]
open BoardPlatform

/-! ### What is written at an import -/

omit [BoardPlatform] in
theorem mapM_eq_ok {α β : Type} {f : α → Except Failure β} {rows : List α} {results : List β} :
    rows.mapM f = .ok results ↔ List.Forall₂ (fun a b => f a = .ok b) rows results := by
  induction rows generalizing results with
  | nil => cases results <;> simp [pure, Except.pure]
  | cons a rows ih =>
    rw [List.mapM_cons]
    cases first : f a with
    | error e => cases results <;> simp [first, bind, Except.bind]
    | ok b =>
      cases others : rows.mapM f with
      | error e =>
        cases results with
        | nil => simp [bind, Except.bind]
        | cons c results => simp [bind, Except.bind, ← ih, others]
      | ok more =>
        cases results with
        | nil => simp [bind, Except.bind, pure, Except.pure]
        | cons c results => simp [bind, Except.bind, pure, Except.pure, ← ih, others, first]
omit [BoardPlatform] in
theorem exists_of_forall₂ {α β : Type} {R : α → β → Prop} {as : List α} {bs : List β} (related : List.Forall₂ R as bs) {a : α}
    (inside : a ∈ as) : ∃ b ∈ bs, R a b := by
  induction related with
  | nil => exact nomatch inside
  | cons first _ ih =>
    rcases List.mem_cons.mp inside with rfl | later
    · exact ⟨_, List.mem_cons_self, first⟩
    · obtain ⟨b, there, holds⟩ := ih later
      exact ⟨b, List.mem_cons_of_mem _ there, holds⟩
theorem createWidgets_eq (widgets : List WidgetData) (db : Database) :
    widgets.foldlM (fun db widget => createWidget widget db) db =
      (widgets.mapM sanitizeWidget).map fun stored => { db with widgets := db.widgets ++ stored.filterMap widgetRow } := by
  induction widgets generalizing db with
  | nil => simp [pure, Except.pure, Except.map]
  | cons widget widgets ih =>
    rw [List.foldlM_cons, List.mapM_cons, createWidget]
    cases sanitizeWidget widget with
    | error e => rfl
    | ok stored =>
      simp only [bind, Except.bind, pure, Except.pure, ih]
      cases widgets.mapM sanitizeWidget with
      | error e => rfl
      | ok others =>
        simp only [Except.map, List.append_assoc]
        cases isRow : widgetRow stored <;> simp [isRow]

theorem newUUID_new (used : List UUID) : (newUUID used).text ∉ used.map (·.text) := generated_new _
theorem length_randomUUIDs (used : List UUID) (count : Nat) : (randomUUIDs used count).length = count := by
  induction count generalizing used with
  | zero => rfl
  | succ count ih => rw [randomUUIDs, List.length_cons, ih]
theorem randomUUIDs_new (used : List UUID) (count : Nat) : ∀ id ∈ randomUUIDs used count, id.text ∉ used.map (·.text) := by
  induction count generalizing used with
  | zero => exact nofun
  | succ count ih =>
    rw [randomUUIDs, List.forall_mem_cons]
    refine ⟨newUUID_new used, fun id inside old => ?_⟩
    exact ih _ id inside (List.mem_cons_of_mem _ old)
theorem randomUUIDs_nonempty (used : List UUID) (count : Nat) : ∀ id ∈ randomUUIDs used count, id.text ≠ "" := by
  induction count generalizing used with
  | zero => exact nofun
  | succ count ih => exact List.forall_mem_cons.mpr ⟨generated_nonempty _, ih _⟩
theorem randomUUIDs_distinct (used : List UUID) (count : Nat) : ((randomUUIDs used count).map (·.text)).Nodup := by
  induction count generalizing used with
  | zero => exact List.nodup_nil
  | succ count ih =>
    rw [randomUUIDs, List.map_cons, List.nodup_cons]
    refine ⟨?_, ih _⟩
    intro again
    obtain ⟨id, inside, same⟩ := List.mem_map.mp again
    exact randomUUIDs_new _ _ id inside (by simp [same])

omit [BoardPlatform] in
theorem map_lookup_zip {keys values : List String} (distinct : keys.Nodup) (sameLength : keys.length = values.length) (other : String) :
    keys.map (fun key => ((keys.zip values).reverse.lookup key).getD other) = values := by
  have keysAre : ((keys.zip values).reverse.map (·.1)).Nodup := by
    rw [List.map_reverse, List.nodup_reverse, List.map_fst_zip sameLength.le]
    exact distinct
  refine List.ext_getElem (by simpa using sameLength) fun index left right => ?_
  have left : index < keys.length := by simpa using left
  have inside : (keys[index], values[index]) ∈ (keys.zip values).reverse := by
    rw [List.mem_reverse, ← List.getElem_zip (h := by simp; omega)]
    exact List.getElem_mem _
  rw [List.getElem_map, lookup_of_mem keysAre inside, Option.getD_some]

/-- A mapping that is inserted for a layout item. -/
structure SavedAs (board : UUID) (layout : LayoutItem) (row : BoardWidgetRow) : Prop where
  board_id : row.board_id = board
  widget_id : row.widget_id.text = layout.i
  position : row.position = positionText layout

/-- An item of a widget without a mapping in any board. -/
structure Unmapped (existing : List BoardWidgetRow) (widgets : List (String × WidgetData)) (layout : LayoutItem) : Prop where
  isUUID : ∃ id : UUID, layout.i = id.text
  nonempty : layout.i ≠ ""
  found : ∃ widget, widgets.lookup layout.i = some widget ∧ widget.id = layout.i
  new : ∀ mapping ∈ existing, mapping.widget_id.text ≠ layout.i

theorem saveMapping_unmapped {existing : List BoardWidgetRow} {widgets : List (String × WidgetData)} {layout : LayoutItem}
    (unmapped : Unmapped existing widgets layout) (board : UUID) (rows : List BoardWidgetRow) :
    ∃ row, saveMapping board.text existing widgets rows layout = rows ++ [row] ∧ SavedAs board layout row := by
  obtain ⟨id, isId⟩ := unmapped.isUUID
  obtain ⟨widget, found, same⟩ := unmapped.found
  have missing : existing.reverse.find? (·.widget_id.text = layout.i) = none := by
    rw [List.find?_eq_none]
    intro mapping inside
    simpa using unmapped.new mapping (List.mem_reverse.mp inside)
  refine ⟨{ id := newUUID (rows.map (·.id)), board_id := board, widget_id := id, position := positionText layout }, ?_, rfl, isId.symm, rfl⟩
  rw [saveMapping, found]
  simp only [same, missing]
  rw [if_neg unmapped.nonempty]
  simp only [isId, sanitizeValue_text, readUUID_text]
theorem foldl_saveMapping {existing : List BoardWidgetRow} {widgets : List (String × WidgetData)} {lg : List LayoutItem}
    (unmapped : ∀ layout ∈ lg, Unmapped existing widgets layout) (board : UUID) (rows : List BoardWidgetRow) :
    ∃ added, lg.foldl (saveMapping board.text existing widgets) rows = rows ++ added ∧ List.Forall₂ (SavedAs board) lg added := by
  induction lg generalizing rows with
  | nil => exact ⟨[], by simp, .nil⟩
  | cons layout lg ih =>
    rw [List.forall_mem_cons] at unmapped
    obtain ⟨row, first, saved⟩ := saveMapping_unmapped unmapped.1 board rows
    obtain ⟨added, others, allSaved⟩ := ih unmapped.2 (rows ++ [row])
    refine ⟨row :: added, ?_, .cons saved allSaved⟩
    rw [List.foldl_cons, first, others, List.append_assoc, List.singleton_append]

/-- The positions of a layout item. -/
def Coordinates (layout : LayoutItem) : Prop := ∀ value ∈ [layout.x, layout.y, layout.w, layout.h], ∀ v ∈ value, Valid v

/-- The fields of a position are read back. -/
theorem layoutItem_saved {board : UUID} {layout : LayoutItem} {row : BoardWidgetRow} (saved : SavedAs board layout row)
    (valid : Coordinates layout) : layoutItem row = .ok layout := by
  obtain ⟨i, x, y, w, h⟩ := layout
  have fields : Valid (.object ([("x", x), ("y", y), ("w", w), ("h", h)].filterMap fun field => field.2.map (field.1, ·))) := by
    simp only [Coordinates, List.forall_mem_cons] at valid
    obtain ⟨validX, validY, validW, validH, -⟩ := valid
    cases x <;> cases y <;> cases w <;> cases h <;> simp_all [Valid, ValidFields]
  have written : row.position ≠ "" := by
    rw [saved.position]
    exact jsonStringify_ne_empty fields
  rw [layoutItem, if_neg written, saved.position, positionText, jsonParse_jsonStringify fields]
  simp only [pure, Except.pure, Except.ok.injEq, LayoutItem.mk.injEq, fieldOf]
  refine ⟨saved.widget_id, ?_⟩
  cases x <;> cases y <;> cases w <;> cases h <;> exact ⟨rfl, rfl, rfl, rfl⟩

theorem layoutItems_saved {board : UUID} {lg : List LayoutItem} {added : List BoardWidgetRow}
    (saved : List.Forall₂ (SavedAs board) lg added) (valid : ∀ item ∈ lg, Coordinates item) :
    added.mapM layoutItem = .ok lg ∧ ∀ row ∈ added, row.board_id = board := by
  rw [mapM_eq_ok]
  induction saved with
  | nil => exact ⟨.nil, nofun⟩
  | cons first _ ih =>
    rw [List.forall_mem_cons] at valid
    obtain ⟨items, boards⟩ := ih valid.2
    exact ⟨.cons (layoutItem_saved first valid.1) items, List.forall_mem_cons.mpr ⟨first.board_id, boards⟩⟩

/-! ### Exported layouts -/

/-- What every layout of a board has. -/
structure Exported (layout : Layout) : Prop where
  keys : layout.widgets.map (·.1) = (layout.lg.map (·.i)).eraseDups
  ids : ∀ entry ∈ layout.widgets, entry.2.id = entry.1
  coordinates : ∀ item ∈ layout.lg, Coordinates item
  readable : ∀ entry ∈ layout.widgets, Readable entry.2.properties ∧ Readable entry.2.config

omit [BoardPlatform] in
theorem fieldOf_valid {name : String} {value field : Json} (valid : Valid value) (isField : fieldOf name value = some field) :
    Valid field := by
  cases value with
  | object fields =>
    rw [fieldOf] at isField
    induction fields with
    | nil => exact nomatch isField
    | cons entry fields ih =>
      obtain ⟨key, first⟩ := entry
      rw [List.lookup_cons] at isField
      split at isField
      · cases isField
        exact valid.1
      · exact ih valid.2 isField
  | _ => exact nomatch isField
theorem layoutItem_ok {mapping : BoardWidgetRow} {item : LayoutItem} (success : layoutItem mapping = .ok item) :
    item.i = mapping.widget_id.text ∧ Coordinates item := by
  rw [layoutItem] at success
  split at success
  · cases success
  · cases success
  · next position _ parsed =>
    cases success
    refine ⟨rfl, ?_⟩
    simp only [Coordinates, List.forall_mem_cons]
    have field (name : String) : ∀ v ∈ fieldOf name position, Valid v := fun v isField => fieldOf_valid (jsonParse_valid parsed) isField
    exact ⟨field "x", field "y", field "w", field "h", nofun⟩
theorem widgetData_readable (db : Database) (id : String) :
    (widgetData db id).id = id ∧ Readable (widgetData db id).properties ∧ Readable (widgetData db id).config := by
  rw [widgetData]
  split
  · refine ⟨rfl, readable_orEmpty fun v read => ?_, readable_orEmpty fun v read => ?_⟩
    · split at read
      · cases read
      · exact jsonParse_valid read
    · split at read
      · cases read
      · exact jsonParse_valid read
  · exact ⟨rfl, ⟨trivial, rfl⟩, trivial, rfl⟩

theorem layoutItems_ok {mappings : List BoardWidgetRow} {lg : List LayoutItem}
    (items : List.Forall₂ (fun mapping item => layoutItem mapping = .ok item) mappings lg) :
    (∀ item ∈ lg, Coordinates item) ∧ lg.map (·.i) = mappings.map (·.widget_id.text) := by
  induction items with
  | nil => exact ⟨nofun, rfl⟩
  | cons first _ ih =>
    obtain ⟨same, valid⟩ := layoutItem_ok first
    exact ⟨List.forall_mem_cons.mpr ⟨valid, ih.1⟩, by rw [List.map_cons, List.map_cons, same, ih.2]⟩
/-- The layout of a board by its mappings. -/
theorem getBoardLayout_eq_ok {id : String} {db : Database} {layout : Layout} :
    getBoardLayout id db = .ok layout ↔
      ∃ board, ((toUUID id).bind fun id => db.boards.find? (·.id.text = id)) = some board ∧
        ∃ lg, (db.boardWidgets.filter (·.board_id.text = board.id.text)).mapM layoutItem = .ok lg ∧
          layout =
            { id := board.id.text
              title := board.title
              description := board.description
              isMainDashboard := board.is_main_dashboard
              isPinned := board.is_pinned
              tags := board.tags
              lg := lg
              widgets := (lg.map (·.i)).eraseDups.map fun widgetId => (widgetId, widgetData db widgetId) } := by
  rw [getBoardLayout]
  cases (toUUID id).bind fun id => db.boards.find? (·.id.text = id) with
  | none => simp [throw, throwThe, MonadExceptOf.throw]
  | some board =>
    cases read : (db.boardWidgets.filter (·.board_id.text = board.id.text)).mapM layoutItem with
    | error e => simp [read, bind, Except.bind]
    | ok lg =>
      have ids := (layoutItems_ok (mapM_eq_ok.mp read)).2
      simp only [read, bind, Except.bind, pure, Except.pure, ids, Option.some.injEq, Except.ok.injEq, exists_eq_left']
      exact eq_comm
theorem exported_of_getBoardLayout {id : String} {db : Database} {layout : Layout} (success : getBoardLayout id db = .ok layout) :
    Exported layout := by
  obtain ⟨board, -, lg, read, rfl⟩ := getBoardLayout_eq_ok.mp success
  exact
    { keys := by simp [Function.comp_def]
      ids := by
        intro entry inside
        obtain ⟨widgetId, -, rfl⟩ := List.mem_map.mp inside
        exact (widgetData_readable db widgetId).1
      coordinates := (layoutItems_ok (mapM_eq_ok.mp read)).1
      readable := by
        intro entry inside
        obtain ⟨widgetId, -, rfl⟩ := List.mem_map.mp inside
        exact (widgetData_readable db widgetId).2 }

/-! ### New ids -/

omit [BoardPlatform] in
theorem eraseDups_map {f : String → String} : ∀ {ids : List String}, (∀ a ∈ ids, ∀ b ∈ ids, f a = f b → a = b) →
    (ids.map f).eraseDups = ids.eraseDups.map f
  | [], _ => rfl
  | id :: ids, injective => by
    have others : (ids.map f).filter (fun other => !other == f id) = (ids.filter fun other => !other == id).map f := by
      rw [List.filter_map]
      congr 1
      refine List.filter_congr fun other inside => ?_
      have same : f other = f id ↔ other = id :=
        ⟨injective other (List.mem_cons_of_mem _ inside) id List.mem_cons_self, congrArg f⟩
      simp [same]
    rw [List.map_cons, List.eraseDups_cons, List.eraseDups_cons, List.map_cons, others]
    rw [eraseDups_map fun a left b right =>
      injective a (List.mem_cons_of_mem _ (List.mem_filter.mp left).1) b (List.mem_cons_of_mem _ (List.mem_filter.mp right).1)]
termination_by ids => ids.length
decreasing_by
  have shorter := List.length_filter_le (fun other => !other == id) ids
  simp only [List.length_cons]
  omega

section
variable {layout : Layout} (exported : Exported layout) (db : Database)
include exported

omit [BoardPlatform] in
theorem keys_distinct : (layout.widgets.map (·.1)).Nodup := by
  rw [exported.keys]
  exact nodup_eraseDups _
theorem newWidgetId_eq : (layout.widgets.map (·.1)).map (newWidgetId layout db) = (newWidgetIds layout db).map (·.text) := by
  have ids : layout.widgets.map (·.2.id) = layout.widgets.map (·.1) := List.map_congr_left exported.ids
  have sameLength : (layout.widgets.map (·.1)).length = ((newWidgetIds layout db).map (·.text)).length := by
    rw [List.length_map, List.length_map, newWidgetIds, length_randomUUIDs]
  have read := map_lookup_zip (keys_distinct exported) sameLength "undefined"
  rw [← ids] at read
  rw [← ids]
  exact read
theorem newWidgetId_injective :
    ∀ a ∈ layout.widgets.map (·.1), ∀ b ∈ layout.widgets.map (·.1), newWidgetId layout db a = newWidgetId layout db b → a = b := by
  intro a left b right same
  have distinct : ((layout.widgets.map (·.1)).map (newWidgetId layout db)).Nodup := by
    rw [newWidgetId_eq exported]
    exact randomUUIDs_distinct _ _
  exact List.inj_on_of_nodup_map distinct left right same
/-- A new id is a UUID, and it is that of no widget that there is, with a row or only a mapping. -/
theorem newWidgetId_new {key : String} (inside : key ∈ layout.widgets.map (·.1)) :
    (∃ id : UUID, newWidgetId layout db key = id.text) ∧ newWidgetId layout db key ≠ "" ∧
      newWidgetId layout db key ∉ db.widgets.map (·.id.text) ∧ newWidgetId layout db key ∉ db.boardWidgets.map (·.widget_id.text) := by
  have new : newWidgetId layout db key ∈ (newWidgetIds layout db).map (·.text) := by
    rw [← newWidgetId_eq exported]
    exact List.mem_map_of_mem inside
  obtain ⟨id, isNew, same⟩ := List.mem_map.mp new
  have unused := randomUUIDs_new _ _ id isNew
  rw [List.map_append, List.mem_append, List.map_map, List.map_map, same] at unused
  have nonempty := randomUUIDs_nonempty _ _ id isNew
  rw [same] at nonempty
  exact ⟨⟨id, same.symm⟩, nonempty, fun old => unused (.inl old), fun old => unused (.inr old)⟩
theorem updatedWidgets_eq :
    updatedWidgets layout db = layout.widgets.map fun entry => { entry.2 with id := newWidgetId layout db entry.1 } := by
  have ids := newWidgetId_eq exported db
  rw [List.map_map] at ids
  have texts : updatedWidgets layout db =
      List.zipWith (fun entry id => { entry.2 with id := id }) layout.widgets ((newWidgetIds layout db).map (·.text)) := by
    rw [updatedWidgets, List.zipWith_map_right]
  rw [texts, ← ids, List.zipWith_map_right, List.zipWith_self]
  rfl
theorem updatedWidgets_ids : (updatedWidgets layout db).map (·.id) = (newWidgetIds layout db).map (·.text) := by
  rw [updatedWidgets_eq exported, ← newWidgetId_eq exported, List.map_map, List.map_map]
  rfl

/-! ### The import of an exported layout -/

omit [BoardPlatform] in
theorem mem_keys {item : LayoutItem} (inside : item ∈ layout.lg) : item.i ∈ layout.widgets.map (·.1) := by
  rw [exported.keys, List.mem_eraseDups]
  exact List.mem_map_of_mem inside
theorem updatedLayouts_unmapped {existing : List BoardWidgetRow} (old : ∀ mapping ∈ existing, mapping ∈ db.boardWidgets) :
    ∀ item ∈ updatedLayouts layout db, Unmapped existing ((updatedWidgets layout db).map fun widget => (widget.id, widget)) item := by
  intro item inside
  obtain ⟨origin, among, rfl⟩ := List.mem_map.mp inside
  have key := mem_keys exported among
  obtain ⟨isUUID, nonempty, -, unmapped⟩ := newWidgetId_new exported db key
  obtain ⟨entry, listed, isKey⟩ := List.mem_map.mp key
  refine
    { isUUID := isUUID
      nonempty := nonempty
      found := ⟨{ entry.2 with id := newWidgetId layout db entry.1 }, lookup_of_mem ?_ ?_, by rw [isKey]⟩
      new := fun mapping there same => unmapped (List.mem_map.mpr ⟨mapping, old mapping there, same⟩) }
  · rw [List.map_map]
    show ((updatedWidgets layout db).map (·.id)).Nodup
    rw [updatedWidgets_ids exported]
    exact randomUUIDs_distinct _ _
  · refine List.mem_map.mpr ⟨{ entry.2 with id := newWidgetId layout db entry.1 }, ?_, by rw [isKey]⟩
    rw [updatedWidgets_eq exported]
    exact List.mem_map.mpr ⟨entry, listed, rfl⟩
theorem updatedLayouts_coordinates : ∀ item ∈ updatedLayouts layout db, Coordinates item := by
  intro item inside
  obtain ⟨origin, among, rfl⟩ := List.mem_map.mp inside
  exact exported.coordinates origin among
/-- The mappings of an import are all new. -/
theorem updateBoardLayout_imported (board : UUID) {written : Database} (mappings : written.boardWidgets = db.boardWidgets) :
    ∃ old added,
      (updateBoardLayout board.text (updatedLayouts layout db) ((updatedWidgets layout db).map fun widget => (widget.id, widget))
        written).boardWidgets = old ++ added ∧
      (∀ row ∈ old, row ∈ db.boardWidgets) ∧ List.Forall₂ (SavedAs board) (updatedLayouts layout db) added := by
  rw [updateBoardLayout]
  dsimp only
  rw [mappings]
  obtain ⟨added, rows, saved⟩ := foldl_saveMapping
    (updatedLayouts_unmapped exported db fun mapping there => (List.mem_filter.mp there).1) board _
  exact ⟨_, added, rows, fun row there => (List.mem_filter.mp there).1, saved⟩

theorem updatedWidgets_readable : ∀ widget ∈ updatedWidgets layout db,
    (∃ id : UUID, widget.id = id.text) ∧ Readable widget.properties ∧ Readable widget.config := by
  rw [updatedWidgets_eq exported]
  intro widget inside
  obtain ⟨entry, listed, rfl⟩ := List.mem_map.mp inside
  exact ⟨(newWidgetId_new exported db (List.mem_map_of_mem listed)).1, exported.readable entry listed⟩
/-- What the sanitizer makes of the widgets is read back from their rows. -/
theorem sanitized_read {stored : List WidgetData} (sanitized : (updatedWidgets layout db).mapM sanitizeWidget = .ok stored)
    {written : Database} (rows : written.widgets = db.widgets ++ stored.filterMap widgetRow) :
    ∀ widget ∈ stored, widgetData written widget.id = widget := by
  intro widget inside
  obtain ⟨sameIds, readable⟩ := sanitizeWidgets_stored (updatedWidgets_readable exported db) (mapM_eq_ok.mp sanitized)
  rw [updatedWidgets_ids exported] at sameIds
  refine widgetData_stored rows ?_ ?_ ?_ inside (readable widget inside).1 (readable widget inside).2
  · intro other there
    obtain ⟨id, -, same⟩ := List.mem_map.mp (sameIds ▸ List.mem_map_of_mem there : other.id ∈ (newWidgetIds layout db).map (·.text))
    exact ⟨id, same.symm⟩
  · rw [sameIds]
    exact randomUUIDs_distinct _ _
  · rw [sameIds]
    intro row old again
    obtain ⟨id, isNew, same⟩ := List.mem_map.mp again
    refine randomUUIDs_new _ _ id isNew ?_
    rw [same, List.map_append, List.map_map]
    exact List.mem_append_left _ (List.mem_map.mpr ⟨row, old, rfl⟩)

end

theorem importBoardLayout_eq_ok {layout : Layout} {now : Nat} {db written : Database} {board : BoardRow} :
    importBoardLayout layout now db = .ok (board, written) ↔
      newest (db.boards ++ [boardRow (boardData layout db) now db]) = some board ∧
        ∃ stored, (updatedWidgets layout db).mapM sanitizeWidget = .ok stored ∧
          written = updateBoardLayout board.id.text (updatedLayouts layout db)
            ((updatedWidgets layout db).map fun widget => (widget.id, widget))
            { db with
              boards := db.boards ++ [boardRow (boardData layout db) now db]
              widgets := db.widgets ++ stored.filterMap widgetRow } := by
  rw [importBoardLayout, createBoard]
  dsimp only
  cases newest (db.boards ++ [boardRow (boardData layout db) now db]) with
  | none => simp [bind, Except.bind, throw, throwThe, MonadExceptOf.throw]
  | some chosen =>
    simp only [bind, Except.bind, pure, Except.pure, createWidgets_eq]
    cases (updatedWidgets layout db).mapM sanitizeWidget with
    | error e => simp [Except.map]
    | ok stored =>
      simp only [Except.map, Except.ok.injEq, Prod.mk.injEq, Option.some.injEq, exists_eq_left']
      refine and_congr_right fun same => ?_
      rw [same]
      exact eq_comm

/-! ### Exports and imports -/

/-- The same layout but for the ids of the board and its widgets. -/
structure Same (layout again : Layout) : Prop where
  title : again.title = layout.title
  description : again.description = layout.description
  widgets : ∃ rename : String → String,
    (∀ a ∈ layout.widgets.map (·.1), ∀ b ∈ layout.widgets.map (·.1), rename a = rename b → a = b) ∧
      again.lg = layout.lg.map (fun item => { item with i := rename item.i }) ∧
      again.widgets = layout.widgets.map fun entry => (rename entry.1, { entry.2 with id := rename entry.1 })
/-- The import makes a board whose layout is the same. -/
def Reimported (layout : Layout) (now : Nat) (db : Database) : Prop :=
  ∃ answer written again, importBoardLayout layout now db = .ok (answer, written) ∧
    getBoardLayout (boardRow (boardData layout db) now db).id.text written = .ok again ∧ Same layout again

/-- A layout that is stored as it is. -/
structure Kept (layout : Layout) : Prop where
  title : Unescaped layout.title
  description : Unescaped layout.description
  widgets : ∀ entry ∈ layout.widgets, WidgetKept entry.2
/-- The board that `createBoard` reads back is the one that it has inserted. -/
def AnswersCreated (layout : Layout) (now : Nat) (db : Database) : Prop :=
  newest (db.boards ++ [boardRow (boardData layout db) now db]) = some (boardRow (boardData layout db) now db)

theorem answersCreated_of_older {layout : Layout} {now : Nat} {db : Database} (older : ∀ board ∈ db.boards, board.created_at < now) :
    AnswersCreated layout now db := by
  have answered := newest_some (List.concat_ne_nil (boardRow (boardData layout db) now db) db.boards)
  obtain ⟨board, isNewest⟩ := Option.isSome_iff_exists.mp answered
  obtain ⟨inside, latest⟩ := newest_latest isNewest
  rw [AnswersCreated, isNewest]
  rcases List.mem_append.mp inside with old | created
  · have earlier := older board old
    have later := latest _ (List.mem_append_right _ (List.mem_singleton.mpr rfl))
    have isNow : (boardRow (boardData layout db) now db).created_at = now := rfl
    omega
  · rw [List.mem_singleton.mp created]

/-- The id of a created board is of no board and of no mapping. -/
theorem boardRow_new (board : BoardData) (now : Nat) (db : Database) :
    (boardRow board now db).id.text ∉ db.boards.map (·.id.text) ∧
      (boardRow board now db).id.text ∉ db.boardWidgets.map (·.board_id.text) := by
  have new := newUUID_new (db.boards.map (·.id) ++ db.boardWidgets.map (·.board_id))
  rw [List.map_append, List.mem_append, List.map_map, List.map_map, not_or] at new
  exact new
/-- The layout of a board among boards with other ids, from its mappings. -/
theorem getBoardLayout_of_rows {db written : Database} {row : BoardRow} (boards : written.boards = db.boards ++ [row])
    (new : row.id.text ∉ db.boards.map (·.id.text)) {lg : List LayoutItem}
    (mappings : (written.boardWidgets.filter (·.board_id.text = row.id.text)).mapM layoutItem = .ok lg) :
    ∃ again, getBoardLayout row.id.text written = .ok again ∧ again.title = row.title ∧ again.description = row.description ∧
      again.lg = lg ∧ again.widgets = (lg.map (·.i)).eraseDups.map fun id => (id, widgetData written id) := by
  have found : ((toUUID row.id.text).bind fun id => written.boards.find? (·.id.text = id)) = some row := by
    rw [row.id.read, Option.bind_some, boards]
    refine find?_alone (List.mem_append_right _ (List.mem_singleton.mpr rfl)) (by simp) ?_
    intro other inside same
    rcases List.mem_append.mp inside with old | isRow
    · exact absurd (List.mem_map.mpr ⟨other, old, by simpa using same⟩) new
    · exact List.mem_singleton.mp isRow
  exact ⟨_, getBoardLayout_eq_ok.mpr ⟨row, found, lg, mappings, rfl⟩, rfl, rfl, rfl, rfl⟩
/-- The database after the board and the widgets of an import are stored. -/
def boardAndWidgets (db : Database) (row : BoardRow) (stored : List WidgetData) : Database :=
  { db with
    boards := db.boards ++ [row]
    widgets := db.widgets ++ stored.filterMap widgetRow }
/-- The layout of the board that an import creates: its items are there if the import answers with this board. -/
theorem created_layout {layout : Layout} (exported : Exported layout) {now : Nat} {db written : Database} {answer : BoardRow}
    (imported : importBoardLayout layout now db = .ok (answer, written)) :
    ∃ again, getBoardLayout (boardRow (boardData layout db) now db).id.text written = .ok again ∧
      again.title = sanitizeValue layout.title ∧ again.description = sanitizeValue layout.description ∧
      (answer = boardRow (boardData layout db) now db → again.lg = updatedLayouts layout db) ∧
      (answer ≠ boardRow (boardData layout db) now db → again.lg = []) ∧
      again.widgets = (again.lg.map (·.i)).eraseDups.map fun id => (id, widgetData written id) := by
  obtain ⟨isNewest, stored, -, rfl⟩ := importBoardLayout_eq_ok.mp imported
  obtain ⟨newBoard, newMapping⟩ := boardRow_new (boardData layout db) now db
  have mappings : (boardAndWidgets db (boardRow (boardData layout db) now db) stored).boardWidgets = db.boardWidgets := rfl
  obtain ⟨old, added, rows, isOld, saved⟩ := updateBoardLayout_imported exported db answer.id mappings
  obtain ⟨items, boards⟩ := layoutItems_saved saved (updatedLayouts_coordinates exported db)
  have others : old.filter (·.board_id.text = (boardRow (boardData layout db) now db).id.text) = [] := by
    rw [List.filter_eq_nil_iff]
    intro mapping inside same
    exact newMapping (List.mem_map.mpr ⟨mapping, isOld mapping inside, by simpa using same⟩)
  by_cases isCreated : answer = boardRow (boardData layout db) now db
  · have all : added.filter (·.board_id.text = (boardRow (boardData layout db) now db).id.text) = added := by
      rw [List.filter_eq_self]
      intro mapping inside
      simp [boards mapping inside, isCreated]
    obtain ⟨again, read, title, description, lg, widgets⟩ := getBoardLayout_of_rows rfl newBoard
      (by rw [rows, List.filter_append, others, all, List.nil_append, items])
    exact ⟨again, read, title, description, fun _ => lg, fun other => absurd isCreated other, lg ▸ widgets⟩
  · have among : answer.id.text ∈ db.boards.map (·.id.text) := by
      rcases List.mem_append.mp (newest_latest isNewest).1 with there | created
      · exact List.mem_map.mpr ⟨answer, there, rfl⟩
      · exact absurd (List.mem_singleton.mp created) isCreated
    have none : added.filter (·.board_id.text = (boardRow (boardData layout db) now db).id.text) = [] := by
      rw [List.filter_eq_nil_iff]
      intro mapping inside same
      rw [boards mapping inside, decide_eq_true_iff] at same
      exact newBoard (same ▸ among)
    obtain ⟨again, read, title, description, lg, widgets⟩ := getBoardLayout_of_rows rfl newBoard
      (by rw [rows, List.filter_append, others, none]; rfl)
    exact ⟨again, read, title, description, fun created => absurd created isCreated, fun _ => lg, lg ▸ widgets⟩

/-- The widgets of the created board, where the items are there. -/
theorem created_widgets {layout : Layout} (exported : Exported layout) {db written : Database} {again : Layout}
    (lg : again.lg = updatedLayouts layout db)
    (widgets : again.widgets = (again.lg.map (·.i)).eraseDups.map fun id => (id, widgetData written id)) :
    again.widgets = layout.widgets.map fun entry =>
      (newWidgetId layout db entry.1, widgetData written (newWidgetId layout db entry.1)) := by
  have ids : again.lg.map (·.i) = (layout.lg.map (·.i)).map (newWidgetId layout db) := by
    rw [lg, updatedLayouts, List.map_map, List.map_map]
    rfl
  have injective : ∀ a ∈ layout.lg.map (·.i), ∀ b ∈ layout.lg.map (·.i), newWidgetId layout db a = newWidgetId layout db b → a = b := by
    intro a left b right
    rw [← List.mem_eraseDups, ← exported.keys] at left right
    exact newWidgetId_injective exported db a left b right
  rw [widgets, ids, eraseDups_map injective, ← exported.keys, List.map_map, List.map_map]
  rfl
omit [BoardPlatform] in
theorem widgets_nil {layout : Layout} (exported : Exported layout) (empty : layout.lg = []) : layout.widgets = [] := by
  have keys := exported.keys
  rwa [empty, List.map_nil, List.eraseDups_nil, List.map_eq_nil_iff] at keys
/-- A widget is read back from an import as the sanitizer leaves it. -/
theorem widgetKept_of_read {layout : Layout} (exported : Exported layout) {now : Nat} {db written : Database} {answer : BoardRow}
    (imported : importBoardLayout layout now db = .ok (answer, written)) {entry : String × WidgetData} (inside : entry ∈ layout.widgets)
    (same : widgetData written (newWidgetId layout db entry.1) = { entry.2 with id := newWidgetId layout db entry.1 }) :
    WidgetKept entry.2 := by
  obtain ⟨-, stored, sanitized, isWritten⟩ := importBoardLayout_eq_ok.mp imported
  have among : { entry.2 with id := newWidgetId layout db entry.1 } ∈ updatedWidgets layout db := by
    rw [updatedWidgets_eq exported]
    exact List.mem_map.mpr ⟨entry, inside, rfl⟩
  obtain ⟨widget, there, success⟩ := exists_of_forall₂ (mapM_eq_ok.mp sanitized) among
  obtain ⟨isUUID, properties, config⟩ := updatedWidgets_readable exported db _ among
  have rows : written.widgets = db.widgets ++ stored.filterMap widgetRow := by
    rw [isWritten]
    rfl
  have read := sanitized_read exported db sanitized rows widget there
  rw [(sanitizeWidget_stored isUUID properties config success).1, same] at read
  obtain ⟨id, isId⟩ := isUUID
  rw [← read, show newWidgetId layout db entry.1 = id.text from isId] at success
  exact (sanitizeWidget_eq_iff entry.2 id).mp success
theorem reimported_iff_of_exported {layout : Layout} (exported : Exported layout) (now : Nat) (db : Database) :
    Reimported layout now db ↔ Kept layout ∧ (AnswersCreated layout now db ∨ layout.lg = []) := by
  constructor
  · rintro ⟨answer, written, again, imported, read, same⟩
    obtain ⟨rename, -, lg, widgets⟩ := same.widgets
    obtain ⟨_, readAgain, title, description, isCreated, isOther, layoutWidgets⟩ := created_layout exported imported
    obtain rfl := Except.ok.inj (read.symm.trans readAgain)
    have isNewest := (importBoardLayout_eq_ok.mp imported).1
    by_cases created : answer = boardRow (boardData layout db) now db
    · refine ⟨⟨sanitizeValue_eq_self_iff.mp (title.symm.trans same.title),
        sanitizeValue_eq_self_iff.mp (description.symm.trans same.description), ?_⟩, .inl (isNewest.trans (congrArg some created))⟩
      intro entry inside
      have read := created_widgets exported (isCreated created) layoutWidgets
      rw [widgets] at read
      have entrySame := List.map_inj_left.mp read entry inside
      refine widgetKept_of_read exported imported inside ?_
      have key := congrArg Prod.fst entrySame
      have value := congrArg Prod.snd entrySame
      dsimp only at key value
      rw [← value, key]
    · have empty : layout.lg = [] := by
        rw [isOther created, eq_comm, List.map_eq_nil_iff] at lg
        exact lg
      refine ⟨⟨sanitizeValue_eq_self_iff.mp (title.symm.trans same.title),
        sanitizeValue_eq_self_iff.mp (description.symm.trans same.description), ?_⟩, .inr empty⟩
      rw [widgets_nil exported empty]
      exact nofun
  · rintro ⟨kept, answers⟩
    have stored : (updatedWidgets layout db).mapM sanitizeWidget = .ok (updatedWidgets layout db) := by
      rw [mapM_eq_ok, List.forall₂_same]
      intro widget inside
      rw [updatedWidgets_eq exported] at inside
      obtain ⟨entry, listed, rfl⟩ := List.mem_map.mp inside
      obtain ⟨⟨id, isId⟩, -⟩ := newWidgetId_new exported db (List.mem_map_of_mem listed)
      rw [isId]
      exact (sanitizeWidget_eq_iff entry.2 id).mpr (kept.widgets entry listed)
    obtain ⟨answer, isNewest⟩ := Option.isSome_iff_exists.mp
      (newest_some (List.concat_ne_nil (boardRow (boardData layout db) now db) db.boards))
    have imported := importBoardLayout_eq_ok.mpr ⟨isNewest, _, stored, rfl⟩
    obtain ⟨again, read, title, description, isCreated, isOther, layoutWidgets⟩ := created_layout exported imported
    refine ⟨answer, _, again, imported, read, ?_, ?_, ?_⟩
    · rw [title, sanitizeValue_eq_self_iff]
      exact kept.title
    · rw [description, sanitizeValue_eq_self_iff]
      exact kept.description
    by_cases created : answer = boardRow (boardData layout db) now db
    · refine ⟨newWidgetId layout db, newWidgetId_injective exported db, isCreated created, ?_⟩
      rw [created_widgets exported (isCreated created) layoutWidgets]
      refine List.map_congr_left fun entry inside => ?_
      have among : { entry.2 with id := newWidgetId layout db entry.1 } ∈ updatedWidgets layout db := by
        rw [updatedWidgets_eq exported]
        exact List.mem_map.mpr ⟨entry, inside, rfl⟩
      exact congrArg _ (sanitized_read exported db stored rfl _ among)
    · have empty : layout.lg = [] := by
        rcases answers with answersCreated | empty
        · exact absurd (Option.some.inj (isNewest.symm.trans answersCreated)) created
        · exact empty
      refine ⟨id, fun a _ b _ same => same, by rw [isOther created, empty]; rfl, ?_⟩
      rw [layoutWidgets, isOther created, widgets_nil exported empty]
      rfl

end

/-! ### A board of one widget -/

/-- The last of the newest rows. -/
def lastNewest [Storage] : List BoardRow → Option BoardRow
  | [] => none
  | row :: rows =>
    match lastNewest rows with
    | some other => if row.created_at ≤ other.created_at then some other else some row
    | none => some row
theorem lastNewest_some [Storage] {rows : List BoardRow} (nonempty : rows ≠ []) : (lastNewest rows).isSome = true := by
  cases rows with
  | nil => exact absurd rfl nonempty
  | cons row rows =>
    rw [lastNewest]
    split
    · split <;> rfl
    · rfl
theorem lastNewest_latest [Storage] {rows : List BoardRow} {row : BoardRow} (isNewest : lastNewest rows = some row) :
    row ∈ rows ∧ ∀ other ∈ rows, other.created_at ≤ row.created_at := by
  induction rows generalizing row with
  | nil => exact nomatch isNewest
  | cons first rows ih =>
    rw [lastNewest] at isNewest
    cases later : lastNewest rows with
    | none =>
      have empty : rows = [] := by
        by_contra nonempty
        have answered := lastNewest_some nonempty
        rw [later] at answered
        exact nomatch answered
      rw [later] at isNewest
      cases isNewest
      simp [empty]
    | some other =>
      obtain ⟨inside, latest⟩ := ih later
      rw [later] at isNewest
      dsimp only at isNewest
      split at isNewest
      · next older =>
        cases isNewest
        exact ⟨List.mem_cons_of_mem _ inside, List.forall_mem_cons.mpr ⟨older, latest⟩⟩
      · next newer =>
        cases isNewest
        refine ⟨List.mem_cons_self, List.forall_mem_cons.mpr ⟨Nat.le_refl _, fun row there => ?_⟩⟩
        have bound := latest row there
        omega

@[reducible] def sqlstringBoards : BoardPlatform where
  toPlatform := sqlstringPlatform
  letter_tab := by decide
  letter_n {c} written := by
    have all : ∀ pair ∈ sqlstringLetters, pair.2 = 'n' → pair.1 = '\n' := by decide
    exact all (c, 'n') (mem_of_lookup written) rfl
  letter_t {c} written := by
    have all : ∀ pair ∈ sqlstringLetters, pair.2 = 't' → pair.1 = '\t' := by decide
    exact all (c, 't') (mem_of_lookup written) rfl
  generated_nonempty ids empty := by
    have isEmpty := congrArg (fun s => s.toList.length) empty
    change (String.ofList (RuleLinkSync.sampleId.toList ++ _)).toList.length = 0 at isEmpty
    rw [String.toList_ofList, List.length_append] at isEmpty
    have long : 0 < RuleLinkSync.sampleId.toList.length := by decide
    omega
  newest := @lastNewest sqlstringPlatform.toStorage
  newest_some {_} nonempty := @lastNewest_some sqlstringPlatform.toStorage _ nonempty
  newest_latest {_ _} isNewest := @lastNewest_latest sqlstringPlatform.toStorage _ _ isNewest
  unreadPosition _ rows := rows

section
attribute [local instance] sqlstringBoards

def sampleUUID : UUID := ⟨RuleLinkSync.sampleId, by decide⟩
def board (title : String) : BoardRow :=
  { id := sampleUUID, title := title, description := "", is_main_dashboard := true, is_pinned := false, tags := "[]", created_at := 1 }
def requests : WidgetData :=
  { id := sampleUUID.text
    title := "Requests"
    description := ""
    type := "STAT_CARD"
    properties := .object [("color", .string "#F36C06")]
    config := .object [("query", .string "SELECT count() AS total\nFROM otel_traces\nWHERE ServiceName = 'app'")] }
def corner : LayoutItem :=
  { i := sampleUUID.text, x := some (.number "0"), y := some (.number "0"), w := some (.number "1"), h := some (.number "1") }
def database (title : String) : Database :=
  { boards := [board title]
    widgets := [requests].filterMap widgetRow
    boardWidgets := [{ id := sampleUUID, board_id := sampleUUID, widget_id := sampleUUID, position := positionText corner }] }
def layoutOf (title : String) : Layout :=
  { id := sampleUUID.text
    title := title
    description := ""
    isMainDashboard := true
    isPinned := false
    tags := "[]"
    lg := [corner]
    widgets := [(sampleUUID.text, requests)] }

theorem layoutOf_exported (title : String) : getBoardLayout sampleUUID.text (database title) = .ok (layoutOf title) := by
  have found : ((toUUID sampleUUID.text).bind fun id => (database title).boards.find? (·.id.text = id)) = some (board title) := by
    rw [sampleUUID.read]
    simp [database, board]
  have mappings : (database title).boardWidgets.filter (·.board_id.text = (board title).id.text) = (database title).boardWidgets := by
    simp [database, board]
  have coordinates : Coordinates corner := by
    simp only [Coordinates, corner, List.forall_mem_cons, Option.mem_some_iff, forall_eq', Valid]
    refine ⟨by decide, by decide, by decide, by decide, ?_⟩
    intro value inside
    cases inside
  have items : ((database title).boardWidgets.filter (·.board_id.text = (board title).id.text)).mapM layoutItem = .ok [corner] := by
    rw [mappings, mapM_eq_ok]
    exact .cons (layoutItem_saved ⟨rfl, rfl, rfl⟩ coordinates) .nil
  have rows : (database title).widgets = [] ++ [requests].filterMap widgetRow := rfl
  have new : ∀ row ∈ ([] : List WidgetRow), row.id.text ∉ [requests].map (·.id) := by
    intro row inside
    cases inside
  have read : widgetData (database title) requests.id = requests :=
    widgetData_stored rows (by simp [requests]) (by simp) new List.mem_cons_self ⟨⟨trivial, trivial⟩, rfl⟩ ⟨⟨trivial, trivial⟩, rfl⟩
  refine getBoardLayout_eq_ok.mpr ⟨board title, found, [corner], items, ?_⟩
  have widgets : (([corner].map (·.i)).eraseDups.map fun id => (id, widgetData (database title) id)) = [(sampleUUID.text, requests)] := by
    show [(requests.id, widgetData (database title) requests.id)] = _
    rw [read]
    rfl
  rw [layoutOf, widgets]
  rfl

end

end Openlit.BoardExports
