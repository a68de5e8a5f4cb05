import Mathlib.Logic.Function.Basic
import Openlit.JsonText
import Openlit.Literals
import Openlit.Lookups
import Openlit.RuleLinkSync
import Openlit.Text

/-!
Tables of texts in ClickHouse and the texts of the queries that change them:
`Sanitizer` (`sanitizer.ts`), the inserts of `dataCollector`, which store the
values that they are given, and its `exec` of an update or a removal, which is
read from the text of the query. Mutations are taken to be done when the query
returns. Times are left out.
-/
namespace Openlit.ClickHouse
open Openlit.JsonText Openlit.Literals Openlit.RuleLinks Openlit.Text

/-! ### Tables -/

/-- A row by the text of its UUID, with the values of its text columns. -/
structure Row (Column : Type) where
  id : String
  cells : Column → String
structure Table (Column : Type) where
  rows : List (Row Column)
  ids : (rows.map (·.id)).Nodup

def emptyTable (Column : Type) : Table Column := ⟨[], List.nodup_nil⟩

/-- The names of a table, of its UUID column, of its text columns with the texts that these take,
    and of the columns that hold times. -/
structure Schema (Column : Type) where
  table : List Char
  key : List Char
  name : Column → List Char
  named : List Char → Option Column
  named_name : ∀ column, named (name column) = some column
  accepts : Column → String → Bool := fun _ _ => true
  times : List (List Char)

section
variable {Column : Type}

/-- The text columns that assignments set, when they are all columns of the table. -/
def Schema.settings (schema : Schema Column) : List (List Char × Option (List Char)) → Option (List (Column × String))
  | [] => some []
  | (name, some value) :: more =>
    (schema.named name).bind fun column => (schema.settings more).map ((column, String.ofList value) :: ·)
  | (name, none) :: more => if name ∈ schema.times then schema.settings more else none

def Row.set [DecidableEq Column] (row : Row Column) (settings : List (Column × String)) : Row Column :=
  { row with cells := settings.foldl (fun cells (column, value) => Function.update cells column value) row.cells }
def Table.update [DecidableEq Column] (table : Table Column) (id : String) (settings : List (Column × String)) :
    Table Column where
  rows := table.rows.map fun row => if row.id = id then row.set settings else row
  ids := by
    have same : ((fun row : Row Column => row.id) ∘ fun row => if row.id = id then row.set settings else row) =
        fun row => row.id := by
      funext row
      by_cases changed : row.id = id <;> simp [changed, Row.set]
    rw [List.map_map, same]
    exact table.ids
def Table.remove (table : Table Column) (id : String) : Table Column where
  rows := table.rows.filter (·.id ≠ id)
  ids := (List.filter_sublist.map _).nodup table.ids

def Table.find (table : Table Column) (id : String) : Option (Row Column) := table.rows.find? (·.id = id)

@[simp] theorem Row.set_id [DecidableEq Column] (row : Row Column) (settings : List (Column × String)) :
    (row.set settings).id = row.id := rfl
/-- Settings that give a column what it holds leave it. -/
theorem Row.set_agreed [DecidableEq Column] {column : Column} {settings : List (Column × String)} {row : Row Column}
    (agreed : ∀ text, (column, text) ∈ settings → row.cells column = text) :
    (row.set settings).cells column = row.cells column := by
  induction settings generalizing row with
  | nil => rfl
  | cons setting more ih =>
    have same : Function.update row.cells setting.1 setting.2 column = row.cells column := by
      by_cases here : column = setting.1
      · subst here
        rw [Function.update_self]
        exact (agreed setting.2 List.mem_cons_self).symm
      · exact Function.update_of_ne here _ _
    have later : ∀ text, (column, text) ∈ more → Function.update row.cells setting.1 setting.2 column = text :=
      fun text inside => same.trans (agreed text (List.mem_cons_of_mem _ inside))
    have kept := @ih { row with cells := Function.update row.cells setting.1 setting.2 } later
    exact kept.trans same
/-- A column that one optional setting is about. -/
theorem Row.set_only [DecidableEq Column] {column : Column} {value : Option String} {settings : List (Column × String)}
    (only : ∀ text, (column, text) ∈ settings ↔ value = some text) (row : Row Column) :
    (row.set settings).cells column = value.getD (row.cells column) := by
  cases value with
  | none => exact set_agreed fun text inside => nomatch (only text).mp inside
  | some text =>
    obtain ⟨first, later, rfl⟩ := List.append_of_mem ((only text).mpr rfl)
    have updated : Function.update (row.set first).cells column text column = text := Function.update_self ..
    have agreed : ∀ other, (column, other) ∈ later → Function.update (row.set first).cells column text column = other := by
      intro other inside
      exact updated.trans (Option.some.inj ((only other).mp (List.mem_append_right _ (List.mem_cons_of_mem _ inside))))
    have kept := @set_agreed _ _ column later { row with cells := Function.update (row.set first).cells column text } agreed
    rw [Row.set, List.foldl_append]
    exact kept.trans updated
theorem Table.find_id {table : Table Column} {id : String} {row : Row Column} (found : table.find id = some row) :
    row.id = id := by
  simpa using List.find?_some found
theorem Table.find_update [DecidableEq Column] (table : Table Column) (changed : String) (settings : List (Column × String))
    (id : String) : (table.update changed settings).find id =
      (table.find id).map fun row => if row.id = changed then row.set settings else row := by
  have ids : ((fun row : Row Column => decide (row.id = id)) ∘ fun row => if row.id = changed then row.set settings else row) =
      fun row => decide (row.id = id) := by
    funext row
    by_cases same : row.id = changed <;> simp [same]
  rw [Table.find, Table.update, List.find?_map, ids]
  rfl
theorem Table.find_remove (table : Table Column) (removed id : String) :
    (table.remove removed).find id = if id = removed then none else table.find id := by
  by_cases same : id = removed
  · rw [if_pos same, Table.find, List.find?_eq_none]
    intro row inside
    simpa [same, Table.remove] using (List.mem_filter.mp inside).2
  · rw [if_neg same, Table.find, Table.remove, List.find?_filter]
    congr 1
    funext row
    by_cases isRow : row.id = id <;> simp [isRow, same]
/-- The rows with an id are the one that is found. -/
theorem Table.filter_id (table : Table Column) (id : String) : table.rows.filter (·.id = id) = (table.find id).toList := by
  obtain ⟨rows, ids⟩ := table
  rw [Table.find]
  induction rows with
  | nil => rfl
  | cons row rows ih =>
    rw [List.map_cons, List.nodup_cons] at ids
    by_cases same : row.id = id
    · have others : rows.filter (·.id = id) = [] := by
        rw [List.filter_eq_nil_iff]
        intro other inside isSame
        exact ids.1 (List.mem_map.mpr ⟨other, inside, by simpa [same] using isSame⟩)
      simp [same, others]
    · simpa [same] using ih ids.2

theorem Table.find_of_mem {table : Table Column} {row : Row Column} (inside : row ∈ table.rows) :
    table.find row.id = some row := by
  have listed : row ∈ (table.find row.id).toList := by
    rw [← Table.filter_id]
    exact List.mem_filter.mpr ⟨inside, by simp⟩
  simpa using listed

end

/-- The library and the database. `sanitizeValue` writes the texts of literals, a UUID is read from
    no other characters, and what a query does that is not read here is left open. -/
class Platform extends Storage, Escapes where
  sanitizeValue_escape : ∀ s, sanitizeValue s = String.ofList (escape s.toList)
  letter_newline : letter '\n' = some 'n'
  toUUID_text : ∀ {s id}, toUUID s = some id → ∀ c ∈ s.toList, isPlain c = true
  unread : {Column : Type} → String → Table Column → Except String (Table Column)

section
variable [Platform] {Column : Type} [DecidableEq Column]
open Storage Platform

def Table.insert (table : Table Column) (cells : Column → String) : Table Column where
  rows := table.rows ++ [⟨generateUUIDv4 (table.rows.map (·.id)), cells⟩]
  ids := by
    rw [List.map_append, List.nodup_append]
    refine ⟨table.ids, List.pairwise_singleton _ _, ?_⟩
    rintro id inside _ added rfl
    rw [List.map_singleton, List.mem_singleton] at added
    exact generated_new _ (added ▸ inside)

omit [DecidableEq Column] in
theorem Table.find_insert (table : Table Column) (cells : Column → String) (id : String) :
    (table.insert cells).find id =
      if id = generateUUIDv4 (table.rows.map (·.id)) then some ⟨id, cells⟩ else table.find id := by
  rw [Table.find, Table.insert, List.find?_append]
  by_cases isNew : id = generateUUIDv4 (table.rows.map (·.id))
  · have absent : table.rows.find? (·.id = id) = none := by
      rw [List.find?_eq_none]
      intro row inside same
      have listed : id ∈ table.rows.map (·.id) := List.mem_map.mpr ⟨row, inside, by simpa using same⟩
      exact generated_new _ (isNew ▸ listed)
    rw [if_pos isNew, absent]
    simp [isNew]
  · have other : ¬ generateUUIDv4 (table.rows.map (·.id)) = id := fun same => isNew same.symm
    simp [isNew, other, Table.find]

/-- `dataCollector({ query }, "exec")`. -/
def exec (schema : Schema Column) (query : String) (table : Table Column) : Except String (Table Column) :=
  match read query.toList with
  | some (.update name assigned column value) =>
    if name = schema.table ∧ column = schema.key then
      match schema.settings assigned, toUUID (String.ofList value) with
      | some settings, some id =>
        if settings.all fun (column, value) => schema.accepts column value then pure (table.update id settings)
        else throw (rejection query)
      | some _, none => throw (rejection (String.ofList value))
      | none, _ => unread query table
    else unread query table
  | some (.delete name column value) =>
    if name = schema.table ∧ column = schema.key then
      match toUUID (String.ofList value) with
      | some id => pure (table.remove id)
      | none => throw (rejection (String.ofList value))
    else unread query table
  | none => unread query table

/-! ### The sanitizer -/

mutual
/-- `Sanitizer.sanitizeObject` on the value of a field. -/
def sanitizeField : Json → Json
  | .string text => .string (sanitizeValue text)
  | .number text => .string text
  | .array items => .array (sanitizeItems items)
  | .object fields => .object (sanitizeFields fields)
  | .null => .null
  | .bool b => .bool b
/-- Its case of a field that is an array. An array in the array is an object as well,
    with the indices as its keys. -/
def sanitizeItems : List Json → List Json
  | [] => []
  | .array items :: rest => .object (sanitizeIndexed 0 items) :: sanitizeItems rest
  | .string text :: rest => .string (sanitizeValue text) :: sanitizeItems rest
  | .number text :: rest => .string text :: sanitizeItems rest
  | .object fields :: rest => .object (sanitizeFields fields) :: sanitizeItems rest
  | .null :: rest => .null :: sanitizeItems rest
  | .bool b :: rest => .bool b :: sanitizeItems rest
def sanitizeIndexed : Nat → List Json → List (String × Json)
  | _, [] => []
  | index, item :: items => (toString index, sanitizeField item) :: sanitizeIndexed (index + 1) items
def sanitizeFields : List (String × Json) → List (String × Json)
  | [] => []
  | (key, value) :: fields => (key, sanitizeField value) :: sanitizeFields fields
end

/-! ### Updates with literals -/

omit [DecidableEq Column]

/-- What a text between quotes is read as. -/
def literalText (body : String) : Option String := (decoded body.toList).map String.ofList
/-- A text that makes one literal between quotes. -/
def Closed (body : String) : Prop := (literalText body).isSome = true
instance (body : String) : Decidable (Closed body) := inferInstanceAs (Decidable (_ = true))
def valueOf (body : String) : String := (literalText body).getD ""

/-- `column = 'text'`. -/
def assignment (schema : Schema Column) (item : Column × String) : String :=
  String.ofList (schema.name item.1) ++ " = '" ++ item.2 ++ "'"

theorem literalText_of_closed {body : String} (closed : Closed body) : literalText body = some (valueOf body) := by
  obtain ⟨text, read⟩ := Option.isSome_iff_exists.mp closed
  rw [valueOf, read]
  rfl
theorem literalText_sanitizeValue (s : String) :
    literalText (sanitizeValue s) = (decoded (escape s.toList)).map String.ofList := by
  rw [literalText, sanitizeValue_escape, String.toList_ofList]
theorem closed_sanitizeValue (s : String) : Closed (sanitizeValue s) := by
  obtain ⟨text, read⟩ := decoded_escape s.toList
  rw [Closed, literalText_sanitizeValue, read]
  rfl
/-- The value that is set is the one given exactly when all its characters are read back. -/
theorem valueOf_sanitizeValue_iff {s : String} : valueOf (sanitizeValue s) = s ↔ ∀ c ∈ s.toList, Faithful c := by
  obtain ⟨text, read⟩ := decoded_escape s.toList
  rw [← decoded_escape_iff, valueOf, literalText_sanitizeValue, read]
  simp [← String.toList_inj]
theorem sanitizeValue_eq_self_iff {s : String} : sanitizeValue s = s ↔ ∀ c ∈ s.toList, Plain c := by
  rw [sanitizeValue_escape, ← escape_eq_self_iff, ← String.toList_inj, String.toList_ofList]

theorem plain_of_isPlain {c : Char} (plain : isPlain c = true) : Plain c := by
  have same : sanitizeValue (String.ofList [c]) = String.ofList [c] := by
    apply sanitizeValue_plain
    simpa using plain
  simpa using sanitizeValue_eq_self_iff.mp same
/-- The UUID in a literal is that of the text that the literal is made from. -/
theorem toUUID_valueOf (s : String) : toUUID (valueOf (sanitizeValue s)) = toUUID s := by
  by_cases same : valueOf (sanitizeValue s) = s
  · rw [same]
  · have altered : ¬ ∀ c ∈ s.toList, Faithful c := fun all => same (valueOf_sanitizeValue_iff.mpr all)
    have given : toUUID s = none := by
      rw [Option.eq_none_iff_forall_ne_some]
      intro id found
      exact altered fun c inside => (plain_of_isPlain (toUUID_text found c inside)).faithful
    rw [given, Option.eq_none_iff_forall_ne_some]
    intro id found
    obtain ⟨text, read⟩ := decoded_escape s.toList
    have isText : valueOf (sanitizeValue s) = String.ofList text := by
      rw [valueOf, literalText_sanitizeValue, read]
      rfl
    apply same
    rw [isText, eq_of_decoded_escape read, String.ofList_toList]
    intro backslash
    rw [isText] at found
    have plain := toUUID_text found '\\' (by simpa using backslash)
    exact absurd plain (by decide)

/-- The texts around an update of a table, which tell its columns apart. -/
structure Schema.Layout (schema : Schema Column) extends Literals.Layout where
  isTable : toLayout.table = schema.table
  timed : ∀ stamp ∈ toLayout.stamps, stamp ∈ schema.times
  named : ∀ column, toLayout.Names (schema.name column)
  keyed : toLayout.Names schema.key

variable {schema : Schema Column}

def Schema.Layout.text (layout : schema.Layout) (items : List (Column × String)) (key : String) : String :=
  String.ofList layout.header ++ (String.ofList layout.separator).intercalate (items.map (assignment schema)) ++
    String.ofList layout.footer ++ String.ofList schema.key ++ " = '" ++ key ++ "'"

omit [Platform] in
/-- The text of a layout as a template has it. -/
theorem Schema.Layout.text_eq (layout : schema.Layout) {header separator footer name condition : String}
    (isHeader : layout.header = header.toList) (isSeparator : layout.separator = separator.toList)
    (isFooter : layout.footer = footer.toList) (isName : schema.key = name.toList)
    (isCondition : condition = footer ++ name ++ " = '") (items : List (Column × String)) (key : String) :
    layout.text items key =
      header ++ separator.intercalate (items.map (assignment schema)) ++ condition ++ key ++ "'" := by
  rw [Schema.Layout.text, isHeader, isSeparator, isFooter, isName, isCondition]
  simp only [String.ofList_toList, String.append_assoc]
omit [Platform] in
/-- A first item that is always there, as a part of what is in front. -/
theorem intercalate_first {header first start separator : String} (isHeader : header = start ++ first ++ separator)
    {items : List String} (nonempty : items ≠ []) :
    start ++ separator.intercalate (first :: items) = header ++ separator.intercalate items := by
  obtain ⟨next, more, rfl⟩ := List.exists_cons_of_ne_nil nonempty
  rw [String.intercalate_cons_cons, isHeader]
  simp only [String.append_assoc]

omit [Platform] in
theorem toList_intercalate_cons (separator first : String) (more : List String) :
    (separator.intercalate (first :: more)).toList = first.toList ++ more.flatMap (separator.toList ++ ·.toList) := by
  induction more generalizing first with
  | nil => simp
  | cons next more ih =>
    rw [String.intercalate_cons_cons, String.toList_append, String.toList_append, ih, List.flatMap_cons, List.append_assoc,
      List.append_assoc]

/-- A column with the closed body of a literal. -/
def closedSetting (column : List Char) {body : String} (closed : Closed body) : Setting where
  column := column
  body := body.toList
  value := (valueOf body).toList
  decodes := by
    obtain ⟨text, decodes, isText⟩ := Option.map_eq_some_iff.mp (literalText_of_closed closed)
    rw [← isText, String.toList_ofList, decodes]

theorem toList_assignment {item : Column × String} (closed : Closed item.2) :
    (assignment schema item).toList = (closedSetting (schema.name item.1) closed).text := by
  simp only [assignment, Setting.text, closedSetting, String.toList_append, String.toList_ofList]
  rfl

theorem settings_values (items : List (Column × String)) (stamps : List (List Char)) (timed : ∀ stamp ∈ stamps, stamp ∈ schema.times) :
    schema.settings (stamps.map (fun stamp => (stamp, none)) ++
      items.map fun item => (schema.name item.1, some (valueOf item.2).toList)) =
      some (items.map fun item => (item.1, valueOf item.2)) := by
  induction stamps with
  | nil =>
    induction items with
    | nil => rfl
    | cons item items ih =>
      simp only [List.map_nil, List.nil_append] at ih
      simp [Schema.settings, schema.named_name, ih]
  | cons stamp stamps ih =>
    obtain ⟨first, others⟩ := List.forall_mem_cons.mp timed
    rw [List.map_cons, List.cons_append, Schema.settings, if_pos first, ih others]

/-- Closed items as the settings of a query. -/
theorem exists_settings {items : List (Column × String)} (closed : ∀ item ∈ items, Closed item.2) :
    ∃ settings : List Setting,
      (∀ lead : List Char, settings.flatMap (lead ++ ·.text) = items.flatMap fun item => lead ++ (assignment schema item).toList) ∧
      settings.map (fun s => (s.column, some s.value)) =
        items.map (fun item => (schema.name item.1, some (valueOf item.2).toList)) ∧
      ∀ s ∈ settings, ∃ column, s.column = schema.name column := by
  induction items with
  | nil => exact ⟨[], fun _ => rfl, rfl, nofun⟩
  | cons item items ih =>
    obtain ⟨closedFirst, closedMore⟩ := List.forall_mem_cons.mp closed
    obtain ⟨settings, texts, values, columns⟩ := ih closedMore
    refine ⟨closedSetting (schema.name item.1) closedFirst :: settings, fun lead => ?_, ?_, ?_⟩
    · rw [List.flatMap_cons, List.flatMap_cons, texts, toList_assignment closedFirst]
    · rw [List.map_cons, List.map_cons, values]
      rfl
    · exact List.forall_mem_cons.mpr ⟨⟨item.1, rfl⟩, columns⟩

theorem exec_update [DecidableEq Column] (layout : schema.Layout) {items : List (Column × String)} (nonempty : items ≠ [])
    (closed : ∀ item ∈ items, Closed item.2) {key : String} (closedKey : Closed key) (table : Table Column) :
    exec schema (layout.text items key) table =
      (toUUID (valueOf key)).elim (throw (rejection (valueOf key))) fun id =>
        if items.all fun item => schema.accepts item.1 (valueOf item.2) then
          pure (table.update id (items.map fun item => (item.1, valueOf item.2)))
        else throw (rejection (layout.text items key)) := by
  obtain ⟨first, more, rfl⟩ := List.exists_cons_of_ne_nil nonempty
  obtain ⟨closedFirst, closedMore⟩ := List.forall_mem_cons.mp closed
  obtain ⟨settings, texts, values, columns⟩ := @exists_settings _ _ schema _ closedMore
  let s := closedSetting (schema.name first.1) closedFirst
  have whole : (layout.text (first :: more) key).toList = layout.query s settings (closedSetting schema.key closedKey) := by
    rw [Schema.Layout.text, List.map_cons, Layout.query, texts]
    simp only [String.toList_append, String.toList_ofList, toList_intercalate_cons, List.flatMap_map,
      toList_assignment closedFirst]
    simp only [Setting.text, closedSetting, s, List.append_assoc]
    rfl
  have named : ∀ setting ∈ closedSetting schema.key closedKey :: s :: settings, layout.Names setting.column := by
    refine List.forall_mem_cons.mpr ⟨layout.keyed, List.forall_mem_cons.mpr ⟨layout.named first.1, ?_⟩⟩
    intro setting inside
    obtain ⟨column, isNamed⟩ := columns setting inside
    exact isNamed ▸ layout.named column
  have isRead := read_query layout.toLayout named
  rw [← whole, List.map_cons, values] at isRead
  have assigned := settings_values (first :: more) layout.stamps layout.timed
  rw [exec, isRead]
  simp only [closedSetting, s, layout.isTable] at assigned ⊢
  rw [List.map_cons] at assigned
  have accepted : (((first.1, valueOf first.2) :: more.map fun item => (item.1, valueOf item.2)).all fun setting =>
      schema.accepts setting.1 setting.2) = (first :: more).all fun item => schema.accepts item.1 (valueOf item.2) := by
    rw [List.all_cons, List.all_cons, List.all_map]
    rfl
  simp only [and_self, if_true, assigned, List.map_cons, String.ofList_toList]
  cases toUUID (valueOf key) with
  | none => rfl
  | some id => simp only [accepted, Option.elim_some]

/-- An update that is done has changed the row that its key names. -/
theorem exec_update_ok [DecidableEq Column] (layout : schema.Layout) {items : List (Column × String)} (nonempty : items ≠ [])
    (closed : ∀ item ∈ items, Closed item.2) {s : String} {table next : Table Column}
    (done : exec schema (layout.text items (sanitizeValue s)) table = .ok next) :
    ∃ named, toUUID s = some named ∧ next = table.update named (items.map fun item => (item.1, valueOf item.2)) := by
  rw [exec_update layout nonempty closed (closed_sanitizeValue s), toUUID_valueOf] at done
  cases found : toUUID s with
  | none =>
    rw [found] at done
    exact nomatch done
  | some named =>
    rw [found, Option.elim_some] at done
    split at done
    · exact ⟨named, rfl, (Except.ok.inj done).symm⟩
    · exact nomatch done

/-- `DELETE FROM table WHERE key = 'text';`. -/
def deleteQuery (schema : Schema Column) (key : String) : String :=
  "DELETE FROM " ++ String.ofList schema.table ++ " WHERE " ++ String.ofList schema.key ++ " = '" ++ key ++ "'" ++ ";"

/-- The words of a removal are told apart. -/
structure Schema.Named (schema : Schema Column) : Prop where
  bare : schema.table.all isBare = true
  bareKey : schema.key.all isBare = true
  removal : words ("DELETE FROM ".toList ++ schema.table ++ " WHERE ".toList ++ schema.key ++ " = ".toList) =
    ["DELETE".toList, "FROM".toList, schema.table, "WHERE".toList, schema.key, "=".toList]

theorem exec_deleteQuery [DecidableEq Column] (named : schema.Named) {key : String} (closedKey : Closed key) (table : Table Column) :
    exec schema (deleteQuery schema key) table =
      (toUUID (valueOf key)).elim (throw (rejection (valueOf key))) fun id => pure (table.remove id) := by
  have whole : (deleteQuery schema key).toList =
      ("DELETE FROM ".toList ++ schema.table ++ " WHERE ".toList) ++ (closedSetting schema.key closedKey).text ++ ";".toList := by
    have quote : "'".toList = ['\''] := by decide
    unfold deleteQuery
    simp only [Setting.text, closedSetting, String.toList_append, String.toList_ofList, List.append_assoc]
    rw [quote]
  have bareLead : ("DELETE FROM ".toList ++ schema.table ++ " WHERE ".toList).all isBare = true := by
    rw [List.all_append, List.all_append, named.bare]
    decide
  have isRead : _ = some (Statement.delete schema.table (closedSetting schema.key closedKey).column _) :=
    read_delete (by simp) bareLead named.bareKey named.removal
  rw [exec, whole, isRead]
  simp only [closedSetting, and_self, if_true, String.ofList_toList]
  cases toUUID (valueOf key) <;> rfl

/-- A removal that is done has removed the row that its key names. -/
theorem exec_deleteQuery_ok [DecidableEq Column] (isNamed : schema.Named) {s : String} {table next : Table Column}
    (done : exec schema (deleteQuery schema (sanitizeValue s)) table = .ok next) :
    ∃ named, toUUID s = some named ∧ next = table.remove named := by
  rw [exec_deleteQuery isNamed (closed_sanitizeValue s), toUUID_valueOf] at done
  cases found : toUUID s with
  | none =>
    rw [found] at done
    exact nomatch done
  | some named =>
    rw [found] at done
    exact ⟨named, rfl, (Except.ok.inj done).symm⟩

theorem sanitizeValue_eq_empty {s : String} : sanitizeValue s = "" ↔ s = "" := by
  constructor
  · intro empty
    have same : sanitizeValue s = s := by
      apply sanitizeValue_escapes
      rw [empty]
      decide
    rw [← same, empty]
  · rintro rfl
    exact sanitizeValue_plain (List.all_eq_true.mp (by decide))
theorem present_sanitizeValue (given : Option String) :
    present (given.map sanitizeValue) = (present given).map sanitizeValue := by
  cases given with
  | none => rfl
  | some s =>
    by_cases empty : s = ""
    · simp [present, Option.filter_some, empty, sanitizeValue_eq_empty]
    · simp [present, Option.filter_some, empty, sanitizeValue_eq_empty]

/-! ### The texts that are saved last -/

/-- Texts by id after the request of one: a new one, another for the one that a request names, none. -/
def created (ids : List String) (text : String) (saved : String → Option String) (id : String) : Option String :=
  if id = generateUUIDv4 ids then some text else saved id
def changed (named : String) (text : Option String) (saved : String → Option String) (id : String) : Option String :=
  if toUUID named = some id then (saved id).map (text.getD ·) else saved id
def removed (named : String) (saved : String → Option String) (id : String) : Option String :=
  if toUUID named = some id then none else saved id

/-- A text that an insert, which stores the sanitized text, does not change. -/
def Unescaped (text : String) : Prop := ∀ c ∈ text.toList, Plain c
/-- A text that an update, whose literal is read, does not change. -/
def ReadBack (text : String) : Prop := ∀ c ∈ text.toList, Faithful c

section
variable {Column : Type} [DecidableEq Column] {table : Table Column} {saved : String → Option String}
  (view : (Column → String) → String)

omit [DecidableEq Column] in
theorem insert_agrees (agrees : ∀ id, (table.find id).map (fun row => view row.cells) = saved id) (cells : Column → String) {text : String}
    (stored : view cells = text) (id : String) :
    ((table.insert cells).find id).map (fun row => view row.cells) = created (table.rows.map (·.id)) text saved id := by
  rw [Table.find_insert, created]
  by_cases isNew : id = generateUUIDv4 (table.rows.map (·.id))
  · rw [if_pos isNew, if_pos isNew, ← stored]
    rfl
  · rw [if_neg isNew, if_neg isNew, agrees]
theorem update_agrees (agrees : ∀ id, (table.find id).map (fun row => view row.cells) = saved id) {named key : String}
    (isKey : toUUID key = some named) {settings : List (Column × String)} {text : Option String}
    (stored : ∀ row, table.find named = some row → view (row.set settings).cells = text.getD (view row.cells)) (id : String) :
    ((table.update named settings).find id).map (fun row => view row.cells) = changed key text saved id := by
  rw [Table.find_update, changed, isKey, Option.map_map]
  by_cases isNamed : id = named
  · subst isNamed
    rw [if_pos rfl, ← agrees, Option.map_map]
    cases found : table.find id with
    | none => rfl
    | some row => simp [Table.find_id found, stored row found]
  · have other : ¬ some named = some id := fun same => isNamed (Option.some.inj same).symm
    rw [if_neg other, ← agrees]
    cases found : table.find id with
    | none => rfl
    | some row => simp [Table.find_id found, isNamed]
omit [DecidableEq Column] in
theorem remove_agrees (agrees : ∀ id, (table.find id).map (fun row => view row.cells) = saved id) {named key : String}
    (isKey : toUUID key = some named) (id : String) :
    ((table.remove named).find id).map (fun row => view row.cells) = removed key saved id := by
  rw [Table.find_remove, removed, isKey]
  by_cases isNamed : id = named
  · rw [if_pos isNamed, if_pos (congrArg some isNamed.symm), Option.map_none]
  · rw [if_neg isNamed, if_neg fun same => isNamed (Option.some.inj same).symm, agrees]

end

/-- A text that is given and read back is what an update stores, and one that is not given stays. -/
theorem stored_text {given : Option String} {old : String} (back : ∀ text ∈ given, ReadBack text)
    (filled : ∀ text ∈ given, text = "" → old = "") :
    ((present given).map fun text => valueOf (sanitizeValue text)).getD old = given.getD old := by
  cases given with
  | none => rfl
  | some text =>
    by_cases empty : text = ""
    · simp [present, Option.filter_some, empty, filled text rfl empty]
    · simp [present, Option.filter_some, empty, valueOf_sanitizeValue_iff.mpr (back text rfl)]

end

/-! ### The letters of `sqlstring` and of ClickHouse -/

def sqlstringLetters : List (Char × Char) :=
  [('\x00', '0'), ('\x08', 'b'), ('\t', 't'), ('\n', 'n'), ('\r', 'r'), ('\x1a', 'Z'), ('"', '"'), ('\'', '\''),
    ('\\', '\\')]
def clickHouseLetters : List (Char × Char) :=
  [('0', '\x00'), ('b', '\x08'), ('t', '\t'), ('n', '\n'), ('r', '\r'), ('a', '\x07'), ('v', '\x0b'), ('f', '\x0c'),
    ('e', '\x1b'), ('"', '"'), ('\'', '\''), ('\\', '\\'), ('\x60', '\x60'), ('/', '/'), ('=', '=')]
/-- After `x` bytes are read and after `N` a null, and a letter that is not known keeps its backslash. -/
def clickHouseReading (l : Char) : Option (List Char) :=
  if l = 'x' ∨ l = 'N' then none
  else some (((clickHouseLetters.lookup l).map ([·])).getD ['\\', l])

@[reducible] def sqlstringEscapes : Escapes where
  letter c := sqlstringLetters.lookup c
  reading := clickHouseReading
  letter_quote := by decide
  letter_backslash := by decide
  reading_quote := by decide
  reading_backslash := by decide
  reading_letter {c l} written := by
    have all : ∀ pair ∈ sqlstringLetters,
        clickHouseReading pair.2 = some [pair.1] ∨ clickHouseReading pair.2 = some ['\\', pair.2] := by decide
    exact all (c, l) (Lookups.mem_of_lookup written)

@[reducible] def sqlstringPlatform : Platform where
  toEscapes := sqlstringEscapes
  sanitizeValue s := String.ofList (@escape sqlstringEscapes s.toList)
  toUUID := RuleLinkSync.plainStorage.toUUID
  rejection := RuleLinkSync.plainStorage.rejection
  generateUUIDv4 := RuleLinkSync.plainStorage.generateUUIDv4
  sanitizeValue_plain {s} plain := by
    have letters : ∀ c ∈ s.toList, @Plain sqlstringEscapes c := by
      intro c inside
      by_contra written
      obtain ⟨l, written⟩ := Option.ne_none_iff_exists'.mp written
      have others : ∀ pair ∈ sqlstringLetters, isPlain pair.1 = false := by decide
      have other := others (c, l) (Lookups.mem_of_lookup written)
      rw [plain c inside] at other
      exact nomatch other
    rw [(@escape_eq_self_iff sqlstringEscapes _).mpr letters, String.ofList_toList]
  sanitizeValue_escapes {s} straight := by
    rw [String.toList_ofList] at straight
    rw [(@escape_eq_self_iff sqlstringEscapes _).mpr (@plain_of_straight sqlstringEscapes _ straight), String.ofList_toList]
  toUUID_stable := RuleLinkSync.plainStorage.toUUID_stable
  toUUID_plain := RuleLinkSync.plainStorage.toUUID_plain
  generated_new := RuleLinkSync.plainStorage.generated_new
  generated_read := RuleLinkSync.plainStorage.generated_read
  sanitizeValue_escape _ := rfl
  letter_newline := by decide
  toUUID_text {s id} parsed := by
    change (if s.toList.all isPlain = true then some s else none) = some id at parsed
    split at parsed
    · next plain => exact List.all_eq_true.mp plain
    · exact nomatch parsed
  unread _ _ := throw "Syntax error"

end Openlit.ClickHouse
