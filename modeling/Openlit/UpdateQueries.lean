import Mathlib.Data.List.ReduceOption
import Openlit.Boards
import Openlit.Prompts
import Openlit.QuotedValues
import Openlit.Vault

/-!
The queries that update versions of prompts (`prompt/version.ts`), boards
(`manage-dashboard/board.ts`) and secrets (`vault/index.ts`), compared with the
updates that are asked for: the columns with the values that the caller gives.
-/
namespace Openlit.UpdateQueries
open Openlit.Boards Openlit.ClickHouse Openlit.JsonParse Openlit.JsonText Openlit.Lexemes Openlit.Literals Openlit.QuotedValues
open Openlit.RuleLinks Openlit.Text
open Storage
attribute [local instance] sqlstringPlatform

/-! ### Updates of columns -/

/-- `column = 'text'` or `column = NULL`. -/
def assignmentText : String × Option String → String
  | (column, some text) => column ++ " = '" ++ text ++ "'"
  | (column, none) => column ++ " = NULL"
def code (text : String) : List Lexeme := text.toList.map .code
def assignmentLexemes : String × Option String → List Lexeme
  | (column, some value) => code (column ++ " = ") ++ [.literal value.toList]
  | (column, none) => code (column ++ " = NULL")

/-- The text around the assignments of an update and the key of its row. -/
structure Frame where
  header : String
  footer : String
  tail : String
  nonempty : footer.toList ≠ []
  isCode : (header.toList ++ footer.toList ++ tail.toList).all isCode = true

def Frame.query (frame : Frame) (assigned : List (String × Option String)) (id : String) : String :=
  frame.header ++ " , ".intercalate (assigned.map assignmentText) ++ frame.footer ++ "'" ++ id ++ "'" ++ frame.tail
/-- The text of a frame as a template has it. -/
theorem Frame.query_eq (frame : Frame) {header opening closing : String} (isHeader : frame.header = header)
    (isOpening : opening = frame.footer ++ "'") (isClosing : closing = "'" ++ frame.tail) (assigned : List (String × Option String))
    (id : String) :
    header ++ " , ".intercalate (assigned.map assignmentText) ++ opening ++ id ++ closing = frame.query assigned id := by
  rw [Frame.query, isHeader, isOpening, isClosing]
  simp only [String.append_assoc]
/-- What the query of an update that sets columns to values is read as. -/
def Frame.lexemes (frame : Frame) (assigned : List (String × Option String)) (id : String) : List Lexeme :=
  code frame.header ++ (code " , ").intercalate (assigned.map assignmentLexemes) ++ code frame.footer ++
    [.literal id.toList] ++ code frame.tail

def pieces : String × Option Quoted → List Piece
  | (column, some quoted) => [.code (column ++ " = ").toList, .literal quoted]
  | (column, none) => [.code (column ++ " = NULL").toList]
def separated : List (String × Option Quoted) → List Piece
  | [] => []
  | [item] => pieces item
  | item :: next :: items => pieces item ++ .code " , ".toList :: separated (next :: items)
def Frame.pieces (frame : Frame) (items : List (String × Option Quoted)) (key : Quoted) : List Piece :=
  .code frame.header.toList :: (separated items ++ [.code frame.footer.toList, .literal key, .code frame.tail.toList])

def bodyOf (item : String × Option Quoted) : String × Option String := (item.1, item.2.map fun q => String.ofList q.body)
def valueOf (item : String × Option Quoted) : String × Option String := (item.1, item.2.map fun q => String.ofList q.value)

theorem textOf_pieces (item : String × Option Quoted) : textOf (pieces item) = (assignmentText (bodyOf item)).toList := by
  obtain ⟨column, _ | quoted⟩ := item
  · simp [pieces, textOf, Piece.text, assignmentText, bodyOf]
  · have opening : " = '".toList = " = ".toList ++ ['\''] := by decide
    have closing : "'".toList = ['\''] := by decide
    simp [pieces, textOf, Piece.text, assignmentText, bodyOf, opening, closing]
theorem lexemesOf_pieces (item : String × Option Quoted) : lexemesOf (pieces item) = assignmentLexemes (valueOf item) := by
  obtain ⟨column, _ | quoted⟩ := item <;> simp [pieces, lexemesOf, Piece.lexemes, assignmentLexemes, valueOf, code]

theorem textOf_separated (items : List (String × Option Quoted)) :
    textOf (separated items) = (" , ".intercalate ((items.map bodyOf).map assignmentText)).toList := by
  fun_induction separated items with
  | case1 => rfl
  | case2 item => simp [textOf_pieces]
  | case3 item next items ih =>
    rw [textOf_append, textOf_code, ih, textOf_pieces]
    simp [String.intercalate_cons_cons]
theorem lexemesOf_separated (items : List (String × Option Quoted)) :
    lexemesOf (separated items) = (code " , ").intercalate ((items.map valueOf).map assignmentLexemes) := by
  fun_induction separated items with
  | case1 => rfl
  | case2 item => simp [lexemesOf_pieces, List.intercalate]
  | case3 item next items ih =>
    rw [lexemesOf_append, lexemesOf_code, ih, lexemesOf_pieces]
    simp [List.intercalate, code]

theorem sound_pieces (item : String × Option Quoted) :
    (∀ piece ∈ pieces item, piece.Sound) ↔ ∀ quoted ∈ item.2, quoted.condition := by
  obtain ⟨column, _ | quoted⟩ := item <;> simp [pieces, Piece.Sound]

theorem sound_separated (items : List (String × Option Quoted)) :
    (∀ piece ∈ separated items, piece.Sound) ↔ ∀ item ∈ items, ∀ quoted ∈ item.2, quoted.condition := by
  fun_induction separated items with
  | case1 => simp
  | case2 item => simpa using sound_pieces item
  | case3 item next items ih =>
    rw [List.forall_mem_append, List.forall_mem_cons, ih, List.forall_mem_cons, sound_pieces]
    simp [Piece.Sound]

/-- The columns of assignments are code. -/
def Columns (items : List (String × Option Quoted)) : Prop := ∀ item ∈ items, item.1.toList.all isCode = true

theorem apart_pieces {item : String × Option Quoted} (column : item.1.toList.all isCode = true) : Apart (pieces item) := by
  obtain ⟨column', _ | quoted⟩ := item
  · refine ⟨isCode_of_all ?_, trivial⟩
    rw [String.toList_append, List.all_append, column]
    decide
  · refine ⟨isCode_of_all ?_, unquoted_nil, trivial⟩
    rw [String.toList_append, List.all_append, column]
    decide
theorem apart_separated {items : List (String × Option Quoted)} (columns : Columns items) : Apart (separated items) := by
  fun_induction separated items with
  | case1 => trivial
  | case2 item => exact apart_pieces (columns item List.mem_cons_self)
  | case3 item next items ih =>
    obtain ⟨first, others⟩ := List.forall_mem_cons.mp columns
    refine (apart_pieces first).append ⟨isCode_of_all (by decide), ih others⟩ ?_
    exact unquoted_code (by decide) (by decide) _

/-- A query of quoted values sets the columns to the values exactly when each is quoted so that it is kept. -/
theorem Frame.outside_query_iff (frame : Frame) {items : List (String × Option Quoted)} (columns : Columns items) (key : Quoted) :
    outside (frame.query (items.map bodyOf) (String.ofList key.body)).toList =
        some (frame.lexemes (items.map valueOf) (String.ofList key.value)) ↔
      (∀ item ∈ items, ∀ quoted ∈ item.2, quoted.condition) ∧ key.condition := by
  have isCode := frame.isCode
  rw [List.all_append, List.all_append, Bool.and_eq_true, Bool.and_eq_true] at isCode
  obtain ⟨⟨header, footer⟩, tail⟩ := isCode
  have text : (frame.query (items.map bodyOf) (String.ofList key.body)).toList = textOf (frame.pieces items key) := by
    have quote : "'".toList = ['\''] := by decide
    rw [Frame.pieces, textOf_code, textOf_append, textOf_separated]
    simp [Frame.query, textOf, Piece.text, quote]
  have lexemes : frame.lexemes (items.map valueOf) (String.ofList key.value) = lexemesOf (frame.pieces items key) := by
    rw [Frame.pieces, lexemesOf_code, lexemesOf_append, lexemesOf_separated]
    simp [Frame.lexemes, lexemesOf, Piece.lexemes, code]
  have apart : Apart (frame.pieces items key) := by
    refine ⟨isCode_of_all header, (apart_separated columns).append ?_ (unquoted_code frame.nonempty footer _)⟩
    refine ⟨isCode_of_all footer, ?_, isCode_of_all tail, trivial⟩
    rw [textOf_code]
    exact Unquoted.append (unquoted_of_all tail) unquoted_nil
  have sound : (∀ piece ∈ frame.pieces items key, piece.Sound) ↔
      (∀ item ∈ items, ∀ quoted ∈ item.2, quoted.condition) ∧ key.condition := by
    rw [Frame.pieces, List.forall_mem_cons, List.forall_mem_append, sound_separated]
    simp [Piece.Sound]
  rw [text, lexemes, outside_textOf_iff apart, sound]

/-! ### Boards -/

/-- The fields of `Board & \x7b updateParent?: boolean \x7d` that an update reads. -/
structure BoardUpdate where
  id : String
  title : Option String := none
  description : Option String := none
  parentId : Option String := none
  updateParent : Bool := false
  tags : Option Json := none

def BoardUpdate.sanitizeObject (board : BoardUpdate) : BoardUpdate :=
  { id := sanitizeValue board.id
    title := board.title.map sanitizeValue
    description := board.description.map sanitizeValue
    parentId := board.parentId.map sanitizeValue
    updateParent := board.updateParent
    tags := board.tags.map sanitizeField }

/-- The texts of `updateValues` that are not falsy, by their columns. -/
def boardValues (board : BoardUpdate) : List (String × Option String) :=
  [(present board.title).map ("title", some ·),
    (present board.description).map ("description", some ·),
    if board.updateParent then some ("parent_id", present board.parentId) else none,
    (board.tags.filter truthy).map fun tags => ("tags", some (jsonStringify tags))].reduceOption
/-- The query of `updateBoard`. -/
def boardQuery (board : BoardUpdate) : String :=
  "\n\t\tALTER TABLE openlit_board\n\t\tUPDATE \n\t\t\t" ++ " , ".intercalate ((boardValues board).map assignmentText) ++
    "\n\t\tWHERE id = '" ++ board.id ++ "'\n\t"

/-! ### The updates -/

inductive Update
  | promptVersion (email : String) (params : Prompts.PromptUpdate)
    (numbered : ∀ properties, params.metaProperties = some properties → ValidFields properties)
  | board (params : BoardUpdate) (numbered : ∀ tags, params.tags = some tags → Valid tags)
  | secret (email : String) (params : Vault.SecretInput)

/-- The query that is sent. -/
def Update.query : Update → String
  | .promptVersion email params _ => Prompts.updateQuery email params.sanitizeObject
  | .board params _ => boardQuery params.sanitizeObject
  | .secret email params => Vault.updateQuery email params.sanitizeObject

/-- The columns that are set, with the values that the caller gives for them. -/
def Update.assigned : Update → List (String × Option String)
  | .promptVersion email params _ =>
    [some ("updated_by", some email),
      (present params.version).map ("version", some ·),
      (present params.status).map ("status", some ·),
      (present params.prompt).map ("prompt", some ·),
      params.tags.map fun tags => ("tags", some (Prompts.jsonTags tags)),
      params.metaProperties.map fun properties => ("meta_properties", some (Prompts.jsonProperties properties))].reduceOption
  | .board params _ =>
    [(present params.title).map ("title", some ·),
      (present params.description).map ("description", some ·),
      if params.updateParent then some ("parent_id", present params.parentId) else none,
      (params.tags.filter fun tags => truthy (sanitizeField tags)).map fun tags => ("tags", some (jsonStringify tags))].reduceOption
  | .secret email params =>
    [some ("updated_by", some email),
      (present params.key).map ("key", some ·),
      (present params.value).map ("value", some ·),
      params.tags.map fun tags => ("tags", some (Vault.jsonTags tags))].reduceOption
def Update.id : Update → String
  | .promptVersion _ params _ => params.versionId.getD ""
  | .board params _ => params.id
  | .secret _ params => params.id.getD ""

def versionFrame : Frame where
  header := "\n      ALTER TABLE openlit_prompt_versions\n      UPDATE \n        "
  footer := "\n      WHERE version_id = "
  tail := ""
  nonempty := by decide
  isCode := by decide
def boardFrame : Frame where
  header := "\n\t\tALTER TABLE openlit_board\n\t\tUPDATE \n\t\t\t"
  footer := "\n\t\tWHERE id = "
  tail := "\n\t"
  nonempty := by decide
  isCode := by decide
def secretFrame : Frame where
  header := "\n      ALTER TABLE openlit_vault\n      UPDATE \n        "
  footer := "\n      WHERE id = "
  tail := ""
  nonempty := by decide
  isCode := by decide
/-- The text of an update around what it sets. -/
def Update.frame : Update → Frame
  | .promptVersion .. => versionFrame
  | .board .. => boardFrame
  | .secret .. => secretFrame

/-- The query is read as one statement that sets some columns to the values that the caller gives. -/
def Update.IsRead (update : Update) : Prop :=
  update.assigned ≠ [] ∧ outside update.query.toList = some (update.frame.lexemes update.assigned update.id)

/-- A text without the character whose escape ClickHouse does not know. -/
def Escapable (text : String) : Prop := '\x1a' ∉ text.toList
/-- A tag that is kept through the sanitizer, `JSON.stringify` and ClickHouse. -/
def Taggable (tag : String) : Prop := ∀ c ∈ tag.toList, c ∉ alteredInText

/-- The updates that are read as they are meant. The email has no quotes, and its backslashes are kept. -/
def Update.Sound : Update → Prop
  | .promptVersion email params _ =>
    verbatim email.toList = true ∧
      (∀ text ∈ [params.version, params.status, params.prompt, params.versionId].reduceOption, Escapable text) ∧
      (∀ tags ∈ params.tags, ∀ tag ∈ tags, Taggable tag) ∧ ∀ properties ∈ params.metaProperties, survivesFields properties = true
  | .board params _ =>
    ((present params.title).isSome ∨ (present params.description).isSome ∨ params.updateParent = true ∨
        ∃ tags ∈ params.tags, truthy (sanitizeField tags) = true) ∧
      (∀ text ∈ [params.title, params.description, some params.id].reduceOption, Escapable text) ∧
      (params.updateParent = true → ∀ parentId ∈ params.parentId, Escapable parentId) ∧
      ∀ tags ∈ params.tags, truthy (sanitizeField tags) = true → survives tags = true
  | .secret email params =>
    verbatim email.toList = true ∧ (∀ text ∈ [params.key, params.value, params.id].reduceOption, Escapable text) ∧
      ∀ tags ∈ params.tags, ∀ tag ∈ tags, Taggable tag

/-! ### The updates of quoted values -/

/-- A column that is set to the JSON text of a value, if it is given. -/
def jsonItem (column : String) (given : Option Json) (numbered : ∀ value, given = some value → Valid value) :
    Option (String × Option Quoted) :=
  given.pmap (fun value valid => (column, some (jsonLiteral value valid))) numbered
/-- A column that is set to the sanitized text, if it is given and not empty. -/
def textItem (column : String) (given : Option String) : Option (String × Option Quoted) :=
  (present given).map fun text => (column, some (sanitizedLiteral text))

/-- The parent of a board, if it is updated. -/
def parentItem (updateParent : Bool) (parentId : Option String) : Option (String × Option Quoted) :=
  if updateParent then some ("parent_id", (present parentId).map sanitizedLiteral) else none

def textArray (tags : List String) : Json := .array (tags.map .string)

theorem valid_textArray (tags : List String) : Valid (textArray tags) := by
  change ValidItems (tags.map .string)
  induction tags with
  | nil => trivial
  | cons tag tags ih => exact ⟨trivial, ih⟩
theorem sanitizeField_textArray (tags : List String) : sanitizeField (textArray tags) = textArray (tags.map sanitizeValue) := by
  change Json.array (sanitizeItems (tags.map .string)) = .array ((tags.map sanitizeValue).map .string)
  refine congrArg Json.array ?_
  induction tags with
  | nil => rfl
  | cons tag tags ih => simp [sanitizeItems, ih]
theorem survives_textArray (tags : List String) : survives (textArray tags) = true ↔ ∀ tag ∈ tags, Taggable tag := by
  change survivesItems (tags.map .string) = true ↔ _
  induction tags with
  | nil => simp [survivesItems]
  | cons tag tags ih => simp [survivesItems, survives, ih, Taggable]
theorem numbered_textArray {given : Option (List String)} (value : Json) (isGiven : given.map textArray = some value) :
    Valid value := by
  obtain ⟨tags, -, rfl⟩ := Option.map_eq_some_iff.mp isGiven
  exact valid_textArray tags

theorem jsonItem_value {column : String} {given : Option Json} (numbered : ∀ value, given = some value → Valid value) :
    (jsonItem column given numbered).map valueOf = given.map fun value => (column, some (jsonStringify value)) := by
  cases given <;> rfl
theorem jsonItem_body {column : String} {given : Option Json} (numbered : ∀ value, given = some value → Valid value) :
    (jsonItem column given numbered).map bodyOf = given.map fun value => (column, some (jsonStringify (sanitizeField value))) := by
  cases given <;> rfl
theorem textItem_value (column : String) (given : Option String) :
    (textItem column given).map valueOf = (present given).map fun text => (column, some text) := by
  have same : valueOf ∘ (fun text => (column, some (sanitizedLiteral text))) = fun text => (column, some text) := by
    funext text
    simp [valueOf, sanitizedLiteral]
  rw [textItem, Option.map_map, same]
theorem textItem_body (column : String) (given : Option String) :
    (textItem column given).map bodyOf = (present (given.map sanitizeValue)).map fun text => (column, some text) := by
  have same : bodyOf ∘ (fun text => (column, some (sanitizedLiteral text))) =
      (fun text => (column, some text)) ∘ sanitizeValue := by
    funext text
    simp [bodyOf, sanitizedLiteral]
  rw [textItem, present_sanitizeValue, Option.map_map, Option.map_map, same]

theorem parentItem_value (updateParent : Bool) (parentId : Option String) :
    (parentItem updateParent parentId).map valueOf = if updateParent then some ("parent_id", present parentId) else none := by
  cases updateParent with
  | false => rfl
  | true => cases given : present parentId <;> simp [parentItem, valueOf, sanitizedLiteral, given]
theorem parentItem_body (updateParent : Bool) (parentId : Option String) :
    (parentItem updateParent parentId).map bodyOf =
      if updateParent then some ("parent_id", present (parentId.map sanitizeValue)) else none := by
  rw [present_sanitizeValue]
  cases updateParent with
  | false => rfl
  | true => cases given : present parentId <;> simp [parentItem, bodyOf, sanitizedLiteral, given]

def Update.items : Update → List (String × Option Quoted)
  | .promptVersion email params numbered =>
    [some ("updated_by", some (plainLiteral email)), textItem "version" params.version, textItem "status" params.status,
      textItem "prompt" params.prompt, jsonItem "tags" (params.tags.map textArray) numbered_textArray,
      jsonItem "meta_properties" (params.metaProperties.map .object) fun _ isGiven =>
        have ⟨properties, given, same⟩ := Option.map_eq_some_iff.mp isGiven
        same ▸ numbered properties given].reduceOption
  | .board params numbered =>
    [textItem "title" params.title, textItem "description" params.description,
      parentItem params.updateParent params.parentId,
      jsonItem "tags" (params.tags.filter fun tags => truthy (sanitizeField tags)) fun tags given =>
        numbered tags (Option.filter_eq_some_iff.mp given).1].reduceOption
  | .secret email params =>
    [some ("updated_by", some (plainLiteral email)), textItem "key" params.key, textItem "value" params.value,
      jsonItem "tags" (params.tags.map textArray) numbered_textArray].reduceOption

theorem Update.assigned_eq (update : Update) : update.assigned = update.items.map valueOf := by
  have email : ∀ text : String, valueOf ("updated_by", some (plainLiteral text)) = ("updated_by", some text) := by
    simp [valueOf, plainLiteral]
  cases update with
  | promptVersion emailText params numbered =>
    rw [Update.assigned, Update.items, ← List.reduceOption_map]
    simp only [List.map_cons, List.map_nil, Option.map_some, email, textItem_value, jsonItem_value, Option.map_map]
    rfl
  | board params numbered =>
    rw [Update.assigned, Update.items, ← List.reduceOption_map]
    simp only [List.map_cons, List.map_nil, textItem_value, parentItem_value, jsonItem_value]
  | secret emailText params =>
    rw [Update.assigned, Update.items, ← List.reduceOption_map]
    simp only [List.map_cons, List.map_nil, Option.map_some, email, textItem_value, jsonItem_value, Option.map_map]
    rfl

theorem sanitizeValue_getD (given : Option String) : (given.map sanitizeValue).getD "" = sanitizeValue (given.getD "") := by
  cases given with
  | none => exact (sanitizeValue_eq_empty.mpr rfl).symm
  | some text => rfl
theorem sanitizedLiteral_body (text : String) : String.ofList (sanitizedLiteral text).body = sanitizeValue text :=
  String.ofList_toList

theorem emailItem_body (text : String) : bodyOf ("updated_by", some (plainLiteral text)) = ("updated_by", some text) := by
  simp [bodyOf, plainLiteral]

/-- An assignment of a table by the name of its column. -/
def named {Column : Type} (schema : Schema Column) (item : Column × String) : String × Option String :=
  (String.ofList (schema.name item.1), some item.2)
theorem assignment_named {Column : Type} (schema : Schema Column) (items : List (Column × String)) :
    items.map (assignment schema) = (items.map (named schema)).map assignmentText := by
  rw [List.map_map]
  rfl

theorem named_eq {Column : Type} (schema : Schema Column) (column : Column) {name : String} (isNamed : schema.name column = name.toList)
    (text : String) : named schema (column, text) = (name, some text) := by
  rw [named, isNamed, String.ofList_toList]

/-- The texts of `updateValues`, which the items of an update have. -/
theorem versionTexts (email : String) (params : Prompts.PromptUpdate)
    (numbered : ∀ properties, params.metaProperties = some properties → ValidFields properties) :
    (Prompts.updateValues email params.sanitizeObject).map (named Prompts.versionSchema) =
      (Update.promptVersion email params numbered).items.map bodyOf := by
  have updatedBy := @named_eq _ Prompts.versionSchema .updated_by "updated_by" rfl
  have version := @named_eq _ Prompts.versionSchema .version "version" rfl
  have status := @named_eq _ Prompts.versionSchema .status "status" rfl
  have prompt := @named_eq _ Prompts.versionSchema .prompt "prompt" rfl
  have tags := @named_eq _ Prompts.versionSchema .tags "tags" rfl
  have properties := @named_eq _ Prompts.versionSchema .meta_properties "meta_properties" rfl
  rw [Prompts.updateValues, Update.items, ← List.reduceOption_map, ← List.reduceOption_map]
  simp only [List.map_cons, List.map_nil, Option.map_some, emailItem_body, textItem_body, jsonItem_body,
    Prompts.PromptUpdate.sanitizeObject,
    Option.map_map, Function.comp_def, updatedBy, version, status, prompt, tags, properties, sanitizeField_textArray]
  rfl
theorem secretTexts (email : String) (params : Vault.SecretInput) :
    (Vault.updateValues email params.sanitizeObject).map (named Vault.vaultSchema) =
      (Update.secret email params).items.map bodyOf := by
  have updatedBy := @named_eq _ Vault.vaultSchema .updated_by "updated_by" rfl
  have key := @named_eq _ Vault.vaultSchema .key "key" rfl
  have value := @named_eq _ Vault.vaultSchema .value "value" rfl
  have tags := @named_eq _ Vault.vaultSchema .tags "tags" rfl
  rw [Vault.updateValues, Update.items, ← List.reduceOption_map, ← List.reduceOption_map]
  simp only [List.map_cons, List.map_nil, Option.map_some, emailItem_body, textItem_body, jsonItem_body,
    Vault.SecretInput.sanitizeObject,
    Option.map_map, Function.comp_def, updatedBy, key, value, tags, sanitizeField_textArray]
  rfl
theorem boardTexts (params : BoardUpdate) (numbered : ∀ tags, params.tags = some tags → Valid tags) :
    boardValues params.sanitizeObject = (Update.board params numbered).items.map bodyOf := by
  have tags : (params.tags.map sanitizeField).filter truthy =
      (params.tags.filter fun tags => truthy (sanitizeField tags)).map sanitizeField := by
    cases params.tags with
    | none => rfl
    | some tags => by_cases kept : truthy (sanitizeField tags) = true <;> simp [Option.filter_some, kept]
  rw [boardValues, Update.items, ← List.reduceOption_map]
  simp only [List.map_cons, List.map_nil, textItem_body, parentItem_body, jsonItem_body, BoardUpdate.sanitizeObject, tags,
    Option.map_map]
  rfl

theorem versionQuery_eq (email : String) (input : Prompts.PromptUpdate) :
    Prompts.updateQuery email input =
      versionFrame.query ((Prompts.updateValues email input).map (named Prompts.versionSchema)) (input.versionId.getD "") := by
  have framed := versionFrame.query_eq rfl (by decide : "\n      WHERE version_id = '" = _) (by decide : "'" = _)
    ((Prompts.updateValues email input).map (named Prompts.versionSchema)) (input.versionId.getD "")
  rw [← assignment_named] at framed
  unfold Prompts.updateQuery
  exact framed
theorem secretQuery_eq (email : String) (input : Vault.SecretInput) :
    Vault.updateQuery email input =
      secretFrame.query ((Vault.updateValues email input).map (named Vault.vaultSchema)) (input.id.getD "") := by
  have framed := secretFrame.query_eq rfl (by decide : "\n      WHERE id = '" = _) (by decide : "'" = _)
    ((Vault.updateValues email input).map (named Vault.vaultSchema)) (input.id.getD "")
  rw [← assignment_named] at framed
  unfold Vault.updateQuery
  exact framed
theorem boardQuery_eq (board : BoardUpdate) : boardQuery board = boardFrame.query (boardValues board) board.id :=
  boardFrame.query_eq rfl (by decide) (by decide) _ _

/-- The query quotes the items. -/
theorem Update.query_eq (update : Update) :
    update.query = update.frame.query (update.items.map bodyOf) (String.ofList (sanitizedLiteral update.id).body) := by
  rw [sanitizedLiteral_body]
  cases update with
  | promptVersion email params numbered =>
    have quoted := versionQuery_eq email params.sanitizeObject
    rw [versionTexts email params numbered] at quoted
    exact quoted.trans (congrArg (versionFrame.query _) (sanitizeValue_getD params.versionId))
  | board params numbered =>
    have quoted := boardQuery_eq params.sanitizeObject
    rw [boardTexts params numbered] at quoted
    exact quoted
  | secret email params =>
    have quoted := secretQuery_eq email params.sanitizeObject
    rw [secretTexts email params] at quoted
    exact quoted.trans (congrArg (secretFrame.query _) (sanitizeValue_getD params.id))

/-! ### When the values are kept -/

theorem forall_reduceOption {α : Type} {l : List (Option α)} {p : α → Prop} :
    (∀ a ∈ l.reduceOption, p a) ↔ ∀ given ∈ l, ∀ a ∈ given, p a := by
  simp only [List.reduceOption_mem_iff]
  constructor
  · rintro each _ inside a rfl
    exact each a inside
  · intro each a inside
    exact each (some a) inside a rfl

/-- The values of an item are kept. -/
def Kept (given : Option (String × Option Quoted)) : Prop := ∀ item ∈ given, ∀ quoted ∈ item.2, quoted.condition

theorem kept_textItem (column : String) (given : Option String) : Kept (textItem column given) ↔ ∀ text ∈ given, Escapable text := by
  cases given with
  | none => simp [Kept, textItem, present]
  | some text =>
    by_cases empty : text = ""
    · subst empty
      simp [Kept, textItem, present, Option.filter_some, Escapable]
    · simp [Kept, textItem, present, Option.filter_some, empty, Escapable, sanitizedLiteral]
theorem kept_parentItem (updateParent : Bool) (parentId : Option String) :
    Kept (parentItem updateParent parentId) ↔ (updateParent = true → ∀ text ∈ parentId, Escapable text) := by
  cases updateParent with
  | false => simp [Kept, parentItem]
  | true =>
    rw [← kept_textItem "parent_id" parentId]
    simp [Kept, parentItem, textItem]
theorem kept_jsonItem {column : String} {given : Option Json} (numbered : ∀ value, given = some value → Valid value) :
    Kept (jsonItem column given numbered) ↔ ∀ value ∈ given, survives value = true := by
  cases given <;> simp [Kept, jsonItem, jsonLiteral]
theorem kept_tags (tags : Option (List String)) :
    Kept (jsonItem "tags" (tags.map textArray) numbered_textArray) ↔ ∀ given ∈ tags, ∀ tag ∈ given, Taggable tag := by
  rw [kept_jsonItem]
  cases tags <;> simp [survives_textArray]
theorem kept_email (email : String) : Kept (some ("updated_by", some (plainLiteral email))) ↔ verbatim email.toList = true := by
  simp [Kept, plainLiteral]

theorem Update.columns (update : Update) : Columns update.items := by
  have text : ∀ (column : String) (given : Option String), column.toList.all isCode = true →
      ∀ item ∈ textItem column given, item.1.toList.all isCode = true := by
    intro column given isCode item inside
    obtain ⟨_, -, rfl⟩ := Option.map_eq_some_iff.mp inside
    exact isCode
  have json : ∀ (column : String) {given : Option Json} (numbered : ∀ value, given = some value → Valid value),
      column.toList.all isCode = true → ∀ item ∈ jsonItem column given numbered, item.1.toList.all isCode = true := by
    intro column given numbered isCode item inside
    cases given with
    | none => exact nomatch inside
    | some value =>
      obtain rfl := Option.some.inj inside
      exact isCode
  have parent : ∀ (updateParent : Bool) (parentId : Option String), ∀ item ∈ parentItem updateParent parentId,
      item.1.toList.all isCode = true := by
    intro updateParent parentId item inside
    cases updateParent with
    | false => exact nomatch inside
    | true =>
      obtain rfl := Option.some.inj inside
      exact (by decide : "parent_id".toList.all isCode = true)
  have email : ∀ text : String, ∀ item ∈ some ("updated_by", some (plainLiteral text)), item.1.toList.all isCode = true := by
    rintro text item inside
    obtain rfl := Option.some.inj inside
    exact (by decide : "updated_by".toList.all isCode = true)
  rw [Columns]
  cases update with
  | promptVersion emailText params numbered =>
    rw [Update.items, forall_reduceOption]
    simp only [List.forall_mem_cons]
    exact ⟨email _, text _ _ (by decide), text _ _ (by decide), text _ _ (by decide), json _ _ (by decide), json _ _ (by decide), nofun⟩
  | board params numbered =>
    rw [Update.items, forall_reduceOption]
    simp only [List.forall_mem_cons]
    exact ⟨text _ _ (by decide), text _ _ (by decide), parent _ _, json _ _ (by decide), nofun⟩
  | secret emailText params =>
    rw [Update.items, forall_reduceOption]
    simp only [List.forall_mem_cons]
    exact ⟨email _, text _ _ (by decide), text _ _ (by decide), json _ _ (by decide), nofun⟩

theorem kept_all {l : List (Option (String × Option Quoted))} :
    (∀ item ∈ l.reduceOption, ∀ quoted ∈ item.2, quoted.condition) ↔ ∀ given ∈ l, Kept given := forall_reduceOption
theorem escapable_getD (given : Option String) : Escapable (given.getD "") ↔ ∀ text ∈ given, Escapable text := by
  cases given <;> simp [Escapable]
theorem kept_properties {given : Option Prompts.Properties}
    (numbered : ∀ value, given.map Json.object = some value → Valid value) :
    Kept (jsonItem "meta_properties" (given.map Json.object) numbered) ↔ ∀ properties ∈ given, survivesFields properties = true := by
  rw [kept_jsonItem]
  cases given <;> simp [survives]
theorem kept_filtered {p : Json → Bool} {given : Option Json} (numbered : ∀ value, given.filter p = some value → Valid value) :
    Kept (jsonItem "tags" (given.filter p) numbered) ↔ ∀ value ∈ given, p value = true → survives value = true := by
  rw [kept_jsonItem]
  cases given with
  | none => simp
  | some value => by_cases passes : p value = true <;> simp [Option.filter_some, passes]

theorem reduceOption_ne_nil {α : Type} {l : List (Option α)} : l.reduceOption ≠ [] ↔ ∃ given ∈ l, given.isSome = true := by
  induction l with
  | nil => simp
  | cons given l ih => cases given <;> simp [ih]
theorem assigned_board {params : BoardUpdate} {numbered : ∀ tags, params.tags = some tags → Valid tags} :
    (Update.board params numbered).assigned ≠ [] ↔
      (present params.title).isSome ∨ (present params.description).isSome ∨ params.updateParent = true ∨
        ∃ tags ∈ params.tags, truthy (sanitizeField tags) = true := by
  have tags : (params.tags.filter fun tags => truthy (sanitizeField tags)).isSome = true ↔
      ∃ tags ∈ params.tags, truthy (sanitizeField tags) = true := by
    rw [Option.isSome_iff_exists]
    simp only [Option.filter_eq_some_iff, Option.mem_def]
  rw [Update.assigned, reduceOption_ne_nil]
  simp only [List.exists_mem_cons_iff, Option.isSome_map, tags, List.not_mem_nil, false_and, exists_false, or_false]
  cases params.updateParent <;> simp

theorem kept_items (update : Update) :
    ((∀ item ∈ update.items, ∀ quoted ∈ item.2, quoted.condition) ∧ Escapable update.id) ∧ update.assigned ≠ [] ↔ update.Sound := by
  cases update with
  | promptVersion email params numbered =>
    have assigned : (Update.promptVersion email params numbered).assigned ≠ [] := by
      simp [Update.assigned]
    rw [and_iff_left assigned, Update.items, kept_all, Update.Sound, Update.id, escapable_getD, forall_reduceOption]
    simp only [List.forall_mem_cons, kept_email, kept_textItem, kept_tags, kept_properties, List.not_mem_nil, false_implies,
      implies_true, and_true]
    tauto
  | board params numbered =>
    rw [assigned_board, Update.items, kept_all, Update.Sound, Update.id, forall_reduceOption]
    simp only [List.forall_mem_cons, kept_textItem, kept_filtered, kept_parentItem, List.not_mem_nil, false_implies, implies_true,
      and_true, Option.mem_def, Option.some.injEq, forall_eq']
    tauto
  | secret email params =>
    have assigned : (Update.secret email params).assigned ≠ [] := by
      simp [Update.assigned]
    rw [and_iff_left assigned, Update.items, kept_all, Update.Sound, Update.id, escapable_getD, forall_reduceOption]
    simp only [List.forall_mem_cons, kept_email, kept_textItem, kept_tags, List.not_mem_nil, false_implies, implies_true, and_true]
    tauto

end Openlit.UpdateQueries
