import Openlit.QuotedValues
import Openlit.Text

/-!
The condition of the queries for traces (`getFilterWhereCondition` of
`helpers/server/platform.ts`), read by ClickHouse, compared with the conditions
that a filter asks for. Dates are the texts that clients send for them.
-/
namespace Openlit.FilterClauses
open Openlit.ClickHouse Openlit.Lexemes Openlit.Literals Openlit.QuotedValues Openlit.Text
attribute [local instance] sqlstringPlatform

/-! ### Filters -/

/-- The keys of `TraceMapping` that the condition is about. -/
inductive TraceMappingKeyType
  | applicationName | environment | provider | type | cost | model | system
  deriving DecidableEq, Repr
def TraceMappingKeyType.path : TraceMappingKeyType → List String
  | .applicationName => ["SpanAttributes", "gen_ai.application_name"]
  | .environment => ["SpanAttributes", "gen_ai.environment"]
  | .provider => ["system"]
  | .type => ["operation.name"]
  | .cost => ["usage.cost"]
  | .model => ["request.model"]
  | .system => ["system"]
/-- `SpanAttributesGenAIPrefix` or `SpanAttributesDBPrefix`. -/
def TraceMappingKeyType.spanPrefix : TraceMappingKeyType → Option String
  | .applicationName | .environment => none
  | .provider | .type | .cost | .model => some "gen_ai"
  | .system => some "db"
def getTraceMappingKeyFullPath (key : TraceMappingKeyType) : String :=
  match key.spanPrefix with
  | none => ".".intercalate key.path
  | some returnString => ".".intercalate [returnString, ".".intercalate key.path]

inductive OPERATION_TYPE
  | llm | vectordb
  deriving DecidableEq, Repr

structure CustomFilter where
  attributeType : String
  key : String
  value : String
/-- The characters of `12.5000000000`, `1e+21` and `Infinity`. -/
def isNumberChar (c : Char) : Bool := c.isAlphanum || c = '.' || c = '+'
/-- A number that is not zero, by the sign and the characters that `toFixed(10)` writes. -/
structure MaxCost where
  negative : Bool
  first : Char
  rest : List Char
  isAlphanum : first.isAlphanum = true
  isNumber : rest.all isNumberChar = true
def MaxCost.toFixed (cost : MaxCost) : String := (if cost.negative then "-" else "") ++ String.ofList (cost.first :: cost.rest)

/-- `selectedConfig`, where a list that is not there is empty. -/
structure SelectedConfig where
  providers : List String := []
  maxCost : Option MaxCost := none
  models : List String := []
  traceTypes : List String := []
  applicationNames : List String := []
  spanNames : List String := []
  environments : List String := []
  customFilters : List CustomFilter := []
/-- A key of the server's own code, `attributes['path']`. -/
structure KeyPath where
  attributes : String
  path : String
  nonempty : attributes.toList ≠ []
  isCode : attributes.toList.all isCode = true
  isVerbatim : verbatim path.toList = true
/-- The filter of a query; the fields after `selectedConfig` are set by the server. -/
structure FilterWhereConditionType where
  start : Option String := none
  «end» : Option String := none
  selectedConfig : Option SelectedConfig := none
  notOrEmpty : List KeyPath := []
  notEmpty : List KeyPath := []
  statusCode : List String := ["STATUS_CODE_OK", "STATUS_CODE_UNSET", "Ok", "Unset"]
  operationType : Option OPERATION_TYPE := none

/-! ### The condition -/

/-- `'${text}'`. -/
def quote (text : String) : String := "'" ++ text ++ "'"
def quoteAll (texts : List String) : String := ", ".intercalate (texts.map quote)
/-- `replace(/'/g, "''")`. -/
def safe (text : String) : String := String.ofList (doubled text.toList)
/-- The characters that are left by `replace(/[^A-Za-z0-9_.]/g, "")`. -/
def isIdentifier (c : Char) : Bool := c.isAlphanum || c = '_' || c = '.'
def identifier (key : String) : String := String.ofList (key.toList.filter isIdentifier)

def attributeAt (attributes path : String) : String := attributes ++ "[" ++ quote path ++ "]"
def KeyPath.key (key : KeyPath) : String := attributeAt key.attributes key.path
/-- `column IN (...)`, if there are values. -/
def inValues (column : String) (values : List String) : List String :=
  if values = [] then [] else [column ++ " IN (" ++ quoteAll values ++ ")"]

def customCondition (filter : CustomFilter) : List String :=
  if filter.key ≠ "" ∧ filter.value ≠ "" then
    if filter.attributeType = "SpanAttributes" then
      [attributeAt "SpanAttributes" (safe filter.key) ++ " = " ++ quote (safe filter.value)]
    else if filter.attributeType = "ResourceAttributes" then
      [attributeAt "ResourceAttributes" (safe filter.key) ++ " = " ++ quote (safe filter.value)]
    else if filter.attributeType = "Field" then
      if identifier filter.key ≠ "" then [identifier filter.key ++ " = " ++ quote (safe filter.value)] else []
    else []
  else []
def selectedConditions (config : SelectedConfig) : List String :=
  inValues (attributeAt "SpanAttributes" (getTraceMappingKeyFullPath .model)) config.models ++
  (if config.providers = [] then []
    else
      ["(" ++ attributeAt "SpanAttributes" (getTraceMappingKeyFullPath .system) ++ " IN (" ++ quoteAll config.providers ++
        ") OR " ++ attributeAt "SpanAttributes" (getTraceMappingKeyFullPath .provider) ++ " IN (" ++
        quoteAll config.providers ++ "))"]) ++
  inValues (attributeAt "SpanAttributes" (getTraceMappingKeyFullPath .type)) config.traceTypes ++
  (config.maxCost.toList.map fun maxCost =>
    "toFloat64OrZero(" ++ attributeAt "SpanAttributes" (getTraceMappingKeyFullPath .cost) ++ ") BETWEEN 0 AND " ++ maxCost.toFixed) ++
  inValues (attributeAt "ResourceAttributes" (getTraceMappingKeyFullPath .applicationName)) config.applicationNames ++
  inValues "SpanName" config.spanNames ++
  inValues (attributeAt "ResourceAttributes" (getTraceMappingKeyFullPath .environment)) config.environments ++
  config.customFilters.flatMap customCondition
def notEmptyCondition (key : KeyPath) : String := "notEmpty(" ++ key.key ++ ")"
/-- `whereArray`, with the conditions of the selected configuration if it is used. -/
def whereArray (filter : FilterWhereConditionType) (filterSelectedConfig : Bool) : List String :=
  (match present filter.start, present filter.end with
    | some start, some «end» =>
      ["Timestamp >= parseDateTimeBestEffort(" ++ quote start ++ ") AND Timestamp <= parseDateTimeBestEffort(" ++ quote «end» ++ ")"]
    | _, _ => []) ++
  (if filterSelectedConfig then filter.selectedConfig.toList.flatMap selectedConditions else []) ++
  (if filter.notOrEmpty = [] then [] else ["( " ++ " OR ".intercalate (filter.notOrEmpty.map notEmptyCondition) ++ " )"]) ++
  filter.notEmpty.map notEmptyCondition ++
  ["StatusCode IN (" ++ quoteAll filter.statusCode ++ ")"] ++
  match filter.operationType with
  | none => []
  | some .vectordb => [attributeAt "SpanAttributes" (getTraceMappingKeyFullPath .type) ++ " = " ++ quote "vectordb"]
  | some .llm => [attributeAt "SpanAttributes" (getTraceMappingKeyFullPath .type) ++ " != " ++ quote "vectordb"]
def getFilterWhereCondition (filter : FilterWhereConditionType) (filterSelectedConfig : Bool) : String :=
  " AND ".intercalate (whereArray filter filterSelectedConfig)

/-! ### What a filter asks for -/

/-- A part of a condition: code, a constant text, a number or a value. -/
inductive Term (α : Type)
  | code (text : String)
  | constant (text : String)
  | number (text : String)
  | value (a : α)
  deriving DecidableEq, Repr

/-- A condition on an attribute, by its key and value, or on a column. -/
inductive Custom (α : Type)
  | attributeValue (attributes : String) (key value : α)
  | columnValue (column : String) (value : α)
  deriving DecidableEq, Repr
/-- The conditions of a selected configuration. -/
structure Selected (α : Type) where
  models : List α
  providers : List α
  traceTypes : List α
  maxCost : Option String
  applicationNames : List α
  spanNames : List α
  environments : List α
  customFilters : List (Custom α)
/-- The conditions that a filter asks for, over its values. -/
structure Conditions (α : Type) where
  timeLimit : Option (α × α)
  selected : Option (Selected α)
  notOrEmpty : List KeyPath
  notEmpty : List KeyPath
  statusCode : List α
  operationType : Option OPERATION_TYPE

section
variable {α β : Type}

def attributeTerms (attributes : String) (path : String) : List (Term α) := [.code (attributes ++ "["), .constant path, .code "]"]
def valueTerms : List α → List (Term α)
  | [] => []
  | a :: values => .value a :: values.flatMap fun a => [.code ", ", .value a]
def joinTerms (separator : String) : List (List (Term α)) → List (Term α)
  | [] => []
  | [terms] => terms
  | terms :: next :: more => terms ++ .code separator :: joinTerms separator (next :: more)

def timeTerms (limit : α × α) : List (Term α) :=
  [.code "Timestamp >= parseDateTimeBestEffort(", .value limit.1, .code ") AND Timestamp <= parseDateTimeBestEffort(", .value limit.2,
    .code ")"]
def inTerms (column : List (Term α)) (values : List α) : List (Term α) :=
  column ++ .code " IN (" :: (valueTerms values ++ [.code ")"])
def providerTerms (providers : List α) : List (Term α) :=
  .code "(" :: (inTerms (attributeTerms "SpanAttributes" (getTraceMappingKeyFullPath .system)) providers ++
    .code " OR " :: (inTerms (attributeTerms "SpanAttributes" (getTraceMappingKeyFullPath .provider)) providers ++ [.code ")"]))
def costTerms (maxCost : String) : List (Term α) :=
  .code "toFloat64OrZero(" :: (attributeTerms "SpanAttributes" (getTraceMappingKeyFullPath .cost) ++
    [.code ") BETWEEN 0 AND ", .number maxCost])
def Custom.terms : Custom α → List (Term α)
  | .attributeValue attributes key value => [.code (attributes ++ "["), .value key, .code "] = ", .value value]
  | .columnValue column value => [.code (column ++ " = "), .value value]
def notEmptyTerms (key : KeyPath) : List (Term α) := .code "notEmpty(" :: (attributeTerms key.attributes key.path ++ [.code ")"])
def notOrEmptyTerms (keys : List KeyPath) : List (Term α) :=
  .code "( " :: (joinTerms " OR " (keys.map notEmptyTerms) ++ [.code " )"])
def operationTerms (operationType : OPERATION_TYPE) : List (Term α) :=
  attributeTerms "SpanAttributes" (getTraceMappingKeyFullPath .type) ++
    [.code (if operationType = .vectordb then " = " else " != "), .constant "vectordb"]

/-- A condition on values, if there are any. -/
def unlessNone {γ : Type} (values : List γ) (terms : List (Term α)) : List (List (Term α)) :=
  if values.isEmpty then [] else [terms]

def Selected.conjuncts (c : Selected α) : List (List (Term α)) :=
  unlessNone c.models (inTerms (attributeTerms "SpanAttributes" (getTraceMappingKeyFullPath .model)) c.models) ++
  unlessNone c.providers (providerTerms c.providers) ++
  unlessNone c.traceTypes (inTerms (attributeTerms "SpanAttributes" (getTraceMappingKeyFullPath .type)) c.traceTypes) ++
  c.maxCost.toList.map costTerms ++
  unlessNone c.applicationNames
    (inTerms (attributeTerms "ResourceAttributes" (getTraceMappingKeyFullPath .applicationName)) c.applicationNames) ++
  unlessNone c.spanNames (inTerms [.code "SpanName"] c.spanNames) ++
  unlessNone c.environments (inTerms (attributeTerms "ResourceAttributes" (getTraceMappingKeyFullPath .environment)) c.environments) ++
  c.customFilters.map Custom.terms
def Conditions.conjuncts (c : Conditions α) : List (List (Term α)) :=
  c.timeLimit.toList.map timeTerms ++ c.selected.toList.flatMap Selected.conjuncts ++
  unlessNone c.notOrEmpty (notOrEmptyTerms c.notOrEmpty) ++ c.notEmpty.map notEmptyTerms ++
  [inTerms [.code "StatusCode"] c.statusCode] ++ c.operationType.toList.map operationTerms
def Conditions.terms (c : Conditions α) : List (Term α) := joinTerms " AND " c.conjuncts

/-! ### The structure of a condition -/

def Term.map (f : α → β) (writeNumber : String → String) : Term α → Term β
  | .code text => .code text
  | .constant text => .constant text
  | .number text => .number (writeNumber text)
  | .value a => .value (f a)
def Custom.map (f : α → β) : Custom α → Custom β
  | .attributeValue attributes key value => .attributeValue attributes (f key) (f value)
  | .columnValue column value => .columnValue column (f value)
def Selected.map (f : α → β) (writeNumber : String → String) (c : Selected α) : Selected β where
  models := c.models.map f
  providers := c.providers.map f
  traceTypes := c.traceTypes.map f
  maxCost := c.maxCost.map writeNumber
  applicationNames := c.applicationNames.map f
  spanNames := c.spanNames.map f
  environments := c.environments.map f
  customFilters := c.customFilters.map (Custom.map f)
def Conditions.map (f : α → β) (writeNumber : String → String) (c : Conditions α) : Conditions β where
  timeLimit := c.timeLimit.map (Prod.map f f)
  selected := c.selected.map (Selected.map f writeNumber)
  notOrEmpty := c.notOrEmpty
  notEmpty := c.notEmpty
  statusCode := c.statusCode.map f
  operationType := c.operationType

/-- A part without its number or value. -/
def Term.erase : Term α → Term Unit := Term.map (fun _ => ()) fun _ => ""
/-- Which conditions there are, and how many values they have. -/
def Conditions.shape : Conditions α → Conditions Unit := Conditions.map (fun _ => ()) fun _ => ""

section
variable (f : α → β) (writeNumber : String → String)

theorem map_valueTerms (values : List α) : (valueTerms values).map (Term.map f writeNumber) = valueTerms (values.map f) := by
  cases values with
  | nil => rfl
  | cons a values => simp [valueTerms, Term.map, List.map_flatMap, List.flatMap_map]
theorem map_joinTerms (separator : String) (conjuncts : List (List (Term α))) :
    (joinTerms separator conjuncts).map (Term.map f writeNumber) =
      joinTerms separator (conjuncts.map (List.map (Term.map f writeNumber))) := by
  fun_induction joinTerms separator conjuncts with
  | case1 => rfl
  | case2 => rfl
  | case3 terms next more ih => simp [ih, joinTerms, Term.map]
theorem map_inTerms (column : List (Term α)) (values : List α) : (inTerms column values).map (Term.map f writeNumber) =
    inTerms (column.map (Term.map f writeNumber)) (values.map f) := by
  simp [inTerms, map_valueTerms, Term.map]
theorem map_providerTerms (providers : List α) :
    (providerTerms providers).map (Term.map f writeNumber) = providerTerms (providers.map f) := by
  simp [providerTerms, map_inTerms, attributeTerms, Term.map]
theorem map_notOrEmptyTerms (keys : List KeyPath) : (notOrEmptyTerms keys).map (Term.map f writeNumber) = notOrEmptyTerms keys := by
  have each : (keys.map notEmptyTerms).map (List.map (Term.map f writeNumber)) = keys.map notEmptyTerms := by
    rw [List.map_map]
    rfl
  simp [notOrEmptyTerms, map_joinTerms, each, Term.map]
theorem map_unlessNone {γ : Type} (values : List γ) (terms : List (Term α)) :
    (unlessNone values terms).map (List.map (Term.map f writeNumber)) = unlessNone values (terms.map (Term.map f writeNumber)) := by
  cases values <;> rfl
theorem unlessNone_map {γ δ : Type} (g : γ → δ) (values : List γ) (terms : List (Term α)) :
    unlessNone (values.map g) terms = unlessNone values terms := by
  cases values <;> rfl

theorem map_selected (c : Selected α) :
    c.conjuncts.map (List.map (Term.map f writeNumber)) = (c.map f writeNumber).conjuncts := by
  have cost : ∀ given : Option String, (given.toList.map costTerms).map (List.map (Term.map f writeNumber)) =
      (given.map writeNumber).toList.map costTerms := by
    intro given
    cases given <;> rfl
  have custom : (c.customFilters.map Custom.terms).map (List.map (Term.map f writeNumber)) =
      (c.customFilters.map (Custom.map f)).map Custom.terms := by
    rw [List.map_map, List.map_map]
    refine List.map_congr_left fun custom _ => ?_
    cases custom <;> rfl
  simp only [Selected.conjuncts, Selected.map, List.map_append, map_unlessNone, unlessNone_map, map_inTerms, map_providerTerms, cost,
    custom]
  rfl
/-- The conditions on other values have the same terms over those values. -/
theorem map_terms (c : Conditions α) : c.terms.map (Term.map f writeNumber) = (c.map f writeNumber).terms := by
  have time : (c.timeLimit.toList.map timeTerms).map (List.map (Term.map f writeNumber)) =
      (c.timeLimit.map (Prod.map f f)).toList.map timeTerms := by
    cases c.timeLimit <;> rfl
  have selected : (c.selected.toList.flatMap Selected.conjuncts).map (List.map (Term.map f writeNumber)) =
      (c.selected.map (Selected.map f writeNumber)).toList.flatMap Selected.conjuncts := by
    cases c.selected <;> simp [map_selected]
  have notEmpty : (c.notEmpty.map notEmptyTerms).map (List.map (Term.map f writeNumber)) = c.notEmpty.map notEmptyTerms := by
    rw [List.map_map]
    rfl
  have operation : (c.operationType.toList.map operationTerms).map (List.map (Term.map f writeNumber)) =
      c.operationType.toList.map operationTerms := by
    rw [List.map_map]
    rfl
  rw [Conditions.terms, map_joinTerms, Conditions.terms]
  congr 1
  simp only [Conditions.conjuncts, Conditions.map, List.map_append, time, selected, map_unlessNone, map_notOrEmptyTerms, notEmpty,
    operation, List.map_cons, List.map_nil, map_inTerms]
  rfl
end

/-- Conditions of one shape have one structure. -/
theorem erase_eq_of_shape {c d : Conditions α} (same : c.shape = d.shape) : c.terms.map Term.erase = d.terms.map Term.erase := by
  have erased : ∀ c : Conditions α, c.terms.map Term.erase = c.shape.terms := map_terms _ _
  rw [erased, erased, same]

end

section
variable {α : Type} (plain custom : String → α)

/-- A filter without a key or a value, and one on a column whose name has no characters left, is no condition. -/
def customOf (filter : CustomFilter) : Option (Custom α) :=
  if filter.key ≠ "" ∧ filter.value ≠ "" then
    if filter.attributeType = "SpanAttributes" ∨ filter.attributeType = "ResourceAttributes" then
      some (.attributeValue filter.attributeType (custom filter.key) (custom filter.value))
    else if filter.attributeType = "Field" ∧ identifier filter.key ≠ "" then
      some (.columnValue (identifier filter.key) (custom filter.value))
    else none
  else none
def selectedOf (config : SelectedConfig) : Selected α where
  models := config.models.map plain
  providers := config.providers.map plain
  traceTypes := config.traceTypes.map plain
  maxCost := config.maxCost.map MaxCost.toFixed
  applicationNames := config.applicationNames.map plain
  spanNames := config.spanNames.map plain
  environments := config.environments.map plain
  customFilters := config.customFilters.filterMap (customOf custom)
/-- The conditions of a filter, where custom filters may have other values than the lists. -/
def conditionsOf (filter : FilterWhereConditionType) (filterSelectedConfig : Bool) : Conditions α where
  timeLimit := (present filter.start).bind fun start => (present filter.end).map fun stop => (plain start, plain stop)
  selected := if filterSelectedConfig then filter.selectedConfig.map (selectedOf plain custom) else none
  notOrEmpty := filter.notOrEmpty
  notEmpty := filter.notEmpty
  statusCode := filter.statusCode.map plain
  operationType := filter.operationType

end

/-- The conditions that a filter asks for, with the texts that it is given. -/
def asked (filter : FilterWhereConditionType) (filterSelectedConfig : Bool) : Conditions String :=
  conditionsOf id id filter filterSelectedConfig
/-- A value and a constant are one literal each. -/
def Term.lexemes : Term String → List Lexeme
  | .code text | .number text => text.toList.map .code
  | .constant text | .value text => [.literal text.toList]
/-- The condition is read as the one that is asked for. -/
def IsRead (filter : FilterWhereConditionType) (filterSelectedConfig : Bool) : Prop :=
  outside (getFilterWhereCondition filter filterSelectedConfig).toList =
    some ((asked filter filterSelectedConfig).terms.flatMap Term.lexemes)

/-- No quotes, and backslashes only before letters that are kept with them. -/
def Verbatim (text : String) : Prop := verbatim text.toList = true
def KeepsBackslashes (text : String) : Prop := keepsBackslashes text.toList = true
def CustomFilter.Sound (filter : CustomFilter) : Prop :=
  filter.key ≠ "" → filter.value ≠ "" →
    (filter.attributeType = "SpanAttributes" ∨ filter.attributeType = "ResourceAttributes" →
      KeepsBackslashes filter.key ∧ KeepsBackslashes filter.value) ∧
    (filter.attributeType = "Field" → identifier filter.key ≠ "" → KeepsBackslashes filter.value)
structure SelectedConfig.Sound (config : SelectedConfig) : Prop where
  models : ∀ text ∈ config.models, Verbatim text
  providers : ∀ text ∈ config.providers, Verbatim text
  traceTypes : ∀ text ∈ config.traceTypes, Verbatim text
  applicationNames : ∀ text ∈ config.applicationNames, Verbatim text
  spanNames : ∀ text ∈ config.spanNames, Verbatim text
  environments : ∀ text ∈ config.environments, Verbatim text
  customFilters : ∀ filter ∈ config.customFilters, filter.Sound
/-- The filters whose values are read as they are given, of those that are used. -/
structure Sound (filter : FilterWhereConditionType) (filterSelectedConfig : Bool) : Prop where
  timeLimit : ∀ start ∈ present filter.start, ∀ stop ∈ present filter.end, Verbatim start ∧ Verbatim stop
  selectedConfig : filterSelectedConfig = true → ∀ config ∈ filter.selectedConfig, config.Sound
  statusCode : ∀ text ∈ filter.statusCode, Verbatim text

/-! ### The texts of conditions -/

def Term.piece : Term Quoted → Piece
  | .code text | .number text => .code text.toList
  | .constant text => .literal (plainLiteral text)
  | .value quoted => .literal quoted
/-- A text is that of some terms, begins outside a literal and is read as they are meant under a condition. -/
structure Rendered (text : String) (terms : List (Term Quoted)) (condition : Prop) : Prop where
  text : textOf (terms.map Term.piece) = text.toList
  apart : Apart (terms.map Term.piece)
  unquoted : Unquoted (textOf (terms.map Term.piece))
  sound : (∀ t ∈ terms, t.piece.Sound) ↔ condition

variable {text text' : String} {terms terms' : List (Term Quoted)} {condition condition' : Prop}

theorem Rendered.append (first : Rendered text terms condition) (second : Rendered text' terms' condition') :
    Rendered (text ++ text') (terms ++ terms') (condition ∧ condition') where
  text := by rw [List.map_append, textOf_append, first.text, second.text, String.toList_append]
  apart := by
    rw [List.map_append]
    exact first.apart.append second.apart second.unquoted
  unquoted := by
    rw [List.map_append, textOf_append]
    exact first.unquoted.append second.unquoted
  sound := by rw [List.forall_mem_append, first.sound, second.sound]
theorem Rendered.congr (rendered : Rendered text terms condition) (same : condition ↔ condition') : Rendered text terms condition' where
  text := rendered.text
  apart := rendered.apart
  unquoted := rendered.unquoted
  sound := rendered.sound.trans same

theorem rendered_code {code : String} (isCode : code.toList.all isCode = true) : Rendered code [.code code] True where
  text := by simp [textOf, Term.piece, Piece.text]
  apart := ⟨isCode_of_all isCode, trivial⟩
  unquoted := by simpa [textOf, Term.piece, Piece.text] using unquoted_of_all isCode
  sound := by simp [Term.piece, Piece.Sound]
theorem piece_code (code : String) : (Term.code code).piece = .code code.toList := rfl
/-- A literal after code. -/
theorem rendered_literal {code : String} (nonempty : code.toList ≠ []) (isCode : code.toList.all isCode = true) {t : Term Quoted}
    {quoted : Quoted} (isLiteral : t.piece = .literal quoted) :
    Rendered (code ++ quote (String.ofList quoted.body)) [.code code, t] quoted.condition where
  text := by
    have mark : "'".toList = ['\''] := by decide
    simp [textOf, piece_code, isLiteral, Piece.text, quote, mark]
  apart := by
    simp only [List.map_cons, List.map_nil, isLiteral]
    exact ⟨isCode_of_all isCode, unquoted_nil, trivial⟩
  unquoted := by
    simp only [List.map_cons, List.map_nil]
    exact unquoted_code nonempty isCode _
  sound := by simp [piece_code, isLiteral, Piece.Sound]

theorem rendered_attribute {attributes path : String} (nonempty : (attributes ++ "[").toList ≠ [])
    (isCode : (attributes ++ "[").toList.all isCode = true) (isVerbatim : verbatim path.toList = true) :
    Rendered (attributeAt attributes path) (attributeTerms attributes path) True := by
  have key := @rendered_literal _ nonempty isCode (.constant path) _ rfl
  have body : String.ofList (plainLiteral path).body = path := String.ofList_toList
  rw [body] at key
  exact (key.append (@rendered_code "]" (by decide))).congr (by simp [plainLiteral, isVerbatim])

theorem rendered_nil : Rendered "" [] True where
  text := rfl
  apart := trivial
  unquoted := unquoted_nil
  sound := by simp
theorem quoteAll_cons (text next : String) (more : List String) :
    quoteAll (text :: next :: more) = quote text ++ (", " ++ quoteAll (next :: more)) := by
  rw [← String.append_assoc]
  exact String.intercalate_cons_cons

def bodies (values : List Quoted) : List String := values.map fun quoted => String.ofList quoted.body
/-- The values of a list after code. -/
theorem rendered_values {code : String} (nonempty : code.toList ≠ []) (isCode : code.toList.all isCode = true) (values : List Quoted) :
    Rendered (code ++ quoteAll (bodies values)) (.code code :: valueTerms values) (∀ quoted ∈ values, quoted.condition) := by
  cases values with
  | nil => simpa [bodies, quoteAll, valueTerms] using rendered_code isCode
  | cons quoted more =>
    -- Each value but the first stands after a comma.
    induction more generalizing code quoted with
    | nil => simpa [bodies, quoteAll, valueTerms] using @rendered_literal _ nonempty isCode (.value quoted) _ rfl
    | cons next more ih =>
      have first := @rendered_literal _ nonempty isCode (.value quoted) _ rfl
      have others := @ih ", " (by decide) (by decide) next
      have whole := (first.append others).congr (List.forall_mem_cons).symm
      rw [String.append_assoc] at whole
      rw [bodies, List.map_cons, List.map_cons, quoteAll_cons]
      exact whole

section
variable {column : String} {columnTerms : List (Term Quoted)}

theorem rendered_in (rendered : Rendered column columnTerms True) (values : List Quoted) :
    Rendered (column ++ " IN (" ++ quoteAll (bodies values) ++ ")") (inTerms columnTerms values)
      (∀ quoted ∈ values, quoted.condition) := by
  have opened := @rendered_values " IN (" (by decide) (by decide) values
  have closed := @rendered_code ")" (by decide)
  have whole := (rendered.append (opened.append closed)).congr (by rw [true_and, and_true])
  rw [← String.append_assoc, ← String.append_assoc] at whole
  exact whole

end

/-- The attribute of a key of the code. -/
theorem rendered_key (key : TraceMappingKeyType) : Rendered (attributeAt "SpanAttributes" (getTraceMappingKeyFullPath key))
    (attributeTerms "SpanAttributes" (getTraceMappingKeyFullPath key)) True := by
  refine rendered_attribute (by decide) (by decide) ?_
  cases key <;> decide
theorem rendered_resource (key : TraceMappingKeyType) : Rendered (attributeAt "ResourceAttributes" (getTraceMappingKeyFullPath key))
    (attributeTerms "ResourceAttributes" (getTraceMappingKeyFullPath key)) True := by
  refine rendered_attribute (by decide) (by decide) ?_
  cases key <;> decide
theorem rendered_column {column : String} (isCode : column.toList.all isCode = true) :
    Rendered column [.code column] True := rendered_code isCode

theorem rendered_time (start stop : Quoted) :
    Rendered ("Timestamp >= parseDateTimeBestEffort(" ++ quote (String.ofList start.body) ++
        ") AND Timestamp <= parseDateTimeBestEffort(" ++ quote (String.ofList stop.body) ++ ")")
      (timeTerms (start, stop)) (start.condition ∧ stop.condition) := by
  have first := @rendered_literal "Timestamp >= parseDateTimeBestEffort(" (by decide) (by decide) (.value start) _ rfl
  have second := @rendered_literal ") AND Timestamp <= parseDateTimeBestEffort(" (by decide) (by decide) (.value stop) _ rfl
  have whole := ((first.append second).append (@rendered_code ")" (by decide))).congr (by rw [and_true])
  rw [← String.append_assoc] at whole
  exact whole

theorem rendered_providers (providers : List Quoted) :
    Rendered ("(" ++ attributeAt "SpanAttributes" (getTraceMappingKeyFullPath .system) ++ " IN (" ++ quoteAll (bodies providers) ++
        ") OR " ++ attributeAt "SpanAttributes" (getTraceMappingKeyFullPath .provider) ++ " IN (" ++
        quoteAll (bodies providers) ++ "))")
      (providerTerms providers) (∀ quoted ∈ providers, quoted.condition) := by
  have inSystem := rendered_in (rendered_key .system) providers
  have inProvider := rendered_in (rendered_key .provider) providers
  have bracket := @rendered_code "(" (by decide)
  have or := @rendered_code " OR " (by decide)
  have whole := (bracket.append (inSystem.append (or.append (inProvider.append (@rendered_code ")" (by decide)))))).congr
    (by rw [true_and, true_and, and_true, and_self])
  have between : ") OR " = ")" ++ " OR " := by decide
  have ended : "))" = ")" ++ ")" := by decide
  rw [between, ended]
  simp only [String.append_assoc] at whole ⊢
  exact whole

theorem MaxCost.toList_toFixed (cost : MaxCost) :
    cost.toFixed.toList = if cost.negative then '-' :: cost.first :: cost.rest else cost.first :: cost.rest := by
  rw [MaxCost.toFixed, String.toList_append, String.toList_ofList]
  cases cost.negative <;> rfl
theorem isCode_of_isNumberChar {c : Char} (isNumber : isNumberChar c = true) : isCode c = true := by
  simp only [isNumberChar, Bool.or_eq_true, decide_eq_true_iff] at isNumber
  rcases isNumber with (isWord | rfl) | rfl
  · simp [isCode, isBare, isWord]
  · decide
  · decide
theorem MaxCost.isCode (cost : MaxCost) : (cost.first :: cost.rest).all isCode = true := by
  have first : isNumberChar cost.first = true := by simp [isNumberChar, cost.isAlphanum]
  rw [List.all_eq_true, List.forall_mem_cons]
  exact ⟨isCode_of_isNumberChar first, fun c inside => isCode_of_isNumberChar (List.all_eq_true.mp cost.isNumber c inside)⟩
/-- The text of a number is code. -/
theorem rendered_number (cost : MaxCost) : Rendered cost.toFixed [.number cost.toFixed] True where
  text := by simp [textOf, Term.piece, Piece.text]
  apart := by
    refine ⟨?_, trivial⟩
    rw [cost.toList_toFixed]
    cases cost.negative with
    | false => exact isCode_of_all cost.isCode
    | true => exact isCode_dash cost.isAlphanum (isCode_of_all cost.isCode)
  unquoted := by
    have unquoted := unquoted_of_all cost.isCode
    simp only [List.map_cons, List.map_nil, Term.piece, textOf_code, cost.toList_toFixed]
    cases cost.negative with
    | false => exact unquoted
    | true => exact unquoted_cons (by decide) _
  sound := by simp [Term.piece, Piece.Sound]

theorem rendered_cost (cost : MaxCost) :
    Rendered ("toFloat64OrZero(" ++ attributeAt "SpanAttributes" (getTraceMappingKeyFullPath .cost) ++ ") BETWEEN 0 AND " ++
        cost.toFixed)
      (costTerms cost.toFixed) True := by
  have called := @rendered_code "toFloat64OrZero(" (by decide)
  have between := @rendered_code ") BETWEEN 0 AND " (by decide)
  have whole : Rendered _ _ True :=
    (called.append ((rendered_key .cost).append (between.append (rendered_number cost)))).congr (by simp)
  simp only [String.append_assoc] at whole ⊢
  exact whole

theorem rendered_notEmpty (key : KeyPath) : Rendered (notEmptyCondition key) (notEmptyTerms key) True := by
  have bracket : (key.attributes ++ "[").toList.all isCode = true := by
    rw [String.toList_append, List.all_append, key.isCode]
    decide
  have named := rendered_attribute (by simp) bracket key.isVerbatim
  have whole : Rendered _ _ True :=
    ((@rendered_code "notEmpty(" (by decide)).append (named.append (@rendered_code ")" (by decide)))).congr (by simp)
  rw [← String.append_assoc] at whole
  exact whole
theorem rendered_operation (operationType : OPERATION_TYPE) :
    Rendered (attributeAt "SpanAttributes" (getTraceMappingKeyFullPath .type) ++
        ((if operationType = .vectordb then " = " else " != ") ++ quote "vectordb"))
      (operationTerms operationType) True := by
  have body : String.ofList (plainLiteral "vectordb").body = "vectordb" := String.ofList_toList
  have sound : (plainLiteral "vectordb").condition ↔ True := iff_true_intro (by decide : verbatim "vectordb".toList = true)
  have compared : ∀ {sign : String}, sign.toList ≠ [] → sign.toList.all isCode = true →
      Rendered (sign ++ quote "vectordb") [.code sign, .constant "vectordb"] True := by
    intro sign nonempty isCode
    have literal := @rendered_literal sign nonempty isCode (.constant "vectordb") _ rfl
    rw [body] at literal
    exact literal.congr sound
  refine ((rendered_key .type).append (compared ?_ ?_)).congr (by simp)
  · cases operationType <;> decide
  · cases operationType <;> decide

/-- A condition on an attribute of spans or resources, whose key is a value. -/
theorem rendered_attributeValue {attributes : String} (nonempty : (attributes ++ "[").toList ≠ [])
    (isCode : (attributes ++ "[").toList.all isCode = true) (key value : String) :
    Rendered (attributeAt attributes (safe key) ++ " = " ++ quote (safe value))
      (Custom.attributeValue attributes (doubledLiteral key) (doubledLiteral value)).terms
      (KeepsBackslashes key ∧ KeepsBackslashes value) := by
  have keyed := @rendered_literal _ nonempty isCode (.value (doubledLiteral key)) _ rfl
  have valued := @rendered_literal "] = " (by decide) (by decide) (.value (doubledLiteral value)) _ rfl
  have between : "] = " = "]" ++ " = " := by decide
  have whole := keyed.append valued
  rw [between] at whole
  simp only [attributeAt, String.append_assoc] at whole ⊢
  exact whole
theorem rendered_columnValue {column : String} (isColumn : column.toList.all isCode = true) (value : String) :
    Rendered (column ++ " = " ++ quote (safe value)) (Custom.columnValue column (doubledLiteral value)).terms
      (KeepsBackslashes value) := by
  have compared : (column ++ " = ").toList.all isCode = true := by
    rw [String.toList_append, List.all_append, isColumn]
    decide
  have valued := @rendered_literal (column ++ " = ") (by simp) compared (.value (doubledLiteral value)) _ rfl
  exact valued
theorem identifier_isCode (key : String) : (identifier key).toList.all isCode = true := by
  rw [identifier, String.toList_ofList, List.all_eq_true]
  intro c inside
  have kept := (List.mem_filter.mp inside).2
  simp only [isIdentifier, Bool.or_eq_true] at kept
  simp only [isCode, isBare, Bool.or_eq_true]
  exact .inl (.inl (.inl kept))

/-! ### Lists of conditions -/

/-- Each text is that of the terms beside it. -/
inductive Renders : List String → List (List (Term Quoted)) → Prop → Prop
  | nil : Renders [] [] True
  | cons {text terms condition texts conjuncts condition'} : Rendered text terms condition → Renders texts conjuncts condition' →
      Renders (text :: texts) (terms :: conjuncts) (condition ∧ condition')

section
variable {texts texts' : List String} {conjuncts conjuncts' : List (List (Term Quoted))}

theorem Renders.congr (renders : Renders texts conjuncts condition) (same : condition ↔ condition') :
    Renders texts conjuncts condition' := propext same ▸ renders
theorem Rendered.one (rendered : Rendered text terms condition) : Renders [text] [terms] condition :=
  (Renders.cons rendered .nil).congr (by rw [and_true])
theorem Renders.append (first : Renders texts conjuncts condition) (second : Renders texts' conjuncts' condition') :
    Renders (texts ++ texts') (conjuncts ++ conjuncts') (condition ∧ condition') := by
  induction first with
  | nil => exact second.congr (by rw [true_and])
  | cons rendered _ ih => exact (Renders.cons rendered ih).congr (by rw [and_assoc])
/-- Conditions with code between them. -/
theorem Renders.join {separator : String} (isCode : separator.toList.all isCode = true)
    (renders : Renders texts conjuncts condition) :
    Rendered (separator.intercalate texts) (joinTerms separator conjuncts) condition := by
  induction renders with
  | nil => exact rendered_nil
  | cons rendered others ih =>
    cases others with
    | nil =>
      rw [String.intercalate_singleton]
      exact rendered.congr (by rw [and_true])
    | cons next more =>
      have whole := (rendered.append ((rendered_code isCode).append ih)).congr (by rw [true_and])
      rw [← String.append_assoc] at whole
      rw [String.intercalate_cons_cons]
      exact whole
/-- Conditions of items one after another. -/
theorem renders_flatMap {α : Type} {texts : α → List String} {conjuncts : α → List (List (Term Quoted))} {condition : α → Prop}
    (each : ∀ a, Renders (texts a) (conjuncts a) (condition a)) (items : List α) :
    Renders (items.flatMap texts) (items.flatMap conjuncts) (∀ a ∈ items, condition a) := by
  induction items with
  | nil => exact Renders.nil.congr (by simp)
  | cons a items ih =>
    rw [List.flatMap_cons, List.flatMap_cons]
    exact ((each a).append ih).congr (List.forall_mem_cons).symm
theorem renders_map {α : Type} {text : α → String} {terms : α → List (Term Quoted)} (each : ∀ a, Rendered (text a) (terms a) True)
    (items : List α) : Renders (items.map text) (items.map terms) True := by
  induction items with
  | nil => exact .nil
  | cons a items ih => exact (Renders.cons (each a) ih).congr (and_self_iff)

end

theorem bodies_plain (texts : List String) : bodies (texts.map plainLiteral) = texts := by
  rw [bodies, List.map_map]
  exact (List.map_congr_left fun text _ => String.ofList_toList).trans (List.map_id texts)
theorem plain_sound {texts : List String} :
    (∀ quoted ∈ texts.map plainLiteral, quoted.condition) ↔ ∀ text ∈ texts, Verbatim text := List.forall_mem_map

theorem renders_in {column : String} {columnTerms : List (Term Quoted)} (rendered : Rendered column columnTerms True)
    (texts : List String) :
    Renders (inValues column texts) (unlessNone (texts.map plainLiteral) (inTerms columnTerms (texts.map plainLiteral)))
      (∀ text ∈ texts, Verbatim text) := by
  cases texts with
  | nil => exact Renders.nil.congr (by simp)
  | cons text texts =>
    have whole := (rendered_in rendered ((text :: texts).map plainLiteral)).congr plain_sound
    rw [bodies_plain] at whole
    exact whole.one

theorem renders_providers (texts : List String) :
    Renders
      (if texts = [] then []
        else
          ["(" ++ attributeAt "SpanAttributes" (getTraceMappingKeyFullPath .system) ++ " IN (" ++ quoteAll texts ++ ") OR " ++
            attributeAt "SpanAttributes" (getTraceMappingKeyFullPath .provider) ++ " IN (" ++ quoteAll texts ++ "))"])
      (unlessNone (texts.map plainLiteral) (providerTerms (texts.map plainLiteral))) (∀ text ∈ texts, Verbatim text) := by
  cases texts with
  | nil => exact Renders.nil.congr (by simp)
  | cons text texts =>
    have whole := (rendered_providers ((text :: texts).map plainLiteral)).congr plain_sound
    rw [bodies_plain] at whole
    exact whole.one
theorem renders_cost (given : Option MaxCost) :
    Renders
      (given.toList.map fun maxCost =>
        "toFloat64OrZero(" ++ attributeAt "SpanAttributes" (getTraceMappingKeyFullPath .cost) ++ ") BETWEEN 0 AND " ++ maxCost.toFixed)
      ((given.map MaxCost.toFixed).toList.map costTerms) True := by
  cases given with
  | none => exact .nil
  | some cost => exact (rendered_cost cost).one
theorem renders_custom (filter : CustomFilter) :
    Renders (customCondition filter) ((customOf doubledLiteral filter).toList.map Custom.terms) filter.Sound := by
  have spans := @rendered_attributeValue "SpanAttributes" (by decide) (by decide) filter.key filter.value
  have resources := @rendered_attributeValue "ResourceAttributes" (by decide) (by decide) filter.key filter.value
  have column := rendered_columnValue (identifier_isCode filter.key) filter.value
  by_cases given : filter.key ≠ "" ∧ filter.value ≠ ""
  · rw [customCondition, customOf, if_pos given, if_pos given]
    by_cases isSpan : filter.attributeType = "SpanAttributes"
    · rw [if_pos isSpan, if_pos (.inl isSpan), isSpan]
      exact spans.one.congr (by simp [CustomFilter.Sound, isSpan, given])
    by_cases isResource : filter.attributeType = "ResourceAttributes"
    · rw [if_neg isSpan, if_pos isResource, if_pos (.inr isResource), isResource]
      exact resources.one.congr (by simp [CustomFilter.Sound, isResource, given])
    have neither : ¬(filter.attributeType = "SpanAttributes" ∨ filter.attributeType = "ResourceAttributes") := by
      simp [isSpan, isResource]
    rw [if_neg isSpan, if_neg isResource, if_neg neither]
    by_cases isField : filter.attributeType = "Field"
    · by_cases named : identifier filter.key ≠ ""
      · rw [if_pos isField, if_pos named, if_pos ⟨isField, named⟩]
        exact column.one.congr (by simp [CustomFilter.Sound, isField, given, named])
      · rw [if_pos isField, if_neg named, if_neg fun both => named both.2]
        exact Renders.nil.congr (by simp_all [CustomFilter.Sound])
    · rw [if_neg isField, if_neg fun both => isField both.1]
      exact Renders.nil.congr (by simp [CustomFilter.Sound, isSpan, isResource, isField])
  · rw [customCondition, customOf, if_neg given, if_neg given]
    exact Renders.nil.congr (iff_of_true trivial fun key value => (given ⟨key, value⟩).elim)
theorem renders_customs (filters : List CustomFilter) :
    Renders (filters.flatMap customCondition) ((filters.filterMap (customOf doubledLiteral)).map Custom.terms)
      (∀ filter ∈ filters, filter.Sound) := by
  have whole := renders_flatMap renders_custom filters
  rw [← List.map_flatMap, ← List.filterMap_eq_flatMap_toList] at whole
  exact whole

theorem renders_selected (config : SelectedConfig) :
    Renders (selectedConditions config) (selectedOf plainLiteral doubledLiteral config).conjuncts config.Sound := by
  have spanName := rendered_column (by decide : "SpanName".toList.all isCode = true)
  have whole := (renders_in (rendered_key .model) config.models).append <|
    (renders_providers config.providers).append <| (renders_in (rendered_key .type) config.traceTypes).append <|
    (renders_cost config.maxCost).append <| (renders_in (rendered_resource .applicationName) config.applicationNames).append <|
    (renders_in spanName config.spanNames).append <|
    (renders_in (rendered_resource .environment) config.environments).append (renders_customs config.customFilters)
  simp only [← List.append_assoc] at whole
  refine Renders.congr whole ⟨?_, ?_⟩
  · rintro ⟨models, providers, traceTypes, -, applicationNames, spanNames, environments, customFilters⟩
    exact ⟨models, providers, traceTypes, applicationNames, spanNames, environments, customFilters⟩
  · rintro ⟨models, providers, traceTypes, applicationNames, spanNames, environments, customFilters⟩
    exact ⟨models, providers, traceTypes, trivial, applicationNames, spanNames, environments, customFilters⟩

/-- The time limit, which is there when both of its dates are. -/
theorem renders_time (filter : FilterWhereConditionType) :
    Renders
      (match present filter.start, present filter.end with
        | some start, some «end» =>
          ["Timestamp >= parseDateTimeBestEffort(" ++ quote start ++ ") AND Timestamp <= parseDateTimeBestEffort(" ++ quote «end» ++ ")"]
        | _, _ => [])
      ((conditionsOf plainLiteral doubledLiteral filter false).timeLimit.toList.map timeTerms)
      (∀ start ∈ present filter.start, ∀ stop ∈ present filter.end, Verbatim start ∧ Verbatim stop) := by
  simp only [conditionsOf]
  cases present filter.start with
  | none => exact Renders.nil.congr (by simp)
  | some start =>
    cases present filter.end with
    | none => exact Renders.nil.congr (by simp)
    | some stop =>
      have both := rendered_time (plainLiteral start) (plainLiteral stop)
      have startBody : String.ofList (plainLiteral start).body = start := String.ofList_toList
      have stopBody : String.ofList (plainLiteral stop).body = stop := String.ofList_toList
      rw [startBody, stopBody] at both
      exact both.one.congr (by simp [plainLiteral, Verbatim])
theorem renders_selectedConfig (filter : FilterWhereConditionType) (filterSelectedConfig : Bool) :
    Renders (if filterSelectedConfig then filter.selectedConfig.toList.flatMap selectedConditions else [])
      ((conditionsOf plainLiteral doubledLiteral filter filterSelectedConfig).selected.toList.flatMap Selected.conjuncts)
      (filterSelectedConfig = true → ∀ config ∈ filter.selectedConfig, config.Sound) := by
  cases filterSelectedConfig with
  | false => exact Renders.nil.congr (by simp)
  | true =>
    cases selected : filter.selectedConfig with
    | none =>
      simp only [conditionsOf, selected]
      exact Renders.nil.congr (by simp)
    | some config =>
      have whole := renders_flatMap renders_selected [config]
      simp only [conditionsOf, selected]
      exact whole.congr (by simp)
theorem renders_notOrEmpty (keys : List KeyPath) :
    Renders (if keys = [] then [] else ["( " ++ " OR ".intercalate (keys.map notEmptyCondition) ++ " )"])
      (unlessNone keys (notOrEmptyTerms keys)) True := by
  cases keys with
  | nil => exact .nil
  | cons key keys =>
    have opened := @rendered_code "( " (by decide)
    have joined := @Renders.join _ _ _ " OR " (by decide) (renders_map rendered_notEmpty (key :: keys))
    have whole : Rendered _ _ True := (opened.append (joined.append (@rendered_code " )" (by decide)))).congr (by simp)
    rw [← String.append_assoc] at whole
    exact whole.one
theorem renders_operation (given : Option OPERATION_TYPE) :
    Renders
      (match given with
        | none => []
        | some .vectordb => [attributeAt "SpanAttributes" (getTraceMappingKeyFullPath .type) ++ " = " ++ quote "vectordb"]
        | some .llm => [attributeAt "SpanAttributes" (getTraceMappingKeyFullPath .type) ++ " != " ++ quote "vectordb"])
      (given.toList.map operationTerms) True := by
  cases given with
  | none => exact .nil
  | some operationType =>
    have whole := rendered_operation operationType
    rw [← String.append_assoc] at whole
    cases operationType <;> exact whole.one

theorem renders_whereArray (filter : FilterWhereConditionType) (filterSelectedConfig : Bool) :
    Renders (whereArray filter filterSelectedConfig) (conditionsOf plainLiteral doubledLiteral filter filterSelectedConfig).conjuncts
      (Sound filter filterSelectedConfig) := by
  have statusColumn := rendered_column (by decide : "StatusCode".toList.all isCode = true)
  have status := (rendered_in statusColumn (filter.statusCode.map plainLiteral)).congr plain_sound
  rw [bodies_plain] at status
  have whole := (renders_time filter).append <| (renders_selectedConfig filter filterSelectedConfig).append <|
    (renders_notOrEmpty filter.notOrEmpty).append <| (renders_map rendered_notEmpty filter.notEmpty).append <|
    status.one.append (renders_operation filter.operationType)
  simp only [← List.append_assoc] at whole
  refine Renders.congr whole ⟨?_, ?_⟩
  · rintro ⟨timeLimit, selectedConfig, -, -, statusCode, -⟩
    exact ⟨timeLimit, selectedConfig, statusCode⟩
  · rintro ⟨timeLimit, selectedConfig, statusCode⟩
    exact ⟨timeLimit, selectedConfig, trivial, trivial, statusCode, trivial⟩

/-! ### The condition as it is read -/

section
variable {α β : Type} (f : α → β) (plain custom : String → α)

theorem map_customOf (filter : CustomFilter) : (customOf custom filter).map (Custom.map f) = customOf (f ∘ custom) filter := by
  simp only [customOf, apply_ite (Option.map (Custom.map f)), Option.map_some, Option.map_none, Custom.map]
  rfl
theorem map_selectedOf (config : SelectedConfig) :
    (selectedOf plain custom config).map f id = selectedOf (f ∘ plain) (f ∘ custom) config := by
  simp [selectedOf, Selected.map, List.map_filterMap, map_customOf]
theorem map_conditionsOf (filter : FilterWhereConditionType) (filterSelectedConfig : Bool) :
    (conditionsOf plain custom filter filterSelectedConfig).map f id =
      conditionsOf (f ∘ plain) (f ∘ custom) filter filterSelectedConfig := by
  have selected : Selected.map f id ∘ selectedOf plain custom = selectedOf (f ∘ plain) (f ∘ custom) :=
    funext (map_selectedOf f plain custom)
  have dates : ∀ start stop : Option String,
      (start.bind fun start => stop.map fun stop => (plain start, plain stop)).map (Prod.map f f) =
        start.bind fun start => stop.map fun stop => ((f ∘ plain) start, (f ∘ plain) stop) := by
    intro start stop
    cases start <;> cases stop <;> rfl
  simp only [conditionsOf, Conditions.map, dates, apply_ite (Option.map (Selected.map f id)), Option.map_map, selected, Option.map_none,
    List.map_map]

end

theorem lexemes_value (t : Term Quoted) : t.piece.lexemes = (t.map (fun quoted => String.ofList quoted.value) id).lexemes := by
  cases t with
  | code text => rfl
  | constant text => rfl
  | number text => rfl
  | value quoted => simp [Term.piece, Piece.lexemes, Term.map, Term.lexemes]

/-- The condition is read as the one that is asked for exactly when its values are read as they are given. -/
theorem isRead_iff (filter : FilterWhereConditionType) (filterSelectedConfig : Bool) :
    IsRead filter filterSelectedConfig ↔ Sound filter filterSelectedConfig := by
  have rendered := @Renders.join _ _ _ " AND " (by decide) (renders_whereArray filter filterSelectedConfig)
  have values : (fun quoted : Quoted => String.ofList quoted.value) ∘ plainLiteral = id := funext fun _ => String.ofList_toList
  have customs : (fun quoted : Quoted => String.ofList quoted.value) ∘ doubledLiteral = id := funext fun _ => String.ofList_toList
  have meant : lexemesOf ((conditionsOf plainLiteral doubledLiteral filter filterSelectedConfig).terms.map Term.piece) =
      (asked filter filterSelectedConfig).terms.flatMap Term.lexemes := by
    have named : asked filter filterSelectedConfig =
        (conditionsOf plainLiteral doubledLiteral filter filterSelectedConfig).map (fun quoted => String.ofList quoted.value) id := by
      rw [map_conditionsOf, values, customs]
      rfl
    rw [named, ← map_terms, lexemesOf, List.flatMap_map, List.flatMap_map]
    exact congrArg (List.flatMap · _) (funext lexemes_value)
  have read := outside_textOf_iff rendered.apart
  rw [rendered.text, List.forall_mem_map, rendered.sound] at read
  rw [IsRead, ← meant]
  exact read

/-- A condition is read as the one that is asked for exactly when its values are read as they are given, and what is
    asked for has one structure for all filters with the same conditions and as many values. -/
theorem filterWhereCondition_read_iff (filter : FilterWhereConditionType) (filterSelectedConfig : Bool) :
    (IsRead filter filterSelectedConfig ↔ Sound filter filterSelectedConfig) ∧
      ∀ filter', (asked filter filterSelectedConfig).shape = (asked filter' filterSelectedConfig).shape →
        (asked filter filterSelectedConfig).terms.map Term.erase = (asked filter' filterSelectedConfig).terms.map Term.erase :=
  ⟨isRead_iff filter filterSelectedConfig, fun _ => erase_eq_of_shape⟩

/-- A quote in the name of a model ends its literal. -/
theorem quoted_model_misread : ¬ IsRead { selectedConfig := some { models := ["it's"] } } true := by
  intro read
  obtain ⟨-, selectedConfig, -⟩ := (isRead_iff _ _).mp read
  have model : Verbatim "it's" := (selectedConfig rfl _ rfl).models _ List.mem_cons_self
  exact absurd model (by decide : ¬ verbatim "it's".toList = true)

end Openlit.FilterClauses
