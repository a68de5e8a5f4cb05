import Mathlib.Tactic.Tauto
import Openlit.FilterStore
import Openlit.UrlParameters

/-!
The filter in the URL of a page (`components/(playground)/filter/traces-filter.tsx`).
Each change of the filter is written to the parameters of the URL, and a page that
is loaded reads them into a new store. The values of a condition stand between
commas in one parameter, and a custom filter between bars. What a reload restores
is `reload_restores_iff`.
-/
namespace Openlit.FilterUrls
open Openlit.FilterClauses (CustomFilter)
open Openlit.FilterStore Openlit.Text Openlit.UrlParameters
open Openlit.PreviousWindows (DateFns TIME_RANGES)

/-- `new Date` of a text. What a text that is no date gives is left open. -/
class JsDates extends IsoDates where
  newDate : String → Int
  toISOString_ne_empty : ∀ time, toISOString time ≠ ""
  newDate_toISOString : ∀ time, newDate (toISOString time) = time

/-! ### Writing -/

def CF_SEP : Char := '|'
def rangeText : TIME_RANGES → String
  | .H24 => "24H"
  | .D7 => "7D"
  | .M1 => "1M"
  | .M3 => "3M"
  | .CUSTOM => "CUSTOM"

/-- The values of a condition, if there are any. -/
def setValues (name : String) (values : Option (List String)) (params : Parameters) : Parameters :=
  if values.getD [] = [] then params else set name (",".intercalate (values.getD [])) params
def writtenFilter (f : CustomFilter) : String := "|".intercalate [f.attributeType, f.key, f.value]
def appendFilters (filters : List CustomFilter) (params : Parameters) : Parameters :=
  filters.foldl (fun params f => if isSet f then append params "cf" (writtenFilter f) else params) params

section
variable {N : Type} [JsNumbers N]

def setCost (maxCost : Option N) (params : Parameters) : Parameters :=
  match maxCost.filter JsNumbers.truthy with
  | some cost => set "maxCost" (JsNumbers.text cost) params
  | none => params
/-- The parameters that a configuration is written to. -/
def configNames : List String := ["models", "providers", "traceTypes", "appNames", "spanNames", "envs", "maxCost", "cf"]
def configToParams (config : FilterConfig N) (params : Parameters) : Parameters :=
  let cleared := configNames.foldl delete params
  let models := setValues "models" config.models cleared
  let providers := setValues "providers" config.providers models
  let traceTypes := setValues "traceTypes" config.traceTypes providers
  let appNames := setValues "appNames" config.applicationNames traceTypes
  let spanNames := setValues "spanNames" config.spanNames appNames
  let envs := setValues "envs" config.environments spanNames
  appendFilters (config.customFilters.getD []) (setCost config.maxCost envs)

variable [JsDates]

def setTimeLimit (t : TimeLimit) (params : Parameters) : Parameters :=
  let params := set "tr" (rangeText t.type) params
  if t.type = .CUSTOM then set "te" (IsoDates.toISOString t.finish) (set "ts" (IsoDates.toISOString t.start) params)
  else delete (delete params "ts") "te"
/-- The parameters that the URL gets when it has had others. -/
def filterToParams (filter : FilterType N) (params : Parameters) : Parameters :=
  configToParams filter.selectedConfig (set "limit" (Nat.repr filter.limit) (setTimeLimit filter.timeLimit params))

/-! ### Reading -/

def readRange (tr : String) : Option TIME_RANGES :=
  match tr with
  | "24H" => some .H24
  | "7D" => some .D7
  | "1M" => some .M1
  | "3M" => some .M3
  | "CUSTOM" => some .CUSTOM
  | _ => none
def readDigits (chars : List Char) : Option Nat :=
  let digits := chars.takeWhile Char.isDigit
  if digits = [] then none else some (Nat.ofDigitChars 10 digits 0)
/-- `parseInt(text, 10)`, which passes over blanks and reads digits behind a sign. -/
def parseInt (text : String) : Option Int :=
  match text.toList.dropWhile isJsSpace with
  | '-' :: chars => (readDigits chars).map fun n => -(n : Int)
  | '+' :: chars => (readDigits chars).map Int.ofNat
  | chars => (readDigits chars).map Int.ofNat

/-- `split(",").filter(Boolean)`, if the parameter is there and not empty. -/
def readValues (params : Parameters) (name : String) : Option (List String) :=
  (present (get params name)).map fun text => (split text ',').filter (· ≠ "")
def readFilter (raw : String) : CustomFilter :=
  match split raw CF_SEP with
  | [] => ⟨"SpanAttributes", "", ""⟩
  | [attributeType] => ⟨if attributeType = "" then "SpanAttributes" else attributeType, "", ""⟩
  | attributeType :: key :: rest => ⟨if attributeType = "" then "SpanAttributes" else attributeType, key, "|".intercalate rest⟩
def paramsToConfig (params : Parameters) : FilterConfig N where
  models := readValues params "models"
  providers := readValues params "providers"
  traceTypes := readValues params "traceTypes"
  applicationNames := readValues params "appNames"
  spanNames := readValues params "spanNames"
  environments := readValues params "envs"
  maxCost := (present (get params "maxCost")).map JsNumbers.parseFloat
  customFilters :=
    if getAll params "cf" = [] then none else some (((getAll params "cf").map readFilter).filter isSet)
def anyValues {α : Type} (values : Option (List α)) : Bool := !(values.getD []).isEmpty
def hasActiveConfig (config : FilterConfig N) : Bool :=
  anyValues config.models || anyValues config.providers || anyValues config.traceTypes || anyValues config.applicationNames ||
    anyValues config.spanNames || anyValues config.environments || config.maxCost.any JsNumbers.positive ||
    anyValues config.customFilters

def readTimeLimit (dates : DateFns) (now : Int) (params : Parameters) (store : Store N) : Store N :=
  match (get params "tr").bind readRange with
  | none => store
  | some .CUSTOM =>
    match present (get params "ts"), present (get params "te") with
    | some ts, some te => updateFilter dates now store (.timeLimitType .CUSTOM (some (JsDates.newDate ts, JsDates.newDate te)))
    | _, _ => store
  | some tr => updateFilter dates now store (.timeLimitType tr none)
def readLimit (dates : DateFns) (now : Int) (params : Parameters) (store : Store N) : Store N :=
  match (present (get params "limit")).bind parseInt with
  | some parsed => if positive : 0 < parsed then updateFilter dates now store (.limit parsed.toNat (by omega)) else store
  | none => store
/-- What a page does with its parameters when it is loaded. -/
def readParams (dates : DateFns) (now : Int) (params : Parameters) (store : Store N) : Store N :=
  let store := readLimit dates now params (readTimeLimit dates now params store)
  let config : FilterConfig N := paramsToConfig params
  if hasActiveConfig config then updateFilter dates now store (.selectedConfig config false) else store

/-- The filter of a page that is loaded again after it has written its URL. -/
def reloaded (dates : DateFns) (now : Int) (params : Parameters) (filter : FilterType N) : Option (FilterType N) :=
  (parsed (serialized (filterToParams filter params))).map fun params => (readParams dates now params (initialStore dates now)).details

omit [JsDates]

/-! ### Values and custom filters -/

/-- The values that can stand between commas. -/
def Listed (values : List String) : Prop := ∀ value ∈ values, value ≠ "" ∧ ',' ∉ value.toList
/-- A custom filter whose type and key can stand before bars. -/
def Parted (f : CustomFilter) : Prop := f.attributeType ≠ "" ∧ '|' ∉ f.attributeType.toList ∧ '|' ∉ f.key.toList

def writtenValues (values : Option (List String)) : Option String :=
  if values.getD [] = [] then none else some (",".intercalate (values.getD []))

theorem split_join {values : List String} (nonempty : values ≠ []) (listed : Listed values) :
    (split (",".intercalate values) ',').filter (· ≠ "") = values := by
  have letters : ",".intercalate values = String.ofList ([','].intercalate (values.map String.toList)) := by
    simp [← String.toList_inj, String.toList_intercalate]
  rw [letters, split_joined nonempty fun value mem => (listed value mem).2, List.filter_eq_self]
  intro value mem
  simpa using (listed value mem).1
theorem listed_split (text : String) : Listed ((split text ',').filter (· ≠ "")) := by
  intro value inside
  obtain ⟨piece, nonempty⟩ := List.mem_filter.mp inside
  exact ⟨by simpa using nonempty, notMem_split piece⟩

theorem present_text {text : String} (nonempty : text ≠ "") : present (some text) = some text := by
  rw [present, Option.filter_some, if_pos (by simpa using nonempty)]
/-- Values are read back exactly if they can stand between commas. -/
theorem values_back_iff (values : Option (List String)) :
    ((present (writtenValues values)).map fun text => (split text ',').filter (· ≠ "")).getD [] = values.getD [] ↔
      Listed (values.getD []) := by
  constructor
  · intro same
    rw [← same]
    cases present (writtenValues values) with
    | none => simp [Listed]
    | some text => exact listed_split text
  · intro listed
    by_cases empty : values.getD [] = []
    · simp [writtenValues, empty, present]
    · have back := split_join empty listed
      have nonempty : ",".intercalate (values.getD []) ≠ "" := by
        intro none
        rw [none] at back
        exact empty back.symm
      rw [writtenValues, if_neg empty, present_text nonempty]
      exact back

theorem toList_writtenFilter (f : CustomFilter) :
    (writtenFilter f).toList = f.attributeType.toList ++ '|' :: (f.key.toList ++ '|' :: f.value.toList) := by
  rw [writtenFilter, String.toList_intercalate]
  simp [List.intercalate]
theorem parted_readFilter (raw : String) : Parted (readFilter raw) := by
  have type (attributeType : String) (whole : '|' ∉ attributeType.toList) :
      (if attributeType = "" then "SpanAttributes" else attributeType) ≠ "" ∧
        '|' ∉ (if attributeType = "" then "SpanAttributes" else attributeType).toList := by
    by_cases empty : attributeType = ""
    · rw [if_pos empty]
      exact ⟨by decide, by decide⟩
    · rw [if_neg empty]
      exact ⟨empty, whole⟩
  have whole {piece : String} (inside : piece ∈ split raw CF_SEP) : '|' ∉ piece.toList := notMem_split inside
  unfold readFilter
  split
  · exact ⟨by decide, by decide, by decide⟩
  · rename_i attributeType pieces
    have first := type attributeType (whole (by simp [pieces]))
    exact ⟨first.1, first.2, by simp⟩
  · rename_i attributeType key rest pieces
    have first := type attributeType (whole (by simp [pieces]))
    exact ⟨first.1, first.2, whole (by simp [pieces])⟩
/-- A custom filter is read back exactly if its type and key can stand before bars. -/
theorem filter_back_iff (f : CustomFilter) : readFilter (writtenFilter f) = f ↔ Parted f := by
  constructor
  · intro same
    rw [← same]
    exact parted_readFilter _
  · rintro ⟨nonempty, type, key⟩
    have pieces : split (writtenFilter f) CF_SEP = f.attributeType :: f.key :: split f.value '|' := by
      rw [split, toList_writtenFilter, CF_SEP, List.splitOn_append_cons_self_of_not_mem type,
        List.splitOn_append_cons_self_of_not_mem key]
      simp [split]
    have value : "|".intercalate (split f.value '|') = f.value := by
      rw [← String.toList_inj, String.toList_intercalate, split, List.map_map]
      simp [Function.comp_def, List.intercalate_splitOn]
    simp only [readFilter, pieces, if_neg nonempty, value]
theorem filters_back_iff (filters : List CustomFilter) :
    ((filters.filter isSet).map (readFilter ∘ writtenFilter)).filter isSet = filters.filter isSet ↔
      ∀ f ∈ filters.filter isSet, Parted f := by
  constructor
  · intro same f mem
    rw [← same] at mem
    obtain ⟨other, -, rfl⟩ := List.mem_map.mp (List.mem_filter.mp mem).1
    exact parted_readFilter _
  · intro parted
    have back : (filters.filter isSet).map (readFilter ∘ writtenFilter) = filters.filter isSet :=
      (List.map_congr_left fun f mem => (filter_back_iff f).mpr (parted f mem)).trans (List.map_id _)
    rw [back, List.filter_filter]
    simp

/-! ### The parameters of a configuration -/

/-- The parameters of the conditions on values. -/
def valueNames : List String := ["models", "providers", "traceTypes", "appNames", "spanNames", "envs"]
def valueLists (config : FilterConfig N) : List (Option (List String)) :=
  [config.models, config.providers, config.traceTypes, config.applicationNames, config.spanNames, config.environments]

section
variable {params : Parameters} {name other : String} {values : Option (List String)}

omit [JsNumbers N] in
@[simp] theorem get_setValues_self (missing : get params name = none) :
    get (setValues name values params) name = writtenValues values := by
  unfold setValues writtenValues
  split
  · exact missing
  · exact get_set_self
omit [JsNumbers N] in
@[simp] theorem get_setValues_ne (different : other ≠ name) : get (setValues name values params) other = get params other := by
  unfold setValues
  split
  · rfl
  · exact get_set_ne different
omit [JsNumbers N] in
@[simp] theorem getAll_setValues_ne (different : other ≠ name) : getAll (setValues name values params) other = getAll params other := by
  unfold setValues
  split
  · rfl
  · exact getAll_set_ne different
@[simp] theorem get_setCost_self (maxCost : Option N) (missing : get params "maxCost" = none) :
    get (setCost maxCost params) "maxCost" = (maxCost.filter JsNumbers.truthy).map JsNumbers.text := by
  unfold setCost
  cases maxCost.filter JsNumbers.truthy with
  | none => exact missing
  | some cost => exact get_set_self
@[simp] theorem get_setCost_ne (maxCost : Option N) (different : other ≠ "maxCost") :
    get (setCost maxCost params) other = get params other := by
  unfold setCost
  split
  · exact get_set_ne different
  · rfl
@[simp] theorem getAll_setCost_ne (maxCost : Option N) (different : other ≠ "maxCost") :
    getAll (setCost maxCost params) other = getAll params other := by
  unfold setCost
  split
  · exact getAll_set_ne different
  · rfl
omit [JsNumbers N] in
@[simp] theorem get_appendFilters_ne (filters : List CustomFilter) (different : other ≠ "cf") :
    get (appendFilters filters params) other = get params other := by
  induction filters generalizing params with
  | nil => rfl
  | cons f filters ih =>
    refine (ih : get (appendFilters filters _) other = _).trans ?_
    by_cases valid : isSet f = true
    · simp [valid, different]
    · simp [valid]
omit [JsNumbers N] in
theorem getAll_appendFilters (filters : List CustomFilter) :
    getAll (appendFilters filters params) "cf" = getAll params "cf" ++ (filters.filter isSet).map writtenFilter := by
  induction filters generalizing params with
  | nil => simp [appendFilters]
  | cons f filters ih =>
    refine (ih : getAll (appendFilters filters _) "cf" = _).trans ?_
    by_cases valid : isSet f = true
    · simp [valid]
    · simp [valid]

end

variable (config : FilterConfig N) (params : Parameters)

theorem get_configToParams_value : (valueNames.map (get (configToParams config params))) = (valueLists config).map writtenValues := by
  simp [valueNames, valueLists, configToParams, configNames]
theorem get_configToParams_cost : get (configToParams config params) "maxCost" =
    (config.maxCost.filter JsNumbers.truthy).map JsNumbers.text := by
  simp [configToParams, configNames]
theorem getAll_configToParams_filters : getAll (configToParams config params) "cf" =
    ((config.customFilters.getD []).filter isSet).map writtenFilter := by
  simp [configToParams, configNames, getAll_appendFilters]
theorem get_configToParams_ne {name : String} (others : name ∉ configNames) :
    get (configToParams config params) name = get params name := by
  simp only [configNames, List.mem_cons, List.not_mem_nil, or_false, not_or] at others
  simp [configToParams, configNames, others]

/-! ### What a reload restores -/

/-- The lists of values that conditions are on. -/
def lists (c : Conditions N) : List (List String) :=
  [c.models, c.providers, c.traceTypes, c.applicationNames, c.spanNames, c.environments]
/-- There is more than a cost that is not positive. -/
def Active (c : Conditions N) : Prop :=
  (∃ values ∈ lists c, values ≠ []) ∨ (∃ cost, c.maxCost = some cost ∧ JsNumbers.positive cost = true) ∨ c.customFilters ≠ []
/-- The conditions that a URL keeps. -/
structure Writable (c : Conditions N) : Prop where
  values : ∀ values ∈ lists c, Listed values
  filters : ∀ f ∈ c.customFilters, Parted f
  cost : c.maxCost ≠ none → Active c

omit [JsNumbers N] in
theorem conditions_ext {c d : Conditions N} :
    c = d ↔ lists c = lists d ∧ c.maxCost = d.maxCost ∧ c.customFilters = d.customFilters := by
  cases c
  cases d
  simp only [Conditions.mk.injEq, lists, List.cons.injEq]
  tauto
theorem active_iff (sets : ∀ f ∈ config.customFilters.getD [], isSet f = true) :
    hasActiveConfig config = true ↔ Active config.conditions := by
  have filters : (config.customFilters.getD []).filter isSet = config.customFilters.getD [] := List.filter_eq_self.mpr sets
  have cost : config.maxCost.any JsNumbers.positive = true ↔
      ∃ cost, config.maxCost.filter JsNumbers.truthy = some cost ∧ JsNumbers.positive cost = true := by
    cases config.maxCost with
    | none => simp
    | some cost =>
      have truthy := JsNumbers.truthy_of_positive cost
      simpa [Option.filter_some, Option.ite_none_right_eq_some] using truthy
  simp only [hasActiveConfig, Bool.or_eq_true, cost, anyValues, Active, lists, FilterConfig.conditions, filters]
  simp [or_assoc]

theorem lists_back : lists (paramsToConfig (configToParams config params) : FilterConfig N).conditions =
    (valueLists config).map fun values =>
      ((present (writtenValues values)).map fun text => (split text ',').filter (· ≠ "")).getD [] := by
  have written := get_configToParams_value config params
  simp only [valueNames, valueLists, List.map_cons, List.map_nil, List.cons.injEq, and_true] at written
  simp only [lists, FilterConfig.conditions, paramsToConfig, readValues, valueLists, List.map_cons, List.map_nil, written]
theorem cost_back : (paramsToConfig (configToParams config params) : FilterConfig N).conditions.maxCost =
    config.conditions.maxCost := by
  simp only [FilterConfig.conditions, paramsToConfig, get_configToParams_cost]
  cases kept : config.maxCost.filter JsNumbers.truthy with
  | none => rfl
  | some cost =>
    have truthy : JsNumbers.truthy cost = true := (Option.filter_eq_some_iff.mp kept).2
    simp [present, JsNumbers.text_ne_empty, JsNumbers.parseFloat_text cost truthy, truthy]
theorem filters_back : (paramsToConfig (configToParams config params) : FilterConfig N).conditions.customFilters =
    (((config.customFilters.getD []).filter isSet).map (readFilter ∘ writtenFilter)).filter isSet := by
  simp only [FilterConfig.conditions, paramsToConfig, getAll_configToParams_filters]
  split
  · rename_i none
    rw [List.map_eq_nil_iff] at none
    simp [none]
  · simp [List.filter_filter, List.map_map]
theorem lists_conditions : lists config.conditions = (valueLists config).map (·.getD []) := rfl

theorem conditions_back_iff :
    (paramsToConfig (configToParams config params) : FilterConfig N).conditions = config.conditions ↔
      (∀ values ∈ lists config.conditions, Listed values) ∧ ∀ f ∈ config.conditions.customFilters, Parted f := by
  rw [conditions_ext, lists_back, cost_back, filters_back, lists_conditions, List.map_inj_left, List.forall_mem_map]
  refine and_congr (forall₂_congr fun values _ => values_back_iff values) ?_
  rw [and_iff_right rfl]
  exact filters_back_iff _
theorem active_back : hasActiveConfig (paramsToConfig (configToParams config params) : FilterConfig N) = true ↔
    Active (paramsToConfig (configToParams config params) : FilterConfig N).conditions := by
  refine active_iff _ fun f listed => ?_
  simp only [paramsToConfig] at listed
  split at listed
  · cases listed
  · exact (List.mem_filter.mp listed).2

/-- The configuration that a page has read, which is none where it is not active. -/
def readConfig (params : Parameters) : FilterConfig N :=
  if hasActiveConfig (paramsToConfig params : FilterConfig N) then paramsToConfig params else {}
theorem conditions_read_iff :
    (readConfig (configToParams config params) : FilterConfig N).conditions = config.conditions ↔ Writable config.conditions := by
  have back := conditions_back_iff config params
  have active := active_back config params
  unfold readConfig
  by_cases isActive : hasActiveConfig (paramsToConfig (configToParams config params) : FilterConfig N) = true
  · rw [if_pos isActive, back]
    constructor
    · intro kept
      refine ⟨kept.1, kept.2, fun _ => ?_⟩
      rw [← back.mpr kept]
      exact active.mp isActive
    · intro writable
      exact ⟨writable.values, writable.filters⟩
  · rw [if_neg isActive]
    constructor
    · intro same
      rw [← same]
      exact ⟨by simp [lists, FilterConfig.conditions, Listed], by simp [FilterConfig.conditions], by simp [FilterConfig.conditions]⟩
    · intro writable
      have inactive : ¬ Active config.conditions := by
        rw [← back.mpr ⟨writable.values, writable.filters⟩]
        exact fun isActive' => isActive (active.mpr isActive')
      have cost : config.conditions.maxCost = none := by_contra fun asked => inactive (writable.cost asked)
      simp only [Active, not_or, not_exists, not_and, not_not] at inactive
      rw [conditions_ext, cost, inactive.2.2]
      refine ⟨?_, rfl, rfl⟩
      have empty := inactive.1
      simp only [lists, List.mem_cons, List.not_mem_nil, or_false, forall_eq_or_imp, forall_eq] at empty
      simpa [lists, FilterConfig.conditions] using empty

variable [JsDates]

omit [JsNumbers N] [JsDates] in
theorem not_blank_of_digit {c : Char} (digit : c.isDigit = true) : isJsSpace c = false := by
  have small : c.toNat ≤ 57 := by
    simp only [Char.isDigit, Bool.and_eq_true, decide_eq_true_eq] at digit
    exact digit.2
  by_contra blank
  simp only [isJsSpace, isSpace, Bool.not_eq_false, Bool.or_eq_true, Bool.and_eq_true, decide_eq_true_eq, beq_iff_eq] at blank
  rcases blank with ⟨listed | high, -⟩ | mark
  · have never : ['\t', '\n', '\x0b', '\x0c', '\r', ' ', '\u0085', '\u00a0', '\u1680', '\u2028', '\u2029', '\u202f',
        '\u205f', '\u3000'].all (fun d => !d.isDigit) = true := by decide
    have unlike := List.all_eq_true.mp never c listed
    rw [digit] at unlike
    cases unlike
  · omega
  · subst mark
    cases digit
omit [JsNumbers N] [JsDates] in
theorem parseInt_repr (n : Nat) : parseInt (Nat.repr n) = some (n : Int) := by
  have digits : ∀ c ∈ Nat.toDigits 10 n, c.isDigit = true := fun c => Nat.isDigit_of_mem_toDigits (by decide) (by decide)
  have value := @Nat.ofDigitChars_ten_toDigits n
  have all : (Nat.toDigits 10 n).takeWhile Char.isDigit = Nat.toDigits 10 n := List.takeWhile_eq_self_iff.mpr digits
  obtain ⟨c, rest, isDigits⟩ := List.exists_cons_of_ne_nil (@Nat.toDigits_ne_nil n 10)
  rw [isDigits] at digits value all
  have first : c.isDigit = true := digits c List.mem_cons_self
  have begun : (c :: rest).dropWhile isJsSpace = c :: rest := by
    rw [List.dropWhile_cons_of_neg (by simp [not_blank_of_digit first])]
  unfold parseInt
  rw [Nat.toList_repr, isDigits, begun]
  split
  · rename_i same
    rw [(List.cons.inj same).1] at first
    cases first
  · rename_i same
    rw [(List.cons.inj same).1] at first
    cases first
  · simp [readDigits, all, value]
omit [JsNumbers N] [JsDates] in
theorem readRange_rangeText (range : TIME_RANGES) : readRange (rangeText range) = some range := by
  cases range <;> rfl

section
variable (dates : DateFns) (now : Int) (store : Store N)

omit [JsNumbers N] in
theorem readTimeLimit_config (fresh : store.details.selectedConfig = {}) :
    (readTimeLimit dates now params store).details.selectedConfig = {} := by
  unfold readTimeLimit
  split
  · exact fresh
  · split
    · rfl
    · exact fresh
  · rfl
omit [JsNumbers N] [JsDates] in
theorem readLimit_details : (readLimit dates now params store).details.timeLimit = store.details.timeLimit ∧
    (readLimit dates now params store).details.selectedConfig = store.details.selectedConfig := by
  unfold readLimit
  split
  · split
    · exact ⟨rfl, rfl⟩
    · exact ⟨rfl, rfl⟩
  · exact ⟨rfl, rfl⟩
theorem readParams_details : (readParams dates now params store).details.timeLimit =
      (readTimeLimit dates now params store).details.timeLimit ∧
    (readParams dates now params store).details.limit =
      (readLimit dates now params (readTimeLimit dates now params store)).details.limit ∧
    (store.details.selectedConfig = {} → (readParams dates now params store).details.selectedConfig = readConfig params) := by
  have kept := readLimit_details params dates now (readTimeLimit dates now params store)
  by_cases active : hasActiveConfig (paramsToConfig params : FilterConfig N) = true
  · simp only [readParams, readConfig, active, if_true]
    exact ⟨kept.1, rfl, fun _ => rfl⟩
  · simp only [readParams, readConfig, if_neg active]
    exact ⟨kept.1, trivial, fun fresh => kept.2.trans (readTimeLimit_config params dates now store fresh)⟩

omit [JsNumbers N] in
theorem readTimeLimit_written {t : TimeLimit} (tr : get params "tr" = some (rangeText t.type))
    (ts : t.type = .CUSTOM → get params "ts" = some (IsoDates.toISOString t.start))
    (te : t.type = .CUSTOM → get params "te" = some (IsoDates.toISOString t.finish)) :
    (readTimeLimit dates now params store).details.timeLimit.type = t.type ∧
      (t.type = .CUSTOM → (readTimeLimit dates now params store).details.timeLimit = t) := by
  have read : (get params "tr").bind readRange = some t.type := by rw [tr, Option.bind_some, readRange_rangeText]
  unfold readTimeLimit
  rw [read]
  cases custom : t.type with
  | CUSTOM =>
    have start : present (get params "ts") = some (IsoDates.toISOString t.start) := by
      rw [ts custom, present_text (JsDates.toISOString_ne_empty _)]
    have finish : present (get params "te") = some (IsoDates.toISOString t.finish) := by
      rw [te custom, present_text (JsDates.toISOString_ne_empty _)]
    simp only [start, finish]
    refine ⟨rfl, fun _ => ?_⟩
    simp [updateFilter, TimeLimit.withType, getTimeLimitObject, JsDates.newDate_toISOString, ← custom]
  | _ => exact ⟨rfl, by simp⟩
omit [JsNumbers N] [JsDates] in
theorem readLimit_written {n : Nat} (written : get params "limit" = some (Nat.repr n)) (positive : 0 < n) :
    (readLimit dates now params store).details.limit = n := by
  have nonempty : Nat.repr n ≠ "" := by
    rw [← String.toList_inj.ne, Nat.toList_repr]
    exact Nat.toDigits_ne_nil
  have read : (present (get params "limit")).bind parseInt = some (n : Int) := by
    rw [written, present_text nonempty, Option.bind_some, parseInt_repr]
  have isPositive : (0 : Int) < n := by exact_mod_cast positive
  simp only [readLimit, read, isPositive, dite_true, updateFilter, Int.toNat_natCast]

end

theorem get_filterToParams (filter : FilterType N) : get (filterToParams filter params) "tr" = some (rangeText filter.timeLimit.type) ∧
    (filter.timeLimit.type = .CUSTOM →
      get (filterToParams filter params) "ts" = some (IsoDates.toISOString filter.timeLimit.start) ∧
      get (filterToParams filter params) "te" = some (IsoDates.toISOString filter.timeLimit.finish)) ∧
    get (filterToParams filter params) "limit" = some (Nat.repr filter.limit) := by
  have own (name : String) (others : name ∉ configNames) : get (filterToParams filter params) name =
      get (set "limit" (Nat.repr filter.limit) (setTimeLimit filter.timeLimit params)) name := get_configToParams_ne _ _ others
  rw [own "tr" (by decide), own "ts" (by decide), own "te" (by decide), own "limit" (by decide)]
  by_cases custom : filter.timeLimit.type = .CUSTOM
  · simp [setTimeLimit, custom]
  · simp [setTimeLimit, custom]

/-- What a filter has in common with that of the page that is loaded again. Custom ends are kept; others are counted from now. -/
structure Restores (before after : FilterType N) : Prop where
  type : after.timeLimit.type = before.timeLimit.type
  ends : before.timeLimit.type = .CUSTOM → after.timeLimit = before.timeLimit
  limit : after.limit = before.limit
  conditions : after.selectedConfig.conditions = before.selectedConfig.conditions

end

end Openlit.FilterUrls
