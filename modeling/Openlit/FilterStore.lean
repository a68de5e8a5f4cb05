import Openlit.FilterClauses
import Openlit.PreviousWindows

/-!
The filter that the pages of the client share (`store/filter.ts`) and the updates
of it. The size of a page, the conditions and the order start again with the first
page. A new time range clears the conditions but keeps the page, and so does the
refresh that moves the end of the range.
-/
namespace Openlit.FilterStore
open Openlit.FilterClauses (CustomFilter FilterWhereConditionType MaxCost SelectedConfig getFilterWhereCondition)
open Openlit.PreviousWindows (DateFns TIME_RANGES)

/-! ### The filter -/

/-- The numbers of JavaScript, as far as filters use them. A number that is not 0 is read back as it was written. -/
class JsNumbers (N : Type) where
  text : N → String
  parseFloat : String → N
  truthy : N → Bool
  positive : N → Bool
  /-- `toFixed(10)`. -/
  toFixed : N → MaxCost
  text_ne_empty : ∀ n, text n ≠ ""
  parseFloat_text : ∀ n, truthy n = true → parseFloat (text n) = n
  truthy_of_positive : ∀ n, positive n = true → truthy n = true

class IsoDates where
  toISOString : Int → String

/-- `Partial<FilterConfig>`, without the number of rows, by which no page filters. -/
structure FilterConfig (N : Type) where
  models : Option (List String) := none
  providers : Option (List String) := none
  traceTypes : Option (List String) := none
  applicationNames : Option (List String) := none
  spanNames : Option (List String) := none
  environments : Option (List String) := none
  maxCost : Option N := none
  customFilters : Option (List CustomFilter) := none

structure TimeLimit where
  type : TIME_RANGES
  start : Int
  finish : Int
  deriving DecidableEq
inductive Direction
  | asc
  | desc
  deriving DecidableEq, Repr
structure FilterSorting where
  type : String
  direction : Direction
  deriving DecidableEq, Repr
inductive REFRESH_RATES
  | Never
  | seconds30
  | minute1
  | minutes5
  | minutes15
  deriving DecidableEq, Repr
/-- The size of a page is never 0: it is chosen from a list, or read from a URL where it is positive. -/
structure FilterType (N : Type) where
  timeLimit : TimeLimit
  limit : Nat
  limit_pos : 0 < limit
  offset : Int
  selectedConfig : FilterConfig N
  sorting : FilterSorting
  refreshRate : REFRESH_RATES
/-- The filter and what the server has listed for its conditions. -/
structure Store (N : Type) where
  details : FilterType N
  config : Option (FilterConfig N)

def DEFAULT_TIME_RANGE : TIME_RANGES := .H24
def DEFAULT_LIMIT : Nat := 25
def DEFAULT_SORTING : FilterSorting := ⟨"Timestamp", .desc⟩

/-! ### Updates -/

/-- The ends of a time range; of a custom one, those that are given. -/
def getTimeLimitObject (dates : DateFns) (now : Int) (value : TIME_RANGES) (extraParams : Option (Int × Int)) : Option (Int × Int) :=
  match value with
  | .H24 => some (dates.addDays now (-1), now)
  | .D7 => some (dates.addDays now (-7), now)
  | .M1 => some (dates.addMonths now (-1), now)
  | .M3 => some (dates.addMonths now (-3), now)
  | .CUSTOM => extraParams

/-- The keys of `updateFilter` with their values. -/
inductive Update (N : Type)
  | timeLimitType (value : TIME_RANGES) (extraParams : Option (Int × Int))
  | limit (size : Nat) (positive : 0 < size)
  | selectedConfig (config : FilterConfig N) (clearFilter : Bool)
  | sorting (value : FilterSorting)
  | offset (value : Int)
  | timeLimitEnd (value : Option Int)
  | refreshRate (value : REFRESH_RATES)
  | pageChange

variable {N : Type}

def initialDetails (dates : DateFns) (now : Int) : FilterType N where
  timeLimit := ⟨DEFAULT_TIME_RANGE, dates.addDays now (-1), now⟩
  limit := DEFAULT_LIMIT
  limit_pos := by decide
  offset := 0
  selectedConfig := {}
  sorting := DEFAULT_SORTING
  refreshRate := .minute1
def initialStore (dates : DateFns) (now : Int) : Store N := ⟨initialDetails dates now, none⟩

/-- Ends that are not given stay as they are. -/
def TimeLimit.withType (t : TimeLimit) (type : TIME_RANGES) (ends : Option (Int × Int)) : TimeLimit where
  type
  start := (ends.map (·.1)).getD t.start
  finish := (ends.map (·.2)).getD t.finish

def updateFilter (dates : DateFns) (now : Int) (store : Store N) : Update N → Store N
  | .timeLimitType value extraParams =>
    { details := { store.details with
        timeLimit := store.details.timeLimit.withType value (getTimeLimitObject dates now value extraParams)
        selectedConfig := {} }
      config := none }
  | .limit size positive => { store with details := { store.details with limit := size, limit_pos := positive, offset := 0 } }
  | .selectedConfig config clearFilter =>
    { store with details := { store.details with selectedConfig := if clearFilter then {} else config, offset := 0 } }
  | .sorting value => { store with details := { store.details with sorting := value, offset := 0 } }
  | .offset value => { store with details := { store.details with offset := value } }
  | .timeLimitEnd value =>
    let timeLimit := { store.details.timeLimit with finish := value.getD store.details.timeLimit.finish }
    { store with details := { store.details with timeLimit } }
  | .refreshRate value => { store with details := { store.details with refreshRate := value } }
  | .pageChange =>
    { store with details :=
        { store.details with offset := 0, limit := DEFAULT_LIMIT, limit_pos := by decide, sorting := DEFAULT_SORTING } }

/-! ### What a filter asks for -/

/-- The conditions of a configuration: a list that is empty is none, and so is a cost of 0 and a filter without a key or a value. -/
structure Conditions (N : Type) where
  models : List String := []
  providers : List String := []
  traceTypes : List String := []
  applicationNames : List String := []
  spanNames : List String := []
  environments : List String := []
  maxCost : Option N := none
  customFilters : List CustomFilter := []

def isSet (f : CustomFilter) : Bool := f.key ≠ "" ∧ f.value ≠ ""
def FilterConfig.conditions [JsNumbers N] (config : FilterConfig N) : Conditions N where
  models := config.models.getD []
  providers := config.providers.getD []
  traceTypes := config.traceTypes.getD []
  applicationNames := config.applicationNames.getD []
  spanNames := config.spanNames.getD []
  environments := config.environments.getD []
  maxCost := config.maxCost.filter JsNumbers.truthy
  customFilters := (config.customFilters.getD []).filter isSet

/-- The selected configuration as the server gets it. -/
def selectedConfig [JsNumbers N] (config : FilterConfig N) : SelectedConfig where
  providers := config.providers.getD []
  maxCost := (config.maxCost.filter JsNumbers.truthy).map JsNumbers.toFixed
  models := config.models.getD []
  traceTypes := config.traceTypes.getD []
  applicationNames := config.applicationNames.getD []
  spanNames := config.spanNames.getD []
  environments := config.environments.getD []
  customFilters := config.customFilters.getD []
/-- The condition of the query for the filter's requests. -/
def condition [JsNumbers N] [IsoDates] (filter : FilterType N) : String :=
  getFilterWhereCondition
    { start := some (IsoDates.toISOString filter.timeLimit.start)
      «end» := some (IsoDates.toISOString filter.timeLimit.finish)
      selectedConfig := some (selectedConfig filter.selectedConfig) } true

end Openlit.FilterStore
