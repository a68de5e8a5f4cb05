import Mathlib.Algebra.Field.Rat
import Mathlib.Data.Sum.Order
import Openlit.FilterStore
import Openlit.Pages

/-!
The pages of requests (`getRequests` of `lib/platform/request/index.ts`) as a user
turns them, from the first page to the one behind which there is none. Every page
is a query of its own, and ClickHouse puts rows with equal values in any order.
-/
namespace Openlit.RequestPages
open Openlit.FilterStore Openlit.Pages Openlit.Text
open Openlit.PreviousWindows (DateFns utc)

/-! ### The queries -/

/-- The rows that a condition selects, and the value of an expression in a row. -/
class Traces (Row κ : Type) where
  selects : String → Row → Bool
  value : String → Row → κ

/-- The expression behind `ORDER BY`. -/
def orderBy (sorting : FilterSorting) : String :=
  if contains sorting.type "cost" then "toFloat64OrZero(" ++ sorting.type ++ ")"
  else if contains sorting.type "tokens" then "toInt32OrZero(" ++ sorting.type ++ ")"
  else sorting.type

structure Answer (Row : Type) where
  err : Option String := none
  records : List Row := []
  total : Option Nat := none
  deriving DecidableEq
/-- What `getRequests` makes of the answers to its two queries. -/
def getRequests {Row : Type} (count : Except String Nat) (rows : Except String (List Row)) : Answer Row :=
  match count with
  | .error err => { err := some err }
  | .ok total =>
    match rows with
    | .error err => { err := some err, total := some total }
    | .ok records => { records, total := some total }

section
variable {Row κ N : Type} [LinearOrder κ] [Traces Row κ] [JsNumbers N] [IsoDates]

variable (κ) in
def selected (table : List Row) (filter : FilterType N) : List Row := table.filter (Traces.selects κ (condition filter))
/-- The key of the order, where descending values ascend in the dual order. -/
def sortKey (sorting : FilterSorting) (row : Row) : κ ⊕ₗ κᵒᵈ :=
  match sorting.direction with
  | .asc => Sum.inlₗ (Traces.value (orderBy sorting) row)
  | .desc => Sum.inrₗ (OrderDual.toDual (Traces.value (orderBy sorting) row))

/-- An answer that ClickHouse may give: the number of rows in one state of the table, and a page of the rows in another. -/
def Answers (counted listed : List Row) (filter : FilterType N) (answer : Answer Row) : Prop :=
  ∃ offset : Nat, filter.offset = offset ∧
    ∃ arranged, Arranged (sortKey (κ := κ) filter.sorting) (selected κ listed filter) arranged ∧
      answer = getRequests (.ok (selected κ counted filter).length) (.ok (page filter.limit offset arranged))

end

/-! ### Turning pages -/

section
variable {Row N : Type}

def currentPage (filter : FilterType N) : ℚ := filter.offset / filter.limit + 1
/-- `ceil(total / limit)`. -/
def totalPage (total : Nat) (filter : FilterType N) : Nat := (total + filter.limit - 1) / filter.limit
def lastPage (total : Nat) (filter : FilterType N) : Bool :=
  totalPage total filter = 0 || currentPage filter = totalPage total filter
/-- The pages can be turned once the conditions are listed. -/
def nextEnabled (store : Store N) (answer : Answer Row) : Bool :=
  store.config.isSome && 0 < answer.total.getD 0 && !lastPage (answer.total.getD 0) store.details

variable (dates : DateFns) (now : Int)

def clickNext (store : Store N) : Store N :=
  updateFilter dates now store (.offset (store.details.offset + 1 * store.details.limit))
/-- The answers that are shown up to the page behind which there is none. The server answers one request after the other. -/
def browse (server : Nat → FilterType N → Answer Row) : Nat → Nat → Store N → Option (List (Answer Row))
  | 0, _, _ => none
  | fuel + 1, i, store =>
    let answer := server i store.details
    if nextEnabled store answer then (browse server fuel (i + 1) (clickNext dates now store)).map (answer :: ·) else some [answer]

/-- The page `i` of a filter. -/
def atPage (details : FilterType N) (config : FilterConfig N) (i : Nat) : Store N :=
  { details := { details with offset := i * details.limit }, config := some config }

end

/-! ### What a user is shown -/

section
variable {Row N : Type} {dates : DateFns} {now : Int} {server : Nat → FilterType N → Answer Row} {details : FilterType N}
  {config : FilterConfig N}

theorem clickNext_atPage (i : Nat) : clickNext dates now (atPage details config i) = atPage details config (i + 1) := by
  have moved : (i : Int) * details.limit + 1 * details.limit = (i + 1 : Nat) * details.limit := by
    push_cast
    ring
  rw [clickNext, updateFilter, atPage, atPage, moved]

theorem total_le (total : Nat) (filter : FilterType N) : total ≤ totalPage total filter * filter.limit := by
  have short := Nat.lt_div_mul_add filter.limit_pos (a := total + filter.limit - 1)
  have positive := filter.limit_pos
  unfold totalPage
  omega
theorem nextEnabled_iff {answer : Answer Row} {total : Nat} (counted : answer.total = some total) (i : Nat) :
    nextEnabled (atPage details config i) answer = true ↔ 0 < total ∧ totalPage total details ≠ i + 1 := by
  have current : currentPage (atPage details config i).details = (i + 1 : Nat) := by
    have positive : (details.limit : ℚ) ≠ 0 := by exact_mod_cast details.limit_pos.ne'
    simp [currentPage, atPage, positive]
  have pages : totalPage total (atPage details config i).details = totalPage total details := rfl
  have some_ : totalPage total details = 0 → total = 0 := fun none_ => by
    have := total_le total details
    rw [none_] at this
    omega
  simp only [nextEnabled, lastPage, counted, Option.getD_some, current, pages, Nat.cast_inj]
  simp only [atPage, Option.isSome_some, Bool.true_and, Bool.and_eq_true, Bool.not_eq_true', Bool.or_eq_false_iff,
    decide_eq_true_eq, decide_eq_false_iff_not]
  grind

/-- A page behind which there is none, of some requests, is the last one. -/
theorem totalPage_of_last {answer : Answer Row} {total i : Nat} (counted : answer.total = some total)
    (last : nextEnabled (atPage details config i) answer = false) (some_ : 0 < total) : totalPage total details = i + 1 := by
  by_contra differ
  rw [(nextEnabled_iff counted i).mpr ⟨some_, differ⟩] at last
  cases last

variable (server details config) in
def answerAt (i : Nat) : Answer Row := server i (atPage details config i).details

/-- The pages up to the first behind which there is none. -/
theorem browse_to {n i : Nat}
    (earlier : ∀ j < n, nextEnabled (atPage details config (i + j)) (answerAt server details config (i + j)) = true)
    (last : nextEnabled (atPage details config (i + n)) (answerAt server details config (i + n)) = false) :
    browse dates now server (n + 1) i (atPage details config i) =
      some ((List.range' i (n + 1)).map (answerAt server details config)) := by
  induction n generalizing i with
  | zero =>
    unfold answerAt at last ⊢
    simp only [Nat.add_zero] at last
    simp [browse, last]
  | succ n ih =>
    have shifted (j : Nat) : i + 1 + j = i + (j + 1) := by omega
    have next : browse dates now server (n + 1) (i + 1) (atPage details config (i + 1)) =
        some ((List.range' (i + 1) (n + 1)).map (answerAt server details config)) := by
      refine ih (fun j less => ?_) ?_
      · rw [shifted]
        exact earlier (j + 1) (Nat.succ_lt_succ less)
      · rw [shifted]
        exact last
    have enabled := earlier 0 (Nat.succ_pos n)
    rw [Nat.add_zero] at enabled
    rw [browse, clickNext_atPage, List.range'_succ, List.map_cons, next]
    unfold answerAt at enabled ⊢
    simp [enabled]

/-- A user who comes to an end has seen such pages. -/
theorem browse_some {fuel i : Nat} {pages : List (Answer Row)}
    (run : browse dates now server fuel i (atPage details config i) = some pages) :
    ∃ n, nextEnabled (atPage details config (i + n)) (answerAt server details config (i + n)) = false ∧
      pages = (List.range' i (n + 1)).map (answerAt server details config) := by
  induction fuel generalizing i pages with
  | zero => cases run
  | succ fuel ih =>
    rw [browse, clickNext_atPage] at run
    cases enabled : nextEnabled (atPage details config i) (server i (atPage details config i).details) with
    | false =>
      rw [enabled] at run
      exact ⟨0, enabled, by simpa [answerAt] using run.symm⟩
    | true =>
      simp only [enabled, if_true] at run
      obtain ⟨rest, later, rfl⟩ := Option.map_eq_some_iff.mp run
      obtain ⟨n, last, shown⟩ := ih later
      refine ⟨n + 1, ?_, ?_⟩
      · rwa [← Nat.add_assoc, Nat.add_right_comm]
      · rw [shown, List.range'_succ, List.map_cons]
        rfl

variable (dates now) in
/-- While the server counts as many rows, the pages come to an end. -/
theorem browse_ends {total : Nat} (counted : ∀ i, (answerAt server details config i).total = some total) :
    ∃ n, browse dates now server (n + 1) 0 (atPage details config 0) =
        some ((List.range' 0 (n + 1)).map (answerAt server details config)) ∧ total ≤ (n + 1) * details.limit := by
  have enough := total_le total details
  refine ⟨totalPage total details - 1, browse_to (fun j earlier => ?_) ?_, enough.trans (Nat.mul_le_mul_right _ (by omega))⟩
  · rw [nextEnabled_iff (counted _), Nat.zero_add]
    refine ⟨Nat.pos_of_ne_zero fun none_ => ?_, by omega⟩
    have empty : totalPage 0 details = 0 := Nat.div_eq_of_lt (by have := details.limit_pos; omega)
    rw [none_, empty] at earlier
    cases earlier
  · rw [← Bool.not_eq_true, nextEnabled_iff (counted _), Nat.zero_add]
    rintro ⟨some_, notLast⟩
    have none_ : totalPage total details = 0 := by omega
    rw [none_] at enough
    omega

section
variable {κ : Type} [LinearOrder κ] [Traces Row κ] [JsNumbers N] [IsoDates]

omit [LinearOrder κ] [Traces Row κ] [JsNumbers N] [IsoDates] in
theorem records_shown {arrangement : Nat → List Row}
    (records : ∀ i, (answerAt server details config i).records = page details.limit (i * details.limit) (arrangement i)) (n : Nat) :
    ((List.range' 0 n).map (answerAt server details config)).flatMap (·.records) = Pages.shown details.limit arrangement n := by
  rw [← List.range_eq_range', List.flatMap_map, Pages.shown]
  exact List.flatMap_congr fun i _ => records i

variable (details config) in
/-- What each page shows is cut out of an arrangement of the rows. -/
theorem exists_arrangement {counted listed : Nat → List Row}
    (answers : ∀ i filter, 0 ≤ filter.offset → Answers (κ := κ) (counted i) (listed i) filter (server i filter)) :
    ∃ arrangement : Nat → List Row,
      (∀ i, Arranged (sortKey (κ := κ) details.sorting) (selected κ (listed i) details) (arrangement i)) ∧
      (∀ i, (answerAt server details config i).total = some (selected κ (counted i) details).length) ∧
      ∀ i, (answerAt server details config i).records = page details.limit (i * details.limit) (arrangement i) := by
  have each (i : Nat) := answers i (atPage details config i).details
    (Int.mul_nonneg (Int.natCast_nonneg i) (Int.natCast_nonneg details.limit))
  choose offset place arrangement arranged answer using each
  refine ⟨arrangement, arranged, fun i => congrArg Answer.total (answer i), fun i => ?_⟩
  have at_ : offset i = i * details.limit := by
    have : ((i * details.limit : Nat) : Int) = offset i := by
      rw [← place i]
      push_cast
      rfl
    exact_mod_cast this.symm
  rw [← at_]
  exact congrArg Answer.records (answer i)

/-- Each arrangement may come with the page it is for. -/
theorem exists_server {table : List Row} {arrangement : Nat → List Row}
    (arranged : ∀ i, Arranged (sortKey (κ := κ) details.sorting) (selected κ table details) (arrangement i)) (config : FilterConfig N) :
    ∃ server : Nat → FilterType N → Answer Row,
      (∀ i filter, 0 ≤ filter.offset → Answers (κ := κ) table table filter (server i filter)) ∧
      ∀ i, (answerAt server details config i).total = some (selected κ table details).length ∧
        (answerAt server details config i).records = page details.limit (i * details.limit) (arrangement i) := by
  have each (i : Nat) (filter : FilterType N) : ∃ answer, (0 ≤ filter.offset → Answers (κ := κ) table table filter answer) ∧
      (filter = (atPage details config i).details →
        answer = getRequests (.ok (selected κ table details).length)
          (.ok (page details.limit (i * details.limit) (arrangement i)))) := by
    by_cases asked : filter = (atPage details config i).details
    · subst asked
      exact ⟨_, fun _ => ⟨i * details.limit, by push_cast; rfl, arrangement i, arranged i, rfl⟩, fun _ => rfl⟩
    · have order : Sorting.KeySort (sortKey (κ := κ) filter.sorting : Row → κ ⊕ₗ κᵒᵈ) := Sorting.stableSort _
      refine ⟨_, fun nonneg => ⟨filter.offset.toNat, (Int.toNat_of_nonneg nonneg).symm, order.sort (selected κ table filter),
        ⟨order.perm _, order.ordered _⟩, rfl⟩, fun same => absurd same asked⟩
  choose server answers pages using each
  refine ⟨server, answers, fun i => ?_⟩
  unfold answerAt
  rw [pages i _ rfl]
  exact ⟨rfl, rfl⟩

/-- The pages of a table that stays as it is show every request once, in whatever order ClickHouse puts equal values, exactly if no
page ends between different requests that have one value of the sorted column. -/
theorem browse_exactly_iff (table : List Row) (details : FilterType N) (config : FilterConfig N) :
    (∀ server : Nat → FilterType N → Answer Row,
      (∀ i filter, 0 ≤ filter.offset → Answers (κ := κ) table table filter (server i filter)) →
      ∃ fuel pages, browse dates now server fuel 0 (atPage details config 0) = some pages ∧
        (pages.flatMap (·.records)).Perm (selected κ table details)) ↔
      ∀ i, ¬ Divides (sortKey (κ := κ) details.sorting) (selected κ table details) (i * details.limit) := by
  have enough := total_le (selected κ table details).length details
  constructor
  · intro all i divides
    have inside : i * details.limit < (selected κ table details).length := by
      obtain ⟨a, -, -, -, -, -, -, upTo⟩ := divides
      exact upTo.trans_le (through_le _ _)
    refine (shown_exactly_iff enough).mp (fun arrangement arranged => ?_) i ?_ divides
    · obtain ⟨server, answers, at_⟩ := exists_server arranged config
      obtain ⟨fuel, pages, run, perm⟩ := all server answers
      obtain ⟨n, last, rfl⟩ := browse_some run
      rw [Nat.zero_add] at last
      rw [totalPage_of_last (at_ n).1 last (Nat.zero_lt_of_lt inside), ← records_shown fun i => (at_ i).2]
      exact perm
    · exact Nat.lt_of_mul_lt_mul_right (inside.trans_le enough)
  · intro whole server answers
    obtain ⟨arrangement, arranged, counted, records⟩ := exists_arrangement details config answers
    obtain ⟨n, run, reaches⟩ := browse_ends dates now counted
    refine ⟨n + 1, _, run, ?_⟩
    rw [records_shown records]
    exact (shown_exactly_iff reaches).mpr (fun i _ => whole i) arrangement arranged

/-- While requests are added, each request that was there before the first page and has its value for itself is on one of the pages, if
the last page counts all requests that it lists. -/
theorem browse_keeps {counted listed : Nat → List Row} {server : Nat → FilterType N → Answer Row}
    (answers : ∀ i filter, 0 ≤ filter.offset → Answers (κ := κ) (counted i) (listed i) filter (server i filter))
    (grows : ∀ i, (listed i).Subperm (listed (i + 1))) {details : FilterType N} {config : FilterConfig N} {fuel : Nat}
    {pages : List (Answer Row)} (run : browse dates now server fuel 0 (atPage details config 0) = some pages)
    (settled : (selected κ (listed (pages.length - 1)) details).length ≤ (selected κ (counted (pages.length - 1)) details).length)
    {row : Row} (there : row ∈ selected κ (listed 0) details)
    (own : ∀ i, ∀ other ∈ listed i,
      sortKey (κ := κ) details.sorting other = sortKey (κ := κ) details.sorting row → other = row) :
    row ∈ pages.flatMap (·.records) := by
  obtain ⟨arrangement, arranged, totals, records⟩ := exists_arrangement details config answers
  obtain ⟨n, last, rfl⟩ := browse_some run
  rw [List.length_map, List.length_range', Nat.add_sub_cancel] at settled
  rw [records_shown records]
  have reaches : (selected κ (counted n) details).length ≤ (n + 1) * details.limit := by
    rcases Nat.eq_zero_or_pos (selected κ (counted n) details).length with none_ | some_
    · rw [none_]
      exact Nat.zero_le _
    · rw [Nat.zero_add] at last
      rw [← totalPage_of_last (totals n) last some_]
      exact total_le _ _
  exact shown_while_growing arranged (fun i => (grows i).filter _) (settled.trans reaches) there
    fun i other mem => own i other (List.mem_of_mem_filter mem)

end

end

@[reducible] def onlyZero : JsNumbers Unit where
  text _ := "0"
  parseFloat _ := ()
  truthy _ := false
  positive _ := false
  toFixed _ := ⟨false, '0', ".0000000000".toList, by decide, by decide⟩
  text_ne_empty _ := by decide
  parseFloat_text _ _ := rfl
  truthy_of_positive _ positive := positive
@[reducible] def newYear : IsoDates := ⟨fun _ => "2024-01-01T00:00:00.000Z"⟩
/-- Requests that are nothing but their times, all of them in the range. -/
@[reducible] def times : Traces Nat Nat := ⟨fun _ _ => true, fun _ time => time⟩
attribute [local instance] onlyZero newYear times

/-- A request comes in after the first page. -/
def added (i : Nat) : List Nat := if i = 0 then [1, 2, 3] else [1, 2, 3, 4]
def answer (i : Nat) (filter : FilterType Unit) : Answer Nat :=
  let rows := selected Nat (added i) filter
  getRequests (.ok rows.length)
    (.ok (page filter.limit filter.offset.toNat ((Sorting.stableSort (sortKey (κ := Nat) filter.sorting)).sort rows)))
def twoByTwo : FilterType Unit := { initialDetails utc 0 with limit := 2, limit_pos := by decide }
def twoPages : List (Answer Nat) := [⟨none, [3, 2], some 3⟩, ⟨none, [2, 1], some 4⟩]

theorem first_kept : 1 ∈ twoPages.flatMap (·.records) := by
  have answers (i : Nat) (filter : FilterType Unit) (nonneg : 0 ≤ filter.offset) :
      Answers (κ := Nat) (added i) (added i) filter (answer i filter) := by
    exact ⟨filter.offset.toNat, (Int.toNat_of_nonneg nonneg).symm, _,
      ⟨(Sorting.stableSort _).perm _, (Sorting.stableSort _).ordered _⟩, rfl⟩
  have grows (i : Nat) : (added i).Subperm (added (i + 1)) := by
    rcases i with _ | i
    · exact List.Sublist.subperm (by decide)
    · exact List.Subperm.refl _
  have run : browse utc 0 answer 2 0 (atPage twoByTwo {} 0) = some twoPages := by decide +kernel
  exact browse_keeps answers grows run (by decide) (by decide) fun i other _ same => Sum.inr_injective same

end Openlit.RequestPages
