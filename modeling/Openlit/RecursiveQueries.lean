import Mathlib.Algebra.BigOperators.Group.List.Basic
import Mathlib.Data.List.Nodup
import Mathlib.Data.List.Range
import Mathlib.Logic.Relation

/-!
Recursive queries: the rows of a start, and level by level the rows that a step
joins to those of the level before, with the level of each. A query ends at the
first level that is empty; a database that evaluates a limited number of levels
rejects a query that needs more.
-/
namespace Openlit.RecursiveQueries

variable {α : Type} {next : α → List α}

/-- The rows that `k` steps join to the rows of the start. -/
def level (next : α → List α) (start : List α) : Nat → List α
  | 0 => start
  | k + 1 => (level next start k).flatMap next

/-- `WITH RECURSIVE .. UNION ALL ..`, from a level on. -/
def recursive (next : α → List α) : Nat → List α → Nat → Option (List (α × Nat))
  | _, [], _ => some []
  | 0, _ :: _, _ => none
  | limit + 1, row :: rows, k =>
    (recursive next limit ((row :: rows).flatMap next) (k + 1)).map (((row :: rows).map (·, k)) ++ ·)

/-! ### The levels -/

theorem level_flatMap (start : List α) (k : Nat) : level next (start.flatMap next) k = level next start (k + 1) := by
  induction k with
  | zero => rfl
  | succ k ih =>
    rw [level, ih]
    rfl
@[simp] theorem level_nil (k : Nat) : level next [] k = [] := by
  induction k with
  | zero => rfl
  | succ k ih => rw [level, ih, List.flatMap_nil]
/-- After an empty level there are no others. -/
theorem level_eq_nil {start : List α} {j k : Nat} (later : j ≤ k) (empty : level next start j = []) : level next start k = [] := by
  induction later with
  | refl => exact empty
  | step _ ih => rw [level, ih, List.flatMap_nil]

/-- The query is accepted if the levels are used up within the limit. -/
theorem recursive_eq (limit : Nat) (start : List α) (k : Nat) :
    recursive next limit start k =
      if level next start limit = [] then
        some ((List.range limit).flatMap fun j => (level next start j).map (·, k + j))
      else none := by
  induction limit generalizing start k with
  | zero => cases start <;> rfl
  | succ limit ih =>
    cases start with
    | nil => simp [recursive]
    | cons row rows =>
      rw [recursive, ih, level_flatMap]
      by_cases ended : level next (row :: rows) (limit + 1) = []
      · rw [if_pos ended, if_pos ended, Option.map_some, List.range_succ_eq_map, @List.flatMap_cons _ _ 0, List.flatMap_map]
        simp only [level_flatMap, Nat.succ_eq_add_one, Nat.add_assoc, Nat.add_comm 1]
        rfl
      · rw [if_neg ended, if_neg ended, Option.map_none]

section
variable {limit : Nat} {start : List α} {rows : List (α × Nat)}

theorem mem_recursive (ran : recursive next limit start 0 = some rows) {row : α} {k : Nat} :
    (row, k) ∈ rows ↔ row ∈ level next start k := by
  rw [recursive_eq] at ran
  by_cases ended : level next start limit = []
  · rw [if_pos ended, Option.some.injEq] at ran
    rw [← ran]
    simp only [List.mem_flatMap, List.mem_range, List.mem_map, Prod.mk.injEq, Nat.zero_add]
    constructor
    · rintro ⟨j, -, row, member, rfl, rfl⟩
      exact member
    · intro member
      refine ⟨k, Nat.lt_of_not_le fun late => ?_, row, member, rfl, rfl⟩
      rw [level_eq_nil late ended] at member
      cases member
  · rw [if_neg ended] at ran
    cases ran
theorem recursive_isSome_iff : (∃ rows, recursive next limit start 0 = some rows) ↔ level next start limit = [] := by
  rw [recursive_eq]
  by_cases ended : level next start limit = [] <;> simp [ended]

end

/-! ### What is reached -/

/-- A number of steps. -/
inductive Steps (step : α → α → Prop) (first : α) : Nat → α → Prop
  | none : Steps step first 0 first
  | more {k : Nat} {row joined : α} (before : Steps step first k row) (last : step row joined) : Steps step first (k + 1) joined

theorem Steps.head {step : α → α → Prop} {first row : α} {k : Nat} {last : α} (here : step first row)
    (after : Steps step row k last) : Steps step first (k + 1) last := by
  induction after with
  | none => exact .more .none here
  | more _ last ih => exact .more ih last
theorem Steps.append {step : α → α → Prop} {first row last : α} {j k : Nat} (before : Steps step first j row)
    (after : Steps step row k last) : Steps step first (j + k) last := by
  induction after with
  | none => exact before
  | more _ last ih => exact .more ih last
/-- The steps back. -/
theorem Steps.swap {step : α → α → Prop} {first : α} {k : Nat} {last : α} (steps : Steps step first k last) :
    Steps (Function.swap step) last k first := by
  induction steps with
  | none => exact .none
  | more _ last ih => exact .head last ih
/-- Steps from what is kept are steps of another kind too, where each of them keeps it. -/
theorem Steps.imp (kept : α → Prop) {step other : α → α → Prop}
    (each : ∀ {row joined}, kept row → step row joined → kept joined ∧ other row joined) {first last : α} {k : Nat}
    (start : kept first) (steps : Steps step first k last) : kept last ∧ Steps other first k last := by
  induction steps with
  | none => exact ⟨start, .none⟩
  | more _ last ih =>
    obtain ⟨here, last'⟩ := each ih.1 last
    exact ⟨here, .more ih.2 last'⟩
theorem exists_steps_iff {step : α → α → Prop} {first last : α} :
    (∃ k, Steps step first k last) ↔ Relation.ReflTransGen step first last := by
  constructor
  · rintro ⟨k, steps⟩
    induction steps with
    | none => exact .refl
    | more _ last ih => exact ih.tail last
  · intro path
    induction path with
    | refl => exact ⟨0, .none⟩
    | tail _ last ih =>
      obtain ⟨k, steps⟩ := ih
      exact ⟨k + 1, .more steps last⟩

/-- One step of a query. -/
def Step (next : α → List α) (row joined : α) : Prop := joined ∈ next row

theorem mem_level_succ {start : List α} {k : Nat} {row : α} :
    row ∈ level next start (k + 1) ↔ ∃ before ∈ level next start k, Step next before row := List.mem_flatMap
/-- The rows of a level are those that its number of steps leads to. -/
theorem mem_level_iff {start : List α} {k : Nat} {row : α} :
    row ∈ level next start k ↔ ∃ first ∈ start, Steps (Step next) first k row := by
  constructor
  · intro member
    induction k generalizing row with
    | zero => exact ⟨row, member, .none⟩
    | succ k ih =>
      obtain ⟨before, above, step⟩ := mem_level_succ.mp member
      obtain ⟨first, isFirst, steps⟩ := ih above
      exact ⟨first, isFirst, .more steps step⟩
  · rintro ⟨first, isFirst, steps⟩
    induction steps with
    | none => exact isFirst
    | more _ last ih => exact mem_level_succ.mpr ⟨_, ih, last⟩

/-! ### Rows that are joined once -/

/-- Steps within a table that part: each joins no row twice, and no two join the same row or one of the start. -/
structure Parting (next : α → List α) (start table : List α) : Prop where
  startDistinct : start.Nodup
  distinct : ∀ row, (next row).Nodup
  before : ∀ {row other joined}, row ∈ table → other ∈ table → joined ∈ next row → joined ∈ next other → row = other
  apart : ∀ {row joined}, row ∈ table → joined ∈ start → joined ∉ next row
  startStored : start ⊆ table
  stored : ∀ row, next row ⊆ table

variable {start table : List α}

theorem Parting.level_subset (parting : Parting next start table) (k : Nat) : level next start k ⊆ table := by
  cases k with
  | zero => exact parting.startStored
  | succ k =>
    intro row member
    obtain ⟨before, -, step⟩ := mem_level_succ.mp member
    exact parting.stored before step
theorem Parting.nodup_level (parting : Parting next start table) (k : Nat) : (level next start k).Nodup := by
  induction k with
  | zero => exact parting.startDistinct
  | succ k ih =>
    refine List.nodup_flatMap.mpr ⟨fun row _ => parting.distinct row, ih.imp_of_mem ?_⟩
    intro row other isRow isOther different joined here there
    exact different (parting.before (parting.level_subset k isRow) (parting.level_subset k isOther) here there)
theorem Parting.level_unique (parting : Parting next start table) {j k : Nat} {row : α} (here : row ∈ level next start j)
    (there : row ∈ level next start k) : j = k := by
  induction j generalizing k row with
  | zero =>
    cases k with
    | zero => rfl
    | succ k =>
      obtain ⟨before, above, step⟩ := mem_level_succ.mp there
      exact absurd step (parting.apart (parting.level_subset k above) here)
  | succ j ih =>
    obtain ⟨before, above, step⟩ := mem_level_succ.mp here
    cases k with
    | zero => exact absurd step (parting.apart (parting.level_subset j above) there)
    | succ k =>
      obtain ⟨before', above', step'⟩ := mem_level_succ.mp there
      obtain rfl := parting.before (parting.level_subset j above) (parting.level_subset k above') step step'
      rw [ih above above']
theorem Parting.nodup_levels (parting : Parting next start table) (limit : Nat) :
    ((List.range limit).flatMap (level next start)).Nodup := by
  refine List.nodup_flatMap.mpr ⟨fun k _ => parting.nodup_level k, List.nodup_range.imp ?_⟩
  intro j k different row here there
  exact different (parting.level_unique here there)

/-- No row comes back twice, at whatever levels. -/
theorem Parting.nodup_recursive (parting : Parting next start table) {limit : Nat} {rows : List (α × Nat)}
    (ran : recursive next limit start 0 = some rows) : (rows.map Prod.fst).Nodup := by
  rw [recursive_eq] at ran
  by_cases ended : level next start limit = []
  · rw [if_pos ended, Option.some.injEq] at ran
    rw [← ran, List.map_flatMap]
    simpa [Function.comp_def] using parting.nodup_levels limit
  · rw [if_neg ended] at ran
    cases ran
/-- There are no more levels than rows in the table. -/
theorem Parting.level_length (parting : Parting next start table) : level next start table.length = [] := by
  by_contra more
  have nonempty {k : Nat} (early : k ≤ table.length) : 1 ≤ (level next start k).length := by
    refine List.length_pos_iff.mpr fun empty => more ?_
    exact level_eq_nil early empty
  have few : ((List.range (table.length + 1)).flatMap (level next start)).length ≤ table.length := by
    refine (List.subperm_of_subset (parting.nodup_levels _) ?_).length_le
    intro row member
    obtain ⟨k, -, here⟩ := List.mem_flatMap.mp member
    exact parting.level_subset k here
  have many : table.length + 1 ≤ ((List.range (table.length + 1)).flatMap (level next start)).length := by
    rw [List.length_flatMap]
    have ones : ∀ count ∈ (List.range (table.length + 1)).map fun k => (level next start k).length, 1 ≤ count := by
      intro count member
      obtain ⟨k, early, rfl⟩ := List.mem_map.mp member
      exact nonempty (Nat.lt_succ_iff.mp (List.mem_range.mp early))
    simpa using List.length_le_sum_of_one_le _ ones
  omega

end Openlit.RecursiveQueries
