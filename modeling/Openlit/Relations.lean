import Mathlib.Data.List.Dedup

/-!
The joins, groupings and updates of queries, over lists of rows. A grouping
makes one group for each key that occurs, so a key without rows has none.
-/
namespace Openlit.Relations

variable {α β κ : Type}

/-- `INNER JOIN .. ON`: the pairs of rows that the condition holds of. -/
def innerJoin (on : α → β → Bool) (left : List α) (right : List β) : List (α × β) :=
  left.flatMap fun a => (right.filter (on a)).map fun b => (a, b)

theorem mem_innerJoin (on : α → β → Bool) (left : List α) (right : List β) (p : α × β) :
    p ∈ innerJoin on left right ↔ p.1 ∈ left ∧ p.2 ∈ right ∧ on p.1 p.2 = true := by
  obtain ⟨a, b⟩ := p
  simp only [innerJoin, List.mem_flatMap, List.mem_map, List.mem_filter, Prod.mk.injEq]
  constructor
  · rintro ⟨a, inLeft, b, ⟨inRight, holds⟩, rfl, rfl⟩
    exact ⟨inLeft, inRight, holds⟩
  · rintro ⟨inLeft, inRight, holds⟩
    exact ⟨a, inLeft, b, ⟨inRight, holds⟩, rfl, rfl⟩

/-- `LEFT JOIN .. ON`: a row that has no partner stands alone. -/
def leftJoin (on : α → β → Bool) (left : List α) (right : List β) : List (α × Option β) :=
  left.flatMap fun a =>
    match right.filter (on a) with
    | [] => [(a, none)]
    | partners => partners.map fun b => (a, some b)
theorem mem_leftJoin_none (on : α → β → Bool) (left : List α) (right : List β) (a : α) :
    (a, none) ∈ leftJoin on left right ↔ a ∈ left ∧ ∀ b ∈ right, on a b = false := by
  simp only [leftJoin, List.mem_flatMap]
  constructor
  · rintro ⟨a', inLeft, member⟩
    split at member
    · rename_i alone
      obtain rfl : a = a' := by simpa using member
      exact ⟨inLeft, fun b inRight => by simpa using List.filter_eq_nil_iff.mp alone b inRight⟩
    · simp at member
  · rintro ⟨inLeft, alone⟩
    refine ⟨a, inLeft, ?_⟩
    rw [List.filter_eq_nil_iff.mpr (by simpa using alone)]
    exact List.mem_singleton_self _
theorem mem_leftJoin_some (on : α → β → Bool) (left : List α) (right : List β) (a : α) (b : β) :
    (a, some b) ∈ leftJoin on left right ↔ a ∈ left ∧ b ∈ right ∧ on a b = true := by
  simp only [leftJoin, List.mem_flatMap]
  constructor
  · rintro ⟨a', inLeft, member⟩
    split at member
    · simp at member
    · simp only [List.mem_map, List.mem_filter, Prod.mk.injEq, Option.some.injEq] at member
      obtain ⟨b', ⟨inRight, holds⟩, rfl, rfl⟩ := member
      exact ⟨inLeft, inRight, holds⟩
  · rintro ⟨inLeft, inRight, holds⟩
    refine ⟨a, inLeft, ?_⟩
    have partner : b ∈ right.filter (on a) := List.mem_filter.mpr ⟨inRight, holds⟩
    split
    · rename_i alone
      rw [alone] at partner
      cases partner
    · exact List.mem_map.mpr ⟨b, partner, rfl⟩

/-- `GROUP BY`: the keys that occur, each with its rows. -/
def groupBy [DecidableEq κ] (key : α → κ) (rows : List α) : List (κ × List α) :=
  (rows.map key).dedup.map fun k => (k, rows.filter fun row => key row = k)

theorem mem_groupBy [DecidableEq κ] (key : α → κ) (rows : List α) (group : κ × List α) :
    group ∈ groupBy key rows ↔
      (∃ row ∈ rows, key row = group.1) ∧ group.2 = rows.filter fun row => key row = group.1 := by
  obtain ⟨k, members⟩ := group
  simp only [groupBy, List.mem_map, List.mem_dedup, Prod.mk.injEq]
  constructor
  · rintro ⟨k, occurs, rfl, rfl⟩
    exact ⟨occurs, rfl⟩
  · rintro ⟨occurs, same⟩
    exact ⟨k, occurs, rfl, same.symm⟩

/-- The rows of a group are those with its key. -/
theorem mem_of_mem_groupBy [DecidableEq κ] {key : α → κ} {rows : List α} {group : κ × List α}
    (member : group ∈ groupBy key rows) (row : α) : row ∈ group.2 ↔ row ∈ rows ∧ key row = group.1 := by
  rw [((mem_groupBy key rows group).mp member).2, List.mem_filter, decide_eq_true_iff]

section
variable [DecidableEq κ] {key : α × β → κ} {rightKey : β → κ} {rows : List (α × β)}

/-- A grouping of joined rows by a key that tells the right-hand rows apart has
    one group for each right-hand row, with all the rows that it is joined in. -/
theorem groupBy_right (keyed : ∀ row ∈ rows, key row = rightKey row.2)
    (distinct : ∀ row ∈ rows, ∀ other ∈ rows, rightKey row.2 = rightKey other.2 → row.2 = other.2)
    {group : κ × List (α × β)} (grouped : group ∈ groupBy key rows) :
    ∃ row ∈ rows, group.1 = rightKey row.2 ∧ ∀ other, other ∈ group.2 ↔ other ∈ rows ∧ other.2 = row.2 := by
  obtain ⟨⟨row, member, same⟩, -⟩ := (mem_groupBy key rows group).mp grouped
  have label : group.1 = rightKey row.2 := same.symm.trans (keyed row member)
  refine ⟨row, member, label, fun other => ?_⟩
  rw [mem_of_mem_groupBy grouped, label]
  constructor
  · rintro ⟨inside, equal⟩
    exact ⟨inside, distinct other inside row member ((keyed other inside).symm.trans equal)⟩
  · rintro ⟨inside, equal⟩
    exact ⟨inside, (keyed other inside).trans (congrArg rightKey equal)⟩
theorem exists_groupBy_right (keyed : ∀ row ∈ rows, key row = rightKey row.2)
    (distinct : ∀ row ∈ rows, ∀ other ∈ rows, rightKey row.2 = rightKey other.2 → row.2 = other.2)
    {row : α × β} (member : row ∈ rows) :
    ∃ group ∈ groupBy key rows, group.1 = rightKey row.2 ∧
      ∀ other, other ∈ group.2 ↔ other ∈ rows ∧ other.2 = row.2 := by
  have grouped : (rightKey row.2, rows.filter fun other => key other = rightKey row.2) ∈ groupBy key rows :=
    (mem_groupBy key rows _).mpr ⟨⟨row, member, keyed row member⟩, rfl⟩
  obtain ⟨first, inside, label, members⟩ := groupBy_right keyed distinct grouped
  have same : row.2 = first.2 := distinct row member first inside label
  exact ⟨_, grouped, rfl, fun other => same ▸ members other⟩

end

/-! ### Columns that may fail -/

/-- The rows with a computed column, of a query that is rejected where one computation fails. -/
theorem filterMap_of_mapM {f : α → Option β} {rows : List α} {computed : List β} (ran : rows.mapM f = some computed) :
    rows.filterMap f = computed := by
  induction rows generalizing computed with
  | nil => simpa using ran
  | cons a rest ih =>
    rw [List.mapM_cons] at ran
    obtain ⟨value, first, ran⟩ := Option.bind_eq_some_iff.mp ran
    obtain ⟨values, others, ran⟩ := Option.bind_eq_some_iff.mp ran
    rw [List.filterMap_cons_some first, ih others]
    exact Option.some.inj ran
theorem mem_mapM {f : α → Option β} {rows : List α} {computed : List β} (ran : rows.mapM f = some computed) (b : β) :
    b ∈ computed ↔ ∃ a ∈ rows, f a = some b := by
  rw [← filterMap_of_mapM ran, List.mem_filterMap]
theorem mapM_isSome_iff (f : α → Option β) (rows : List α) :
    (∃ computed, rows.mapM f = some computed) ↔ ∀ a ∈ rows, f a ≠ none := by
  induction rows with
  | nil => simp
  | cons a rest ih =>
    rw [List.mapM_cons, List.forall_mem_cons, ← ih]
    cases first : f a with
    | none => simp
    | some value => cases others : rest.mapM f <;> simp

/-! ### Distinct values -/

theorem nodup_eraseDups [DecidableEq α] : ∀ values : List α, values.eraseDups.Nodup
  | [] => by simp
  | value :: values => by
    rw [List.eraseDups_cons, List.nodup_cons]
    refine ⟨?_, nodup_eraseDups _⟩
    intro again
    simpa using (List.mem_filter.mp (List.mem_eraseDups.mp again)).2
termination_by values => values.length
decreasing_by
  have shorter := List.length_filter_le (fun other => !other == value) values
  simp only [List.length_cons]
  omega

/-- Rows are the same, each as often, if they are for every key. -/
theorem perm_iff_filter_key [DecidableEq α] [DecidableEq κ] (key : α → κ) {rows others : List α} :
    rows.Perm others ↔ ∀ k, (rows.filter (key · = k)).Perm (others.filter (key · = k)) := by
  refine ⟨fun same k => same.filter _, fun same => List.perm_iff_count.mpr fun a => ?_⟩
  have keyed : decide (key a = key a) = true := by simp
  have counts := (same (key a)).count_eq a
  rwa [List.count_filter (p := (key · = key a)) keyed, List.count_filter (p := (key · = key a)) keyed] at counts

/-! ### The first row that matches -/

/-- The rows with the first one that matches changed, where there is one. -/
def updateFirst (matching : α → Bool) (change : α → α) : List α → List α
  | [] => []
  | a :: rest => if matching a then change a :: rest else a :: updateFirst matching change rest

theorem updateFirst_self {matching : α → Bool} {change : α → α} {rows : List α}
    (same : ∀ a, rows.find? matching = some a → change a = a) : updateFirst matching change rows = rows := by
  induction rows with
  | nil => rfl
  | cons a rest ih =>
    by_cases here : matching a = true
    · rw [updateFirst, if_pos here, same a (List.find?_cons_of_pos here)]
    · rw [List.find?_cons_of_neg here] at same
      rw [updateFirst, if_neg here, ih same]
theorem updateFirst_of_none {matching : α → Bool} (change : α → α) {rows : List α}
    (absent : ∀ a ∈ rows, matching a = false) : updateFirst matching change rows = rows :=
  updateFirst_self fun a found => by simpa [List.find?_some found] using absent a (List.mem_of_find?_eq_some found)
/-- A first row that matches still is the first of the rows that match. -/
theorem filter_updateFirst {matching : α → Bool} {change : α → α} {rows : List α}
    (still : ∀ a, rows.find? matching = some a → matching (change a) = true) :
    (updateFirst matching change rows).filter matching = (rows.filter matching).modifyHead change := by
  induction rows with
  | nil => rfl
  | cons a rest ih =>
    by_cases here : matching a = true
    · rw [updateFirst, if_pos here, List.filter_cons_of_pos (still a (List.find?_cons_of_pos here)), List.filter_cons_of_pos here,
        List.modifyHead_cons]
    · rw [List.find?_cons_of_neg here] at still
      rw [updateFirst, if_neg here, List.filter_cons_of_neg here, List.filter_cons_of_neg here, ih still]
theorem find_updateFirst {matching : α → Bool} {change : α → α} {rows : List α}
    (still : ∀ a, rows.find? matching = some a → matching (change a) = true) :
    (updateFirst matching change rows).find? matching = (rows.find? matching).map change := by
  rw [← List.head?_filter, ← List.head?_filter, filter_updateFirst still]
  cases rows.filter matching <;> rfl
theorem filter_updateFirst_other {matching other : α → Bool} {change : α → α}
    (apart : ∀ a, matching a = true → other a = false ∧ other (change a) = false) (rows : List α) :
    (updateFirst matching change rows).filter other = rows.filter other := by
  induction rows with
  | nil => rfl
  | cons a rest ih =>
    by_cases here : matching a = true
    · obtain ⟨before, after⟩ := apart a here
      rw [updateFirst, if_pos here, List.filter_cons_of_neg (by simp [after]), List.filter_cons_of_neg (by simp [before])]
    · rw [updateFirst, if_neg here, List.filter_cons, List.filter_cons, ih]
theorem map_updateFirst {matching : α → Bool} {change : α → α} {key : α → β}
    (keeps : ∀ a, matching a = true → key (change a) = key a) (rows : List α) :
    (updateFirst matching change rows).map key = rows.map key := by
  induction rows with
  | nil => rfl
  | cons a rest ih =>
    by_cases here : matching a = true
    · rw [updateFirst, if_pos here, List.map_cons, List.map_cons, keeps a here]
    · rw [updateFirst, if_neg here, List.map_cons, List.map_cons, ih]
/-- The matching rows are changed in their first one alone, and the others are kept. -/
theorem mem_updateFirst {matching : α → Bool} (change : α → α) {rows : List α} {first : α} {later : List α}
    (found : rows.filter matching = first :: later) (a : α) :
    a ∈ updateFirst matching change rows ↔ (a ∈ rows ∧ matching a = false) ∨ a = change first ∨ a ∈ later := by
  induction rows with
  | nil => simp at found
  | cons b rest ih =>
    cases here : matching b with
    | true =>
      obtain ⟨rfl, rfl⟩ : b = first ∧ rest.filter matching = later := by simpa [here] using found
      have others : a ∈ rest ↔ (a ∈ rest ∧ matching a = false) ∨ a ∈ rest.filter matching := by
        rw [List.mem_filter, ← and_or_left, and_iff_left (Bool.eq_false_or_eq_true (matching a)).symm]
      rw [updateFirst, if_pos here, List.mem_cons, others, List.mem_cons]
      constructor
      · rintro (rfl | ⟨inside, other⟩ | next)
        · exact .inr (.inl rfl)
        · exact .inl ⟨.inr inside, other⟩
        · exact .inr (.inr next)
      · rintro (⟨rfl | inside, other⟩ | rfl | next)
        · simp [here] at other
        · exact .inr (.inl ⟨inside, other⟩)
        · exact .inl rfl
        · exact .inr (.inr next)
    | false =>
      have further : rest.filter matching = first :: later := by simpa [here] using found
      rw [updateFirst, if_neg (by simp [here]), List.mem_cons, ih further, List.mem_cons]
      constructor
      · rintro (rfl | ⟨inside, other⟩ | changed)
        · exact .inl ⟨.inl rfl, here⟩
        · exact .inl ⟨.inr inside, other⟩
        · exact .inr changed
      · rintro (⟨rfl | inside, other⟩ | changed)
        · exact .inl rfl
        · exact .inr (.inl ⟨inside, other⟩)
        · exact .inr (.inr changed)

end Openlit.Relations
