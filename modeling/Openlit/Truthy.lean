import Openlit.Fragments

/-!
Truthiness as the TypeScript SDK's setters use it: attributes that are set only
if their value is truthy, and values that are joined without the falsy ones.
-/
namespace Openlit.Truthy
open Openlit.ChatCompletions (join nonEmpty)
open Openlit.Fragments

/-- A text, or nothing for the empty one. -/
def truthyText (text : String) : Option String := if text = "" then none else some text
/-- A count, or nothing for zero. -/
def truthyCount (count : Nat) : Option Nat := if count = 0 then none else some count
/-- `values.filter(Boolean).join(', ')`, if there is a value. -/
def joined (values : List String) : Option String := if nonEmpty values = [] then none else some (join (nonEmpty values))

@[simp] theorem truthyText_inj {a b : String} : truthyText a = truthyText b ↔ a = b := by
  unfold truthyText
  by_cases left : a = "" <;> by_cases right : b = "" <;> simp [left, right, eq_comm]
@[simp] theorem truthyCount_inj {a b : Nat} : truthyCount a = truthyCount b ↔ a = b := by
  unfold truthyCount
  by_cases left : a = 0 <;> by_cases right : b = 0 <;> simp [left, right, eq_comm]
@[simp] theorem truthyCount_eq_none {count : Nat} : truthyCount count = none ↔ count = 0 := by
  simp [truthyCount]

theorem nonEmpty_append (texts more : List String) : nonEmpty (texts ++ more) = nonEmpty texts ++ nonEmpty more := List.filter_append ..
theorem nonEmpty_singleton (text : String) : nonEmpty [text] = (truthyText text).toList := by
  by_cases empty : text = "" <;> simp [nonEmpty, truthyText, empty]
theorem nonEmpty_map {α : Type} (text : α → String) (xs : List α) :
    nonEmpty (xs.map text) = xs.flatMap fun x => (truthyText (text x)).toList := by
  induction xs with
  | nil => rfl
  | cons x rest ih => rw [List.map_cons, ← List.singleton_append, nonEmpty_append, nonEmpty_singleton, ih, List.flatMap_cons]
theorem joined_eq_none {values : List String} : joined values = none ↔ ∀ value ∈ values, value = "" := by
  simp [joined, nonEmpty]

theorem join_of_joined {a b : List String} (same : joined a = joined b) : join (nonEmpty a) = join (nonEmpty b) := by
  unfold joined at same
  by_cases left : nonEmpty a = [] <;> by_cases right : nonEmpty b = []
  · rw [left, right]
  · simp [left, right] at same
  · simp [left, right] at same
  · simpa [left, right] using same
/-- Texts that are no longer, and that are recorded as the same, have the same lengths. -/
theorem lengths_of_joined {α : Type} {xs : List α} {f g : α → String} (shorter : ∀ x ∈ xs, (f x).length ≤ (g x).length)
    (same : joined (xs.map f) = joined (xs.map g)) : ∀ x ∈ xs, (f x).length = (g x).length :=
  lengths_of_join shorter (join_of_joined same)
/-- The same for texts that are recorded as a list. -/
theorem lengths_of_nonEmpty {α : Type} {xs : List α} {f g : α → String} (shorter : ∀ x ∈ xs, (f x).length ≤ (g x).length)
    (same : nonEmpty (xs.map f) = nonEmpty (xs.map g)) : ∀ x ∈ xs, (f x).length = (g x).length :=
  lengths_of_join shorter (congrArg join same)

end Openlit.Truthy
