import Mathlib.Data.List.Sort
import Mathlib.Order.Basic

/-!
Sorting by a key without a promise of stability: all that is known of the
result is that it holds the same items in the order of their keys. Which of
several items with the least key comes first is up to the sort.
-/
namespace Openlit.Sorting

variable {α κ : Type} [LinearOrder κ]

/-- A sort by a key, such as Go's `sort.Slice`. -/
structure KeySort (key : α → κ) where
  sort : List α → List α
  perm : ∀ items, (sort items).Perm items
  ordered : ∀ items, (sort items).Pairwise fun a b => key a ≤ key b

/-- An item of a list whose key is the least in the list. -/
def Least (key : α → κ) (items : List α) (a : α) : Prop := a ∈ items ∧ ∀ b ∈ items, key a ≤ key b

/-- Insertion sort is one such sort. -/
def stableSort (key : α → κ) : KeySort key where
  sort := List.insertionSort fun a b => key a ≤ key b
  perm := List.perm_insertionSort _
  ordered items := by
    have total : Std.Total fun a b : α => key a ≤ key b := ⟨fun a b => le_total (key a) (key b)⟩
    have transitive : IsTrans α fun a b => key a ≤ key b := ⟨fun a b c => le_trans⟩
    exact List.pairwise_insertionSort _ items

/-- What a sort puts first has the least key. -/
theorem sort_head_least {key : α → κ} (by_ : KeySort key) {items : List α} {a : α}
    (first : (by_.sort items).head? = some a) : Least key items a := by
  obtain ⟨rest, sorted⟩ := List.head?_eq_some_iff.mp first
  have perm := by_.perm items
  have ordered := by_.ordered items
  rw [sorted] at perm ordered
  refine ⟨perm.subset List.mem_cons_self, fun b member => ?_⟩
  rcases List.mem_cons.mp (perm.symm.subset member) with rfl | later
  · exact le_refl _
  · exact (List.pairwise_cons.mp ordered).1 b later

/-- Every item with the least key is what some sort puts first. -/
theorem exists_sort_head {key : α → κ} {items : List α} {a : α} (least : Least key items a) :
    ∃ by_ : KeySort key, (by_.sort items).head? = some a := by
  classical
  obtain ⟨before, after, split⟩ := List.append_of_mem least.1
  let rest := (stableSort key).sort (before ++ after)
  have perm : (a :: rest).Perm items := by
    rw [split]
    exact (((stableSort key).perm _).cons a).trans List.perm_middle.symm
  have ordered : (a :: rest).Pairwise fun x y => key x ≤ key y :=
    List.pairwise_cons.mpr ⟨fun b member => least.2 b (perm.subset (List.mem_cons_of_mem a member)),
      (stableSort key).ordered _⟩
  refine ⟨⟨fun xs => if xs = items then a :: rest else (stableSort key).sort xs, fun xs => ?_, fun xs => ?_⟩, ?_⟩
  · by_cases same : xs = items
    · rw [if_pos same, same]
      exact perm
    · rw [if_neg same]
      exact (stableSort key).perm xs
  · by_cases same : xs = items
    · rw [if_pos same]
      exact ordered
    · rw [if_neg same]
      exact (stableSort key).ordered xs
  · simp

end Openlit.Sorting
