import Mathlib.Data.List.Basic
import Mathlib.Data.List.Nodup
import Openlit.Lookups

/-!
Kinds with their ranks, the best first, and the first element of the best kind
in a list. It can be found in one pass, which takes an element where its kind is
better than the best one so far (`firstBest_concat`), and it depends on the
order of the elements of one kind only (`firstBest_congr`).
-/
namespace Openlit.Ranks

section
variable {α κ : Type} [DecidableEq κ]

/-- The first element of the first kind that occurs, with the rank of its kind. -/
def firstBest (order : List (κ × Nat)) (kind : α → κ) (elements : List α) : Option (α × Nat) :=
  order.findSome? fun entry => (elements.find? (kind · = entry.1)).map (·, entry.2)
/-- The better of what was best so far and an element whose kind has a rank. -/
def preferred (best : Option (α × Nat)) (element : α) : Option Nat → Option (α × Nat)
  | none => best
  | some rank =>
    match best with
    | none => some (element, rank)
    | some (earlier, least) => if rank < least then some (element, rank) else some (earlier, least)

variable {order : List (κ × Nat)} {kind : α → κ}

theorem firstBest_rank {elements : List α} {best : α × Nat} (found : firstBest order kind elements = some best) :
    best.2 ∈ order.map Prod.snd := by
  obtain ⟨entry, member, here⟩ := List.exists_of_findSome?_eq_some found
  obtain ⟨element, -, rfl⟩ := Option.map_eq_some_iff.mp here
  exact List.mem_map_of_mem member
theorem lookup_rank {a : κ} {rank : Nat} (found : order.lookup a = some rank) : rank ∈ order.map Prod.snd :=
  List.mem_map_of_mem (Lookups.mem_of_lookup found)

theorem firstBest_cons (k : κ) (rank : Nat) (rest : List (κ × Nat)) (elements : List α) :
    firstBest ((k, rank) :: rest) kind elements =
      ((elements.find? (kind · = k)).map (·, rank)).or (firstBest rest kind elements) := by
  cases here : elements.find? (kind · = k) <;> simp [firstBest, here]
theorem preferred_of_le {best : α × Nat} {element : α} {rank : Option Nat} (worse : ∀ r ∈ rank, best.2 ≤ r) :
    preferred (some best) element rank = some best := by
  cases rank with
  | none => rfl
  | some r => exact if_neg (Nat.not_lt.mpr (worse r rfl))
theorem preferred_of_lt {best : Option (α × Nat)} {element : α} {rank : Nat} (better : ∀ b ∈ best, rank < b.2) :
    preferred best element (some rank) = some (element, rank) := by
  cases best with
  | none => rfl
  | some b => exact if_pos (better b rfl)

/-- One more element is the best one exactly if its kind is better than those that occurred. -/
theorem firstBest_concat (sorted : order.Pairwise (·.2 < ·.2)) (elements : List α) (element : α) :
    firstBest order kind (elements ++ [element]) =
      preferred (firstBest order kind elements) element (order.lookup (kind element)) := by
  induction order with
  | nil => rfl
  | cons entry rest ih =>
    obtain ⟨k, rank⟩ := entry
    rw [List.pairwise_cons] at sorted
    have later : ∀ other ∈ rest.map Prod.snd, rank < other := by
      intro other member
      obtain ⟨entry, inside, rfl⟩ := List.mem_map.mp member
      exact sorted.1 entry inside
    rw [firstBest_cons, firstBest_cons, List.find?_append]
    cases here : elements.find? (kind · = k) with
    | some earlier =>
      rw [Option.some_or, Option.map_some, Option.some_or, Option.some_or, preferred_of_le]
      intro r found
      by_cases same : kind element = k
      · simp [same] at found
        omega
      · have differs : (kind element == k) = false := beq_false_of_ne same
        rw [List.lookup_cons, differs] at found
        exact Nat.le_of_lt (later r (lookup_rank found))
    | none =>
      by_cases same : kind element = k
      · have better : ∀ b ∈ firstBest rest kind elements, rank < b.2 := fun b found => later b.2 (firstBest_rank found)
        simp [same, preferred_of_lt better]
      · have differs : (kind element == k) = false := beq_false_of_ne same
        simp [same, List.lookup_cons, differs, ih sorted.2]

/-- Lists with the same elements of each kind, in the same order, have the same first element of the best kind. -/
theorem firstBest_congr {left right : List α} (same : ∀ k, left.filter (kind · = k) = right.filter (kind · = k)) :
    firstBest order kind left = firstBest order kind right := by
  have first (k : κ) : left.find? (kind · = k) = right.find? (kind · = k) := by
    rw [← List.head?_filter, ← List.head?_filter, same k]
  simp only [firstBest, first]

end

end Openlit.Ranks
