import Mathlib.Algebra.GroupWithZero.Nat
import Mathlib.Algebra.Order.BigOperators.Group.List
import Mathlib.Algebra.Order.Group.Nat
import Openlit.ChatStreams

/-!
The lengths of texts that are put together from parts. A text that is joined
from shorter parts, or that lacks some of them, is shorter, so two such texts are
equal only where nothing is missing.
-/
namespace Openlit.Fragments
open Openlit.ChatCompletions Openlit.ChatStreams

variable {α : Type}

theorem length_intercalate (separator : String) (texts : List String) :
    (separator.intercalate texts).length = (texts.map String.length).sum + (texts.length - 1) * separator.length := by
  induction texts with
  | nil => simp
  | cons text rest ih =>
    cases rest with
    | nil => simp
    | cons next rest =>
      rw [String.intercalate_cons_cons, String.length_append, String.length_append, ih]
      simp only [List.map_cons, List.sum_cons, List.length_cons, Nat.add_sub_cancel, Nat.add_mul]
      omega

/-- Summands that are no larger and have the same sum are the same. -/
theorem eq_of_sum_eq {xs : List α} {f g : α → Nat} (less : ∀ x ∈ xs, f x ≤ g x) (same : (xs.map f).sum = (xs.map g).sum) :
    ∀ x ∈ xs, f x = g x := by
  induction xs with
  | nil => simp
  | cons x rest ih =>
    rw [List.forall_mem_cons] at less ⊢
    have others : (rest.map f).sum ≤ (rest.map g).sum := List.sum_le_sum less.2
    simp only [List.map_cons, List.sum_cons] at same
    exact ⟨by omega, ih less.2 (by omega)⟩

/-- What a text adds to a list that is joined without empty texts. -/
def share (text : String) : Nat := if text = "" then 0 else text.length + 2

theorem share_mono {a b : String} (shorter : a.length ≤ b.length) : share a ≤ share b := by
  unfold share
  by_cases empty : a = ""
  · simp [empty]
  · have positive : 0 < a.length := Nat.pos_of_ne_zero (mt String.length_eq_zero_iff.mp empty)
    have other : b ≠ "" := by
      rintro rfl
      rw [String.length_empty] at shorter
      omega
    simp only [empty, other, if_false]
    omega
theorem length_of_share {a b : String} (same : share a = share b) : a.length = b.length := by
  unfold share at same
  by_cases left : a = ""
  · by_cases right : b = ""
    · rw [left, right]
    · simp [left, right] at same
  · by_cases right : b = ""
    · simp [left, right] at same
    · simpa [left, right] using same
theorem share_large (text : String) : share text = 0 ∨ 2 < share text := by
  unfold share
  by_cases empty : text = ""
  · simp [empty]
  · have positive : 0 < text.length := Nat.pos_of_ne_zero (mt String.length_eq_zero_iff.mp empty)
    simp only [empty, if_false]
    omega
theorem length_join (texts : List String) : (join (nonEmpty texts)).length = (texts.map share).sum - 2 := by
  have shares : (texts.map share).sum = ((nonEmpty texts).map String.length).sum + (nonEmpty texts).length * 2 := by
    induction texts with
    | nil => rfl
    | cons text rest ih =>
      by_cases empty : text = ""
      · simp [empty, share, nonEmpty, ih]
      · simp only [nonEmpty, share, empty, List.map_cons, List.sum_cons, if_false, ne_eq, not_false_eq_true, decide_true,
          List.filter_cons_of_pos, List.length_cons] at ih ⊢
        omega
  rw [join, length_intercalate, shares]
  have separator : (", " : String).length = 2 := rfl
  cases nonEmpty texts with
  | nil => rfl
  | cons text rest =>
    rw [separator, List.length_cons]
    omega
/-- Texts that are no longer, and that are joined to the same, have the same lengths. -/
theorem lengths_of_join {xs : List α} {f g : α → String} (shorter : ∀ x ∈ xs, (f x).length ≤ (g x).length)
    (same : join (nonEmpty (xs.map f)) = join (nonEmpty (xs.map g))) : ∀ x ∈ xs, (f x).length = (g x).length := by
  have lengths := congrArg String.length same
  rw [length_join, length_join, List.map_map, List.map_map] at lengths
  have large (h : α → String) : (xs.map (share ∘ h)).sum = 0 ∨ 2 < (xs.map (share ∘ h)).sum := by
    clear shorter same lengths
    induction xs with
    | nil => exact .inl rfl
    | cons x rest ih =>
      rw [List.map_cons, List.sum_cons, Function.comp_apply]
      rcases share_large (h x) with none | some <;> omega
  have sums : (xs.map (share ∘ f)).sum = (xs.map (share ∘ g)).sum := by
    have left := large f
    have right := large g
    omega
  intro x member
  exact length_of_share (eq_of_sum_eq (fun x member => share_mono (shorter x member)) sums x member)

/-- Some of the parts are the whole text exactly if the others are empty. -/
theorem concat_filter_iff (p : α → Bool) (text : α → String) (xs : List α) :
    concat (xs.map text) = concat ((xs.filter p).map text) ↔ ∀ x ∈ xs, p x = false → text x = "" := by
  constructor
  · intro whole
    have lengths : (concat (xs.map text)).length =
        (concat ((xs.filter p).map text)).length + (concat ((xs.filter (!p ·)).map text)).length := by
      clear whole
      induction xs with
      | nil => rfl
      | cons x rest ih =>
        by_cases kept : p x = true
        · simp only [List.map_cons, concat_cons, String.length_append, kept, List.filter_cons_of_pos, Bool.not_true,
            Bool.false_eq_true, not_false_eq_true, List.filter_cons_of_neg]
          omega
        · simp only [List.map_cons, concat_cons, String.length_append, kept, Bool.false_eq_true, not_false_eq_true,
            List.filter_cons_of_neg, Bool.not_false, List.filter_cons_of_pos]
          omega
    have same := congrArg String.length whole
    have none : concat ((xs.filter (!p ·)).map text) = "" := String.length_eq_zero_iff.mp (by omega)
    intro x member other
    exact concat_eq_empty.mp none _ (List.mem_map_of_mem (List.mem_filter.mpr ⟨member, by simp [other]⟩))
  · intro others
    exact (concat_filter p text xs others).symm
theorem sum_range_add {bound k : Nat} (inside : k < bound) (more : Nat) (h : Nat → Nat) :
    ((List.range bound).map fun i => if k = i then more + h i else h i).sum = more + ((List.range bound).map h).sum := by
  induction bound with
  | zero => omega
  | succ bound ih =>
    simp only [List.range_succ, List.map_append, List.sum_append, List.map_cons, List.map_nil, List.sum_cons, List.sum_nil]
    by_cases last : k = bound
    · have before : ∀ i ∈ List.range bound, (if k = i then more + h i else h i) = h i := by
        intro i early
        have other : k ≠ i := by
          rw [List.mem_range] at early
          omega
        rw [if_neg other]
      rw [List.map_congr_left before, if_pos last]
      omega
    · rw [ih (by omega), if_neg last]
      omega
/-- The parts that are told apart by an index have together the length of all. -/
theorem length_by_index {xs : List α} {index : α → Nat} {bound : Nat} (inside : ∀ x ∈ xs, index x < bound) (f : α → String) :
    ((List.range bound).map fun i => (concat ((xs.filter (index · = i)).map f)).length).sum = (concat (xs.map f)).length := by
  induction xs with
  | nil => simp
  | cons x rest ih =>
    rw [List.forall_mem_cons] at inside
    have each : ∀ i ∈ List.range bound, (concat (((x :: rest).filter (index · = i)).map f)).length =
        if index x = i then (f x).length + (concat ((rest.filter (index · = i)).map f)).length
        else (concat ((rest.filter (index · = i)).map f)).length := by
      intro i _
      by_cases here : index x = i
      · simp [here]
      · simp [here]
    rw [List.map_congr_left each, sum_range_add inside.1, ih inside.2, List.map_cons, concat_cons, String.length_append]

/-- What contributes nothing may be left out. -/
theorem flatMap_filter {β : Type} (p : α → Bool) (f : α → List β) (xs : List α) (others : ∀ x ∈ xs, p x = false → f x = []) :
    (xs.filter p).flatMap f = xs.flatMap f := by
  induction xs with
  | nil => rfl
  | cons x rest ih =>
    have ih := ih fun y member => others y (List.mem_cons_of_mem x member)
    by_cases kept : p x = true
    · simp [kept, ih]
    · have none := others x List.mem_cons_self (by simpa using kept)
      simp [kept, ih, none]

/-! Fragments that come in the order of their places. -/

section InOrder
variable {β : Type} [DecidableEq α] {before : α → α → Prop} {place : α} {places : List α} {fragments : List (α × β)}

/-- The fragments of the first place come first. -/
theorem filter_first (first : ∀ f ∈ fragments, f.1 = place ∨ before place f.1)
    (inOrder : fragments.Pairwise fun a b => ¬ before b.1 a.1) :
    fragments.filter (·.1 = place) ++ fragments.filter (·.1 ≠ place) = fragments := by
  induction fragments with
  | nil => rfl
  | cons f rest ih =>
    rw [List.pairwise_cons] at inOrder
    rw [List.forall_mem_cons] at first
    have others := ih first.2 inOrder.2
    by_cases here : f.1 = place
    · simpa [here] using others
    · have none : rest.filter (·.1 = place) = [] := by
        rw [List.filter_eq_nil_iff]
        intro g member
        rw [decide_eq_true_eq]
        rintro rfl
        exact inOrder.1 g member (first.1.resolve_left here)
      rw [none, List.nil_append] at others
      rw [List.filter_cons_of_neg (by simpa using here), List.filter_cons_of_pos (by simpa using here), none, others]
      rfl
/-- The fragments are those of each place in turn. -/
theorem flatMap_filter_of_inOrder (irreflexive : ∀ a, ¬ before a a) (sorted : places.Pairwise before)
    (inOrder : fragments.Pairwise fun a b => ¬ before b.1 a.1) (placed : ∀ f ∈ fragments, f.1 ∈ places) :
    places.flatMap (fun place => fragments.filter (·.1 = place)) = fragments := by
  induction places generalizing fragments with
  | nil =>
    obtain rfl : fragments = [] := List.eq_nil_iff_forall_not_mem.mpr fun f member => absurd (placed f member) List.not_mem_nil
    rfl
  | cons place places ih =>
    rw [List.pairwise_cons] at sorted
    have split := filter_first (fun f member => (List.mem_cons.mp (placed f member)).imp_right (sorted.1 f.1)) inOrder
    have rest := ih sorted.2 (inOrder.filter (·.1 ≠ place)) fun f member => by
      obtain ⟨inside, other⟩ := List.mem_filter.mp member
      exact (List.mem_cons.mp (placed f inside)).resolve_left (by simpa using other)
    have same : places.flatMap (fun other => fragments.filter (·.1 = other)) = fragments.filter (·.1 ≠ place) := by
      refine Eq.trans (List.flatMap_congr fun other member => ?_) rest
      have different : other ≠ place := by
        rintro rfl
        exact irreflexive _ (sorted.1 _ member)
      rw [List.filter_filter]
      refine List.filter_congr fun f _ => ?_
      by_cases here : f.1 = other <;> simp [here, different]
    rw [List.flatMap_cons, same, split]

end InOrder

end Openlit.Fragments
