import Mathlib.Tactic.Common

/-!
Words over an ordered alphabet that are written with a separator between them,
which comes before every letter. Texts of as many words are in the order of the
first words in which they differ.
-/
namespace Openlit.SeparatedWords

variable {α : Type*} [LT α]

/-- A list comes before another of its length exactly if it does where they first differ. -/
theorem lt_iff_first [Std.Irrefl (α := α) (· < ·)] {xs ys : List α} (same : xs.length = ys.length) :
    xs < ys ↔ ∃ front x y rest rest', xs = front ++ x :: rest ∧ ys = front ++ y :: rest' ∧ x < y := by
  constructor
  · intro before
    induction xs generalizing ys with
    | nil =>
      cases ys with
      | nil => exact absurd before (List.lt_irrefl [])
      | cons y ys => simp at same
    | cons x xs ih =>
      cases ys with
      | nil => simp at same
      | cons y ys =>
        rcases List.cons_lt_cons_iff.mp before with first | ⟨rfl, later⟩
        · exact ⟨[], x, y, xs, ys, rfl, rfl, first⟩
        · obtain ⟨front, x', y', rest, rest', rfl, rfl, less⟩ := ih (Nat.succ.inj same) later
          exact ⟨x :: front, x', y', rest, rest', rfl, rfl, less⟩
  · rintro ⟨front, x, y, rest, rest', rfl, rfl, less⟩
    exact List.append_left_lt (List.cons_lt_cons_iff.mpr (.inl less))

variable [asymmetric : Std.Asymm (α := α) (· < ·)] {separator : α}

/-- The words before the separators are compared first. -/
theorem append_separator_lt_iff {x y rest rest' : List α} (above : ∀ a ∈ x, separator < a) (above' : ∀ a ∈ y, separator < a) :
    x ++ separator :: rest < y ++ separator :: rest' ↔ x < y ∨ x = y ∧ rest < rest' := by
  have irrefl (a : α) : ¬ a < a := fun less => asymmetric.asymm a a less less
  induction x generalizing y with
  | nil =>
    cases y with
    | nil => simp
    | cons b y =>
      have less := above' b List.mem_cons_self
      simp [List.cons_lt_cons_iff, less]
  | cons a x ih =>
    have less := above a List.mem_cons_self
    cases y with
    | nil =>
      have other : a ≠ separator := by
        rintro rfl
        exact irrefl a less
      simp [List.cons_lt_cons_iff, asymmetric.asymm _ _ less, other]
    | cons b y =>
      have rests := ih (fun c inside => above c (List.mem_cons_of_mem a inside)) (fun c inside => above' c (List.mem_cons_of_mem b inside))
      simp only [List.cons_append, List.cons_lt_cons_iff, rests, List.cons.injEq]
      tauto
/-- Separated words are in the order of the lists of words. -/
theorem intercalate_lt_iff {xs ys : List (List α)} (same : xs.length = ys.length) (above : ∀ x ∈ xs, ∀ a ∈ x, separator < a)
    (above' : ∀ y ∈ ys, ∀ a ∈ y, separator < a) : [separator].intercalate xs < [separator].intercalate ys ↔ xs < ys := by
  have irrefl : Std.Irrefl (α := List α) (· < ·) := ⟨fun xs => by
    have none : Std.Irrefl (α := α) (· < ·) := ⟨fun a less => asymmetric.asymm a a less less⟩
    exact List.lt_irrefl xs⟩
  induction xs generalizing ys with
  | nil =>
    obtain rfl := List.length_eq_zero_iff.mp same.symm
    exact iff_of_false (List.not_lt_nil _) (List.not_lt_nil _)
  | cons x xs ih =>
    cases ys with
    | nil => simp at same
    | cons y ys =>
      rw [List.forall_mem_cons] at above above'
      have rests := ih (Nat.succ.inj same) above.2 above'.2
      cases xs with
      | nil =>
        obtain rfl := List.length_eq_zero_iff.mp (Nat.succ.inj same).symm
        simp [List.cons_lt_cons_iff]
      | cons x' xs =>
        cases ys with
        | nil => simp at same
        | cons y' ys =>
          rw [List.intercalate_cons_cons, List.intercalate_cons_cons, List.append_assoc, List.append_assoc, List.singleton_append,
            List.singleton_append, append_separator_lt_iff above.1 above'.1, @List.cons_lt_cons_iff _ _ x]
          exact or_congr_right (and_congr_right fun _ => rests)

end Openlit.SeparatedWords
