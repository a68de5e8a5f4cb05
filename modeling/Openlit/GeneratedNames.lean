import Openlit.Text

/-!
Names that Kubernetes generates: a dash and a hash behind the name that was
given. The hash holds no dash, so that a generated name has one reading only.
-/
namespace Openlit.GeneratedNames
open Openlit.Text

/-- A form of hashes. -/
structure HashForm where
  isHash : String → Bool
  nonempty : ∀ hash, isHash hash → hash ≠ ""
  undashed : ∀ hash, isHash hash → '-' ∉ hash.toList

/-- Letters and digits without vowels and what looks like them. -/
def safeLetters : List Char := "bcdfghjklmnpqrstvwxz2456789".toList
theorem undashed_of_safe {hash : String} (safe : hash.toList.all (· ∈ safeLetters)) : '-' ∉ hash.toList := by
  intro dashed
  have letter := List.all_eq_true.mp safe '-' dashed
  revert letter
  decide
/-- The hash of a pod template: up to ten letters. -/
def templateHashes : HashForm where
  isHash hash := hash ≠ "" ∧ hash.length ≤ 10 ∧ hash.toList.all (· ∈ safeLetters)
  nonempty := by simp +contextual
  undashed := by
    intro hash isHash
    simp only [decide_eq_true_eq] at isHash
    exact undashed_of_safe isHash.2.2
/-- What a generated pod name ends in: five letters. -/
def podSuffixes : HashForm where
  isHash suffix := suffix.length = 5 ∧ suffix.toList.all (· ∈ safeLetters)
  nonempty := by
    rintro suffix isSuffix rfl
    simp at isSuffix
  undashed := by
    intro suffix isSuffix
    simp only [decide_eq_true_eq] at isSuffix
    exact undashed_of_safe isSuffix.2

/-! ### The last dash -/

theorem dashed_inj {front last other final : String} (undashed : '-' ∉ last.toList) (alsoUndashed : '-' ∉ final.toList)
    (same : front ++ "-" ++ last = other ++ "-" ++ final) : front = other ∧ last = final := by
  have dash : "-".toList = ['-'] := rfl
  have reversed := congrArg (List.reverse ∘ String.toList) same
  simp only [Function.comp_apply, String.toList_append, dash, List.reverse_append, List.reverse_singleton,
    List.singleton_append] at reversed
  have parts := append_separator_inj (by simpa using undashed) (by simpa using alsoUndashed) reversed
  exact ⟨String.toList_inj.mp (List.reverse_inj.mp parts.2), String.toList_inj.mp (List.reverse_inj.mp parts.1)⟩
/-- A name with a dash has a last one. -/
theorem exists_dashed {name : String} (dashed : '-' ∈ name.toList) :
    ∃ front last, name = front ++ "-" ++ last ∧ '-' ∉ last.toList := by
  obtain ⟨last, front, split, undashed⟩ := List.eq_append_cons_of_mem (List.mem_reverse.mpr dashed)
  refine ⟨String.ofList front.reverse, String.ofList last.reverse, String.toList_inj.mp ?_, by simpa using undashed⟩
  have dash : "-".toList = ['-'] := rfl
  rw [← List.reverse_reverse name.toList, split]
  simp [dash]
theorem utf8ByteSize_dashed (front last : String) :
    (front ++ "-" ++ last).utf8ByteSize = front.utf8ByteSize + 1 + last.utf8ByteSize := by
  have dash : "-".utf8ByteSize = 1 := rfl
  rw [String.utf8ByteSize_append, String.utf8ByteSize_append, dash]
theorem dashed_ne_front (front last : String) : front ++ "-" ++ last ≠ front := by
  intro same
  have size := utf8ByteSize_dashed front last
  rw [same] at size
  omega

end Openlit.GeneratedNames
