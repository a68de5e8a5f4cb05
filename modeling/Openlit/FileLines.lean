import Mathlib.Tactic.Common

/-!
The lines of a text. Splitting at the newlines leaves an empty piece after a
last newline, which is no line (`fileLines`).
-/
namespace Openlit.FileLines

abbrev Line := List Char

/-- `text.split("\n")`. -/
def lines (text : List Char) : List Line := text.splitOn '\n'
/-- `lines.join("\n")`. -/
def joined (ls : List Line) : List Char := ['\n'].intercalate ls
/-- The lines of a file, of which the last may lack its newline. -/
def fileLines (text : List Char) : List Line :=
  let pieces := lines text
  if pieces.getLast? = some [] then pieces.dropLast else pieces

theorem newline_not_mem_lines (text : List Char) : ∀ line ∈ lines text, '\n' ∉ line := by
  induction text with
  | nil => simp [lines]
  | cons c text ih =>
    rw [lines, List.splitOn_cons_eq_if_modifyHead]
    by_cases newline : c = '\n'
    · simpa [newline, lines] using ih
    · rw [if_neg (by simpa using newline)]
      obtain ⟨first, rest, parts⟩ := List.exists_cons_of_ne_nil (List.splitOn_ne_nil '\n' text)
      have both : '\n' ∉ first ∧ ∀ line ∈ rest, '\n' ∉ line := by simpa [lines, parts] using ih
      rw [parts, List.modifyHead_cons]
      intro line member
      rcases List.mem_cons.mp member with rfl | later
      · simp [both.1, Ne.symm newline]
      · exact both.2 line later
@[simp] theorem joined_lines (text : List Char) : joined (lines text) = text := by
  rw [joined, lines, List.intercalate_splitOn]
theorem lines_joined {ls : List Line} (plain : ∀ line ∈ ls, '\n' ∉ line) (nonempty : ls ≠ []) : lines (joined ls) = ls :=
  List.splitOn_intercalate '\n' plain nonempty

/-- The pieces of a text are its lines, and an empty one if it ends with a newline. -/
theorem lines_eq (text : List Char) : lines text = fileLines text ++ [[]] ∨ lines text = fileLines text := by
  rw [fileLines]
  by_cases ended : (lines text).getLast? = some []
  · left
    rw [if_pos ended]
    obtain ⟨front, parts⟩ := List.getLast?_eq_some_iff.mp ended
    rw [parts, List.dropLast_concat]
  · exact .inr (if_neg ended).symm
theorem newline_not_mem_fileLines (text : List Char) : ∀ line ∈ fileLines text, '\n' ∉ line := by
  intro line member
  refine newline_not_mem_lines text line ?_
  rcases lines_eq text with ended | same
  · rw [ended]
    exact List.mem_append_left _ member
  · rwa [same]

theorem joined_concat {ls : List Line} (nonempty : ls ≠ []) (last : Line) : joined (ls ++ [last]) = joined ls ++ '\n' :: last := by
  induction ls with
  | nil => exact absurd rfl nonempty
  | cons first rest ih =>
    cases rest with
    | nil => simp [joined]
    | cons second rest =>
      have tail := ih (by simp)
      simp only [joined, List.cons_append, List.intercalate_cons_cons] at tail ⊢
      simp [tail]
/-- A text in which every line is ended has these lines. -/
theorem fileLines_ended {ls : List Line} (plain : ∀ line ∈ ls, '\n' ∉ line) (nonempty : ls ≠ []) :
    lines (joined ls ++ ['\n']) = ls ++ [[]] ∧ fileLines (joined ls ++ ['\n']) = ls := by
  have pieces : lines (joined ls ++ ['\n']) = ls ++ [[]] := by
    rw [← joined_concat nonempty []]
    refine lines_joined ?_ (by simp)
    intro line member
    rcases List.mem_append.mp member with inside | last
    · exact plain line inside
    · simp [List.mem_singleton.mp last]
  refine ⟨pieces, ?_⟩
  simp only [fileLines, pieces, List.getLast?_concat, if_true, List.dropLast_concat]
/-- The last line of a text that ends with another character than a newline is the last piece. -/
theorem fileLines_unended {text : List Char} (nonempty : text ≠ []) (last : text.getLast? ≠ some '\n') : lines text = fileLines text := by
  rcases lines_eq text with ended | same
  · have parts := joined_lines text
    rw [ended] at parts
    cases front : fileLines text with
    | nil =>
      rw [front] at parts
      exact absurd parts.symm nonempty
    | cons first rest =>
      rw [joined_concat (by simp [front])] at parts
      rw [← parts, List.getLast?_concat] at last
      exact absurd rfl last
  · exact same

end Openlit.FileLines
