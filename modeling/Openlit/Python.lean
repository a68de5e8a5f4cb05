import Openlit.Text

/-!
What the Python SDK's instrumentations share: the errors that their code can
raise, `or` on texts, and the count of tokens of a text (`__helpers.py`).
-/
namespace Openlit.Python
open Openlit.Text

inductive PyError where
  | attributeError
  | indexError
  | valueError
  deriving DecidableEq, Repr

/-- Python's `new or old`. -/
def orElse (new : Option String) (old : String) : String := (present new).getD old
/-- `general_tokens`: half the length, rounded up. -/
def generalTokens (text : String) : Nat := (text.length + 1) / 2

theorem orElse_known {text old : String} (known : old = "" ∨ old = text) : orElse text old = text := by
  unfold orElse present
  rcases known with rfl | rfl
  · by_cases empty : text = "" <;> simp [empty, Option.filter]
  · by_cases empty : old = "" <;> simp [empty, Option.filter]

end Openlit.Python
