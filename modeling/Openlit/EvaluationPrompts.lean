import Openlit.Substitutions

/-!
The prompt of an evaluation in the Python SDK (`evals/utils.py`). Its three placeholders are replaced one after the other, so a
placeholder that comes with the prompt or the contexts is replaced too. The prompt is the simultaneous substitution exactly if
none does.
-/
namespace Openlit.EvaluationPrompts
open Openlit.Substitutions

/-- `s.replace(old, new)`, for an `old` that is not empty. -/
def strReplace (s old new : String) : String := String.ofList (replace old.toList new.toList 0 s.toList)
def quoted (text : String) : String := "- \"" ++ text ++ "\""
def contextStr (contexts : List String) : String := "\n".intercalate (contexts.map quoted)
def formatPrompt (systemPrompt prompt : String) (contexts : List String) (text : String) : String :=
  let formattedPrompt := strReplace systemPrompt "\x7b\x7bprompt\x7d\x7d" prompt
  let formattedPrompt := strReplace formattedPrompt "\x7b\x7bcontext\x7d\x7d" (contextStr contexts)
  strReplace formattedPrompt "\x7b\x7btext\x7d\x7d" (quoted text)

/-! ### What should hold -/

def promptName : List Char := "prompt".toList
def contextName : List Char := "context".toList
def textName : List Char := "text".toList
def names : List (List Char) := [promptName, contextName, textName]
/-- What each placeholder stands for. -/
def valueOf (prompt : String) (contexts : List String) (text : String) (name : List Char) : List Char :=
  if name = promptName then prompt.toList
  else if name = contextName then (contextStr contexts).toList
  else if name = textName then (quoted text).toList
  else placeholder name
/-- The placeholders of the template are replaced at once. -/
def substituted (systemPrompt prompt : String) (contexts : List String) (text : String) : String :=
  String.ofList (substitute placeholder names (valueOf prompt contexts text) systemPrompt.toList)
/-- The template with the prompt in place, and with the contexts too, has no more placeholders of those that are still to be
replaced than the template. -/
structure Kept (systemPrompt prompt : String) (contexts : List String) : Prop where
  context : occurrences (placeholder contextName) 0 (replace (placeholder promptName) prompt.toList 0 systemPrompt.toList) =
    occurrences (placeholder contextName) 0 systemPrompt.toList
  text : occurrences (placeholder textName) 0 (replace (placeholder contextName) (contextStr contexts).toList 0
      (replace (placeholder promptName) prompt.toList 0 systemPrompt.toList)) =
    occurrences (placeholder textName) 0 systemPrompt.toList

theorem formatPrompt_eq (systemPrompt prompt : String) (contexts : List String) (text : String) :
    formatPrompt systemPrompt prompt contexts text = String.ofList (replace (placeholder textName) (quoted text).toList 0
      (replace (placeholder contextName) (contextStr contexts).toList 0
        (replace (placeholder promptName) prompt.toList 0 systemPrompt.toList))) := by
  simp only [formatPrompt, strReplace, String.toList_ofList]
  rfl

theorem separate_names : Separate placeholder names := by
  refine separate_placeholder ?_
  unfold Plain
  decide
theorem apart_name {name : List Char} (listed : name ∈ names) : Apart (placeholder name) (placeholder name) :=
  separate_names.apart name listed name listed

section
variable (template : List Char)

/-- The holes of a template are the occurrences of the placeholders. -/
def pieces : List (Piece Char (List Char)) := read placeholder names 0 template
theorem fill_pieces : fill placeholder (pieces template) = template := fill_read separate_names.nonempty template
theorem count_pieces {name : List Char} (listed : name ∈ names) :
    (pieces template).count (.hole name) = occurrences (placeholder name) 0 template :=
  (occurrences_read separate_names listed template).symm
/-- One placeholder is replaced. -/
theorem replace_template {name : List Char} (listed : name ∈ names) (value : List Char) :
    replace (placeholder name) value 0 template = fill (Function.update placeholder name value) (pieces template) := by
  have only : occurrences (placeholder name) 0 (fill placeholder (pieces template)) = (pieces template).count (.hole name) := by
    rw [fill_pieces, count_pieces template listed]
  have replaced := replace_fill (apart_name listed) (placeholder_ne_nil name) rfl value only
  rwa [fill_pieces] at replaced
/-- The other placeholders stay. -/
theorem occurrences_kept {name other : List Char} (listed : name ∈ names) (listed' : other ∈ names) (different : other ≠ name)
    (value : List Char) : occurrences (placeholder other) 0 template ≤
      occurrences (placeholder other) 0 (replace (placeholder name) value 0 template) := by
  rw [replace_template template listed, ← count_pieces template listed']
  exact count_le_occurrences (apart_name listed') (placeholder_ne_nil other) (Function.update_of_ne different ..) _
end

theorem valueOf_eq (prompt : String) (contexts : List String) (text : String) : valueOf prompt contexts text =
    Function.update (Function.update (Function.update placeholder promptName prompt.toList) contextName (contextStr contexts).toList)
      textName (quoted text).toList := by
  have first : contextName ≠ promptName := by decide
  have second : textName ≠ promptName := by decide
  have third : textName ≠ contextName := by decide
  funext name
  simp only [valueOf, Function.update_apply]
  split_ifs <;> simp_all

section
variable (template prompt context text : List Char)

/-- The template with the values in its holes. -/
def filled : List Char :=
  fill (Function.update (Function.update (Function.update placeholder promptName prompt) contextName context) textName text)
    (pieces template)

theorem filled_of_kept
    (contextKept : occurrences (placeholder contextName) 0 (replace (placeholder promptName) prompt 0 template) =
      occurrences (placeholder contextName) 0 template)
    (textKept : occurrences (placeholder textName) 0 (replace (placeholder contextName) context 0
        (replace (placeholder promptName) prompt 0 template)) = occurrences (placeholder textName) 0 template) :
    replace (placeholder textName) text 0 (replace (placeholder contextName) context 0
      (replace (placeholder promptName) prompt 0 template)) = filled template prompt context text := by
  rw [replace_template template (by decide : promptName ∈ names)] at contextKept textKept ⊢
  rw [← count_pieces template (by decide)] at contextKept textKept
  have second := replace_fill (apart_name (by decide)) (placeholder_ne_nil contextName) (Function.update_of_ne (by decide) ..) context
    contextKept
  rw [second] at textKept ⊢
  exact replace_fill (apart_name (by decide)) (placeholder_ne_nil textName)
    ((Function.update_of_ne (by decide) ..).trans (Function.update_of_ne (by decide) ..)) text textKept

/-- What the letters of both results weigh. -/
theorem weights_agree (weight : Char → Nat)
    (same : replace (placeholder textName) text 0 (replace (placeholder contextName) context 0
      (replace (placeholder promptName) prompt 0 template)) = filled template prompt context text) :
    let replaced₁ := replace (placeholder promptName) prompt 0 template
    let replaced₂ := replace (placeholder contextName) context 0 replaced₁
    let w (letters : List Char) : Nat := (letters.map weight).sum
    let found (name letters : List Char) : Nat := occurrences (placeholder name) 0 letters
    found contextName replaced₁ * w context + found contextName template * w (placeholder contextName) +
        (found textName replaced₂ * w text + found textName template * w (placeholder textName)) =
      found contextName template * w context + found contextName replaced₁ * w (placeholder contextName) +
        (found textName template * w text + found textName replaced₂ * w (placeholder textName)) := by
  intro replaced₁ replaced₂ w found
  have second := replace_weight (placeholder_ne_nil contextName) weight context replaced₁
  have third := replace_weight (placeholder_ne_nil textName) weight text replaced₂
  have second' := fill_weight weight (Function.update placeholder promptName prompt) contextName context (pieces template)
  have third' := fill_weight weight (Function.update (Function.update placeholder promptName prompt) contextName context) textName text
    (pieces template)
  rw [Function.update_of_ne (by decide), count_pieces template (by decide), ← replace_template template (by decide)] at second'
  rw [Function.update_of_ne (by decide), Function.update_of_ne (by decide), count_pieces template (by decide)] at third'
  rw [same] at third
  simp only [filled, found, w, replaced₂, replaced₁] at *
  omega
end

/-- Every replaced text has a dash, and so have the contexts unless there are none. -/
def dash (c : Char) : Nat := if c = '-' then 1 else 0
theorem dash_of_mem {letters : List Char} (listed : '-' ∈ letters) : 0 < (letters.map dash).sum := by
  obtain ⟨front, back, rfl⟩ := List.append_of_mem listed
  rw [List.map_append, List.map_cons, List.sum_append, List.sum_cons]
  have one : dash '-' = 1 := rfl
  omega
theorem dash_quoted (text : String) : 0 < ((quoted text).toList.map dash).sum := dash_of_mem (by simp [quoted])
theorem dash_contextStr (context : String) (contexts : List String) : 0 < ((contextStr (context :: contexts)).toList.map dash).sum := by
  refine dash_of_mem ?_
  rw [contextStr, String.toList_intercalate]
  cases contexts <;> simp [quoted]

theorem substituted_eq (systemPrompt prompt : String) (contexts : List String) (text : String) :
    substituted systemPrompt prompt contexts text =
      String.ofList (filled systemPrompt.toList prompt.toList (contextStr contexts).toList (quoted text).toList) := by
  rw [substituted, substitute, valueOf_eq]
  rfl
/-- A placeholder that comes with a value is replaced too, which the dashes and the letters of the result tell. -/
theorem kept_of_filled {systemPrompt prompt : String} {contexts : List String} {text : String}
    (same : replace (placeholder textName) (quoted text).toList 0 (replace (placeholder contextName) (contextStr contexts).toList 0
        (replace (placeholder promptName) prompt.toList 0 systemPrompt.toList)) =
      filled systemPrompt.toList prompt.toList (contextStr contexts).toList (quoted text).toList) :
    Kept systemPrompt prompt contexts := by
  have contextMore := occurrences_kept systemPrompt.toList (by decide : promptName ∈ names) (by decide : contextName ∈ names) (by decide)
    prompt.toList
  have textMore := occurrences_kept systemPrompt.toList (by decide : promptName ∈ names) (by decide : textName ∈ names) (by decide)
    prompt.toList
  have textMore' := occurrences_kept (replace (placeholder promptName) prompt.toList 0 systemPrompt.toList)
    (by decide : contextName ∈ names) (by decide : textName ∈ names) (by decide) (contextStr contexts).toList
  have dashes := weights_agree _ _ _ _ dash same
  have noDash : ∀ name ∈ names, ((placeholder name).map dash).sum = 0 := by decide
  simp only [noDash textName (by decide), noDash contextName (by decide), Nat.mul_zero, Nat.add_zero] at dashes
  have contextDashes := Nat.mul_le_mul_right ((contextStr contexts).toList.map dash).sum contextMore
  have textDashes := Nat.mul_le_mul_right ((quoted text).toList.map dash).sum (textMore.trans textMore')
  have textKept := Nat.eq_of_mul_eq_mul_right (dash_quoted text) (Nat.le_antisymm textDashes (by omega)).symm
  refine ⟨?_, textKept⟩
  cases contexts with
  | cons context contexts =>
    exact Nat.eq_of_mul_eq_mul_right (dash_contextStr context contexts) (Nat.le_antisymm contextDashes (by omega)).symm
  | nil =>
    -- Without contexts there are no dashes to count, but the letters are.
    have lengths := weights_agree _ _ _ _ (fun _ => 1) same
    have empty : ((contextStr []).toList.map fun _ => 1).sum = 0 := by decide
    have long : ((placeholder contextName).map fun _ => 1).sum = 11 := by decide
    dsimp only at lengths
    rw [textKept, empty, long] at lengths
    omega

/-- The prompt of an evaluation is the simultaneous substitution exactly if what is put in place of one placeholder makes no other. -/
theorem format_prompt_iff (systemPrompt prompt : String) (contexts : List String) (text : String) :
    formatPrompt systemPrompt prompt contexts text = substituted systemPrompt prompt contexts text ↔
      Kept systemPrompt prompt contexts := by
  rw [formatPrompt_eq, substituted_eq, String.ofList_inj]
  exact ⟨kept_of_filled, fun kept => filled_of_kept _ _ _ _ kept.context kept.text⟩

/-- A prompt that has the placeholder of the text gets the text in its place. -/
theorem prompt_captures_text :
    formatPrompt "\x7b\x7bprompt\x7d\x7d, \x7b\x7btext\x7d\x7d" "\x7b\x7btext\x7d\x7d" [] "Hi" = "- \"Hi\", - \"Hi\"" ∧
      substituted "\x7b\x7bprompt\x7d\x7d, \x7b\x7btext\x7d\x7d" "\x7b\x7btext\x7d\x7d" [] "Hi" = "\x7b\x7btext\x7d\x7d, - \"Hi\"" := by
  decide +kernel

end Openlit.EvaluationPrompts
