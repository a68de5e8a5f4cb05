import Mathlib.Data.List.Infix
import Mathlib.Data.List.Forall2

/-!
Texts that come one after the other in a text, with anything before, between and after them.
-/
namespace Openlit.TextOrder

variable {α β : Type}

inductive InOrder : List (List α) → List α → Prop
  | nil (rest : List α) : InOrder [] rest
  | cons (front text : List α) {texts : List (List α)} {rest : List α} :
      InOrder texts rest → InOrder (text :: texts) (front ++ (text ++ rest))

theorem InOrder.front {texts : List (List α)} {whole : List α} (front : List α) (inOrder : InOrder texts whole) :
    InOrder texts (front ++ whole) := by
  cases inOrder with
  | nil => exact .nil _
  | cons front' text rest =>
    rw [← List.append_assoc]
    exact .cons (front ++ front') text rest
theorem InOrder.append {texts texts' : List (List α)} {whole whole' : List α} (first : InOrder texts whole)
    (second : InOrder texts' whole') : InOrder (texts ++ texts') (whole ++ whole') := by
  induction first with
  | nil rest => exact second.front rest
  | cons front text _ ih =>
    rw [List.append_assoc, List.append_assoc]
    exact .cons front text ih
theorem inOrder_of_infix {text whole : List α} (inside : text <:+: whole) : InOrder [text] whole := by
  obtain ⟨front, rest, rfl⟩ := inside
  rw [List.append_assoc]
  exact .cons front text (.nil rest)
theorem inOrder_self (text : List α) : InOrder [text] text := inOrder_of_infix (List.infix_refl text)
/-- Nothing but empty texts is in an empty text. -/
theorem InOrder.eq_nil {texts : List (List α)} {whole : List α} (inOrder : InOrder texts whole) (empty : whole = []) :
    ∀ text ∈ texts, text = [] := by
  induction inOrder with
  | nil => simp
  | cons front text _ ih =>
    obtain ⟨-, isText, rest⟩ : front = [] ∧ text = [] ∧ _ = [] := by simpa using empty
    exact List.forall_mem_cons.mpr ⟨isText, ih rest⟩
theorem inOrder_of_nil {texts : List (List α)} (empty : ∀ text ∈ texts, text = []) (whole : List α) : InOrder texts whole := by
  induction texts with
  | nil => exact .nil whole
  | cons text texts ih =>
    obtain ⟨rfl, rest⟩ := List.forall_mem_cons.mp empty
    exact .cons [] [] (ih rest)
/-- Parts of the texts are in the same order. -/
theorem InOrder.parts {texts parts : List (List α)} {whole : List α} (inOrder : InOrder texts whole)
    (within : List.Forall₂ (· <:+: ·) parts texts) : InOrder parts whole := by
  induction inOrder generalizing parts with
  | nil =>
    cases within
    exact .nil _
  | cons front text _ ih =>
    cases within with
    | @cons part _ _ _ inside rest =>
      obtain ⟨before, after, rfl⟩ := inside
      have shape := InOrder.cons (front ++ before) part ((ih rest).front after)
      simpa using shape
theorem InOrder.sublist {texts parts : List (List α)} {whole : List α} (inOrder : InOrder texts whole) (fewer : parts.Sublist texts) :
    InOrder parts whole := by
  induction fewer generalizing whole with
  | slnil => exact inOrder
  | cons text _ ih =>
    cases inOrder with
    | cons front text rest =>
      rw [← List.append_assoc]
      exact (ih rest).front (front ++ text)
  | cons_cons text _ ih =>
    cases inOrder with
    | cons front text rest => exact .cons front text (ih rest)
/-- Empty texts are everywhere. -/
theorem InOrder.of_nonempty {texts : List (List α)} {whole : List α} (inOrder : InOrder (texts.filter (!·.isEmpty)) whole) :
    InOrder texts whole := by
  induction texts generalizing whole with
  | nil => exact .nil whole
  | cons text texts ih =>
    cases text with
    | nil => exact .cons [] [] (ih (by simpa using inOrder))
    | cons c cs =>
      rw [List.filter_cons_of_pos rfl] at inOrder
      cases inOrder with
      | cons front _ rest => exact .cons front (c :: cs) (ih rest)
/-- Texts of entries that are joined. -/
theorem inOrder_intercalate (separator : List α) (entries : List β) (texts : β → List (List α)) (written : β → List α)
    (inOrder : ∀ entry ∈ entries, InOrder (texts entry) (written entry)) :
    InOrder (entries.flatMap texts) (separator.intercalate (entries.map written)) := by
  induction entries with
  | nil => exact .nil _
  | cons entry entries ih =>
    obtain ⟨first, others⟩ := List.forall_mem_cons.mp inOrder
    have rest := ih others
    cases entries with
    | nil => simpa using first
    | cons entry' entries =>
      have joined := first.append (rest.front separator)
      simpa [List.intercalate_cons_cons] using joined
/-- Entries that are written as nothing may be left out, as their texts are empty. -/
theorem inOrder_intercalate_nonempty (separator : List α) (entries : List β) (texts : β → List (List α)) (written : β → List α)
    (inOrder : ∀ entry ∈ entries, InOrder (texts entry) (written entry)) :
    InOrder (entries.flatMap texts) (separator.intercalate ((entries.map written).filter (!·.isEmpty))) := by
  have joined := inOrder_intercalate separator (entries.filter fun entry => !(written entry).isEmpty) texts written
    fun entry mem => inOrder entry (List.mem_of_mem_filter mem)
  rw [List.filter_map]
  refine InOrder.of_nonempty (joined.sublist ?_)
  clear joined
  induction entries with
  | nil => exact List.nil_sublist _
  | cons entry entries ih =>
    obtain ⟨first, others⟩ := List.forall_mem_cons.mp inOrder
    rw [List.flatMap_cons, List.filter_append]
    by_cases empty : written entry = []
    · have noTexts : (texts entry).filter (!·.isEmpty) = [] := by
        rw [List.filter_eq_nil_iff]
        intro text mem
        simp [first.eq_nil empty text mem]
      rw [noTexts, List.nil_append, List.filter_cons_of_neg (by simpa using empty)]
      exact ih others
    · rw [List.filter_cons_of_pos (by simpa using empty), List.flatMap_cons]
      exact List.filter_sublist.append (ih others)

end Openlit.TextOrder
