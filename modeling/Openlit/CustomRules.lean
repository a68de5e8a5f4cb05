import Mathlib.Data.Rat.Defs
import Openlit.Text

/-!
The custom rules of the guards: `custom_rule_detection` of the Python SDK and
`customRuleDetection` of the TypeScript SDK (`guard/utils`), for patterns that
are literal strings. The Python SDK matches exactly, the TypeScript SDK ignores
case, and the two fill in other values where a rule leaves them out.
-/
namespace Openlit.CustomRules
open Openlit.Text

/-! ### Rules -/

/-- The characters that mean something else than themselves in a regular expression. -/
def metacharacters : List Char := ['\\', '^', '$', '.', '|', '?', '*', '+', '(', ')', '[', ']', '{', '}']
/-- A pattern that is a literal string. -/
abbrev Pattern := { pattern : String // ∀ c ∈ pattern.toList, c ∉ metacharacters }
/-- A rule may leave out all but its pattern. -/
structure CustomRule where
  pattern : Pattern
  verdict : Option String := none
  guard : Option String := none
  score : Option ℚ := none
  classification : Option String := none
  explanation : Option String := none
  deriving DecidableEq, Repr

/-! ### Python -/

structure JsonOutput where
  score : ℚ
  verdict : String
  guard : String
  classification : String
  explanation : String
  deriving DecidableEq, Repr

/-- `re.search` with a literal pattern. -/
def search (pattern : Pattern) (text : String) : Bool := contains text pattern.val

namespace Python

def report (rule : CustomRule) : JsonOutput where
  verdict := rule.verdict.getD "yes"
  guard := rule.guard.getD "prompt_injection"
  score := rule.score.getD (1 / 2)
  classification := rule.classification.getD "custom"
  explanation := rule.explanation.getD "Matched custom rule pattern."
def customRuleDetection (text : String) (customRules : List CustomRule) : JsonOutput :=
  match customRules.find? (search ·.pattern text) with
  | some rule => report rule
  | none => { score := 0, classification := "none", explanation := "none", verdict := "none", guard := "none" }
/-- The place of the rule that is reported. -/
def selected (text : String) (customRules : List CustomRule) : Option Nat := customRules.findIdx? (search ·.pattern text)

end Python

/-! ### TypeScript -/

/-- A missing member is `undefined`. -/
structure GuardResult where
  score : ℚ
  verdict : String
  guard : String
  classification : Option String
  explanation : String
  deriving DecidableEq, Repr

/-- `toUppercase` of one character, by the tables of Unicode. -/
class UpperCasing where
  toUppercase : Char → List Char
/-- The mapping on ASCII letters, with every other character kept. -/
@[reducible] def asciiCasing : UpperCasing where
  toUppercase c := [c.toUpper]

section
variable [UpperCasing]

/-- `Canonicalize` for the flag `i` alone, which compares code units: the two of a larger character are kept. -/
def canonicalize (c : Char) : Char :=
  match UpperCasing.toUppercase c with
  | [upper] => if 0x10000 ≤ c.toNat ∨ 0x10000 ≤ upper.toNat ∨ (128 ≤ c.toNat ∧ upper.toNat < 128) then c else upper
  | _ => c
/-- `new RegExp(pattern, 'i').test(text)` with a literal pattern, from which a `RegExp` can always be made. -/
def test (pattern : Pattern) (text : String) : Bool :=
  decide (pattern.val.toList.map canonicalize <:+: text.toList.map canonicalize)

namespace TypeScript

def report (rule : CustomRule) : GuardResult where
  verdict := (present rule.verdict).getD "yes"
  guard := (present rule.guard).getD "custom"
  score := rule.score.getD (1 / 2)
  classification := rule.classification
  explanation := (present rule.explanation).getD "Matched custom rule pattern."
def customRuleDetection (text : String) (customRules : List CustomRule) : GuardResult :=
  match customRules.find? (test ·.pattern text) with
  | some rule => report rule
  | none => { score := 0, verdict := "none", guard := "none", classification := some "none", explanation := "none" }
def selected (text : String) (customRules : List CustomRule) : Option Nat := customRules.findIdx? (test ·.pattern text)

end TypeScript

/-! ### Where they agree -/

/-- Both report the same. -/
structure SameReport (output : JsonOutput) (result : GuardResult) : Prop where
  score : result.score = output.score
  verdict : result.verdict = output.verdict
  guard : result.guard = output.guard
  classification : result.classification = some output.classification
  explanation : result.explanation = output.explanation
/-- Both select the same rule, and report the same. -/
structure Agree (text : String) (customRules : List CustomRule) : Prop where
  selected : Python.selected text customRules = TypeScript.selected text customRules
  report : SameReport (Python.customRuleDetection text customRules) (TypeScript.customRuleDetection text customRules)
/-- A rule that both report in the same way. -/
structure CustomRule.Filled (rule : CustomRule) : Prop where
  verdict : rule.verdict ≠ some ""
  guard : ∃ guard, rule.guard = some guard ∧ guard ≠ ""
  classification : ∃ classification, rule.classification = some classification
  explanation : rule.explanation ≠ some ""

/-- What occurs also occurs where case is ignored. -/
theorem test_of_search {pattern : Pattern} {text : String} (found : search pattern text = true) : test pattern text = true := by
  obtain ⟨before, after, parts⟩ := of_decide_eq_true found
  refine decide_eq_true ⟨before.map canonicalize, after.map canonicalize, ?_⟩
  rw [← parts, List.map_append, List.map_append]

omit [UpperCasing] in
/-- A value that may be empty is replaced in one SDK only. -/
theorem present_getD (value : Option String) {default : String} (nonempty : default ≠ "") :
    (present value).getD default = value.getD default ↔ value ≠ some "" := by
  cases value with
  | none => simp [present]
  | some value =>
    by_cases empty : value = ""
    · simp [present, Option.filter_some, empty, nonempty]
    · simp [present, Option.filter_some, empty]
omit [UpperCasing] in
theorem sameReport_report (rule : CustomRule) : SameReport (Python.report rule) (TypeScript.report rule) ↔ rule.Filled := by
  constructor
  · intro same
    refine ⟨(present_getD rule.verdict (by decide)).mp same.verdict, ?_, ⟨_, same.classification⟩,
      (present_getD rule.explanation (by decide)).mp same.explanation⟩
    have guards : (present rule.guard).getD "custom" = rule.guard.getD "prompt_injection" := same.guard
    cases given : rule.guard with
    | none => simp [given, present] at guards
    | some guard =>
      refine ⟨guard, rfl, ?_⟩
      rintro rfl
      simp [given, present, Option.filter_some] at guards
  · rintro ⟨verdict, ⟨guard, given, nonempty⟩, ⟨classification, classified⟩, explanation⟩
    refine ⟨rfl, (present_getD rule.verdict (by decide)).mpr verdict, ?_, ?_,
      (present_getD rule.explanation (by decide)).mpr explanation⟩
    · simp [Python.report, TypeScript.report, given, present, Option.filter_some, nonempty]
    · simp [Python.report, TypeScript.report, classified]

theorem agree_cons_other {text : String} {rule : CustomRule} (other : test rule.pattern text = false) (rest : List CustomRule) :
    Agree text (rule :: rest) ↔ Agree text rest := by
  have unmatched : search rule.pattern text = false := by
    by_contra found
    exact absurd (test_of_search (Bool.not_eq_false _ ▸ found)) (by simp [other])
  have python : Python.customRuleDetection text (rule :: rest) = Python.customRuleDetection text rest := by
    simp only [Python.customRuleDetection, List.find?_cons, unmatched]
  have typescript : TypeScript.customRuleDetection text (rule :: rest) = TypeScript.customRuleDetection text rest := by
    simp only [TypeScript.customRuleDetection, List.find?_cons, other]
  have places : Python.selected text (rule :: rest) = TypeScript.selected text (rule :: rest) ↔
      Python.selected text rest = TypeScript.selected text rest := by
    simp only [Python.selected, TypeScript.selected, List.findIdx?_cons, unmatched, other]
    exact (Option.map_injective fun _ _ => Nat.succ.inj).eq_iff
  constructor
  · exact fun agree => ⟨places.mp agree.selected, python ▸ typescript ▸ agree.report⟩
  · exact fun agree => ⟨places.mpr agree.selected, python.symm ▸ typescript.symm ▸ agree.report⟩
theorem agree_cons_matched {text : String} {rule : CustomRule} (matched : test rule.pattern text = true) (rest : List CustomRule) :
    Agree text (rule :: rest) ↔ search rule.pattern text = true ∧ rule.Filled := by
  have typescript : TypeScript.customRuleDetection text (rule :: rest) = TypeScript.report rule := by
    simp only [TypeScript.customRuleDetection, List.find?_cons, matched]
  by_cases found : search rule.pattern text = true
  · have python : Python.customRuleDetection text (rule :: rest) = Python.report rule := by
      simp only [Python.customRuleDetection, List.find?_cons, found]
    have places : Python.selected text (rule :: rest) = TypeScript.selected text (rule :: rest) := by
      simp [Python.selected, TypeScript.selected, List.findIdx?_cons, found, matched]
    rw [and_iff_right found, ← sameReport_report, ← python, ← typescript]
    exact ⟨Agree.report, fun same => ⟨places, same⟩⟩
  · refine iff_of_false ?_ fun both => found both.1
    rintro ⟨places, -⟩
    simp [Python.selected, TypeScript.selected, List.findIdx?_cons, found, matched] at places

/-- The SDKs agree exactly if the first rule that occurs where case is ignored also occurs exactly, and leaves out
nothing that they fill in differently. -/
theorem detections_agree_iff (text : String) (customRules : List CustomRule) :
    Agree text customRules ↔ ∀ before rule after, customRules = before ++ rule :: after →
      (∀ earlier ∈ before, test earlier.pattern text = false) → test rule.pattern text = true →
        search rule.pattern text = true ∧ rule.Filled := by
  induction customRules with
  | nil =>
    refine iff_of_true ⟨rfl, rfl, rfl, rfl, rfl, rfl⟩ fun before rule after parts => ?_
    simp at parts
  | cons first rest ih =>
    cases matched : test first.pattern text with
    | true =>
      rw [agree_cons_matched matched]
      constructor
      · intro agreed before rule after parts unmatched _
        cases before with
        | nil => exact (List.cons.inj parts).1 ▸ agreed
        | cons earlier before =>
          have skipped := unmatched earlier (by simp)
          rw [← (List.cons.inj parts).1, matched] at skipped
          simp at skipped
      · exact fun all => all [] first rest rfl (by simp) matched
    | false =>
      rw [agree_cons_other matched, ih]
      constructor
      · intro all before rule after parts unmatched found
        cases before with
        | nil =>
          rw [← (List.cons.inj parts).1, matched] at found
          simp at found
        | cons earlier before =>
          exact all before rule after (List.cons.inj parts).2 (fun e member => unmatched e (by simp [member])) found
      · intro all before rule after parts unmatched found
        refine all (first :: before) rule after (by rw [parts, List.cons_append]) ?_ found
        rintro earlier (_ | member)
        · exact matched
        · exact unmatched earlier ‹_›

end

/-- The SDKs call the guard of a rule that names none differently. -/
theorem guard_left_out : ¬ ∀ [UpperCasing] (text : String) (customRules : List CustomRule), Agree text customRules := by
  intro all
  let _ := asciiCasing
  have agreed := all "an override" [{ pattern := ⟨"override", by simp [metacharacters]⟩, classification := some "policy" }]
  rw [agree_cons_matched (by decide)] at agreed
  obtain ⟨guard, given, -⟩ := agreed.2.guard
  simp at given

end Openlit.CustomRules
