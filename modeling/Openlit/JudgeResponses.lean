import Openlit.PythonJson

/-!
The responses of a judge, as the guards and the evaluations of the Python SDK read them (`guard/utils.py`, `guard/all.py` and
`evals/utils.py`). A response that is no JSON, or no dict, becomes an output that finds nothing. A dict is validated, and there
the exception of a field that is missing or of a wrong type is not caught.
-/
namespace Openlit.JudgeResponses
open Openlit.PythonJson

/-- What is raised. A pattern that is no regular expression is raised at by `re`. -/
inductive Raised where
  | json (raised : JsonRaised)
  | typeError
  | keyError
  | validationError
  | patternError
  deriving DecidableEq, Repr
abbrev Fields := List (Text × PyValue)
/-- What the call of a judge gives. The keys of a dict that comes as such may be no strings. -/
inductive Response
  | text (text : Text)
  | dict (entries : List (PyValue × PyValue))
  | other
structure JsonOutput (F : Type) where
  score : F
  verdict : Text
  /-- The field `guard` or `evaluation`. -/
  kind : Text
  classification : Text
  explanation : Text
  deriving DecidableEq
/-- What pydantic makes of a value for a field that is a float or a string, and its floats. -/
class Pydantic (F : Type) where
  asFloat : PyValue → Option F
  asStr : PyValue → Option Text
  zero : F
  lt : F → F → Bool
  lt_irrefl : ∀ score, lt score score = false

/-! ### Parsing -/

/-- The keyword arguments of a dict, if its keys are strings. -/
def keywords (entries : List (PyValue × PyValue)) : Option Fields :=
  entries.mapM fun
    | (.str key, value) => some (key, value)
    | _ => none
/-- The arguments that a response has for `JsonOutput(**data)`. -/
def fieldsOf [Interpreter] : Response → Except Raised Fields
  | .text text =>
    match loads text with
    | .ok (.dict entries) => pure entries
    | .ok _ => throw .typeError
    | .error raised => throw (.json raised)
  | .dict entries =>
    match keywords entries with
    | some fields => pure fields
    | none => throw .typeError
  | .other => throw .typeError

section
variable {F : Type} [Pydantic F]
open Pydantic

/-- One field of a model: it must be there, and be taken for its type. -/
def field {α : Type} (convert : PyValue → Option α) (fields : Fields) (key : String) : Except Raised α :=
  match (fields.lookup (codes key)).bind convert with
  | some value => pure value
  | none => throw .validationError
/-- `JsonOutput(**data)`. Other fields are ignored. -/
def jsonOutput (kind : String) (fields : Fields) : Except Raised (JsonOutput F) := do
  let score ← field asFloat fields "score"
  let verdict ← field (asStr F) fields "verdict"
  let kind ← field (asStr F) fields kind
  let classification ← field (asStr F) fields "classification"
  let explanation ← field (asStr F) fields "explanation"
  pure { score, verdict, kind, classification, explanation }
/-- An output that finds nothing. -/
def nothing (verdict : String) : JsonOutput F :=
  { score := zero, verdict := codes verdict, kind := codes "none", classification := codes "none", explanation := codes "none" }

section
variable [Interpreter]

def parseLlmResponse (kind verdict : String) (response : Response) : Except Raised (JsonOutput F) :=
  match fieldsOf response >>= jsonOutput kind with
  | .error (.json .jsonDecodeError) => pure (nothing verdict)
  | .error .typeError => pure (nothing verdict)
  | result => result
def Guard.parseLlmResponse : Response → Except Raised (JsonOutput F) := JudgeResponses.parseLlmResponse "guard" "none"
def Evals.parseLlmResponse : Response → Except Raised (JsonOutput F) := JudgeResponses.parseLlmResponse "evaluation" "no"
end

/-! ### Detection -/

def get (rule : Fields) (key : String) (fallback : PyValue) : PyValue := (rule.lookup (codes key)).getD fallback
/-- The output for a rule that matches. -/
def report (rule : Fields) : Except Raised (JsonOutput F) :=
  jsonOutput "guard"
    [(codes "verdict", get rule "verdict" (.str (codes "yes"))), (codes "guard", get rule "guard" (.str (codes "prompt_injection"))),
      (codes "score", get rule "score" (.float (codes "0.5"))),
      (codes "classification", get rule "classification" (.str (codes "custom"))),
      (codes "explanation", get rule "explanation" (.str (codes "Matched custom rule pattern.")))]

variable (search : PyValue → Text → Except Raised Bool)

/-- `custom_rule_detection`, where `search` is `re.search`. -/
def customRuleDetection (text : Text) : List Fields → Except Raised (JsonOutput F)
  | [] => pure (nothing "none")
  | rule :: rules =>
    match rule.lookup (codes "pattern") with
    | none => throw .keyError
    | some pattern => do
      if ← search pattern text then report rule else customRuleDetection text rules
/-- `All.detect` with what the provider responds, if there is a provider. -/
def detect [Interpreter] (customRules : List Fields) (text : Text) (response : Option Response) : Except Raised (JsonOutput F) := do
  let customRuleResult ← customRuleDetection search text customRules
  let llmResult ← match response with
    | none => pure (nothing "no")
    | some response => Guard.parseLlmResponse response
  pure (if lt customRuleResult.score llmResult.score then llmResult else customRuleResult)

/-! ### What should hold -/

/-- Some rule matches. -/
def Matched (rules : List Fields) (text : Text) : Prop :=
  ∃ rule ∈ rules, ∃ pattern, rule.lookup (codes "pattern") = some pattern ∧ search pattern text = .ok true
/-- The judge has given a whole output, with a score above that of a rule. -/
def Outscored [Interpreter] (response : Response) (own judged : JsonOutput F) : Prop :=
  (fieldsOf response >>= jsonOutput "guard") = .ok judged ∧ lt own.score judged.score = true
/-- A response that is answered: it is read, and where the rules themselves are no reason to raise, it does not hide that of them
which matches. -/
def Answered [Interpreter] (F : Type) [Pydantic F] (rules : List Fields) (text : Text) (response : Response) : Prop :=
  (∃ out : JsonOutput F, Guard.parseLlmResponse response = .ok out) ∧
    ∀ own : JsonOutput F, customRuleDetection search text rules = .ok own →
      ∃ out, detect search rules text (some response) = .ok out ∧ (Matched search rules text → out = own ∨ Outscored response own out)

/-- The fields are all there, each of its type. -/
def Complete (F : Type) [Pydantic F] (kind : String) (fields : Fields) : Prop :=
  (∃ score, (fields.lookup (codes "score")).bind asFloat = some (score : F)) ∧
    ∀ key ∈ ["verdict", kind, "classification", "explanation"], ∃ text, (fields.lookup (codes key)).bind (asStr F) = some text
/-- Nothing is raised for a response that is not caught. -/
def Readable [Interpreter] (F : Type) [Pydantic F] (kind : String) (response : Response) : Prop :=
  (∃ fields, fieldsOf response = .ok fields ∧ Complete F kind fields) ∨
    fieldsOf response = .error (.json .jsonDecodeError) ∨ fieldsOf response = .error .typeError
/-- No rule that matches scores below zero, which is the score of a response without fields. -/
def Scored (F : Type) [Pydantic F] (rules : List Fields) (text : Text) : Prop :=
  ∀ own : JsonOutput F, Matched search rules text → customRuleDetection search text rules = .ok own → lt own.score zero = false

theorem field_ok_iff {α : Type} {convert : PyValue → Option α} {fields : Fields} {key : String} {value : α} :
    field convert fields key = .ok value ↔ (fields.lookup (codes key)).bind convert = some value := by
  rw [field]
  split
  · rename_i found
    rw [found]
    exact ⟨fun ok => congrArg some (Except.ok.inj ok), fun same => congrArg Except.ok (Option.some.inj same)⟩
  · rename_i missing
    rw [missing]
    exact ⟨fun ok => (by cases ok), fun same => (by cases same)⟩
theorem field_error {α : Type} {convert : PyValue → Option α} {fields : Fields} {key : String} {raised : Raised}
    (error : field convert fields key = .error raised) : raised = .validationError := by
  rw [field] at error
  split at error <;> cases error
  rfl
theorem jsonOutput_ok_iff {kind : String} {fields : Fields} :
    (∃ out : JsonOutput F, jsonOutput kind fields = .ok out) ↔ Complete F kind fields := by
  constructor
  · rintro ⟨out, ok⟩
    obtain ⟨score, isScore, ok⟩ := bind_ok ok
    obtain ⟨verdict, isVerdict, ok⟩ := bind_ok ok
    obtain ⟨kind', isKind, ok⟩ := bind_ok ok
    obtain ⟨classification, isClassification, ok⟩ := bind_ok ok
    obtain ⟨explanation, isExplanation, ok⟩ := bind_ok ok
    refine ⟨⟨score, field_ok_iff.mp isScore⟩, fun key listed => ?_⟩
    simp only [List.mem_cons, List.not_mem_nil, or_false] at listed
    rcases listed with rfl | rfl | rfl | rfl
    · exact ⟨verdict, field_ok_iff.mp isVerdict⟩
    · exact ⟨kind', field_ok_iff.mp isKind⟩
    · exact ⟨classification, field_ok_iff.mp isClassification⟩
    · exact ⟨explanation, field_ok_iff.mp isExplanation⟩
  · rintro ⟨⟨score, isScore⟩, texts⟩
    obtain ⟨verdict, isVerdict⟩ := texts "verdict" (by simp)
    obtain ⟨kind', isKind⟩ := texts kind (by simp)
    obtain ⟨classification, isClassification⟩ := texts "classification" (by simp)
    obtain ⟨explanation, isExplanation⟩ := texts "explanation" (by simp)
    refine ⟨{ score, verdict, kind := kind', classification, explanation }, ?_⟩
    rw [jsonOutput, field_ok_iff.mpr isScore, field_ok_iff.mpr isVerdict, field_ok_iff.mpr isKind,
      field_ok_iff.mpr isClassification, field_ok_iff.mpr isExplanation]
    rfl
theorem jsonOutput_error {kind : String} {fields : Fields} {raised : Raised}
    (error : jsonOutput (F := F) kind fields = .error raised) : raised = .validationError := by
  rcases bind_error error with error | ⟨score, -, error⟩
  · exact field_error error
  rcases bind_error error with error | ⟨verdict, -, error⟩
  · exact field_error error
  rcases bind_error error with error | ⟨kind, -, error⟩
  · exact field_error error
  rcases bind_error error with error | ⟨classification, -, error⟩
  · exact field_error error
  rcases bind_error error with error | ⟨explanation, -, error⟩
  · exact field_error error
  · cases error
/-- What the rules give where one matches: the report of a rule that does. -/
theorem customRuleDetection_report {rules : List Fields} {text : Text} {own : JsonOutput F} (matched : Matched search rules text)
    (ruled : customRuleDetection search text rules = .ok own) :
    ∃ rule ∈ rules, ∃ pattern, rule.lookup (codes "pattern") = some pattern ∧ search pattern text = .ok true ∧ report rule = .ok own := by
  induction rules with
  | nil =>
    obtain ⟨rule, listed, -⟩ := matched
    cases listed
  | cons rule rules ih =>
    rw [customRuleDetection] at ruled
    split at ruled
    · cases ruled
    rename_i pattern named
    obtain ⟨found, searched, ruled⟩ := bind_ok ruled
    cases found with
    | true => exact ⟨rule, .head _, pattern, named, searched, ruled⟩
    | false =>
      obtain ⟨rule', listed, pattern', named', searched', ruled⟩ := ih (by
        obtain ⟨rule', listed, pattern', named', searched'⟩ := matched
        rcases List.mem_cons.mp listed with rfl | listed
        · cases named.symm.trans named'
          cases searched.symm.trans searched'
        · exact ⟨rule', listed, pattern', named', searched'⟩) ruled
      exact ⟨rule', .tail _ listed, pattern', named', searched', ruled⟩

section
variable [Interpreter]

theorem parse_output {kind verdict : String} {response : Response} {out : JsonOutput F}
    (whole : (fieldsOf response >>= jsonOutput kind) = .ok out) : parseLlmResponse kind verdict response = .ok out := by
  rw [parseLlmResponse, whole]
theorem parse_caught {kind verdict : String} {response : Response}
    (caught : fieldsOf response = .error (.json .jsonDecodeError) ∨ fieldsOf response = .error .typeError) :
    parseLlmResponse (F := F) kind verdict response = .ok (nothing verdict) := by
  rcases caught with caught | caught <;> rw [parseLlmResponse, caught] <;> rfl
theorem parse_raises {kind : String} {response : Response} (unreadable : ¬ Readable F kind response) (verdict : String) :
    ∃ raised, parseLlmResponse (F := F) kind verdict response = .error raised := by
  cases fields : fieldsOf response with
  | ok fields' =>
    cases output : jsonOutput (F := F) kind fields' with
    | ok out => exact absurd (.inl ⟨fields', fields, jsonOutput_ok_iff.mp ⟨out, output⟩⟩) unreadable
    | error raised =>
      cases jsonOutput_error output
      exact ⟨.validationError, by rw [parseLlmResponse, fields]; simp only [bind, Except.bind, output]⟩
  | error raised =>
    refine ⟨raised, ?_⟩
    rw [parseLlmResponse, fields]
    cases raised with
    | json raised =>
      cases raised with
      | jsonDecodeError => exact absurd (.inr (.inl fields)) unreadable
      | valueError => rfl
      | recursionError => rfl
    | typeError => exact absurd (.inr (.inr fields)) unreadable
    | keyError => rfl
    | validationError => rfl
    | patternError => rfl
theorem Readable.cases {kind : String} {response : Response} (readable : Readable F kind response) :
    (∃ out : JsonOutput F, (fieldsOf response >>= jsonOutput kind) = .ok out) ∨
      fieldsOf response = .error (.json .jsonDecodeError) ∨ fieldsOf response = .error .typeError := by
  rcases readable with ⟨fields, given, complete⟩ | caught
  · obtain ⟨out, output⟩ := jsonOutput_ok_iff.mpr complete
    exact .inl ⟨out, by rw [given]; exact output⟩
  · exact .inr caught
theorem parse_ok_iff {kind verdict : String} {response : Response} :
    (∃ out : JsonOutput F, parseLlmResponse kind verdict response = .ok out) ↔ Readable F kind response := by
  constructor
  · rintro ⟨out, ok⟩
    by_contra unreadable
    obtain ⟨raised, error⟩ := parse_raises unreadable verdict
    cases ok.symm.trans error
  · intro readable
    rcases readable.cases with ⟨out, output⟩ | caught
    · exact ⟨out, parse_output output⟩
    · exact ⟨nothing verdict, parse_caught caught⟩

theorem detect_ok {rules : List Fields} {text : Text} {response : Response} {own judged : JsonOutput F}
    (ruled : customRuleDetection search text rules = .ok own) (parsed : Guard.parseLlmResponse response = .ok judged) :
    detect search rules text (some response) = .ok (if lt own.score judged.score then judged else own) := by
  simp only [detect, ruled, parsed, bind, Except.bind, pure, Except.pure]
/-- A rule that matches is reported where nothing else is found, unless it scores below zero. -/
theorem detect_caught_iff {rules : List Fields} {text : Text} {response : Response} {own : JsonOutput F}
    (ruled : customRuleDetection search text rules = .ok own)
    (caught : fieldsOf response = .error (.json .jsonDecodeError) ∨ fieldsOf response = .error .typeError) :
    detect search rules text (some response) = .ok own ↔ lt own.score zero = false := by
  rw [detect_ok search ruled (parse_caught caught)]
  constructor
  · intro same
    by_contra below
    have below : lt own.score zero = true := by simpa using below
    have same : (nothing "none" : JsonOutput F) = own := by simpa [nothing, below] using same
    have := lt_irrefl (F := F) zero
    rw [← same] at below
    exact absurd below (by rw [nothing, this]; decide)
  · intro above
    simp [nothing, above]

/-- A text that is within the limits of the interpreter is readable exactly if a dict that it may be is complete. -/
theorem readable_text_iff {kind : String} {text : Text} (within : Within Interpreter.nesting text) :
    Readable F kind (.text text) ↔ ∀ fields, loads text = .ok (.dict fields) → Complete F kind fields := by
  constructor
  · intro readable fields loaded
    have given : fieldsOf (.text text) = .ok fields := by rw [fieldsOf, loaded]; rfl
    rcases readable with ⟨fields', given', complete⟩ | caught | caught
    · cases given.symm.trans given'
      exact complete
    · cases given.symm.trans caught
    · cases given.symm.trans caught
  · intro complete
    cases loaded : loads text with
    | ok value =>
      cases value with
      | dict fields => exact .inl ⟨fields, by rw [fieldsOf, loaded]; rfl, complete fields loaded⟩
      | _ => exact .inr (.inr (by rw [fieldsOf, loaded]; rfl))
    | error raised =>
      cases onlySyntax_loads within raised loaded
      exact .inr (.inl (by rw [fieldsOf, loaded]; rfl))

/-- A guard answers to the judge's response exactly if it is readable and, where it has no fields, no rule that matches is scored
below zero. An evaluation only reads it. -/
theorem responses_answered_iff (rules : List Fields) (text : Text) (response : Response) :
    (Answered search F rules text response ↔ Readable F "guard" response ∧
        ((∃ fields, fieldsOf response = .ok fields) ∨ Scored search F rules text)) ∧
      ((∃ out : JsonOutput F, Evals.parseLlmResponse response = .ok out) ↔ Readable F "evaluation" response) := by
  refine ⟨⟨?_, ?_⟩, parse_ok_iff⟩
  · rintro ⟨parsed, reported⟩
    have readable := parse_ok_iff.mp parsed
    refine ⟨readable, ?_⟩
    rcases readable with ⟨fields, given, -⟩ | caught
    · exact .inl ⟨fields, given⟩
    · refine .inr fun own matched ruled => ?_
      obtain ⟨out, found, shown⟩ := reported own ruled
      rcases shown matched with rfl | ⟨whole, -⟩
      · exact (detect_caught_iff search ruled caught).mp found
      · rcases caught with caught | caught <;> rw [caught] at whole <;> cases whole
  · rintro ⟨readable, scored⟩
    refine ⟨parse_ok_iff.mpr readable, fun own ruled => ?_⟩
    rcases readable.cases with ⟨judged, output⟩ | caught
    · refine ⟨_, detect_ok search ruled (parse_output output), fun _ => ?_⟩
      by_cases higher : lt own.score judged.score = true
      · rw [if_pos higher]
        exact .inr ⟨output, higher⟩
      · exact .inl (if_neg higher)
    · refine ⟨_, detect_ok search ruled (parse_caught caught), fun matched => .inl ?_⟩
      have scored : Scored search F rules text := by
        rcases scored with ⟨fields, given⟩ | scored
        · rcases caught with caught | caught <;> cases caught.symm.trans given
        · exact scored
      exact if_neg (by rw [show (nothing "none" : JsonOutput F).score = zero from rfl, scored own matched ruled]; decide)
end

end

/-- An interpreter with the usual limits. -/
@[reducible] def usualLimits : Interpreter := { nesting := 900, maxDigits := some 4300 }
/-- Integers as scores. -/
@[reducible] def intScores : Pydantic Int where
  asFloat
    | .int n => some n
    | .bool b => some (if b then 1 else 0)
    | _ => none
  asStr
    | .str text => some text
    | _ => none
  zero := 0
  lt a b := decide (a < b)
  lt_irrefl := by simp
attribute [local instance] usualLimits intScores in
/-- A dict without fields raises, although a rule matches the text. -/
theorem empty_dict_raises :
    Guard.parseLlmResponse (F := Int) (.text (codes "\x7b\x7d")) = .error .validationError ∧
      Evals.parseLlmResponse (F := Int) (.text (codes "\x7b\x7d")) = .error .validationError ∧
      detect (F := Int) (fun _ _ => .ok true) [[(codes "pattern", .str (codes "ignore")), (codes "score", .int 1)]] (codes "ignore")
        (some (.text (codes "\x7b\x7d"))) = .error .validationError ∧
      ¬ Answered (fun _ _ => .ok true) Int [[(codes "pattern", .str (codes "ignore")), (codes "score", .int 1)]] (codes "ignore")
        (.text (codes "\x7b\x7d")) := by
  have raises : Guard.parseLlmResponse (F := Int) (.text (codes "\x7b\x7d")) = .error .validationError := rfl
  refine ⟨raises, rfl, rfl, ?_⟩
  rintro ⟨⟨out, ok⟩, -⟩
  cases raises.symm.trans ok

end Openlit.JudgeResponses
