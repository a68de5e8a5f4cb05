import Openlit.WebhookSelection

/-!
How much of a resource the webhook reads. The parser takes the untyped object
apart by hand and passes several blocks over, and it looks for the timeout as a
`float64` where the API machinery has put an `int64`. A resource comes back as it
was exactly if it leaves out all of that (`spec_read_back_iff`).
-/
namespace Openlit.SpecParsing
open Openlit.Values Openlit.Manifests Openlit.Webhook Openlit.WebhookSelection

/-- The parser gives back the same settings, every one of them. -/
def ReadBack [TimeParsing] (r : Stored) : Prop :=
  ∃ cfg, parseAutoInstrumentation (toUnstructured r) = .ok cfg ∧ cfg.spec = r.spec

/-- Nothing is there that the parser passes over. -/
structure Covered (s : AutoInstrumentationSpec) : Prop where
  expressions : s.selector.matchExpressions = []
  ignore : s.ignore = none
  /-- A Python block has its settings, which have no environment. -/
  python : ∀ block, s.python = some block → ∃ settings, block.instrumentation = some settings ∧ settings.env = []
  go : s.go = none
  timeout : s.otlp.timeout = none

/-- A Python block comes back where its settings are there without an environment. -/
theorem parsedPython_eq_iff (block : PythonInstrumentation) :
    parsedPython block = block ↔ ∃ settings, block.instrumentation = some settings ∧ settings.env = [] := by
  obtain ⟨instrumentation⟩ := block
  cases instrumentation with
  | none => simp [parsedPython]
  | some settings =>
    simp only [parsedPython, PythonInstrumentation.mk.injEq, Option.getD_some, Option.some.injEq, exists_eq_left']
    constructor
    · intro same
      exact (congrArg InstrumentationSettings.env same).symm
    · intro empty
      rw [← empty]
theorem parsed_python_iff (python : Option PythonInstrumentation) :
    python.map parsedPython = python ↔
      ∀ block, python = some block → ∃ settings, block.instrumentation = some settings ∧ settings.env = [] := by
  cases python with
  | none => simp
  | some block => simp [parsedPython_eq_iff]
theorem parsed_otlp_iff (otlp : OTLPConfig) : { otlp with timeout := none } = otlp ↔ otlp.timeout = none := by
  obtain ⟨endpoint, headers, timeout⟩ := otlp
  simp [eq_comm]

theorem spec_read_back_iff [TimeParsing] (r : Stored) : ReadBack r ↔ Covered r.spec := by
  have only : ReadBack r ↔ (parsed r).spec = r.spec := by
    simp [ReadBack, parse_stored]
  rw [only]
  constructor
  · intro same
    have selector := congrArg AutoInstrumentationSpec.selector same
    have otlp := congrArg AutoInstrumentationSpec.otlp same
    exact
      { expressions := (congrArg PodSelector.matchExpressions selector).symm
        ignore := (congrArg AutoInstrumentationSpec.ignore same).symm
        python := (parsed_python_iff _).mp (congrArg AutoInstrumentationSpec.python same)
        go := (congrArg AutoInstrumentationSpec.go same).symm
        timeout := (parsed_otlp_iff _).mp otlp }
  · intro covered
    obtain ⟨_, _, _, ⟨⟨matchLabels, expressions⟩, ignore, python, go, otlp, resource⟩, _, _⟩ := r
    obtain ⟨rfl, rfl, settings, rfl, timeout⟩ := covered
    simp [parsed, (parsed_python_iff _).mpr settings, (parsed_otlp_iff _).mpr timeout]

/-- The timeout of a resource is always an `int64`. -/
theorem timeout_passed_over :
    ¬ @ReadBack noTime
      { name := "chat", nameSpace := "apps", createdAt := "2024-05-01T10:00:00Z"
        spec := { selector := { matchLabels := some [("app", "chat")] }
                  python := some { instrumentation := some { provider := "openlit" } }
                  otlp := { endpoint := "http://collector:4318", timeout := some 30 } }
        named := by decide, namespaced := by decide } := by
  rintro ⟨cfg, read, same⟩
  have timeout := congrArg (fun spec => spec.otlp.timeout) same
  rw [@parse_stored noTime] at read
  cases read
  cases timeout

end Openlit.SpecParsing
