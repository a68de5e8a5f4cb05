import Openlit.AutoEvaluationRuns

/-!
What a run of `autoEvaluate` writes to the cron log about its spans. The
counters and the error record fit the outcomes of the evaluations in any run.
The status is `FAILURE` when as many spans failed as there were, which is so as
well where there were none.
-/
namespace Openlit.CronLogs
open Openlit.Values Openlit.AutoEvaluations Openlit.AutoEvaluationRuns

/-! ### Outcomes -/

/-- A span with what became of its evaluation. -/
abbrev Result : Type := TraceRow × Except String Unit
def Failed (result : Result) : Prop := ∃ err, result.2 = .error err
def failed (result : Result) : Bool := result.2.toOption.isNone

theorem failed_iff (result : Result) : failed result = true ↔ Failed result := by
  obtain ⟨trace, outcome⟩ := result
  cases outcome <;> simp [failed, Failed, Except.toOption]

/-- The evaluations of a run, each with the services as they are at its time. -/
def outcomes (env : Environment) (config : EvaluationConfig) (traces : List TraceRow) : List Result :=
  traces.zip ((traces.zipIdx.map fun (trace, index) => getEvaluationConfigForTrace (env.services index) trace config "auto").map (·.1))

theorem length_outcomes (env : Environment) (config : EvaluationConfig) (traces : List TraceRow) :
    (outcomes env config traces).length = traces.length := by
  simp [outcomes]
theorem countP_outcomes (env : Environment) (config : EvaluationConfig) (traces : List TraceRow) :
    (outcomes env config traces).countP failed =
      (traces.zipIdx.map fun (trace, index) => getEvaluationConfigForTrace (env.services index) trace config "auto").countP
        fun result => result.1.toOption.isNone := by
  have second : (outcomes env config traces).map (·.2) =
      (traces.zipIdx.map fun (trace, index) => getEvaluationConfigForTrace (env.services index) trace config "auto").map (·.1) :=
    List.map_snd_zip (by simp)
  rw [show failed = (fun outcome : Except String Unit => outcome.toOption.isNone) ∘ (·.2) from rfl, ← List.countP_map, second,
    List.countP_map]
  rfl

/-! ### The parts of the entry -/

/-- The spans of the error record are those that failed. -/
theorem mem_errorObject (results : List Result) (spanId : String) :
    spanId ∈ (errorObject results).map (·.1) ↔ ∃ result ∈ results, result.1.spanId = spanId ∧ Failed result := by
  induction results using List.reverseRecOn with
  | nil => simp [errorObject]
  | append_singleton results result ih =>
    obtain ⟨trace, outcome⟩ := result
    simp only [List.mem_append, List.mem_singleton, or_and_right, exists_or, exists_eq_left, ← ih]
    cases outcome with
    | ok done =>
      have last : errorObject (results ++ [(trace, .ok done)]) = errorObject results := by
        rw [errorObject, List.foldl_append]
        rfl
      simp [last, Failed]
    | error err =>
      have last : errorObject (results ++ [(trace, .error err)]) =
          (errorObject results).filter (·.1 ≠ trace.spanId) ++ [(trace.spanId, err)] := by
        rw [errorObject, List.foldl_append]
        rfl
      by_cases same : trace.spanId = spanId
      · simp [last, same, Failed]
      · have other : spanId ≠ trace.spanId := Ne.symm same
        simp [last, same, other, Failed]

theorem runStatus_success_iff (errorCount total : Nat) :
    runStatus errorCount total = SUCCESS ↔ errorCount = 0 ∧ total ≠ 0 := by
  unfold runStatus
  split_ifs with all some <;> simp [FAILURE, PARTIAL_SUCCESS, SUCCESS] <;> omega
theorem runStatus_failure_iff (errorCount total : Nat) : runStatus errorCount total = FAILURE ↔ errorCount = total := by
  unfold runStatus
  split_ifs with all some <;> simp [FAILURE, PARTIAL_SUCCESS, SUCCESS, all]
theorem runStatus_partial_iff (errorCount total : Nat) :
    runStatus errorCount total = PARTIAL_SUCCESS ↔ errorCount ≠ total ∧ 0 < errorCount := by
  unfold runStatus
  split_ifs with all some <;> simp [FAILURE, PARTIAL_SUCCESS, SUCCESS, all] <;> omega

/-- An entry that fits what became of the spans. -/
structure Accurate (row : CronLogRow) (results : List Result) : Prop where
  counted : ∃ evaluated failures : Nat, get row.meta "totalSpans" = .int results.length ∧
    get row.meta "totalEvaluated" = .int evaluated ∧ get row.meta "totalFailed" = .int failures ∧
    results.length = evaluated + failures ∧ failures = results.countP failed
  named : ∀ spanId, spanId ∈ row.error_stacktrace.map (·.1) ↔ ∃ result ∈ results, result.1.spanId = spanId ∧ Failed result
  success : row.run_status = SUCCESS ↔ ∀ result ∈ results, ¬Failed result
  failure : row.run_status = FAILURE ↔ (∃ result ∈ results, Failed result) ∧ ∀ result ∈ results, Failed result
  otherwise : row.run_status = PARTIAL_SUCCESS ↔ (∃ result ∈ results, Failed result) ∧ ∃ result ∈ results, ¬Failed result

theorem countP_failed_eq_zero (results : List Result) : results.countP failed = 0 ↔ ∀ result ∈ results, ¬Failed result := by
  simp only [List.countP_eq_zero, failed_iff]
theorem countP_failed_eq_length (results : List Result) :
    results.countP failed = results.length ↔ ∀ result ∈ results, Failed result := by
  simp only [List.countP_eq_length, failed_iff]
theorem countP_failed_pos (results : List Result) : 0 < results.countP failed ↔ ∃ result ∈ results, Failed result := by
  simp only [List.countP_pos_iff, failed_iff]

/-- An entry with the counters, the errors and the status of the code is accurate unless there are no spans. -/
theorem accurate_iff {row : CronLogRow} {results : List Result}
    (total : get row.meta "totalSpans" = .int results.length)
    (evaluated : get row.meta "totalEvaluated" = .int (results.length - results.countP failed))
    (failures : get row.meta "totalFailed" = .int (results.countP failed))
    (errors : row.error_stacktrace = errorObject results) (status : row.run_status = runStatus (results.countP failed) results.length) :
    Accurate row results ↔ results ≠ [] := by
  have few : results.countP failed ≤ results.length := List.countP_le_length
  constructor
  · rintro accurate rfl
    have succeeded := accurate.success.mpr (by simp)
    rw [status, runStatus_success_iff] at succeeded
    exact succeeded.2 rfl
  · intro nonempty
    have positive : 0 < results.length := List.length_pos_of_ne_nil nonempty
    rw [← Int.ofNat_sub few] at evaluated
    refine ⟨⟨_, _, total, evaluated, failures, by omega, rfl⟩, ?_, ?_, ?_, ?_⟩
    · intro spanId
      rw [errors, mem_errorObject]
    · rw [status, runStatus_success_iff, ← countP_failed_eq_zero]
      omega
    · rw [status, runStatus_failure_iff, ← countP_failed_eq_length, ← countP_failed_pos]
      omega
    · have succeeded : (∃ result ∈ results, ¬Failed result) ↔ results.countP failed ≠ results.length := by
        rw [ne_eq, countP_failed_eq_length]
        simp
      rw [status, runStatus_partial_iff, ← countP_failed_pos, succeeded, and_comm]

section
variable [DateTimes]

end

/-- No span is due: nothing fails, and the run is logged as a failure. -/
def quietStore : Store := { sampleStore with databases := fun _ => {} }
end Openlit.CronLogs
