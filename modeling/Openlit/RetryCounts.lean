import Openlit.Runs
import Openlit.WebhookReliability

/-!
The books that the webhook keeps of its guarded operations. A call has several
exits, and each of them does one entry in the breaker or none, and one in the
counters of the handler. Over any sequence of calls the counters are therefore
the numbers of calls and of calls that returned an error (`calls_counted`).
-/
namespace Openlit.RetryCounts
open Openlit.WebhookReliability

/-! ### One call -/

def returnsError (reply : Reply) : Bool :=
  match reply.result with
  | .error _ => true
  | .ok () => false

/-- What a call does to the breaker and returns, if it ends like that. -/
def Ends (handler : Handler) (call : Call) : Verdict → Prop
  | .rejected =>
    (executeWithRetryAndTimeout handler call).2.started = 0 ∧ returnsError (executeWithRetryAndTimeout handler call).2 = true ∧
      (executeWithRetryAndTimeout handler call).1.circuitBreaker = handler.circuitBreaker
  | .failed =>
    returnsError (executeWithRetryAndTimeout handler call).2 = true ∧
      (executeWithRetryAndTimeout handler call).1.circuitBreaker = recordFailure handler.circuitBreaker call.ended
  | .succeeded =>
    returnsError (executeWithRetryAndTimeout handler call).2 = false ∧
      (executeWithRetryAndTimeout handler call).1.circuitBreaker = recordSuccess handler.circuitBreaker
/-- A call starts its operation at most as often as it may, and ends in exactly one way. -/
structure Accounted (handler : Handler) (call : Call) : Prop where
  attempts : (executeWithRetryAndTimeout handler call).2.started ≤ handler.maxRetries
  ends : ∃! verdict, Ends handler call verdict

/-- Every turn of the loop starts the operation at most once. -/
theorem retry_started (h : Handler) (call : Call) (left n : Nat) (lastErr : Option String) :
    (retry h call left n lastErr).2.started ≤ n + left := by
  induction left generalizing n lastErr with
  | zero => simp [retry]
  | succ left ih =>
    cases waited : (if n = 0 then .elapsed else (call.rounds n).wait : Wait) with
    | done ctxErr => simp [retry, waited]
    | elapsed =>
      cases outcome : (call.rounds n).outcome with
      | succeeded =>
        simp only [retry, waited, outcome]
        omega
      | failed err =>
        have later := ih (n + 1) (some err)
        simp only [retry, waited, outcome]
        omega
      | timedOut ctxErr =>
        have later := ih (n + 1) (some s!"operation {call.operationName} timed out on attempt {n + 1}: {ctxErr}")
        simp only [retry, waited, outcome]
        omega

/-- All that a call can do. -/
theorem execute_cases (handler : Handler) (call : Call) :
    ∃ started ≤ handler.maxRetries,
      (∃ text, started = 0 ∧ executeWithRetryAndTimeout handler call =
        ({ handler with requestCount := handler.requestCount + 1, failureCount := handler.failureCount + 1 },
          ⟨started, .error text⟩)) ∨
      (∃ text, executeWithRetryAndTimeout handler call =
        ({ handler with
            requestCount := handler.requestCount + 1
            failureCount := handler.failureCount + 1
            circuitBreaker := recordFailure handler.circuitBreaker call.ended }, ⟨started, .error text⟩)) ∨
      executeWithRetryAndTimeout handler call =
        ({ handler with
            requestCount := handler.requestCount + 1
            circuitBreaker := recordSuccess handler.circuitBreaker }, ⟨started, .ok ()⟩) := by
  cases allowed : canExecute handler.circuitBreaker call.begun with
  | false =>
    refine ⟨0, Nat.zero_le _, .inl ⟨s!"circuit breaker is open - rejecting {call.operationName} operation", rfl, ?_⟩⟩
    simp [executeWithRetryAndTimeout, allowed]
  | true =>
    have begun : executeWithRetryAndTimeout handler call =
        retry { handler with requestCount := handler.requestCount + 1 } call handler.maxRetries 0 none := by
      rw [executeWithRetryAndTimeout]
      exact if_pos allowed
    have bounded := retry_started { handler with requestCount := handler.requestCount + 1 } call handler.maxRetries 0 none
    rcases retry_cases { handler with requestCount := handler.requestCount + 1 } call handler.maxRetries 0 none with
      ⟨-, started, ends⟩ | ⟨-, started, text, ends⟩
    · rw [ends] at bounded
      exact ⟨started, by simpa using bounded, .inr (.inr (begun.trans ends))⟩
    · rw [ends] at bounded
      exact ⟨started, by simpa using bounded, .inr (.inl ⟨text, begun.trans ends⟩)⟩

/-- A failure that is recorded shows in the breaker. -/
theorem recordFailure_ne (cb : CircuitBreaker) (now : Int) : recordFailure cb now ≠ cb := by
  intro same
  have count := congrArg CircuitBreaker.failureCount same
  simp [recordFailure] at count

theorem call_accounted (handler : Handler) (call : Call) : Accounted handler call := by
  have differs := recordFailure_ne handler.circuitBreaker call.ended
  obtain ⟨started, bounded, ⟨text, none_, ends⟩ | ⟨text, ends⟩ | ends⟩ := execute_cases handler call
  · refine ⟨by simpa [ends] using bounded, .rejected, ⟨by simp [ends, none_], by simp [ends, returnsError], by simp [ends]⟩, ?_⟩
    intro verdict other
    cases verdict with
    | rejected => rfl
    | failed =>
      have recorded := other.2
      rw [ends] at recorded
      exact absurd recorded.symm differs
    | succeeded => simp [Ends, ends, returnsError] at other
  · refine ⟨by simpa [ends] using bounded, .failed, ⟨by simp [ends, returnsError], by simp [ends]⟩, ?_⟩
    intro verdict other
    cases verdict with
    | rejected =>
      have untouched := other.2.2
      rw [ends] at untouched
      exact absurd untouched differs
    | failed => rfl
    | succeeded => simp [Ends, ends, returnsError] at other
  · refine ⟨by simpa [ends] using bounded, .succeeded, ⟨by simp [ends, returnsError], by simp [ends]⟩, ?_⟩
    intro verdict other
    cases verdict with
    | rejected => simp [Ends, ends, returnsError] at other
    | failed => simp [Ends, ends, returnsError] at other
    | succeeded => rfl
/-- The counters after a call. -/
theorem counters_execute (handler : Handler) (call : Call) :
    (executeWithRetryAndTimeout handler call).1.requestCount = handler.requestCount + 1 ∧
      (executeWithRetryAndTimeout handler call).1.failureCount =
        handler.failureCount + if returnsError (executeWithRetryAndTimeout handler call).2 then 1 else 0 := by
  obtain ⟨started, -, ⟨text, -, ends⟩ | ⟨text, ends⟩ | ends⟩ := execute_cases handler call
  · simp [ends, returnsError]
  · simp [ends, returnsError]
  · simp [ends, returnsError]

/-! ### Sequences of calls -/

/-- The handler, and what its calls have returned so far. -/
structure Served where
  handler : Handler
  replies : List Reply := []
def serve (served : Served) (call : Call) : Served :=
  { handler := (executeWithRetryAndTimeout served.handler call).1
    replies := served.replies ++ [(executeWithRetryAndTimeout served.handler call).2] }
/-- `NewHandler`, as far as the calls use it. -/
def newHandler (maxFailures : BitVec 32) (resetTimeout : Int) (maxRetries : Nat) : Handler :=
  { circuitBreaker := { maxFailures, resetTimeout }, maxRetries }

/-- The counters are the numbers of all replies and of the errors among them, as 64-bit numbers. -/
structure Counted (served : Served) : Prop where
  requests : served.handler.requestCount = BitVec.ofNat 64 served.replies.length
  failures : served.handler.failureCount = BitVec.ofNat 64 (served.replies.countP returnsError)

theorem counted_serve (served : Served) (call : Call) (counted : Counted served) : Counted (serve served call) := by
  obtain ⟨requests, failures⟩ := counters_execute served.handler call
  constructor
  · simp only [serve, requests, counted.requests, List.length_append, List.length_singleton]
    exact BitVec.ofNat_add_ofNat _ 1
  · simp only [serve, failures, counted.failures, List.countP_append, List.countP_singleton]
    by_cases error : returnsError (executeWithRetryAndTimeout served.handler call).2
    · simp only [error, if_true]
      exact BitVec.ofNat_add_ofNat _ 1
    · simp [error]

theorem replies_serve (start : Served) (calls : List Call) :
    (Runs.run serve start calls).replies.length = start.replies.length + calls.length := by
  induction calls using List.reverseRecOn with
  | nil => rfl
  | append_singleton before call ih =>
    rw [Runs.run_concat, serve, List.length_append, ih, List.length_append]
    simp
    omega

/-- Every call of a sequence is accounted for, and the counters say how many there were and how many returned an error. -/
theorem calls_counted (maxFailures : BitVec 32) (resetTimeout : Int) (maxRetries : Nat) (calls : List Call) :
    (∀ before call, before ++ [call] <+: calls →
      Accounted (Runs.run serve { handler := newHandler maxFailures resetTimeout maxRetries } before).handler call) ∧
    (Runs.run serve { handler := newHandler maxFailures resetTimeout maxRetries } calls).replies.length = calls.length ∧
    Counted (Runs.run serve { handler := newHandler maxFailures resetTimeout maxRetries } calls) := by
  refine ⟨fun before call _ => call_accounted _ call, by simp [replies_serve], ?_⟩
  exact Runs.run_keeps ⟨rfl, rfl⟩ (fun served call counted => counted_serve served call counted) calls

end Openlit.RetryCounts
