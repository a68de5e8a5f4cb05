import Mathlib.Data.BitVec
import Mathlib.Tactic.Common

/-!
The circuit breaker of the webhook (`handler.go`) and the retries that run
under it, over any sequence of calls. Times are read from one clock, in
nanoseconds. A call asks `canExecute` and never `attempt`, so an open breaker
is never half-open: it lets calls through once its time is over, and a success
does not close it. When that is all that goes wrong is `calls_lawful_iff`.
-/
namespace Openlit.WebhookReliability

/-! ### The breaker -/

inductive CircuitBreakerState
  | closed
  | opened
  | halfOpen
  deriving DecidableEq
structure CircuitBreaker where
  maxFailures : BitVec 32
  resetTimeout : Int
  failureCount : BitVec 32 := 0
  state : CircuitBreakerState := .closed
  lastFailureTime : Int := 0

/-- `canExecute`, at the time `now`. -/
def canExecute (cb : CircuitBreaker) (now : Int) : Bool :=
  match cb.state with
  | .closed => true
  | .opened => decide (cb.resetTimeout ≤ now - cb.lastFailureTime)
  | .halfOpen => true
def recordSuccess (cb : CircuitBreaker) : CircuitBreaker :=
  { cb with
    failureCount := 0
    state := if cb.state = .halfOpen then .closed else cb.state }
def recordFailure (cb : CircuitBreaker) (now : Int) : CircuitBreaker :=
  let failureCount := cb.failureCount + 1
  { cb with
    failureCount := failureCount
    lastFailureTime := now
    state :=
      match cb.state with
      | .closed => if cb.maxFailures.sle failureCount then .opened else .closed
      | .opened => .opened
      | .halfOpen => .opened }
/-- `attempt`, which only the tests of the operator call. -/
def attempt (cb : CircuitBreaker) (now : Int) : CircuitBreaker × Bool :=
  if cb.state = .opened ∧ cb.resetTimeout ≤ now - cb.lastFailureTime then ({ cb with state := .halfOpen }, true)
  else (cb, decide (cb.state ≠ .opened))

/-- A breaker that `attempt` lets through closes with the next success. -/
theorem attempt_recovers {cb : CircuitBreaker} {now : Int} (allowed : (attempt cb now).2 = true) :
    (recordSuccess (attempt cb now).1).state = .closed := by
  by_cases due : cb.state = .opened ∧ cb.resetTimeout ≤ now - cb.lastFailureTime
  · simp [attempt, due, recordSuccess]
  · have notOpen : cb.state ≠ .opened := by simpa [attempt, due] using allowed
    cases state : cb.state with
    | opened => exact absurd state notOpen
    | closed => simp [attempt, recordSuccess, state]
    | halfOpen => simp [attempt, recordSuccess, state]

/-! ### A call -/

structure Handler where
  circuitBreaker : CircuitBreaker
  maxRetries : Nat
  requestCount : BitVec 64 := 0
  failureCount : BitVec 64 := 0
/-- The wait before a further attempt: it runs out, or the context of the call ends first. -/
inductive Wait
  | elapsed
  | done (ctxErr : String)
inductive Outcome
  | succeeded
  | failed (err : String)
  | timedOut (ctxErr : String)
/-- What happens at one attempt of the operation, after the wait that precedes it. -/
structure Round where
  wait : Wait := .elapsed
  outcome : Outcome
/-- One call: when it asks the breaker, when it records a failure, and its attempts by their numbers. -/
structure Call where
  operationName : String
  begun : Int
  ended : Int
  rounds : Nat → Round
/-- What a call returns, and how often it has started the operation. -/
structure Reply where
  started : Nat
  result : Except String Unit

/-- The exits of a call that count as a failure. -/
def recordFailedCall (h : Handler) (now : Int) : Handler :=
  { h with circuitBreaker := recordFailure h.circuitBreaker now, failureCount := h.failureCount + 1 }
/-- The loop over the attempts, of which `left` are left from `n` on. -/
def retry (h : Handler) (call : Call) : Nat → Nat → Option String → Handler × Reply
  | 0, n, lastErr =>
    (recordFailedCall h call.ended,
      ⟨n, .error (s!"operation {call.operationName} failed after {h.maxRetries} attempts: " ++ lastErr.getD "%!w(<nil>)")⟩)
  | left + 1, n, _ =>
    match (if n = 0 then .elapsed else (call.rounds n).wait : Wait) with
    | .done ctxErr =>
      (recordFailedCall h call.ended,
        ⟨n, .error s!"operation {call.operationName} timed out during retry attempt {n}: {ctxErr}"⟩)
    | .elapsed =>
      match (call.rounds n).outcome with
      | .timedOut ctxErr =>
        retry h call left (n + 1) (some s!"operation {call.operationName} timed out on attempt {n + 1}: {ctxErr}")
      | .failed err => retry h call left (n + 1) (some err)
      | .succeeded => ({ h with circuitBreaker := recordSuccess h.circuitBreaker }, ⟨n + 1, .ok ()⟩)
def executeWithRetryAndTimeout (handler : Handler) (call : Call) : Handler × Reply :=
  let h := { handler with requestCount := handler.requestCount + 1 }
  if canExecute h.circuitBreaker call.begun then retry h call h.maxRetries 0 none
  else
    ({ h with failureCount := h.failureCount + 1 },
      ⟨0, .error s!"circuit breaker is open - rejecting {call.operationName} operation"⟩)

/-- How a call ends for the breaker. -/
inductive Verdict
  | rejected
  | failed
  | succeeded
  deriving DecidableEq
def verdict (handler : Handler) (call : Call) : Verdict :=
  match canExecute handler.circuitBreaker call.begun, (executeWithRetryAndTimeout handler call).2.result with
  | false, _ => .rejected
  | true, .error _ => .failed
  | true, .ok () => .succeeded

/-! ### What a call does to the breaker -/

/-- Of the `count` attempts from `n` on one succeeds before a wait is cut short. -/
def SucceedsWithin (call : Call) (n count : Nat) : Prop :=
  ∃ m, n ≤ m ∧ m < n + count ∧ (call.rounds m).outcome = .succeeded ∧
    ∀ k, n ≤ k → k ≤ m → k = 0 ∨ (call.rounds k).wait = .elapsed

theorem succeedsWithin_succ (call : Call) (n count : Nat) :
    SucceedsWithin call n (count + 1) ↔
      (n = 0 ∨ (call.rounds n).wait = .elapsed) ∧
        ((call.rounds n).outcome = .succeeded ∨ SucceedsWithin call (n + 1) count) := by
  constructor
  · rintro ⟨m, above, below, success, arrives⟩
    refine ⟨arrives n (Nat.le_refl n) above, ?_⟩
    by_cases first : m = n
    · rw [← first]
      exact .inl success
    · exact .inr ⟨m, by omega, by omega, success, fun k lower upper => arrives k (by omega) upper⟩
  · rintro ⟨arrived, success | ⟨m, above, below, success, arrives⟩⟩
    · refine ⟨n, Nat.le_refl n, by omega, success, ?_⟩
      intro k lower upper
      rw [show k = n by omega]
      exact arrived
    · refine ⟨m, by omega, by omega, success, ?_⟩
      intro k lower upper
      by_cases first : k = n
      · rw [first]
        exact arrived
      · exact arrives k (by omega) upper

/-- The loop ends well if one of its attempts does, and else it records one failure. -/
theorem retry_cases (h : Handler) (call : Call) (left n : Nat) (lastErr : Option String) :
    (SucceedsWithin call n left ∧ ∃ started, retry h call left n lastErr =
        ({ h with circuitBreaker := recordSuccess h.circuitBreaker }, ⟨started, .ok ()⟩)) ∨
      (¬ SucceedsWithin call n left ∧ ∃ started text, retry h call left n lastErr =
        (recordFailedCall h call.ended, ⟨started, .error text⟩)) := by
  induction left generalizing n lastErr with
  | zero =>
    refine .inr ⟨?_, n, _, rfl⟩
    rintro ⟨m, above, below, _⟩
    omega
  | succ left ih =>
    rw [succeedsWithin_succ]
    cases waited : (if n = 0 then .elapsed else (call.rounds n).wait : Wait) with
    | done ctxErr =>
      have positive : n ≠ 0 := by
        rintro rfl
        cases waited
      rw [if_neg positive] at waited
      refine .inr ⟨by simp [positive, waited], n,
        s!"operation {call.operationName} timed out during retry attempt {n}: {ctxErr}", ?_⟩
      simp only [retry, if_neg positive, waited]
    | elapsed =>
      have arrived : n = 0 ∨ (call.rounds n).wait = .elapsed := by
        by_cases first : n = 0
        · exact .inl first
        · rw [if_neg first] at waited
          exact .inr waited
      cases outcome : (call.rounds n).outcome with
      | succeeded => exact .inl ⟨⟨arrived, .inl rfl⟩, n + 1, by simp only [retry, waited, outcome]⟩
      | failed err => simpa [arrived, retry, waited, outcome] using ih (n + 1) (some err)
      | timedOut ctxErr =>
        simpa [arrived, retry, waited, outcome] using
          ih (n + 1) (some s!"operation {call.operationName} timed out on attempt {n + 1}: {ctxErr}")

/-- What a call does, by what becomes of it. -/
theorem executeWithRetryAndTimeout_cases (handler : Handler) (call : Call) :
    (executeWithRetryAndTimeout handler call).1.maxRetries = handler.maxRetries ∧
      match verdict handler call with
      | .rejected =>
        canExecute handler.circuitBreaker call.begun = false ∧
          (executeWithRetryAndTimeout handler call).1.circuitBreaker = handler.circuitBreaker ∧
          (executeWithRetryAndTimeout handler call).2 =
            ⟨0, .error s!"circuit breaker is open - rejecting {call.operationName} operation"⟩
      | .failed =>
        canExecute handler.circuitBreaker call.begun = true ∧ ¬ SucceedsWithin call 0 handler.maxRetries ∧
          (executeWithRetryAndTimeout handler call).1.circuitBreaker = recordFailure handler.circuitBreaker call.ended
      | .succeeded =>
        canExecute handler.circuitBreaker call.begun = true ∧ SucceedsWithin call 0 handler.maxRetries ∧
          (executeWithRetryAndTimeout handler call).1.circuitBreaker = recordSuccess handler.circuitBreaker := by
  cases allowed : canExecute handler.circuitBreaker call.begun with
  | false => simp [verdict, executeWithRetryAndTimeout, allowed]
  | true =>
    have started : executeWithRetryAndTimeout handler call =
        retry { handler with requestCount := handler.requestCount + 1 } call handler.maxRetries 0 none := by
      rw [executeWithRetryAndTimeout]
      exact if_pos allowed
    obtain ⟨succeeds, _, ends⟩ | ⟨fails, _, _, ends⟩ :=
      retry_cases { handler with requestCount := handler.requestCount + 1 } call handler.maxRetries 0 none
    · simp only [verdict, started, ends, allowed]
      exact ⟨trivial, trivial, succeeds, trivial⟩
    · simp only [verdict, started, ends, allowed]
      exact ⟨rfl, trivial, fails, rfl⟩

/-! ### Sequences of calls -/

/-- The calls so far: how many that were not rejected have failed in a row
    since the last success, and when the last of all failures was recorded. -/
structure History where
  failedInRow : Nat := 0
  lastFailure : Option Int := none
/-- The handler between two calls, and what has been observed of its calls. -/
structure System where
  handler : Handler
  history : History := {}

def observe (history : History) (verdict : Verdict) (call : Call) : History :=
  match verdict with
  | .rejected => history
  | .failed => { failedInRow := history.failedInRow + 1, lastFailure := some call.ended }
  | .succeeded => { history with failedInRow := 0 }
def step (sys : System) (call : Call) : System :=
  { handler := (executeWithRetryAndTimeout sys.handler call).1
    history := observe sys.history (verdict sys.handler call) call }
/-- `NewHandler`, and the calls made to it. -/
def run (maxFailures : BitVec 32) (resetTimeout : Int) (maxRetries : Nat) (calls : List Call) : System :=
  calls.foldl step
    { handler := { circuitBreaker := { maxFailures := maxFailures, resetTimeout := resetTimeout }, maxRetries := maxRetries } }

/-- A call is rejected only if enough calls have failed in a row and the last
    failure is recent, and a success leaves the breaker closed without failures. -/
structure Lawful (sys : System) (call : Call) : Prop where
  rejected : verdict sys.handler call = .rejected →
    sys.handler.circuitBreaker.maxFailures.toInt ≤ sys.history.failedInRow ∧
      ∃ last, sys.history.lastFailure = some last ∧ call.begun - last < sys.handler.circuitBreaker.resetTimeout
  succeeded : verdict sys.handler call = .succeeded →
    (step sys call).handler.circuitBreaker.state = .closed ∧ (step sys call).handler.circuitBreaker.failureCount = 0
/-- The call does not succeed while the breaker is open and lets it through. -/
def NoOpenSuccess (sys : System) (call : Call) : Prop :=
  sys.handler.circuitBreaker.state = .opened → canExecute sys.handler.circuitBreaker call.begun = true →
    ¬ SucceedsWithin call 0 sys.handler.maxRetries

/-- The breaker says what the history says. A closed breaker has counted the
    failures in a row, too few to open it; an open one remembers the last. -/
structure Tracks (cb : CircuitBreaker) (history : History) : Prop where
  notHalfOpen : cb.state ≠ .halfOpen
  closed : cb.state = .closed → cb.failureCount.toInt = history.failedInRow ∧
    (history.failedInRow = 0 ∨ history.failedInRow < cb.maxFailures.toInt)
  opened : cb.state = .opened → cb.maxFailures.toInt ≤ history.failedInRow ∧ history.lastFailure = some cb.lastFailureTime

theorem tracks_failure {cb : CircuitBreaker} {history : History} (tracks : Tracks cb history) (call : Call) :
    Tracks (recordFailure cb call.ended) (observe history .failed call) := by
  cases state : cb.state with
  | halfOpen => exact absurd state tracks.notHalfOpen
  | opened =>
    have enough := (tracks.opened state).1
    refine ⟨by simp [recordFailure, state], by simp [recordFailure, state], ?_⟩
    intro _
    refine ⟨?_, rfl⟩
    simp only [recordFailure, observe]
    omega
  | closed =>
    obtain ⟨counted, few⟩ := tracks.closed state
    have counts : (cb.failureCount + 1).toInt = history.failedInRow + 1 := by
      have small := @BitVec.toInt_lt 32 cb.maxFailures
      have one : (1 : BitVec 32).toInt = 1 := by decide
      rw [BitVec.toInt_add, counted, one]
      exact Int.bmod_eq_of_le (by omega) (by omega)
    by_cases enough : cb.maxFailures.sle (cb.failureCount + 1) = true
    · have full : cb.maxFailures.toInt ≤ history.failedInRow + 1 := by
        rw [BitVec.sle_iff_toInt_le, counts] at enough
        exact enough
      have opens : (recordFailure cb call.ended).state = .opened := by simp only [recordFailure, state, if_pos enough]
      refine ⟨by simp [opens], by simp [opens], ?_⟩
      intro _
      simpa [recordFailure, observe] using full
    · have free : ¬ cb.maxFailures.toInt ≤ history.failedInRow + 1 := by
        rw [BitVec.sle_iff_toInt_le, counts] at enough
        exact enough
      have stays : (recordFailure cb call.ended).state = .closed := by simp only [recordFailure, state, if_neg enough]
      refine ⟨by simp [stays], ?_, by simp [stays]⟩
      intro _
      simp only [recordFailure, observe]
      push_cast
      exact ⟨counts, .inr (by omega)⟩

theorem tracks_success {cb : CircuitBreaker} {history : History} (tracks : Tracks cb history)
    (closed : cb.state ≠ .opened) (call : Call) :
    (recordSuccess cb).state = .closed ∧ Tracks (recordSuccess cb) (observe history .succeeded call) := by
  cases state : cb.state with
  | halfOpen => exact absurd state tracks.notHalfOpen
  | opened => exact absurd state closed
  | closed =>
    refine ⟨by simp [recordSuccess, state], by simp [recordSuccess, state], ?_, by simp [recordSuccess, state]⟩
    intro _
    exact ⟨rfl, .inl rfl⟩

/-- One call: it is lawful and the breaker goes on saying what the history says. -/
theorem call_lawful {sys : System} (tracks : Tracks sys.handler.circuitBreaker sys.history) {call : Call}
    (ok : NoOpenSuccess sys call) :
    Lawful sys call ∧ Tracks (step sys call).handler.circuitBreaker (step sys call).history := by
  obtain ⟨_, effect⟩ := executeWithRetryAndTimeout_cases sys.handler call
  cases outcome : verdict sys.handler call with
  | rejected =>
    simp only [outcome] at effect
    obtain ⟨refused, same, _⟩ := effect
    have opened : sys.handler.circuitBreaker.state = .opened := by
      cases state : sys.handler.circuitBreaker.state with
      | opened => rfl
      | closed => simp [canExecute, state] at refused
      | halfOpen => simp [canExecute, state] at refused
    have recent : call.begun - sys.handler.circuitBreaker.lastFailureTime < sys.handler.circuitBreaker.resetTimeout := by
      simpa [canExecute, opened] using refused
    refine ⟨⟨?_, by simp [outcome]⟩, by simpa [step, observe, outcome, same] using tracks⟩
    intro _
    exact ⟨(tracks.opened opened).1, _, (tracks.opened opened).2, recent⟩
  | failed =>
    simp only [outcome] at effect
    refine ⟨⟨by simp [outcome], by simp [outcome]⟩, ?_⟩
    rw [step, effect.2.2, outcome]
    exact tracks_failure tracks call
  | succeeded =>
    simp only [outcome] at effect
    obtain ⟨allowed, succeeds, recorded⟩ := effect
    have closed : sys.handler.circuitBreaker.state ≠ .opened := fun opened => ok opened allowed succeeds
    obtain ⟨closes, kept⟩ := tracks_success tracks closed call
    refine ⟨⟨by simp [outcome], ?_⟩, by rwa [step, recorded, outcome]⟩
    intro _
    rw [step, recorded]
    exact ⟨closes, rfl⟩

/-- A call that succeeds while the breaker is open leaves it open. -/
theorem noOpenSuccess_of_lawful {sys : System} {call : Call} (lawful : Lawful sys call) : NoOpenSuccess sys call := by
  intro opened allowed succeeds
  obtain ⟨_, effect⟩ := executeWithRetryAndTimeout_cases sys.handler call
  cases outcome : verdict sys.handler call with
  | rejected => simp [outcome, allowed] at effect
  | failed =>
    simp only [outcome] at effect
    exact effect.2.1 succeeds
  | succeeded =>
    simp only [outcome] at effect
    have closed := (lawful.succeeded outcome).1
    rw [step, effect.2.2] at closed
    simp [recordSuccess, opened] at closed

/-- Every call of a sequence is lawful if and only if none succeeds while the breaker is open and lets it through. -/
theorem calls_lawful_iff (maxFailures : BitVec 32) (resetTimeout : Int) (maxRetries : Nat) (calls : List Call) :
    (∀ before call after, calls = before ++ call :: after →
        Lawful (run maxFailures resetTimeout maxRetries before) call) ↔
      ∀ before call after, calls = before ++ call :: after →
        NoOpenSuccess (run maxFailures resetTimeout maxRetries before) call := by
  constructor
  · intro lawful before call after split
    exact noOpenSuccess_of_lawful (lawful before call after split)
  · intro ok before call after split
    have tracks : Tracks (run maxFailures resetTimeout maxRetries before).handler.circuitBreaker
        (run maxFailures resetTimeout maxRetries before).history := by
      induction before using List.reverseRecOn generalizing call after with
      | nil => exact ⟨by simp [run], fun _ => ⟨rfl, .inl rfl⟩, by simp [run]⟩
      | append_singleton before earlier ih =>
        have apart : calls = before ++ earlier :: (call :: after) := by rw [split, List.append_assoc]; rfl
        have next := call_lawful (ih earlier _ apart) (ok before earlier _ apart)
        rw [run, List.foldl_append]
        exact next.2
    exact (call_lawful tracks (ok before call after split)).1

/-! ### An outage -/

/-- A call at a time in seconds whose attempts all end alike. -/
def callAt (seconds : Int) (outcome : Outcome) : Call :=
  { operationName := "list", begun := seconds * 1000000000, ended := seconds * 1000000000, rounds := fun _ => { outcome := outcome } }
/-- Five failures open the breaker, a call after the reset timeout succeeds, and one more fails. -/
def outage : List Call :=
  [callAt 1 (.failed "down"), callAt 2 (.failed "down"), callAt 3 (.failed "down"), callAt 4 (.failed "down"),
    callAt 5 (.failed "down"), callAt 60 .succeeded, callAt 70 (.failed "down"), callAt 71 .succeeded]

/-- With the settings of `NewHandler`: the success leaves the breaker open, and
    after it a single failure is enough for the next call to be rejected. -/
theorem open_breaker_never_closes :
    let before := run 5 30000000000 3
    (before (outage.take 6)).handler.circuitBreaker.state = .opened ∧
      verdict (before (outage.take 7)).handler (callAt 71 .succeeded) = .rejected ∧
      (before (outage.take 7)).history.failedInRow = 1 ∧
      ¬ ∀ earlier call after, outage = earlier ++ call :: after → Lawful (before earlier) call := by
  have stays : (run 5 30000000000 3 (outage.take 6)).handler.circuitBreaker.state = .opened := by decide
  refine ⟨stays, by decide, by decide, ?_⟩
  intro lawful
  have closed := (lawful (outage.take 5) (callAt 60 .succeeded) (outage.drop 6) (by rfl)).succeeded (by decide)
  exact absurd (stays.symm.trans closed.1) (by decide)

end Openlit.WebhookReliability
