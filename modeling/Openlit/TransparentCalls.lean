import Openlit.PatchedCalls

/-!
When a patched call of the TypeScript SDK is transparent: the caller gets the
outcome of the method itself, the request is as it was, and the span is ended
once. What the telemetry throws is mostly kept from the caller, but so is what
the method throws.
-/
namespace Openlit.TransparentCalls
open Openlit.PatchedCalls

variable {T V Chunk E : Type}

/-! ### What the caller gets -/

/-- A rejection, a response, or, of a stream, its chunks and how it ended. -/
inductive Given (V Chunk E : Type) where
  | rejected (e : Thrown E)
  | resolved (response : Response V Chunk E)
  | iterated (chunks : List Chunk) (ending : Ending E)
  deriving DecidableEq, Repr
/-- What a caller gets of a response, who iterates a stream, and leaves it as `leave` says. -/
def givenBy (leave : Option Nat) : Response V Chunk E → Given V Chunk E
  | .stream chunks failure => .iterated (iterate failure leave chunks).1 (iterate failure leave chunks).2
  | response => .resolved response
def givenOf (leave : Option Nat) : Outcome V Chunk E → Given V Chunk E
  | .rejects e => .rejected e
  | .resolves response => givenBy leave response

/-- A call that is over, and so is the iteration of its stream. -/
structure Call (T V Chunk E : Type) where
  given : Given V Chunk E
  request : Option (Request T)
  span : Span E
  deriving DecidableEq, Repr
/-- What becomes of a settled promise. The proxy of an object without an iterator counts as the object. -/
def use (api : Api Chunk) (telemetry : Telemetry E) (leave : Option Nat) :
    Option (Request T) → Settled V Chunk E × Span E → Call T V Chunk E
  | request, (.rejected e, span) => { given := .rejected e, request, span }
  | request, (.resolved response, span) => { given := givenBy leave response, request, span }
  | some request, (.proxied (.stream chunks failure), span) =>
    let iterated := generate api telemetry failure false request span leave chunks
    { given := .iterated iterated.chunks iterated.ending, request := iterated.request, span := iterated.span }
  | request, (.proxied response, span) => { given := givenBy leave response, request, span }

/-- A patched call does what the method itself does, and its span ends once, with the call or with the iteration. -/
structure Transparent (api : Api Chunk) (telemetry : Telemetry E) (leave : Option Nat) (request : Option (Request T))
    (outcome : Outcome V Chunk E) (settled : Settled V Chunk E × Span E) : Prop where
  given : (use api telemetry leave request settled).given = givenOf leave outcome
  unchanged : (use api telemetry leave request settled).request = request
  ended : (use api telemetry leave request settled).span.ends = 1
  pending : ∀ response, settled.1 = .proxied response → settled.2.ends = 0

/-! ### The condition -/

/-- What a consumer takes of the chunks. -/
def taken : Option Nat → List Chunk → List Chunk
  | none, chunks => chunks
  | some n, chunks => chunks.take (n + 1)
/-- The consumer leaves before the end. -/
def Leaves : Option Nat → List Chunk → Prop
  | none, _ => False
  | some n, chunks => n < chunks.length

/-- After the last chunk the tools are not written, or written as they were, and no metrics are recorded that throw. -/
def Unnoticed (api : Api Chunk) (telemetry : Telemetry E) (request : Request T) (called : Bool) : Prop :=
  (api.writesTools = true ∧ (telemetry.counting ≠ none ∨ request.frozen = true)) ∨
  ((api.writesTools = true → writtenTools request.tools called = request.tools) ∧ (telemetry.setter ≠ none ∨ telemetry.metrics = none))
/-- A stream whose chunks can be read, that does not throw, and whose end goes unnoticed, if it is reached. -/
def StreamPasses (api : Api Chunk) (telemetry : Telemetry E) (leave : Option Nat) (request : Request T) (chunks : List Chunk)
    (failure : Option (Thrown E)) : Prop :=
  (∀ chunk ∈ taken leave chunks, api.readable chunk = true) ∧
  (¬ Leaves leave chunks → failure = none ∧ Unnoticed api telemetry request (chunks.any api.callsTools))
/-- A response whose telemetry does not throw, or that was nothing anyway. -/
def CompletePasses (api : Api Chunk) (telemetry : Telemetry E) (response : Response V Chunk E) : Prop :=
  (telemetry.setter = none ∧ telemetry.metrics = none) ∨
  (telemetry.setter ≠ none ∧ response = .undefined ∧ (api.defaultMetrics = true → telemetry.metrics = none))
/-- What a patched call passes on. -/
def Passes (api : Api Chunk) (telemetry : Telemetry E) (leave : Option Nat) :
    Option (Request T) → Outcome V Chunk E → Prop
  | request, .rejects e => api.rethrows = true ∧ e.isNullish = false ∧ (api.readsRequestFirst = true → request ≠ none)
  | none, .resolves response => response = .undefined ∧ api.rethrows = false ∧ api.readsRequestFirst = false
  | some request, .resolves response =>
    if request.stream then
      match response with
      | .stream chunks failure => StreamPasses api telemetry leave request chunks failure
      | .undefined => api.rethrows = false
      | .primitive _ | .object _ => False
    else CompletePasses api telemetry response

/-! ### The iteration of a stream -/

@[simp] theorem handleException_ends (span : Span E) (e : Thrown E) : (handleException span e).1.ends = span.ends := by
  unfold handleException
  by_cases nullish : e.isNullish = true
  · rw [if_pos nullish]
  · rw [if_neg nullish]
@[simp] theorem swallow_ends (request : Request T) (span : Span E) (e : Thrown E) :
    (swallow request span e : Iterated T Chunk E).span.ends = span.ends + 1 := by
  simp [swallow, Span.finish]
theorem swallow_error (request : Request T) (span : Span E) (e : Thrown E) (some : e.isNullish = false) :
    (swallow request span e : Iterated T Chunk E).ending = .done := by
  simp [swallow, handleException, some]
/-- What is thrown is never passed on by a generator. -/
theorem swallow_ending (request : Request T) (span : Span E) (e : Thrown E) :
    (swallow request span e : Iterated T Chunk E).ending ≠ .threw e := by
  cases e <;> simp [swallow, handleException, Thrown.isNullish]

section
variable (api : Api Chunk) (telemetry : Telemetry E) (failure : Option (Thrown E))

theorem conclude_ends (request : Request T) (span : Span E) :
    (conclude telemetry request span : Iterated T Chunk E).span.ends = span.ends + 1 := by
  unfold conclude
  cases telemetry.setter with
  | none => rfl
  | some e => exact swallow_ends ..
theorem summarise_ends (called : Bool) (request : Request T) (span : Span E) :
    (summarise api telemetry called request span).span.ends = span.ends + 1 := by
  unfold summarise
  by_cases writes : api.writesTools = true
  · rw [if_pos writes]
    cases telemetry.counting with
    | some e => exact swallow_ends ..
    | none =>
      by_cases frozen : request.frozen = true
      · rw [if_pos frozen]
        exact swallow_ends ..
      · rw [if_neg frozen]
        exact conclude_ends ..
  · rw [if_neg writes]
    exact conclude_ends ..
theorem generate_ends (chunks : List Chunk) (leave : Option Nat) (called : Bool) (request : Request T) (span : Span E) :
    (generate api telemetry failure called request span leave chunks).span.ends = span.ends + 1 := by
  induction chunks generalizing leave called with
  | nil =>
    unfold generate
    cases failure with
    | none => exact summarise_ends ..
    | some e => exact swallow_ends ..
  | cons chunk rest ih =>
    unfold generate
    by_cases readable : api.readable chunk = true
    · rw [if_pos readable]
      match leave with
      | some 0 => rfl
      | some (n + 1) => exact ih ..
      | none => exact ih ..
    · rw [if_neg readable]
      exact swallow_ends ..

/-- A generator that gives what the stream gives, and leaves the request as it is. -/
structure Same (leave : Option Nat) (chunks : List Chunk) (request : Request T) (iterated : Iterated T Chunk E) : Prop where
  given : iterated.chunks = (iterate failure leave chunks).1
  ending : iterated.ending = (iterate failure leave chunks).2
  unchanged : iterated.request = request

theorem iterate_nil (leave : Option Nat) : iterate (none : Option (Thrown E)) leave ([] : List Chunk) = ([], .done) := by
  cases leave <;> simp [iterate]
/-- A generator that has nothing to pass on and catches an error ends as it should. -/
theorem same_swallow (leave : Option Nat) (request : Request T) (span : Span E) {e : Thrown E} (some : e.isNullish = false) :
    Same none leave ([] : List Chunk) request (swallow request span e) := by
  refine ⟨?_, ?_, rfl⟩
  · rw [iterate_nil]
    rfl
  · rw [swallow_error request span e some, iterate_nil]
/-- After the tools are written, if they are, all depends on them, on the setter and on the metrics. -/
theorem conclude_same_iff (leave : Option Nat) (request written : Request T) (span : Span E) :
    Same none leave ([] : List Chunk) request (conclude telemetry written span) ↔
      written = request ∧ (telemetry.setter ≠ none ∨ telemetry.metrics = none) := by
  unfold conclude
  cases telemetry.setter with
  | some e =>
    constructor
    · intro same
      exact ⟨same.unchanged, .inl (by simp)⟩
    · rintro ⟨rfl, -⟩
      exact same_swallow leave _ span rfl
  | none =>
    constructor
    · intro same
      refine ⟨same.unchanged, .inr ?_⟩
      have ending := same.ending
      rw [iterate_nil] at ending
      cases metrics : telemetry.metrics with
      | none => rfl
      | some e => simp [metrics] at ending
    · rintro ⟨rfl, quiet | quiet⟩
      · exact absurd rfl quiet
      · exact ⟨by rw [iterate_nil], by rw [quiet, iterate_nil]; rfl, rfl⟩
theorem summarise_same_iff (called : Bool) (leave : Option Nat) (request : Request T) (span : Span E) :
    Same none leave [] request (summarise api telemetry called request span) ↔ Unnoticed api telemetry request called := by
  unfold summarise Unnoticed
  by_cases writes : api.writesTools = true
  · rw [if_pos writes]
    cases counting : telemetry.counting with
    | some e => exact iff_of_true (same_swallow leave request span rfl) (.inl ⟨writes, .inl (by simp)⟩)
    | none =>
      by_cases frozen : request.frozen = true
      · rw [if_pos frozen]
        exact iff_of_true (same_swallow leave request span rfl) (.inl ⟨writes, .inr frozen⟩)
      · rw [if_neg frozen, conclude_same_iff]
        have kept : { request with tools := writtenTools request.tools called } = request ↔
            writtenTools request.tools called = request.tools := by
          cases request
          simp
        rw [kept]
        simp [writes, frozen]
  · rw [if_neg writes, conclude_same_iff]
    simp [writes]

theorem same_after (n : Option Nat) (leave : Option Nat) (chunk : Chunk) (rest : List Chunk) (request : Request T)
    (later : iterate failure leave (chunk :: rest) = (chunk :: (iterate failure n rest).1, (iterate failure n rest).2))
    (iterated : Iterated T Chunk E) :
    Same failure leave (chunk :: rest) request (iterated.after chunk) ↔ Same failure n rest request iterated := by
  constructor
  · rintro ⟨given, ending, unchanged⟩
    rw [later] at given ending
    exact ⟨(List.cons.inj given).2, ending, unchanged⟩
  · rintro ⟨given, ending, unchanged⟩
    refine ⟨?_, ?_, unchanged⟩
    · rw [later]
      exact congrArg (chunk :: ·) given
    · rw [later]
      exact ending
theorem generate_same_iff (chunks : List Chunk) (leave : Option Nat) (called : Bool) (request : Request T) (span : Span E) :
    Same failure leave chunks request (generate api telemetry failure called request span leave chunks) ↔
      (∀ chunk ∈ taken leave chunks, api.readable chunk = true) ∧
      (¬ Leaves leave chunks → failure = none ∧ Unnoticed api telemetry request (called || chunks.any api.callsTools)) := by
  induction chunks generalizing leave called with
  | nil =>
    have unread : ∀ chunk ∈ taken leave [], api.readable chunk = true := by cases leave <;> simp [taken]
    have stays : ¬ Leaves leave ([] : List Chunk) := by cases leave <;> simp [Leaves]
    unfold generate
    cases failure with
    | none =>
      refine (summarise_same_iff api telemetry called leave request span).trans ?_
      rw [List.any_nil, Bool.or_false]
      exact ⟨fun unnoticed => ⟨unread, fun _ => ⟨rfl, unnoticed⟩⟩, fun passes => (passes.2 stays).2⟩
    | some e =>
      refine iff_of_false ?_ fun passes => absurd (passes.2 stays).1 (by simp)
      intro same
      have ending := same.ending
      cases leave <;> exact absurd ending (swallow_ending request span e)
  | cons chunk rest ih =>
    unfold generate
    by_cases readable : api.readable chunk = true
    · rw [if_pos readable]
      match leave with
      | some 0 =>
        refine iff_of_true ⟨rfl, rfl, rfl⟩ ⟨?_, fun stays => absurd (Nat.succ_pos rest.length) stays⟩
        simp [taken, readable]
      | some (n + 1) =>
        rw [same_after failure (some n) _ _ _ _ rfl, ih]
        simp [taken, Leaves, readable, Bool.or_assoc]
      | none =>
        rw [same_after failure none _ _ _ _ rfl, ih]
        simp [taken, Leaves, readable, Bool.or_assoc]
    · rw [if_neg readable]
      refine iff_of_false ?_ ?_
      · intro same
        have given := same.given
        match leave with
        | some 0 | some (n + 1) | none => cases given
      · intro passes
        refine readable (passes.1 chunk ?_)
        cases leave <;> simp [taken]
end

/-! ### The call -/

section
variable (api : Api Chunk) (telemetry : Telemetry E) (leave : Option Nat) (request : Option (Request T)) (outcome : Outcome V Chunk E)

theorem rejected_transparent_iff (e : Thrown E) (span : Span E) :
    Transparent api telemetry leave request outcome (.rejected e, span) ↔ givenOf leave outcome = .rejected e ∧ span.ends = 1 := by
  constructor
  · rintro ⟨given, -, ended, -⟩
    exact ⟨given.symm, ended⟩
  · rintro ⟨given, ended⟩
    exact ⟨given.symm, rfl, ended, fun _ proxied => by cases proxied⟩
theorem resolved_transparent_iff (response : Response V Chunk E) (span : Span E) :
    Transparent api telemetry leave request outcome (.resolved response, span) ↔
      givenOf leave outcome = givenBy leave response ∧ span.ends = 1 := by
  constructor
  · rintro ⟨given, -, ended, -⟩
    exact ⟨given.symm, ended⟩
  · rintro ⟨given, ended⟩
    exact ⟨given.symm, rfl, ended, fun _ proxied => by cases proxied⟩
theorem caught_transparent_iff (e : Thrown E) (span : Span E) (some : e.isNullish = false) :
    Transparent api telemetry leave request outcome (caught api (.rejected e, span)) ↔
      givenOf leave outcome = (if api.rethrows then .rejected e else .resolved .undefined) ∧ span.ends = 0 := by
  have handled : handleException span e = ({ span with exceptions := span.exceptions ++ [e] }, none) := by
    simp [handleException, some]
  rw [caught, handled]
  by_cases rethrows : api.rethrows = true
  · rw [if_pos rethrows, if_pos rethrows, rejected_transparent_iff]
    simp [Span.finish]
  · rw [if_neg rethrows, if_neg rethrows, resolved_transparent_iff]
    simp [Span.finish, givenBy]
/-- Of nothing that is thrown the message cannot be read, so the span is left open. -/
theorem caught_nullish (e : Thrown E) (nullish : e.isNullish = true) :
    ¬ Transparent api telemetry leave request outcome (caught api (.rejected e, {})) := by
  have handled : handleException ({} : Span E) e = ({}, some .typeError) := by simp [handleException, nullish]
  rw [caught, handled]
  intro transparent
  cases ((rejected_transparent_iff ..).mp transparent).2
end

theorem givenBy_undefined_iff (leave : Option Nat) (response : Response V Chunk E) :
    givenBy leave response = .resolved .undefined ↔ response = .undefined := by
  cases response <;> simp [givenBy]

section
variable (api : Api Chunk) (telemetry : Telemetry E) (leave : Option Nat)

theorem complete_transparent_iff (request : Request T) (response : Response V Chunk E) :
    Transparent api telemetry leave (some request) (.resolves response) (caught api (complete api telemetry response {})) ↔
      CompletePasses api telemetry response := by
  have lost (span : Span E) (fresh : span.ends = 0) : Transparent api telemetry leave (some request) (.resolves response)
      (caught api (.resolved .undefined, span.finish)) ↔ response = .undefined := by
    refine (resolved_transparent_iff ..).trans ?_
    rw [show givenOf leave (.resolves response) = givenBy leave response from rfl,
      show givenBy leave (.undefined : Response V Chunk E) = .resolved .undefined from rfl, givenBy_undefined_iff]
    simp [Span.finish, fresh]
  have again (e : E) (span : Span E) : ¬ Transparent api telemetry leave (some request) (.resolves response)
      (caught api (.rejected (.error e), span.finish)) := by
    rw [caught_transparent_iff _ _ _ _ _ _ _ rfl]
    simp [Span.finish]
  unfold complete CompletePasses
  cases setter : telemetry.setter with
  | none =>
    cases metrics : telemetry.metrics with
    | none => simpa [caught] using (resolved_transparent_iff api telemetry leave (some request) (.resolves response) response _).mpr ⟨rfl, rfl⟩
    | some e => simpa using again e {}
  | some e =>
    cases metrics : telemetry.metrics with
    | none => simpa using lost _ (handleException_ends {} (.error e))
    | some e' =>
      by_cases records : api.defaultMetrics = true
      · simpa [records] using again e' _
      · simpa [records] using lost _ (handleException_ends {} (.error e))
theorem stream_transparent_iff (request : Request T) (chunks : List Chunk) (failure : Option (Thrown E)) :
    Transparent api telemetry leave (some request) (.resolves (.stream chunks failure) : Outcome V Chunk E)
      (.proxied (.stream chunks failure), {}) ↔ StreamPasses api telemetry leave request chunks failure := by
  have same := generate_same_iff api telemetry failure chunks leave false request {}
  rw [Bool.false_or] at same
  refine Iff.trans ?_ same
  constructor
  · rintro ⟨given, unchanged, -, -⟩
    injection given with given ending
    injection unchanged with unchanged
    exact ⟨given, ending, unchanged⟩
  · rintro ⟨given, ending, unchanged⟩
    refine ⟨?_, congrArg some unchanged, generate_ends .., fun _ _ => rfl⟩
    exact congrArg₂ Given.iterated given ending
theorem typeError_transparent_iff (request : Option (Request T)) (response : Response V Chunk E) :
    Transparent api telemetry leave request (.resolves response) (caught api (.rejected .typeError, {})) ↔
      response = .undefined ∧ api.rethrows = false := by
  rw [caught_transparent_iff _ _ _ _ _ _ _ rfl]
  cases rethrows : api.rethrows with
  | false => simpa [givenOf] using givenBy_undefined_iff leave response
  | true => cases response <;> simp [givenOf, givenBy]
theorem responded_transparent_iff (request : Request T) (response : Response V Chunk E) :
    Transparent api telemetry leave (some request) (.resolves response)
      (caught api (responded api (some request) telemetry response {})) ↔
      Passes api telemetry leave (some request) (.resolves response) := by
  simp only [responded, Passes]
  by_cases stream : request.stream = true
  · rw [if_pos stream, if_pos stream]
    cases response with
    | undefined => exact (typeError_transparent_iff ..).trans (and_iff_right rfl)
    | primitive v => exact (typeError_transparent_iff ..).trans (iff_of_false (fun undefined => by cases undefined.1) not_false)
    | object v => exact iff_of_false (fun passed => by cases passed.ended) not_false
    | stream chunks failure => exact stream_transparent_iff ..
  · rw [if_neg stream, if_neg stream]
    exact complete_transparent_iff ..
end

theorem transparent_iff (api : Api Chunk) (request : Option (Request T)) (telemetry : Telemetry E) (leave : Option Nat)
    (outcome : Outcome V Chunk E) :
    Transparent api telemetry leave request outcome (patch api request telemetry outcome) ↔ Passes api telemetry leave request outcome := by
  unfold patch
  by_cases early : (api.readsRequestFirst && request.isNone) = true
  · obtain ⟨first, rfl⟩ : api.readsRequestFirst = true ∧ request = none := by simpa using early
    rw [if_pos early, rejected_transparent_iff]
    refine iff_of_false (fun passed => by cases passed.2) ?_
    cases outcome with
    | rejects e => exact fun passes => passes.2.2 first rfl
    | resolves response => exact fun passes => absurd (passes.2.2.symm.trans first) (by simp)
  · rw [if_neg early]
    have read : api.readsRequestFirst = true → request ≠ none := by simpa using early
    cases outcome with
    | rejects e =>
      by_cases nullish : e.isNullish = true
      · refine iff_of_false (caught_nullish _ _ _ _ _ e nullish) fun passes => ?_
        exact absurd (passes.2.1.symm.trans nullish) (by simp)
      · have thrown : e.isNullish = false := by simpa using nullish
        refine (caught_transparent_iff _ _ _ _ _ _ _ thrown).trans ?_
        cases rethrows : api.rethrows with
        | false => simp [givenOf, Passes, rethrows]
        | true => simpa [givenOf, Passes, rethrows, thrown] using read
    | resolves response =>
      cases request with
      | none =>
        have unread : api.readsRequestFirst = false := by simpa using read
        refine (typeError_transparent_iff ..).trans ?_
        simp [Passes, unread]
      | some request => exact responded_transparent_iff ..

/-- Each patched call is transparent exactly of what it passes on. -/
theorem patched_calls_transparent_iff {Event : Type} (request : Option (Request T)) (telemetry : Telemetry E) (leave : Option Nat) :
    (∀ outcome : Outcome V (Option ChatChunk) E,
      Transparent chatCompletions telemetry leave request outcome (patchChatCompletionCreate request telemetry outcome) ↔
        Passes chatCompletions telemetry leave request outcome) ∧
    (∀ outcome : Outcome V (Option ResponseChunk) E,
      Transparent responses telemetry leave request outcome (patchResponsesCreate request telemetry outcome) ↔
        Passes responses telemetry leave request outcome) ∧
    (∀ outcome : Outcome V (Option Event) E,
      Transparent messages telemetry leave request outcome (patchMessageCreate request telemetry outcome) ↔
        Passes messages telemetry leave request outcome) :=
  ⟨fun _ => transparent_iff .., fun _ => transparent_iff .., fun _ => transparent_iff ..⟩
/-- A chat completion that is rejected resolves with nothing, and a stream that fails halfway just ends. -/
theorem failures_lost :
    ¬ Transparent (V := Unit) chatCompletions {} none (some { stream := false, tools := .given () }) (.rejects (.error ()))
      (patchChatCompletionCreate (some { stream := false, tools := .given () }) {} (.rejects (.error ()))) ∧
    ¬ Transparent (V := Unit) messages {} none (some { stream := true, tools := .given () })
      (.resolves (.stream [some ()] (some (.error ()))))
      (patchMessageCreate (some { stream := true, tools := .given () }) {} (.resolves (.stream [some ()] (some (.error ()))))) := by
  constructor
  · intro transparent
    cases transparent.given
  · intro transparent
    cases transparent.given

end Openlit.TransparentCalls
