import Mathlib.Data.List.Basic

/-!
The calls that the TypeScript SDK patches: OpenAI chat completions and responses
(`openai/wrapper.ts`), and Anthropic messages (`anthropic/wrapper.ts`). The three
are alike but for a few points (`Api`). Of the telemetry it is left open what it
throws and where; what chunks are read for is left out, except where reading
throws, or where it changes the request.
-/
namespace Openlit.PatchedCalls

/-! ### Requests, responses and what is thrown -/

/-- What a promise is rejected with, or an iteration throws: anything, a `TypeError` of the language among it. -/
inductive Thrown (E : Type) where
  | undefined
  | null
  | typeError
  | error (e : E)
  deriving DecidableEq, Repr
def Thrown.isNullish {E : Type} : Thrown E → Bool
  | .undefined | .null => true
  | .typeError | .error _ => false

/-- The property `tools` of a request. -/
inductive Tools (T : Type) where
  | missing
  | undefined
  | true
  | given (tools : T)
  deriving DecidableEq, Repr
structure Request (T : Type) where
  stream : Bool
  tools : Tools T
  frozen : Bool := false
  deriving DecidableEq, Repr
/-- What a method resolves with: `undefined`, another value that is no object, an object
    without an iterator, or a stream of chunks that may throw after them. -/
inductive Response (V Chunk E : Type) where
  | undefined
  | primitive (v : V)
  | object (v : V)
  | stream (chunks : List Chunk) (failure : Option (Thrown E))
  deriving DecidableEq, Repr
inductive Outcome (V Chunk E : Type) where
  | resolves (response : Response V Chunk E)
  | rejects (e : Thrown E)
  deriving DecidableEq, Repr

/-- What the telemetry throws: the setter of the attributes, the count of tokens, and the metrics. -/
structure Telemetry (E : Type) where
  setter : Option E := none
  counting : Option E := none
  metrics : Option E := none
  deriving DecidableEq, Repr
/-- How often a span was ended, and the exceptions that were recorded. -/
structure Span (E : Type) where
  ends : Nat := 0
  exceptions : List (Thrown E) := []
  deriving DecidableEq, Repr
/-- `span.end()`. -/
def Span.finish {E : Type} (span : Span E) : Span E := { span with ends := span.ends + 1 }

/-- What differs between the three calls. -/
structure Api (Chunk : Type) where
  /-- Whether the request is read before the method is called. -/
  readsRequestFirst : Bool
  /-- Whether what is caught of the call is thrown again. -/
  rethrows : Bool
  /-- Whether metrics are recorded of a response whose attributes could not be set. -/
  defaultMetrics : Bool
  /-- Whether the generator counts tokens and writes the tools back to the request. -/
  writesTools : Bool
  /-- A chunk that can be read. -/
  readable : Chunk → Bool
  /-- A chunk with a call of a tool. -/
  callsTools : Chunk → Bool

variable {T V Chunk E : Type}

/-! ### The call -/

/-- `handleException`, which reads the message of what was thrown. -/
def handleException (span : Span E) (e : Thrown E) : Span E × Option (Thrown E) :=
  if e.isNullish then (span, some .typeError) else ({ span with exceptions := span.exceptions ++ [e] }, none)

/-- What the promise of a call comes to. -/
inductive Settled (V Chunk E : Type) where
  | resolved (response : Response V Chunk E)
  | proxied (response : Response V Chunk E)
  | rejected (e : Thrown E)
  deriving DecidableEq, Repr

/-- `_chatCompletion`, `_responsesComplete` and `_messageCreate`. What the metrics throw in `finally` takes the place of the response. -/
def complete (api : Api Chunk) (telemetry : Telemetry E) (response : Response V Chunk E) (span : Span E) : Settled V Chunk E × Span E :=
  let (settled, span, measured) :=
    match telemetry.setter with
    | none => (Settled.resolved response, span, true)
    | some e => (.resolved .undefined, (handleException span (.error e)).1, api.defaultMetrics)
  match (if measured then telemetry.metrics else none) with
  | none => (settled, span.finish)
  | some e => (.rejected (.error e), span.finish)
/-- The `then` of the promise. A proxy of what is no object is a `TypeError`. -/
def responded (api : Api Chunk) (request : Option (Request T)) (telemetry : Telemetry E) (response : Response V Chunk E) (span : Span E) :
    Settled V Chunk E × Span E :=
  match request with
  | none => (.rejected .typeError, span)
  | some request =>
    if request.stream then
      match response with
      | .undefined | .primitive _ => (.rejected .typeError, span)
      | .object _ | .stream _ _ => (.proxied response, span)
    else complete api telemetry response span
/-- The `catch` of the promise. -/
def caught (api : Api Chunk) : Settled V Chunk E × Span E → Settled V Chunk E × Span E
  | (.rejected e, span) =>
    match handleException span e with
    | (span, some e') => (.rejected e', span)
    | (span, none) => (if api.rethrows then .rejected e else .resolved .undefined, span.finish)
  | settled => settled
/-- A patched method, by the outcome of the method itself. -/
def patch (api : Api Chunk) (request : Option (Request T)) (telemetry : Telemetry E) (outcome : Outcome V Chunk E) :
    Settled V Chunk E × Span E :=
  if api.readsRequestFirst && request.isNone then (.rejected .typeError, {})
  else caught api (match outcome with
    | .rejects e => (.rejected e, {})
    | .resolves response => responded api request telemetry response {})

/-! ### The iteration of a stream -/

inductive Ending (E : Type) where
  | done
  | left
  | threw (e : Thrown E)
  deriving DecidableEq, Repr

/-- What a consumer gets of some chunks. It may leave after a chunk, as many after the first as it says. -/
def iterate (failure : Option (Thrown E)) : Option Nat → List Chunk → List Chunk × Ending E
  | _, [] => ([], failure.elim .done .threw)
  | some 0, chunk :: _ => ([chunk], .left)
  | some (n + 1), chunk :: rest => ((chunk :: (iterate failure (some n) rest).1), (iterate failure (some n) rest).2)
  | none, chunk :: rest => ((chunk :: (iterate failure none rest).1), (iterate failure none rest).2)

/-- What an iteration gives, and what it leaves. -/
structure Iterated (T Chunk E : Type) where
  chunks : List Chunk
  ending : Ending E
  request : Request T
  span : Span E
  deriving DecidableEq, Repr

/-- The `catch` and the `finally` of a generator, which end the iteration. -/
def swallow (request : Request T) (span : Span E) (e : Thrown E) : Iterated T Chunk E :=
  let (span, again) := handleException span e
  { chunks := [], ending := again.elim .done .threw, request, span := span.finish }
/-- The tools that are written back. -/
def writtenTools (tools : Tools T) (called : Bool) : Tools T :=
  if called then .true
  else
    match tools with
    | .missing => .undefined
    | tools => tools
/-- The setter of a generator, and the metrics that its `finally` records. -/
def conclude (telemetry : Telemetry E) (request : Request T) (span : Span E) : Iterated T Chunk E :=
  match telemetry.setter with
  | some e => swallow request span (.error e)
  | none => { chunks := [], ending := telemetry.metrics.elim .done fun e => .threw (.error e), request, span := span.finish }
/-- The generator after the last chunk. -/
def summarise (api : Api Chunk) (telemetry : Telemetry E) (called : Bool) (request : Request T) (span : Span E) : Iterated T Chunk E :=
  if api.writesTools then
    match telemetry.counting with
    | some e => swallow request span (.error e)
    | none =>
      if request.frozen then swallow request span .typeError
      else conclude telemetry { request with tools := writtenTools request.tools called } span
  else conclude telemetry request span
def Iterated.after (chunk : Chunk) (iterated : Iterated T Chunk E) : Iterated T Chunk E :=
  { iterated with chunks := chunk :: iterated.chunks }
/-- `_chatCompletionGenerator`, `_responsesGenerator` and `_messageCreateGenerator`. -/
def generate (api : Api Chunk) (telemetry : Telemetry E) (failure : Option (Thrown E)) :
    Bool → Request T → Span E → Option Nat → List Chunk → Iterated T Chunk E
  | called, request, span, _, [] =>
    match failure with
    | some e => swallow request span e
    | none => summarise api telemetry called request span
  | called, request, span, leave, chunk :: rest =>
    if api.readable chunk then
      match leave with
      | some 0 => { chunks := [chunk], ending := .left, request, span := span.finish }
      | some (n + 1) => (generate api telemetry failure (called || api.callsTools chunk) request span (some n) rest).after chunk
      | none => (generate api telemetry failure (called || api.callsTools chunk) request span none rest).after chunk
    else swallow request span .typeError

/-! ### The three calls -/

/-- A part of a call of a tool, with its index (0, if it has none), and whether it has an id, and arguments. -/
structure ToolDelta where
  index : Int
  id : Bool
  arguments : Bool
  deriving DecidableEq, Repr
/-- An array has nothing at a negative index, which is noticed only when it is written to. -/
def ToolDelta.readable (tool : ToolDelta) : Bool := 0 ≤ tool.index || !(tool.id || tool.arguments)
structure ChatDelta where
  toolCalls : Option (List (Option ToolDelta))
  deriving DecidableEq, Repr
def ChatDelta.readable (delta : ChatDelta) : Bool :=
  match delta.toolCalls with
  | none => true
  | some tools => tools.all fun tool => tool.any (·.readable)
/-- A chunk with its choices, if it has any, each with its delta, if it has one. -/
structure ChatChunk where
  choices : Option (List (Option ChatDelta))
  deriving DecidableEq, Repr
def chatCompletions : Api (Option ChatChunk) where
  readsRequestFirst := false
  rethrows := false
  defaultMetrics := false
  writesTools := true
  readable chunk :=
    match chunk.bind (·.choices) with
    | none => false
    | some [] => true
    | some (delta :: _) => delta.any (·.readable)
  callsTools chunk :=
    match chunk.bind (·.choices) with
    | some (some delta :: _) => delta.toolCalls.isSome
    | _ => false
def patchChatCompletionCreate (request : Option (Request T)) (telemetry : Telemetry E) (outcome : Outcome V (Option ChatChunk) E) :
    Settled V (Option ChatChunk) E × Span E := patch chatCompletions request telemetry outcome

/-- The last event of a response, which may lack the response, and all others. -/
inductive ResponseChunk where
  | completed (response : Bool)
  | other
  deriving DecidableEq, Repr
def responses : Api (Option ResponseChunk) where
  readsRequestFirst := false
  rethrows := false
  defaultMetrics := false
  writesTools := false
  readable chunk := chunk ≠ none && chunk ≠ some (.completed false)
  callsTools _ := false
def patchResponsesCreate (request : Option (Request T)) (telemetry : Telemetry E) (outcome : Outcome V (Option ResponseChunk) E) :
    Settled V (Option ResponseChunk) E × Span E := patch responses request telemetry outcome

/-- Of an event of a message only its absence matters here. -/
def messages {Event : Type} : Api (Option Event) where
  readsRequestFirst := true
  rethrows := true
  defaultMetrics := true
  writesTools := false
  readable chunk := chunk.isSome
  callsTools _ := false
def patchMessageCreate {Event : Type} (request : Option (Request T)) (telemetry : Telemetry E) (outcome : Outcome V (Option Event) E) :
    Settled V (Option Event) E × Span E := patch messages request telemetry outcome

end Openlit.PatchedCalls
