import Openlit.AnthropicMessages
import Openlit.OpenAIChatStreams
import Openlit.OpenAIResponses

/-!
The Python SDK's wrapper of a stream, which is `TracedSyncStream` of `openai.py`
for chat completions and for responses, and of `anthropic.py` for messages. The
three differ only in the functions that process a chunk and the whole stream. What
calls on the wrapped stream give is left open, and the metrics are enabled.
-/
namespace Openlit.TracedStreams
open Openlit.Python

/-! ### Streams and their consumers -/

inductive Action where
  | enter
  | next
  | exit
  deriving DecidableEq, Repr
/-- What a consumer gets of a call. -/
inductive Answer (Chunk Error : Type) where
  | entered
  | left
  | chunk (chunk : Chunk)
  | stopIteration
  | raised (e : Error)
  deriving DecidableEq, Repr
/-- What `__next__` does: it returns a chunk, or it raises. -/
inductive Next (Chunk Error : Type) where
  | chunk (chunk : Chunk)
  | stopIteration
  | raised (e : Error)
  deriving DecidableEq, Repr
/-- A stream that can be wrapped, by what its methods do in each of its states. -/
structure Stream (σ Chunk Error : Type) where
  enter : σ → Option Error × σ
  next : σ → Next Chunk Error × σ
  exit : σ → Option Error × σ

variable {σ Chunk Scope Recorded Error : Type}

def Answer.mapError {Error' : Type} (f : Error → Error') : Answer Chunk Error → Answer Chunk Error'
  | .entered => .entered
  | .left => .left
  | .chunk c => .chunk c
  | .stopIteration => .stopIteration
  | .raised e => .raised (f e)
def Next.answer : Next Chunk Error → Answer Chunk Error
  | .chunk c => .chunk c
  | .stopIteration => .stopIteration
  | .raised e => .raised e
/-- The answer of a method that only may raise. -/
def Answer.orRaised (answer : Answer Chunk Error) : Option Error → Answer Chunk Error
  | none => answer
  | some e => .raised e
/-- A call on the stream itself. -/
def Stream.call (stream : Stream σ Chunk Error) (s : σ) : Action → Answer Chunk Error × σ
  | .enter => ((Answer.entered).orRaised (stream.enter s).1, (stream.enter s).2)
  | .next => ((stream.next s).1.answer, (stream.next s).2)
  | .exit => ((Answer.left).orRaised (stream.exit s).1, (stream.exit s).2)
def Stream.answers (stream : Stream σ Chunk Error) : σ → List Action → List (Answer Chunk Error)
  | _, [] => []
  | s, action :: rest => (stream.call s action).1 :: stream.answers (stream.call s action).2 rest

/-! ### The wrapper -/

/-- The functions that process a chunk and, at the end, the whole stream. -/
structure Instrumentation (Chunk Scope Recorded : Type) where
  initial : Scope
  processChunk : Scope → Chunk → Scope × Option PyError
  processStreamingResponse : Scope → Except PyError Recorded

/-- How often a span was ended, and the exceptions that were recorded before that. -/
structure Span where
  ends : Nat := 0
  exceptions : List PyError := []
  deriving DecidableEq, Repr
/-- Leaving `with span`, which ends it. An exception is recorded as long as the span is not ended yet. -/
def Span.leave (span : Span) (raised : Option PyError) : Span where
  ends := span.ends + 1
  exceptions := if span.ends = 0 then span.exceptions ++ raised.toList else span.exceptions
/-- The wrapper with the metrics that were recorded. -/
structure TracedSyncStream (σ Scope Recorded : Type) where
  wrapped : σ
  scope : Scope
  span : Span := {}
  metrics : List Recorded := []
  deriving Repr

variable (api : Instrumentation Chunk Scope Recorded) (stream : Stream σ Chunk Error)

/-- What is done when the wrapped stream is exhausted. The exception that is
    handled comes after the end of the span, where it changes nothing. -/
def TracedSyncStream.finalise (traced : TracedSyncStream σ Scope Recorded) : TracedSyncStream σ Scope Recorded :=
  match api.processStreamingResponse traced.scope with
  | .ok recorded => { traced with span := traced.span.leave none, metrics := traced.metrics ++ [recorded] }
  | .error e => { traced with span := traced.span.leave (some e) }
/-- `__next__`. What `process_chunk` raises reaches the consumer in place of the chunk. -/
def TracedSyncStream.next (traced : TracedSyncStream σ Scope Recorded) :
    Answer Chunk (Error ⊕ PyError) × TracedSyncStream σ Scope Recorded :=
  match stream.next traced.wrapped with
  | (.chunk chunk, wrapped) =>
    match api.processChunk traced.scope chunk with
    | (scope, none) => (.chunk chunk, { traced with wrapped, scope })
    | (scope, some e) => (.raised (.inr e), { traced with wrapped, scope })
  | (.stopIteration, wrapped) => (.stopIteration, TracedSyncStream.finalise api { traced with wrapped })
  | (.raised e, wrapped) => (.raised (.inl e), { traced with wrapped })
/-- `__enter__` and `__exit__` only call the wrapped stream. -/
def TracedSyncStream.call (traced : TracedSyncStream σ Scope Recorded) :
    Action → Answer Chunk (Error ⊕ PyError) × TracedSyncStream σ Scope Recorded
  | .enter =>
    let (raised, wrapped) := stream.enter traced.wrapped
    ((Answer.entered).orRaised (raised.map .inl), { traced with wrapped })
  | .next => traced.next api stream
  | .exit =>
    let (raised, wrapped) := stream.exit traced.wrapped
    ((Answer.left).orRaised (raised.map .inl), { traced with wrapped })
def TracedSyncStream.run (traced : TracedSyncStream σ Scope Recorded) :
    List Action → List (Answer Chunk (Error ⊕ PyError)) × TracedSyncStream σ Scope Recorded
  | [] => ([], traced)
  | action :: rest =>
    let (answer, traced) := traced.call api stream action
    let (answers, traced) := traced.run rest
    (answer :: answers, traced)
/-- All that a consumer does with a wrapper of a stream, and what it leaves. -/
def consume (s : σ) (actions : List Action) : List (Answer Chunk (Error ⊕ PyError)) × TracedSyncStream σ Scope Recorded :=
  TracedSyncStream.run api stream { wrapped := s, scope := api.initial } actions

/-! ### The three wrappers -/

variable {Cost : Type}

def chatCompletions (request : OpenAIChat.Request Cost) : Instrumentation OpenAIChat.Chunk OpenAIChat.Scope (OpenAIChat.Recorded Cost) where
  initial := {}
  processChunk := OpenAIChat.processChatChunk
  processStreamingResponse scope := OpenAIChat.commonChatLogic scope request none none
def responses (prompt : String) (cost : Nat → Nat → Cost) :
    Instrumentation OpenAIResponses.Event OpenAIResponses.Scope (OpenAIResponses.Recorded Cost) where
  initial := {}
  processChunk := OpenAIResponses.processResponseChunk
  processStreamingResponse scope := .ok (OpenAIResponses.commonResponseLogic scope prompt cost)
def messages (cost : Nat → Nat → Cost) :
    Instrumentation AnthropicMessages.Event AnthropicMessages.Scope (AnthropicMessages.Telemetry Cost) where
  initial := {}
  processChunk scope chunk := (AnthropicMessages.processChunk scope chunk, none)
  processStreamingResponse scope := .ok (AnthropicMessages.processStreamingChatResponse cost scope)

/-! ### When a stream is traced as it should be -/

def Answer.isStop : Answer Chunk Error → Bool
  | .stopIteration => true
  | _ => false
/-- An answer after which a stream is over: it is exhausted, has failed, or was left. -/
def Answer.isOver : Answer Chunk Error → Bool
  | .entered | .chunk _ => false
  | .left | .stopIteration | .raised _ => true
def chunksOf (answers : List (Answer Chunk Error)) : List Chunk := answers.filterMap fun
  | .chunk chunk => some chunk
  | _ => none

/-- A consumer gets what the stream gives; the span is ended once if the stream is
    over, and the metrics are recorded once if it is exhausted. -/
structure Traced (s : σ) (actions : List Action) : Prop where
  transparent : (consume api stream s actions).1 = (stream.answers s actions).map (·.mapError .inl)
  ended : (consume api stream s actions).2.span.ends = if (stream.answers s actions).any (·.isOver) then 1 else 0
  recorded : (consume api stream s actions).2.metrics.length = if (stream.answers s actions).any (·.isStop) then 1 else 0

/-- A stream that is over was exhausted, and not asked again. -/
def ExhaustedOnce (answers : List (Answer Chunk Error)) : Prop :=
  answers.any (·.isOver) = true → answers.countP (·.isStop) = 1

/-! ### What a wrapper does -/

section
variable {api : Instrumentation Chunk Scope Recorded} {stream : Stream σ Chunk Error}

/-- The chunks until the one that raises. -/
def Instrumentation.processChunks (api : Instrumentation Chunk Scope Recorded) : Scope → List Chunk → Scope × Option PyError
  | scope, [] => (scope, none)
  | scope, chunk :: rest =>
    match api.processChunk scope chunk with
    | (scope, some e) => (scope, some e)
    | (scope, none) => api.processChunks scope rest
/-- What is recorded of a stream by what it answers. -/
def Instrumentation.completed (api : Instrumentation Chunk Scope Recorded) : Scope → List (Answer Chunk Error) → List Recorded
  | _, [] => []
  | scope, .chunk c :: rest => api.completed (api.processChunk scope c).1 rest
  | scope, .stopIteration :: rest => (api.processStreamingResponse scope).toOption.toList ++ api.completed scope rest
  | scope, .entered :: rest | scope, .left :: rest | scope, .raised _ :: rest => api.completed scope rest

/-- What one call does, by what the wrapped stream answers. -/
structure Called (api : Instrumentation Chunk Scope Recorded) (stream : Stream σ Chunk Error) (traced : TracedSyncStream σ Scope Recorded)
    (action : Action) (answer : Answer Chunk Error) : Prop where
  wrapped : (traced.call api stream action).2.wrapped = (stream.call traced.wrapped action).2
  ends : (traced.call api stream action).2.span.ends = traced.span.ends + if answer.isStop then 1 else 0
  metrics : ∀ rest : List (Answer Chunk Error),
    (traced.call api stream action).2.metrics ++ api.completed (traced.call api stream action).2.scope rest =
      traced.metrics ++ api.completed traced.scope (answer :: rest)
  transparent : (traced.call api stream action).1 = answer.mapError .inl ↔ (api.processChunks traced.scope (chunksOf [answer])).2 = none
  scope : (traced.call api stream action).2.scope = (api.processChunks traced.scope (chunksOf [answer])).1

theorem call_called (api : Instrumentation Chunk Scope Recorded) (stream : Stream σ Chunk Error)
    (traced : TracedSyncStream σ Scope Recorded) (action : Action) :
    Called api stream traced action (stream.call traced.wrapped action).1 := by
  cases action with
  | enter =>
    cases entered : stream.enter traced.wrapped with
    | mk raised s =>
      cases raised <;> constructor <;>
        simp [TracedSyncStream.call, Stream.call, entered, Answer.orRaised, Answer.isStop, Answer.mapError, chunksOf,
          Instrumentation.processChunks, Instrumentation.completed]
  | exit =>
    cases exited : stream.exit traced.wrapped with
    | mk raised s =>
      cases raised <;> constructor <;>
        simp [TracedSyncStream.call, Stream.call, exited, Answer.orRaised, Answer.isStop, Answer.mapError, chunksOf,
          Instrumentation.processChunks, Instrumentation.completed]
  | next =>
    cases next : stream.next traced.wrapped with
    | mk given s =>
      cases given with
      | chunk chunk =>
        cases processed : api.processChunk traced.scope chunk with
        | mk scope raised =>
          cases raised <;> constructor <;>
            simp [TracedSyncStream.call, TracedSyncStream.next, Stream.call, Next.answer, next, processed, Answer.isStop,
              Answer.mapError, chunksOf, Instrumentation.processChunks, Instrumentation.completed]
      | stopIteration =>
        cases processed : api.processStreamingResponse traced.scope <;> constructor <;>
          simp [TracedSyncStream.call, TracedSyncStream.next, TracedSyncStream.finalise, Stream.call, Next.answer, next, processed,
            Answer.isStop, Answer.mapError, chunksOf, Instrumentation.processChunks, Instrumentation.completed, Span.leave,
            Except.toOption]
      | raised e =>
        constructor <;>
          simp [TracedSyncStream.call, TracedSyncStream.next, Stream.call, Next.answer, next, Answer.isStop, Answer.mapError, chunksOf,
            Instrumentation.processChunks, Instrumentation.completed]

theorem chunksOf_append (before after : List (Answer Chunk Error)) : chunksOf (before ++ after) = chunksOf before ++ chunksOf after :=
  List.filterMap_append ..
theorem processChunks_append (scope : Scope) (chunks more : List Chunk) :
    api.processChunks scope (chunks ++ more) =
      match api.processChunks scope chunks with
      | (scope, some e) => (scope, some e)
      | (scope, none) => api.processChunks scope more := by
  induction chunks generalizing scope with
  | nil => rfl
  | cons chunk rest ih =>
    rw [List.cons_append, Instrumentation.processChunks, Instrumentation.processChunks]
    cases api.processChunk scope chunk with
    | mk scope' raised =>
      cases raised with
      | none => exact ih scope'
      | some e => rfl

/-- What a whole run does, by what the wrapped stream answers. -/
structure Ran (api : Instrumentation Chunk Scope Recorded) (stream : Stream σ Chunk Error) (traced : TracedSyncStream σ Scope Recorded)
    (actions : List Action) (answers : List (Answer Chunk Error)) : Prop where
  ends : (traced.run api stream actions).2.span.ends = traced.span.ends + answers.countP (·.isStop)
  metrics : (traced.run api stream actions).2.metrics = traced.metrics ++ api.completed traced.scope answers
  transparent : (traced.run api stream actions).1 = answers.map (·.mapError .inl) ↔
    (api.processChunks traced.scope (chunksOf answers)).2 = none
theorem run_ran (api : Instrumentation Chunk Scope Recorded) (stream : Stream σ Chunk Error)
    (traced : TracedSyncStream σ Scope Recorded) (actions : List Action) :
    Ran api stream traced actions (stream.answers traced.wrapped actions) := by
  induction actions generalizing traced with
  | nil => constructor <;> simp [TracedSyncStream.run, Stream.answers, Instrumentation.completed, chunksOf, Instrumentation.processChunks]
  | cons action rest ih =>
    have called := call_called api stream traced action
    have later := ih (traced.call api stream action).2
    rw [called.wrapped] at later
    rw [Stream.answers]
    set answer := (stream.call traced.wrapped action).1
    set answers := stream.answers (stream.call traced.wrapped action).2 rest
    constructor
    · rw [TracedSyncStream.run, later.ends, called.ends, List.countP_cons]
      omega
    · rw [TracedSyncStream.run, later.metrics, called.metrics]
    · have split : chunksOf (answer :: answers) = chunksOf [answer] ++ chunksOf answers := chunksOf_append [answer] answers
      have transparent := called.transparent
      rw [TracedSyncStream.run, List.map_cons, List.cons.injEq, called.transparent, later.transparent, called.scope, split,
        processChunks_append]
      cases api.processChunks traced.scope (chunksOf [answer]) with
      | mk scope raised => cases raised <;> simp

theorem any_isOver {answers : List (Answer Chunk Error)} (stopped : answers.any (·.isStop) = true) : answers.any (·.isOver) = true := by
  rw [List.any_eq_true] at stopped ⊢
  obtain ⟨answer, member, stop⟩ := stopped
  refine ⟨answer, member, ?_⟩
  cases answer <;> first | rfl | cases stop
theorem countP_isStop {answers : List (Answer Chunk Error)} : answers.countP (·.isStop) = 0 ↔ answers.any (·.isStop) = false := by
  rw [List.countP_eq_zero, List.any_eq_false]

theorem completed_eq_nil (scope : Scope) {answers : List (Answer Chunk Error)} (never : answers.countP (·.isStop) = 0) :
    api.completed scope answers = [] := by
  induction answers generalizing scope with
  | nil => rfl
  | cons answer rest ih =>
    rw [List.countP_cons] at never
    cases answer with
    | stopIteration => simp [Answer.isStop] at never
    | _ => exact ih _ (by omega)
theorem completed_append (scope : Scope) {before : List (Answer Chunk Error)} (after : List (Answer Chunk Error))
    (quiet : (api.processChunks scope (chunksOf before)).2 = none) :
    api.completed scope (before ++ after) =
      api.completed scope before ++ api.completed (api.processChunks scope (chunksOf before)).1 after := by
  induction before generalizing scope with
  | nil => rfl
  | cons answer rest ih =>
    cases answer with
    | chunk c =>
      have split : chunksOf (Answer.chunk c :: rest) = c :: chunksOf rest := rfl
      rw [split, Instrumentation.processChunks] at quiet ⊢
      rw [List.cons_append, Instrumentation.completed, Instrumentation.completed]
      cases processed : api.processChunk scope c with
      | mk scope' raised =>
        rw [processed] at quiet
        cases raised with
        | some e => cases quiet
        | none => exact ih scope' quiet
    | stopIteration =>
      rw [List.cons_append, Instrumentation.completed, Instrumentation.completed, List.append_assoc]
      exact congrArg _ (ih scope quiet)
    | _ => exact ih scope quiet
/-- What is recorded of a stream that is exhausted once. -/
theorem length_completed {before after : List (Answer Chunk Error)}
    (once : (before ++ .stopIteration :: after).countP (·.isStop) = 1)
    (quiet : (api.processChunks api.initial (chunksOf (before ++ .stopIteration :: after))).2 = none) :
    (api.completed api.initial (before ++ .stopIteration :: after)).length = 1 ↔
      ∃ recorded, api.processStreamingResponse (api.processChunks api.initial (chunksOf before)).1 = .ok recorded := by
  rw [List.countP_append, List.countP_cons] at once
  have stop : (if (Answer.stopIteration : Answer Chunk Error).isStop = true then 1 else 0) = 1 := rfl
  rw [stop] at once
  have early : (api.processChunks api.initial (chunksOf before)).2 = none := by
    rw [chunksOf_append, processChunks_append] at quiet
    cases processed : api.processChunks api.initial (chunksOf before) with
    | mk scope raised =>
      rw [processed] at quiet
      cases raised with
      | none => rfl
      | some e => cases quiet
  rw [completed_append _ _ early, completed_eq_nil _ (by omega), Instrumentation.completed, completed_eq_nil _ (by omega)]
  cases api.processStreamingResponse (api.processChunks api.initial (chunksOf before)).1 <;> simp [Except.toOption]

/-- A stream is traced as it should be if no chunk raises, if it is over only
    once it is exhausted, which the consumer sees once, and if what was gathered by
    then is recorded. -/
theorem traced_iff (api : Instrumentation Chunk Scope Recorded) (stream : Stream σ Chunk Error) (s : σ) (actions : List Action) :
    Traced api stream s actions ↔
      ExhaustedOnce (stream.answers s actions) ∧
        (api.processChunks api.initial (chunksOf (stream.answers s actions))).2 = none ∧
          ∀ before after, stream.answers s actions = before ++ .stopIteration :: after →
            ∃ recorded, api.processStreamingResponse (api.processChunks api.initial (chunksOf before)).1 = .ok recorded := by
  have ran := run_ran api stream { wrapped := s, scope := api.initial } actions
  have ends : (consume api stream s actions).2.span.ends = (stream.answers s actions).countP (·.isStop) := by
    rw [consume, ran.ends]
    exact Nat.zero_add _
  have metrics : (consume api stream s actions).2.metrics = api.completed api.initial (stream.answers s actions) := ran.metrics
  have transparent := ran.transparent
  rw [← consume] at transparent
  clear ran
  set answers := stream.answers s actions
  have stops {before after} (split : answers = before ++ .stopIteration :: after) : answers.any (·.isStop) = true := by
    rw [split]
    simp [Answer.isStop]
  constructor
  · intro traced
    have once : ExhaustedOnce answers := by
      intro finished
      rw [← ends, traced.ended, if_pos finished]
    refine ⟨once, transparent.mp traced.transparent, fun before after split => ?_⟩
    have stopped := stops split
    have one := once (any_isOver stopped)
    have recorded := traced.recorded
    have quiet := transparent.mp traced.transparent
    rw [metrics, if_pos stopped] at recorded
    rw [split] at one quiet recorded
    exact (length_completed one quiet).mp recorded
  · rintro ⟨once, quiet, finalised⟩
    refine ⟨transparent.mpr quiet, ?_, ?_⟩
    · rw [ends]
      by_cases finished : answers.any (·.isOver) = true
      · rw [if_pos finished, once finished]
      · rw [if_neg finished, countP_isStop]
        exact Bool.eq_false_iff.mpr (mt any_isOver finished)
    · rw [metrics]
      by_cases stopped : answers.any (·.isStop) = true
      · obtain ⟨answer, member, stop⟩ := List.any_eq_true.mp stopped
        obtain rfl : answer = .stopIteration := by
          cases answer <;> first | rfl | cases stop
        obtain ⟨before, after, split⟩ := List.append_of_mem member
        have one := once (any_isOver stopped)
        rw [if_pos stopped]
        rw [split] at one quiet ⊢
        exact (length_completed one quiet).mpr (finalised before after split)
      · rw [if_neg stopped, completed_eq_nil _ (countP_isStop.mpr (Bool.eq_false_iff.mpr stopped))]
        rfl

end

/-! ### Chat completions -/

section
open Openlit.OpenAIChat Openlit.OpenAIChatStreams Openlit.Slots

/-- The parts of tool calls that are read of some chunks. -/
def toolDeltas (chunks : List OpenAIChat.Chunk) : List ToolDelta := chunks.flatMap firstTools
/-- Every part of a call that has its id, or comes after it, has a function. -/
structure Supplied (parts : List ToolDelta) : Prop where
  own : ∀ p ∈ parts, p.function = none → sentId p = ""
  later : parts.Pairwise fun p q => q.function = none → p.index = q.index → sentId p = ""

theorem Supplied.of_append {parts more : List ToolDelta} (supplied : Supplied (parts ++ more)) : Supplied parts :=
  ⟨fun p member => supplied.own p (List.mem_append_left _ member), (List.pairwise_append.mp supplied.later).1⟩
theorem supplied_concat (parts : List ToolDelta) (p : ToolDelta) :
    Supplied (parts ++ [p]) ↔
      Supplied parts ∧ (p.function = none → sentId p = "" ∧ ∀ q ∈ parts, q.index = p.index → sentId q = "") := by
  constructor
  · rintro ⟨own, later⟩
    refine ⟨Supplied.of_append ⟨own, later⟩, fun missing => ⟨own p (by simp) missing, fun q member => ?_⟩⟩
    exact (List.pairwise_append.mp later).2.2 q member p (by simp) missing
  · rintro ⟨⟨own, later⟩, last⟩
    constructor
    · intro q member missing
      rw [List.mem_append, List.mem_singleton] at member
      rcases member with member | rfl
      · exact own q member missing
      · exact (last missing).1
    · refine List.pairwise_append.mpr ⟨later, List.pairwise_singleton .., ?_⟩
      intro q member r here missing
      obtain rfl := List.mem_singleton.mp here
      exact (last missing).2 q member
/-- A part raises nothing if it has a function, or if there is no call yet. -/
theorem updateTool_iff {parts : List ToolDelta} {called : Option Tool} (ran : folded updateTool none parts = .ok called) (p : ToolDelta) :
    (∃ tool, updateTool called p = .ok tool) ↔ (p.function = none → sentId p = "" ∧ ∀ q ∈ parts, sentId q = "") := by
  by_cases named : sentId p = ""
  · simp only [updateTool, present_none named]
    rcases folded_cases ran with ⟨rfl, unnamed⟩ | ⟨front, part, back, tool, rfl, rfl, kept⟩
    · exact iff_of_true ⟨_, rfl⟩ fun _ => ⟨named, unnamed⟩
    · have other : ¬ ∀ q ∈ front ++ part :: back, sentId q = "" := fun unnamed => kept.named (unnamed part (by simp))
      cases p.function with
      | none =>
        refine iff_of_false ?_ fun unnamed => other (unnamed rfl).2
        rintro ⟨_, ⟨⟩⟩
      | some func => exact iff_of_true ⟨_, rfl⟩ (by simp)
  · simp only [updateTool, present_id named]
    cases p.function <;> simp [named]
theorem written_iff (parts : List ToolDelta) : (toolsAfter {} parts).2 = none ↔ Supplied parts := by
  induction parts using List.reverseRecOn with
  | nil => exact iff_of_true rfl ⟨by simp, List.Pairwise.nil⟩
  | append_singleton parts p ih =>
    rw [supplied_concat, ← ih, toolsAfter, writeAll_append, ← toolsAfter]
    cases written : toolsAfter {} parts with
    | mk slots raised =>
      cases raised with
      | some e => simp
      | none =>
        have same : (∀ q ∈ partsAt parts p.index, sentId q = "") ↔ ∀ q ∈ parts, q.index = p.index → sentId q = "" := by
          simp [partsAt]
        rw [← same, ← updateTool_iff (slots_folded written p.index)]
        dsimp only
        rw [writeAll_cons]
        cases updateTool (held slots p.index) p <;> simp [writeAll]

theorem processChunks_chat (request : Request Cost) (scope : OpenAIChat.Scope) (chunks : List OpenAIChat.Chunk) :
    (chatCompletions request).processChunks scope chunks = processChatChunks scope chunks := by
  induction chunks generalizing scope with
  | nil => rfl
  | cons chunk rest ih =>
    have processed : (chatCompletions request).processChunk scope chunk = processChatChunk scope chunk := rfl
    rw [Instrumentation.processChunks, processChatChunks, processed]
    cases processChatChunk scope chunk with
    | mk scope' raised =>
      cases raised with
      | none => exact ih scope'
      | some e => rfl
theorem quiet_chat (request : Request Cost) (chunks : List OpenAIChat.Chunk) :
    ((chatCompletions request).processChunks {} chunks).2 = none ↔ Supplied (toolDeltas chunks) := by
  rw [processChunks_chat, ← written_iff, toolDeltas]
  constructor
  · intro quiet
    cases ran : processChatChunks {} chunks with
    | mk scope raised =>
      rw [ran] at quiet
      obtain rfl : raised = none := quiet
      rw [(processChatChunks_processed ran).2]
  · intro quiet
    obtain ⟨scope, ran⟩ := exists_processChatChunks quiet
    rw [ran]
theorem reduceOption_eq_nil {parts : List ToolDelta} {slots : List (Option Tool)} (written : toolsAfter {} parts = (slots, none)) :
    slots.reduceOption = [] ↔ ∀ p ∈ parts, sentId p = "" := by
  have member (tool : Tool) : tool ∈ slots.reduceOption ↔ ∃ j, held slots j = some tool := by
    rw [List.reduceOption_mem_iff, List.mem_iff_getElem?]
    simp only [held, Option.join_eq_some_iff]
  rw [List.eq_nil_iff_forall_not_mem]
  constructor
  · intro lost p here
    rcases folded_cases (slots_folded written p.index) with ⟨-, unnamed⟩ | ⟨_, _, _, tool, -, held, -⟩
    · exact unnamed p (List.mem_filter.mpr ⟨here, by simp⟩)
    · exact absurd ((member tool).mpr ⟨_, held⟩) (lost tool)
  · intro unnamed tool kept
    obtain ⟨j, here⟩ := (member tool).mp kept
    have nothing := slots_folded written j
    rw [partsAt, folded_unnamed fun p inside => unnamed p (List.mem_of_mem_filter inside), here] at nothing
    cases nothing
/-- The tools are recorded unless none of them got an id. -/
theorem toolAttributes_iff {parts : List ToolDelta} {slots : List (Option Tool)} (written : toolsAfter {} parts = (slots, none)) :
    (∃ tools, toolAttributes (some slots) = .ok tools) ↔ (parts ≠ [] → ∃ p ∈ parts, sentId p ≠ "") := by
  by_cases none : parts = []
  · subst none
    cases written
    exact iff_of_true ⟨_, rfl⟩ fun some' => absurd rfl some'
  · have filled : slots ≠ [] := by
      obtain ⟨p, member⟩ := List.exists_mem_of_ne_nil _ none
      have reached := (index_lt_length written).2 p member
      exact List.ne_nil_of_length_pos (by omega)
    rw [toolAttributes_some filled]
    have kept := reduceOption_eq_nil written
    by_cases lost : slots.reduceOption = []
    · rw [if_pos lost]
      simpa [none] using kept.mp lost
    · rw [if_neg lost]
      simpa [none] using mt kept.mpr lost

theorem finalised_chat (request : Request Cost) {chunks : List OpenAIChat.Chunk} (supplied : Supplied (toolDeltas chunks)) :
    (∃ recorded, (chatCompletions request).processStreamingResponse ((chatCompletions request).processChunks {} chunks).1 = .ok recorded) ↔
      (toolDeltas chunks ≠ [] → ∃ p ∈ toolDeltas chunks, sentId p ≠ "") := by
  obtain ⟨scope, ran⟩ := exists_processChatChunks ((written_iff _).mpr supplied)
  have recorded := toolAttributes_iff (processChatChunks_processed ran).2
  rw [toolAttributes_getD] at recorded
  rw [processChunks_chat, ran, toolDeltas, ← recorded]
  simp only [chatCompletions, commonChatLogic]
  cases toolAttributes scope.tools <;> simp

end

/-! ### Responses and messages -/

theorem quiet_responses (prompt : String) (cost : Nat → Nat → Cost) (scope : OpenAIResponses.Scope) (events : List OpenAIResponses.Event) :
    ((responses prompt cost).processChunks scope events).2 = none ↔
      ∀ response, .completed response ∈ events → response.usage ≠ none := by
  induction events generalizing scope with
  | nil => simp [Instrumentation.processChunks]
  | cons e rest ih =>
    have here : (OpenAIResponses.processResponseChunk scope e).2 = none ↔ ∀ response, e = .completed response → response.usage ≠ none := by
      cases e with
      | completed response =>
        cases given : response.usage <;> simp [OpenAIResponses.processResponseChunk, given]
      | outputItemAdded item => cases item <;> simp [OpenAIResponses.processResponseChunk]
      | outputItemDone item => cases item <;> simp [OpenAIResponses.processResponseChunk]
      | _ => simp [OpenAIResponses.processResponseChunk]
    have split : (∀ response, .completed response ∈ e :: rest → response.usage ≠ none) ↔
        (OpenAIResponses.processResponseChunk scope e).2 = none ∧ ∀ response, .completed response ∈ rest → response.usage ≠ none := by
      rw [here, ← forall_and]
      refine forall_congr' fun response => ?_
      rw [List.mem_cons, or_imp, eq_comm]
    rw [split, Instrumentation.processChunks]
    have processed : (responses prompt cost).processChunk scope e = OpenAIResponses.processResponseChunk scope e := rfl
    rw [processed]
    cases OpenAIResponses.processResponseChunk scope e with
    | mk scope' raised =>
      cases raised with
      | some e => simp
      | none => simpa using ih scope'
theorem quiet_messages (cost : Nat → Nat → Cost) (scope : AnthropicMessages.Scope) (events : List AnthropicMessages.Event) :
    ((messages cost).processChunks scope events).2 = none := by
  induction events generalizing scope with
  | nil => rfl
  | cons e rest ih => exact ih _

/-- The stream of some chunks, which raises nothing. -/
def listStream : Stream (List Chunk) Chunk Error where
  enter chunks := (none, chunks)
  next chunks :=
    match chunks with
    | [] => (.stopIteration, [])
    | chunk :: rest => (.chunk chunk, rest)
  exit _ := (none, [])
end Openlit.TracedStreams
