import Openlit.ChatCompletions
import Openlit.EventStreams
import Mathlib.Algebra.Ring.Int.Defs
import Mathlib.Logic.Relation

/-!
The span of a streamed request of the Go SDK, from `createChatCompletionStream` or `createMessageStream` to the end of
`readStream` (`openai/streaming.go`, `anthropic/streaming.go`). Once the goroutine runs, all is recorded before the deferred
`span.End`, but an error before that is recorded on a span that has been ended, and a goroutine that waits for a slot of its
channel ends nothing.
-/
namespace Openlit.StreamSpans
open ServerEvents

/-! ### Calls on a span -/

inductive Failure
  | marshal | newRequest | do | status | parse | context | scanner
  deriving DecidableEq, Repr
inductive StatusCode
  | ok | error
  deriving DecidableEq, Repr
/-- Times are in nanoseconds. A cost stands for the price of so many tokens. -/
inductive Attribute
  | known (key : ChatCompletions.Key) (value : ChatCompletions.Value)
  | usageCost (model : String) (inputTokens outputTokens : Int)
  | serverTimeToFirstToken (time : Int)
  | serverTimePerOutputToken (time : Int)
  deriving DecidableEq, Repr
inductive SpanCall
  | setAttribute (entry : Attribute)
  | recordError (err : Failure)
  | setStatus (code : StatusCode) (description : Option Failure)
  | ended
  deriving DecidableEq, Repr

/-- `helpers.RecordError`. -/
def recordError (err : Failure) : List SpanCall := [.recordError err, .setStatus .error (some err)]
def recorded (span : ChatCompletions.Span) : List Attribute := span.map fun entry => .known entry.1 entry.2
/-- The time to the first token and the mean time between tokens. -/
def timeAttributes (firstTokenTime : Int) (tokenTimestamps : List Int) : List Attribute :=
  (if 0 < firstTokenTime then [.serverTimeToFirstToken firstTokenTime] else []) ++
    if 1 < tokenTimestamps.length then
      [.serverTimePerOutputToken
        ((List.zipWith (fun later earlier => later - earlier) tokenTimestamps.tail tokenTimestamps).sum.tdiv (tokenTimestamps.length - 1))]
    else []

/-! ### The two readers -/

/-- What the loop of a `readStream` comes upon in the lines of a body, besides lines that it passes over. -/
inductive Item (Event : Type)
  | event (event : Event)
  | malformed
  | done
  deriving DecidableEq, Repr
/-- The times at which the loop has come upon a token, after its start. -/
structure Tokens where
  firstTokenTime : Int := 0
  tokenTimestamps : List Int := []
  accumulatedContent : String := ""
def Tokens.next (tokens : Tokens) (content : String) (now : Int) : Tokens where
  firstTokenTime := if tokens.firstTokenTime = 0 then now else tokens.firstTokenTime
  tokenTimestamps := tokens.tokenTimestamps ++ [now]
  accumulatedContent := tokens.accumulatedContent ++ content

namespace OpenAI
open ChatCompletions

abbrev Event := ChatCompletionChunk ToolCall
structure Reading where
  lastChunk : Option Event := none
  tokens : Tokens := {}

def items (unmarshal : Bytes → Option Event) : List Bytes → List (Item Event)
  | [] => []
  | line :: rest =>
    if line = [] ∨ [colon] <+: line then items unmarshal rest
    else if ¬ EventStreams.dataPrefix <+: line then items unmarshal rest
    else
      let data := line.drop EventStreams.dataPrefix.length
      if data = EventStreams.done then .done :: items unmarshal rest
      else
        match unmarshal data with
        | none => .malformed :: items unmarshal rest
        | some chunk => .event chunk :: items unmarshal rest
def next (reading : Reading) (chunk : Event) (now : Int) : Reading where
  lastChunk := some chunk
  tokens :=
    match chunk.choices with
    | first :: _ => if first.delta.content ≠ "" then reading.tokens.next first.delta.content now else reading.tokens
    | [] => reading.tokens
def lastChunkAttributes (chunk : Event) : List Attribute :=
  recorded (setStringAttribute .responseID chunk.id ++ setStringAttribute .responseModel chunk.model ++
      setStringAttribute .openAIResponseSystemFingerprint chunk.systemFingerprint ++
      setStringAttribute .openAIResponseServiceTier chunk.serviceTier) ++
    (match chunk.usage with
      | some usage => recorded (usageAttributes usage) ++ [.usageCost chunk.model usage.promptTokens usage.completionTokens]
      | none => []) ++
    recorded (setStringSliceAttribute .responseFinishReasons (nonEmpty (chunk.choices.map (·.finishReason))))
def attributes (capture : Bool) (reading : Reading) : List Attribute :=
  (match reading.lastChunk with
    | some chunk => lastChunkAttributes chunk
    | none => []) ++
  timeAttributes reading.tokens.firstTokenTime reading.tokens.tokenTimestamps ++
  if capture then recorded (setStringAttribute .completion reading.tokens.accumulatedContent) else []
end OpenAI

namespace Anthropic
open ChatCompletions

structure Usage where
  inputTokens : Int
  outputTokens : Int
structure Message where
  id : String
  model : String
  usage : Option Usage
structure Delta where
  text : String := ""
  stopReason : String := ""
/-- `MessageStreamEvent`. -/
structure Event where
  type : String
  message : Option Message := none
  delta : Option Delta := none
  usage : Option Usage := none
structure Reading where
  messageID : String := ""
  messageModel : String := ""
  stopReason : String := ""
  inputTokens : Int := 0
  outputTokens : Int := 0
  tokens : Tokens := {}

def dataItem (unmarshal : Bytes → Option Event) (eventData : Bytes) : List (Item Event) :=
  if eventData = [] then []
  else
    match unmarshal eventData with
    | none => [.malformed]
    | some event => [.event event]
/-- The line after an `event: ` line is read in the same iteration. -/
def items (unmarshal : Bytes → Option Event) : List Bytes → List (Item Event)
  | [] => []
  | line :: rest =>
    if line = [] ∨ [colon] <+: line then items unmarshal rest
    else if ¬ EventStreams.eventPrefix <+: line ∧ ¬ EventStreams.dataPrefix <+: line then items unmarshal rest
    else if EventStreams.eventPrefix <+: line then
      match rest with
      | [] => []
      | dataLine :: rest =>
        dataItem unmarshal (if EventStreams.dataPrefix <+: dataLine then dataLine.drop EventStreams.dataPrefix.length else []) ++
          items unmarshal rest
    else dataItem unmarshal (line.drop EventStreams.dataPrefix.length) ++ items unmarshal rest
def next (reading : Reading) (event : Event) (now : Int) : Reading :=
  if event.type = "message_start" then
    match event.message with
    | some message =>
      { reading with
        messageID := message.id
        messageModel := message.model
        inputTokens := (message.usage.map (·.inputTokens)).getD reading.inputTokens }
    | none => reading
  else if event.type = "content_block_delta" then
    match event.delta with
    | some delta => if delta.text ≠ "" then { reading with tokens := reading.tokens.next delta.text now } else reading
    | none => reading
  else if event.type = "message_delta" then
    { reading with
      stopReason := (event.delta.bind fun delta => if delta.stopReason ≠ "" then some delta.stopReason else none).getD reading.stopReason
      outputTokens := (event.usage.map (·.outputTokens)).getD reading.outputTokens }
  else reading
def attributes (requestModel : String) (capture : Bool) (reading : Reading) : List Attribute :=
  let messageModel := if reading.messageModel = "" then requestModel else reading.messageModel
  recorded (setStringAttribute .responseID reading.messageID ++ setStringAttribute .responseModel messageModel ++
      if reading.stopReason ≠ "" then setStringSliceAttribute .responseFinishReasons [reading.stopReason] else []) ++
    (if 0 < reading.inputTokens ∨ 0 < reading.outputTokens then
      recorded (setIntAttribute .usageInputTokens reading.inputTokens ++ setIntAttribute .usageOutputTokens reading.outputTokens ++
          setIntAttribute .usageTotalTokens (reading.inputTokens + reading.outputTokens)) ++
        [.usageCost messageModel reading.inputTokens reading.outputTokens]
    else []) ++
    timeAttributes reading.tokens.firstTokenTime reading.tokens.tokenTimestamps ++
    if capture then recorded (setStringAttribute .completion reading.tokens.accumulatedContent) else []
end Anthropic

/-- What the instrumentations differ in. -/
structure Instrumentation where
  Event : Type
  Reading : Type
  items : List Bytes → List (Item Event)
  start : Reading
  next : Reading → Event → Int → Reading
  attributes : Reading → List Attribute
/-- With what `json.Unmarshal` makes of data, and the setting to capture the content of messages. -/
def openAI (unmarshal : Bytes → Option OpenAI.Event) (capture : Bool) : Instrumentation where
  Event := OpenAI.Event
  Reading := OpenAI.Reading
  items := OpenAI.items unmarshal
  start := {}
  next := OpenAI.next
  attributes := OpenAI.attributes capture
def anthropic (unmarshal : Bytes → Option Anthropic.Event) (requestModel : String) (capture : Bool) : Instrumentation where
  Event := Anthropic.Event
  Reading := Anthropic.Reading
  items := Anthropic.items unmarshal
  start := {}
  next := Anthropic.next
  attributes := Anthropic.attributes requestModel capture

/-! ### A run -/

section
variable (inst : Instrumentation)

/-- Where `readStream` is: in the loop, past it with the error of the scanner, or before one of its deferred calls. -/
inductive Reader (Event : Type)
  | scanning
  | sending (event : Event)
  | looped (err : Option Failure)
  | returned
  | spanEnded
  | channelClosed

/-- `body` is what is still to come, which ends in an error or not, and `buffer` what the scanner has. Of the consumer is known
how many events it has received, and had received when it called `Close`. -/
structure State where
  body : List (Item inst.Event)
  finish : Option Failure
  buffer : List (Item inst.Event) := []
  channel : List inst.Event := []
  reader : Reader inst.Event := .scanning
  reading : inst.Reading := inst.start
  log : List SpanCall
  bodyClosed : Bool := false
  cancelled : Bool := false
  received : Nat := 0
  receivedBeforeClose : Option Nat := none

/-- The slots of `stream.reader`. -/
def capacity : Nat := 10

variable {inst}

/-- What is set once the loop has ended without an error. -/
def completed (reading : inst.Reading) : List SpanCall := (inst.attributes reading).map .setAttribute ++ [.setStatus .ok none]
/-- The calls for the outcome of a request. -/
def Outcome (inst : Instrumentation) (calls : List SpanCall) : Prop :=
  (∃ err, calls = recordError err) ∨ ∃ reading : inst.Reading, calls = completed reading
/-- What should hold of the calls: after what is set of the request comes its outcome, and then the end. -/
def Ended (inst : Instrumentation) (requestAttributes : List Attribute) (log : List SpanCall) : Prop :=
  ∃ calls, Outcome inst calls ∧ log = requestAttributes.map .setAttribute ++ calls ++ [.ended]

/-- What the reader does on its own. Where the body has been closed or the context cancelled, the scanner has an error. It may
know of one at a `break`. -/
inductive ReaderStep : State inst → State inst → Prop
  | read {s : State inst} (n : Nat) (scanning : s.reader = .scanning) (empty : s.buffer = []) (available : s.bodyClosed = false)
      (some : 0 < n) (there : n ≤ s.body.length) :
      ReaderStep s { s with buffer := s.body.take n, body := s.body.drop n }
  | finish {s : State inst} (scanning : s.reader = .scanning) (empty : s.buffer = []) (last : s.body = []) :
      ReaderStep s { s with reader := .looped s.finish }
  | fail {s : State inst} (scanning : s.reader = .scanning) (empty : s.buffer = [])
      (failed : s.bodyClosed = true ∨ s.cancelled = true) : ReaderStep s { s with reader := .looped (some .scanner) }
  | stop {s : State inst} {rest : List (Item inst.Event)} (err : Option Failure) (scanning : s.reader = .scanning)
      (next : s.buffer = .done :: rest) : ReaderStep s { s with reader := .looped err }
  | parse {s : State inst} {rest : List (Item inst.Event)} (scanning : s.reader = .scanning) (next : s.buffer = .malformed :: rest) :
      ReaderStep s { s with reader := .returned, log := s.log ++ recordError .parse }
  | scan {s : State inst} {event : inst.Event} {rest : List (Item inst.Event)} (now : Int) (scanning : s.reader = .scanning)
      (next : s.buffer = .event event :: rest) :
      ReaderStep s { s with buffer := rest, reader := .sending event, reading := inst.next s.reading event now }
  | send {s : State inst} {event : inst.Event} (sending : s.reader = .sending event) (slot : s.channel.length < capacity) :
      ReaderStep s { s with channel := s.channel ++ [event], reader := .scanning }
  | abort {s : State inst} {event : inst.Event} (sending : s.reader = .sending event) (cancelled : s.cancelled = true) :
      ReaderStep s { s with reader := .returned, log := s.log ++ recordError .context }
  | report {s : State inst} {err : Failure} (looped : s.reader = .looped (some err)) :
      ReaderStep s { s with reader := .returned, log := s.log ++ recordError err }
  | complete {s : State inst} (looped : s.reader = .looped none) :
      ReaderStep s { s with reader := .returned, log := s.log ++ completed s.reading }
  | endSpan {s : State inst} (returned : s.reader = .returned) :
      ReaderStep s { s with reader := .spanEnded, log := s.log ++ [.ended] }
  | closeChannel {s : State inst} (ended : s.reader = .spanEnded) : ReaderStep s { s with reader := .channelClosed }
/-- `Recv` and `Close`. -/
inductive ConsumerStep : State inst → State inst → Prop
  | recv {s : State inst} {event : inst.Event} {rest : List inst.Event} (next : s.channel = event :: rest) :
      ConsumerStep s { s with channel := rest, received := s.received + 1 }
  | close {s : State inst} (first : s.bodyClosed = false) :
      ConsumerStep s { s with bodyClosed := true, receivedBeforeClose := some s.received }
inductive Step : State inst → State inst → Prop
  | reader {s after : State inst} (step : ReaderStep s after) : Step s after
  | consumer {s after : State inst} (step : ConsumerStep s after) : Step s after
  | cancel {s : State inst} (first : s.cancelled = false) : Step s { s with cancelled := true }
/-- Nothing more happens of itself: the reader cannot go on, and a consumer that has not called `Close` has received all that was
sent. After `Close` none has to receive. -/
def Settled (s : State inst) : Prop :=
  (¬ ∃ after, ReaderStep s after) ∧ (s.receivedBeforeClose = none → s.channel = [])

variable (inst)

/-- What becomes of a request: an error or another status before there is a stream, or lines and how they end. -/
inductive Sent
  | failed (err : Failure)
  | accepted (lines : List Bytes) (finish : Option Failure)
/-- The calls of `createChatCompletionStream` and `createMessageStream`, and the stream that `readStream` begins with. -/
def createStream (requestAttributes : List Attribute) : Sent → List SpanCall × Option (State inst)
  | .failed err => (requestAttributes.map .setAttribute ++ .ended :: recordError err, none)
  | .accepted lines finish =>
    (requestAttributes.map .setAttribute,
      some { body := inst.items lines, finish := finish, log := requestAttributes.map .setAttribute })
/-- What should hold: where the consumer calls `Close` after so many events, or never, the span has been ended once all is settled,
with what is recorded before it. -/
def SpanEnded (requestAttributes : List Attribute) (sent : Sent) (closed : Option Nat) : Prop :=
  match createStream inst requestAttributes sent with
  | (log, none) => Ended inst requestAttributes log
  | (_, some start) => ∀ s, Relation.ReflTransGen Step start s → Settled s → s.receivedBeforeClose = closed →
    Ended inst requestAttributes s.log
end

/-- The events before the loop ends. -/
def events {Event : Type} : List (Item Event) → List Event
  | .event event :: rest => event :: events rest
  | _ => []
/-- There is a stream, and at most ten of its events have not been received when `Close` is called. -/
def Kept (inst : Instrumentation) (closed : Option Nat) : Sent → Prop
  | .failed _ => False
  | .accepted lines _ => ∀ received ∈ closed, (events (inst.items lines)).length ≤ received + capacity

/-! ### What is recorded comes before the end -/

section
variable {inst : Instrumentation}

/-- The event that the reader holds. -/
def Reader.held {Event : Type} : Reader Event → Nat
  | .sending _ => 1
  | _ => 0
/-- What has been called when the reader is there. -/
def Logged (requestAttributes : List Attribute) (s : State inst) : Prop :=
  match s.reader with
  | .returned => ∃ calls, Outcome inst calls ∧ s.log = requestAttributes.map .setAttribute ++ calls
  | .spanEnded => Ended inst requestAttributes s.log
  | .channelClosed => Ended inst requestAttributes s.log
  | _ => s.log = requestAttributes.map .setAttribute
/-- No event is duplicated, and the span is ended in its place. -/
structure Sound (requestAttributes : List Attribute) (sent : Nat) (s : State inst) : Prop where
  log : Logged requestAttributes s
  count : s.received + s.channel.length + s.reader.held + (events (s.buffer ++ s.body)).length ≤ sent
  closed : s.bodyClosed = s.receivedBeforeClose.isSome
  before : ∀ k ∈ s.receivedBeforeClose, k ≤ s.received

section
variable {requestAttributes : List Attribute} {sent : Nat} {s : State inst} (sound : Sound requestAttributes sent s)
include sound

theorem Sound.scanning (scanning : s.reader = .scanning) : s.log = requestAttributes.map .setAttribute := by
  have log := sound.log
  rwa [Logged, scanning] at log
theorem Sound.sending {event : inst.Event} (sending : s.reader = .sending event) : s.log = requestAttributes.map .setAttribute := by
  have log := sound.log
  rwa [Logged, sending] at log
theorem Sound.looped {err : Option Failure} (looped : s.reader = .looped err) : s.log = requestAttributes.map .setAttribute := by
  have log := sound.log
  rwa [Logged, looped] at log
/-- The reader leaves its loop. -/
theorem Sound.leave (running : s.log = requestAttributes.map .setAttribute) (err : Option Failure) :
    Sound requestAttributes sent { s with reader := .looped err } := by
  have count := sound.count
  refine ⟨running, ?_, sound.closed, sound.before⟩
  simp only [Reader.held]
  omega
theorem Sound.return (running : s.log = requestAttributes.map .setAttribute) {calls : List SpanCall} (outcome : Outcome inst calls) :
    Sound requestAttributes sent { s with reader := .returned, log := s.log ++ calls } := by
  have count := sound.count
  refine ⟨⟨calls, outcome, by rw [running]⟩, ?_, sound.closed, sound.before⟩
  simp only [Reader.held]
  omega
end

theorem sound_readerStep {requestAttributes : List Attribute} {sent : Nat} {s after : State inst}
    (sound : Sound requestAttributes sent s) (step : ReaderStep s after) : Sound requestAttributes sent after := by
  have count := sound.count
  cases step with
  | read n scanning empty available some there =>
    refine ⟨sound.log, ?_, sound.closed, sound.before⟩
    rw [empty, List.nil_append] at count
    rw [List.take_append_drop]
    exact count
  | finish scanning => exact sound.leave (sound.scanning scanning) _
  | fail scanning => exact sound.leave (sound.scanning scanning) _
  | stop err scanning => exact sound.leave (sound.scanning scanning) _
  | parse scanning => exact sound.return (sound.scanning scanning) (.inl ⟨_, rfl⟩)
  | scan now scanning next =>
    refine ⟨sound.scanning scanning, ?_, sound.closed, sound.before⟩
    simp only [scanning, next, Reader.held, List.cons_append, events, List.length_cons] at count ⊢
    omega
  | send sending slot =>
    refine ⟨sound.sending sending, ?_, sound.closed, sound.before⟩
    simp only [sending, Reader.held, List.length_append, List.length_singleton] at count ⊢
    omega
  | abort sending => exact sound.return (sound.sending sending) (.inl ⟨_, rfl⟩)
  | report looped => exact sound.return (sound.looped looped) (.inl ⟨_, rfl⟩)
  | complete looped => exact sound.return (sound.looped looped) (.inr ⟨_, rfl⟩)
  | endSpan returned =>
    have log := sound.log
    rw [Logged, returned] at log
    obtain ⟨calls, outcome, log⟩ := log
    refine ⟨⟨calls, outcome, by rw [log]⟩, ?_, sound.closed, sound.before⟩
    simpa only [returned, Reader.held] using count
  | closeChannel ended =>
    have log := sound.log
    rw [Logged, ended] at log
    refine ⟨log, ?_, sound.closed, sound.before⟩
    simpa only [ended, Reader.held] using count
theorem sound_step {requestAttributes : List Attribute} {sent : Nat} {s after : State inst} (sound : Sound requestAttributes sent s)
    (step : Step s after) : Sound requestAttributes sent after := by
  have count := sound.count
  cases step with
  | reader step => exact sound_readerStep sound step
  | consumer step =>
    cases step with
    | recv next =>
      refine ⟨sound.log, ?_, sound.closed, fun k known => Nat.le_succ_of_le (sound.before k known)⟩
      simp only [next, List.length_cons] at count ⊢
      omega
    | close first =>
      refine ⟨sound.log, count, rfl, ?_⟩
      rintro k ⟨⟩
      exact Nat.le_refl _
  | cancel first => exact ⟨sound.log, count, sound.closed, sound.before⟩
theorem sound_reachable {requestAttributes : List Attribute} {sent : Nat} {start s : State inst}
    (sound : Sound requestAttributes sent start) (reachable : Relation.ReflTransGen Step start s) : Sound requestAttributes sent s := by
  induction reachable with
  | refl => exact sound
  | tail _ step ih => exact sound_step ih step

/-- A reader that cannot go on is at its end, or holds an event for which there is no slot. -/
theorem settled_reader {s : State inst} (settled : ¬ ∃ after, ReaderStep s after) :
    s.reader = .channelClosed ∨ ∃ event, s.reader = .sending event ∧ capacity ≤ s.channel.length := by
  cases reader : s.reader with
  | scanning =>
    refine absurd ?_ settled
    cases buffer : s.buffer with
    | nil =>
      cases body : s.body with
      | nil => exact ⟨_, .finish reader buffer body⟩
      | cons item rest =>
        cases closed : s.bodyClosed with
        | false => exact ⟨_, .read 1 reader buffer closed (by omega) (by simp [body])⟩
        | true => exact ⟨_, .fail reader buffer (.inl closed)⟩
    | cons item rest =>
      cases item with
      | event event => exact ⟨_, .scan 0 reader buffer⟩
      | malformed => exact ⟨_, .parse reader buffer⟩
      | done => exact ⟨_, .stop none reader buffer⟩
  | sending event =>
    by_cases slot : s.channel.length < capacity
    · exact absurd ⟨_, .send reader slot⟩ settled
    · exact .inr ⟨event, rfl, Nat.le_of_not_lt slot⟩
  | looped err =>
    cases err with
    | none => exact absurd ⟨_, .complete reader⟩ settled
    | some err => exact absurd ⟨_, .report reader⟩ settled
  | returned => exact absurd ⟨_, .endSpan reader⟩ settled
  | spanEnded => exact absurd ⟨_, .closeChannel reader⟩ settled
  | channelClosed => exact .inl rfl

theorem settled_ended {requestAttributes : List Attribute} {sent : Nat} {s : State inst} (sound : Sound requestAttributes sent s)
    (settled : Settled s) (kept : ∀ received ∈ s.receivedBeforeClose, sent ≤ received + capacity) :
    Ended inst requestAttributes s.log := by
  have log := sound.log
  rcases settled_reader settled.1 with atEnd | ⟨event, sending, full⟩
  · rwa [Logged, atEnd] at log
  · have count := sound.count
    rw [sending, Reader.held] at count
    cases closed : s.receivedBeforeClose with
    | none =>
      rw [settled.2 closed] at full
      exact absurd full (by simp [capacity])
    | some k =>
      have before := sound.before k closed
      have few := kept k closed
      omega

/-! ### Every run settles -/

def Reader.steps {Event : Type} : Reader Event → Nat
  | .scanning => 4
  | .sending _ => 6
  | .looped _ => 3
  | .returned => 2
  | .spanEnded => 1
  | .channelClosed => 0
/-- An item is read, scanned, sent and received. -/
def State.size (s : State inst) : Nat :=
  4 * s.body.length + 3 * s.buffer.length + s.channel.length + s.reader.steps + (if s.bodyClosed then 0 else 1) +
    if s.cancelled then 0 else 1

theorem size_readerStep {s after : State inst} (step : ReaderStep s after) : after.size < s.size := by
  cases step with
  | read n scanning empty available some there =>
    simp only [State.size, empty, List.length_nil, List.length_take, List.length_drop]
    omega
  | finish scanning => simp only [State.size, scanning, Reader.steps]; omega
  | fail scanning => simp only [State.size, scanning, Reader.steps]; omega
  | stop err scanning => simp only [State.size, scanning, Reader.steps]; omega
  | parse scanning => simp only [State.size, scanning, Reader.steps]; omega
  | scan now scanning next => simp only [State.size, scanning, next, Reader.steps, List.length_cons]; omega
  | send sending slot =>
    simp only [State.size, sending, Reader.steps, List.length_append, List.length_singleton]
    omega
  | abort sending => simp only [State.size, sending, Reader.steps]; omega
  | report looped => simp only [State.size, looped, Reader.steps]; omega
  | complete looped => simp only [State.size, looped, Reader.steps]; omega
  | endSpan returned => simp only [State.size, returned, Reader.steps]; omega
  | closeChannel ended => simp only [State.size, ended, Reader.steps]; omega
/-- No run goes on for ever. -/
theorem size_step {s after : State inst} (step : Step s after) : after.size < s.size := by
  cases step with
  | reader step => exact size_readerStep step
  | consumer step =>
    cases step with
    | recv next => simp only [State.size, next, List.length_cons]; omega
    | close first =>
      simp only [State.size, first]
      simp
  | cancel first =>
    simp only [State.size, first]
    simp
theorem settles (s : State inst) :
    ∃ rest, Relation.ReflTransGen Step s rest ∧ Settled rest ∧ rest.receivedBeforeClose = s.receivedBeforeClose := by
  induction size : s.size using Nat.strong_induction_on generalizing s with
  | _ n ih =>
    subst size
    by_cases goes : ∃ after, ReaderStep s after
    · obtain ⟨after, step⟩ := goes
      obtain ⟨rest, run, settled, closed⟩ := ih _ (size_readerStep step) after rfl
      refine ⟨rest, .head (.reader step) run, settled, closed.trans ?_⟩
      cases step <;> rfl
    · cases channel : s.channel with
      | nil => exact ⟨s, .refl, ⟨goes, fun _ => channel⟩, rfl⟩
      | cons event others =>
        have step : Step s { s with channel := others, received := s.received + 1 } := .consumer (.recv channel)
        obtain ⟨rest, run, settled, closed⟩ := ih _ (size_step step) _ rfl
        exact ⟨rest, .head step run, settled, closed⟩

/-! ### A reader that waits -/

/-- A reader at its loop, with an open body and nothing in the buffer of the scanner. -/
def looping (finish : Option Failure) (log : List SpanCall) (body : List (Item inst.Event)) (channel : List inst.Event) (received : Nat)
    (reading : inst.Reading) : State inst := { body, finish, channel, received, reading, log }

theorem events_split {Event : Type} (items : List (Item Event)) : ∃ rest, items = (events items).map .event ++ rest := by
  induction items with
  | nil => exact ⟨[], rfl⟩
  | cons item items ih =>
    cases item with
    | event event =>
      obtain ⟨rest, same⟩ := ih
      exact ⟨rest, congrArg (List.cons (Item.event event)) same⟩
    | malformed => exact ⟨_, rfl⟩
    | done => exact ⟨_, rfl⟩

section
variable (finish : Option Failure) (log : List SpanCall)

/-- An event that is there is read and scanned. -/
theorem reaches_sending (body : List (Item inst.Event)) (channel : List inst.Event) (received : Nat) (reading : inst.Reading)
    (event : inst.Event) : ∃ reading', Relation.ReflTransGen Step (looping finish log (.event event :: body) channel received reading)
      { looping finish log body channel received reading' with reader := .sending event } := by
  have read := @ReaderStep.read inst (looping finish log (.event event :: body) channel received reading) 1 rfl rfl rfl (by omega)
    (by simp [looping])
  have scan := @ReaderStep.scan inst { looping finish log body channel received reading with buffer := [.event event] } event [] 0 rfl rfl
  exact ⟨_, .tail (.single (.reader read)) (.reader scan)⟩
theorem reaches_sent (body : List (Item inst.Event)) (channel : List inst.Event) (received : Nat) (reading : inst.Reading)
    (event : inst.Event) (slot : channel.length < capacity) :
    ∃ reading', Relation.ReflTransGen Step (looping finish log (.event event :: body) channel received reading)
      (looping finish log body (channel ++ [event]) received reading') := by
  obtain ⟨reading', waiting⟩ := reaches_sending finish log body channel received reading event
  exact ⟨reading', waiting.tail (.reader (.send rfl slot))⟩
/-- One after the other, events are sent and received. -/
theorem reaches_received (passed : List inst.Event) (body : List (Item inst.Event)) (received : Nat) (reading : inst.Reading) :
    ∃ reading', Relation.ReflTransGen Step (looping finish log (passed.map .event ++ body) [] received reading)
      (looping finish log body [] (received + passed.length) reading') := by
  induction passed generalizing received reading with
  | nil => exact ⟨reading, .refl⟩
  | cons event passed ih =>
    obtain ⟨reading₁, sent⟩ := reaches_sent finish log (passed.map .event ++ body) [] received reading event (by simp [capacity])
    obtain ⟨reading₂, others⟩ := ih (received + 1) reading₁
    refine ⟨reading₂, ?_⟩
    have next := (sent.tail (.consumer (.recv rfl))).trans others
    rwa [show received + 1 + passed.length = received + (event :: passed).length by rw [List.length_cons]; omega] at next
/-- As many events as there are slots are sent without a receiver. -/
theorem reaches_filled (filled : List inst.Event) (body : List (Item inst.Event)) (channel : List inst.Event) (received : Nat)
    (reading : inst.Reading) (slots : channel.length + filled.length ≤ capacity) :
    ∃ reading', Relation.ReflTransGen Step (looping finish log (filled.map .event ++ body) channel received reading)
      (looping finish log body (channel ++ filled) received reading') := by
  induction filled generalizing channel reading with
  | nil => exact ⟨reading, by rw [List.append_nil]; exact .refl⟩
  | cons event filled ih =>
    rw [List.length_cons] at slots
    obtain ⟨reading₁, sent⟩ := reaches_sent finish log (filled.map .event ++ body) channel received reading event (by omega)
    obtain ⟨reading₂, others⟩ := ih (channel ++ [event]) reading₁ (by rw [List.length_append, List.length_singleton]; omega)
    rw [List.append_assoc, List.singleton_append] at others
    exact ⟨reading₂, sent.trans others⟩

/-- A stream with more events than were received before `Close` and fit in the channel may leave its span open. -/
theorem waits_of_many {items : List (Item inst.Event)} {k : Nat} (many : k + capacity < (events items).length) :
    ∃ s, Relation.ReflTransGen Step (looping finish log items [] 0 inst.start) s ∧ Settled s ∧ s.receivedBeforeClose = some k ∧
      s.log = log := by
  obtain ⟨rest, split⟩ := events_split items
  obtain ⟨passed, others, cut, count⟩ : ∃ passed others, events items = passed ++ others ∧ passed.length = k :=
    ⟨(events items).take k, (events items).drop k, (List.take_append_drop k _).symm, by rw [List.length_take]; omega⟩
  obtain ⟨filled, more, cut', fills⟩ : ∃ filled more, others = filled ++ more ∧ filled.length = capacity := by
    have long := congrArg List.length cut
    rw [List.length_append] at long
    exact ⟨others.take capacity, others.drop capacity, (List.take_append_drop capacity _).symm, by rw [List.length_take]; omega⟩
  rw [cut'] at cut
  rw [cut] at many split
  cases more with
  | nil =>
    simp only [List.append_nil, List.length_append] at many
    omega
  | cons event more =>
    have shape : items = passed.map .event ++ (filled.map .event ++ .event event :: (more.map .event ++ rest)) := by
      rw [split]
      simp
    obtain ⟨reading₁, received⟩ := reaches_received finish log passed
      (filled.map .event ++ .event event :: (more.map .event ++ rest)) 0 inst.start
    obtain ⟨reading₂, full⟩ := reaches_filled finish log filled (.event event :: (more.map .event ++ rest)) []
      (0 + passed.length) reading₁ (by rw [List.length_nil]; omega)
    obtain ⟨reading₃, waiting⟩ := reaches_sending finish log (more.map .event ++ rest) ([] ++ filled)
      (0 + passed.length) reading₂ event
    have closed := ((received.trans full).trans waiting).tail (.consumer (.close rfl))
    rw [← shape] at closed
    refine ⟨_, closed, ⟨?_, fun none => by cases none⟩, by simp [looping, count], rfl⟩
    rintro ⟨after, step⟩
    cases step <;> simp_all [looping]
end

/-- What comes before the end does not end the span. -/
theorem outcome_unended {calls : List SpanCall} (outcome : Outcome inst calls) : .ended ∉ calls := by
  rcases outcome with ⟨err, rfl⟩ | ⟨reading, rfl⟩
  · simp [recordError]
  · simp [completed]
/-- So the span is ended once, and nothing is called after that. -/
theorem Ended.once {requestAttributes : List Attribute} {log : List SpanCall} (ended : Ended inst requestAttributes log) :
    log.count .ended = 1 ∧ log.getLast? = some .ended := by
  obtain ⟨calls, outcome, rfl⟩ := ended
  have unended : SpanCall.ended ∉ requestAttributes.map SpanCall.setAttribute ++ calls := by simp [outcome_unended outcome]
  rw [List.count_append, List.count_eq_zero.mpr unended, List.getLast?_concat]
  exact ⟨rfl, rfl⟩

theorem spanEnded_iff_kept (requestAttributes : List Attribute) (sent : Sent) (closed : Option Nat) :
    SpanEnded inst requestAttributes sent closed ↔ Kept inst closed sent := by
  cases sent with
  | failed err =>
    refine iff_of_false (fun ended => ?_) id
    have last := (Ended.once ended).2
    simp [recordError] at last
  | accepted lines finish =>
    have start : Sound requestAttributes (events (inst.items lines)).length
        (looping finish (requestAttributes.map .setAttribute) (inst.items lines) [] 0 inst.start) :=
      ⟨rfl, by simp [looping, Reader.held], rfl, fun _ none => by cases none⟩
    constructor
    · intro ended received known
      by_contra many
      obtain ⟨s, run, settled, atClose, log⟩ := waits_of_many finish (requestAttributes.map .setAttribute) (Nat.lt_of_not_le many)
      have once := (ended s run settled (atClose.trans known.symm)).once.1
      rw [log, List.count_eq_zero.mpr (by simp)] at once
      cases once
    · intro kept s run settled atClose
      exact settled_ended (sound_reachable start run) settled (atClose ▸ kept)

/-! ### The events are those that are received -/

theorem openAI_events (unmarshal : Bytes → Option OpenAI.Event) (err errAtBreak : Option EventStreams.StreamError) (lines : List Bytes) :
    events (OpenAI.items unmarshal lines) = (EventStreams.OpenAI.readLines unmarshal err errAtBreak lines).reader := by
  induction lines with
  | nil => rfl
  | cons line lines ih =>
    rw [OpenAI.items, EventStreams.OpenAI.readLines]
    dsimp only
    split
    · exact ih
    split
    · exact ih
    split
    · rfl
    cases unmarshal (line.drop EventStreams.dataPrefix.length) with
    | none => rfl
    | some chunk => exact congrArg (List.cons chunk) ih
theorem dataItem_events (unmarshal : Bytes → Option Anthropic.Event) (eventData : Bytes) {rest : List (Item Anthropic.Event)}
    {next : EventStreams.Stream Anthropic.Event} (same : events rest = next.reader) :
    events (Anthropic.dataItem unmarshal eventData ++ rest) = (EventStreams.Anthropic.send unmarshal eventData next).reader := by
  rw [Anthropic.dataItem, EventStreams.Anthropic.send]
  split
  · exact same
  cases unmarshal eventData with
  | none => rfl
  | some event => exact congrArg (List.cons event) same
theorem anthropic_events (unmarshal : Bytes → Option Anthropic.Event) (err : Option EventStreams.StreamError) (lines : List Bytes) :
    events (Anthropic.items unmarshal lines) = (EventStreams.Anthropic.readLines unmarshal err [] lines).reader := by
  fun_induction Anthropic.items unmarshal lines with
  | case1 => simp [EventStreams.Anthropic.readLines, events]
  | case2 line rest passed ih =>
    rw [ih]
    cases rest <;> simp [EventStreams.Anthropic.readLines, passed]
  | case3 line rest counted other ih =>
    rw [ih]
    cases rest <;> simp [EventStreams.Anthropic.readLines, other]
  | case4 line counted known named => simp [EventStreams.Anthropic.readLines, counted, named, events]
  | case5 line counted known named dataLine rest ih =>
    rw [dataItem_events unmarshal _ ih]
    simp [EventStreams.Anthropic.readLines, counted, named]
  | case6 line rest counted known unnamed ih =>
    rw [dataItem_events unmarshal _ ih]
    have spaced : EventStreams.dataPrefix <+: line := by
      by_contra other
      exact known ⟨unnamed, other⟩
    cases rest <;> simp [EventStreams.Anthropic.readLines, counted, unnamed, spaced]
end

/-- The span of a streamed request is ended as it should, by OpenAI's instrumentation as by Anthropic's, exactly if there is a
stream, and at most ten of its events have not been received when it is closed. -/
theorem stream_span_ended_iff (unmarshal : Bytes → Option OpenAI.Event) (unmarshal' : Bytes → Option Anthropic.Event)
    (requestModel : String) (capture : Bool) (requestAttributes : List Attribute) (sent : Sent) (closed : Option Nat) :
    (SpanEnded (openAI unmarshal capture) requestAttributes sent closed ↔ Kept (openAI unmarshal capture) closed sent) ∧
      (SpanEnded (anthropic unmarshal' requestModel capture) requestAttributes sent closed ↔
        Kept (anthropic unmarshal' requestModel capture) closed sent) :=
  ⟨spanEnded_iff_kept requestAttributes sent closed, spanEnded_iff_kept requestAttributes sent closed⟩

def helloChunk : OpenAI.Event := { id := "chatcmpl-1", model := "gpt-4o", choices := [{ index := 0, delta := { content := "Hello" } }] }
def helloLine : Bytes := EventStreams.dataPrefix ++ ['1'.toUInt8]
/-- The error of a refused request is recorded after the end, and of eleven chunks one waits when none has been received before
`Close`. -/
theorem refused_or_waiting :
    (createStream (openAI (fun _ => some helloChunk) true) [] (.failed .status)).1 =
        [.ended, .recordError .status, .setStatus .error (some .status)] ∧
      ¬ SpanEnded (openAI (fun _ => some helloChunk) true) [] (.failed .status) none ∧
      ¬ SpanEnded (openAI (fun _ => some helloChunk) true) [] (.accepted (List.replicate 11 helloLine) none) (some 0) := by
  refine ⟨rfl, ?_, ?_⟩
  · exact (spanEnded_iff_kept [] (.failed .status) none).mp
  · intro ended
    have kept := (spanEnded_iff_kept _ _ _).mp ended 0 rfl
    exact absurd kept (by decide)

end Openlit.StreamSpans
