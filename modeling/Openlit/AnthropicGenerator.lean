import Openlit.AnthropicStreams
import Openlit.Truthy

/-!
What the TypeScript SDK records of an Anthropic message (`anthropic/wrapper.ts`),
of a whole one and of a stream that delivers it. The generator rebuilds a message
with one block, which has no type, so that of a stream the setter records no text
and no use of a tool; it adds up counts of output tokens that are totals already.
Times are left out, and so is what the request alone decides.
-/
namespace Openlit.AnthropicGenerator
open Openlit.AnthropicMessages (Usage Block Message StartMessage MessageDelta Event ToolInputs)
open Openlit.AnthropicStreams (Delivers messageDeltas latest toolUses useOf)
open Openlit.ChatStreams (concat concat_eq_empty)
open Openlit.Truthy

variable {Cost Input : Type}

/-! ### The setter -/

/-- An element of `content`. The one of the generator has no `type`. -/
inductive Item (Input : Type) where
  | untyped (text : String)
  | block (block : Block Input)
/-- The message that the setter is given. A count that is missing is as good as zero. -/
structure Result (Input : Type) where
  id : String
  model : String
  stopReason : String
  content : List (Item Input)
  inputTokens : Nat
  outputTokens : Nat
  cacheCreationInputTokens : Nat
  cacheReadInputTokens : Nat

/-- The parts of an output message. The arguments of a call stay empty, for a block has them as its `input`. -/
inductive Part where
  | text (content : String)
  | toolCall (id name : String)
  deriving DecidableEq
inductive OutputType where
  | text
  | json
  deriving DecidableEq
structure ToolAttributes where
  names : Option String := none
  callIds : Option String := none
  args : List String := []
  deriving DecidableEq
/-- What a span has of a message. -/
structure Telemetry (Cost : Type) where
  responseId : String
  model : String
  cost : Cost
  inputTokens : Nat
  outputTokens : Nat
  totalTokens : Nat
  cacheCreationInputTokens : Option Nat
  cacheReadInputTokens : Option Nat
  finishReason : Option String
  tools : ToolAttributes
  outputType : OutputType
  outputMessages : Option (List Part × String)
  deriving DecidableEq

def Item.use : Item Input → Option (String × String × Input)
  | .untyped _ => none
  | .block given => useOf given
def Item.text : Item Input → Option String
  | .block (.text text) => some text
  | _ => none
/-- `OpenLitHelper.buildOutputMessages`. -/
def buildOutputMessages (text finishReason : String) (uses : List (String × String × Input)) : List Part × String :=
  ((truthyText text).toList.map Part.text ++ uses.map fun use => .toolCall use.1 use.2.1, (truthyText finishReason).getD "stop")

def messageCreateCommonSetter (traceContent : Bool) (cost : String → Nat → Nat → Cost) (stringify : Input → String)
    (result : Result Input) : Telemetry Cost :=
  let model := (truthyText result.model).getD "claude-3-sonnet-20240229"
  let uses := result.content.filterMap Item.use
  { responseId := result.id
    model
    cost := cost model result.inputTokens result.outputTokens
    inputTokens := result.inputTokens
    outputTokens := result.outputTokens
    totalTokens := result.inputTokens + result.outputTokens
    cacheCreationInputTokens := truthyCount result.cacheCreationInputTokens
    cacheReadInputTokens := truthyCount result.cacheReadInputTokens
    finishReason := truthyText result.stopReason
    tools :=
      { names := joined (uses.map (·.2.1))
        callIds := joined (uses.map (·.1))
        args := uses.map fun use => stringify use.2.2 }
    outputType := if uses = [] then .text else .json
    outputMessages :=
      if traceContent then some (buildOutputMessages (concat (result.content.filterMap Item.text)) result.stopReason uses) else none }

/-- What is recorded of a whole message. -/
def recordedMessage (traceContent : Bool) (cost : String → Nat → Nat → Cost) (stringify : Input → String) (message : Message Input) :
    Telemetry Cost :=
  messageCreateCommonSetter traceContent cost stringify
    { id := message.id
      model := message.model
      stopReason := message.stopReason
      content := message.content.map .block
      inputTokens := message.usage.inputTokens
      outputTokens := message.usage.outputTokens
      cacheCreationInputTokens := message.usage.cacheCreationInputTokens.getD 0
      cacheReadInputTokens := message.usage.cacheReadInputTokens.getD 0 }

/-! ### The generator -/

/-- The `result` of the generator, with the text of its only block. -/
structure Rebuilt where
  id : String := "0"
  model : String := ""
  stopReason : String := ""
  text : String := ""
  inputTokens : Nat := 0
  outputTokens : Nat := 0
  cacheCreationInputTokens : Nat := 0
  cacheReadInputTokens : Nat := 0
  deriving DecidableEq

/-- A count that is taken if it is truthy. -/
def counted (new : Option Nat) (old : Nat) : Nat := if new.getD 0 = 0 then old else new.getD 0
def addDelta (result : Rebuilt) (delta : MessageDelta) : Rebuilt :=
  { result with
    stopReason := delta.stopReason.getD ""
    outputTokens := result.outputTokens + delta.outputTokens
    cacheCreationInputTokens := counted delta.cacheCreationInputTokens result.cacheCreationInputTokens
    cacheReadInputTokens := counted delta.cacheReadInputTokens result.cacheReadInputTokens }
/-- The body of the loop of `_messageCreateGenerator`. -/
def addChunk (result : Rebuilt) : Event → Rebuilt
  | .contentBlockDelta _ (.text text) => { result with text := result.text ++ text }
  | .contentBlockDelta _ (.inputJson _) | .messageStop | .contentBlockStop _ | .ping => result
  | .messageStart message =>
    { result with
      id := message.id
      model := message.model
      inputTokens := result.inputTokens + message.usage.inputTokens
      outputTokens := result.outputTokens + message.usage.outputTokens
      cacheCreationInputTokens := message.usage.cacheCreationInputTokens.getD 0
      cacheReadInputTokens := message.usage.cacheReadInputTokens.getD 0
      stopReason := "" }
  | .contentBlockStart _ _ => { result with text := "" }
  | .messageDelta delta => addDelta result delta

def Rebuilt.result (rebuilt : Rebuilt) : Result Input where
  id := rebuilt.id
  model := rebuilt.model
  stopReason := rebuilt.stopReason
  content := [.untyped rebuilt.text]
  inputTokens := rebuilt.inputTokens
  outputTokens := rebuilt.outputTokens
  cacheCreationInputTokens := rebuilt.cacheCreationInputTokens
  cacheReadInputTokens := rebuilt.cacheReadInputTokens
/-- What is recorded of a stream that is iterated to its end. -/
def recordedStream (traceContent : Bool) (cost : String → Nat → Nat → Cost) (stringify : Input → String) (events : List Event) :
    Telemetry Cost :=
  messageCreateCommonSetter traceContent cost stringify (events.foldl addChunk {}).result

/-! ### What the generator rebuilds -/

/-- But for the text, only the deltas of the message matter after its start. -/
theorem foldl_addChunk (result : Rebuilt) {rest : List Event} (once : ∀ again, .messageStart again ∉ rest) :
    ∃ text, rest.foldl addChunk result = { (messageDeltas rest).foldl addDelta result with text := text } := by
  induction rest using List.reverseRecOn with
  | nil => exact ⟨result.text, rfl⟩
  | append_singleton rest e ih =>
    obtain ⟨text, before⟩ := ih fun again member => once again (List.mem_append_left _ member)
    have appended : messageDeltas (rest ++ [e]) = messageDeltas rest ++ messageDeltas [e] := List.filterMap_append
    rw [List.foldl_concat, before, appended, List.foldl_append]
    cases e with
    | messageStart again => exact absurd (List.mem_append_right rest (List.mem_singleton.mpr rfl)) (once again)
    | contentBlockDelta index delta =>
      cases delta with
      | text part => exact ⟨text ++ part, rfl⟩
      | inputJson part => exact ⟨text, rfl⟩
    | contentBlockStart index block => exact ⟨"", rfl⟩
    | messageDelta delta => exact ⟨text, rfl⟩
    | contentBlockStop index => exact ⟨text, rfl⟩
    | messageStop => exact ⟨text, rfl⟩
    | ping => exact ⟨text, rfl⟩
theorem foldl_addDelta (result : Rebuilt) (deltas : List MessageDelta) :
    deltas.foldl addDelta result =
      { result with
        stopReason := (deltas.getLast?.map fun d => d.stopReason.getD "").getD result.stopReason
        outputTokens := result.outputTokens + (deltas.map (·.outputTokens)).sum
        cacheCreationInputTokens :=
          (deltas.map (·.cacheCreationInputTokens)).foldl (fun old new => counted new old) result.cacheCreationInputTokens
        cacheReadInputTokens := (deltas.map (·.cacheReadInputTokens)).foldl (fun old new => counted new old) result.cacheReadInputTokens } := by
  induction deltas using List.reverseRecOn with
  | nil => rfl
  | append_singleton deltas d ih =>
    rw [List.foldl_concat, ih]
    simp [addDelta, Nat.add_assoc]

/-! ### Counts -/

theorem counted_eq_zero (first : Option Nat) (later : List (Option Nat)) :
    later.foldl (fun old new => counted new old) (first.getD 0) = 0 ↔ ∀ count ∈ first :: later, count.getD 0 = 0 := by
  induction later using List.reverseRecOn with
  | nil => simp
  | append_singleton later new ih =>
    rw [List.foldl_concat, ← List.cons_append, List.forall_mem_append, ← ih, counted]
    by_cases zero : new.getD 0 = 0 <;> simp [zero]
/-- The last truthy count is the last count, unless that is zero after another one. -/
theorem counted_latest (first : Option Nat) (later : List (Option Nat)) :
    later.foldl (fun old new => counted new old) (first.getD 0) = (latest first later).getD 0 ↔
      ((latest first later).getD 0 = 0 → ∀ count ∈ first :: later, count.getD 0 = 0) := by
  induction later using List.reverseRecOn with
  | nil => simp [latest]
  | append_singleton later new ih =>
    have zero := counted_eq_zero first later
    rw [← List.cons_append, List.forall_mem_append]
    simp only [latest, List.foldl_concat] at ih zero ⊢
    cases new with
    | none => simpa [counted] using ih
    | some n =>
      by_cases none : n = 0
      · simpa [counted, none] using zero
      · simp [counted, none]

/-! ### When both record the same -/

/-- The messages, and the ways to deliver them, of which a stream records everything. -/
structure Recordable (traceContent : Bool) (start : StartMessage) (rest : List Event) (message : Message Input) : Prop where
  noUses : toolUses message.content = []
  noText : traceContent → ∀ text, .text text ∈ message.content → text = ""
  stopReason : ∀ d ∈ (messageDeltas rest).getLast?, d.stopReason ≠ none
  inputTokens : start.usage.inputTokens = message.usage.inputTokens
  outputTokens : start.usage.outputTokens = 0 ∧ ∀ d ∈ (messageDeltas rest).dropLast, d.outputTokens = 0
  cacheCreationInputTokens : message.usage.cacheCreationInputTokens.getD 0 = 0 →
    ∀ count ∈ start.usage.cacheCreationInputTokens :: (messageDeltas rest).map (·.cacheCreationInputTokens), count.getD 0 = 0
  cacheReadInputTokens : message.usage.cacheReadInputTokens.getD 0 = 0 →
    ∀ count ∈ start.usage.cacheReadInputTokens :: (messageDeltas rest).map (·.cacheReadInputTokens), count.getD 0 = 0

variable [ToolInputs Input] {start : StartMessage} {rest : List Event} {message : Message Input}

/-- What the generator has in the end. -/
theorem rebuilt_eq (delivers : Delivers start rest message) {front : List MessageDelta} {last : MessageDelta}
    (deltas : messageDeltas rest = front ++ [last]) :
    ∃ text, (.messageStart start :: rest : List Event).foldl addChunk {} =
      { id := message.id
        model := message.model
        stopReason := last.stopReason.getD ""
        text
        inputTokens := start.usage.inputTokens
        outputTokens := start.usage.outputTokens + (front.map (·.outputTokens)).sum + message.usage.outputTokens
        cacheCreationInputTokens := ((messageDeltas rest).map (·.cacheCreationInputTokens)).foldl (fun old new => counted new old)
          (start.usage.cacheCreationInputTokens.getD 0)
        cacheReadInputTokens := ((messageDeltas rest).map (·.cacheReadInputTokens)).foldl (fun old new => counted new old)
          (start.usage.cacheReadInputTokens.getD 0) } := by
  obtain ⟨text, gathered⟩ := foldl_addChunk (addChunk {} (.messageStart start)) delivers.once
  have total : last.outputTokens = message.usage.outputTokens := delivers.outputTokens last (by simp [deltas])
  refine ⟨text, ?_⟩
  rw [List.foldl_cons, gathered, foldl_addDelta]
  simp [addChunk, deltas, delivers.identity, total, Nat.add_assoc]

omit [ToolInputs Input] in
theorem latest_ne {α : Type} {value : α} {values : List (Option α)} (never : ∀ v ∈ values, v ≠ some value) :
    latest none values ≠ some value := by
  induction values using List.reverseRecOn with
  | nil => simp [latest]
  | append_singleton values v ih =>
    have before := ih fun w member => never w (List.mem_append_left _ member)
    have here := never v (by simp)
    rw [latest, List.foldl_concat, ← latest]
    cases v with
    | none => simpa using before
    | some w => simpa using here
/-- The reason that the generator has is that of the last delta. -/
theorem stopReason_iff (delivers : Delivers start rest message) {front : List MessageDelta} {last : MessageDelta}
    (deltas : messageDeltas rest = front ++ [last]) :
    message.stopReason ≠ "" ∧ (last.stopReason.getD "" = message.stopReason ↔ last.stopReason ≠ none) := by
  have given := delivers.stopReason
  have reasons := delivers.reasons
  rw [deltas] at given reasons
  rw [List.map_append, List.map_singleton, latest, List.foldl_concat, ← latest] at given
  cases reason : last.stopReason with
  | some r =>
    obtain rfl : r = message.stopReason := by simpa [reason] using given
    refine ⟨?_, by simp⟩
    intro empty
    exact reasons last (by simp) (by rw [reason, empty])
  | none =>
    have nonempty : message.stopReason ≠ "" := by
      intro empty
      rw [reason, Option.none_or, empty] at given
      refine latest_ne ?_ given
      intro r member
      obtain ⟨d, inside, rfl⟩ := List.mem_map.mp member
      exact reasons d (List.mem_append_left _ inside)
    exact ⟨nonempty, iff_of_false (by simpa using nonempty.symm) (by simp)⟩

omit [ToolInputs Input] in
theorem text_eq_empty (content : List (Block Input)) :
    concat ((content.map Item.block).filterMap Item.text) = "" ↔ ∀ text, .text text ∈ content → text = "" := by
  rw [concat_eq_empty, List.filterMap_map]
  constructor
  · intro empty text member
    exact empty text (List.mem_filterMap.mpr ⟨.text text, member, rfl⟩)
  · intro empty text member
    obtain ⟨block, inside, said⟩ := List.mem_filterMap.mp member
    cases block with
    | text given =>
      cases said
      exact empty text inside
    | toolUse id name input => cases said

/-- A stream is recorded as its message exactly if the message uses no tool and, where content is traced, has no text,
    the last delta has the reason to stop, and of the counts none but the last is one of output tokens, and none is
    taken back. -/
theorem generator_agrees_iff (delivers : Delivers start rest message) (traceContent : Bool) (cost : String → Nat → Nat → Cost)
    (stringify : Input → String) :
    recordedStream traceContent cost stringify (.messageStart start :: rest) = recordedMessage traceContent cost stringify message ↔
      Recordable traceContent start rest message := by
  obtain ⟨front, last, deltas⟩ := (List.eq_nil_or_concat' (messageDeltas rest)).resolve_left delivers.ended
  obtain ⟨text, rebuilt⟩ := rebuilt_eq delivers deltas
  obtain ⟨-, reason⟩ := stopReason_iff delivers deltas
  have creation := counted_latest start.usage.cacheCreationInputTokens ((messageDeltas rest).map (·.cacheCreationInputTokens))
  have read := counted_latest start.usage.cacheReadInputTokens ((messageDeltas rest).map (·.cacheReadInputTokens))
  rw [← delivers.cacheCreationInputTokens] at creation
  rw [← delivers.cacheReadInputTokens] at read
  have uses : (message.content.map Item.block).filterMap Item.use = toolUses message.content := List.filterMap_map ..
  have texts := text_eq_empty message.content
  have output : start.usage.outputTokens + (front.map (·.outputTokens)).sum + message.usage.outputTokens = message.usage.outputTokens ↔
      start.usage.outputTokens = 0 ∧ ∀ d ∈ (messageDeltas rest).dropLast, d.outputTokens = 0 := by
    rw [deltas, List.dropLast_concat]
    simp [List.sum_eq_zero_iff]
  have final : (messageDeltas rest).getLast? = some last := by simp [deltas]
  rw [recordedStream, recordedMessage, rebuilt]
  simp only [messageCreateCommonSetter, uses, Rebuilt.result, Telemetry.mk.injEq, true_and]
  constructor
  · rintro ⟨-, input, output', -, creation', read', finish, -, type, messages⟩
    have noUses : toolUses message.content = [] := by
      by_contra used
      simp [Item.use, used] at type
    refine ⟨noUses, ?_, ?_, input, output.mp output', creation.mp (truthyCount_inj.mp creation'), read.mp (truthyCount_inj.mp read')⟩
    · intro tracing
      rw [← texts]
      simp only [tracing, if_true, Option.some.injEq, buildOutputMessages, Prod.mk.injEq] at messages
      have parts := messages.1
      generalize concat ((message.content.map Item.block).filterMap Item.text) = said at parts ⊢
      by_contra something
      simp [List.filterMap_cons, Item.text, Item.use, concat, truthyText, something, noUses] at parts
    · intro d given
      obtain rfl := Option.some.inj (final.symm.trans given)
      exact reason.mp (truthyText_inj.mp finish)
  · intro recordable
    have reasons := reason.mpr (recordable.stopReason last final)
    have counts := output.mpr recordable.outputTokens
    rw [recordable.inputTokens, counts, creation.mpr recordable.cacheCreationInputTokens, read.mpr recordable.cacheReadInputTokens,
      reasons, recordable.noUses]
    refine ⟨rfl, rfl, rfl, rfl, rfl, rfl, rfl, rfl, rfl, ?_⟩
    by_cases tracing : traceContent
    · rw [texts.mpr (recordable.noText tracing)]
      rfl
    · rw [if_neg tracing, if_neg tracing]

/-! A greeting in two deltas, whose tokens are counted at its start and at its end. -/

attribute [local instance] AnthropicStreams.noInputs
def greetingStart (outputTokens : Nat) : StartMessage := ⟨"msg_1", "claude-3-5-sonnet-latest", { inputTokens := 3, outputTokens }⟩
def greetingRest : List Event := AnthropicStreams.greetingRest
def greeting : Message Unit := ⟨"msg_1", "claude-3-5-sonnet-latest", [.text "Hello"], "end_turn", { inputTokens := 3, outputTokens := 2 }⟩
def price (_ : String) (inputTokens outputTokens : Nat) : Nat := inputTokens + outputTokens
def stringify (_ : Unit) : String := ""

theorem greeting_delivers (outputTokens : Nat) : Delivers (greetingStart outputTokens) greetingRest greeting where
  identity := ⟨rfl, rfl⟩
  once := (AnthropicStreams.greeting_delivers 0).once
  starts := rfl
  inOrder := rfl
  blocks := (AnthropicStreams.greeting_delivers 0).blocks
  indices := (AnthropicStreams.greeting_delivers 0).indices
  named := (AnthropicStreams.greeting_delivers 0).named
  unique := List.nodup_nil
  ended := (AnthropicStreams.greeting_delivers 0).ended
  reasons := (AnthropicStreams.greeting_delivers 0).reasons
  stopReason := rfl
  inputTokens := rfl
  outputTokens := (AnthropicStreams.greeting_delivers 0).outputTokens
  cacheReadInputTokens := rfl
  cacheCreationInputTokens := rfl

/-- The text is not traced, and nothing is counted at the start. -/
theorem untraced_greeting_agrees :
    recordedStream false price stringify (.messageStart (greetingStart 0) :: greetingRest) =
      recordedMessage false price stringify greeting := by
  refine (generator_agrees_iff (greeting_delivers 0) false price stringify).mpr ⟨rfl, by simp, ?_, rfl, ⟨rfl, ?_⟩, ?_, ?_⟩
  all_goals simp [greetingStart, greetingRest, AnthropicStreams.greetingRest, messageDeltas]
/-- The text is traced, and one token is counted at the start. -/
theorem greeting_lost : ¬ ∀ (start : StartMessage) (rest : List Event) (message : Message Unit), Delivers start rest message →
    recordedStream true price stringify (.messageStart start :: rest) = recordedMessage true price stringify message := by
  intro all
  have same := all (greetingStart 1) greetingRest greeting (greeting_delivers 1)
  have tokens := congrArg Telemetry.outputTokens same
  exact absurd tokens (by decide)

end Openlit.AnthropicGenerator
