import Openlit.Python

/-!
What the Python SDK records of an Anthropic message (`anthropic/utils.py`): of a
whole message (`process_chat_response`) and of a stream of events
(`process_chunk`, then `process_streaming_chat_response`). Messages and events are
as `model_dump` gives them. Times, metrics and events of telemetry are left out,
and so is what the request alone decides; the content of messages is captured.
-/
namespace Openlit.AnthropicMessages
open Openlit.Python

/-- The inputs of tools: Python dicts, as JSON is read to them and as `str` writes them. -/
class ToolInputs (Input : Type) where
  parse : String → Option Input
  str : Input → String

/-! ### Messages and events -/

structure Usage where
  inputTokens : Nat
  outputTokens : Nat
  cacheCreationInputTokens : Option Nat := none
  cacheReadInputTokens : Option Nat := none
  deriving DecidableEq, Repr
inductive Block (Input : Type) where
  | text (text : String)
  | toolUse (id name : String) (input : Input)
  deriving DecidableEq, Repr
structure Message (Input : Type) where
  id : String
  model : String
  content : List (Block Input)
  stopReason : String
  usage : Usage
  deriving DecidableEq, Repr

structure StartMessage where
  id : String
  model : String
  usage : Usage
  deriving DecidableEq, Repr
/-- A block as it starts, without any content yet. -/
inductive ContentBlock where
  | text
  | toolUse (id name : String)
  deriving DecidableEq, Repr
inductive BlockDelta where
  | text (text : String)
  | inputJson (partialJson : String)
  deriving DecidableEq, Repr
structure MessageDelta where
  stopReason : Option String := none
  outputTokens : Nat
  inputTokens : Option Nat := none
  cacheCreationInputTokens : Option Nat := none
  cacheReadInputTokens : Option Nat := none
  deriving DecidableEq, Repr
inductive Event where
  | messageStart (message : StartMessage)
  | contentBlockStart (index : Nat) (contentBlock : ContentBlock)
  | contentBlockDelta (index : Nat) (delta : BlockDelta)
  | contentBlockStop (index : Nat)
  | messageDelta (delta : MessageDelta)
  | messageStop
  | ping
  deriving DecidableEq, Repr

/-! ### What a stream accumulates -/

/-- The fields of `TracedSyncStream`. -/
structure Scope where
  llmresponse : String := ""
  responseId : String := ""
  responseModel : String := ""
  finishReason : String := ""
  inputTokens : Nat := 0
  outputTokens : Nat := 0
  cacheReadInputTokens : Nat := 0
  cacheCreationInputTokens : Nat := 0
  toolArguments : String := ""
  toolId : String := ""
  toolName : String := ""
  deriving DecidableEq, Repr

def processChunk (scope : Scope) : Event → Scope
  | .messageStart message =>
    { scope with
      responseId := message.id
      inputTokens := message.usage.inputTokens
      cacheCreationInputTokens := message.usage.cacheCreationInputTokens.getD 0
      cacheReadInputTokens := message.usage.cacheReadInputTokens.getD 0
      responseModel := message.model }
  | .contentBlockDelta _ (.text text) => { scope with llmresponse := scope.llmresponse ++ text }
  | .contentBlockDelta _ (.inputJson partialJson) => { scope with toolArguments := scope.toolArguments ++ partialJson }
  | .contentBlockStart _ .text => scope
  | .contentBlockStart _ (.toolUse id name) =>
    { scope with toolId := orElse id scope.toolId, toolName := orElse name scope.toolName }
  | .messageDelta delta =>
    { scope with
      outputTokens := delta.outputTokens
      finishReason := orElse delta.stopReason scope.finishReason
      cacheCreationInputTokens := delta.cacheCreationInputTokens.getD 0
      cacheReadInputTokens := delta.cacheReadInputTokens.getD 0 }
  | .contentBlockStop _ | .messageStop | .ping => scope

/-! ### What is recorded -/

structure ToolAttributes where
  name : String
  callId : String
  args : String
  deriving DecidableEq, Repr
/-- What a span has of a message. A count that is `None` is not set. -/
structure Telemetry (Cost : Type) where
  responseId : Option String
  responseModel : String
  finishReason : String
  text : String
  tool : Option ToolAttributes
  inputTokens : Nat
  outputTokens : Nat
  cost : Cost
  cacheReadInputTokens : Option Nat
  cacheCreationInputTokens : Option Nat
  deriving DecidableEq, Repr

variable {Cost Input : Type}

/-- `common_chat_logic` with the price of the request's model. The input tokens are never `None`, so none are counted. -/
def commonChatLogic (cost : Nat → Nat → Cost) (scope : Scope) (tool : Option ToolAttributes)
    (cacheReadInputTokens cacheCreationInputTokens : Option Nat) : Telemetry Cost where
  responseId := Text.present (some scope.responseId)
  responseModel := scope.responseModel
  finishReason := scope.finishReason
  text := scope.llmresponse
  tool
  inputTokens := scope.inputTokens
  outputTokens := scope.outputTokens
  cost := cost scope.inputTokens scope.outputTokens
  cacheReadInputTokens
  cacheCreationInputTokens

/-- The call of a tool that `process_streaming_chat_response` puts together. -/
def streamedTool (scope : Scope) : Option ToolAttributes :=
  if scope.toolId ≠ "" then some ⟨scope.toolName, scope.toolId, scope.toolArguments⟩ else none
def processStreamingChatResponse (cost : Nat → Nat → Cost) (scope : Scope) : Telemetry Cost :=
  commonChatLogic cost scope (streamedTool scope) (some scope.cacheReadInputTokens) (some scope.cacheCreationInputTokens)
/-- What is recorded of a stream that is iterated to its end. -/
def recordedStream (cost : Nat → Nat → Cost) (events : List Event) : Telemetry Cost :=
  processStreamingChatResponse cost (events.foldl processChunk {})

/-- The first block that is a use of a tool. -/
def firstToolUse [ToolInputs Input] : List (Block Input) → Option ToolAttributes
  | [] => none
  | .text _ :: rest => firstToolUse rest
  | .toolUse id name input :: _ => some ⟨name, id, ToolInputs.str input⟩
/-- `process_chat_response`, which takes the text of the first block without a check that there is one. -/
def processChatResponse [ToolInputs Input] (cost : Nat → Nat → Cost) (response : Message Input) : Except PyError (Telemetry Cost) :=
  match response.content with
  | [] => .error .indexError
  | first :: _ =>
    let scope : Scope :=
      { llmresponse :=
          match first with
          | .text text => text
          | .toolUse _ _ _ => ""
        responseId := response.id
        responseModel := response.model
        finishReason := response.stopReason
        inputTokens := response.usage.inputTokens
        outputTokens := response.usage.outputTokens }
    .ok (commonChatLogic cost scope (firstToolUse response.content) response.usage.cacheReadInputTokens
      response.usage.cacheCreationInputTokens)

end Openlit.AnthropicMessages
