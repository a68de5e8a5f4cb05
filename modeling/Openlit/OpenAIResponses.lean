import Openlit.OpenAIChat

/-!
What the Python SDK records of a result of OpenAI's Responses API
(`openai/utils.py`): of a response (`process_response_response`) and of a stream
of events (`process_response_chunk`, then `process_streaming_response_response`).
Responses and events are as `model_dump` gives them. Times, metrics and events of
telemetry are left out, and so is what the request alone decides; the content of
messages is captured.
-/
namespace Openlit.OpenAIResponses
open Openlit.OpenAIChat Openlit.Python Openlit.Text

/-! ### Responses and events -/

structure FunctionCall where
  id : String
  callId : String
  name : String
  arguments : String
  deriving DecidableEq, Repr
inductive Part where
  | outputText (text : String)
  | refusal (refusal : String)
  deriving DecidableEq, Repr
inductive Item where
  | reasoning
  | message (content : List Part)
  | functionCall (call : FunctionCall)
  deriving DecidableEq, Repr
structure Usage where
  inputTokens : Nat
  outputTokens : Nat
  reasoningTokens : Nat := 0
  cachedTokens : Nat := 0
  deriving DecidableEq, Repr
structure Response where
  id : String
  model : String
  status : String
  output : List Item
  instructions : Option String := none
  usage : Option Usage := none
  serviceTier : Option String := none
  deriving DecidableEq, Repr

/-- The events that are read, those that end a stream, and all others. A delta of a text belongs to a part of an item. -/
inductive Event where
  | outputTextDelta (outputIndex contentIndex : Nat) (delta : String)
  | outputItemAdded (item : Item)
  | functionCallArgumentsDelta (itemId delta : String)
  | functionCallArgumentsDone (itemId arguments : String)
  | outputItemDone (item : Item)
  | completed (response : Response)
  | incomplete (response : Response)
  | other
  deriving DecidableEq, Repr

/-! ### What a stream accumulates -/

/-- The fields of `TracedSyncStream`. The cached tokens are set by the last event only. -/
structure Scope where
  llmresponse : String := ""
  responseId : String := ""
  responseModel : String := ""
  finishReason : String := ""
  instructions : Option String := none
  inputTokens : Nat := 0
  outputTokens : Nat := 0
  reasoningTokens : Nat := 0
  cacheReadInputTokens : Option Nat := none
  serviceTier : String := "default"
  responseTools : Option (List FunctionCall) := none
  deriving DecidableEq, Repr

/-- The first tool with an id is updated. -/
def updateTool (itemId : String) (update : FunctionCall → FunctionCall) : List FunctionCall → List FunctionCall
  | [] => []
  | tool :: rest => if tool.id = itemId then update tool :: rest else tool :: updateTool itemId update rest
def appendArguments (delta : String) (tool : FunctionCall) : FunctionCall := { tool with arguments := tool.arguments ++ delta }
def setArguments (arguments : String) (tool : FunctionCall) : FunctionCall := { tool with arguments }
/-- The final data of a tool. Its status is stored too, but never read. -/
def complete (call tool : FunctionCall) : FunctionCall :=
  { tool with callId := call.callId, name := call.name, arguments := call.arguments }

def processResponseChunk (scope : Scope) : Event → Scope × Option PyError
  | .outputTextDelta _ _ delta => ({ scope with llmresponse := scope.llmresponse ++ delta }, none)
  | .outputItemAdded item =>
    let tools := scope.responseTools.getD []
    match item with
    | .functionCall call => ({ scope with responseTools := some (tools ++ [call]) }, none)
    | _ => ({ scope with responseTools := some tools }, none)
  | .functionCallArgumentsDelta itemId delta =>
    ({ scope with responseTools := scope.responseTools.map (updateTool itemId (appendArguments delta)) }, none)
  | .functionCallArgumentsDone itemId arguments =>
    ({ scope with responseTools := scope.responseTools.map (updateTool itemId (setArguments arguments)) }, none)
  | .outputItemDone item =>
    match item with
    | .functionCall call => ({ scope with responseTools := scope.responseTools.map (updateTool call.id (complete call)) }, none)
    | _ => (scope, none)
  | .completed response =>
    let scope :=
      { scope with
        responseId := orElse response.id scope.responseId
        responseModel := orElse response.model scope.responseModel
        finishReason := response.status
        instructions := present response.instructions }
    match response.usage with
    | none => (scope, some .attributeError)
    | some usage =>
      ({ scope with
          inputTokens := usage.inputTokens
          outputTokens := usage.outputTokens
          reasoningTokens := usage.reasoningTokens
          cacheReadInputTokens := some usage.cachedTokens }, none)
  | .incomplete _ | .other => (scope, none)
/-- The events until the one that raises. -/
def processResponseChunks : Scope → List Event → Scope × Option PyError
  | scope, [] => (scope, none)
  | scope, event :: rest =>
    match processResponseChunk scope event with
    | (scope, some e) => (scope, some e)
    | (scope, none) => processResponseChunks scope rest

/-! ### What is recorded -/

structure Telemetry (Cost : Type) where
  responseId : Option String
  responseModel : String
  status : String
  text : String
  tools : Option ToolAttributes
  inputTokens : Nat
  outputTokens : Nat
  cost : Cost
  reasoningTokens : Option Nat
  cacheReadInputTokens : Option Nat
  instructions : Option String
  deriving DecidableEq, Repr
structure Recorded (Cost : Type) extends Telemetry Cost where
  serviceTier : Option String
  deriving DecidableEq, Repr

def toolAttributes (tools : List FunctionCall) : Option ToolAttributes :=
  if tools = [] then none
  else some ⟨joinAll (tools.map (·.name)), joinAll (tools.map (·.callId)), joinAll (tools.map (·.arguments))⟩

variable {Cost : Type}

/-- `common_response_logic`. -/
def commonResponseLogic (scope : Scope) (prompt : String) (cost : Nat → Nat → Cost) : Recorded Cost :=
  let (inputTokens, outputTokens) :=
    if scope.inputTokens ≠ 0 then (scope.inputTokens, scope.outputTokens)
    else (generalTokens prompt, generalTokens scope.llmresponse)
  { responseId := present (some scope.responseId)
    responseModel := scope.responseModel
    status := scope.finishReason
    text := scope.llmresponse
    tools := toolAttributes (scope.responseTools.getD [])
    inputTokens
    outputTokens
    cost := cost inputTokens outputTokens
    reasoningTokens := if 0 < scope.reasoningTokens then some scope.reasoningTokens else none
    cacheReadInputTokens := scope.cacheReadInputTokens
    instructions := scope.instructions
    serviceTier := present (some scope.serviceTier) }

/-- What is recorded of a stream that is iterated to its end. -/
def recordedStream (prompt : String) (cost : Nat → Nat → Cost) (events : List Event) : Except PyError (Recorded Cost) :=
  match processResponseChunks {} events with
  | (_, some e) => .error e
  | (scope, none) => .ok (commonResponseLogic scope prompt cost)

def Part.text : Part → String
  | .outputText text => text
  | .refusal _ => ""
/-- The content of the first message, and the last call before it. -/
def scanOutput (tool : Option FunctionCall) : List Item → Option (List Part) × Option FunctionCall
  | [] => (none, tool)
  | .message content :: _ => (some content, tool)
  | .functionCall call :: rest => scanOutput (some call) rest
  | .reasoning :: rest => scanOutput tool rest
def firstText (content : Option (List Part)) : String :=
  match content with
  | some (part :: _) => part.text
  | _ => ""
/-- `process_response_response`, which reads the usage without a check. -/
def processResponseResponse (prompt : String) (cost : Nat → Nat → Cost) (response : Response) : Except PyError (Recorded Cost) :=
  let (content, tool) := scanOutput none response.output
  match response.usage with
  | none => .error .attributeError
  | some usage =>
    let scope : Scope :=
      { llmresponse := firstText content
        responseId := response.id
        responseModel := response.model
        finishReason := response.status
        instructions := present response.instructions
        inputTokens := usage.inputTokens
        outputTokens := usage.outputTokens
        reasoningTokens := usage.reasoningTokens
        cacheReadInputTokens := some usage.cachedTokens
        serviceTier := response.serviceTier.getD ""
        responseTools := tool.map fun call => [call] }
    .ok (commonResponseLogic scope prompt cost)

end Openlit.OpenAIResponses
