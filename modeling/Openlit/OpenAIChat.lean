import Openlit.ChatCompletions
import Openlit.Python
import Openlit.Slots

/-!
What the Python SDK records of an OpenAI chat completion (`openai/utils.py`): of
a response (`process_chat_response`) and of a stream of chunks
(`process_chat_chunk`, then `process_streaming_chat_response`). Responses and
chunks are as `model_dump` gives them, so every field is there, and is `none`
where its type allows. Times, metrics and events are left out, and so is what the
request alone decides; the content of messages is captured.
-/
namespace Openlit.OpenAIChat
open Openlit.ChatCompletions Openlit.Python Openlit.Slots Openlit.Text

/-! ### Chunks and responses -/

structure FunctionDelta where
  name : Option String := none
  arguments : Option String := none
  deriving DecidableEq, Repr
structure ToolDelta where
  index : Nat
  id : Option String := none
  function : Option FunctionDelta := none
  type : Option String := none
  deriving DecidableEq, Repr
structure Delta where
  content : Option String := none
  toolCalls : Option (List ToolDelta) := none
  deriving DecidableEq, Repr
structure ChunkChoice where
  index : Nat
  delta : Delta := {}
  finishReason : Option String := none
  deriving DecidableEq, Repr
structure PromptTokensDetails where
  cachedTokens : Option Nat := none
  deriving DecidableEq, Repr
structure Usage where
  promptTokens : Nat
  completionTokens : Nat
  promptTokensDetails : Option PromptTokensDetails := none
  deriving DecidableEq, Repr
structure Chunk where
  id : String
  model : String
  choices : List ChunkChoice
  usage : Option Usage := none
  systemFingerprint : Option String := none
  serviceTier : Option String := none
  deriving DecidableEq, Repr

structure ToolCall where
  id : String
  name : String
  arguments : String
  deriving DecidableEq, Repr
structure Message where
  content : Option String := none
  toolCalls : Option (List ToolCall) := none
  deriving DecidableEq, Repr
structure Choice where
  message : Message
  finishReason : String
  deriving DecidableEq, Repr
structure ChatCompletion where
  id : String
  model : String
  choices : List Choice
  usage : Option Usage := none
  systemFingerprint : Option String := none
  serviceTier : Option String := none
  deriving DecidableEq, Repr

/-! ### What a stream accumulates -/

/-- A tool call as the stream keeps it. -/
structure Tool where
  id : String
  name : String
  arguments : String
  type : Option String
  deriving DecidableEq, Repr
/-- The fields of `TracedSyncStream`. An empty dict among the tools is `none`. -/
structure Scope where
  llmresponse : String := ""
  responseId : String := ""
  responseModel : String := ""
  finishReason : String := ""
  systemFingerprint : String := ""
  serviceTier : String := "auto"
  tools : Option (List (Option Tool)) := none
  deriving DecidableEq, Repr

/-- What a part of a call makes of the tool at its index. -/
def updateTool (called : Option Tool) (tool : ToolDelta) : Except PyError (Option Tool) :=
  match present tool.id with
  | some id =>
    match tool.function with
    | none => .error .attributeError
    | some func => .ok (some ⟨id, func.name.getD "", func.arguments.getD "", tool.type⟩)
  | none =>
    match called with
    | none => .ok none
    | some called =>
      match tool.function with
      | none => .error .attributeError
      | some func => .ok (some { called with arguments := called.arguments ++ func.arguments.getD "" })
/-- What the delta of a chunk's first choice does, as far as it comes. -/
def processDelta (scope : Scope) (delta : Delta) : Scope × Option PyError :=
  let scope := { scope with llmresponse := scope.llmresponse ++ delta.content.getD "" }
  match delta.toolCalls with
  | none | some [] => (scope, none)
  | some deltaTools =>
    let (tools, raised) := writeAll updateTool (·.index) (scope.tools.getD []) deltaTools
    ({ scope with tools := some tools }, raised)
def processChatChunk (scope : Scope) (chunk : Chunk) : Scope × Option PyError :=
  let (scope, raised) :=
    match chunk.choices with
    | [] => (scope, none)
    | first :: _ => processDelta scope first.delta
  match raised with
  | some e => (scope, some e)
  | none =>
    ({ scope with
        responseId := orElse chunk.id scope.responseId
        responseModel := orElse chunk.model scope.responseModel
        finishReason :=
          match chunk.choices with
          | [] => "stop"
          | first :: _ => orElse first.finishReason scope.finishReason
        systemFingerprint := orElse chunk.systemFingerprint scope.systemFingerprint
        serviceTier := orElse chunk.serviceTier scope.serviceTier }, none)
/-- The chunks until the one that raises. -/
def processChatChunks : Scope → List Chunk → Scope × Option PyError
  | scope, [] => (scope, none)
  | scope, chunk :: rest =>
    match processChatChunk scope chunk with
    | (scope, some e) => (scope, some e)
    | (scope, none) => processChatChunks scope rest

/-! ### What is recorded -/

/-- What the request says of the prompt, the tools and the price. -/
structure Request (Cost : Type) where
  prompt : String
  tools : Bool
  cost : Nat → Nat → Cost

structure ToolAttributes where
  name : String
  callId : String
  args : String
  deriving DecidableEq, Repr
/-- What a span has of a response. -/
structure Telemetry (Cost : Type) where
  responseId : Option String
  responseModel : String
  finishReason : String
  text : String
  tools : Option ToolAttributes
  inputTokens : Nat
  outputTokens : Nat
  cost : Cost
  deriving DecidableEq, Repr
structure Recorded (Cost : Type) extends Telemetry Cost where
  systemFingerprint : Option String
  serviceTier : Option String
  /-- The cached tokens, if they are set at all. -/
  cacheReadInputTokens : Option (Option Nat)
  deriving DecidableEq, Repr

/-- `", ".join(filter(None, texts))`. -/
def joinAll (texts : List String) : String := join (nonEmpty texts)
/-- The attributes of the tools, where none of them is set for a falsy list. What is unpacked is empty if no tool is left. -/
def toolAttributes (tools : Option (List (Option Tool))) : Except PyError (Option ToolAttributes) :=
  match tools with
  | none | some [] => .ok none
  | some tools =>
    match tools.reduceOption with
    | [] => .error .valueError
    | called => .ok (some ⟨joinAll (called.map (·.name)), joinAll (called.map (·.id)), joinAll (called.map (·.arguments))⟩)

variable {Cost : Type}

/-- `common_chat_logic`, with the tokens that the scope has. -/
def commonChatLogic (scope : Scope) (request : Request Cost) (tokens : Option (Nat × Nat))
    (cacheReadInputTokens : Option (Option Nat)) : Except PyError (Recorded Cost) :=
  let (inputTokens, outputTokens) :=
    match tokens.filter (·.1 ≠ 0) with
    | some tokens => tokens
    | none => (generalTokens request.prompt, generalTokens scope.llmresponse)
  match toolAttributes scope.tools with
  | .error e => .error e
  | .ok tools =>
    .ok
      { responseId := present (some scope.responseId)
        responseModel := scope.responseModel
        finishReason := scope.finishReason
        text := scope.llmresponse
        tools
        inputTokens
        outputTokens
        cost := request.cost inputTokens outputTokens
        systemFingerprint := present (some scope.systemFingerprint)
        serviceTier := present (some scope.serviceTier)
        cacheReadInputTokens }

/-- What is recorded of a stream that is iterated to its end. -/
def recordedStream (request : Request Cost) (chunks : List Chunk) : Except PyError (Recorded Cost) :=
  match processChatChunks {} chunks with
  | (_, some e) => .error e
  | (scope, none) => commonChatLogic scope request none none

def ToolCall.tool (call : ToolCall) : Option Tool := some ⟨call.id, call.name, call.arguments, none⟩
/-- The calls that are recorded if the request has tools. -/
def requestedTools (request : Request Cost) (response : ChatCompletion) : Except PyError (Option (List ToolCall)) :=
  if request.tools then
    match response.choices with
    | [] => .error .indexError
    | first :: _ => .ok first.message.toolCalls
  else .ok none
/-- The scope that `process_chat_response` fills. -/
def responseScope (response : ChatCompletion) (tools : Option (List ToolCall)) : Scope where
  llmresponse := " ".intercalate (response.choices.map fun choice => choice.message.content.getD "")
  responseId := response.id
  responseModel := response.model
  finishReason :=
    match response.choices with
    | [] => ""
    | first :: _ => first.finishReason
  systemFingerprint := response.systemFingerprint.getD ""
  serviceTier := response.serviceTier.getD ""
  tools := tools.map (·.map (·.tool))
/-- `process_chat_response`, which reads the usage and its details without a check. -/
def processChatResponse (request : Request Cost) (response : ChatCompletion) : Except PyError (Recorded Cost) :=
  match response.usage with
  | none => .error .attributeError
  | some usage =>
    match usage.promptTokensDetails with
    | none => .error .attributeError
    | some details =>
      match requestedTools request response with
      | .error e => .error e
      | .ok tools =>
        commonChatLogic (responseScope response tools) request (some (usage.promptTokens, usage.completionTokens))
          (some details.cachedTokens)

end Openlit.OpenAIChat
