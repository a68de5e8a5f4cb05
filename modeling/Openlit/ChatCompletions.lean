import Mathlib.Data.List.Basic

/-!
What the Go SDK records of an OpenAI chat completion: of a response
(`setResponseAttributes` of `instrumentor.go`) and of a stream of chunks
(`readStream` of `streaming.go`), with the types of `types.go`. Costs, times and
metrics are left out, and so are the log probabilities and the fields of a
request. A stream is one that no context cancels and whose lines the scanner reads.
-/
namespace Openlit.ChatCompletions

/-! ### Responses and chunks -/

structure ToolCall where
  id : String := ""
  type : String := ""
  name : String := ""
  arguments : String := ""
  deriving DecidableEq, Repr

structure CompletionTokensDetails where
  reasoningTokens : Int := 0
  audioTokens : Int := 0
  deriving DecidableEq, Repr
structure PromptTokensDetails where
  cachedTokens : Int := 0
  deriving DecidableEq, Repr
structure Usage where
  promptTokens : Int
  completionTokens : Int
  totalTokens : Int
  completionTokensDetails : Option CompletionTokensDetails := none
  promptTokensDetails : Option PromptTokensDetails := none
  deriving DecidableEq, Repr

structure ChatMessage where
  role : String
  content : String := ""
  toolCalls : List ToolCall := []
  deriving DecidableEq, Repr
structure ChatCompletionChoice where
  index : Nat
  message : ChatMessage
  finishReason : String := ""
  deriving DecidableEq, Repr
structure ChatCompletionResponse where
  id : String
  model : String
  choices : List ChatCompletionChoice
  usage : Option Usage := none
  systemFingerprint : String := ""
  serviceTier : String := ""
  deriving DecidableEq, Repr

/-- A part of a tool call as it is sent. Its index says which call of the choice it is a part of;
    `ToolCall` has no field for it. -/
structure ToolCallDelta extends ToolCall where
  index : Nat
  deriving DecidableEq, Repr

/-- `ChatMessageDelta`, with the calls that are sent or those that are decoded. -/
structure ChatMessageDelta (Call : Type) where
  role : String := ""
  content : String := ""
  toolCalls : List Call := []
  deriving DecidableEq, Repr
structure ChatCompletionChunkChoice (Call : Type) where
  index : Nat
  delta : ChatMessageDelta Call := {}
  finishReason : String := ""
  deriving DecidableEq, Repr
structure ChatCompletionChunk (Call : Type) where
  id : String
  model : String
  choices : List (ChatCompletionChunkChoice Call)
  usage : Option Usage := none
  systemFingerprint : String := ""
  serviceTier : String := ""
  deriving DecidableEq, Repr

abbrev SentChunk := ChatCompletionChunk ToolCallDelta

/-- `json.Unmarshal` of a chunk. -/
def unmarshal (chunk : SentChunk) : ChatCompletionChunk ToolCall :=
  { chunk with
    choices := chunk.choices.map fun choice =>
      { choice with delta := { choice.delta with toolCalls := choice.delta.toolCalls.map (·.toToolCall) } } }

/-! ### Spans -/

inductive Key
  | responseModel | responseID | responseFinishReasons
  | usageInputTokens | usageOutputTokens | usageTotalTokens
  | usageCompletionTokensDetailsAudio | usageCompletionTokensDetailsReasoning | usagePromptTokensDetailsCacheRead
  | completion | outputMessages
  | toolType | toolName | toolCallID | toolCallArguments
  | openAIResponseSystemFingerprint | openAIResponseServiceTier
  deriving DecidableEq, Repr

structure Message where
  role : String
  content : String
  deriving DecidableEq, Repr
/-- The value of an attribute. Messages stand for the JSON text of them. -/
inductive Value
  | string (value : String)
  | int (value : Int)
  | strings (values : List String)
  | messages (messages : List Message)
  deriving DecidableEq, Repr

/-- The attributes that are set, in order. -/
abbrev Span := List (Key × Value)

/-- A value that is set later takes the place of one that was set before. -/
def Span.get (span : Span) (key : Key) : Option Value := span.reverse.lookup key

def setStringAttribute (key : Key) (value : String) : Span := if value ≠ "" then [(key, .string value)] else []
def setIntAttribute (key : Key) (value : Int) : Span := [(key, .int value)]
def setStringSliceAttribute (key : Key) (values : List String) : Span := if values ≠ [] then [(key, .strings values)] else []
def setMessagesAttribute (key : Key) (messages : List Message) : Span :=
  if messages ≠ [] then [(key, .messages messages)] else []
def setPositive (key : Key) (value : Int) : Span := if 0 < value then setIntAttribute key value else []

/-! ### What is recorded of a response -/

def nonEmpty (texts : List String) : List String := texts.filter (· ≠ "")

/-- `strings.Join`. -/
def join (texts : List String) : String := ", ".intercalate texts
def toolCallAttributes (toolCalls : List ToolCall) : Span :=
  setStringAttribute .toolName (join (nonEmpty (toolCalls.map (·.name)))) ++
    setStringAttribute .toolCallID (join (nonEmpty (toolCalls.map (·.id)))) ++
    setStringSliceAttribute .toolCallArguments (nonEmpty (toolCalls.map (·.arguments))) ++
    setStringAttribute .toolType (join (nonEmpty (toolCalls.map (·.type))))
def usageAttributes (usage : Usage) : Span :=
  setIntAttribute .usageInputTokens usage.promptTokens ++ setIntAttribute .usageOutputTokens usage.completionTokens ++
    setIntAttribute .usageTotalTokens usage.totalTokens
def detailAttributes (usage : Usage) : Span :=
  (match usage.completionTokensDetails with
    | some details =>
      setPositive .usageCompletionTokensDetailsReasoning details.reasoningTokens ++
        setPositive .usageCompletionTokensDetailsAudio details.audioTokens
    | none => []) ++
  match usage.promptTokensDetails with
  | some details => setPositive .usagePromptTokensDetailsCacheRead details.cachedTokens
  | none => []
/-- `setResponseAttributes`, with the setting to capture the content of messages. -/
def setResponseAttributes (capture : Bool) (resp : ChatCompletionResponse) : Span :=
  setStringAttribute .responseID resp.id ++ setStringAttribute .responseModel resp.model ++
    setStringAttribute .openAIResponseSystemFingerprint resp.systemFingerprint ++
    setStringAttribute .openAIResponseServiceTier resp.serviceTier ++
    (match resp.choices with
      | [] => []
      | first :: _ =>
        setStringSliceAttribute .responseFinishReasons (nonEmpty (resp.choices.map (·.finishReason))) ++
          (if first.message.toolCalls ≠ [] then toolCallAttributes first.message.toolCalls else []) ++
          if capture then
            setMessagesAttribute .outputMessages
              (resp.choices.map fun choice => ⟨choice.message.role, choice.message.content⟩)
          else []) ++
    match resp.usage with
    | some usage => usageAttributes usage ++ detailAttributes usage
    | none => []

/-! ### What is recorded of a stream -/

/-- A line of the stream: one that is passed over, a chunk, data that is no chunk, or `[DONE]`. -/
inductive Line
  | skipped
  | data (chunk : SentChunk)
  | malformed
  | done
  deriving DecidableEq, Repr

/-- What the loop carries from line to line. -/
structure Reading where
  lastChunk : Option (ChatCompletionChunk ToolCall) := none
  accumulatedContent : String := ""

def Reading.next (reading : Reading) (chunk : ChatCompletionChunk ToolCall) : Reading where
  lastChunk := some chunk
  accumulatedContent :=
    match chunk.choices with
    | [] => reading.accumulatedContent
    | first :: _ => reading.accumulatedContent ++ first.delta.content

def readLines : List Line → Reading → Except String Reading
  | [], reading => pure reading
  | .skipped :: rest, reading => readLines rest reading
  | .done :: _, reading => pure reading
  | .malformed :: _, _ => throw "failed to parse chunk"
  | .data chunk :: rest, reading => readLines rest (reading.next (unmarshal chunk))

def lastChunkAttributes (chunk : ChatCompletionChunk ToolCall) : Span :=
  setStringAttribute .responseID chunk.id ++ setStringAttribute .responseModel chunk.model ++
    setStringAttribute .openAIResponseSystemFingerprint chunk.systemFingerprint ++
    setStringAttribute .openAIResponseServiceTier chunk.serviceTier ++
    (match chunk.usage with
      | some usage => usageAttributes usage
      | none => []) ++
    setStringSliceAttribute .responseFinishReasons (nonEmpty (chunk.choices.map (·.finishReason)))
def streamAttributes (capture : Bool) (reading : Reading) : Span :=
  (match reading.lastChunk with
    | some chunk => lastChunkAttributes chunk
    | none => []) ++
  if capture then setStringAttribute .completion reading.accumulatedContent else []
/-- `readStream`, which records nothing of a response after an error. -/
def readStream (capture : Bool) (lines : List Line) : Span :=
  match readLines lines {} with
  | .ok reading => streamAttributes capture reading
  | .error _ => []

end Openlit.ChatCompletions
