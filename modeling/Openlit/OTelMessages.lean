import Mathlib.Data.List.ReduceOption
import Openlit.OpenAIChat
import Openlit.PythonJson

/-!
The messages that the Python SDK captures of an OpenAI chat, in the structure of OpenTelemetry (`openai/utils.py`): those of the
request, `build_input_messages`, and the one of the response, `build_output_messages`. Messages, items of a content and tool calls
are dicts or objects, which are read alike, so each is a record of the fields that it has. The tool calls of the request's
messages are not read, and those of the response are read as if they were flat.
-/
namespace Openlit.OTelMessages
open Openlit.Python Openlit.PythonJson Openlit.Text
open OpenAIChat (ChatCompletion Choice Scope Tool responseScope)

/-! ### Lists of which entries may be left out -/

section
variable {α β : Type}

/-- Entries stand for those of another list, in their order, which may leave some out. -/
inductive Keeps (stands : α → β → Prop) (omits : α → Prop) : List α → List β → Prop
  | nil : Keeps stands omits [] []
  | kept {a : α} {b : β} {as : List α} {bs : List β} : stands a b → Keeps stands omits as bs → Keeps stands omits (a :: as) (b :: bs)
  | omitted {a : α} {as : List α} {bs : List β} : omits a → Keeps stands omits as bs → Keeps stands omits (a :: as) bs

variable {stands : α → β → Prop} {omits : α → Prop}

theorem keeps_filterMap {f : α → Option β} {l : List α} (some_stands : ∀ a ∈ l, ∀ b, f a = some b → stands a b)
    (none_omits : ∀ a ∈ l, f a = none → omits a) : Keeps stands omits l (l.filterMap f) := by
  induction l with
  | nil => exact .nil
  | cons a l ih =>
    have rest := ih (fun a' mem => some_stands a' (List.mem_cons_of_mem a mem)) fun a' mem => none_omits a' (List.mem_cons_of_mem a mem)
    cases made : f a with
    | none =>
      rw [List.filterMap_cons_none made]
      exact .omitted (none_omits a List.mem_cons_self made) rest
    | some b =>
      rw [List.filterMap_cons_some made]
      exact .kept (some_stands a List.mem_cons_self b made) rest
theorem Keeps.stands_or_omits {as : List α} {bs : List β} (keeps : Keeps stands omits as bs) :
    ∀ a ∈ as, omits a ∨ ∃ b ∈ bs, stands a b := by
  induction keeps with
  | nil => simp
  | @kept a b as bs stands _ ih =>
    intro a' mem
    rcases List.mem_cons.mp mem with rfl | mem
    · exact .inr ⟨b, List.mem_cons_self, stands⟩
    · exact (ih a' mem).imp_right fun ⟨b', mem', stands'⟩ => ⟨b', List.mem_cons_of_mem b mem', stands'⟩
  | omitted omits _ ih =>
    intro a' mem
    rcases List.mem_cons.mp mem with rfl | mem
    · exact .inl omits
    · exact ih a' mem
end

/-! ### Messages of a request and tool calls -/

/-- An `image_url`, with what it may have if it is a dict. -/
inductive ImageUrl where
  | text (url : String)
  | dict (url detail : Option String)
  | object (url : Option String)
/-- An item of a content, of any type. -/
structure Item where
  type : Option String := none
  text : Option String := none
  imageUrl : Option ImageUrl := none
  id : Option String := none
  name : Option String := none
  arguments : Option PyValue := none
inductive Content where
  | null
  | text (text : String)
  | list (items : List Item)
structure FunctionCall where
  name : String
  arguments : String
/-- A tool call, flat or with a function. -/
structure ToolCall where
  id : Option String := none
  name : Option String := none
  arguments : Option PyValue := none
  function : Option FunctionCall := none
structure Message where
  role : Option String := none
  content : Option Content := none
  toolCalls : List ToolCall := []
  toolCallId : Option String := none
  name : Option String := none
/-- The `messages` of a chat, or the `input` of the Responses API. -/
inductive Messages where
  | text (text : String)
  | list (messages : List Message)

/-! ### The structure of OpenTelemetry -/

inductive Part where
  | text (content : String)
  | image (uri : String)
  | toolCall (id name : String) (arguments : PyValue)
  | toolCallResponse (id response : String)
structure InputMessage where
  role : String
  parts : List Part
  name : Option String
structure OutputMessage where
  role : String
  parts : List Part
  finishReason : String

/-- `url.startswith("data:")`. -/
def IsData (url : String) : Prop := "data:".toList <+: url.toList
instance (url : String) : Decidable (IsData url) := inferInstanceAs (Decidable ("data:".toList <+: url.toList))

def textParts (text : String) : List Part := if text = "" then [] else [.text text]
def imageParts (url : String) : List Part := if url = "" ∨ IsData url then [] else [.image url]
/-- The URL of an `image_url`. Of a string that is the attribute `url`, which it has not. -/
def ImageUrl.url : ImageUrl → String
  | .text _ => ""
  | .dict url _ | .object url => url.getD ""
/-- An `input_image`, which must be a string, unless it is falsy. -/
def inputImageParts : ImageUrl → Except PyError (List Part)
  | .text url => .ok (imageParts url)
  | .dict none none => .ok []
  | .dict _ _ | .object _ => .error .attributeError
def itemParts (item : Item) : Except PyError (List Part) :=
  if item.type = some "text" then .ok (textParts (item.text.getD ""))
  else if item.type = some "image_url" then .ok (imageParts (item.imageUrl.getD (.dict none none)).url)
  else if item.type = some "input_text" then .ok (textParts (item.text.getD ""))
  else if item.type = some "input_image" then inputImageParts (item.imageUrl.getD (.text ""))
  else if item.type = some "tool_call" then
    .ok [.toolCall (item.id.getD "") (item.name.getD "") (item.arguments.getD (.dict []))]
  else .ok []
def contentParts : Content → Except PyError (List Part)
  | .null => .ok []
  | .text text => .ok (textParts text)
  | .list items => (items.mapM itemParts).map List.flatten

section
variable (str : List Item → String)

/-- A content as a tool's response, where `str` is for lists. -/
def toolContent : Content → String
  | .null => "None"
  | .text text => text
  | .list items => str items
/-- The parts of a message. The response of a tool takes the place of those that its content has. -/
def messageParts (message : Message) : Except PyError (List Part) := do
  let content := message.content.getD (.text "")
  let parts ← contentParts content
  if message.role.getD "user" = "tool" then pure [.toolCallResponse (message.toolCallId.getD "") (toolContent str content)]
  else pure parts
/-- A message that raises is left out, as is one without parts. -/
def inputMessage (message : Message) : Option InputMessage :=
  match messageParts str message with
  | .error _ | .ok [] => none
  | .ok parts => some { role := message.role.getD "user", parts, name := present message.name }
def buildInputMessages : Messages → List InputMessage
  | .text text => if text = "" then [] else [{ role := "user", parts := [.text text], name := none }]
  | .list messages => messages.filterMap (inputMessage str)
end

def finishReasons : List (String × String) :=
  [("stop", "stop"), ("length", "length"), ("content_filter", "content_filter"), ("tool_calls", "tool_call"),
    ("function_call", "tool_call")]

section
variable [Interpreter]

/-- The arguments, parsed if they are a string. -/
def parsedArguments : PyValue → PyValue
  | .str text =>
    match loads text with
    | .ok value => value
    | .error _ => .dict [(codes "raw", .str text)]
  | value => value
def callPart (call : ToolCall) : Part :=
  .toolCall (call.id.getD "") (call.name.getD "") (parsedArguments (call.arguments.getD (.dict [])))
def buildOutputMessages (responseText finishReason : String) (toolCalls : Option (List ToolCall)) : List OutputMessage :=
  [{ role := "assistant"
     parts := textParts responseText ++ (toolCalls.getD []).map callPart
     finishReason := (finishReasons.lookup finishReason).getD (orElse (some finishReason) "stop") }]

/-- A tool as the scope has it, a dict that is nested, or empty. -/
def toolDict : Option Tool → ToolCall
  | none => {}
  | some tool => { id := some tool.id, function := some ⟨tool.name, tool.arguments⟩ }
/-- The messages that `common_chat_logic` captures. -/
def capturedMessages (str : List Item → String) (messages : Messages) (scope : Scope) : List InputMessage × List OutputMessage :=
  (buildInputMessages str messages,
    buildOutputMessages scope.llmresponse scope.finishReason (scope.tools.map (·.map toolDict)))
end

/-! ### The messages of the chat API -/

inductive ContentPart where
  | text (text : String)
  | imageUrl (url : String) (detail : Option String)
  | inputAudio
  | file
  | refusal
inductive ChatContent where
  | null
  | text (text : String)
  | parts (items : List ContentPart)
structure Call where
  id : String
  function : FunctionCall
/-- Whose turn it is. Only an assistant calls tools, and only a tool answers a call. -/
inductive Turn where
  | system
  | developer
  | user
  | assistant (toolCalls : List Call)
  | tool (toolCallId : String)
/-- A message of a history. Its content may be left out. -/
structure ChatMessage where
  turn : Turn
  content : Option ChatContent := none
  name : Option String := none

def ContentPart.item : ContentPart → Item
  | .text content => { type := some "text", text := some content }
  | .imageUrl url detail => { type := some "image_url", imageUrl := some (.dict (some url) detail) }
  | .inputAudio => { type := some "input_audio" }
  | .file => { type := some "file" }
  | .refusal => { type := some "refusal" }
def ChatContent.content : ChatContent → Content
  | .null => .null
  | .text content => .text content
  | .parts items => .list (items.map (·.item))
def Call.toolCall (call : Call) : ToolCall := { id := some call.id, function := some call.function }
def Turn.role : Turn → String
  | .system => "system"
  | .developer => "developer"
  | .user => "user"
  | .assistant _ => "assistant"
  | .tool _ => "tool"
def Turn.toolCalls : Turn → List Call
  | .assistant toolCalls => toolCalls
  | _ => []
def Turn.toolCallId : Turn → Option String
  | .tool toolCallId => some toolCallId
  | _ => none
/-- A message as it is passed to the API. -/
def ChatMessage.message (message : ChatMessage) : Message where
  role := some message.turn.role
  content := message.content.map (·.content)
  toolCalls := message.turn.toolCalls.map (·.toolCall)
  toolCallId := message.turn.toolCallId
  name := message.name

/-! ### What should hold -/

/-- What there is of a part of a content. An empty string is no URL. -/
def ContentPart.piece : ContentPart → Option Part
  | .text content => if content = "" then none else some (.text content)
  | .imageUrl url _ => if url = "" ∨ IsData url then none else some (.image url)
  | .inputAudio | .file | .refusal => none
def ChatContent.listPieces : ChatContent → List Part
  | .null | .text _ => []
  | .parts items => items.filterMap (·.piece)
def ChatContent.pieces : ChatContent → List Part
  | .text content => (ContentPart.text content).piece.toList
  | content => content.listPieces
def ChatMessage.contentPieces (message : ChatMessage) : List Part := (message.content.map (·.pieces)).getD []
def ChatMessage.listPieces (message : ChatMessage) : List Part := (message.content.map (·.listPieces)).getD []

section
variable [Interpreter]

def functionPiece (id : String) (function : FunctionCall) : Part :=
  .toolCall id function.name (parsedArguments (.str (codes function.arguments)))
def Call.piece (call : Call) : Part := functionPiece call.id call.function
/-- The texts, images, tool calls and tool responses of a message. The text of a tool's content is its response. -/
def ChatMessage.pieces (response : String) (message : ChatMessage) : List Part :=
  match message.turn with
  | .assistant toolCalls => message.contentPieces ++ toolCalls.map (·.piece)
  | .tool toolCallId => .toolCallResponse toolCallId response :: message.listPieces
  | .system | .developer | .user => message.contentPieces
/-- A message with none of these. -/
def ChatMessage.Empty (message : ChatMessage) : Prop := ∀ response, message.pieces response = []
/-- A captured message has each of the pieces once, and a content that is a string as the response. -/
def Stands (message : ChatMessage) (input : InputMessage) : Prop :=
  input.role = message.turn.role ∧
    ∃ response, (∀ text, message.content = some (.text text) → response = text) ∧ input.parts.Perm (message.pieces response)

def toolPiece (tool : Tool) : Part := functionPiece tool.id ⟨tool.name, tool.arguments⟩
/-- The text and the tool calls of a response. An empty dict among the tools is no call. -/
def responsePieces (scope : Scope) : List Part :=
  (ContentPart.text scope.llmresponse).piece.toList ++ (scope.tools.getD []).reduceOption.map toolPiece
def Answers (scope : Scope) (outputs : List OutputMessage) : Prop :=
  ∃ output, outputs = [output] ∧ output.role = "assistant" ∧ output.parts.Perm (responsePieces scope)
/-- The messages of the history are captured in their order, except those with nothing in them, and so is the response. -/
def Captured (history : List ChatMessage) (scope : Scope) (captured : List InputMessage × List OutputMessage) : Prop :=
  Keeps Stands ChatMessage.Empty history captured.1 ∧ Answers scope captured.2

/-- A tool call without a name and arguments, which is captured as it is. -/
def Nameless (tool : Option Tool) : Prop :=
  ∃ call, tool = some call ∧ call.name = "" ∧ parsedArguments (.str (codes call.arguments)) = .dict []
end
/-- A message has pieces only where they are read: an assistant calls no tools, and the content of a tool is no list with texts
or images. -/
def ChatMessage.Plain (message : ChatMessage) : Prop :=
  match message.turn with
  | .assistant toolCalls => toolCalls = []
  | .tool _ => message.listPieces = []
  | .system | .developer | .user => True

/-! ### What is captured -/

theorem textParts_eq (text : String) : textParts text = (ContentPart.text text).piece.toList := by
  by_cases empty : text = "" <;> simp [textParts, ContentPart.piece, empty]
theorem imageParts_eq (url : String) (detail : Option String) : imageParts url = (ContentPart.imageUrl url detail).piece.toList := by
  by_cases none' : url = "" ∨ IsData url <;> simp [imageParts, ContentPart.piece, none']
theorem itemParts_item (part : ContentPart) : itemParts part.item = .ok part.piece.toList := by
  cases part with
  | text text => exact congrArg Except.ok (textParts_eq text)
  | imageUrl url detail => exact congrArg Except.ok (imageParts_eq url detail)
  | inputAudio | file | refusal => rfl
theorem mapM_itemParts (parts : List ContentPart) :
    (parts.map (·.item)).mapM itemParts = .ok (parts.map fun part => part.piece.toList) := by
  induction parts with
  | nil => rfl
  | cons part parts ih => rw [List.map_cons, List.mapM_cons, itemParts_item, ih]; rfl
theorem contentParts_content (content : ChatContent) : contentParts content.content = .ok content.pieces := by
  cases content with
  | null => rfl
  | text text => exact congrArg Except.ok (textParts_eq text)
  | parts parts =>
    have flat : (parts.map fun part => part.piece.toList).flatten = parts.filterMap (·.piece) := by
      rw [List.filterMap_eq_flatMap_toList, List.flatMap_def]
    change ((parts.map (·.item)).mapM itemParts).map List.flatten = _
    rw [mapM_itemParts]
    exact congrArg Except.ok flat

section
variable (str : List Item → String)

/-- The response that is captured of a tool. -/
def ChatMessage.response (message : ChatMessage) : String := toolContent str (message.message.content.getD (.text ""))
/-- What is captured of a message. -/
def ChatMessage.captured (message : ChatMessage) : List Part :=
  match message.turn with
  | .tool toolCallId => [.toolCallResponse toolCallId (message.response str)]
  | .system | .developer | .user | .assistant _ => message.contentPieces

theorem messageParts_message (message : ChatMessage) : messageParts str message.message = .ok (message.captured str) := by
  obtain ⟨turn, content, name⟩ := message
  have parts : contentParts ((content.map (·.content)).getD (.text "")) = .ok ((content.map (·.pieces)).getD []) := by
    cases content with
    | none => rfl
    | some content => exact contentParts_content content
  simp only [messageParts, ChatMessage.message, parts]
  cases turn <;> rfl
theorem inputMessage_message (message : ChatMessage) :
    inputMessage str message.message =
      if message.captured str = [] then none
      else some { role := message.turn.role, parts := message.captured str, name := present message.name } := by
  rw [inputMessage, messageParts_message]
  cases message.captured str <;> rfl
theorem response_text {message : ChatMessage} {text : String} (content : message.content = some (.text text)) :
    message.response str = text := by
  simp [ChatMessage.response, ChatMessage.message, content, ChatContent.content, toolContent]

theorem mem_buildInputMessages {history : List ChatMessage} {input : InputMessage}
    (built : input ∈ buildInputMessages str (.list (history.map (·.message)))) :
    ∃ message ∈ history, input.role = message.turn.role ∧ input.parts = message.captured str := by
  obtain ⟨_, raw, made⟩ := List.mem_filterMap.mp built
  obtain ⟨message, mem, rfl⟩ := List.mem_map.mp raw
  rw [inputMessage_message] at made
  split at made
  · cases made
  · obtain rfl := Option.some.inj made
    exact ⟨message, mem, rfl, rfl⟩
theorem contentPieces_no_call {message : ChatMessage} {id name : String} {arguments : PyValue} :
    Part.toolCall id name arguments ∉ message.contentPieces := by
  have not_piece : ∀ part : ContentPart, part.piece ≠ some (.toolCall id name arguments) := by
    intro part
    cases part <;> simp only [ContentPart.piece] <;> first | (split <;> simp) | simp
  intro mem
  unfold ChatMessage.contentPieces at mem
  cases content : message.content with
  | none => simp [content] at mem
  | some content' =>
    rw [content] at mem
    cases content' with
    | null => cases mem
    | text text => exact not_piece _ (Option.mem_toList.mp mem)
    | parts items =>
      obtain ⟨part, -, made⟩ := List.mem_filterMap.mp mem
      exact not_piece part made
theorem captured_no_call {message : ChatMessage} {id name : String} {arguments : PyValue} :
    Part.toolCall id name arguments ∉ message.captured str := by
  unfold ChatMessage.captured
  split
  · simp
  all_goals exact contentPieces_no_call

section
variable [Interpreter]

/-- What is captured of a plain message are its pieces. -/
theorem captured_plain {message : ChatMessage} (plain : message.Plain) :
    message.captured str = message.pieces (message.response str) := by
  obtain ⟨turn, content, name⟩ := message
  cases turn with
  | system | developer | user => rfl
  | assistant toolCalls =>
    obtain rfl : toolCalls = [] := plain
    exact (List.append_nil _).symm
  | tool toolCallId => exact congrArg (List.cons _) (Eq.symm plain)
theorem pieces_response {message : ChatMessage} {response other : String} (nothing : message.pieces response = []) :
    message.pieces other = [] := by
  obtain ⟨turn, content, name⟩ := message
  cases turn with
  | system | developer | user | assistant => exact nothing
  | tool toolCallId => cases nothing
/-- Each plain message is captured, or has nothing in it. -/
theorem keeps_of_plain {history : List ChatMessage} (plain : ∀ message ∈ history, message.Plain) :
    Keeps Stands ChatMessage.Empty history (buildInputMessages str (.list (history.map (·.message)))) := by
  change Keeps _ _ history ((history.map (·.message)).filterMap (inputMessage str))
  rw [List.filterMap_map]
  refine keeps_filterMap (fun message mem input made => ?_) fun message mem made => ?_
  all_goals
    rw [Function.comp_apply, inputMessage_message] at made
    split at made
  · cases made
  · obtain rfl := Option.some.inj made
    exact ⟨rfl, message.response str, fun text content => response_text str content,
      List.Perm.of_eq (captured_plain str (plain message mem))⟩
  · next nothing => exact fun _ => pieces_response ((captured_plain str (plain message mem)).symm.trans nothing)
  · cases made
/-- A message that has not been kept as it is had something where it is not read. -/
theorem plain_of_keeps {history : List ChatMessage}
    (keeps : Keeps Stands ChatMessage.Empty history (buildInputMessages str (.list (history.map (·.message)))))
    {message : ChatMessage} (mem : message ∈ history) : message.Plain := by
  rcases keeps.stands_or_omits message mem with empty | ⟨input, built, role, response, -, parts⟩
  · obtain ⟨turn, content, name⟩ := message
    cases turn with
    | system | developer | user => trivial
    | assistant toolCalls => exact List.map_eq_nil_iff.mp (List.append_eq_nil_iff.mp (empty "")).2
    | tool toolCallId => cases empty ""
  · obtain ⟨other, -, otherRole, captured⟩ := mem_buildInputMessages str built
    obtain ⟨turn, content, name⟩ := message
    cases turn with
    | system | developer | user => trivial
    | assistant toolCalls =>
      rcases toolCalls with _ | ⟨call, toolCalls⟩
      · rfl
      · -- The call would be among the parts, but no message is captured with one.
        have call_mem : call.piece ∈ input.parts := parts.symm.subset (List.mem_append_right _ List.mem_cons_self)
        rw [captured] at call_mem
        exact absurd call_mem (captured_no_call str)
    | tool toolCallId =>
      -- What is captured of a tool is its response alone.
      have single : input.parts.length = 1 := by
        rw [captured]
        obtain ⟨turn, content', name'⟩ := other
        cases turn with
        | system | developer | user | assistant => exact absurd (role.symm.trans otherRole) (by simp [Turn.role])
        | tool otherId => rfl
      have length := parts.length_eq
      rw [single, ChatMessage.pieces, List.length_cons] at length
      exact List.eq_nil_of_length_eq_zero (by omega)
theorem keeps_iff (history : List ChatMessage) :
    Keeps Stands ChatMessage.Empty history (buildInputMessages str (.list (history.map (·.message)))) ↔
      ∀ message ∈ history, message.Plain :=
  ⟨fun keeps _ mem => plain_of_keeps str keeps mem, keeps_of_plain str⟩
end
end

section
variable [Interpreter]

theorem callPart_toolDict (tool : Option Tool) :
    callPart (toolDict tool) = .toolCall ((tool.map (·.id)).getD "") "" (.dict []) := by
  cases tool <;> rfl
/-- The calls are captured as they are exactly if each looks like what is captured. -/
theorem calls_perm_iff (tools : List (Option Tool)) :
    (tools.map fun tool => callPart (toolDict tool)).Perm (tools.reduceOption.map toolPiece) ↔ ∀ tool ∈ tools, Nameless tool := by
  constructor
  · intro perm tool mem
    have all_some : tools.reduceOption.length = tools.length := by simpa using perm.length_eq.symm
    obtain ⟨call, rfl⟩ := Option.isSome_iff_exists.mp ((List.reduceOption_length_eq_iff.mp all_some) tool mem)
    have piece_mem : toolPiece call ∈ tools.map fun tool => callPart (toolDict tool) :=
      perm.symm.subset (List.mem_map_of_mem (List.reduceOption_mem_iff.mpr mem))
    obtain ⟨other, -, same⟩ := List.mem_map.mp piece_mem
    rw [callPart_toolDict] at same
    obtain ⟨-, name, arguments⟩ := Part.toolCall.inj same
    exact ⟨call, rfl, name.symm, arguments.symm⟩
  · intro nameless
    refine List.Perm.of_eq ?_
    induction tools with
    | nil => rfl
    | cons tool tools ih =>
      obtain ⟨call, rfl, name, arguments⟩ := nameless tool List.mem_cons_self
      have rest := ih fun tool mem => nameless tool (List.mem_cons_of_mem _ mem)
      rw [List.map_cons, rest, List.reduceOption_cons_of_some, List.map_cons, callPart_toolDict, toolPiece, functionPiece, name,
        arguments]
      rfl
theorem answers_iff (scope : Scope) :
    Answers scope (buildOutputMessages scope.llmresponse scope.finishReason (scope.tools.map (·.map toolDict))) ↔
      ∀ tool ∈ scope.tools.getD [], Nameless tool := by
  have calls : ((scope.tools.map (·.map toolDict)).getD []).map callPart =
      (scope.tools.getD []).map fun tool => callPart (toolDict tool) := by
    cases scope.tools <;> simp
  rw [← calls_perm_iff]
  simp only [Answers, buildOutputMessages, responsePieces, calls, textParts_eq, List.cons.injEq, and_true, exists_eq_left', true_and,
    List.perm_append_left_iff]

/-- A response with one choice is scoped with all that its message has. -/
theorem responsePieces_response {response : ChatCompletion} {choice : Choice} (single : response.choices = [choice]) :
    responsePieces (responseScope response choice.message.toolCalls) =
      (ContentPart.text (choice.message.content.getD "")).piece.toList ++
        (choice.message.toolCalls.getD []).map fun call => functionPiece call.id ⟨call.name, call.arguments⟩ := by
  have tools (calls : List OpenAIChat.ToolCall) : (calls.map (·.tool)).reduceOption.map toolPiece =
      calls.map fun call => functionPiece call.id ⟨call.name, call.arguments⟩ := by
    induction calls with
    | nil => rfl
    | cons call calls ih =>
      rw [List.map_cons, OpenAIChat.ToolCall.tool, List.reduceOption_cons_of_some, List.map_cons, ih]
      rfl
  have called : ((choice.message.toolCalls.map (·.map (·.tool))).getD []).reduceOption.map toolPiece =
      (choice.message.toolCalls.getD []).map fun call => functionPiece call.id ⟨call.name, call.arguments⟩ := by
    cases choice.message.toolCalls with
    | none => rfl
    | some calls => exact tools calls
  simp only [responsePieces, responseScope, single, List.map_cons, List.map_nil, called]
  rfl

/-- Everything of a chat is captured exactly if no message of an assistant has tool calls, no tool answers with a list that has
texts or images, and the tool calls of the response have neither a name nor arguments. -/
theorem captured_iff (str : List Item → String) (history : List ChatMessage) (scope : Scope) :
    Captured history scope (capturedMessages str (.list (history.map (·.message))) scope) ↔
      (∀ message ∈ history, message.Plain) ∧ ∀ tool ∈ scope.tools.getD [], Nameless tool :=
  and_congr (keeps_iff str history) (answers_iff scope)
end

@[reducible] def someLimits : Interpreter := { nesting := 900, maxDigits := some 4300 }
def someCall : Call := { id := "call_1", function := ⟨"get_weather", "\x7b\"city\": \"Oslo\"\x7d"⟩ }
/-- A question, and the call of a tool with no content beside it. -/
def someHistory : List ChatMessage :=
  [{ turn := .user, content := some (.text "Weather?") }, { turn := .assistant [someCall], content := some .null }]
def someScope : Scope :=
  { finishReason := "tool_calls", tools := some [some ⟨"call_2", "get_time", "\x7b\"zone\": \"CET\"\x7d", some "function"⟩] }
attribute [local instance] someLimits in
/-- The message that calls a tool is lost, and of the response's call the name and the arguments are. -/
theorem tool_calls_are_lost :
    capturedMessages (fun _ => "") (.list (someHistory.map (·.message))) someScope =
        ([{ role := "user", parts := [.text "Weather?"], name := none }],
          [{ role := "assistant", parts := [.toolCall "call_2" "" (.dict [])], finishReason := "tool_call" }]) ∧
      ¬ Captured someHistory someScope (capturedMessages (fun _ => "") (.list (someHistory.map (·.message))) someScope) := by
  refine ⟨rfl, fun ⟨keeps, _⟩ => ?_⟩
  have plain := plain_of_keeps (fun _ => "") keeps (List.mem_cons_of_mem _ List.mem_cons_self)
  cases plain

end Openlit.OTelMessages
