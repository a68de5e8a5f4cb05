import Openlit.ChatGenerator
import Openlit.OpenAIResponseStreams

/-!
What the TypeScript SDK records of a result of OpenAI's Responses API
(`openai/wrapper.ts`), of a whole one and of a stream of events. The setter reads
the calls from the tools of the request, which a response repeats; the generator
puts together the calls that were made, but as output, where no call is read.
-/
namespace Openlit.ResponseGenerator
open Openlit.ChatGenerator (Settings buildOutputMessages)
open Openlit.ChatStreams (concat concat_nil concat_cons concat_append)
open Openlit.OpenAIResponses (FunctionCall Item Usage Response Event updateTool appendArguments)
open Openlit.OpenAIResponseStreams (textDeltas assembledAt assembledAt_eq partAt isTerminal)
open Openlit.Text Openlit.Truthy

/-! ### The setter -/

/-- A tool of the request, with what is read of it. -/
structure Tool where
  type : String
  name : String := ""
  callId : String := ""
  arguments : String := ""
  deriving DecidableEq, Repr
/-- The response that the setter is given. -/
structure Result extends Response where
  tools : List Tool := []
  deriving DecidableEq, Repr

structure ToolAttributes where
  names : Option String
  callIds : Option String
  args : Option String
  deriving DecidableEq
/-- What a span has of a response. -/
structure Telemetry (Cost Arguments : Type) where
  responseId : String
  model : String
  cost : Cost
  inputTokens : Nat
  outputTokens : Nat
  totalTokens : Nat
  reasoningTokens : Option Nat
  finishReason : String
  tools : ToolAttributes
  outputMessages : Option (List (ChatGenerator.Part Arguments) × String)
  deriving DecidableEq
structure Recorded (Cost Arguments : Type) extends Telemetry Cost Arguments where
  serviceTier : Option String
  toolTypes : Option String
  deriving DecidableEq

variable {Cost Arguments : Type}

def contentOf : Item → List OpenAIResponses.Part
  | .message content => content
  | _ => []
def completionText (output : List Item) : String := concat ((output.flatMap contentOf).map (·.text))
def responsesCommonSetter (settings : Settings Cost Arguments) (result : Result) : Recorded Cost Arguments :=
  let model := (truthyText result.model).getD "gpt-4o"
  let usage := result.usage.getD ⟨0, 0, 0, 0⟩
  { responseId := result.id
    model
    cost := settings.cost model usage.inputTokens usage.outputTokens
    inputTokens := usage.inputTokens
    outputTokens := usage.outputTokens
    totalTokens := usage.inputTokens + usage.outputTokens
    reasoningTokens := truthyCount usage.reasoningTokens
    finishReason := (truthyText result.status).getD "completed"
    tools :=
      { names := joined (result.tools.map (·.name))
        callIds := joined (result.tools.map (·.callId))
        args := joined (result.tools.map (·.arguments)) }
    outputMessages :=
      if settings.traceContent then
        some (buildOutputMessages settings (completionText result.output) ((truthyText result.status).getD "stop") [])
      else none
    serviceTier := present result.serviceTier
    toolTypes := joined (result.tools.map (·.type)) }

/-! ### The generator -/

/-- The `result` of the generator, with `llmResponse` and `responseTools`. -/
structure Rebuilt where
  id : String := ""
  model : String := ""
  status : String := "completed"
  usage : Usage := ⟨0, 0, 0, 0⟩
  llmResponse : String := ""
  responseTools : List FunctionCall := []
  deriving DecidableEq, Repr
/-- The body of the loop of `_responsesGenerator`. -/
def addEvent (result : Rebuilt) : Event → Rebuilt
  | .outputTextDelta _ _ delta => { result with llmResponse := result.llmResponse ++ delta }
  | .outputItemAdded (.functionCall call) => { result with responseTools := result.responseTools ++ [call] }
  | .functionCallArgumentsDelta itemId delta =>
    { result with responseTools := updateTool itemId (appendArguments delta) result.responseTools }
  | .completed response =>
    let usage := response.usage.getD ⟨0, 0, 0, 0⟩
    { result with
      id := response.id
      model := response.model
      status := response.status
      usage := ⟨usage.inputTokens, usage.outputTokens, usage.reasoningTokens, 0⟩ }
  | _ => result
def Rebuilt.result (rebuilt : Rebuilt) : Result where
  id := rebuilt.id
  model := rebuilt.model
  status := rebuilt.status
  output := (truthyText rebuilt.llmResponse).toList.map (fun text => .message [.outputText text]) ++ rebuilt.responseTools.map .functionCall
  usage := some rebuilt.usage
  serviceTier := some "default"
/-- What is recorded of a stream that is iterated to its end. -/
def recordedStream (settings : Settings Cost Arguments) (events : List Event) : Recorded Cost Arguments :=
  responsesCommonSetter settings (events.foldl addEvent {}).result

/-! ### What a stream delivers -/

/-- A stream that delivers a response, whatever its status. Of one that is not completed there are other events at the end. -/
structure Delivers (body : List Event) (last : Event) (response : Result) : Prop where
  output : OpenAIResponseStreams.Delivers body { response.toResponse with status := "completed" }
  known : response.status ≠ ""
  completed : response.status = "completed" → last = .completed response.toResponse
  otherwise : response.status ≠ "completed" → last = .incomplete response.toResponse ∨ last = .other
/-- The responses, and the ways to deliver them, of which a stream records everything. -/
structure Recordable (traceContent : Bool) (body : List Event) (response : Result) : Prop where
  completed : response.status = "completed"
  tools : ∀ tool ∈ response.tools, tool.name = "" ∧ tool.callId = "" ∧ tool.arguments = ""
  texts : traceContent → concat ((textDeltas body).map (·.2)) = completionText response.output

variable {body : List Event} {last : Event} {response : Result}

/-! ### When both record the same -/

theorem foldl_addEvent (unfinished : ∀ e ∈ body, isTerminal e = false) :
    ∃ responseTools, body.foldl addEvent {} = { llmResponse := concat ((textDeltas body).map (·.2)), responseTools } := by
  induction body using List.reverseRecOn with
  | nil => exact ⟨[], rfl⟩
  | append_singleton body e ih =>
    rw [List.forall_mem_append] at unfinished
    obtain ⟨tools, before⟩ := ih unfinished.1
    have here := unfinished.2 e (by simp)
    have appended : textDeltas (body ++ [e]) = textDeltas body ++ textDeltas [e] := List.filterMap_append
    rw [List.foldl_concat, before, appended, List.map_append, concat_append]
    cases e with
    | outputTextDelta i c delta => exact ⟨tools, by simp [addEvent, textDeltas]⟩
    | outputItemAdded item =>
      cases item with
      | functionCall call => exact ⟨tools ++ [call], by simp [addEvent, textDeltas]⟩
      | reasoning => exact ⟨tools, by simp [addEvent, textDeltas]⟩
      | message content => exact ⟨tools, by simp [addEvent, textDeltas]⟩
    | functionCallArgumentsDelta itemId delta => exact ⟨updateTool itemId (appendArguments delta) tools, by simp [addEvent, textDeltas]⟩
    | functionCallArgumentsDone itemId arguments => exact ⟨tools, by simp [addEvent, textDeltas]⟩
    | outputItemDone item => exact ⟨tools, by simp [addEvent, textDeltas]⟩
    | completed response => simp [isTerminal] at here
    | incomplete response => simp [isTerminal] at here
    | other => exact ⟨tools, by simp [addEvent, textDeltas]⟩
/-- Of what the generator has only the text is read. -/
theorem completionText_result (rebuilt : Rebuilt) : completionText rebuilt.result.output = rebuilt.llmResponse := by
  have calls (tools : List FunctionCall) : (tools.map Item.functionCall).flatMap contentOf = [] := by
    simp [List.flatMap_map, contentOf]
  rw [completionText, Rebuilt.result, List.flatMap_append, calls, List.append_nil]
  by_cases empty : rebuilt.llmResponse = "" <;> simp [truthyText, empty, contentOf, OpenAIResponses.Part.text]
theorem buildOutputMessages_inj (settings : Settings Cost Arguments) {a b finishReason : String} :
    buildOutputMessages settings a finishReason [] = buildOutputMessages settings b finishReason [] ↔ a = b := by
  constructor
  · intro same
    have parts := congrArg Prod.fst same
    simp only [buildOutputMessages, List.map_nil, List.append_nil] at parts
    unfold truthyText at parts
    by_cases left : a = "" <;> by_cases right : b = ""
    · rw [left, right]
    · simp [left, right] at parts
    · simp [left, right] at parts
    · simpa [left, right] using parts
  · rintro rfl
    rfl

/-- A stream is recorded as its response exactly if the response is completed and repeats no tool with a name,
    and the text is delivered in order if it is traced. -/
theorem response_agrees_iff (delivers : Delivers body last response) (settings : Settings Cost Arguments) :
    (recordedStream settings (body ++ [last])).toTelemetry = (responsesCommonSetter settings response).toTelemetry ↔
      Recordable settings.traceContent body response := by
  obtain ⟨responseTools, gathered⟩ := foldl_addEvent delivers.output.unfinished
  rw [recordedStream, List.foldl_concat, gathered]
  by_cases completed : response.status = "completed"
  · have silent : joined ([] : List String) = none := rfl
    rw [delivers.completed completed]
    simp only [responsesCommonSetter, completionText_result, Telemetry.mk.injEq, ToolAttributes.mk.injEq]
    simp only [addEvent, Rebuilt.result, List.map_nil, silent, Option.getD_some, true_and]
    constructor
    · rintro ⟨⟨names, callIds, args⟩, messages⟩
      refine ⟨completed, fun tool member => ?_, fun tracing => ?_⟩
      · exact ⟨joined_eq_none.mp names.symm _ (List.mem_map_of_mem member),
          joined_eq_none.mp callIds.symm _ (List.mem_map_of_mem member), joined_eq_none.mp args.symm _ (List.mem_map_of_mem member)⟩
      · rw [if_pos tracing, if_pos tracing, Option.some.injEq] at messages
        exact (buildOutputMessages_inj settings).mp messages
    · intro recordable
      have none (field : Tool → String) (empty : ∀ tool ∈ response.tools, field tool = "") :
          joined (response.tools.map field) = none :=
        joined_eq_none.mpr (List.forall_mem_map.mpr empty)
      rw [none _ fun tool member => (recordable.tools tool member).1, none _ fun tool member => (recordable.tools tool member).2.1,
        none _ fun tool member => (recordable.tools tool member).2.2]
      refine ⟨⟨rfl, rfl, rfl⟩, ?_⟩
      by_cases tracing : settings.traceContent
      · rw [recordable.texts tracing]
      · rw [if_neg tracing, if_neg tracing]
  · refine iff_of_false ?_ fun recordable => completed recordable.completed
    intro same
    have finish := congrArg Telemetry.finishReason same
    have status : (truthyText response.status).getD "completed" = response.status := by simp [truthyText, delivers.known]
    have unread (rebuilt : Rebuilt) : addEvent rebuilt last = rebuilt := by
      rcases delivers.otherwise completed with rfl | rfl <;> rfl
    simp only [responsesCommonSetter, status, unread] at finish
    exact completed finish.symm

/-! ### Text in order -/

/-- A part comes before another one in the response. -/
def Before (a b : Nat × Nat) : Prop := a.1 < b.1 ∨ a.1 = b.1 ∧ a.2 < b.2
/-- No delta is sent after one of a part that comes later. -/
def InOrder (body : List Event) : Prop := (textDeltas body).Pairwise fun a b => ¬ Before b.1 a.1

def contentAt (output : List Item) (i : Nat) : List OpenAIResponses.Part := (output[i]?.map contentOf).getD []
/-- The positions of all parts. -/
def positions (output : List Item) : List (Nat × Nat) :=
  (List.range output.length).flatMap fun i => (List.range (contentAt output i).length).map (i, ·)

theorem partAt_eq (output : List Item) (i c : Nat) : partAt output i c = (contentAt output i)[c]? := by
  unfold partAt contentAt
  cases output[i]? with
  | none => rfl
  | some item => cases item <;> rfl
theorem mem_positions (output : List Item) (p : Nat × Nat) : p ∈ positions output ↔ (partAt output p.1 p.2).isSome = true := by
  obtain ⟨i, c⟩ := p
  have known : ((contentAt output i)[c]?).isSome = true ↔ c < (contentAt output i).length := by simp
  rw [partAt_eq, known]
  simp only [positions, List.mem_flatMap, List.mem_range, List.mem_map, Prod.mk.injEq]
  constructor
  · rintro ⟨_, -, _, inside, rfl, rfl⟩
    exact inside
  · intro inside
    refine ⟨i, ?_, c, inside, rfl, rfl⟩
    by_contra outside
    rw [contentAt, List.getElem?_eq_none (by omega)] at inside
    exact absurd inside (Nat.not_lt_zero c)
theorem positions_sorted (output : List Item) : (positions output).Pairwise Before := by
  rw [positions, List.pairwise_flatMap]
  constructor
  · intro i _
    rw [List.pairwise_map]
    exact List.pairwise_lt_range.imp fun less => .inr ⟨rfl, less⟩
  · refine List.pairwise_lt_range.imp fun less a here b there => ?_
    obtain ⟨_, -, rfl⟩ := List.mem_map.mp here
    obtain ⟨_, -, rfl⟩ := List.mem_map.mp there
    exact .inl less
theorem completionText_eq (output : List Item) :
    completionText output = concat ((positions output).map fun p => ((partAt output p.1 p.2).map (·.text)).getD "") := by
  have items : output.flatMap contentOf = (List.range output.length).flatMap (contentAt output) := by
    have each : output.map contentOf = (List.range output.length).map (contentAt output) := by
      refine List.ext_getElem (by simp) fun i inside _ => ?_
      rw [List.length_map] at inside
      simp [contentAt, inside]
    rw [List.flatMap_def, List.flatMap_def, each]
  have parts (content : List OpenAIResponses.Part) :
      content.map (·.text) = (List.range content.length).map fun c => (content[c]?.map (·.text)).getD "" := by
    refine List.ext_getElem (by simp) fun c inside _ => ?_
    rw [List.length_map] at inside
    simp [inside]
  rw [completionText, items, positions, List.map_flatMap, List.map_flatMap]
  refine congrArg concat (List.flatMap_congr fun i _ => ?_)
  rw [parts, List.map_map]
  simp [Function.comp_def, partAt_eq]
/-- Deltas that are sent in order are put together to the text of the response. -/
theorem texts_of_inOrder (delivers : Delivers body last response) (inOrder : InOrder body) :
    concat ((textDeltas body).map (·.2)) = completionText response.output := by
  have whole := Fragments.flatMap_filter_of_inOrder (fun a => by unfold Before; omega) (positions_sorted response.output) inOrder
    fun d member => (mem_positions response.output d.1).mpr (delivers.output.inside d member)
  have concats (places : List (Nat × Nat)) (texts : Nat × Nat → List String) :
      concat (places.flatMap texts) = concat (places.map fun place => concat (texts place)) := by
    induction places with
    | nil => rfl
    | cons place places ih => simp [ih]
  rw [completionText_eq, ← whole, List.map_flatMap, concats]
  exact congrArg concat (List.map_congr_left fun place _ => assembledAt_eq delivers.output place.1 place.2)

/-! ### Both interfaces -/

/-- A chat completion that is delivered with the first choice first, as one with a single choice is, is recorded as the whole one
    exactly if each of its calls has begun and its usage is what is counted. A response is recorded as the whole one exactly if it
    is completed, repeats no tool with a name, and has the text of its deltas if that is traced, as it has if they come in order. -/
theorem generators_agree_iff (settings : Settings Cost Arguments) :
    (∀ (request : ChatGenerator.Request) (body : List ChatGenerator.Chunk) (last : ChatGenerator.Chunk)
        (response : ChatGenerator.ChatCompletion), ChatGenerator.Delivers body last response →
      (ChatGenerator.FirstOnly body →
        (ChatGenerator.Agrees (ChatGenerator.recordedStream settings request (body ++ [last]))
            (ChatGenerator.chatCompletionCommonSetter settings response) ↔
          ChatGenerator.Recordable request body response)) ∧
        (response.choices.length = 1 → ChatGenerator.FirstOnly body)) ∧
      ∀ (body : List Event) (last : Event) (response : Result), Delivers body last response →
        ((recordedStream settings (body ++ [last])).toTelemetry = (responsesCommonSetter settings response).toTelemetry ↔
            Recordable settings.traceContent body response) ∧
          (InOrder body → concat ((textDeltas body).map (·.2)) = completionText response.output) := by
  constructor
  · intro request body last response delivers
    refine ⟨fun firstOnly => ?_, ?_⟩
    · exact ChatGenerator.chat_agrees_iff delivers firstOnly settings request
    · exact ChatGenerator.firstOnly_of_single delivers
  · intro body last response delivers
    exact ⟨response_agrees_iff delivers settings, texts_of_inOrder delivers⟩

/-! The answer of the Responses API, to a request with tools. -/

def answer (tools : List Tool) : Result := { OpenAIResponseStreams.answer "completed" with tools }

theorem answer_delivers (tools : List Tool) :
    Delivers OpenAIResponseStreams.answerBody (.completed (OpenAIResponseStreams.answer "completed")) (answer tools) where
  output := OpenAIResponseStreams.answer_delivers (.inl rfl)
  known := by simp [answer, OpenAIResponseStreams.answer]
  completed _ := rfl
  otherwise other := absurd rfl other
theorem answer_recordable : Recordable true OpenAIResponseStreams.answerBody (answer []) where
  completed := rfl
  tools := by simp [answer]
  texts _ := rfl

/-- The answers whose usage is counted as it is, and that repeat no tool. -/
theorem counted_answers_agree :
    ChatGenerator.Agrees (ChatGenerator.recordedStream ChatGenerator.plainSettings ChatGenerator.askedRequest
          (ChatGenerator.answerBody ++ [ChatGenerator.answerLast ⟨1, 2, 3, 0, 0, 0, 0⟩]))
        (ChatGenerator.chatCompletionCommonSetter ChatGenerator.plainSettings (ChatGenerator.answer ⟨1, 2, 3, 0, 0, 0, 0⟩)) ∧
      (recordedStream ChatGenerator.plainSettings
            (OpenAIResponseStreams.answerBody ++ [.completed (OpenAIResponseStreams.answer "completed")])).toTelemetry =
        (responsesCommonSetter ChatGenerator.plainSettings (answer [])).toTelemetry := by
  obtain ⟨chat, responses⟩ := generators_agree_iff ChatGenerator.plainSettings
  obtain ⟨agrees, firstOnly⟩ := chat ChatGenerator.askedRequest _ _ _ (ChatGenerator.answer_delivers ⟨1, 2, 3, 0, 0, 0, 0⟩)
  exact ⟨(agrees (firstOnly rfl)).mpr ChatGenerator.answer_recordable, (responses _ _ _ (answer_delivers [])).1.mpr answer_recordable⟩
/-- The usage that is sent is not read, and the tools that a response repeats are not sent to the setter. -/
theorem answers_lost :
    (ChatGenerator.Delivers ChatGenerator.answerBody (ChatGenerator.answerLast ⟨8, 2, 10, 0, 0, 0, 0⟩)
          (ChatGenerator.answer ⟨8, 2, 10, 0, 0, 0, 0⟩) ∧
        ¬ ChatGenerator.Agrees (ChatGenerator.recordedStream ChatGenerator.plainSettings ChatGenerator.askedRequest
            (ChatGenerator.answerBody ++ [ChatGenerator.answerLast ⟨8, 2, 10, 0, 0, 0, 0⟩]))
          (ChatGenerator.chatCompletionCommonSetter ChatGenerator.plainSettings (ChatGenerator.answer ⟨8, 2, 10, 0, 0, 0, 0⟩))) ∧
      Delivers OpenAIResponseStreams.answerBody (.completed (OpenAIResponseStreams.answer "completed"))
          (answer [⟨"function", "now", "", ""⟩]) ∧
        (recordedStream ChatGenerator.plainSettings
              (OpenAIResponseStreams.answerBody ++ [.completed (OpenAIResponseStreams.answer "completed")])).toTelemetry ≠
          (responsesCommonSetter ChatGenerator.plainSettings (answer [⟨"function", "now", "", ""⟩])).toTelemetry := by
  refine ⟨⟨ChatGenerator.answer_delivers _, ChatGenerator.answer_miscounted⟩, answer_delivers _, fun same => ?_⟩
  have names := congrArg (·.tools.names) same
  exact absurd names (by decide)

end Openlit.ResponseGenerator
