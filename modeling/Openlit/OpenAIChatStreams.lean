import Openlit.Fragments
import Openlit.OpenAIChat

/-!
A chat completion that is delivered to the Python SDK as a stream of chunks, and
what is recorded of the stream beside what is recorded of the whole response.
Texts and tool calls may be split over any chunks, those of several choices and
calls in any order, and the usage comes in a last chunk without choices.
-/
namespace Openlit.OpenAIChatStreams
open Openlit.ChatCompletions (join nonEmpty)
open Openlit.ChatStreams (concat concat_nil concat_cons concat_append concat_eq_empty)
open Openlit.Fragments Openlit.OpenAIChat Openlit.Python Openlit.Slots Openlit.Text

/-! ### What a stream delivers -/

def sentId (part : ToolDelta) : String := part.id.getD ""
def sentName (part : ToolDelta) : String := (part.function.bind (·.name)).getD ""
def sentArguments (part : ToolDelta) : String := (part.function.bind (·.arguments)).getD ""
def assembledCall (parts : List ToolDelta) : ToolCall where
  id := concat (parts.map sentId)
  name := concat (parts.map sentName)
  arguments := concat (parts.map sentArguments)

def sentContent (choice : ChunkChoice) : String := choice.delta.content.getD ""
def sentTools (choice : ChunkChoice) : List ToolDelta := choice.delta.toolCalls.getD []
def partsOf (chunks : List Chunk) (i : Nat) : List ChunkChoice := (chunks.flatMap (·.choices)).filter (·.index = i)
/-- The parts of one call. -/
def partsAt (parts : List ToolDelta) (j : Nat) : List ToolDelta := parts.filter (·.index = j)
def toolParts (chunks : List Chunk) (i : Nat) : List ToolDelta := (partsOf chunks i).flatMap sentTools

/-- A choice of the response is what its parts are put together to. -/
structure DeliversChoice (body : List Chunk) (i : Nat) (choice : Choice) : Prop where
  content : choice.message.content.getD "" = concat ((partsOf body i).map sentContent)
  finishReason : choice.finishReason = concat ((partsOf body i).map fun part => part.finishReason.getD "")
  calls : choice.message.toolCalls.getD [] =
    (List.range (choice.message.toolCalls.getD []).length).map fun j => assembledCall (partsAt (toolParts body i) j)
  indices : ∀ tool ∈ toolParts body i, tool.index < (choice.message.toolCalls.getD []).length
  named : ∀ call ∈ choice.message.toolCalls.getD [], call.id ≠ ""
/-- A stream that delivers a response, in chunks with parts of its choices and a last one with its usage. -/
structure Delivers (body : List Chunk) (last : Chunk) (response : ChatCompletion) : Prop where
  identity : ∀ chunk ∈ body ++ [last], chunk.id = response.id ∧ chunk.model = response.model
  choices : ∀ i choice, response.choices[i]? = some choice → DeliversChoice body i choice
  indices : ∀ chunk ∈ body, ∀ choice ∈ chunk.choices, choice.index < response.choices.length
  once : ∀ chunk ∈ body, (chunk.choices.map (·.index)).Nodup
  unfinished : last.choices = []
  usage : last.usage = response.usage ∧ response.usage.isSome = true

/-! ### When both record the same -/

/-- Both record, and record the same. -/
def Agrees {Cost : Type} (streamed whole : Except PyError (Recorded Cost)) : Prop :=
  ∃ s w, streamed = .ok s ∧ whole = .ok w ∧ s.toTelemetry = w.toTelemetry

/-- Parts of a call of which one has the id and the name, and none before it has anything. -/
def Begun (parts : List ToolDelta) : Prop :=
  ∃ front part back, parts = front ++ part :: back ∧
    (∀ p ∈ front, sentId p = "" ∧ sentName p = "" ∧ sentArguments p = "") ∧ part.function.isSome = true ∧
      ∀ p ∈ back, sentId p = "" ∧ sentName p = "" ∧ p.function.isSome = true
/-- The responses, and the ways to deliver them, of which a stream records everything. -/
structure Recordable {Cost : Type} (request : Request Cost) (body : List Chunk) (response : ChatCompletion) : Prop where
  single : ∃ choice, response.choices = [choice] ∧ choice.finishReason = "stop"
  calls : ∀ choice ∈ response.choices, choice.message.toolCalls.getD [] ≠ [] →
    request.tools = true ∧ ∀ j < (choice.message.toolCalls.getD []).length, Begun (partsAt (toolParts body 0) j)
  details : ∀ usage ∈ response.usage, usage.promptTokensDetails ≠ none
  tokens : ∀ usage ∈ response.usage, usage.promptTokens ≠ 0 →
    usage.promptTokens = generalTokens request.prompt ∧
      ∀ choice ∈ response.choices, usage.completionTokens = generalTokens (choice.message.content.getD "")

/-! ### One call -/

/-- A tool that is what the parts of a call make of it, from the last one with an id. -/
structure Kept (front : List ToolDelta) (part : ToolDelta) (back : List ToolDelta) (tool : Tool) : Prop where
  named : sentId part ≠ ""
  later : ∀ p ∈ back, sentId p = ""
  functions : part.function.isSome = true ∧ ∀ p ∈ back, p.function.isSome = true
  id : tool.id = sentId part
  name : tool.name = sentName part
  arguments : tool.arguments = concat ((part :: back).map sentArguments)

theorem present_id {part : ToolDelta} (named : sentId part ≠ "") : present part.id = some (sentId part) := by
  cases id : part.id with
  | none => simp [sentId, id] at named
  | some text => simpa [sentId, id, present] using named
theorem present_none {part : ToolDelta} (unnamed : sentId part = "") : present part.id = none := by
  cases id : part.id with
  | none => rfl
  | some text => simpa [sentId, id, present] using unnamed

/-- What is kept of a call: nothing as long as there is no id, then what came from the last id on. -/
theorem folded_cases {parts : List ToolDelta} {called : Option Tool} (ran : folded updateTool none parts = .ok called) :
    (called = none ∧ ∀ p ∈ parts, sentId p = "") ∨
      ∃ front part back tool, parts = front ++ part :: back ∧ called = some tool ∧ Kept front part back tool := by
  induction parts using List.reverseRecOn generalizing called with
  | nil =>
    cases ran
    exact .inl ⟨rfl, by simp⟩
  | append_singleton parts p ih =>
    rw [folded_concat] at ran
    cases before : folded updateTool none parts with
    | error e => simp [before] at ran
    | ok earlier =>
      rw [before] at ran
      by_cases named : sentId p = ""
      · simp only [updateTool, present_none named] at ran
        rcases ih before with ⟨rfl, unnamed⟩ | ⟨front, part, back, tool, rfl, rfl, kept⟩
        · cases ran
          exact .inl ⟨rfl, by simpa [or_imp, forall_and] using ⟨unnamed, named⟩⟩
        · cases function : p.function with
          | none => simp [function] at ran
          | some func =>
            simp only [function, Except.ok.injEq] at ran
            subst ran
            refine .inr ⟨front, part, back ++ [p], _, by simp, rfl, ?_⟩
            constructor
            · exact kept.named
            · simpa [or_imp, forall_and] using ⟨kept.later, named⟩
            · simpa [or_imp, forall_and, function] using kept.functions
            · exact kept.id
            · exact kept.name
            · simp [kept.arguments, sentArguments, function, String.append_assoc]
      · simp only [updateTool, present_id named] at ran
        cases function : p.function with
        | none => simp [function] at ran
        | some func =>
          simp only [function, Except.ok.injEq] at ran
          subst ran
          refine .inr ⟨parts, p, [], _, rfl, rfl, ?_⟩
          constructor
          · exact named
          · simp
          · simp [function]
          · rfl
          · simp [sentName, function]
          · simp [sentArguments, function]

theorem folded_unnamed {parts : List ToolDelta} (unnamed : ∀ p ∈ parts, sentId p = "") : folded updateTool none parts = .ok none := by
  induction parts using List.reverseRecOn with
  | nil => rfl
  | append_singleton parts p ih =>
    rw [folded_concat, ih fun q member => unnamed q (List.mem_append_left _ member)]
    simp [updateTool, present_none (unnamed p (by simp))]
/-- A call that begins with its id is kept as it is put together. -/
theorem folded_begun {parts : List ToolDelta} (begun : Begun parts) (named : (assembledCall parts).id ≠ "") :
    ∃ tool, folded updateTool none parts = .ok (some tool) ∧ tool.id = (assembledCall parts).id ∧
      tool.name = (assembledCall parts).name ∧ tool.arguments = (assembledCall parts).arguments := by
  obtain ⟨front, part, back, rfl, nothing, function, later⟩ := begun
  have empty (text : ToolDelta → String) (none : ∀ p ∈ front, text p = "") : concat (front.map text) = "" := by
    rw [concat_eq_empty]
    simpa using none
  have ids : concat (front.map sentId) = "" := empty _ fun p member => (nothing p member).1
  have names : concat (front.map sentName) = "" := empty _ fun p member => (nothing p member).2.1
  have arguments : concat (front.map sentArguments) = "" := empty _ fun p member => (nothing p member).2.2
  have unnamed : ∀ p ∈ front, sentId p = "" := fun p member => (nothing p member).1
  clear nothing
  induction back using List.reverseRecOn with
  | nil =>
    have own : sentId part ≠ "" := by simpa [assembledCall, ids] using named
    obtain ⟨func, given⟩ := Option.isSome_iff_exists.mp function
    refine ⟨_, by rw [folded_concat, folded_unnamed unnamed]; simp only [updateTool, present_id own, given]; rfl, ?_⟩
    simp [assembledCall, ids, names, arguments, sentName, sentArguments, given]
  | append_singleton back p ih =>
    have lateId := (later p (by simp)).1
    have lateName := (later p (by simp)).2.1
    obtain ⟨func, given⟩ := Option.isSome_iff_exists.mp (later p (by simp)).2.2
    have split : front ++ part :: (back ++ [p]) = (front ++ part :: back) ++ [p] := by simp
    rw [split] at named ⊢
    have same (text : ToolDelta → String) :
        concat (((front ++ part :: back) ++ [p]).map text) = concat ((front ++ part :: back).map text) ++ text p := by
      rw [List.map_append, concat_append]
      simp
    simp only [assembledCall, same, lateId, lateName, String.append_empty] at named ih ⊢
    obtain ⟨tool, ran, id, name, args⟩ := ih named fun q member => later q (List.mem_append_left _ member)
    refine ⟨{ tool with arguments := tool.arguments ++ sentArguments p }, ?_, id, name, by rw [args]⟩
    rw [folded_concat, ran]
    simp [updateTool, present_none lateId, given, sentArguments]

/-! ### A whole stream -/

def firstContent (chunk : Chunk) : String := (chunk.choices.head?.map sentContent).getD ""
def firstTools (chunk : Chunk) : List ToolDelta := (chunk.choices.head?.map sentTools).getD []

/-- What a chunk does to the tools. -/
def toolsAfter (scope : Scope) (tools : List ToolDelta) : List (Option Tool) × Option PyError :=
  writeAll updateTool (·.index) (scope.tools.getD []) tools

theorem processDelta_eq (scope : Scope) (choice : ChunkChoice) :
    (processDelta scope choice.delta).2 = (toolsAfter scope (sentTools choice)).2 ∧
      (processDelta scope choice.delta).1.tools.getD [] = (toolsAfter scope (sentTools choice)).1 ∧
      (processDelta scope choice.delta).1 =
        { scope with llmresponse := scope.llmresponse ++ sentContent choice, tools := (processDelta scope choice.delta).1.tools } := by
  unfold processDelta toolsAfter sentTools sentContent
  cases choice.delta.toolCalls with
  | none => exact ⟨rfl, rfl, rfl⟩
  | some tools =>
    cases tools with
    | nil => exact ⟨rfl, rfl, rfl⟩
    | cons tool tools => exact ⟨rfl, rfl, rfl⟩
theorem processChatChunk_raises (scope : Scope) (chunk : Chunk) :
    (processChatChunk scope chunk).2 = (toolsAfter scope (firstTools chunk)).2 := by
  unfold processChatChunk firstTools
  cases chunk.choices with
  | nil => rfl
  | cons first rest =>
    have raised := (processDelta_eq scope first).1
    cases ran : processDelta scope first.delta with
    | mk scope' e =>
      rw [ran] at raised
      cases e with
      | none => simpa [ran] using raised
      | some e => simpa [ran] using raised

/-- A chunk that does not raise. -/
structure Processed (scope scope' : Scope) (chunk : Chunk) : Prop where
  llmresponse : scope'.llmresponse = scope.llmresponse ++ firstContent chunk
  tools : scope'.tools.getD [] = (toolsAfter scope (firstTools chunk)).1
  responseId : scope'.responseId = orElse chunk.id scope.responseId
  responseModel : scope'.responseModel = orElse chunk.model scope.responseModel
  finishReason : chunk.choices = [] → scope'.finishReason = "stop"
theorem processChatChunk_processed {scope scope' : Scope} {chunk : Chunk} (ran : processChatChunk scope chunk = (scope', none)) :
    Processed scope scope' chunk := by
  unfold processChatChunk at ran
  cases choices : chunk.choices with
  | nil =>
    simp only [choices, Prod.mk.injEq, and_true] at ran
    subst ran
    constructor <;> simp [firstContent, firstTools, toolsAfter, writeAll, choices]
  | cons first rest =>
    obtain ⟨-, tools, same⟩ := processDelta_eq scope first
    rw [choices] at ran
    cases after : processDelta scope first.delta with
    | mk scope₁ e =>
      rw [after] at tools same
      simp only [after] at ran
      cases e with
      | some e => simp at ran
      | none =>
        simp only [Prod.mk.injEq, and_true] at ran
        subst ran
        simp only at tools same
        constructor
        · rw [same]
          simp [firstContent, choices]
        · simpa [firstTools, choices] using tools
        · rw [same]
        · rw [same]
        · intro none
          rw [choices] at none
          cases none

/-- The chunks of a stream that raise nothing. -/
theorem processChatChunks_processed {chunks : List Chunk} {scope scope' : Scope}
    (ran : processChatChunks scope chunks = (scope', none)) :
    scope'.llmresponse = scope.llmresponse ++ concat (chunks.map firstContent) ∧
      toolsAfter scope (chunks.flatMap firstTools) = (scope'.tools.getD [], none) := by
  induction chunks generalizing scope with
  | nil =>
    cases ran
    simp [toolsAfter, writeAll]
  | cons chunk rest ih =>
    rw [processChatChunks] at ran
    cases first : processChatChunk scope chunk with
    | mk scope₁ e =>
      rw [first] at ran
      cases e with
      | some e => simp at ran
      | none =>
        have processed := processChatChunk_processed first
        obtain ⟨text, tools⟩ := ih ran
        refine ⟨by simp [text, processed.llmresponse, String.append_assoc], ?_⟩
        have quiet := (processChatChunk_raises scope chunk).symm
        rw [first] at quiet
        rw [List.flatMap_cons, toolsAfter, writeAll_append, ← toolsAfter]
        have split : toolsAfter scope (firstTools chunk) = (scope₁.tools.getD [], none) := Prod.ext processed.tools.symm quiet
        rw [split]
        exact tools
/-- Chunks raise nothing if writing the tools does not. -/
theorem exists_processChatChunks {chunks : List Chunk} {scope : Scope} (quiet : (toolsAfter scope (chunks.flatMap firstTools)).2 = none) :
    ∃ scope', processChatChunks scope chunks = (scope', none) := by
  induction chunks generalizing scope with
  | nil => exact ⟨scope, rfl⟩
  | cons chunk rest ih =>
    rw [List.flatMap_cons, toolsAfter, writeAll_append, ← toolsAfter] at quiet
    have raises := processChatChunk_raises scope chunk
    cases first : processChatChunk scope chunk with
    | mk scope₁ e =>
      rw [first] at raises
      cases written : toolsAfter scope (firstTools chunk) with
      | mk slots e' =>
        rw [written] at quiet raises
        cases e' with
        | some e' => simp at quiet
        | none =>
          obtain rfl : e = none := raises
          have tools := (processChatChunk_processed first).tools
          rw [written] at tools
          rw [processChatChunks, first]
          refine ih ?_
          rw [toolsAfter, tools]
          exact quiet
/-- What the scope says of a stream that ends with a chunk without choices. -/
theorem processChatChunks_last {chunks : List Chunk} {last : Chunk} {id model : String}
    (identity : ∀ chunk ∈ chunks ++ [last], chunk.id = id ∧ chunk.model = model) (unfinished : last.choices = [])
    {scope scope' : Scope} (ran : processChatChunks scope (chunks ++ [last]) = (scope', none))
    (known : (scope.responseId = "" ∨ scope.responseId = id) ∧ (scope.responseModel = "" ∨ scope.responseModel = model)) :
    scope'.responseId = id ∧ scope'.responseModel = model ∧ scope'.finishReason = "stop" := by
  have here {chunk : Chunk} {scope scope₁ : Scope} (ran : processChatChunk scope chunk = (scope₁, none))
      (same : chunk.id = id ∧ chunk.model = model)
      (known : (scope.responseId = "" ∨ scope.responseId = id) ∧ (scope.responseModel = "" ∨ scope.responseModel = model)) :
      scope₁.responseId = id ∧ scope₁.responseModel = model := by
    have processed := processChatChunk_processed ran
    rw [processed.responseId, processed.responseModel, same.1, same.2]
    exact ⟨orElse_known known.1, orElse_known known.2⟩
  induction chunks generalizing scope with
  | nil =>
    rw [List.nil_append, processChatChunks] at ran
    cases first : processChatChunk scope last with
    | mk scope₁ e =>
      rw [first] at ran
      cases e with
      | some e => simp at ran
      | none =>
        obtain rfl := congrArg Prod.fst ran
        obtain ⟨id, model⟩ := here first (identity last (by simp)) known
        exact ⟨id, model, (processChatChunk_processed first).finishReason unfinished⟩
  | cons chunk rest ih =>
    rw [List.cons_append, processChatChunks] at ran
    rw [List.cons_append, List.forall_mem_cons] at identity
    cases first : processChatChunk scope chunk with
    | mk scope₁ e =>
      rw [first] at ran
      cases e with
      | some e => simp at ran
      | none =>
        obtain ⟨id, model⟩ := here first identity.1 known
        exact ih identity.2 ran ⟨.inr id, .inr model⟩

/-! ### What is recorded -/

variable {Cost : Type} {request : Request Cost} {body : List Chunk} {last : Chunk} {response : ChatCompletion}

theorem toolAttributes_getD (tools : Option (List (Option Tool))) : toolAttributes (some (tools.getD [])) = toolAttributes tools := by
  cases tools <;> rfl
/-- The telemetry of a text, with its tools and tokens. -/
def telemetryOf (request : Request Cost) (id model finishReason text : String) (tools : Option ToolAttributes) (tokens : Nat × Nat) :
    Telemetry Cost where
  responseId := present (some id)
  responseModel := model
  finishReason
  text
  tools
  inputTokens := tokens.1
  outputTokens := tokens.2
  cost := request.cost tokens.1 tokens.2

theorem commonChatLogic_iff (scope : Scope) (tokens : Option (Nat × Nat)) (cache : Option (Option Nat)) (t : Telemetry Cost) :
    (∃ r, commonChatLogic scope request tokens cache = .ok r ∧ r.toTelemetry = t) ↔
      ∃ tools, toolAttributes scope.tools = .ok tools ∧
        t = telemetryOf request scope.responseId scope.responseModel scope.finishReason scope.llmresponse tools
          ((tokens.filter (·.1 ≠ 0)).getD (generalTokens request.prompt, generalTokens scope.llmresponse)) := by
  unfold commonChatLogic
  cases toolAttributes scope.tools with
  | error e => simp
  | ok tools =>
    cases tokens.filter (·.1 ≠ 0) with
    | none =>
      constructor
      · rintro ⟨_, ⟨⟩, rfl⟩
        exact ⟨tools, rfl, rfl⟩
      · rintro ⟨_, ⟨⟩, rfl⟩
        exact ⟨_, rfl, rfl⟩
    | some used =>
      constructor
      · rintro ⟨_, ⟨⟩, rfl⟩
        exact ⟨tools, rfl, rfl⟩
      · rintro ⟨_, ⟨⟩, rfl⟩
        exact ⟨_, rfl, rfl⟩

/-- What is recorded of a stream, if anything is. -/
theorem recordedStream_iff (delivers : Delivers body last response) (t : Telemetry Cost) :
    (∃ s, recordedStream request (body ++ [last]) = .ok s ∧ s.toTelemetry = t) ↔
      ∃ slots tools, toolsAfter {} (body.flatMap firstTools) = (slots, none) ∧ toolAttributes (some slots) = .ok tools ∧
        t = telemetryOf request response.id response.model "stop" (concat (body.map firstContent)) tools
          (generalTokens request.prompt, generalTokens (concat (body.map firstContent))) := by
  have nothing : firstContent last = "" ∧ firstTools last = [] := by simp [firstContent, firstTools, delivers.unfinished]
  have texts : concat ((body ++ [last]).map firstContent) = concat (body.map firstContent) := by simp [nothing.1]
  have parts : (body ++ [last]).flatMap firstTools = body.flatMap firstTools := by simp [nothing.2]
  rw [recordedStream]
  cases processed : processChatChunks {} (body ++ [last]) with
  | mk scope e =>
    cases e with
    | some e =>
      refine iff_of_false (by simp) ?_
      rintro ⟨slots, tools, written, -⟩
      obtain ⟨scope', ran⟩ : ∃ scope', processChatChunks {} (body ++ [last]) = (scope', none) :=
        exists_processChatChunks (by rw [parts, written])
      simp [ran] at processed
    | none =>
      obtain ⟨text, tools⟩ := processChatChunks_processed processed
      obtain ⟨id, model, finish⟩ := processChatChunks_last delivers.identity delivers.unfinished processed ⟨.inl rfl, .inl rfl⟩
      rw [texts] at text
      rw [parts] at tools
      rw [show ({} : Scope).llmresponse = "" from rfl, String.empty_append] at text
      refine (commonChatLogic_iff scope none none t).trans ?_
      rw [id, model, finish, text, tools, Option.filter_none, Option.getD_none, ← toolAttributes_getD]
      simp

def contents (response : ChatCompletion) : List String := response.choices.map fun choice => choice.message.content.getD ""
def firstReason (response : ChatCompletion) : String := (response.choices.head?.map (·.finishReason)).getD ""
def usedTokens (request : Request Cost) (usage : Usage) (text : String) : Nat × Nat :=
  if usage.promptTokens ≠ 0 then (usage.promptTokens, usage.completionTokens)
  else (generalTokens request.prompt, generalTokens text)

/-- What is recorded of a whole response, if anything is. -/
theorem processChatResponse_iff {usage : Usage} (given : response.usage = some usage) (t : Telemetry Cost) :
    (∃ w, processChatResponse request response = .ok w ∧ w.toTelemetry = t) ↔
      usage.promptTokensDetails ≠ none ∧ ∃ calls tools, requestedTools request response = .ok calls ∧
        toolAttributes (calls.map (·.map (·.tool))) = .ok tools ∧
        t = telemetryOf request response.id response.model (firstReason response) (" ".intercalate (contents response)) tools
          (usedTokens request usage (" ".intercalate (contents response))) := by
  have reason (calls : Option (List ToolCall)) : (responseScope response calls).finishReason = firstReason response := by
    unfold responseScope firstReason
    cases response.choices <;> rfl
  have used : (Option.filter (·.1 ≠ 0) (some (usage.promptTokens, usage.completionTokens))).getD
      (generalTokens request.prompt, generalTokens (" ".intercalate (contents response))) =
        usedTokens request usage (" ".intercalate (contents response)) := by
    unfold usedTokens
    by_cases counted : usage.promptTokens = 0 <;> simp [counted, Option.filter]
  unfold processChatResponse
  rw [given]
  cases detailed : usage.promptTokensDetails with
  | none => simp [detailed]
  | some details =>
    cases requested : requestedTools request response with
    | error e => simp [detailed]
    | ok calls =>
      simp only [detailed]
      refine (commonChatLogic_iff _ _ _ t).trans ?_
      have text : (responseScope response calls).llmresponse = " ".intercalate (contents response) := rfl
      rw [reason, text, used]
      simp [responseScope]

/-! ### The first choices of the chunks -/

def firstChoices (chunks : List Chunk) : List ChunkChoice := chunks.flatMap fun chunk => chunk.choices.head?.toList

theorem concat_firstContent (chunks : List Chunk) : concat (chunks.map firstContent) = concat ((firstChoices chunks).map sentContent) := by
  induction chunks with
  | nil => rfl
  | cons chunk rest ih =>
    rw [firstChoices, List.flatMap_cons, ← firstChoices, List.map_cons, List.map_append, concat_cons, concat_append, ih]
    cases choices : chunk.choices <;> simp [firstContent, choices]
theorem flatMap_firstTools (chunks : List Chunk) : chunks.flatMap firstTools = (firstChoices chunks).flatMap sentTools := by
  induction chunks with
  | nil => rfl
  | cons chunk rest ih =>
    rw [firstChoices, List.flatMap_cons, List.flatMap_cons, ← firstChoices, List.flatMap_append, ih]
    cases choices : chunk.choices <;> simp [firstTools, choices]
theorem firstChoices_length_le (chunks : List Chunk) :
    (concat ((firstChoices chunks).map sentContent)).length ≤ (concat ((chunks.flatMap (·.choices)).map sentContent)).length := by
  induction chunks with
  | nil => exact Nat.le_refl _
  | cons chunk rest ih =>
    rw [firstChoices, List.flatMap_cons, List.flatMap_cons, ← firstChoices, List.map_append, List.map_append, concat_append,
      concat_append, String.length_append, String.length_append]
    have here : (concat (chunk.choices.head?.toList.map sentContent)).length ≤ (concat (chunk.choices.map sentContent)).length := by
      cases chunk.choices <;> simp
    omega

/-- Chunks with parts of one choice only have no others. -/
theorem firstChoices_single (inside : ∀ chunk ∈ body, ∀ choice ∈ chunk.choices, choice.index < 1)
    (once : ∀ chunk ∈ body, (chunk.choices.map (·.index)).Nodup) : firstChoices body = partsOf body 0 := by
  have all : partsOf body 0 = body.flatMap (·.choices) := by
    refine List.filter_eq_self.mpr fun choice member => ?_
    obtain ⟨chunk, sent, part⟩ := List.mem_flatMap.mp member
    have zero := inside chunk sent choice part
    simpa using (by omega : choice.index = 0)
  rw [all, firstChoices]
  refine List.flatMap_congr fun chunk sent => ?_
  have distinct := once chunk sent
  have zero := inside chunk sent
  cases choices : chunk.choices with
  | nil => rfl
  | cons first rest =>
    cases rest with
    | nil => rfl
    | cons second rest =>
      rw [choices] at distinct zero
      have one := zero first (by simp)
      have two := zero second (by simp)
      have different : first.index ≠ second.index := fun same => by simp [same] at distinct
      omega

/-- The texts of all choices, by the parts of them. -/
theorem contents_eq (delivers : Delivers body last response) :
    contents response = (List.range response.choices.length).map fun i => concat ((partsOf body i).map sentContent) := by
  refine List.ext_getElem (by simp [contents]) fun i inside _ => ?_
  have member : i < response.choices.length := by simpa [contents] using inside
  have sent := (delivers.choices i _ (List.getElem?_eq_getElem member)).content
  simpa [contents] using sent
/-- Texts of several choices are joined to a longer text than a stream accumulates. -/
theorem single_of_text (delivers : Delivers body last response)
    (same : concat (body.map firstContent) = " ".intercalate (contents response)) : response.choices.length ≤ 1 := by
  have lengths := congrArg String.length same
  have joined := length_intercalate " " (contents response)
  have all : ((contents response).map String.length).sum = (concat ((body.flatMap (·.choices)).map sentContent)).length := by
    rw [contents_eq delivers, List.map_map]
    have inside : ∀ choice ∈ body.flatMap (·.choices), choice.index < response.choices.length := by
      intro choice member
      obtain ⟨chunk, sent, part⟩ := List.mem_flatMap.mp member
      exact delivers.indices chunk sent choice part
    exact length_by_index inside sentContent
  have shorter := firstChoices_length_le body
  have count : (contents response).length = response.choices.length := by simp [contents]
  have space : (" " : String).length = 1 := rfl
  rw [concat_firstContent] at lengths
  rw [space, Nat.mul_one] at joined
  omega

/-! ### The calls of the only choice -/

theorem nonEmpty_reduceOption {α : Type} (opts : List (Option α)) (f : α → String) :
    nonEmpty (opts.reduceOption.map f) = nonEmpty (opts.map fun o => (o.map f).getD "") := by
  induction opts with
  | nil => rfl
  | cons o rest ih =>
    cases o with
    | none => simpa [nonEmpty, List.reduceOption_cons_of_none] using ih
    | some a =>
      rw [List.reduceOption_cons_of_some, List.map_cons, List.map_cons]
      by_cases empty : f a = ""
      · simpa [nonEmpty, empty] using ih
      · simpa [nonEmpty, empty] using ih

/-- A text of a slot, which has none if nothing is kept. -/
def slotText (text : Tool → String) (slot : Option Tool) : String := (slot.map text).getD ""

/-- What is kept of a call is no longer than the call. -/
theorem slot_shorter {parts : List ToolDelta} {slot : Option Tool} (ran : folded updateTool none parts = .ok slot) :
    (slotText (·.id) slot).length ≤ (assembledCall parts).id.length ∧
      (slotText (·.name) slot).length ≤ (assembledCall parts).name.length ∧
      (slotText (·.arguments) slot).length ≤ (assembledCall parts).arguments.length := by
  rcases folded_cases ran with ⟨rfl, -⟩ | ⟨front, part, back, tool, rfl, rfl, kept⟩
  · simp [slotText]
  · simp only [slotText, Option.map_some, Option.getD_some, kept.id, kept.name, kept.arguments, assembledCall, List.map_append,
      List.map_cons, concat_append, concat_cons, String.length_append]
    omega
/-- Where all that a call has is kept, it begins with its id. -/
theorem begun_of_lengths {parts : List ToolDelta} {slot : Option Tool} (ran : folded updateTool none parts = .ok slot)
    (named : (assembledCall parts).id ≠ "") (id : (slotText (·.id) slot).length = (assembledCall parts).id.length)
    (name : (slotText (·.name) slot).length = (assembledCall parts).name.length)
    (arguments : (slotText (·.arguments) slot).length = (assembledCall parts).arguments.length) : Begun parts := by
  rcases folded_cases ran with ⟨rfl, -⟩ | ⟨front, part, back, tool, rfl, rfl, kept⟩
  · refine absurd (String.length_eq_zero_iff.mp ?_) named
    rw [← id]
    rfl
  · simp only [slotText, Option.map_some, Option.getD_some, kept.id, kept.name, kept.arguments, assembledCall, List.map_append,
      List.map_cons, concat_append, concat_cons, String.length_append] at id name arguments
    have nothing {text : ToolDelta → String} {ps : List ToolDelta} (empty : (concat (ps.map text)).length = 0) : ∀ p ∈ ps, text p = "" := by
      have none := concat_eq_empty.mp (String.length_eq_zero_iff.mp empty)
      simpa using none
    have ids : ∀ p ∈ front, sentId p = "" := nothing (by omega)
    have names : ∀ p ∈ front, sentName p = "" := nothing (by omega)
    have args : ∀ p ∈ front, sentArguments p = "" := nothing (by omega)
    have laterNames : ∀ p ∈ back, sentName p = "" := nothing (by omega)
    exact ⟨front, part, back, rfl, fun p member => ⟨ids p member, names p member, args p member⟩, kept.functions.1,
      fun p member => ⟨kept.later p member, laterNames p member, kept.functions.2 p member⟩⟩

/-! ### The attributes of the calls -/

/-- The attributes of some items with the texts of a call. -/
def attributesOf {α : Type} (items : List α) (id name arguments : α → String) : ToolAttributes :=
  ⟨joinAll (items.map name), joinAll (items.map id), joinAll (items.map arguments)⟩
def slotAttributes (slots : List (Option Tool)) : ToolAttributes :=
  attributesOf slots (slotText (·.id)) (slotText (·.name)) (slotText (·.arguments))

theorem joinAll_slots (slots : List (Option Tool)) (text : Tool → String) :
    joinAll (slots.reduceOption.map text) = joinAll (slots.map (slotText text)) :=
  congrArg join (nonEmpty_reduceOption slots text)
theorem toolAttributes_some {slots : List (Option Tool)} (nonempty : slots ≠ []) :
    toolAttributes (some slots) = if slots.reduceOption = [] then .error .valueError else .ok (some (slotAttributes slots)) := by
  obtain ⟨slot, rest, rfl⟩ := List.exists_cons_of_ne_nil nonempty
  unfold toolAttributes
  simp only [slotAttributes, attributesOf, ← joinAll_slots]
  cases (slot :: rest).reduceOption <;> rfl
theorem slotAttributes_held {slots : List (Option Tool)} {bound : Nat} (short : slots.length ≤ bound) :
    slotAttributes slots = slotAttributes ((List.range bound).map (held slots)) := by
  simp only [slotAttributes, attributesOf, ← joinAll_slots, reduceOption_held short]
theorem toolAttributes_calls {calls : List ToolCall} (nonempty : calls ≠ []) :
    toolAttributes (some (calls.map (·.tool))) = .ok (some (attributesOf calls (·.id) (·.name) (·.arguments))) := by
  have slots : slotAttributes (calls.map (·.tool)) = attributesOf calls (·.id) (·.name) (·.arguments) := by
    simp only [slotAttributes, attributesOf, List.map_map]
    rfl
  obtain ⟨call, rest, rfl⟩ := List.exists_cons_of_ne_nil nonempty
  rw [toolAttributes_some (by simp), slots, if_neg]
  rw [List.map_cons]
  simp [ToolCall.tool, List.reduceOption_cons_of_some]

/-- Calls with ids that are put together from parts. -/
structure Assembles (parts : List ToolDelta) (calls : List ToolCall) : Prop where
  assembled : calls = (List.range calls.length).map fun j => assembledCall (partsAt parts j)
  indices : ∀ tool ∈ parts, tool.index < calls.length
  named : ∀ call ∈ calls, call.id ≠ ""

section
variable {parts : List ToolDelta} {calls : List ToolCall}

theorem Assembles.texts (assembles : Assembles parts calls) (text : ToolCall → String) :
    calls.map text = (List.range calls.length).map fun j => text (assembledCall (partsAt parts j)) := by
  conv_lhs => rw [assembles.assembled, List.map_map]
  rfl
theorem Assembles.named_at (assembles : Assembles parts calls) {j : Nat} (inside : j < calls.length) : (assembledCall (partsAt parts j)).id ≠ "" := by
  refine assembles.named _ ?_
  rw [assembles.assembled]
  exact List.mem_map_of_mem (List.mem_range.mpr inside)
theorem slots_short (assembles : Assembles parts calls) {slots : List (Option Tool)} (written : toolsAfter {} parts = (slots, none)) :
    slots.length ≤ calls.length := by
  have bounded : (toolsAfter {} parts).1.length ≤ calls.length := length_writeAll (Nat.zero_le _) assembles.indices
  rwa [written] at bounded
theorem slots_folded {slots : List (Option Tool)} (written : toolsAfter {} parts = (slots, none)) (j : Nat) :
    folded updateTool none (partsAt parts j) = .ok (held slots j) := by
  have folds := folded_of_writeAll written j
  rwa [show ({} : Scope).tools.getD [] = [] from rfl, held_nil] at folds

/-- Calls of which a stream records everything begin with their ids. -/
theorem begun_of_recorded (assembles : Assembles parts calls) {slots : List (Option Tool)} (written : toolsAfter {} parts = (slots, none))
    (attributes : toolAttributes (some slots) = .ok (some (attributesOf calls (·.id) (·.name) (·.arguments)))) :
    ∀ j < calls.length, Begun (partsAt parts j) := by
  intro j inside
  have filled : slots ≠ [] := by
    rintro rfl
    cases attributes
  rw [toolAttributes_some filled] at attributes
  by_cases lost : slots.reduceOption = []
  · rw [if_pos lost] at attributes
    cases attributes
  rw [if_neg lost, slotAttributes_held (slots_short assembles written), Except.ok.injEq, Option.some.injEq] at attributes
  simp only [slotAttributes, attributesOf, assembles.texts, List.map_map, ToolAttributes.mk.injEq] at attributes
  obtain ⟨names, ids, arguments⟩ := attributes
  have shorter (j : Nat) := slot_shorter (slots_folded written j)
  have member : j ∈ List.range calls.length := List.mem_range.mpr inside
  exact begun_of_lengths (slots_folded written j) (assembles.named_at inside)
    (lengths_of_join (fun j _ => (shorter j).1) ids j member)
    (lengths_of_join (fun j _ => (shorter j).2.1) names j member)
    (lengths_of_join (fun j _ => (shorter j).2.2) arguments j member)
/-- Calls that begin with their ids are written without an error. -/
theorem exists_slots (assembles : Assembles parts calls) (begun : ∀ j < calls.length, Begun (partsAt parts j)) :
    ∃ slots, toolsAfter {} parts = (slots, none) := by
  refine exists_writeAll fun j => ?_
  rw [show ({} : Scope).tools.getD [] = [] from rfl, held_nil]
  by_cases inside : j < calls.length
  · obtain ⟨tool, ran, -⟩ := folded_begun (begun j inside) (assembles.named_at inside)
    exact ⟨some tool, ran⟩
  · have none : parts.filter (·.index = j) = [] := by
      refine List.filter_eq_nil_iff.mpr fun tool member => ?_
      have early := assembles.indices tool member
      simpa using (by omega : tool.index ≠ j)
    rw [none]
    exact ⟨_, rfl⟩
/-- Of calls that begin with their ids a stream records everything. -/
theorem recorded_of_begun (assembles : Assembles parts calls) (nonempty : calls ≠ [])
    (begun : ∀ j < calls.length, Begun (partsAt parts j)) {slots : List (Option Tool)} (written : toolsAfter {} parts = (slots, none)) :
    toolAttributes (some slots) = .ok (some (attributesOf calls (·.id) (·.name) (·.arguments))) := by
  have short := slots_short assembles written
  have kept : ∀ j < calls.length, ∃ tool, held slots j = some tool ∧ tool.id = (assembledCall (partsAt parts j)).id ∧
      tool.name = (assembledCall (partsAt parts j)).name ∧ tool.arguments = (assembledCall (partsAt parts j)).arguments := by
    intro j inside
    obtain ⟨tool, ran, same⟩ := folded_begun (begun j inside) (assembles.named_at inside)
    exact ⟨tool, Except.ok.inj ((slots_folded written j).symm.trans ran), same⟩
  have some' : slots.reduceOption ≠ [] := by
    have positive : 0 < calls.length := List.length_pos_iff.mpr nonempty
    obtain ⟨tool, here, -⟩ := kept 0 positive
    have member : tool ∈ ((List.range calls.length).map (held slots)).reduceOption := by
      rw [List.reduceOption_mem_iff, ← here]
      exact List.mem_map_of_mem (List.mem_range.mpr positive)
    rw [← reduceOption_held short]
    exact List.ne_nil_of_mem member
  have filled : slots ≠ [] := by
    rintro rfl
    exact some' rfl
  have same (text : Tool → String) (other : ToolCall → String)
      (equal : ∀ (tool : Tool) (call : ToolCall), tool.id = call.id ∧ tool.name = call.name ∧ tool.arguments = call.arguments →
        text tool = other call) :
      (List.range calls.length).map (slotText text ∘ held slots) =
        (List.range calls.length).map fun j => other (assembledCall (partsAt parts j)) := by
    refine List.map_congr_left fun j member => ?_
    obtain ⟨tool, here, same⟩ := kept j (List.mem_range.mp member)
    rw [Function.comp_apply, here]
    exact equal tool _ same
  rw [toolAttributes_some filled, if_neg some', slotAttributes_held short]
  simp only [slotAttributes, attributesOf, assembles.texts, List.map_map]
  rw [same (·.id) (·.id) fun _ _ equal => equal.1, same (·.name) (·.name) fun _ _ equal => equal.2.1,
    same (·.arguments) (·.arguments) fun _ _ equal => equal.2.2]

/-- The attributes of the tools are those of the calls if a request with tools gets calls that begin with their ids, or if there are none. -/
theorem tools_agree_iff {toolCalls : Option (List ToolCall)} (assembles : Assembles parts (toolCalls.getD [])) (tools : Bool) :
    (∃ slots attributes, toolsAfter {} parts = (slots, none) ∧ toolAttributes (some slots) = .ok attributes ∧
        toolAttributes ((if tools then toolCalls else none).map (·.map (·.tool))) = .ok attributes) ↔
      (toolCalls.getD [] ≠ [] → tools = true ∧ ∀ j < (toolCalls.getD []).length, Begun (partsAt parts j)) := by
  by_cases nonempty : toolCalls.getD [] = []
  · refine iff_of_true ?_ fun some' => absurd nonempty some'
    have none : parts = [] := by
      refine List.eq_nil_iff_forall_not_mem.mpr fun tool member => ?_
      have inside := assembles.indices tool member
      simp [nonempty] at inside
    have unset : toolAttributes ((if tools then toolCalls else .none).map (·.map (·.tool))) = .ok .none := by
      cases tools with
      | false => rfl
      | true =>
        cases toolCalls with
        | none => rfl
        | some calls =>
          obtain rfl : calls = [] := nonempty
          rfl
    exact ⟨[], .none, by rw [none]; rfl, rfl, unset⟩
  · obtain ⟨calls, rfl⟩ : ∃ calls, toolCalls = some calls := by
      cases toolCalls with
      | none => exact absurd rfl nonempty
      | some calls => exact ⟨calls, rfl⟩
    rw [Option.getD_some] at nonempty assembles ⊢
    constructor
    · rintro ⟨slots, attributes, written, kept, whole⟩ -
      have filled : slots ≠ [] := by
        have positive : 0 < calls.length := List.length_pos_iff.mpr nonempty
        have here : partsAt parts 0 ≠ [] := by
          intro none
          refine assembles.named_at positive ?_
          rw [none]
          rfl
        obtain ⟨tool, member⟩ := List.exists_mem_of_ne_nil _ here
        have reached := (index_lt_length written).2 tool (List.mem_of_mem_filter member)
        exact List.ne_nil_of_length_pos (by omega)
      cases tools with
      | false =>
        cases whole
        rw [toolAttributes_some filled] at kept
        by_cases lost : slots.reduceOption = [] <;> simp [lost] at kept
      | true =>
        simp only [if_true, Option.map_some] at whole
        rw [toolAttributes_calls nonempty, Except.ok.injEq] at whole
        rw [← whole] at kept
        exact ⟨rfl, begun_of_recorded assembles written kept⟩
    · intro recordable
      obtain ⟨rfl, begun⟩ := recordable nonempty
      obtain ⟨slots, written⟩ := exists_slots assembles begun
      exact ⟨slots, _, written, recorded_of_begun assembles nonempty begun written, toolAttributes_calls nonempty⟩

end

/-! ### When a stream is recorded as its response -/

/-- What a stream has of the only choice of its response. -/
theorem single_choice (delivers : Delivers body last response) {choice : Choice} (single : response.choices = [choice]) :
    concat (body.map firstContent) = choice.message.content.getD "" ∧ body.flatMap firstTools = toolParts body 0 ∧
      Assembles (toolParts body 0) (choice.message.toolCalls.getD []) := by
  have inside : ∀ chunk ∈ body, ∀ part ∈ chunk.choices, part.index < 1 := by
    have indices := delivers.indices
    rwa [single] at indices
  have sent := delivers.choices 0 choice (by rw [single]; rfl)
  have parts := firstChoices_single inside delivers.once
  refine ⟨?_, ?_, sent.calls, sent.indices, sent.named⟩
  · rw [concat_firstContent, parts, sent.content]
  · rw [flatMap_firstTools, parts, toolParts]

theorem requestedTools_single {choice : Choice} (single : response.choices = [choice]) :
    requestedTools request response = .ok (if request.tools then choice.message.toolCalls else none) := by
  unfold requestedTools
  rw [single]
  cases request.tools <;> rfl
theorem contents_single {choice : Choice} (single : response.choices = [choice]) :
    " ".intercalate (contents response) = choice.message.content.getD "" := by
  rw [contents, single]
  exact String.intercalate_singleton
theorem recordable_of_agrees (delivers : Delivers body last response)
    (agrees : Agrees (recordedStream request (body ++ [last])) (processChatResponse request response)) :
    Recordable request body response := by
  obtain ⟨usage, given⟩ := Option.isSome_iff_exists.mp delivers.usage.2
  obtain ⟨s, w, streamed, whole, same⟩ := agrees
  obtain ⟨slots, tools, written, attributes, told⟩ := (recordedStream_iff delivers _).mp ⟨s, streamed, rfl⟩
  obtain ⟨details, calls, tools', requested, wholeAttributes, told'⟩ := (processChatResponse_iff given _).mp ⟨w, whole, rfl⟩
  rw [told, told'] at same
  simp only [telemetryOf, Telemetry.mk.injEq] at same
  obtain ⟨-, -, reason, text, rfl, input, output, -⟩ := same
  obtain ⟨choice, single⟩ : ∃ choice, response.choices = [choice] := by
    refine List.length_eq_one_iff.mp (Nat.le_antisymm (single_of_text delivers text) (List.length_pos_iff.mpr ?_))
    intro none
    simp [firstReason, none] at reason
  obtain ⟨content, parts, assembles⟩ := single_choice delivers single
  rw [requestedTools_single single] at requested
  cases requested
  constructor
  · exact ⟨choice, single, by simpa [firstReason, single] using reason.symm⟩
  · intro other member
    rw [single, List.mem_singleton] at member
    subst member
    exact (tools_agree_iff assembles request.tools).mp ⟨slots, tools, parts ▸ written, attributes, wholeAttributes⟩
  · intro other same
    rw [given, Option.mem_some_iff] at same
    exact same ▸ details
  · intro other same counted
    rw [given, Option.mem_some_iff] at same
    subst same
    rw [usedTokens, if_pos counted] at input output
    refine ⟨input.symm, fun other member => ?_⟩
    rw [single, List.mem_singleton] at member
    rw [member, ← content]
    exact output.symm
theorem agrees_of_recordable (delivers : Delivers body last response) (recordable : Recordable request body response) :
    Agrees (recordedStream request (body ++ [last])) (processChatResponse request response) := by
  obtain ⟨usage, given⟩ := Option.isSome_iff_exists.mp delivers.usage.2
  obtain ⟨choice, single, stops⟩ := recordable.single
  have only : choice ∈ response.choices := by simp [single]
  obtain ⟨content, parts, assembles⟩ := single_choice delivers single
  obtain ⟨slots, tools, written, attributes, whole⟩ :=
    (tools_agree_iff assembles request.tools).mpr (recordable.calls choice only)
  have tokens : usedTokens request usage (choice.message.content.getD "") =
      (generalTokens request.prompt, generalTokens (choice.message.content.getD "")) := by
    unfold usedTokens
    by_cases counted : usage.promptTokens = 0
    · simp [counted]
    · obtain ⟨prompt, completion⟩ := recordable.tokens usage given counted
      rw [if_pos counted, prompt, completion choice only]
  obtain ⟨s, streamed, told⟩ := (recordedStream_iff delivers _).mpr
    ⟨slots, tools, parts ▸ written, attributes, rfl⟩
  obtain ⟨w, recorded, told'⟩ := (processChatResponse_iff given _).mpr
    ⟨recordable.details usage given, _, tools, requestedTools_single single, whole, rfl⟩
  refine ⟨s, w, streamed, recorded, ?_⟩
  rw [told, told', content, contents_single single, tokens]
  simp [firstReason, single, stops]

/-- A stream is recorded as its response exactly for a single choice that stops,
    with calls that begin with their ids in answer to a request with tools, and
    with the tokens that are counted without the usage. -/
theorem chat_stream_recorded_iff (delivers : Delivers body last response) (request : Request Cost) :
    Agrees (recordedStream request (body ++ [last])) (processChatResponse request response) ↔ Recordable request body response :=
  ⟨recordable_of_agrees delivers, agrees_of_recordable delivers⟩

/-! A greeting and a call of a tool, in parts. -/

def askedRequest : Request Nat where
  prompt := "Hello"
  tools := true
  cost input output := input + 2 * output
/-- The answer with a reason why it ends. -/
def answer (finishReason : String) : ChatCompletion where
  id := "chatcmpl-1"
  model := "gpt-4o"
  choices := [⟨⟨some "Hi!", some [⟨"call_1", "now", "{}"⟩]⟩, finishReason⟩]
  usage := some ⟨3, 2, some {}⟩
def answerPart (delta : Delta) (finishReason : Option String) : Chunk where
  id := "chatcmpl-1"
  model := "gpt-4o"
  choices := [⟨0, delta, finishReason⟩]
def answerBody (finishReason : String) : List Chunk :=
  [answerPart { content := some "Hi" } none, answerPart { toolCalls := some [⟨0, some "call_1", some ⟨some "now", none⟩, none⟩] } none,
    answerPart { content := some "!", toolCalls := some [⟨0, none, some ⟨none, some "{}"⟩, none⟩] } none,
    answerPart {} (some finishReason)]
def answerLast : Chunk where
  id := "chatcmpl-1"
  model := "gpt-4o"
  choices := []
  usage := some ⟨3, 2, some {}⟩

theorem answer_delivers (finishReason : String) : Delivers (answerBody finishReason) answerLast (answer finishReason) where
  identity := by simp [answerBody, answerPart, answerLast, answer]
  choices := by
    intro i choice found
    cases i with
    | succ i => simp [answer] at found
    | zero =>
      cases found
      constructor
      · rfl
      · simp [partsOf, answerBody, answerPart]
      · rfl
      · simp [toolParts, partsOf, answerBody, answerPart, sentTools]
      · simp
  indices := by simp [answerBody, answerPart, answer]
  once := by simp [answerBody, answerPart]
  unfinished := rfl
  usage := ⟨rfl, rfl⟩

theorem whole_answer_recorded :
    Agrees (recordedStream askedRequest (answerBody "stop" ++ [answerLast])) (processChatResponse askedRequest (answer "stop")) := by
  refine (chat_stream_recorded_iff (answer_delivers "stop") askedRequest).mpr ⟨⟨_, rfl, rfl⟩, ?_, ?_, ?_⟩
  · intro choice member _
    obtain rfl : choice = (answer "stop").choices.head (by simp [answer]) := by simpa [answer] using member
    refine ⟨rfl, fun j inside => ?_⟩
    obtain rfl : j = 0 := Nat.lt_one_iff.mp inside
    exact ⟨[], ⟨0, some "call_1", some ⟨some "now", none⟩, none⟩, [⟨0, none, some ⟨none, some "{}"⟩, none⟩], rfl, by simp, rfl,
      by simp [sentId, sentName]⟩
  · rintro _ ⟨⟩
    simp
  · rintro _ ⟨⟩ -
    have two : 2 = generalTokens "Hi!" := rfl
    exact ⟨rfl, by simpa [answer] using two⟩

/-- An answer that ends with its call is recorded as one that stops. -/
theorem finish_reason_lost : Delivers (answerBody "tool_calls") answerLast (answer "tool_calls") ∧
    ¬ Agrees (recordedStream askedRequest (answerBody "tool_calls" ++ [answerLast])) (processChatResponse askedRequest (answer "tool_calls")) := by
  refine ⟨answer_delivers "tool_calls", ?_⟩
  rintro ⟨s, w, ⟨⟩, ⟨⟩, same⟩
  have reasons := congrArg Telemetry.finishReason same
  exact absurd reasons (by decide)

end Openlit.OpenAIChatStreams
