import Openlit.OpenAIChatStreams
import Openlit.Truthy

/-!
What the TypeScript SDK records of an OpenAI chat completion
(`openai/wrapper.ts`), of a whole one and of a stream that delivers it. The
generator reads the first choice of each chunk and never the usage: it counts
tokens itself. Times are left out, and so is what the request alone decides.
-/
namespace Openlit.ChatGenerator
open Openlit.ChatCompletions (nonEmpty)
open Openlit.ChatStreams (concat concat_nil concat_cons concat_append concat_eq_empty concat_filter)
open Openlit.OpenAIChat (ToolDelta ChunkChoice)
open Openlit.OpenAIChatStreams (sentId sentName sentArguments sentContent sentTools partsAt present_id present_none)
open Openlit.Fragments (flatMap_filter)
open Openlit.Slots Openlit.Text Openlit.Truthy

/-! ### Chunks and responses -/

/-- Of the details, a count that is missing is as good as zero. -/
structure Usage where
  promptTokens : Nat
  completionTokens : Nat
  totalTokens : Nat
  reasoningTokens : Nat := 0
  outputAudioTokens : Nat := 0
  cachedTokens : Nat := 0
  inputAudioTokens : Nat := 0
  deriving DecidableEq, Repr
structure Chunk where
  id : String
  model : String
  choices : List ChunkChoice
  usage : Option Usage := none
  systemFingerprint : Option String := none
  serviceTier : Option String := none
  deriving DecidableEq, Repr
structure ToolCall where
  id : String := ""
  type : String := "function"
  name : String := ""
  arguments : String := ""
  deriving DecidableEq, Repr
structure Message where
  content : Option String := none
  toolCalls : Option (List ToolCall) := none
  deriving DecidableEq, Repr
structure Choice where
  message : Message
  finishReason : String
  deriving DecidableEq, Repr
structure ChatCompletion where
  id : String
  model : String
  choices : List Choice
  usage : Usage
  systemFingerprint : Option String := none
  serviceTier : Option String := none
  deriving DecidableEq, Repr

/-! ### The setter -/

/-- The settings, the prices, and `JSON.parse`, with the whole text under `raw` where that throws. -/
structure Settings (Cost Arguments : Type) where
  traceContent : Bool
  cost : String → Nat → Nat → Cost
  parseArguments : String → Arguments

/-- The parts of an output message. A call without arguments has an empty object. -/
inductive Part (Arguments : Type) where
  | text (content : String)
  | toolCall (id name : String) (arguments : Option Arguments)
  deriving DecidableEq
inductive OutputType where
  | text
  | json
  deriving DecidableEq
structure ToolAttributes where
  names : Option String
  callIds : Option String
  args : List String
  deriving DecidableEq
/-- What a span has of a response. -/
structure Telemetry (Cost Arguments : Type) where
  responseId : String
  model : String
  cost : Cost
  inputTokens : Nat
  outputTokens : Nat
  totalTokens : Nat
  reasoningTokens : Option Nat
  outputAudioTokens : Option Nat
  cachedTokens : Option Nat
  inputAudioTokens : Option Nat
  finishReason : Option String
  tools : ToolAttributes
  outputMessages : Option (List (Part Arguments) × String)
  deriving DecidableEq
structure Recorded (Cost Arguments : Type) extends Telemetry Cost Arguments where
  systemFingerprint : Option String
  serviceTier : Option String
  outputType : OutputType
  toolTypes : Option String
  deriving DecidableEq

variable {Cost Arguments : Type}

/-- `OpenLitHelper.buildOutputMessages`. -/
def buildOutputMessages (settings : Settings Cost Arguments) (text finishReason : String) (toolCalls : List ToolCall) :
    List (Part Arguments) × String :=
  ((truthyText text).toList.map Part.text ++
    toolCalls.map fun call => .toolCall call.id call.name ((truthyText call.arguments).map settings.parseArguments),
    (truthyText finishReason).getD "stop")
/-- `_chatCompletionCommonSetter`, which throws if there is no choice. -/
def chatCompletionCommonSetter (settings : Settings Cost Arguments) (result : ChatCompletion) : Option (Recorded Cost Arguments) :=
  match result.choices with
  | [] => none
  | first :: _ =>
    let model := (truthyText result.model).getD "gpt-3.5-turbo"
    let toolCalls := first.message.toolCalls.getD []
    some
      { responseId := result.id
        model
        cost := settings.cost model result.usage.promptTokens result.usage.completionTokens
        inputTokens := result.usage.promptTokens
        outputTokens := result.usage.completionTokens
        totalTokens := result.usage.totalTokens
        reasoningTokens := truthyCount result.usage.reasoningTokens
        outputAudioTokens := truthyCount result.usage.outputAudioTokens
        cachedTokens := truthyCount result.usage.cachedTokens
        inputAudioTokens := truthyCount result.usage.inputAudioTokens
        finishReason := truthyText first.finishReason
        tools :=
          { names := joined (toolCalls.map (·.name))
            callIds := joined (toolCalls.map (·.id))
            args := nonEmpty (toolCalls.map (·.arguments)) }
        outputMessages :=
          if settings.traceContent then
            some (buildOutputMessages settings (first.message.content.getD "") first.finishReason toolCalls)
          else none
        systemFingerprint := present result.systemFingerprint
        serviceTier := present result.serviceTier
        outputType := if first.message.content.isSome then .text else .json
        toolTypes := joined (toolCalls.map (·.type)) }

/-! ### The generator -/

/-- The `result` of the generator. A call that was pushed to the list, but not yet written, is `none`. -/
structure Rebuilt where
  id : String := "0"
  model : String := ""
  finishReason : String := "stop"
  content : String := ""
  systemFingerprint : String := ""
  serviceTier : String := "auto"
  toolCalls : List (Option ToolCall) := []
  deriving DecidableEq, Repr

/-- What a part of a call makes of the call: one with an id begins it anew, the others add arguments. -/
def updateCall (call : ToolCall) (tool : ToolDelta) : ToolCall :=
  match present tool.id with
  | some id =>
    { id
      type := (present tool.type).getD "function"
      name := (present (tool.function.bind (·.name))).getD call.name
      arguments := (present (tool.function.bind (·.arguments))).getD call.arguments }
  | none => { call with arguments := call.arguments ++ (tool.function.bind (·.arguments)).getD "" }
def updateSlot (slot : Option ToolCall) (tool : ToolDelta) : Except Empty (Option ToolCall) := .ok (some (updateCall (slot.getD {}) tool))
/-- The body of the loop of `_chatCompletionGenerator`. -/
def addChunk (result : Rebuilt) (chunk : Chunk) : Rebuilt :=
  let result :=
    { result with
      id := chunk.id
      model := chunk.model
      systemFingerprint := (present chunk.systemFingerprint).getD result.systemFingerprint
      serviceTier := (present chunk.serviceTier).getD result.serviceTier }
  match chunk.choices with
  | [] => result
  | first :: _ =>
    { result with
      finishReason := (present first.finishReason).getD result.finishReason
      content := result.content ++ first.delta.content.getD ""
      toolCalls := (writeAll updateSlot (·.index) result.toolCalls (first.delta.toolCalls.getD [])).1 }

/-- The contents of the request's messages, where they are texts, and `OpenLitHelper.openaiTokens`, which may throw. -/
structure Request where
  messages : List (Option String)
  openaiTokens : Option String → String → Option Nat
def promptTokens (request : Request) (model : String) : Option Nat :=
  (request.messages.mapM fun content => request.openaiTokens content model).map List.sum
/-- The usage by the tokens that were counted. -/
def countedUsage (promptTokens completionTokens : Nat) : Usage :=
  if completionTokens = 0 then ⟨0, 0, 0, 0, 0, 0, 0⟩
  else { promptTokens, completionTokens, totalTokens := promptTokens + completionTokens }
def Rebuilt.result (rebuilt : Rebuilt) (usage : Usage) : ChatCompletion where
  id := rebuilt.id
  model := rebuilt.model
  choices :=
    [{ message :=
        { content := some rebuilt.content
          toolCalls := if rebuilt.toolCalls = [] then none else some (rebuilt.toolCalls.map (·.getD {})) }
       finishReason := rebuilt.finishReason }]
  usage
  systemFingerprint := some rebuilt.systemFingerprint
  serviceTier := some rebuilt.serviceTier
/-- What is recorded of a stream that is iterated to its end, unless the counting throws. -/
def recordedStream (settings : Settings Cost Arguments) (request : Request) (chunks : List Chunk) : Option (Recorded Cost Arguments) :=
  let rebuilt := chunks.foldl addChunk {}
  match promptTokens request rebuilt.model, request.openaiTokens (some rebuilt.content) rebuilt.model with
  | some prompt, some completion => chatCompletionCommonSetter settings (rebuilt.result (countedUsage prompt completion))
  | _, _ => none

/-! ### What a stream delivers -/

def partsOf (chunks : List Chunk) (i : Nat) : List ChunkChoice := (chunks.flatMap (·.choices)).filter (·.index = i)
def toolParts (chunks : List Chunk) (i : Nat) : List ToolDelta := (partsOf chunks i).flatMap sentTools
def sentReason (choice : ChunkChoice) : String := choice.finishReason.getD ""

/-- A choice of the response is what its parts are put together to. -/
structure DeliversChoice (body : List Chunk) (i : Nat) (choice : Choice) : Prop where
  content : choice.message.content.getD "" = concat ((partsOf body i).map sentContent)
  finishReason : nonEmpty ((partsOf body i).map sentReason) = [choice.finishReason]
  calls : ∀ (j : Nat) call, (choice.message.toolCalls.getD [])[j]? = some call →
    call.id = concat ((partsAt (toolParts body i) j).map sentId) ∧
      call.name = concat ((partsAt (toolParts body i) j).map sentName) ∧
      call.arguments = concat ((partsAt (toolParts body i) j).map sentArguments)
  indices : ∀ tool ∈ toolParts body i, tool.index < (choice.message.toolCalls.getD []).length
  named : ∀ call ∈ choice.message.toolCalls.getD [], call.id ≠ ""
/-- A stream that delivers a response, in chunks with parts of its choices and a last one with its usage. -/
structure Delivers (body : List Chunk) (last : Chunk) (response : ChatCompletion) : Prop where
  identity : ∀ chunk ∈ body ++ [last], chunk.id = response.id ∧ chunk.model = response.model
  filled : response.choices ≠ []
  choices : ∀ (i : Nat) choice, response.choices[i]? = some choice → DeliversChoice body i choice
  indices : ∀ chunk ∈ body, ∀ choice ∈ chunk.choices, choice.index < response.choices.length
  once : ∀ chunk ∈ body, (chunk.choices.map (·.index)).Nodup
  unfinished : last.choices = []
  usage : last.usage = some response.usage

/-- Both record, and record the same. -/
def Agrees (streamed whole : Option (Recorded Cost Arguments)) : Prop :=
  ∃ s w, streamed = some s ∧ whole = some w ∧ s.toTelemetry = w.toTelemetry

/-- A part of a choice that says nothing. -/
def Silent (choice : ChunkChoice) : Prop := sentContent choice = "" ∧ sentReason choice = "" ∧ sentTools choice = []
/-- What is said of the first choice is said first in its chunk, and only that. -/
def FirstOnly (body : List Chunk) : Prop :=
  ∀ chunk ∈ body, (∀ choice ∈ chunk.choices.head?, choice.index = 0 ∨ Silent choice) ∧
    ∀ choice ∈ chunk.choices.tail, choice.index = 0 → Silent choice
/-- Parts of a call of which only one has an id and a name. No arguments come before it if it has some. -/
def Begun (parts : List ToolDelta) : Prop :=
  ∃ front part back, parts = front ++ part :: back ∧ (∀ p ∈ front ++ back, sentId p = "" ∧ sentName p = "") ∧
    (sentArguments part = "" ∨ ∀ p ∈ front, sentArguments p = "")
/-- The responses, and the ways to deliver them, of which a stream records everything. -/
structure Recordable (request : Request) (body : List Chunk) (response : ChatCompletion) : Prop where
  calls : ∀ choice ∈ response.choices.head?, ∀ j < (choice.message.toolCalls.getD []).length, Begun (partsAt (toolParts body 0) j)
  tokens : ∃ prompt completion, promptTokens request response.model = some prompt ∧
    (∀ choice ∈ response.choices.head?,
        request.openaiTokens (some (choice.message.content.getD "")) response.model = some completion) ∧
      response.usage = countedUsage prompt completion

/-! ### What is said first -/

/-- The first choice of each chunk. -/
def firsts (chunks : List Chunk) : List ChunkChoice := chunks.flatMap (·.choices.head?.toList)

theorem writeAll_quiet (slots : List (Option ToolCall)) (tools : List ToolDelta) :
    writeAll updateSlot (·.index) slots tools = ((writeAll updateSlot (·.index) slots tools).1, none) := by
  cases written : writeAll updateSlot (·.index) slots tools with
  | mk slots' e =>
    cases e with
    | none => rfl
    | some e => exact e.elim
theorem present_eq (text : Option String) : present text = truthyText (text.getD "") := by
  cases text with
  | none => rfl
  | some text => by_cases empty : text = "" <;> simp [present, truthyText, Option.filter_some, empty]
/-- What the generator has of some chunks. -/
theorem foldl_addChunk (chunks : List Chunk) :
    (chunks.foldl addChunk {}).content = concat ((firsts chunks).map sentContent) ∧
      (chunks.foldl addChunk {}).finishReason = (nonEmpty ((firsts chunks).map sentReason)).getLast?.getD "stop" ∧
      (chunks.foldl addChunk {}).toolCalls = (writeAll updateSlot (·.index) [] ((firsts chunks).flatMap sentTools)).1 := by
  induction chunks using List.reverseRecOn with
  | nil => exact ⟨rfl, rfl, rfl⟩
  | append_singleton chunks chunk ih =>
    obtain ⟨content, reason, tools⟩ := ih
    rw [List.foldl_concat, addChunk]
    cases choices : chunk.choices with
    | nil => simpa [firsts, choices] using ⟨content, reason, tools⟩
    | cons first rest =>
      have appended : firsts (chunks ++ [chunk]) = firsts chunks ++ [first] := by simp [firsts, choices]
      simp only [appended, List.map_append, List.flatMap_append, concat_append, content, reason, tools]
      refine ⟨by simp [sentContent], ?_, ?_⟩
      · rw [List.map_singleton, nonEmpty_append, nonEmpty_singleton, present_eq, ← sentReason]
        cases truthyText (sentReason first) <;> simp
      · rw [writeAll_append, writeAll_quiet [] ((firsts chunks).flatMap sentTools)]
        simp [sentTools]

def said (choice : ChunkChoice) : Bool := decide (sentContent choice ≠ "" ∨ sentReason choice ≠ "" ∨ sentTools choice ≠ [])
theorem said_iff (choice : ChunkChoice) : said choice = true ↔ ¬ Silent choice := by
  simp only [said, Silent, decide_eq_true_eq]
  tauto
/-- Choices that say the same say the same texts and tools. -/
theorem saying {xs ys : List ChunkChoice} (same : xs.filter said = ys.filter said) :
    concat (xs.map sentContent) = concat (ys.map sentContent) ∧ nonEmpty (xs.map sentReason) = nonEmpty (ys.map sentReason) ∧
      xs.flatMap sentTools = ys.flatMap sentTools := by
  have quiet (z : ChunkChoice) (silent : said z = false) : Silent z := by
    rw [← Bool.not_eq_true, said_iff, not_not] at silent
    exact silent
  have contents (zs : List ChunkChoice) : concat ((zs.filter said).map sentContent) = concat (zs.map sentContent) :=
    concat_filter said sentContent zs fun z _ silent => (quiet z silent).1
  have reasons (zs : List ChunkChoice) : nonEmpty ((zs.filter said).map sentReason) = nonEmpty (zs.map sentReason) := by
    rw [nonEmpty_map, nonEmpty_map]
    refine flatMap_filter said _ zs fun z _ silent => ?_
    rw [(quiet z silent).2.1]
    rfl
  have tools (zs : List ChunkChoice) : (zs.filter said).flatMap sentTools = zs.flatMap sentTools :=
    flatMap_filter said sentTools zs fun z _ silent => (quiet z silent).2.2
  exact ⟨by rw [← contents xs, same, contents], by rw [← reasons xs, same, reasons], by rw [← tools xs, same, tools]⟩
theorem firsts_say {body : List Chunk} (firstOnly : FirstOnly body) : (firsts body).filter said = (partsOf body 0).filter said := by
  induction body with
  | nil => rfl
  | cons chunk body ih =>
    obtain ⟨here, later⟩ := List.forall_mem_cons.mp firstOnly
    have rest := ih later
    simp only [firsts, partsOf, List.flatMap_cons, List.filter_append] at rest ⊢
    rw [rest]
    congr 1
    obtain ⟨first, others⟩ := here
    cases choices : chunk.choices with
    | nil => rfl
    | cons choice more =>
      rw [choices] at first others
      have silent : (more.filter (·.index = 0)).filter said = [] := by
        rw [List.filter_eq_nil_iff]
        intro other member
        obtain ⟨inside, zero⟩ := List.mem_filter.mp member
        rw [said_iff, not_not]
        exact others other inside (by simpa using zero)
      by_cases zero : choice.index = 0
      · simp [zero, silent, List.filter_cons]
      · have quiet : said choice = false := by
          have none := (first choice rfl).resolve_left zero
          rw [← Bool.not_eq_true, said_iff, not_not]
          exact none
        simp [zero, silent, quiet]
/-- Where there is one choice it is said first. -/
theorem firstOnly_of_single {body : List Chunk} {last : Chunk} {response : ChatCompletion} (delivers : Delivers body last response)
    (single : response.choices.length = 1) : FirstOnly body := by
  intro chunk member
  have zero : ∀ choice ∈ chunk.choices, choice.index = 0 := by
    intro choice inside
    have bound := delivers.indices chunk member choice inside
    omega
  have once := delivers.once chunk member
  cases choices : chunk.choices with
  | nil => simp
  | cons first rest =>
    rw [choices] at zero once
    refine ⟨fun choice given => .inl (zero choice (List.mem_of_mem_head? given)), fun choice inside _ => ?_⟩
    rw [List.map_cons, List.nodup_cons] at once
    refine absurd (List.mem_map.mpr ⟨choice, inside, ?_⟩) once.1
    rw [zero choice (List.mem_cons_of_mem _ inside), zero first List.mem_cons_self]

/-! ### One call -/

/-- What the parts of a call are put together to. -/
def kept (parts : List ToolDelta) : ToolCall := parts.foldl updateCall {}

theorem updateCall_unnamed (call : ToolCall) {part : ToolDelta} (unnamed : sentId part = "") :
    updateCall call part = { call with arguments := call.arguments ++ sentArguments part } := by
  rw [updateCall, present_none unnamed]
  rfl
theorem updateCall_named (call : ToolCall) {part : ToolDelta} (named : sentId part ≠ "") :
    updateCall call part =
      { id := sentId part
        type := (present part.type).getD "function"
        name := (truthyText (sentName part)).getD call.name
        arguments := (truthyText (sentArguments part)).getD call.arguments } := by
  rw [updateCall, present_id named, sentName, sentArguments, ← present_eq, ← present_eq]
theorem foldl_unnamed (call : ToolCall) {parts : List ToolDelta} (unnamed : ∀ p ∈ parts, sentId p = "") :
    parts.foldl updateCall call = { call with arguments := call.arguments ++ concat (parts.map sentArguments) } := by
  induction parts generalizing call with
  | nil => simp
  | cons p parts ih =>
    rw [List.forall_mem_cons] at unnamed
    rw [List.foldl_cons, updateCall_unnamed call unnamed.1, ih _ unnamed.2]
    simp [String.append_assoc]
theorem folded_updateSlot (slot : Option ToolCall) (parts : List ToolDelta) :
    folded updateSlot slot parts = .ok (if parts = [] then slot else some (parts.foldl updateCall (slot.getD {}))) := by
  induction parts generalizing slot with
  | nil => rfl
  | cons p parts ih =>
    rw [folded_cons, updateSlot]
    simp only [ih, Option.getD_some, List.foldl_cons, reduceCtorEq, if_false]
    by_cases last : parts = [] <;> simp [last]
/-- The calls of a stream, by their indices. -/
theorem writeAll_getD (tools : List ToolDelta) {bound : Nat} (inside : ∀ tool ∈ tools, tool.index < bound)
    (reached : ∀ j < bound, ∃ tool ∈ tools, tool.index = j) :
    ((writeAll updateSlot (·.index) [] tools).1).map (·.getD {}) = (List.range bound).map fun j => kept (partsAt tools j) := by
  have written := writeAll_quiet [] tools
  generalize (writeAll updateSlot (·.index) [] tools).1 = slots at written ⊢
  have short : slots.length ≤ bound := by
    have le := @length_writeAll _ _ _ updateSlot (·.index) tools [] bound (by simp) inside
    rwa [written] at le
  have long : bound ≤ slots.length := by
    by_contra less
    obtain ⟨tool, member, last⟩ := reached slots.length (by omega)
    have index := (index_lt_length written).2 tool member
    omega
  obtain rfl : slots.length = bound := by omega
  rw [← map_held slots, List.map_map, List.length_map, List.length_range]
  refine List.map_congr_left fun j _ => ?_
  have slot := folded_of_writeAll written j
  rw [held_nil, folded_updateSlot, Except.ok.injEq] at slot
  rw [Function.comp_apply, ← slot, kept, partsAt]
  by_cases none : tools.filter (·.index = j) = [] <;> simp [none]

/-- The last part with an id, of parts that have one. -/
theorem exists_named {parts : List ToolDelta} (named : concat (parts.map sentId) ≠ "") :
    ∃ front part back, parts = front ++ part :: back ∧ sentId part ≠ "" ∧ ∀ p ∈ back, sentId p = "" := by
  induction parts with
  | nil => exact absurd rfl named
  | cons p parts ih =>
    by_cases later : concat (parts.map sentId) = ""
    · refine ⟨[], p, parts, rfl, ?_, ?_⟩
      · intro empty
        simp [empty, later] at named
      · rw [concat_eq_empty] at later
        simpa using later
    · obtain ⟨front, part, back, rfl, here, after⟩ := ih later
      exact ⟨p :: front, part, back, rfl, here, after⟩
/-- What is kept of a call whose only id is that of one part. -/
theorem kept_eq {front back : List ToolDelta} {part : ToolDelta} (named : sentId part ≠ "")
    (before : ∀ p ∈ front, sentId p = "") (after : ∀ p ∈ back, sentId p = "") :
    kept (front ++ part :: back) =
      { id := sentId part
        type := (present part.type).getD "function"
        name := sentName part
        arguments := (truthyText (sentArguments part)).getD (concat (front.map sentArguments)) ++ concat (back.map sentArguments) } := by
  have name : (truthyText (sentName part)).getD "" = sentName part := by
    by_cases empty : sentName part = "" <;> simp [truthyText, empty]
  rw [kept, List.foldl_append, List.foldl_cons, foldl_unnamed {} before, updateCall_named _ named, foldl_unnamed _ after]
  simp [name]
/-- The id that is kept is one of those that were sent. -/
theorem kept_id_shorter (parts : List ToolDelta) :
    (kept parts).id.length ≤ (concat (parts.map sentId)).length ∧
      (concat (parts.map sentId) ≠ "" → (kept parts).id.length = (concat (parts.map sentId)).length →
        ∃ front part back, parts = front ++ part :: back ∧ sentId part ≠ "" ∧ ∀ p ∈ front ++ back, sentId p = "") := by
  by_cases named : concat (parts.map sentId) = ""
  · have unnamed : ∀ p ∈ parts, sentId p = "" := by simpa [concat_eq_empty] using named
    rw [kept, foldl_unnamed {} unnamed]
    exact ⟨by simp, fun other => absurd named other⟩
  · obtain ⟨front, part, back, rfl, here, after⟩ := exists_named named
    have id : (kept (front ++ part :: back)).id = sentId part := by
      rw [kept, List.foldl_append, List.foldl_cons, updateCall_named _ here, foldl_unnamed _ after]
    have total : (concat ((front ++ part :: back).map sentId)).length =
        (concat (front.map sentId)).length + (sentId part).length + (concat (back.map sentId)).length := by
      simp [Nat.add_assoc]
    rw [id]
    refine ⟨by omega, fun _ same => ⟨front, part, back, rfl, here, ?_⟩⟩
    have none : concat (front.map sentId) = "" := String.length_eq_zero_iff.mp (by omega)
    rw [List.forall_mem_append]
    exact ⟨by simpa [concat_eq_empty] using none, after⟩
/-- Of a call with one id, the name and the arguments are no longer than those that were sent. -/
theorem kept_shorter {front back : List ToolDelta} {part : ToolDelta} (named : sentId part ≠ "")
    (others : ∀ p ∈ front ++ back, sentId p = "") :
    ((kept (front ++ part :: back)).name.length ≤ (concat ((front ++ part :: back).map sentName)).length ∧
        ((kept (front ++ part :: back)).name.length = (concat ((front ++ part :: back).map sentName)).length →
          ∀ p ∈ front ++ back, sentName p = "")) ∧
      (kept (front ++ part :: back)).arguments.length ≤ (concat ((front ++ part :: back).map sentArguments)).length ∧
        ((kept (front ++ part :: back)).arguments.length = (concat ((front ++ part :: back).map sentArguments)).length →
          sentArguments part = "" ∨ ∀ p ∈ front, sentArguments p = "") := by
  obtain ⟨before, after⟩ := List.forall_mem_append.mp others
  have total (text : ToolDelta → String) : (concat ((front ++ part :: back).map text)).length =
      (concat (front.map text)).length + (text part).length + (concat (back.map text)).length := by
    simp [Nat.add_assoc]
  have empty {text : ToolDelta → String} {parts : List ToolDelta} (none : (concat (parts.map text)).length = 0) :
      ∀ p ∈ parts, text p = "" := by
    simpa [concat_eq_empty] using String.length_eq_zero_iff.mp none
  rw [kept_eq named before after, total, total]
  refine ⟨⟨by simp only; omega, fun same => ?_⟩, ?_, fun same => ?_⟩
  · simp only at same
    rw [List.forall_mem_append]
    exact ⟨empty (by omega), empty (by omega)⟩
  · rw [String.length_append]
    by_cases none : sentArguments part = ""
    · simp only [truthyText, none, if_true, Option.getD_none, String.length_empty]
      omega
    · simp only [truthyText, none, if_false, Option.getD_some]
      omega
  · by_cases none : sentArguments part = ""
    · exact .inl none
    · right
      simp only [truthyText, none, if_false, Option.getD_some, String.length_append] at same
      exact empty (by omega)
/-- What has begun is kept as it was sent. -/
theorem kept_begun {parts : List ToolDelta} (begun : Begun parts) (named : concat (parts.map sentId) ≠ "") :
    (kept parts).id = concat (parts.map sentId) ∧ (kept parts).name = concat (parts.map sentName) ∧
      (kept parts).arguments = concat (parts.map sentArguments) := by
  obtain ⟨front, part, back, rfl, others, arguments⟩ := begun
  obtain ⟨before, after⟩ := List.forall_mem_append.mp others
  have nothing {text : ToolDelta → String} {parts : List ToolDelta} (none : ∀ p ∈ parts, text p = "") :
      concat (parts.map text) = "" := by
    simpa [concat_eq_empty] using none
  have total (text : ToolDelta → String) : concat ((front ++ part :: back).map text) =
      concat (front.map text) ++ (text part ++ concat (back.map text)) := by
    simp
  have ids := total sentId
  rw [nothing fun p member => (before p member).1, nothing fun p member => (after p member).1] at ids
  have here : sentId part ≠ "" := by
    intro none
    exact named (by rw [ids, none]; rfl)
  rw [kept_eq here (fun p member => (before p member).1) fun p member => (after p member).1, ids, total sentName,
    nothing fun p member => (before p member).2, nothing fun p member => (after p member).2, total sentArguments]
  refine ⟨by simp, by simp, ?_⟩
  rcases arguments with none | early
  · simp [truthyText, none]
  · rw [nothing early]
    by_cases none : sentArguments part = "" <;> simp [truthyText, none]

/-! ### When both record the same -/

variable {body : List Chunk} {last : Chunk} {response : ChatCompletion} {first : Choice}

/-- The calls of the first choice by their indices. -/
theorem calls_eq (field : ToolCall → String) (sent : ToolDelta → String)
    (are : ∀ (j : Nat) call, (first.message.toolCalls.getD [])[j]? = some call →
      field call = concat ((partsAt (toolParts body 0) j).map sent)) :
    (first.message.toolCalls.getD []).map field =
      (List.range (first.message.toolCalls.getD []).length).map fun j => concat ((partsAt (toolParts body 0) j).map sent) := by
  refine List.ext_getElem (by simp) fun j inside _ => ?_
  rw [List.length_map] at inside
  simpa using are j _ (List.getElem?_eq_getElem inside)
theorem id_sent (choice : DeliversChoice body 0 first) {j : Nat} (inside : j < (first.message.toolCalls.getD []).length) :
    concat ((partsAt (toolParts body 0) j).map sentId) ≠ "" := by
  have found := List.getElem?_eq_getElem inside
  rw [← (choice.calls j _ found).1]
  exact choice.named _ (List.getElem_mem inside)
/-- The calls that a stream records are those of the first choice exactly if each of these has begun. -/
theorem tools_agree_iff (choice : DeliversChoice body 0 first) {calls : List ToolCall}
    (are : calls = (List.range (first.message.toolCalls.getD []).length).map fun j => kept (partsAt (toolParts body 0) j)) :
    (joined (calls.map (·.name)) = joined ((first.message.toolCalls.getD []).map (·.name)) ∧
        joined (calls.map (·.id)) = joined ((first.message.toolCalls.getD []).map (·.id)) ∧
        nonEmpty (calls.map (·.arguments)) = nonEmpty ((first.message.toolCalls.getD []).map (·.arguments))) ↔
      ∀ j < (first.message.toolCalls.getD []).length, Begun (partsAt (toolParts body 0) j) := by
  have ids := calls_eq (·.id) sentId fun j call found => (choice.calls j call found).1
  have names := calls_eq (·.name) sentName fun j call found => (choice.calls j call found).2.1
  have arguments := calls_eq (·.arguments) sentArguments fun j call found => (choice.calls j call found).2.2
  have sent (j : Nat) := @id_sent _ _ choice j
  rw [ids, names, arguments, are]
  simp only [List.map_map, Function.comp_def]
  generalize (first.message.toolCalls.getD []).length = bound at sent ⊢
  constructor
  · rintro ⟨sameNames, sameIds, sameArguments⟩ j inside
    have idLengths := lengths_of_joined (fun j _ => (kept_id_shorter (partsAt (toolParts body 0) j)).1) sameIds
    -- Of each call only one part has an id.
    have one (j : Nat) (inside : j < bound) := (kept_id_shorter (partsAt (toolParts body 0) j)).2 (sent j inside)
      (idLengths j (List.mem_range.mpr inside))
    have nameLengths := lengths_of_joined (fun j member => by
      obtain ⟨front, part, back, split, named, others⟩ := one j (List.mem_range.mp member)
      rw [split]
      exact (kept_shorter named others).1.1) sameNames
    have argumentLengths := lengths_of_nonEmpty (fun j member => by
      obtain ⟨front, part, back, split, named, others⟩ := one j (List.mem_range.mp member)
      rw [split]
      exact (kept_shorter named others).2.1) sameArguments
    obtain ⟨front, part, back, split, named, others⟩ := one j inside
    have nameLength := nameLengths j (List.mem_range.mpr inside)
    have argumentLength := argumentLengths j (List.mem_range.mpr inside)
    rw [split] at nameLength argumentLength
    have unnamed := (kept_shorter named others).1.2 nameLength
    exact ⟨front, part, back, split, fun p member => ⟨others p member, unnamed p member⟩,
      (kept_shorter named others).2.2 argumentLength⟩
  · intro begun
    have all (field : ToolCall → String) (text : ToolDelta → String)
        (same : ∀ j < bound, field (kept (partsAt (toolParts body 0) j)) = concat ((partsAt (toolParts body 0) j).map text)) :
        ((List.range bound).map fun j => field (kept (partsAt (toolParts body 0) j))) =
          (List.range bound).map fun j => concat ((partsAt (toolParts body 0) j).map text) :=
      List.map_congr_left fun j member => same j (List.mem_range.mp member)
    rw [all (·.name) sentName fun j inside => (kept_begun (begun j inside) (sent j inside)).2.1,
      all (·.id) sentId fun j inside => (kept_begun (begun j inside) (sent j inside)).1,
      all (·.arguments) sentArguments fun j inside => (kept_begun (begun j inside) (sent j inside)).2.2]
    exact ⟨rfl, rfl, rfl⟩
/-- What has begun is written to the output message as it is there. -/
theorem calls_begun (choice : DeliversChoice body 0 first) {calls : List ToolCall}
    (are : calls = (List.range (first.message.toolCalls.getD []).length).map fun j => kept (partsAt (toolParts body 0) j))
    (begun : ∀ j < (first.message.toolCalls.getD []).length, Begun (partsAt (toolParts body 0) j)) {β : Type}
    (f : String → String → String → β) :
    (calls.map fun call => f call.id call.name call.arguments) =
      (first.message.toolCalls.getD []).map fun call => f call.id call.name call.arguments := by
  subst are
  refine List.ext_getElem (by simp) fun j inside inside' => ?_
  rw [List.length_map] at inside'
  obtain ⟨id, name, arguments⟩ := choice.calls j _ (List.getElem?_eq_getElem inside')
  obtain ⟨id', name', arguments'⟩ := kept_begun (begun j inside') (id_sent choice inside')
  simp [id, name, arguments, id', name', arguments']

@[simp] theorem addChunk_id (result : Rebuilt) (chunk : Chunk) : (addChunk result chunk).id = chunk.id := by
  unfold addChunk
  cases chunk.choices <;> rfl
@[simp] theorem addChunk_model (result : Rebuilt) (chunk : Chunk) : (addChunk result chunk).model = chunk.model := by
  unfold addChunk
  cases chunk.choices <;> rfl
/-- What the generator has of a stream that says the first choice first. -/
theorem rebuilt_eq (delivers : Delivers body last response) (firstOnly : FirstOnly body) (choice : DeliversChoice body 0 first) :
    ((body ++ [last]).foldl addChunk {}).id = response.id ∧ ((body ++ [last]).foldl addChunk {}).model = response.model ∧
      ((body ++ [last]).foldl addChunk {}).content = first.message.content.getD "" ∧
      ((body ++ [last]).foldl addChunk {}).finishReason = first.finishReason ∧
      (((body ++ [last]).foldl addChunk {}).toolCalls).map (·.getD {}) =
        (List.range (first.message.toolCalls.getD []).length).map fun j => kept (partsAt (toolParts body 0) j) := by
  have identity := delivers.identity last (by simp)
  have appended : firsts (body ++ [last]) = firsts body := by simp [firsts, delivers.unfinished]
  obtain ⟨contents, reasons, tools⟩ := saying (firsts_say firstOnly)
  obtain ⟨content, reason, calls⟩ := foldl_addChunk (body ++ [last])
  rw [appended] at content reason calls
  refine ⟨?_, ?_, ?_, ?_, ?_⟩
  · rw [List.foldl_concat, addChunk_id, identity.1]
  · rw [List.foldl_concat, addChunk_model, identity.2]
  · rw [content, contents, choice.content]
  · rw [reason, reasons, choice.finishReason]
    rfl
  · rw [calls, tools]
    refine writeAll_getD _ choice.indices fun j inside => ?_
    by_contra unreached
    refine id_sent choice inside ?_
    have none : partsAt (toolParts body 0) j = [] := by
      rw [partsAt, List.filter_eq_nil_iff]
      intro tool member there
      exact unreached ⟨tool, member, by simpa using there⟩
    rw [none]
    rfl
theorem toolCalls_result (rebuilt : Rebuilt) :
    (if rebuilt.toolCalls = [] then none else some (rebuilt.toolCalls.map (·.getD {}))).getD [] = rebuilt.toolCalls.map (·.getD {}) := by
  by_cases none : rebuilt.toolCalls = [] <;> simp [none]
/-- The usage that a stream records is what it counted. -/
theorem usage_eq_iff (usage : Usage) (prompt completion : Nat) :
    usage = countedUsage prompt completion ↔
      (countedUsage prompt completion).promptTokens = usage.promptTokens ∧
        (countedUsage prompt completion).completionTokens = usage.completionTokens ∧
        (countedUsage prompt completion).totalTokens = usage.totalTokens ∧ truthyCount usage.reasoningTokens = none ∧
        truthyCount usage.outputAudioTokens = none ∧ truthyCount usage.cachedTokens = none ∧
        truthyCount usage.inputAudioTokens = none := by
  obtain ⟨_, _, _, _, _, _, _⟩ := usage
  by_cases none : completion = 0 <;> simp [countedUsage, none] <;> grind
/-- What is recorded of what the generator has is what is recorded of the response exactly if the calls and the usage are those. -/
theorem setter_agrees_iff (settings : Settings Cost Arguments) {rebuilt : Rebuilt} {rest : List Choice} {prompt completion : Nat}
    (choices : response.choices = first :: rest) (choice : DeliversChoice body 0 first) (id : rebuilt.id = response.id)
    (model : rebuilt.model = response.model) (content : rebuilt.content = first.message.content.getD "")
    (reason : rebuilt.finishReason = first.finishReason)
    (calls : rebuilt.toolCalls.map (·.getD {}) = (List.range (first.message.toolCalls.getD []).length).map fun j =>
      kept (partsAt (toolParts body 0) j)) :
    Agrees (chatCompletionCommonSetter settings (rebuilt.result (countedUsage prompt completion)))
        (chatCompletionCommonSetter settings response) ↔
      (∀ j < (first.message.toolCalls.getD []).length, Begun (partsAt (toolParts body 0) j)) ∧
        response.usage = countedUsage prompt completion := by
  have tools := tools_agree_iff choice calls
  have counts := usage_eq_iff response.usage prompt completion
  have zeros : (countedUsage prompt completion).reasoningTokens = 0 ∧ (countedUsage prompt completion).outputAudioTokens = 0 ∧
      (countedUsage prompt completion).cachedTokens = 0 ∧ (countedUsage prompt completion).inputAudioTokens = 0 := by
    by_cases none : completion = 0 <;> simp [countedUsage, none]
  simp only [Agrees, chatCompletionCommonSetter, Rebuilt.result, choices, toolCalls_result, Option.some.injEq]
  constructor
  · rintro ⟨s, w, rfl, rfl, same⟩
    simp only [Telemetry.mk.injEq, ToolAttributes.mk.injEq] at same
    obtain ⟨-, -, -, input, output, total, reasoning, outputAudio, cached, inputAudio, -, ⟨names, ids, arguments⟩, -⟩ := same
    rw [zeros.1] at reasoning
    rw [zeros.2.1] at outputAudio
    rw [zeros.2.2.1] at cached
    rw [zeros.2.2.2] at inputAudio
    exact ⟨tools.mp ⟨names, ids, arguments⟩,
      counts.mpr ⟨input, output, total, reasoning.symm, outputAudio.symm, cached.symm, inputAudio.symm⟩⟩
  · rintro ⟨begun, usage⟩
    obtain ⟨names, ids, arguments⟩ := tools.mpr begun
    have parts := calls_begun choice calls begun fun id name arguments =>
      Part.toolCall id name ((truthyText arguments).map settings.parseArguments)
    refine ⟨_, _, rfl, rfl, ?_⟩
    rw [usage]
    simp only [id, model, content, reason, names, ids, arguments, buildOutputMessages, parts, Option.getD_some]

/-- A stream that says the first choice first is recorded as its response exactly if each call has begun
    and the usage is what is counted. -/
theorem chat_agrees_iff (delivers : Delivers body last response) (firstOnly : FirstOnly body) (settings : Settings Cost Arguments)
    (request : Request) :
    Agrees (recordedStream settings request (body ++ [last])) (chatCompletionCommonSetter settings response) ↔
      Recordable request body response := by
  cases choices : response.choices with
  | nil => exact absurd choices delivers.filled
  | cons first rest =>
    have choice := delivers.choices 0 first (by simp [choices])
    obtain ⟨id, model, content, reason, calls⟩ := rebuilt_eq delivers firstOnly choice
    rw [recordedStream]
    generalize (body ++ [last]).foldl addChunk {} = rebuilt at id model content reason calls ⊢
    simp only [model, content]
    constructor
    · intro agrees
      cases prompted : promptTokens request response.model with
      | none => simp [prompted, Agrees] at agrees
      | some prompt =>
        cases completed : request.openaiTokens (some (first.message.content.getD "")) response.model with
        | none => simp [prompted, completed, Agrees] at agrees
        | some completion =>
          rw [prompted, completed] at agrees
          obtain ⟨begun, usage⟩ := (setter_agrees_iff settings choices choice id model content reason calls).mp agrees
          exact ⟨by simpa [choices] using begun, prompt, completion, prompted, by simpa [choices] using completed, usage⟩
    · intro ⟨begun, prompt, completion, prompted, completed, usage⟩
      simp only [choices, List.head?_cons, Option.mem_def, Option.some.injEq, forall_eq'] at begun completed
      rw [prompted, completed]
      exact (setter_agrees_iff settings choices choice id model content reason calls).mpr ⟨begun, usage⟩

/-! A greeting and a call of a tool, in parts. -/

def plainSettings : Settings Nat String where
  traceContent := true
  cost _ inputTokens outputTokens := inputTokens + 2 * outputTokens
  parseArguments := id
/-- A request whose tokens, and those of its answer, are counted as by the encoding of the model. -/
def askedRequest : Request where
  messages := [some "Hello"]
  openaiTokens content _ := content.map fun text => if text = "Hello" then 1 else if text = "Hi!" then 2 else text.length
/-- The answer with a usage. -/
def answer (usage : Usage) : ChatCompletion where
  id := "chatcmpl-1"
  model := "gpt-4o"
  choices := [⟨⟨some "Hi!", some [⟨"call_1", "function", "now", "{}"⟩]⟩, "tool_calls"⟩]
  usage
def answerBody : List Chunk := (OpenAIChatStreams.answerBody "tool_calls").map fun chunk =>
  { id := chunk.id, model := chunk.model, choices := chunk.choices }
def answerLast (usage : Usage) : Chunk where
  id := "chatcmpl-1"
  model := "gpt-4o"
  choices := []
  usage := some usage

theorem answer_delivers (usage : Usage) : Delivers answerBody (answerLast usage) (answer usage) where
  identity := by simp [answerBody, OpenAIChatStreams.answerBody, OpenAIChatStreams.answerPart, answerLast, answer]
  filled := by simp [answer]
  choices := by
    intro i choice found
    cases i with
    | succ i => simp [answer] at found
    | zero =>
      cases found
      constructor
      · rfl
      · rfl
      · intro j call given
        cases j with
        | succ j => simp at given
        | zero =>
          cases given
          exact ⟨rfl, rfl, rfl⟩
      · simp [toolParts, partsOf, answerBody, OpenAIChatStreams.answerBody, OpenAIChatStreams.answerPart, sentTools]
      · simp
  indices := by simp [answerBody, OpenAIChatStreams.answerBody, OpenAIChatStreams.answerPart, answer]
  once := by simp [answerBody, OpenAIChatStreams.answerBody, OpenAIChatStreams.answerPart]
  unfinished := rfl
  usage := rfl
theorem answer_recordable : Recordable askedRequest answerBody (answer ⟨1, 2, 3, 0, 0, 0, 0⟩) where
  calls := by
    rintro _ ⟨⟩ j inside
    obtain rfl : j = 0 := Nat.lt_one_iff.mp inside
    exact ⟨[], ⟨0, some "call_1", some ⟨some "now", none⟩, none⟩, [⟨0, none, some ⟨none, some "{}"⟩, none⟩], rfl,
      by simp [sentId, sentName], .inl rfl⟩
  tokens := ⟨1, 2, rfl, by rintro _ ⟨⟩; rfl, rfl⟩
/-- The usage that is sent is not read. -/
theorem answer_miscounted : ¬ Agrees (recordedStream plainSettings askedRequest (answerBody ++ [answerLast ⟨8, 2, 10, 0, 0, 0, 0⟩]))
    (chatCompletionCommonSetter plainSettings (answer ⟨8, 2, 10, 0, 0, 0, 0⟩)) := by
  rintro ⟨s, w, ⟨⟩, ⟨⟩, same⟩
  have tokens := congrArg Telemetry.inputTokens same
  exact absurd tokens (by decide)

end Openlit.ChatGenerator
