import Openlit.AnthropicMessages
import Openlit.Fragments

/-!
An Anthropic message that is delivered as a stream of events, and what is
recorded of the stream beside what is recorded of the whole message. The texts
and inputs of the blocks may be split over any deltas, the blocks may overlap,
and the counts of the usage may come in the first event and in several later ones.
-/
namespace Openlit.AnthropicStreams
open Openlit.AnthropicMessages Openlit.Fragments Openlit.Python
open Openlit.ChatStreams (concat concat_nil concat_cons concat_append concat_eq_empty concat_filter)

variable {Cost Input : Type}

/-! ### What a stream delivers -/

def startOf : Block Input → ContentBlock
  | .text _ => .text
  | .toolUse id name _ => .toolUse id name
/-- The text of a block, which the use of a tool does not have. -/
def saidBy : Block Input → String
  | .text text => text
  | .toolUse _ _ _ => ""

def useOf : Block Input → Option (String × String × Input)
  | .text _ => none
  | .toolUse id name input => some (id, name, input)
/-- The uses of tools among some blocks, with their ids, names and inputs. -/
def toolUses (content : List (Block Input)) : List (String × String × Input) := content.filterMap useOf

def blockStarts (events : List Event) : List (Nat × ContentBlock) := events.filterMap fun
  | .contentBlockStart index block => some (index, block)
  | _ => none
def textDeltas (events : List Event) : List (Nat × String) := events.filterMap fun
  | .contentBlockDelta index (.text text) => some (index, text)
  | _ => none
def jsonDeltas (events : List Event) : List (Nat × String) := events.filterMap fun
  | .contentBlockDelta index (.inputJson partialJson) => some (index, partialJson)
  | _ => none
def messageDeltas (events : List Event) : List MessageDelta := events.filterMap fun
  | .messageDelta delta => some delta
  | _ => none
/-- What the deltas of one block are put together to. -/
def assembledAt (deltas : List (Nat × String)) (i : Nat) : String := concat ((deltas.filter (·.1 = i)).map (·.2))
/-- The value that was given last, if any was. -/
def latest {α : Type} (first : Option α) (later : List (Option α)) : Option α := later.foldl (fun old new => new.or old) first

/-- What the deltas of a block add up to: its text, or the JSON text of its input. -/
def DeliversBlock [ToolInputs Input] (rest : List Event) (i : Nat) (block : Block Input) : Prop :=
  match block with
  | .text text => assembledAt (textDeltas rest) i = text ∧ assembledAt (jsonDeltas rest) i = ""
  | .toolUse _ _ input => assembledAt (textDeltas rest) i = "" ∧ ToolInputs.parse (assembledAt (jsonDeltas rest) i) = some input
/-- A stream that delivers a message, after a first event with its identity. -/
structure Delivers [ToolInputs Input] (start : StartMessage) (rest : List Event) (message : Message Input) : Prop where
  identity : start.id = message.id ∧ start.model = message.model
  once : ∀ again, .messageStart again ∉ rest
  starts : (blockStarts rest).map (·.2) = message.content.map startOf
  inOrder : (blockStarts rest).map (·.1) = List.range message.content.length
  blocks : ∀ (i : Nat) block, message.content[i]? = some block → DeliversBlock rest i block
  indices : (∀ d ∈ textDeltas rest, d.1 < message.content.length) ∧ ∀ d ∈ jsonDeltas rest, d.1 < message.content.length
  named : ∀ use ∈ toolUses message.content, use.1 ≠ "" ∧ use.2.1 ≠ ""
  unique : ((toolUses message.content).map (·.1)).Nodup
  ended : messageDeltas rest ≠ []
  reasons : ∀ d ∈ messageDeltas rest, d.stopReason ≠ some ""
  stopReason : latest none ((messageDeltas rest).map (·.stopReason)) = some message.stopReason
  inputTokens : latest (some start.usage.inputTokens) ((messageDeltas rest).map (·.inputTokens)) = some message.usage.inputTokens
  outputTokens : ∀ d ∈ (messageDeltas rest).getLast?, d.outputTokens = message.usage.outputTokens
  cacheReadInputTokens : message.usage.cacheReadInputTokens =
    latest start.usage.cacheReadInputTokens ((messageDeltas rest).map (·.cacheReadInputTokens))
  cacheCreationInputTokens : message.usage.cacheCreationInputTokens =
    latest start.usage.cacheCreationInputTokens ((messageDeltas rest).map (·.cacheCreationInputTokens))

/-! ### When both record the same -/

def Agrees (streamed : Telemetry Cost) (whole : Except PyError (Telemetry Cost)) : Prop := whole = .ok streamed

/-- The messages, and the ways to deliver them, of which a stream records everything. -/
structure Recordable [ToolInputs Input] (start : StartMessage) (rest : List Event) (message : Message Input) : Prop where
  filled : message.content ≠ []
  texts : ∀ block ∈ message.content.tail, saidBy block = ""
  single : (toolUses message.content).length ≤ 1
  inputs : ∀ (i : Nat) id name input, message.content[i]? = some (.toolUse id name input) →
    ToolInputs.str input = assembledAt (jsonDeltas rest) i
  inputTokens : start.usage.inputTokens = message.usage.inputTokens
  counts : ∀ d ∈ (messageDeltas rest).getLast?, message.usage.cacheReadInputTokens = some (d.cacheReadInputTokens.getD 0) ∧
    message.usage.cacheCreationInputTokens = some (d.cacheCreationInputTokens.getD 0)

/-! ### What a stream accumulates -/

/-- What the events after the first one add to a scope. -/
structure Gathered (scope scope' : Scope) (rest : List Event) : Prop where
  llmresponse : scope'.llmresponse = scope.llmresponse ++ concat ((textDeltas rest).map (·.2))
  toolArguments : scope'.toolArguments = scope.toolArguments ++ concat ((jsonDeltas rest).map (·.2))
  kept : scope'.responseId = scope.responseId ∧ scope'.responseModel = scope.responseModel ∧ scope'.inputTokens = scope.inputTokens
  finishReason : scope'.finishReason = (messageDeltas rest).foldl (fun old d => orElse d.stopReason old) scope.finishReason
  counts : ∀ d ∈ (messageDeltas rest).getLast?, scope'.outputTokens = d.outputTokens ∧
    scope'.cacheReadInputTokens = d.cacheReadInputTokens.getD 0 ∧ scope'.cacheCreationInputTokens = d.cacheCreationInputTokens.getD 0
  tool : (scope'.toolId, scope'.toolName) = ((blockStarts rest).map (·.2)).foldl (fun old block => match block with
    | .text => old
    | .toolUse id name => (orElse id old.1, orElse name old.2)) (scope.toolId, scope.toolName)

/-- An event that a scope does not depend on. -/
theorem Gathered.silent {scope scope' : Scope} {rest : List Event} (before : Gathered scope scope' rest) {e : Event}
    (deltas : textDeltas [e] = [] ∧ jsonDeltas [e] = [] ∧ messageDeltas [e] = [])
    (starts : blockStarts [e] = [] ∨ ∃ index, blockStarts [e] = [(index, .text)]) : Gathered scope scope' (rest ++ [e]) := by
  have texts : textDeltas (rest ++ [e]) = textDeltas rest := by
    rw [textDeltas, List.filterMap_append, ← textDeltas, ← textDeltas, deltas.1, List.append_nil]
  have jsons : jsonDeltas (rest ++ [e]) = jsonDeltas rest := by
    rw [jsonDeltas, List.filterMap_append, ← jsonDeltas, ← jsonDeltas, deltas.2.1, List.append_nil]
  have counts : messageDeltas (rest ++ [e]) = messageDeltas rest := by
    rw [messageDeltas, List.filterMap_append, ← messageDeltas, ← messageDeltas, deltas.2.2, List.append_nil]
  refine ⟨texts ▸ before.llmresponse, jsons ▸ before.toolArguments, before.kept, counts ▸ before.finishReason,
    counts ▸ before.counts, ?_⟩
  rw [blockStarts, List.filterMap_append, ← blockStarts, ← blockStarts]
  rcases starts with none | ⟨index, text⟩
  · rw [none, List.append_nil]
    exact before.tool
  · rw [text, List.map_append, List.foldl_append]
    exact before.tool
theorem gathered (scope : Scope) {rest : List Event} (once : ∀ again, .messageStart again ∉ rest) :
    Gathered scope (rest.foldl processChunk scope) rest := by
  induction rest using List.reverseRecOn with
  | nil => constructor <;> simp [textDeltas, jsonDeltas, messageDeltas, blockStarts]
  | append_singleton rest e ih =>
    have before := ih fun again member => once again (List.mem_append_left _ member)
    rw [List.foldl_concat]
    cases e with
    | messageStart again => exact absurd (List.mem_append_right rest (List.mem_singleton.mpr rfl)) (once again)
    | contentBlockStart index block =>
      cases block with
      | text => exact before.silent ⟨rfl, rfl, rfl⟩ (.inr ⟨index, rfl⟩)
      | toolUse id name =>
        constructor
        · simp [processChunk, before.llmresponse, textDeltas]
        · simp [processChunk, before.toolArguments, jsonDeltas]
        · simp [processChunk, before.kept]
        · simp [processChunk, before.finishReason, messageDeltas]
        · simpa [processChunk, messageDeltas] using before.counts
        · have tool := before.tool
          simp only [blockStarts, List.filterMap_append, List.map_append, List.foldl_append] at tool ⊢
          rw [← tool]
          rfl
    | contentBlockDelta index delta =>
      cases delta with
      | text text =>
        constructor
        · simp [processChunk, before.llmresponse, textDeltas, String.append_assoc]
        · simp [processChunk, before.toolArguments, jsonDeltas]
        · simp [processChunk, before.kept]
        · simp [processChunk, before.finishReason, messageDeltas]
        · simpa [processChunk, messageDeltas] using before.counts
        · simpa [processChunk, blockStarts] using before.tool
      | inputJson partialJson =>
        constructor
        · simp [processChunk, before.llmresponse, textDeltas]
        · simp [processChunk, before.toolArguments, jsonDeltas, String.append_assoc]
        · simp [processChunk, before.kept]
        · simp [processChunk, before.finishReason, messageDeltas]
        · simpa [processChunk, messageDeltas] using before.counts
        · simpa [processChunk, blockStarts] using before.tool
    | messageDelta delta =>
      constructor
      · simp [processChunk, before.llmresponse, textDeltas]
      · simp [processChunk, before.toolArguments, jsonDeltas]
      · simp [processChunk, before.kept]
      · simp [processChunk, before.finishReason, messageDeltas]
      · simp [processChunk, messageDeltas]
      · simpa [processChunk, blockStarts] using before.tool
    | contentBlockStop index => exact before.silent ⟨rfl, rfl, rfl⟩ (.inl rfl)
    | messageStop => exact before.silent ⟨rfl, rfl, rfl⟩ (.inl rfl)
    | ping => exact before.silent ⟨rfl, rfl, rfl⟩ (.inl rfl)

/-! ### Texts -/

variable [ToolInputs Input] {start : StartMessage} {rest : List Event} {message : Message Input}

theorem saidBy_eq (delivers : Delivers start rest message) {i : Nat} {block : Block Input} (found : message.content[i]? = some block) :
    saidBy block = assembledAt (textDeltas rest) i := by
  have sent := delivers.blocks i block found
  cases block with
  | text text => exact sent.1.symm
  | toolUse id name input => exact sent.1.symm
omit [ToolInputs Input] in
/-- All deltas are those of one block exactly if the other blocks have none. -/
theorem assembled_whole {deltas : List (Nat × String)} {bound : Nat} (indices : ∀ d ∈ deltas, d.1 < bound) (i : Nat) :
    concat (deltas.map (·.2)) = assembledAt deltas i ↔ ∀ j < bound, j ≠ i → assembledAt deltas j = "" := by
  rw [assembledAt, concat_filter_iff]
  constructor
  · intro others j _ other
    rw [assembledAt, concat_eq_empty]
    intro text member
    obtain ⟨d, inside, rfl⟩ := List.mem_map.mp member
    obtain ⟨sent, same⟩ := List.mem_filter.mp inside
    have here : d.1 = j := by simpa using same
    exact others d sent (by simp [here, other])
  · intro others d member other
    have differs : d.1 ≠ i := by simpa using other
    have none := others d.1 (indices d member) differs
    rw [assembledAt, concat_eq_empty] at none
    exact none d.2 (List.mem_map_of_mem (List.mem_filter.mpr ⟨member, by simp⟩))

/-! ### The use of a tool -/

omit [ToolInputs Input] in
theorem toolUses_concat (content : List (Block Input)) (block : Block Input) :
    toolUses (content ++ [block]) = toolUses content ++ (useOf block).toList := by
  rw [toolUses, List.filterMap_append, ← toolUses]
  cases block <;> rfl
theorem firstToolUse_eq (content : List (Block Input)) :
    firstToolUse content = (toolUses content).head?.map fun use => ⟨use.2.1, use.1, ToolInputs.str use.2.2⟩ := by
  induction content with
  | nil => rfl
  | cons block rest ih =>
    cases block with
    | text text => exact ih
    | toolUse id name input => rfl
omit [ToolInputs Input] in
/-- The id and the name that a scope keeps are those of the last use. -/
theorem lastToolUse_eq {content : List (Block Input)} (named : ∀ use ∈ toolUses content, use.1 ≠ "" ∧ use.2.1 ≠ "") :
    (content.map startOf).foldl (fun old block => match block with
      | .text => old
      | .toolUse id name => (orElse id old.1, orElse name old.2)) ("", "") =
        ((toolUses content).getLast?.map fun use => (use.1, use.2.1)).getD ("", "") := by
  induction content using List.reverseRecOn with
  | nil => rfl
  | append_singleton content block ih =>
    rw [toolUses_concat] at named ⊢
    rw [List.map_append, List.foldl_append, ih fun use member => named use (List.mem_append_left _ member)]
    cases block with
    | text text => simp [startOf, useOf]
    | toolUse id name input =>
      obtain ⟨hasId, hasName⟩ := named (id, name, input) (by simp [useOf])
      simp only at hasId hasName
      simp [startOf, useOf, orElse, Text.present, Option.filter, hasId, hasName]

/-- The only use of a tool has all JSON texts. -/
theorem single_use (delivers : Delivers start rest message) {use : String × String × Input} (single : toolUses message.content = [use]) :
    ∃ i : Nat, message.content[i]? = some (.toolUse use.1 use.2.1 use.2.2) ∧
      concat ((jsonDeltas rest).map (·.2)) = assembledAt (jsonDeltas rest) i ∧
      ∀ (j : Nat) block, message.content[j]? = some block → useOf block ≠ none → j = i := by
  obtain ⟨front, block, back, split, before, here, after⟩ := List.filterMap_eq_cons_iff.mp single
  have after := List.filterMap_eq_nil_iff.mp after
  obtain rfl : block = .toolUse use.1 use.2.1 use.2.2 := by
    cases block with
    | text text => cases here
    | toolUse id name input =>
      cases here
      rfl
  have found : message.content[front.length]? = some (.toolUse use.1 use.2.1 use.2.2) := by simp [split]
  have others : ∀ (j : Nat) block, message.content[j]? = some block → j ≠ front.length → useOf block = none := by
    intro j block given other
    have member : block ∈ front ∨ block ∈ back := by
      rcases Nat.lt_or_gt_of_ne other with less | more
      · rw [split, List.getElem?_append_left less] at given
        exact .inl (List.mem_of_getElem? given)
      · rw [split, List.getElem?_append_right (Nat.le_of_lt more), List.getElem?_cons, if_neg (by omega)] at given
        exact .inr (List.mem_of_getElem? given)
    rcases member with front | back
    · exact before _ front
    · exact after _ back
  refine ⟨front.length, found, (assembled_whole delivers.indices.2 _).mpr fun j early other => ?_, fun j block given used => ?_⟩
  · have given := List.getElem?_eq_getElem early
    have sent := delivers.blocks j _ given
    have none := others j _ given other
    cases block : message.content[j] with
    | text text =>
      rw [block] at sent
      exact sent.2
    | toolUse id name input => simp [block, useOf] at none
  · by_contra other
    exact used (others j block given other)

/-! ### When a stream is recorded as its message -/

theorem foldl_orElse {reasons : List (Option String)} (given : ∀ r ∈ reasons, r ≠ some "") :
    reasons.foldl (fun old new => orElse new old) "" = (latest none reasons).getD "" := by
  induction reasons using List.reverseRecOn with
  | nil => rfl
  | append_singleton reasons r ih =>
    have nonempty := given r (by simp)
    rw [latest, List.foldl_concat, List.foldl_concat, ih fun r member => given r (List.mem_append_left _ member), ← latest]
    cases r with
    | none => simp [orElse, Text.present]
    | some reason =>
      have other : reason ≠ "" := fun same => nonempty (by rw [same])
      simp [orElse, Text.present, Option.filter, other]

/-- What is recorded of a message, with the values that a stream and a whole message can differ in. -/
def telemetryOf (cost : Nat → Nat → Cost) (message : Message Input) (text : String) (tool : Option ToolAttributes) (inputTokens : Nat)
    (cacheReadInputTokens cacheCreationInputTokens : Option Nat) : Telemetry Cost where
  responseId := Text.present (some message.id)
  responseModel := message.model
  finishReason := message.stopReason
  text
  tool
  inputTokens
  outputTokens := message.usage.outputTokens
  cost := cost inputTokens message.usage.outputTokens
  cacheReadInputTokens
  cacheCreationInputTokens

theorem recordedStream_eq (delivers : Delivers start rest message) (cost : Nat → Nat → Cost) {last : MessageDelta}
    (ended : (messageDeltas rest).getLast? = some last) :
    recordedStream cost (.messageStart start :: rest) = telemetryOf cost message (concat ((textDeltas rest).map (·.2)))
      ((toolUses message.content).getLast?.map fun use => ⟨use.2.1, use.1, concat ((jsonDeltas rest).map (·.2))⟩)
      start.usage.inputTokens (some (last.cacheReadInputTokens.getD 0)) (some (last.cacheCreationInputTokens.getD 0)) := by
  have gathers := gathered (processChunk {} (.messageStart start)) delivers.once
  have reason : (rest.foldl processChunk (processChunk {} (.messageStart start))).finishReason = message.stopReason := by
    have given : ∀ r ∈ (messageDeltas rest).map (·.stopReason), r ≠ some "" := by simpa using delivers.reasons
    have folded := foldl_orElse given
    rw [delivers.stopReason, List.foldl_map] at folded
    rw [gathers.finishReason]
    exact folded
  have tool := gathers.tool
  rw [delivers.starts] at tool
  have uses := tool.trans (lastToolUse_eq delivers.named)
  obtain ⟨output, read, creation⟩ := gathers.counts last ended
  have counted := delivers.outputTokens last ended
  obtain ⟨id, model, input⟩ := gathers.kept
  have identity := delivers.identity
  rw [recordedStream, List.foldl_cons]
  generalize rest.foldl processChunk (processChunk {} (.messageStart start)) = scope at *
  have said : scope.llmresponse = concat ((textDeltas rest).map (·.2)) := by simp [gathers.llmresponse, processChunk]
  have json : scope.toolArguments = concat ((jsonDeltas rest).map (·.2)) := by simp [gathers.toolArguments, processChunk]
  have used : streamedTool scope =
      (toolUses message.content).getLast?.map fun use => ⟨use.2.1, use.1, concat ((jsonDeltas rest).map (·.2))⟩ := by
    unfold streamedTool
    cases last' : (toolUses message.content).getLast? with
    | none =>
      rw [last'] at uses
      obtain ⟨toolId, -⟩ := Prod.mk.inj uses
      simp [toolId]
    | some use =>
      rw [last'] at uses
      obtain ⟨toolId, toolName⟩ := Prod.mk.inj uses
      have named := (delivers.named use (List.mem_of_getLast? last')).1
      simp [toolId, toolName, named, json]
  simp only [processChunk] at id model input
  rw [processStreamingChatResponse, commonChatLogic, telemetryOf, used, said, reason, output, read, creation, id, model, input,
    counted, identity.1, identity.2]
theorem processChatResponse_eq (cost : Nat → Nat → Cost) {first : Block Input} {others : List (Block Input)}
    (content : message.content = first :: others) :
    processChatResponse cost message = .ok (telemetryOf cost message (saidBy first)
      ((toolUses message.content).head?.map fun use => ⟨use.2.1, use.1, ToolInputs.str use.2.2⟩)
      message.usage.inputTokens message.usage.cacheReadInputTokens message.usage.cacheCreationInputTokens) := by
  rw [processChatResponse, firstToolUse_eq, content]
  cases first <;> rfl

/-- The texts agree if no block but the first has one. -/
theorem texts_agree_iff (delivers : Delivers start rest message) {first : Block Input} {others : List (Block Input)}
    (content : message.content = first :: others) :
    concat ((textDeltas rest).map (·.2)) = saidBy first ↔ ∀ block ∈ others, saidBy block = "" := by
  rw [saidBy_eq delivers (i := 0) (by rw [content]; rfl), assembled_whole delivers.indices.1]
  constructor
  · intro none block member
    obtain ⟨j, found⟩ := List.mem_iff_getElem?.mp member
    have placed : message.content[j + 1]? = some block := by rw [content, List.getElem?_cons_succ, found]
    have inside := (List.getElem?_eq_some_iff.mp placed).1
    rw [saidBy_eq delivers placed]
    exact none (j + 1) inside (Nat.succ_ne_zero j)
  · intro empty j inside later
    rw [← saidBy_eq delivers (List.getElem?_eq_getElem inside)]
    obtain ⟨k, rfl⟩ := Nat.exists_eq_succ_of_ne_zero later
    refine empty _ ?_
    simp only [content, List.getElem_cons_succ]
    exact List.getElem_mem _
/-- The attributes of the tool agree if there is at most one use, whose input Python writes as it was sent. -/
theorem tools_agree_iff (delivers : Delivers start rest message) :
    ((toolUses message.content).getLast?.map fun use => ToolAttributes.mk use.2.1 use.1 (concat ((jsonDeltas rest).map (·.2)))) =
        ((toolUses message.content).head?.map fun use => ToolAttributes.mk use.2.1 use.1 (ToolInputs.str use.2.2)) ↔
      (toolUses message.content).length ≤ 1 ∧ ∀ (i : Nat) id name input, message.content[i]? = some (.toolUse id name input) →
        ToolInputs.str input = assembledAt (jsonDeltas rest) i := by
  have used {i : Nat} {id name : String} {input : Input} (found : message.content[i]? = some (.toolUse id name input)) :
      (id, name, input) ∈ toolUses message.content :=
    List.mem_filterMap.mpr ⟨_, List.mem_of_getElem? found, rfl⟩
  cases uses : toolUses message.content with
  | nil =>
    refine iff_of_true rfl ⟨Nat.zero_le _, fun i id name input found => ?_⟩
    have member := used found
    simp [uses] at member
  | cons use others =>
    cases others with
    | nil =>
      obtain ⟨i, found, all, only⟩ := single_use delivers uses
      simp only [List.getLast?_singleton, List.head?_cons, Option.map_some, Option.some.injEq, ToolAttributes.mk.injEq, true_and,
        List.length_singleton, Nat.le_refl]
      rw [all]
      constructor
      · intro same j id name input other
        have member := used other
        rw [uses, List.mem_singleton] at member
        obtain rfl := only j _ other (by simp [useOf])
        rw [← member] at same
        exact same.symm
      · intro inputs
        exact (inputs i _ _ _ found).symm
    | cons second others =>
      refine iff_of_false (fun same => ?_) (by simp)
      have distinct := delivers.unique
      rw [uses, List.map_cons, List.nodup_cons] at distinct
      obtain ⟨last, ended⟩ := Option.isSome_iff_exists.mp (by simp : (use :: second :: others).getLast?.isSome = true)
      have later : last ∈ second :: others := by
        rw [List.getLast?_cons_cons] at ended
        exact List.mem_of_getLast? ended
      rw [ended, List.head?_cons, Option.map_some, Option.map_some, Option.some.injEq, ToolAttributes.mk.injEq] at same
      refine distinct.1 ?_
      rw [← same.2.1]
      exact List.mem_map_of_mem later

/-- A stream is recorded as its message exactly if only the first block has a
    text, no more than one tool is used and its input is sent as Python writes it,
    and no count is given only before the last one. -/
theorem message_stream_recorded_iff (delivers : Delivers start rest message) (cost : Nat → Nat → Cost) :
    Agrees (recordedStream cost (.messageStart start :: rest)) (processChatResponse cost message) ↔
      Recordable start rest message := by
  obtain ⟨last, ended⟩ := Option.isSome_iff_exists.mp (List.getLast?_isSome.mpr delivers.ended)
  rw [Agrees, recordedStream_eq delivers cost ended]
  cases content : message.content with
  | nil =>
    refine iff_of_false ?_ fun recordable => recordable.filled content
    simp [processChatResponse, content]
  | cons first others =>
    rw [← content, processChatResponse_eq cost content]
    simp only [Except.ok.injEq, telemetryOf, Telemetry.mk.injEq, true_and]
    constructor
    · rintro ⟨text, tool, input, -, read, creation⟩
      obtain ⟨single, inputs⟩ := (tools_agree_iff delivers).mp tool.symm
      refine ⟨by simp [content], ?_, single, inputs, input.symm, ?_⟩
      · rw [content]
        exact (texts_agree_iff delivers content).mp text.symm
      · intro d given
        obtain rfl := Option.some.inj (ended.symm.trans given)
        exact ⟨read, creation⟩
    · intro recordable
      have texts := recordable.texts
      rw [content] at texts
      obtain ⟨read, creation⟩ := recordable.counts last ended
      exact ⟨((texts_agree_iff delivers content).mpr texts).symm,
        ((tools_agree_iff delivers).mpr ⟨recordable.single, recordable.inputs⟩).symm, recordable.inputTokens.symm,
        by rw [recordable.inputTokens], read, creation⟩

/-! A greeting in two deltas, of which the prompt was read from the cache. No tool is used, so no input is read or written. -/

@[reducible] def noInputs : ToolInputs Unit := ⟨fun _ => none, fun _ => ""⟩
attribute [local instance] noInputs
def greetingUsage (cached : Nat) : Usage := ⟨3, 2, some 0, some cached⟩
def greetingStart (cached : Nat) : StartMessage := ⟨"msg_1", "claude-3-5-sonnet-latest", greetingUsage cached⟩
def greetingRest : List Event :=
  [.contentBlockStart 0 .text, .contentBlockDelta 0 (.text "Hel"), .ping, .contentBlockDelta 0 (.text "lo"), .contentBlockStop 0,
    .messageDelta { stopReason := some "end_turn", outputTokens := 2 }, .messageStop]
def greeting (cached : Nat) : Message Unit := ⟨"msg_1", "claude-3-5-sonnet-latest", [.text "Hello"], "end_turn", greetingUsage cached⟩

theorem greeting_delivers (cached : Nat) : Delivers (greetingStart cached) greetingRest (greeting cached) where
  identity := ⟨rfl, rfl⟩
  once := by simp [greetingRest]
  starts := rfl
  inOrder := rfl
  blocks := by
    intro i block found
    cases i with
    | succ i => simp [greeting] at found
    | zero =>
      cases found
      exact ⟨rfl, rfl⟩
  indices := by simp [textDeltas, jsonDeltas, greetingRest, greeting]
  named := by simp [toolUses, greeting, useOf]
  unique := List.nodup_nil
  ended := by simp [messageDeltas, greetingRest]
  reasons := by simp [messageDeltas, greetingRest]
  stopReason := rfl
  inputTokens := rfl
  outputTokens := by simp [messageDeltas, greetingRest, greeting, greetingUsage]
  cacheReadInputTokens := rfl
  cacheCreationInputTokens := rfl

theorem uncached_greeting_recorded :
    Agrees (recordedStream (· + ·) (.messageStart (greetingStart 0) :: greetingRest)) (processChatResponse (· + ·) (greeting 0)) := by
  refine (message_stream_recorded_iff (greeting_delivers 0) (· + ·)).mpr ⟨by simp [greeting], by simp [greeting], Nat.zero_le _, ?_, rfl, ?_⟩
  · intro i id name input found
    cases i <;> simp [greeting] at found
  · intro d given
    cases given
    exact ⟨rfl, rfl⟩

/-- Tokens that were read from the cache are forgotten when the last event does not repeat them. -/
theorem cached_tokens_lost : Delivers (greetingStart 7) greetingRest (greeting 7) ∧
    ¬ Agrees (recordedStream (· + ·) (.messageStart (greetingStart 7) :: greetingRest)) (processChatResponse (· + ·) (greeting 7)) := by
  refine ⟨greeting_delivers 7, fun agrees => ?_⟩
  have read := congrArg Telemetry.cacheReadInputTokens (Except.ok.inj agrees)
  exact absurd read (by decide)

end Openlit.AnthropicStreams
