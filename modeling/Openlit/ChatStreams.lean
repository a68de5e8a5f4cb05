import Openlit.ChatCompletions

/-!
A chat completion that is delivered as a stream of chunks, and what is recorded
of the stream beside what is recorded of the whole response. A choice's text,
calls and finish reason may be split over any chunks, and the usage comes in a
last chunk without choices.
-/
namespace Openlit.ChatStreams
open Openlit.ChatCompletions

/-! ### What a stream delivers -/

def concat (texts : List String) : String := texts.foldr (· ++ ·) ""
/-- The text that is sent once, among parts without it. -/
def sentText (texts : List String) : String := (nonEmpty texts).head?.getD ""

def assembledCall (parts : List ToolCallDelta) : ToolCall where
  id := sentText (parts.map (·.id))
  type := sentText (parts.map (·.type))
  name := sentText (parts.map (·.name))
  arguments := concat (parts.map (·.arguments))
/-- The calls of a choice in the order in which they begin. -/
def assembledCalls (parts : List ToolCallDelta) : List ToolCall :=
  (parts.map (·.index)).eraseDups.map fun i => assembledCall (parts.filter (·.index = i))

def partsOf (chunks : List SentChunk) (i : Nat) : List (ChatCompletionChunkChoice ToolCallDelta) :=
  (chunks.flatMap (·.choices)).filter (·.index = i)
def assembledChoice (chunks : List SentChunk) (i : Nat) : ChatCompletionChoice where
  index := i
  message :=
    { role := sentText ((partsOf chunks i).map (·.delta.role))
      content := concat ((partsOf chunks i).map (·.delta.content))
      toolCalls := assembledCalls ((partsOf chunks i).flatMap (·.delta.toolCalls)) }
  finishReason := sentText ((partsOf chunks i).map (·.finishReason))

/-- The chunks of a stream, when all data is chunks. -/
def sentChunks : List Line → Option (List SentChunk)
  | [] => some []
  | .skipped :: rest => sentChunks rest
  | .done :: _ => some []
  | .malformed :: _ => none
  | .data chunk :: rest => (sentChunks rest).map (chunk :: ·)

/-- A stream that delivers a response, in chunks with parts of its choices and a last one with its usage. -/
structure Delivers (lines : List Line) (body : List SentChunk) (last : SentChunk) (resp : ChatCompletionResponse) : Prop where
  sent : sentChunks lines = some (body ++ [last])
  identity : last.id = resp.id ∧ last.model = resp.model
  choices : resp.choices = (List.range resp.choices.length).map (assembledChoice body)
  indices : ∀ chunk ∈ body, ∀ choice ∈ chunk.choices, choice.index < resp.choices.length
  unfinished : last.choices = []
  usage : last.usage = resp.usage ∧ resp.usage.isSome = true

/-! ### When both record the same -/

def comparedKeys : List Key :=
  [.responseID, .responseModel, .usageInputTokens, .usageOutputTokens, .usageTotalTokens, .usageCompletionTokensDetailsReasoning,
    .usageCompletionTokensDetailsAudio, .usagePromptTokensDetailsCacheRead, .responseFinishReasons, .toolName, .toolCallID,
    .toolCallArguments, .toolType]
/-- The text that a span has of a choice, as an output message or as the completion. -/
def completionText (span : Span) (i : Nat) : String :=
  match span.get .outputMessages, span.get .completion with
  | some (.messages messages), _ => (messages[i]?.map (·.content)).getD ""
  | _, some (.string text) => if i = 0 then text else ""
  | _, _ => ""

structure Agrees (streamed whole : Span) : Prop where
  attributes : ∀ key ∈ comparedKeys, streamed.get key = whole.get key
  completions : ∀ i, completionText streamed i = completionText whole i

/-- The responses of which a stream records everything. -/
structure Recorded (capture : Bool) (body : List SentChunk) (resp : ChatCompletionResponse) : Prop where
  finishReasons : ∀ choice ∈ resp.choices, choice.finishReason = ""
  toolCalls : ∀ first ∈ resp.choices.head?, ∀ call ∈ first.message.toolCalls, call = {}
  completionDetails : ∀ usage ∈ resp.usage, ∀ details ∈ usage.completionTokensDetails,
    details.reasoningTokens ≤ 0 ∧ details.audioTokens ≤ 0
  promptDetails : ∀ usage ∈ resp.usage, ∀ details ∈ usage.promptTokensDetails, details.cachedTokens ≤ 0
  texts : capture = true → ∀ chunk ∈ body,
    (∀ first ∈ chunk.choices.head?, first.index ≠ 0 → first.delta.content = "") ∧
      ∀ choice ∈ chunk.choices.tail, choice.delta.content = ""

/-! ### Reading attributes -/

theorem get_append (a b : Span) (key : Key) : Span.get (a ++ b) key = (b.get key).or (a.get key) := by
  simp [Span.get, List.lookup_append]
@[simp] theorem get_nil (key : Key) : Span.get [] key = none := rfl
@[simp] theorem get_ite (c : Prop) [Decidable c] (a b : Span) (key : Key) :
    Span.get (if c then a else b) key = if c then a.get key else b.get key := apply_ite (Span.get · key) c a b
theorem get_singleton (k key : Key) (value : Value) : Span.get [(k, value)] key = if k = key then some value else none := by
  by_cases same : k = key
  · simp [Span.get, same]
  · simp [Span.get, List.lookup_cons, beq_eq_false_iff_ne.mpr (Ne.symm same), same]
@[simp] theorem get_setStringAttribute (k key : Key) (value : String) :
    (setStringAttribute k value).get key = if k = key ∧ value ≠ "" then some (.string value) else none := by
  by_cases sent : value = "" <;> simp [setStringAttribute, sent, get_singleton]
@[simp] theorem get_setIntAttribute (k key : Key) (value : Int) :
    (setIntAttribute k value).get key = if k = key then some (.int value) else none := get_singleton k key _
@[simp] theorem get_setStringSliceAttribute (k key : Key) (values : List String) :
    (setStringSliceAttribute k values).get key = if k = key ∧ values ≠ [] then some (.strings values) else none := by
  by_cases sent : values = [] <;> simp [setStringSliceAttribute, sent, get_singleton]
@[simp] theorem get_setMessagesAttribute (k key : Key) (messages : List Message) :
    (setMessagesAttribute k messages).get key = if k = key ∧ messages ≠ [] then some (.messages messages) else none := by
  by_cases sent : messages = [] <;> simp [setMessagesAttribute, sent, get_singleton]
@[simp] theorem get_setPositive (k key : Key) (value : Int) :
    (setPositive k value).get key = if k = key ∧ 0 < value then some (.int value) else none := by
  by_cases positive : 0 < value <;> simp [setPositive, positive]

/-! ### Texts in parts -/

@[simp] theorem concat_nil : concat [] = "" := rfl
@[simp] theorem concat_cons (text : String) (rest : List String) : concat (text :: rest) = text ++ concat rest := rfl
@[simp] theorem concat_append (a b : List String) : concat (a ++ b) = concat a ++ concat b := by
  induction a with
  | nil => simp
  | cons text rest ih => simp [ih, String.append_assoc]
theorem concat_eq_empty {texts : List String} : concat texts = "" ↔ ∀ text ∈ texts, text = "" := by
  induction texts with
  | nil => simp
  | cons text rest ih => simp [ih]
theorem concat_filter {α : Type} (p : α → Bool) (text : α → String) (xs : List α)
    (others : ∀ x ∈ xs, p x = false → text x = "") : concat ((xs.filter p).map text) = concat (xs.map text) := by
  induction xs with
  | nil => rfl
  | cons x rest ih =>
    have ih := ih fun y member => others y (List.mem_cons_of_mem x member)
    by_cases kept : p x = true
    · simp [kept, ih]
    · have empty := others x List.mem_cons_self (by simpa using kept)
      simp [kept, ih, empty]

/-- The text that the loop takes from a chunk. -/
def firstText (chunk : SentChunk) : String := (chunk.choices.head?.map (·.delta.content)).getD ""
def chunkTexts (chunk : SentChunk) : List String := chunk.choices.map (·.delta.content)

theorem first_and_rest (chunk : SentChunk) : concat (chunkTexts chunk) = firstText chunk ++ concat (chunkTexts chunk).tail := by
  cases choices : chunk.choices <;> simp [chunkTexts, firstText, choices]
theorem concat_flatMap (body : List SentChunk) :
    concat (body.flatMap chunkTexts) = concat (body.map fun chunk => firstText chunk ++ concat (chunkTexts chunk).tail) := by
  induction body with
  | nil => rfl
  | cons chunk rest ih => simp [ih, first_and_rest chunk]
theorem length_texts (body : List SentChunk) : (concat (body.flatMap chunkTexts)).length =
    (concat (body.map firstText)).length + (concat (body.flatMap fun chunk => (chunkTexts chunk).tail)).length := by
  induction body with
  | nil => simp
  | cons chunk rest ih =>
    have here := congrArg String.length (first_and_rest chunk)
    simp only [List.flatMap_cons, List.map_cons, concat_append, concat_cons, String.length_append] at here ih ⊢
    omega
/-- The first texts of the chunks are the whole text only when no other choice has any: they are too short otherwise. -/
theorem first_texts_whole (body : List SentChunk) : concat (body.map firstText) = concat (body.flatMap chunkTexts) ↔
    ∀ chunk ∈ body, ∀ text ∈ (chunkTexts chunk).tail, text = "" := by
  constructor
  · intro whole chunk member text other
    have lengths := length_texts body
    rw [whole] at lengths
    have none : concat (body.flatMap fun chunk => (chunkTexts chunk).tail) = "" :=
      String.length_eq_zero_iff.mp (by omega)
    exact concat_eq_empty.mp none text (List.mem_flatMap.mpr ⟨chunk, member, other⟩)
  · intro others
    rw [concat_flatMap]
    refine congrArg concat (List.map_congr_left fun chunk member => ?_)
    rw [concat_eq_empty.mpr (others chunk member), String.append_empty]

/-! ### Reading a stream -/

theorem firstText_unmarshal (reading : Reading) (chunk : SentChunk) :
    reading.next (unmarshal chunk) = ⟨some (unmarshal chunk), reading.accumulatedContent ++ firstText chunk⟩ := by
  cases choices : chunk.choices <;> simp [Reading.next, unmarshal, firstText, choices]
/-- The loop keeps the last chunk and the first texts of those before it. -/
theorem readLines_sent {lines : List Line} {chunks : List SentChunk} (sent : sentChunks lines = some chunks) (reading : Reading) :
    readLines lines reading = .ok
      ⟨(chunks.getLast?.map unmarshal).or reading.lastChunk, reading.accumulatedContent ++ concat (chunks.map firstText)⟩ := by
  induction lines generalizing chunks reading with
  | nil =>
    cases sent
    simp [readLines, pure, Except.pure]
  | cons line rest ih =>
    cases line with
    | skipped => exact ih sent reading
    | malformed => exact nomatch sent
    | done =>
      cases sent
      simp [readLines, pure, Except.pure]
    | data chunk =>
      obtain ⟨later, sentLater, rfl⟩ := Option.map_eq_some_iff.mp sent
      rw [readLines, ih sentLater, firstText_unmarshal]
      cases later <;> simp [List.getLast?_cons, String.append_assoc]

theorem readStream_delivers {lines : List Line} {body : List SentChunk} {last : SentChunk} {resp : ChatCompletionResponse}
    (delivers : Delivers lines body last resp) (capture : Bool) :
    readStream capture lines = streamAttributes capture ⟨some (unmarshal last), concat (body.map firstText)⟩ := by
  have none : firstText last = "" := by simp [firstText, delivers.unfinished]
  rw [readStream, readLines_sent delivers.sent]
  simp [none]

/-! ### What both record -/

/-- The text of a choice, from the parts of it. -/
def textOf (body : List SentChunk) (i : Nat) : String := concat ((partsOf body i).map (·.delta.content))

theorem mem_partsOf {body : List SentChunk} {i : Nat} {choice : ChatCompletionChunkChoice ToolCallDelta} :
    choice ∈ partsOf body i ↔ (∃ chunk ∈ body, choice ∈ chunk.choices) ∧ choice.index = i := by
  simp [partsOf]
theorem textOf_empty {body : List SentChunk} {i : Nat} : textOf body i = "" ↔
    ∀ chunk ∈ body, ∀ choice ∈ chunk.choices, choice.index = i → choice.delta.content = "" := by
  simp only [textOf, concat_eq_empty, List.mem_map, mem_partsOf]
  constructor
  · intro empty chunk member choice part same
    exact empty _ ⟨choice, ⟨⟨chunk, member, part⟩, same⟩, rfl⟩
  · rintro empty _ ⟨choice, ⟨⟨chunk, member, part⟩, same⟩, rfl⟩
    exact empty chunk member choice part same
theorem textOf_only {body : List SentChunk} {i : Nat} (others : ∀ j, j ≠ i → textOf body j = "") :
    textOf body i = concat (body.flatMap chunkTexts) := by
  rw [textOf, partsOf, concat_filter]
  · rw [List.map_flatMap]
    rfl
  · intro choice member other
    obtain ⟨chunk, sent, part⟩ := List.mem_flatMap.mp member
    exact textOf_empty.mp (others choice.index (by simpa using other)) chunk sent choice part rfl

theorem text_of_choice {lines : List Line} {body : List SentChunk} {last : SentChunk} {resp : ChatCompletionResponse}
    (delivers : Delivers lines body last resp) (i : Nat) :
    (resp.choices[i]?.map (·.message.content)).getD "" = textOf body i := by
  by_cases bound : i < resp.choices.length
  · rw [delivers.choices]
    simp [bound, assembledChoice, textOf]
  · have none : textOf body i = "" := textOf_empty.mpr fun chunk sent choice part same =>
      absurd (delivers.indices chunk sent choice part) (by omega)
    simp [none, List.getElem?_eq_none (Nat.le_of_not_lt bound)]

theorem get_usageAttributes (usage : Usage) (key : Key) : (usageAttributes usage).get key =
    if key = .usageInputTokens then some (.int usage.promptTokens)
    else if key = .usageOutputTokens then some (.int usage.completionTokens)
    else if key = .usageTotalTokens then some (.int usage.totalTokens) else none := by
  cases key <;> simp [usageAttributes, get_append]

def toolKeys : List Key := [.toolName, .toolCallID, .toolCallArguments, .toolType]
theorem get_toolCallAttributes (calls : List ToolCall) (key : Key) (other : key ∉ toolKeys) :
    (toolCallAttributes calls).get key = none := by
  cases key <;> simp_all [toolKeys, toolCallAttributes, get_append]

def detailKeys : List Key :=
  [.usageCompletionTokensDetailsReasoning, .usageCompletionTokensDetailsAudio, .usagePromptTokensDetailsCacheRead]
/-- A count that a response may have, of which zero is not recorded. -/
def positive (count : Option Int) : Option Value := (count.filter (0 < ·)).map .int
theorem positive_none {count : Option Int} : positive count = none ↔ ∀ n ∈ count, n ≤ 0 := by
  cases count <;> simp [positive, Option.filter]
theorem get_detailAttributes (usage : Usage) (key : Key) : (detailAttributes usage).get key =
    if key = .usageCompletionTokensDetailsReasoning then positive (usage.completionTokensDetails.map (·.reasoningTokens))
    else if key = .usageCompletionTokensDetailsAudio then positive (usage.completionTokensDetails.map (·.audioTokens))
    else if key = .usagePromptTokensDetailsCacheRead then positive (usage.promptTokensDetails.map (·.cachedTokens))
    else none := by
  obtain ⟨_, _, _, completion, prompt⟩ := usage
  cases completion <;> cases prompt <;> cases key <;>
    simp [detailAttributes, get_append, positive, Option.filter, apply_ite]

theorem toolCallAttributes_nil (key : Key) : (toolCallAttributes []).get key = none := by
  cases key <;> simp [toolCallAttributes, get_append, nonEmpty, join, String.intercalate_nil]
/-- What a whole response sets, part by part; each part sets keys of its own. -/
theorem get_whole (capture : Bool) (resp : ChatCompletionResponse) (key : Key) : (setResponseAttributes capture resp).get key =
    match key with
    | .responseID => (setStringAttribute .responseID resp.id).get key
    | .responseModel => (setStringAttribute .responseModel resp.model).get key
    | .openAIResponseSystemFingerprint => (setStringAttribute .openAIResponseSystemFingerprint resp.systemFingerprint).get key
    | .openAIResponseServiceTier => (setStringAttribute .openAIResponseServiceTier resp.serviceTier).get key
    | .responseFinishReasons =>
      (setStringSliceAttribute .responseFinishReasons (nonEmpty (resp.choices.map (·.finishReason)))).get key
    | .toolName | .toolCallID | .toolCallArguments | .toolType =>
      resp.choices.head?.bind fun first => (toolCallAttributes first.message.toolCalls).get key
    | .usageInputTokens | .usageOutputTokens | .usageTotalTokens =>
      resp.usage.bind fun usage => (usageAttributes usage).get key
    | .usageCompletionTokensDetailsReasoning | .usageCompletionTokensDetailsAudio | .usagePromptTokensDetailsCacheRead =>
      resp.usage.bind fun usage => (detailAttributes usage).get key
    | .completion => none
    | .outputMessages => if capture = true then
        (setMessagesAttribute .outputMessages
          (resp.choices.map fun choice => ⟨choice.message.role, choice.message.content⟩)).get key else none := by
  obtain ⟨id, model, choices, usage, systemFingerprint, serviceTier⟩ := resp
  have calls (first : ChatCompletionChoice) :
      (if first.message.toolCalls = [] then none else (toolCallAttributes first.message.toolCalls).get key) =
        (toolCallAttributes first.message.toolCalls).get key := by
    split
    · next none => rw [none, toolCallAttributes_nil]
    · rfl
  cases key <;> cases choices <;> cases usage <;>
    simp [setResponseAttributes, get_append, get_usageAttributes, get_detailAttributes, calls, get_toolCallAttributes, toolKeys, nonEmpty]

/-- What a stream sets whose last chunk has no choices. -/
theorem get_streamed {chunk : ChatCompletionChunk ToolCall} (unfinished : chunk.choices = []) (capture : Bool) (text : String) (key : Key) :
    (streamAttributes capture ⟨some chunk, text⟩).get key =
    match key with
    | .responseID => (setStringAttribute .responseID chunk.id).get key
    | .responseModel => (setStringAttribute .responseModel chunk.model).get key
    | .openAIResponseSystemFingerprint => (setStringAttribute .openAIResponseSystemFingerprint chunk.systemFingerprint).get key
    | .openAIResponseServiceTier => (setStringAttribute .openAIResponseServiceTier chunk.serviceTier).get key
    | .usageInputTokens | .usageOutputTokens | .usageTotalTokens =>
      chunk.usage.bind fun usage => (usageAttributes usage).get key
    | .completion => if capture = true then (setStringAttribute .completion text).get key else none
    | _ => none := by
  obtain ⟨id, model, choices, usage, systemFingerprint, serviceTier⟩ := chunk
  subst unfinished
  cases key <;> cases usage <;>
    simp [streamAttributes, lastChunkAttributes, get_append, get_usageAttributes, nonEmpty]

theorem completionText_streamed {chunk : ChatCompletionChunk ToolCall} (unfinished : chunk.choices = [])
    (capture : Bool) (text : String) (i : Nat) :
    completionText (streamAttributes capture ⟨some chunk, text⟩) i = if capture = true ∧ i = 0 then text else "" := by
  rw [completionText, get_streamed unfinished, get_streamed unfinished]
  by_cases empty : text = ""
  · simp [empty]
  · cases capture <;> simp [empty]
theorem completionText_whole (capture : Bool) (resp : ChatCompletionResponse) (i : Nat) :
    completionText (setResponseAttributes capture resp) i =
      if capture = true then (resp.choices[i]?.map (·.message.content)).getD "" else "" := by
  rw [completionText, get_whole, get_whole]
  cases capture with
  | false => simp
  | true =>
    cases choices : resp.choices with
    | nil => simp
    | cons first rest =>
      simp only [get_setMessagesAttribute, List.map_cons, ne_eq, reduceCtorEq, not_false_eq_true, and_true, ite_true]
      rw [← List.map_cons (f := fun choice : ChatCompletionChoice => Message.mk choice.message.role choice.message.content)]
      rw [List.getElem?_map, Option.map_map]
      rfl

/-! ### When they differ -/

/-- What a stream never records. -/
def unrecordedKeys : List Key := .responseFinishReasons :: toolKeys ++ detailKeys
theorem streamed_unrecorded {chunk : ChatCompletionChunk ToolCall} (unfinished : chunk.choices = []) (capture : Bool) (text : String)
    {key : Key} (member : key ∈ unrecordedKeys) : (streamAttributes capture ⟨some chunk, text⟩).get key = none := by
  rw [get_streamed unfinished]
  cases key <;> simp_all [unrecordedKeys, toolKeys, detailKeys]
theorem attributes_agree {chunk : ChatCompletionChunk ToolCall} {resp : ChatCompletionResponse} (unfinished : chunk.choices = [])
    (identity : chunk.id = resp.id ∧ chunk.model = resp.model) (usage : chunk.usage = resp.usage) (capture : Bool) (text : String) :
    (∀ key ∈ comparedKeys, (streamAttributes capture ⟨some chunk, text⟩).get key = (setResponseAttributes capture resp).get key) ↔
      ∀ key ∈ unrecordedKeys, (setResponseAttributes capture resp).get key = none := by
  constructor
  · intro agree key member
    have compared : ∀ key ∈ unrecordedKeys, key ∈ comparedKeys := by decide
    rw [← agree key (compared key member), streamed_unrecorded unfinished capture text member]
  · intro unset key member
    by_cases unrecorded : key ∈ unrecordedKeys
    · rw [unset key unrecorded, streamed_unrecorded unfinished capture text unrecorded]
    · rw [get_streamed unfinished, get_whole, identity.1, identity.2, usage]
      cases key <;> simp_all [comparedKeys, unrecordedKeys, toolKeys, detailKeys]

theorem nonEmpty_nil {α : Type} {text : α → String} {xs : List α} : nonEmpty (xs.map text) = [] ↔ ∀ x ∈ xs, text x = "" := by
  simp [nonEmpty]
theorem join_empty {texts : List String} : join (nonEmpty texts) = "" ↔ nonEmpty texts = [] := by
  constructor
  · intro empty
    cases sent : nonEmpty texts with
    | nil => rfl
    | cons text rest =>
      have written : text ≠ "" := by
        have member : text ∈ nonEmpty texts := by simp [sent]
        simpa [nonEmpty] using (List.mem_filter.mp member).2
      cases rest <;> simp_all [join]
  · intro none
    rw [none]
    rfl
theorem toolCalls_unset {calls : List ToolCall} :
    (∀ key ∈ toolKeys, (toolCallAttributes calls).get key = none) ↔ ∀ call ∈ calls, call = {} := by
  simp only [toolKeys, List.forall_mem_cons, toolCallAttributes, get_append]
  simp only [get_setStringAttribute, get_setStringSliceAttribute, reduceCtorEq, false_and, if_false, true_and, Option.none_or,
    Option.or_none, ite_eq_right_iff, imp_false, ne_eq, not_not, join_empty, nonEmpty_nil]
  constructor
  · rintro ⟨names, ids, arguments, types, -⟩ ⟨id, type, name, args⟩ member
    have name := names _ member
    have id := ids _ member
    have args := arguments _ member
    have type := types _ member
    simp_all
  · intro empty
    have unset (text : ToolCall → String) (nothing : text {} = "") : ∀ call ∈ calls, text call = "" := by
      intro call member
      rw [empty call member, nothing]
    exact ⟨unset (·.name) rfl, unset (·.id) rfl, unset (·.arguments) rfl, unset (·.type) rfl, fun _ member => nomatch member⟩
theorem details_unset {usage : Usage} : (∀ key ∈ detailKeys, (detailAttributes usage).get key = none) ↔
    (∀ details ∈ usage.completionTokensDetails, details.reasoningTokens ≤ 0 ∧ details.audioTokens ≤ 0) ∧
      ∀ details ∈ usage.promptTokensDetails, details.cachedTokens ≤ 0 := by
  simp only [detailKeys, List.forall_mem_cons, get_detailAttributes, reduceCtorEq, if_true, if_false, positive_none]
  cases usage.completionTokensDetails <;> cases usage.promptTokensDetails <;> simp [and_assoc]

theorem whole_unset (capture : Bool) (resp : ChatCompletionResponse) :
    (∀ key ∈ unrecordedKeys, (setResponseAttributes capture resp).get key = none) ↔
      (∀ choice ∈ resp.choices, choice.finishReason = "") ∧
      (∀ first ∈ resp.choices.head?, ∀ call ∈ first.message.toolCalls, call = {}) ∧
      ∀ usage ∈ resp.usage, (∀ details ∈ usage.completionTokensDetails, details.reasoningTokens ≤ 0 ∧ details.audioTokens ≤ 0) ∧
        ∀ details ∈ usage.promptTokensDetails, details.cachedTokens ≤ 0 := by
  have finishReasons : (setResponseAttributes capture resp).get .responseFinishReasons = none ↔
      ∀ choice ∈ resp.choices, choice.finishReason = "" := by
    simp only [get_whole, get_setStringSliceAttribute, true_and, ite_eq_right_iff, reduceCtorEq, imp_false, ne_eq, not_not,
      nonEmpty_nil]
  have toolCalls : (∀ key ∈ toolKeys, (setResponseAttributes capture resp).get key = none) ↔
      ∀ first ∈ resp.choices.head?, ∀ call ∈ first.message.toolCalls, call = {} := by
    have read : ∀ key ∈ toolKeys, (setResponseAttributes capture resp).get key =
        resp.choices.head?.bind fun first => (toolCallAttributes first.message.toolCalls).get key := by
      intro key member
      rw [get_whole]
      cases key <;> simp_all [toolKeys]
    simp only [← toolCalls_unset]
    constructor
    · intro unset first head key member
      exact Option.bind_eq_none_iff.mp ((read key member).symm.trans (unset key member)) first head
    · intro unset key member
      rw [read key member, Option.bind_eq_none_iff]
      exact fun first head => unset first head key member
  have details : (∀ key ∈ detailKeys, (setResponseAttributes capture resp).get key = none) ↔
      ∀ usage ∈ resp.usage, (∀ details ∈ usage.completionTokensDetails, details.reasoningTokens ≤ 0 ∧ details.audioTokens ≤ 0) ∧
        ∀ details ∈ usage.promptTokensDetails, details.cachedTokens ≤ 0 := by
    have read : ∀ key ∈ detailKeys, (setResponseAttributes capture resp).get key =
        resp.usage.bind fun usage => (detailAttributes usage).get key := by
      intro key member
      rw [get_whole]
      cases key <;> simp_all [detailKeys]
    simp only [← details_unset]
    constructor
    · intro unset usage given key member
      exact Option.bind_eq_none_iff.mp ((read key member).symm.trans (unset key member)) usage given
    · intro unset key member
      rw [read key member, Option.bind_eq_none_iff]
      exact fun usage given => unset usage given key member
  rw [unrecordedKeys, List.cons_append, List.forall_mem_cons, List.forall_mem_append, finishReasons, toolCalls, details]

theorem texts_agree (body : List SentChunk) :
    (∀ i, (if i = 0 then concat (body.map firstText) else "") = textOf body i) ↔
      ∀ chunk ∈ body, (∀ first ∈ chunk.choices.head?, first.index ≠ 0 → first.delta.content = "") ∧
        ∀ choice ∈ chunk.choices.tail, choice.delta.content = "" := by
  constructor
  · intro agree chunk member
    have others : ∀ j, j ≠ 0 → textOf body j = "" := by
      intro j later
      simpa [later] using (agree j).symm
    have whole : concat (body.map firstText) = concat (body.flatMap chunkTexts) := by
      rw [← textOf_only others]
      simpa using agree 0
    refine ⟨fun first head later => ?_, fun choice later => ?_⟩
    · exact textOf_empty.mp (others first.index later) chunk member first (List.mem_of_mem_head? head) rfl
    · refine (first_texts_whole body).mp whole chunk member _ ?_
      rw [chunkTexts, ← List.map_tail]
      exact List.mem_map_of_mem later
  · intro texts
    have others : ∀ j, j ≠ 0 → textOf body j = "" := by
      intro j later
      refine textOf_empty.mpr fun chunk member choice part same => ?_
      cases choices : chunk.choices with
      | nil => simp [choices] at part
      | cons first rest =>
        obtain ⟨head, tail⟩ := texts chunk member
        simp only [choices] at head tail part
        cases part with
        | head => exact head choice rfl (same ▸ later)
        | tail _ part => exact tail choice part
    have whole : concat (body.map firstText) = concat (body.flatMap chunkTexts) := by
      refine (first_texts_whole body).mpr fun chunk member text later => ?_
      rw [chunkTexts, ← List.map_tail] at later
      obtain ⟨choice, tail, rfl⟩ := List.mem_map.mp later
      exact (texts chunk member).2 choice tail
    intro i
    by_cases zero : i = 0
    · simp [zero, whole, textOf_only others]
    · simp [zero, others i zero]

/-- A stream is recorded as its response is exactly when the response has nothing that streams leave out. -/
theorem stream_recorded_as_response {lines : List Line} {body : List SentChunk} {last : SentChunk} {resp : ChatCompletionResponse}
    (delivers : Delivers lines body last resp) (capture : Bool) :
    Agrees (readStream capture lines) (setResponseAttributes capture resp) ↔ Recorded capture body resp := by
  have unfinished : (unmarshal last).choices = [] := by simp [unmarshal, delivers.unfinished]
  have attributes := (attributes_agree unfinished delivers.identity delivers.usage.1 capture
    (concat (body.map firstText))).trans (whole_unset capture resp)
  have completions : (∀ i, completionText (readStream capture lines) i = completionText (setResponseAttributes capture resp) i) ↔
      (capture = true → ∀ i, (if i = 0 then concat (body.map firstText) else "") = textOf body i) := by
    rw [readStream_delivers delivers]
    cases capture <;>
      simp [completionText_streamed unfinished, completionText_whole, text_of_choice delivers]
  rw [texts_agree] at completions
  rw [← readStream_delivers delivers] at attributes
  constructor
  · rintro ⟨same, texts⟩
    obtain ⟨finishReasons, toolCalls, details⟩ := attributes.mp same
    exact ⟨finishReasons, toolCalls, fun usage given => (details usage given).1, fun usage given => (details usage given).2,
      completions.mp texts⟩
  · intro recorded
    exact ⟨attributes.mpr ⟨recorded.finishReasons, recorded.toolCalls,
      fun usage given => ⟨recorded.completionDetails usage given, recorded.promptDetails usage given⟩⟩,
      completions.mpr recorded.texts⟩

/-! ### An answer in two chunks -/

def greeting (finishReason : String) : List SentChunk :=
  [⟨"chatcmpl-1", "gpt-4o", [⟨0, { role := "assistant", content := "Hel" }, ""⟩], none, "", ""⟩,
    ⟨"chatcmpl-1", "gpt-4o", [⟨0, { content := "lo" }, finishReason⟩], none, "", ""⟩]
def greetingUsage : Usage := { promptTokens := 9, completionTokens := 2, totalTokens := 11 }
def greetingEnd : SentChunk := ⟨"chatcmpl-1", "gpt-4o", [], some greetingUsage, "", ""⟩
def greetingLines (finishReason : String) : List Line :=
  ((greeting finishReason ++ [greetingEnd]).flatMap fun chunk => [.data chunk, .skipped]) ++ [.done]
def greetingResponse (finishReason : String) : ChatCompletionResponse where
  id := "chatcmpl-1"
  model := "gpt-4o"
  choices := [⟨0, { role := "assistant", content := "Hello" }, finishReason⟩]
  usage := some greetingUsage

/-- An answer that is cut off has no finish reason. -/
theorem cut_off_greeting_recorded :
    Agrees (readStream true (greetingLines "")) (setResponseAttributes true (greetingResponse "")) := by
  have delivers : Delivers (greetingLines "") (greeting "") greetingEnd (greetingResponse "") :=
    ⟨by decide +kernel, by decide +kernel, by decide +kernel, by decide +kernel, by decide +kernel, by decide +kernel⟩
  refine (stream_recorded_as_response delivers true).mpr ⟨?_, ?_, ?_, ?_, ?_⟩
  all_goals decide +kernel

theorem finish_reason_not_recorded : ¬ ∀ (lines : List Line) (body : List SentChunk) (last : SentChunk) (resp : ChatCompletionResponse),
    Delivers lines body last resp → ∀ capture, Agrees (readStream capture lines) (setResponseAttributes capture resp) := by
  intro agree
  have delivers : Delivers (greetingLines "stop") (greeting "stop") greetingEnd (greetingResponse "stop") :=
    ⟨by decide +kernel, by decide +kernel, by decide +kernel, by decide +kernel, by decide +kernel, by decide +kernel⟩
  have agree := (agree _ _ _ _ delivers true).attributes .responseFinishReasons (by decide)
  exact absurd agree (by decide +kernel)

end Openlit.ChatStreams
