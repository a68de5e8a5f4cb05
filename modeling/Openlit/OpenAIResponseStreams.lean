import Openlit.Fragments
import Openlit.OpenAIResponses

/-!
A response of the Responses API that is delivered as a stream of events, and what
is recorded of the stream beside what is recorded of the whole response. The
events of different items and parts may come in any order; those of one call
begin with its item, and what comes after its deltas repeats what it is.
-/
namespace Openlit.OpenAIResponseStreams
open Openlit.ChatCompletions (join nonEmpty)
open Openlit.ChatStreams (concat concat_nil concat_cons concat_append concat_eq_empty)
open Openlit.Fragments Openlit.OpenAIResponses Openlit.Python Openlit.Text
open Openlit.OpenAIChat (ToolAttributes joinAll)

/-! ### What a stream delivers -/

def callOf : Item → Option FunctionCall
  | .functionCall call => some call
  | _ => none
def callsOf (output : List Item) : List FunctionCall := output.filterMap callOf
def isMessage : Item → Bool
  | .message _ => true
  | _ => false
/-- A part of a message by the indices that the events have. -/
def partAt (output : List Item) (outputIndex contentIndex : Nat) : Option Part :=
  match output[outputIndex]? with
  | some (.message content) => content[contentIndex]?
  | _ => none

def textDeltas (events : List Event) : List ((Nat × Nat) × String) := events.filterMap fun
  | .outputTextDelta outputIndex contentIndex delta => some ((outputIndex, contentIndex), delta)
  | _ => none
def addedCalls (events : List Event) : List FunctionCall := events.filterMap fun
  | .outputItemAdded item => callOf item
  | _ => none
def assembledAt (deltas : List ((Nat × Nat) × String)) (position : Nat × Nat) : String :=
  concat ((deltas.filter (·.1 = position)).map (·.2))

/-- What an event says of a call. -/
inductive CallEvent where
  | added (call : FunctionCall)
  | delta (delta : String)
  | argumentsDone (arguments : String)
  | done (call : FunctionCall)
  deriving DecidableEq, Repr
def callEvent (itemId : String) : Event → Option CallEvent
  | .outputItemAdded (.functionCall call) => if call.id = itemId then some (.added call) else none
  | .functionCallArgumentsDelta id delta => if id = itemId then some (.delta delta) else none
  | .functionCallArgumentsDone id arguments => if id = itemId then some (.argumentsDone arguments) else none
  | .outputItemDone (.functionCall call) => if call.id = itemId then some (.done call) else none
  | _ => none
def callEvents (events : List Event) (itemId : String) : List CallEvent := events.filterMap (callEvent itemId)

/-- The events of a call: it is added with its name, its arguments come in deltas, and what is said at the end is what it is. -/
def DeliversCall (events : List CallEvent) (call : FunctionCall) : Prop :=
  ∃ start deltas later, events = .added start :: (deltas.map .delta ++ later) ∧ start.callId = call.callId ∧ start.name = call.name ∧
    start.arguments ++ concat deltas = call.arguments ∧ ∀ e ∈ later, e = .argumentsDone call.arguments ∨ e = .done call
def isTerminal : Event → Bool
  | .completed _ | .incomplete _ => true
  | _ => false
/-- The last event of a stream. -/
def terminal (response : Response) : Event := if response.status = "completed" then .completed response else .incomplete response
/-- The events before the last one of a stream that delivers a response. -/
structure Delivers (body : List Event) (response : Response) : Prop where
  status : response.status = "completed" ∨ response.status = "incomplete"
  unfinished : ∀ e ∈ body, isTerminal e = false
  added : (addedCalls body).map (·.id) = (callsOf response.output).map (·.id)
  distinct : ((callsOf response.output).map (·.id)).Nodup
  calls : ∀ call ∈ callsOf response.output, DeliversCall (callEvents body call.id) call
  named : ∀ call ∈ callsOf response.output, call.callId ≠ ""
  texts : ∀ i c part, partAt response.output i c = some part → assembledAt (textDeltas body) (i, c) = part.text
  inside : ∀ d ∈ textDeltas body, (partAt response.output d.1.1 d.1.2).isSome = true

/-! ### When both record the same -/

variable {Cost : Type}

/-- Both record, and record the same. -/
def Agrees (streamed whole : Except PyError (Recorded Cost)) : Prop :=
  ∃ s w, streamed = .ok s ∧ whole = .ok w ∧ s.toTelemetry = w.toTelemetry

/-- The responses of which a stream records everything. -/
structure Recordable (response : Response) : Prop where
  completed : response.status = "completed"
  usage : response.usage ≠ none
  texts : ∀ i c part, partAt response.output i c = some part → (i, c) ≠ (response.output.findIdx isMessage, 0) → part.text = ""
  single : (callsOf response.output).length ≤ 1
  early : callsOf (response.output.dropWhile (!isMessage ·)) = []

/-! ### The calls of a stream -/

def CallEvent.apply (tool : Option FunctionCall) : CallEvent → Option FunctionCall
  | .added call => some call
  | .delta more => tool.map (appendArguments more)
  | .argumentsDone arguments => tool.map (setArguments arguments)
  | .done call => tool.map (complete call)
/-- What a stream knows of a call. -/
def toolAfter (events : List Event) (itemId : String) : Option FunctionCall := (callEvents events itemId).foldl CallEvent.apply none
theorem toolAfter_concat (events : List Event) (e : Event) (itemId : String) :
    toolAfter (events ++ [e]) itemId =
      match callEvent itemId e with
      | none => toolAfter events itemId
      | some said => said.apply (toolAfter events itemId) := by
  rw [toolAfter, callEvents, List.filterMap_append, List.foldl_append]
  cases said : callEvent itemId e <;> simp [said, toolAfter, callEvents]
/-- Updating the first of some tools with different ids updates the one with the id. -/
theorem updateTool_eq {tools : List FunctionCall} (distinct : (tools.map (·.id)).Nodup) (itemId : String)
    (update : FunctionCall → FunctionCall) :
    updateTool itemId update tools = tools.map fun tool => if tool.id = itemId then update tool else tool := by
  induction tools with
  | nil => rfl
  | cons tool rest ih =>
    rw [List.map_cons, List.nodup_cons] at distinct
    rw [updateTool, List.map_cons]
    by_cases same : tool.id = itemId
    · have others : rest.map (fun tool => if tool.id = itemId then update tool else tool) = rest := by
        refine (List.map_congr_left fun other member => ?_).trans (List.map_id rest)
        have different : other.id ≠ itemId := by
          rintro rfl
          exact distinct.1 (same ▸ List.mem_map_of_mem member)
        rw [if_neg different]
        rfl
      rw [if_pos same, if_pos same, others]
    · rw [if_neg same, if_neg same, ih distinct.2]

theorem getD_map_updateTool (itemId : String) (update : FunctionCall → FunctionCall) (tools : Option (List FunctionCall)) :
    (tools.map (updateTool itemId update)).getD [] = updateTool itemId update (tools.getD []) := by
  cases tools <;> rfl

/-- What a scope has of the events before the last one. -/
structure Gathered (events : List Event) (scope : Scope) : Prop where
  llmresponse : scope.llmresponse = concat ((textDeltas events).map (·.2))
  ids : (scope.responseTools.getD []).map (·.id) = (addedCalls events).map (·.id)
  tools : ∀ tool ∈ scope.responseTools.getD [], toolAfter events tool.id = some tool
  initial : scope = { llmresponse := scope.llmresponse, responseTools := scope.responseTools }

theorem Gathered.opened {events : List Event} {scope : Scope} (before : Gathered events scope) :
    Gathered events { scope with responseTools := some (scope.responseTools.getD []) } :=
  ⟨before.llmresponse, before.ids, before.tools,
    congrArg (fun s : Scope => { s with responseTools := some (scope.responseTools.getD []) }) before.initial⟩
/-- An event that says nothing of texts and calls. -/
theorem Gathered.silent {events : List Event} {scope : Scope} (before : Gathered events scope) {e : Event}
    (texts : textDeltas [e] = []) (calls : ∀ itemId, callEvent itemId e = none) : Gathered (events ++ [e]) scope := by
  have none : addedCalls [e] = [] := by
    cases e with
    | outputItemAdded item =>
      cases item with
      | functionCall call => simp [callEvent] at calls
      | _ => rfl
    | _ => rfl
  constructor
  · rw [textDeltas, List.filterMap_append, ← textDeltas, ← textDeltas, texts, List.append_nil]
    exact before.llmresponse
  · rw [addedCalls, List.filterMap_append, ← addedCalls, ← addedCalls, none, List.append_nil]
    exact before.ids
  · intro tool member
    rw [toolAfter_concat, calls]
    exact before.tools tool member
  · exact before.initial
/-- An event that updates the tool with an id. -/
theorem Gathered.update {events : List Event} {scope : Scope} (before : Gathered events scope)
    (distinct : ((addedCalls events).map (·.id)).Nodup) {e : Event} {itemId : String} {said : CallEvent}
    {change : FunctionCall → FunctionCall} (texts : textDeltas [e] = []) (added : addedCalls [e] = [])
    (tells : ∀ id, callEvent id e = if itemId = id then some said else none) (applies : ∀ tool, said.apply tool = tool.map change)
    (same : ∀ tool, (change tool).id = tool.id) :
    Gathered (events ++ [e]) { scope with responseTools := scope.responseTools.map (updateTool itemId change) } := by
  rw [← before.ids] at distinct
  have changed := updateTool_eq distinct itemId change
  constructor
  · rw [textDeltas, List.filterMap_append, ← textDeltas, ← textDeltas, texts, List.append_nil]
    exact before.llmresponse
  · rw [addedCalls, List.filterMap_append, ← addedCalls, ← addedCalls, added, List.append_nil, ← before.ids, getD_map_updateTool,
      changed, List.map_map]
    refine List.map_congr_left fun tool _ => ?_
    by_cases this : tool.id = itemId
    · simp [this, same]
    · simp [this]
  · rw [getD_map_updateTool, changed, List.forall_mem_map]
    intro tool member
    have known := before.tools tool member
    by_cases this : tool.id = itemId
    · rw [if_pos this, toolAfter_concat, same, tells, if_pos this.symm]
      exact (applies _).trans (congrArg (Option.map change) known)
    · rw [if_neg this, toolAfter_concat, tells, if_neg (Ne.symm this)]
      exact known
  · exact congrArg (fun s : Scope => { s with responseTools := scope.responseTools.map (updateTool itemId change) }) before.initial
/-- The first message about a call adds it. -/
theorem Gathered.add {events : List Event} {scope : Scope} (before : Gathered events scope) {call : FunctionCall}
    (distinct : ((addedCalls (events ++ [.outputItemAdded (.functionCall call)])).map (·.id)).Nodup) :
    Gathered (events ++ [.outputItemAdded (.functionCall call)])
      { scope with responseTools := some (scope.responseTools.getD [] ++ [call]) } := by
  have added : addedCalls (events ++ [.outputItemAdded (.functionCall call)]) = addedCalls events ++ [call] := by
    simp [addedCalls, callOf]
  rw [added, List.map_append, ← before.ids, List.nodup_append] at distinct
  constructor
  · simpa [textDeltas] using before.llmresponse
  · simp [added, before.ids]
  · intro tool member
    rw [Option.getD_some, List.mem_append, List.mem_singleton] at member
    rcases member with member | rfl
    · have other : call.id ≠ tool.id := by
        have apart := distinct.2.2 _ (List.mem_map_of_mem member) call.id (by simp)
        exact Ne.symm apart
      rw [toolAfter_concat, callEvent, if_neg other]
      exact before.tools tool member
    · rw [toolAfter_concat, callEvent, if_pos rfl]
      rfl
  · exact congrArg (fun s : Scope => { s with responseTools := some (scope.responseTools.getD [] ++ [call]) }) before.initial

theorem processResponseChunk_gathered {events : List Event} {scope : Scope} (before : Gathered events scope) {e : Event}
    (distinct : ((addedCalls (events ++ [e])).map (·.id)).Nodup) (unfinished : isTerminal e = false) :
    Gathered (events ++ [e]) (processResponseChunk scope e).1 ∧ (processResponseChunk scope e).2 = none := by
  have earlier : ((addedCalls events).map (·.id)).Nodup := by
    rw [addedCalls, List.filterMap_append, ← addedCalls, List.map_append] at distinct
    exact (List.nodup_append.mp distinct).1
  cases e with
  | outputTextDelta i c delta =>
    refine ⟨⟨?_, ?_, ?_, ?_⟩, rfl⟩
    · simp [processResponseChunk, textDeltas, before.llmresponse]
    · simpa [processResponseChunk, addedCalls] using before.ids
    · intro tool member
      rw [toolAfter_concat]
      exact before.tools tool member
    · exact congrArg (fun s : Scope => { s with llmresponse := scope.llmresponse ++ delta }) before.initial
  | outputItemAdded item =>
    cases item with
    | functionCall call => exact ⟨before.add distinct, rfl⟩
    | _ => exact ⟨before.opened.silent rfl fun _ => rfl, rfl⟩
  | functionCallArgumentsDelta itemId delta =>
    exact ⟨before.update earlier rfl rfl (fun _ => rfl) (fun _ => rfl) (fun _ => rfl), rfl⟩
  | functionCallArgumentsDone itemId arguments =>
    exact ⟨before.update earlier rfl rfl (fun _ => rfl) (fun _ => rfl) (fun _ => rfl), rfl⟩
  | outputItemDone item =>
    cases item with
    | functionCall call => exact ⟨before.update earlier rfl rfl (fun _ => rfl) (fun _ => rfl) (fun _ => rfl), rfl⟩
    | _ => exact ⟨before.silent rfl fun _ => rfl, rfl⟩
  | completed response => cases unfinished
  | incomplete response => cases unfinished
  | other => exact ⟨before.silent rfl fun _ => rfl, rfl⟩

theorem processResponseChunks_append (scope : Scope) (events more : List Event) :
    processResponseChunks scope (events ++ more) =
      match processResponseChunks scope events with
      | (scope, some e) => (scope, some e)
      | (scope, none) => processResponseChunks scope more := by
  induction events generalizing scope with
  | nil => rfl
  | cons e rest ih =>
    rw [List.cons_append, processResponseChunks, processResponseChunks]
    cases chunk : processResponseChunk scope e with
    | mk scope' raised =>
      cases raised with
      | none => exact ih scope'
      | some e => rfl
/-- The events before the last one raise nothing. -/
theorem processResponseChunks_gathered {body : List Event} (distinct : ((addedCalls body).map (·.id)).Nodup)
    (unfinished : ∀ e ∈ body, isTerminal e = false) :
    ∃ scope, processResponseChunks {} body = (scope, none) ∧ Gathered body scope := by
  induction body using List.reverseRecOn with
  | nil => exact ⟨{}, rfl, rfl, rfl, by simp, rfl⟩
  | append_singleton body e ih =>
    have earlier : ((addedCalls body).map (·.id)).Nodup := by
      rw [addedCalls, List.filterMap_append, ← addedCalls, List.map_append] at distinct
      exact (List.nodup_append.mp distinct).1
    obtain ⟨scope, ran, gathered⟩ := ih earlier fun e member => unfinished e (List.mem_append_left _ member)
    obtain ⟨after, raised⟩ := processResponseChunk_gathered gathered distinct (unfinished e (by simp))
    refine ⟨_, ?_, after⟩
    rw [processResponseChunks_append, ran]
    dsimp only
    rw [processResponseChunks]
    cases chunk : processResponseChunk scope e with
    | mk scope' raised' =>
      rw [chunk] at raised
      obtain rfl : raised' = none := raised
      rfl

/-! ### The tools of a stream and of a response -/

section
variable {body : List Event} {response : Response}

theorem foldl_deltas (deltas : List String) (tool : FunctionCall) :
    (deltas.map CallEvent.delta).foldl CallEvent.apply (some tool) = some (appendArguments (concat deltas) tool) := by
  induction deltas generalizing tool with
  | nil => simp [appendArguments]
  | cons delta rest ih =>
    rw [List.map_cons, List.foldl_cons]
    refine (ih _).trans ?_
    simp [appendArguments, String.append_assoc]
/-- What the last events say of a call is what it is. -/
theorem foldl_later {call tool : FunctionCall} {later : List CallEvent} (same : ∀ e ∈ later, e = .argumentsDone call.arguments ∨ e = .done call)
    (told : tool.callId = call.callId ∧ tool.name = call.name ∧ tool.arguments = call.arguments) :
    ∃ tool', later.foldl CallEvent.apply (some tool) = some tool' ∧
      tool'.callId = call.callId ∧ tool'.name = call.name ∧ tool'.arguments = call.arguments := by
  induction later generalizing tool with
  | nil => exact ⟨tool, rfl, told⟩
  | cons e rest ih =>
    rw [List.forall_mem_cons] at same
    rcases same.1 with rfl | rfl
    · exact ih same.2 ⟨told.1, told.2.1, rfl⟩
    · exact ih same.2 ⟨rfl, rfl, rfl⟩
theorem toolAfter_delivered {call : FunctionCall} (delivers : DeliversCall (callEvents body call.id) call) :
    ∃ tool, toolAfter body call.id = some tool ∧
      tool.callId = call.callId ∧ tool.name = call.name ∧ tool.arguments = call.arguments := by
  obtain ⟨start, deltas, later, events, callId, name, arguments, same⟩ := delivers
  rw [toolAfter, events, List.foldl_cons, List.foldl_append]
  have begun : ((CallEvent.added start).apply none) = some start := rfl
  rw [begun, foldl_deltas]
  exact foldl_later same ⟨callId, name, arguments⟩

/-- The tools of a stream are the calls of its response, as far as they are recorded. -/
theorem tools_delivered (delivers : Delivers body response) {scope : Scope} (gathered : Gathered body scope) :
    toolAttributes (scope.responseTools.getD []) = toolAttributes (callsOf response.output) := by
  have texts (text : FunctionCall → String)
      (told : ∀ a b : FunctionCall, a.callId = b.callId ∧ a.name = b.name ∧ a.arguments = b.arguments → text a = text b) :
      (scope.responseTools.getD []).map text = (callsOf response.output).map text := by
    let textOf (id : String) := ((toolAfter body id).map text).getD ""
    have left : (scope.responseTools.getD []).map text = ((scope.responseTools.getD []).map (·.id)).map textOf := by
      rw [List.map_map]
      refine List.map_congr_left fun tool member => ?_
      simp [textOf, gathered.tools tool member]
    have right : (callsOf response.output).map text = ((callsOf response.output).map (·.id)).map textOf := by
      rw [List.map_map]
      refine List.map_congr_left fun call member => ?_
      obtain ⟨tool, after, same⟩ := toolAfter_delivered (delivers.calls call member)
      simp [textOf, after, told tool call same]
    rw [left, right, gathered.ids, delivers.added]
  have none : scope.responseTools.getD [] = [] ↔ callsOf response.output = [] := by
    rw [← List.map_eq_nil_iff (f := (·.name)), texts (·.name) fun _ _ same => same.2.1, List.map_eq_nil_iff]
  unfold toolAttributes
  by_cases empty : callsOf response.output = []
  · rw [if_pos empty, if_pos (none.mpr empty)]
  · rw [if_neg empty, if_neg (mt none.mp empty), texts (·.name) fun _ _ same => same.2.1, texts (·.callId) fun _ _ same => same.1,
      texts (·.arguments) fun _ _ same => same.2.2]

/-! ### What is read of a response -/

theorem partAt_cons (item : Item) (rest : List Item) (i c : Nat) : partAt (item :: rest) (i + 1) c = partAt rest i c := by
  simp [partAt]
theorem firstText_scanOutput (tool : Option FunctionCall) (output : List Item) :
    firstText (scanOutput tool output).1 = ((partAt output (output.findIdx isMessage) 0).map (·.text)).getD "" := by
  induction output generalizing tool with
  | nil => rfl
  | cons item rest ih =>
    cases item with
    | message content => cases content <;> rfl
    | reasoning => simpa [scanOutput, List.findIdx_cons, isMessage, partAt_cons] using ih tool
    | functionCall call => simpa [scanOutput, List.findIdx_cons, isMessage, partAt_cons] using ih (some call)
theorem tool_scanOutput (tool : Option FunctionCall) (output : List Item) :
    (scanOutput tool output).2 = (callsOf (output.takeWhile (!isMessage ·))).getLast?.or tool := by
  induction output generalizing tool with
  | nil => rfl
  | cons item rest ih =>
    cases item with
    | message content => rfl
    | reasoning => simpa [scanOutput, isMessage, callsOf, callOf] using ih tool
    | functionCall call =>
      rw [scanOutput, ih]
      simp [isMessage, callsOf, callOf, List.getLast?_cons]

/-- The deltas at a position are the text of the part that is there. -/
theorem assembledAt_eq (delivers : Delivers body response) (i c : Nat) :
    assembledAt (textDeltas body) (i, c) = ((partAt response.output i c).map (·.text)).getD "" := by
  cases part : partAt response.output i c with
  | some part' => exact delivers.texts i c part' part
  | none =>
    have outside : (textDeltas body).filter (·.1 = (i, c)) = [] := by
      refine List.filter_eq_nil_iff.mpr fun d member => ?_
      have inside := delivers.inside d member
      rw [decide_eq_true_eq]
      intro here
      rw [here, part] at inside
      cases inside
    rw [assembledAt, outside]
    rfl
/-- All the deltas are the text that is read of a response exactly if no other part has a text. -/
theorem texts_iff (delivers : Delivers body response) (tool : Option FunctionCall) :
    concat ((textDeltas body).map (·.2)) = firstText (scanOutput tool response.output).1 ↔
      ∀ i c part, partAt response.output i c = some part → (i, c) ≠ (response.output.findIdx isMessage, 0) → part.text = "" := by
  rw [firstText_scanOutput, ← assembledAt_eq delivers, assembledAt, concat_filter_iff]
  constructor
  · intro others i c part found other
    rw [← delivers.texts i c part found, assembledAt, concat_eq_empty]
    intro text member
    obtain ⟨d, sent, rfl⟩ := List.mem_map.mp member
    rw [List.mem_filter, decide_eq_true_eq] at sent
    exact others d sent.1 (decide_eq_false (sent.2 ▸ other))
  · intro others d member elsewhere
    obtain ⟨part, found⟩ := Option.isSome_iff_exists.mp (delivers.inside d member)
    have none := delivers.texts _ _ part found
    rw [others _ _ part found (of_decide_eq_false elsewhere), assembledAt, concat_eq_empty] at none
    exact none _ (List.mem_map_of_mem (List.mem_filter.mpr ⟨member, by simp⟩))

theorem callsOf_append (before after : List Item) : callsOf (before ++ after) = callsOf before ++ callsOf after :=
  List.filterMap_append ..
/-- Calls with ids are recorded as one of them only if there are no others. -/
theorem single_of_attributes {calls : List FunctionCall} (named : ∀ call ∈ calls, call.callId ≠ "") {call : FunctionCall}
    (member : call ∈ calls) (same : toolAttributes calls = toolAttributes [call]) : calls = [call] := by
  have filled : calls ≠ [] := List.ne_nil_of_mem member
  rw [toolAttributes, if_neg filled, toolAttributes, if_neg (by simp), Option.some.injEq, ToolAttributes.mk.injEq] at same
  have lengths := congrArg String.length same.2.1
  rw [joinAll, joinAll, length_join, length_join, List.map_map, List.map_map] at lengths
  obtain ⟨front, back, rfl⟩ := List.append_of_mem member
  have large (call : FunctionCall) (given : call.callId ≠ "") : 2 < share call.callId := by
    rcases share_large call.callId with none | large
    · simp [share, given] at none
    · exact large
  simp only [List.map_append, List.map_cons, List.map_nil, List.sum_append, List.sum_cons, List.sum_nil,
    Function.comp_apply] at lengths
  have here := large call (named call member)
  have alone (others : List FunctionCall) (within : ∀ other ∈ others, other ∈ front ++ call :: back)
      (none : (others.map (share ∘ (·.callId))).sum = 0) : others = [] := by
    cases others with
    | nil => rfl
    | cons other rest =>
      have more := large other (named other (within other (by simp)))
      simp only [List.map_cons, List.sum_cons, Function.comp_apply] at none
      omega
  rw [alone front (fun other inside => by simp [inside]) (by omega), alone back (fun other inside => by simp [inside]) (by omega)]
  rfl
/-- The calls of a response are recorded if there is at most one, before the first message. -/
theorem tools_iff {output : List Item} (named : ∀ call ∈ callsOf output, call.callId ≠ "") :
    toolAttributes (callsOf output) = toolAttributes (((scanOutput none output).2.map fun call => [call]).getD []) ↔
      (callsOf output).length ≤ 1 ∧ callsOf (output.dropWhile (!isMessage ·)) = [] := by
  have split : callsOf output = callsOf (output.takeWhile (!isMessage ·)) ++ callsOf (output.dropWhile (!isMessage ·)) := by
    rw [← callsOf_append, List.takeWhile_append_dropWhile]
  rw [tool_scanOutput, Option.or_none]
  cases last : (callsOf (output.takeWhile (!isMessage ·))).getLast? with
  | none =>
    rw [List.getLast?_eq_none_iff] at last
    rw [last, List.nil_append] at split
    rw [split]
    constructor
    · intro same
      by_cases none : callsOf (output.dropWhile (!isMessage ·)) = []
      · simp [none]
      · simp [toolAttributes, none] at same
    · intro recordable
      rw [recordable.2]
      rfl
  | some call =>
    obtain ⟨front, before⟩ := List.getLast?_eq_some_iff.mp last
    rw [before] at split
    have member : call ∈ callsOf output := by simp [split]
    constructor
    · intro same
      have single := single_of_attributes named member same
      have lengths := congrArg List.length (split.symm.trans single)
      simp only [List.length_append, List.length_cons, List.length_nil] at lengths
      exact ⟨by simp [single], List.length_eq_zero_iff.mp (by omega)⟩
    · rintro ⟨single, early⟩
      rw [early, List.append_nil] at split
      rw [split, List.length_append, List.length_singleton] at single
      obtain rfl : front = [] := List.length_eq_zero_iff.mp (by omega)
      rw [split]
      rfl

/-! ### When a stream is recorded as its response -/

/-- What is recorded of a response with a usage, with a text and tools. -/
def telemetryOf (prompt : String) (cost : Nat → Nat → Cost) (response : Response) (usage : Usage) (text : String)
    (tools : Option ToolAttributes) : Telemetry Cost :=
  let (inputTokens, outputTokens) :=
    if usage.inputTokens ≠ 0 then (usage.inputTokens, usage.outputTokens) else (generalTokens prompt, generalTokens text)
  { responseId := present (some response.id)
    responseModel := response.model
    status := response.status
    text
    tools
    inputTokens
    outputTokens
    cost := cost inputTokens outputTokens
    reasoningTokens := if 0 < usage.reasoningTokens then some usage.reasoningTokens else none
    cacheReadInputTokens := some usage.cachedTokens
    instructions := present response.instructions }

variable {prompt : String} {cost : Nat → Nat → Cost}

theorem recordedStream_append (last : Event) {scope : Scope} (ran : processResponseChunks {} body = (scope, none)) :
    recordedStream prompt cost (body ++ [last]) =
      match processResponseChunk scope last with
      | (_, some e) => .error e
      | (scope, none) => .ok (commonResponseLogic scope prompt cost) := by
  rw [recordedStream, processResponseChunks_append, ran]
  dsimp only
  rw [processResponseChunks]
  cases chunk : processResponseChunk scope last with
  | mk scope' raised => cases raised <;> rfl
theorem recordedStream_completed (prompt : String) (cost : Nat → Nat → Cost) (delivers : Delivers body response) (completed : response.status = "completed") {usage : Usage}
    (given : response.usage = some usage) :
    ∃ s, recordedStream prompt cost (body ++ [terminal response]) = .ok s ∧ s.toTelemetry =
      telemetryOf prompt cost response usage (concat ((textDeltas body).map (·.2))) (toolAttributes (callsOf response.output)) := by
  obtain ⟨scope, ran, gathered⟩ := processResponseChunks_gathered (delivers.added ▸ delivers.distinct) delivers.unfinished
  rw [recordedStream_append _ ran, terminal, if_pos completed, ← tools_delivered delivers gathered, ← gathered.llmresponse]
  simp only [processResponseChunk, given]
  refine ⟨_, rfl, ?_⟩
  have id : scope.responseId = "" := by rw [gathered.initial]
  have model : scope.responseModel = "" := by rw [gathered.initial]
  simp only [commonResponseLogic, telemetryOf, orElse_known (.inl id), orElse_known (.inl model)]
/-- Of a response that is incomplete a stream has no status. -/
theorem recordedStream_incomplete (prompt : String) (cost : Nat → Nat → Cost) (delivers : Delivers body response) (incomplete : response.status ≠ "completed") :
    ∃ s, recordedStream prompt cost (body ++ [terminal response]) = .ok s ∧ s.status = "" := by
  obtain ⟨scope, ran, gathered⟩ := processResponseChunks_gathered (delivers.added ▸ delivers.distinct) delivers.unfinished
  rw [recordedStream_append _ ran, terminal, if_neg incomplete]
  refine ⟨_, rfl, ?_⟩
  have status : scope.finishReason = "" := by rw [gathered.initial]
  exact status
theorem processResponseResponse_some (prompt : String) (cost : Nat → Nat → Cost) {usage : Usage} (given : response.usage = some usage) :
    ∃ w, processResponseResponse prompt cost response = .ok w ∧ w.toTelemetry =
      telemetryOf prompt cost response usage (firstText (scanOutput none response.output).1)
        (toolAttributes (((scanOutput none response.output).2.map fun call => [call]).getD [])) := by
  simp only [processResponseResponse, given]
  exact ⟨_, rfl, rfl⟩
theorem processResponseResponse_none (missing : response.usage = none) :
    processResponseResponse prompt cost response = .error .attributeError := by
  simp only [processResponseResponse, missing]

/-- A stream is recorded as its response exactly if the response is completed
    with a usage, has all of its text in the first part of its first message, and
    has at most one call, before that message. -/
theorem response_stream_recorded_iff (delivers : Delivers body response) (prompt : String) (cost : Nat → Nat → Cost) :
    Agrees (recordedStream prompt cost (body ++ [terminal response])) (processResponseResponse prompt cost response) ↔
      Recordable response := by
  cases given : response.usage with
  | none =>
    refine iff_of_false ?_ fun recordable => recordable.usage given
    rintro ⟨_, w, -, whole, -⟩
    rw [processResponseResponse_none given] at whole
    cases whole
  | some usage =>
    obtain ⟨w, whole, told⟩ := processResponseResponse_some prompt cost given
    by_cases completed : response.status = "completed"
    · obtain ⟨s, streamed, told'⟩ := recordedStream_completed prompt cost delivers completed given
      rw [streamed, whole]
      constructor
      · rintro ⟨_, _, ⟨⟩, ⟨⟩, same⟩
        rw [told, told'] at same
        have tools := (tools_iff delivers.named).mp (congrArg Telemetry.tools same)
        exact ⟨completed, by simp [given], (texts_iff delivers none).mp (congrArg Telemetry.text same), tools.1, tools.2⟩
      · intro recordable
        refine ⟨s, w, rfl, rfl, ?_⟩
        rw [told, told', (texts_iff delivers none).mpr recordable.texts,
          (tools_iff delivers.named).mpr ⟨recordable.single, recordable.early⟩]
    · refine iff_of_false ?_ fun recordable => completed recordable.completed
      obtain ⟨s, streamed, status⟩ := recordedStream_incomplete prompt cost delivers completed
      rw [streamed, whole]
      rintro ⟨_, _, ⟨⟩, ⟨⟩, same⟩
      rw [told] at same
      have statuses := congrArg Telemetry.status same
      rw [status] at statuses
      have incomplete := delivers.status.resolve_left completed
      rw [telemetryOf, incomplete] at statuses
      exact absurd statuses (by simp)

end

/-! A call of a tool and a greeting, in parts. -/

def clockCall (arguments : String) : FunctionCall := ⟨"fc_1", "call_1", "now", arguments⟩
/-- The answer with a status. -/
def answer (status : String) : Response where
  id := "resp_1"
  model := "gpt-4o"
  status := status
  output := [.reasoning, .functionCall (clockCall "{}"), .message [.outputText "Hi!"]]
  usage := some ⟨3, 2, 0, 0⟩
def answerBody : List Event :=
  [.other, .outputItemAdded .reasoning, .outputItemDone .reasoning, .outputItemAdded (.functionCall (clockCall "")),
    .functionCallArgumentsDelta "fc_1" "\x7b", .outputItemAdded (.message []), .outputTextDelta 2 0 "Hi",
    .functionCallArgumentsDelta "fc_1" "\x7d", .functionCallArgumentsDone "fc_1" "{}", .outputItemDone (.functionCall (clockCall "{}")),
    .outputTextDelta 2 0 "!", .outputItemDone (.message [.outputText "Hi!"])]

theorem callsOf_answer (status : String) : callsOf (answer status).output = [clockCall "{}"] := rfl
theorem answer_delivers {status : String} (ends : status = "completed" ∨ status = "incomplete") : Delivers answerBody (answer status) where
  status := ends
  unfinished := by simp [answerBody, isTerminal]
  added := rfl
  distinct := by simp [callsOf_answer]
  calls := by
    intro call member
    obtain rfl : call = clockCall "{}" := by simpa [callsOf_answer] using member
    have later : ∀ e ∈ [CallEvent.argumentsDone "{}", .done (clockCall "{}")],
        e = .argumentsDone (clockCall "{}").arguments ∨ e = .done (clockCall "{}") := by simp [clockCall]
    exact ⟨clockCall "", ["\x7b", "\x7d"], _, by rfl, rfl, rfl, rfl, later⟩
  named := by simp [callsOf_answer, clockCall]
  texts := by
    intro i c part found
    obtain ⟨rfl, rfl, rfl⟩ : i = 2 ∧ c = 0 ∧ part = .outputText "Hi!" := by
      rcases i with _ | _ | _ | i <;> rcases c with _ | c <;> simp [partAt, answer] at found ⊢
      exact found.symm
    rfl
  inside := by simp [textDeltas, answerBody, partAt, answer]

theorem completed_answer_recorded :
    Agrees (recordedStream "Hello" (· + ·) (answerBody ++ [terminal (answer "completed")]))
      (processResponseResponse "Hello" (· + ·) (answer "completed")) := by
  refine (response_stream_recorded_iff (answer_delivers (.inl rfl)) "Hello" (· + ·)).mpr ⟨rfl, by simp [answer], ?_, ?_, rfl⟩
  · intro i c part found other
    rcases i with _ | _ | _ | i <;> rcases c with _ | c <;> simp [partAt, answer] at found
    exact absurd rfl other
  · simp [callsOf_answer]

/-- The last event of an answer that is incomplete is not read, so neither its status nor its identity is recorded. -/
theorem incomplete_answer_lost : Delivers answerBody (answer "incomplete") ∧
    ¬ Agrees (recordedStream "Hello" (· + ·) (answerBody ++ [terminal (answer "incomplete")]))
      (processResponseResponse "Hello" (· + ·) (answer "incomplete")) := by
  refine ⟨answer_delivers (.inr rfl), ?_⟩
  rintro ⟨s, w, ⟨⟩, ⟨⟩, same⟩
  have statuses := congrArg Telemetry.status same
  exact absurd statuses (by simp [commonResponseLogic, answer])

end Openlit.OpenAIResponseStreams
