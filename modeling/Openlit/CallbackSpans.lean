import Openlit.LangchainCallbacks
import Openlit.Runs

/-!
The spans of the LangChain callback handler over any sequence of callbacks, in
which every run starts once and ends once. Its spans are ended once, with the
status of their runs, and nothing is kept of a run that has ended, as long as no
end raises, and no run ends before the runs below it.
-/
namespace Openlit.CallbackSpans
open Openlit.LangchainCallbacks Openlit.Runs

variable {Run : Type} [DecidableEq Run]

/-! ### Sequences of callbacks -/

def Started (callbacks : List (Callback Run)) (run : Run) : Prop := ∃ s, .start s ∈ callbacks ∧ s.run = run
def Ended (callbacks : List (Callback Run)) (run : Run) : Prop := ∃ f, .finish f ∈ callbacks ∧ f.run = run
/-- A callback that may come next: the first start of a run, or its first end, by a callback of its kind. -/
def MayFollow (callbacks : List (Callback Run)) : Callback Run → Prop
  | .start s => ¬ Started callbacks s.run ∧ ¬ Ended callbacks s.run
  | .finish f => Started callbacks f.run ∧ ¬ Ended callbacks f.run ∧ ∀ s, .start s ∈ callbacks → s.run = f.run → s.kind = f.kind
def WellFormed (callbacks : List (Callback Run)) : Prop := ∀ before c, before ++ [c] <+: callbacks → MayFollow before c

/-- What a run ends with, as its callback says. -/
def outcome (finish : Finish Run) : Status := finish.error.elim .ok .error
/-- A span that was ended once, after everything else, and has a status. -/
def EndedWith (span : Span Run) (status : Status) : Prop :=
  ∃ before, span.calls = before ++ [.setStatus status, .finish] ∧ .finish ∉ before
/-- What should hold after some callbacks. -/
structure Tidy (callbacks : List (Callback Run)) (handler : Handler Run) : Prop where
  ended : ∀ span ∈ handler.started, ∀ f, .finish f ∈ callbacks → f.run = span.run → EndedWith span (outcome f)
  unended : ∀ span ∈ handler.started, ¬ Ended callbacks span.run → .finish ∉ span.calls
  kept : ∀ run, handler.spans run ≠ none → Started callbacks run ∧ ¬ Ended callbacks run
  skipped : ∀ entry ∈ handler.skippedRuns, Started callbacks entry.1 ∧ ¬ Ended callbacks entry.1

/-- An end that does not raise, has a text if it is an error, and comes after those of all runs below. -/
def Careful (handler : Handler Run) : Callback Run → Prop
  | .start _ => True
  | .finish f => ∀ holder, handler.spans f.run = some holder →
    f.raises = false ∧ f.error ≠ some "" ∧ ∀ child ∈ holder.children, handler.spans child = none

/-! ### What a callback does -/

section
variable {handler : Handler Run}

/-- The span that is kept of a run. -/
def spanOf (handler : Handler Run) (run : Run) : Option Nat := (handler.spans run).map (·.span)

/-- A run gets a span. -/
structure Opens (handler handler' : Handler Run) (run : Run) : Prop where
  started : ∃ parent calls, .finish ∉ calls ∧ handler'.started = handler.started ++ [⟨run, parent, calls⟩]
  spans : ∀ r, spanOf handler' r = if r = run then some handler.started.length else spanOf handler r
/-- A span gets attributes or a status. -/
structure Marks (handler handler' : Handler Run) (span : Nat) : Prop where
  started : ∃ calls, .finish ∉ calls ∧ handler'.started = handler.started.modify span fun s => { s with calls := s.calls ++ calls }
  spans : handler'.spans = handler.spans
/-- The span of a run is ended, and the run is no longer kept. -/
structure Closes (handler handler' : Handler Run) (run : Run) (span : Nat) (status : Status) : Prop where
  started : ∃ calls, .finish ∉ calls ∧ handler'.started = handler.started.modify span fun s =>
    { s with calls := s.calls ++ (calls ++ [.setStatus status, .finish]) }
  spans : ∀ r, spanOf handler' r = if r = run then none else spanOf handler r

theorem map_update {β : Type} (p : SpanHolder Run → β) (spans : Run → Option (SpanHolder Run)) (run : Run)
    (holder : Option (SpanHolder Run)) (r : Run) :
    (Function.update spans run holder r).map p = if r = run then holder.map p else (spans r).map p := by
  by_cases same : r = run
  · rw [if_pos same, same, Function.update_self]
  · rw [if_neg same, Function.update_of_ne same]
theorem modify_last {α : Type} (xs : List α) (x : α) (f : α → α) : (xs ++ [x]).modify xs.length f = xs ++ [f x] := by
  induction xs with
  | nil => rfl
  | cons y rest ih => simpa using ih

/-- What is kept of the runs, but for their children, when a run gets a span. -/
theorem map_createSpan {β : Type} (p : SpanHolder Run → β) (same : ∀ holder children, p { holder with children } = p holder)
    (handler : Handler Run) (run : Run) (parent : Option Run) (r : Run) :
    ((handler.createSpan run parent).spans r).map p =
      if r = run then some (p { span := handler.started.length }) else (handler.spans r).map p := by
  refine Eq.trans ?_ (map_update p handler.spans run (some { span := handler.started.length }) r)
  unfold Handler.createSpan
  cases handler.resolveParent parent with
  | none => rfl
  | some parent =>
    cases found : Function.update handler.spans run (some { span := handler.started.length }) parent with
    | none => simp only [found]
    | some holder =>
      simp only [found]
      rw [map_update]
      by_cases here : r = parent
      · rw [if_pos here, here, found]
        exact congrArg some (same ..)
      · rw [if_neg here]
theorem createSpan_opens (handler : Handler Run) (run : Run) (parent : Option Run) : Opens handler (handler.createSpan run parent) run :=
  ⟨⟨_, [], by simp, rfl⟩, map_createSpan (·.span) (fun _ _ => rfl) handler run parent⟩
theorem Opens.attach {run : Run} {handler' : Handler Run} (opens : Opens handler handler' run) :
    Opens handler (handler'.attach run) run := by
  unfold Handler.attach
  cases found : handler'.spans run with
  | none => exact opens
  | some holder =>
    refine ⟨opens.started, fun r => ?_⟩
    rw [← opens.spans r]
    refine (map_update (·.span) handler'.spans run _ r).trans ?_
    by_cases same : r = run
    · rw [if_pos same, same, spanOf, found]
      rfl
    · rw [if_neg same]
      rfl
theorem Opens.describe {run : Run} {handler' : Handler Run} (opens : Opens handler handler' run) :
    Opens handler (handler'.describe run) run := by
  unfold Handler.describe
  cases found : handler'.spans run with
  | none => exact opens
  | some holder =>
    obtain ⟨parent, calls, unended, started⟩ := opens.started
    have last : holder.span = handler.started.length := by
      have own := opens.spans run
      rw [if_pos rfl, spanOf, found] at own
      exact Option.some.inj own
    refine ⟨⟨parent, calls ++ [.setAttribute], by simpa using unended, ?_⟩, opens.spans⟩
    simp only [Handler.record, started, last, modify_last]
theorem startSpan_cases (handler : Handler Run) (start : Start Run) :
    handler.startSpan start = handler ∨ Opens handler (handler.startSpan start) start.run := by
  unfold Handler.startSpan
  cases start.failure with
  | none => exact .inr (createSpan_opens ..).describe
  | some failure =>
    cases failure with
    | beforeSpan => exact .inl rfl
    | afterSpan => exact .inr (createSpan_opens ..)
theorem startModel_cases (handler : Handler Run) (start : Start Run) :
    handler.startModel start = handler ∨ Opens handler (handler.startModel start) start.run := by
  unfold Handler.startModel
  cases start.failure with
  | none => exact .inr (createSpan_opens ..).attach.describe
  | some failure =>
    cases failure with
    | beforeSpan => exact .inl rfl
    | afterSpan => exact .inr (createSpan_opens ..).attach

omit [DecidableEq Run] in
theorem Marks.refl (handler : Handler Run) (span : Nat) : Marks handler handler span := by
  refine ⟨⟨[], by simp, ?_⟩, rfl⟩
  have same : (fun s : Span Run => { s with calls := s.calls ++ [] }) = id := by
    funext s
    simp
  rw [same, List.modify_id]
omit [DecidableEq Run] in
theorem Marks.record {handler' : Handler Run} {span : Nat} (marks : Marks handler handler' span) {call : SpanCall}
    (unended : call ≠ .finish) : Marks handler (handler'.record span call) span := by
  obtain ⟨calls, none, started⟩ := marks.started
  refine ⟨⟨calls ++ [call], ?_, ?_⟩, marks.spans⟩
  · simpa [none] using unended.symm
  · simp only [Handler.record, started, List.modify_modify_eq]
    congr 1
    funext s
    simp
theorem Marks.closes {handler' handler'' : Handler Run} {run : Run} {span : Nat} {status : Status} (marks : Marks handler handler' span)
    (closes : Closes handler' handler'' run span status) : Closes handler handler'' run span status := by
  obtain ⟨calls, unended, started⟩ := marks.started
  obtain ⟨more, unended', started'⟩ := closes.started
  refine ⟨⟨calls ++ more, ?_, ?_⟩, fun r => ?_⟩
  · simp [unended, unended']
  · rw [started', started, List.modify_modify_eq]
    congr 1
    funext s
    simp
  · rw [closes.spans r, spanOf, spanOf, marks.spans]

omit [DecidableEq Run] in
theorem endChildren_gone {children : List Run} (gone : ∀ child ∈ children, handler.spans child = none) :
    children.foldl Handler.endChild handler = handler := by
  induction children with
  | nil => rfl
  | cons child rest ih =>
    rw [List.forall_mem_cons] at gone
    have same : handler.endChild child = handler := by
      rw [Handler.endChild, gone.1]
    rw [List.foldl_cons, same, ih gone.2]
theorem endSpan_closes {run : Run} {holder : SpanHolder Run} (kept : handler.spans run = some holder)
    (gone : ∀ child ∈ holder.children, handler.spans child = none) (error : Option String) :
    Closes handler (handler.endSpan run error) run holder.span (statusOf error) := by
  unfold Handler.endSpan
  simp only [kept, endChildren_gone gone]
  refine ⟨⟨[], by simp, ?_⟩, fun r => map_update (·.span) handler.spans run none r⟩
  simp only [Handler.record, List.modify_modify_eq]
  congr 1
  funext s
  simp

/-- The end of a run, after attributes and perhaps a status. -/
theorem Marks.endSpan {handler' : Handler Run} {run : Run} {holder : SpanHolder Run} (marks : Marks handler handler' holder.span)
    (kept : handler.spans run = some holder) (gone : ∀ child ∈ holder.children, handler.spans child = none) (error : Option String) :
    Closes handler (handler'.endSpan run error) run holder.span (statusOf error) := by
  rw [← marks.spans] at kept gone
  exact marks.closes (endSpan_closes kept gone error)
omit [DecidableEq Run] in
theorem Marks.detach {handler' : Handler Run} {span : Nat} (marks : Marks handler handler' span) (token : Option (Bool × Option Nat)) :
    Marks handler (handler'.detach token) span := by
  cases token with
  | none => exact marks
  | some token => exact ⟨marks.started, marks.spans⟩

omit [DecidableEq Run] in
theorem statusOf_outcome {finish : Finish Run} (given : finish.error ≠ some "") : statusOf finish.error = outcome finish := by
  unfold statusOf outcome
  cases error : finish.error with
  | none => rfl
  | some description =>
    have text : description ≠ "" := by
      rintro rfl
      exact given error
    simp [text]
omit [DecidableEq Run] in
theorem record_marks (handler : Handler Run) (span : Nat) : Marks handler (handler.record span .setAttribute) span :=
  (Marks.refl handler span).record SpanCall.noConfusion
theorem finishRun_closes {run : Run} {holder : SpanHolder Run} (kept : handler.spans run = some holder)
    (gone : ∀ child ∈ holder.children, handler.spans child = none) :
    Closes handler (handler.finishRun run false) run holder.span (statusOf none) := by
  simp only [Handler.finishRun, kept]
  exact (record_marks handler holder.span).endSpan kept gone none
theorem failRun_closes {run : Run} {holder : SpanHolder Run} (kept : handler.spans run = some holder)
    (gone : ∀ child ∈ holder.children, handler.spans child = none) (error : String) :
    Closes handler (handler.failRun run error false) run holder.span (statusOf (some error)) := by
  simp only [Handler.failRun, kept]
  exact (record_marks handler holder.span).endSpan kept gone (some error)
theorem onLlmEnd_closes {run : Run} {holder : SpanHolder Run} (kept : handler.spans run = some holder)
    (gone : ∀ child ∈ holder.children, handler.spans child = none) :
    Closes handler (onLlmEnd handler run false) run holder.span (statusOf none) := by
  simp only [onLlmEnd, kept]
  have statused := (record_marks handler holder.span).record (SpanCall.noConfusion : SpanCall.setStatus .ok ≠ .finish)
  exact (statused.detach _).endSpan kept gone none
theorem onLlmError_closes {run : Run} {holder : SpanHolder Run} (kept : handler.spans run = some holder)
    (gone : ∀ child ∈ holder.children, handler.spans child = none) (error : String) :
    Closes handler (onLlmError handler run error false) run holder.span (statusOf (some error)) := by
  simp only [onLlmError, kept]
  exact ((record_marks handler holder.span).detach _).endSpan kept gone (some error)
/-- What is skipped plays no part in a span's end. -/
theorem Closes.of_popSkipped {run : Run} {handler' : Handler Run} {span : Nat} {status : Status}
    (closes : Closes (handler.popSkipped run) handler' run span status) : Closes handler handler' run span status :=
  ⟨closes.started, closes.spans⟩
/-- An end that is careful, of a run that is kept. -/
theorem onFinish_closes {finish : Finish Run} (careful : Careful handler (.finish finish)) {holder : SpanHolder Run}
    (kept : handler.spans finish.run = some holder) :
    Closes handler (onFinish handler finish) finish.run holder.span (outcome finish) := by
  obtain ⟨quiet, given, gone⟩ := careful holder kept
  rw [← statusOf_outcome given, onFinish, quiet]
  have popped : (handler.popSkipped finish.run).spans finish.run = some holder := kept
  cases finish.error with
  | none =>
    cases finish.kind with
    | chain => exact (finishRun_closes popped gone).of_popSkipped
    | llm | chatModel => exact onLlmEnd_closes kept gone
    | tool | retriever => exact finishRun_closes kept gone
  | some error =>
    cases finish.kind with
    | chain => exact (failRun_closes popped gone error).of_popSkipped
    | llm | chatModel => exact onLlmError_closes kept gone error
    | tool | retriever => exact failRun_closes kept gone error
/-- The end of a run that is not kept. -/
theorem onFinish_unkept {finish : Finish Run} (unkept : handler.spans finish.run = none) :
    (onFinish handler finish).started = handler.started ∧ (onFinish handler finish).spans = handler.spans := by
  unfold onFinish
  cases finish.error <;> cases finish.kind <;>
    simp [onChainEnd, onChainError, onLlmEnd, onLlmError, onToolEnd, onToolError, onRetrieverEnd, onRetrieverError, Handler.finishRun,
      Handler.failRun, Handler.popSkipped, unkept]

/-! ### What is skipped -/

theorem attach_skipped (handler : Handler Run) (run : Run) : (handler.attach run).skippedRuns = handler.skippedRuns := by
  unfold Handler.attach
  cases handler.spans run <;> rfl
omit [DecidableEq Run] in
theorem describe_skipped (handler : Handler Run) (run : Run) : (handler.describe run).skippedRuns = handler.skippedRuns := by
  unfold Handler.describe
  cases handler.spans run <;> rfl
theorem startSpan_skipped (handler : Handler Run) (start : Start Run) : (handler.startSpan start).skippedRuns = handler.skippedRuns := by
  unfold Handler.startSpan
  cases start.failure with
  | none => exact describe_skipped ..
  | some failure => cases failure <;> rfl
theorem startModel_skipped (handler : Handler Run) (start : Start Run) :
    (handler.startModel start).skippedRuns = handler.skippedRuns := by
  unfold Handler.startModel
  cases start.failure with
  | none => exact (describe_skipped ..).trans (attach_skipped ..)
  | some failure =>
    cases failure with
    | beforeSpan => rfl
    | afterSpan => exact attach_skipped ..
omit [DecidableEq Run] in
theorem endChildren_skipped (handler : Handler Run) (children : List Run) :
    (children.foldl Handler.endChild handler).skippedRuns = handler.skippedRuns := by
  induction children generalizing handler with
  | nil => rfl
  | cons child rest ih =>
    rw [List.foldl_cons, ih, Handler.endChild]
    cases handler.spans child with
    | none => rfl
    | some holder => by_cases ended : handler.hasEnded holder.span <;> simp [ended, Handler.record]
theorem endSpan_skipped (handler : Handler Run) (run : Run) (error : Option String) :
    (handler.endSpan run error).skippedRuns = handler.skippedRuns := by
  unfold Handler.endSpan
  cases handler.spans run with
  | none => rfl
  | some holder => exact endChildren_skipped handler holder.children
theorem finishRun_skipped (handler : Handler Run) (run : Run) (raises : Bool) :
    (handler.finishRun run raises).skippedRuns = handler.skippedRuns := by
  unfold Handler.finishRun
  cases handler.spans run with
  | none => rfl
  | some holder =>
    cases raises with
    | true => rfl
    | false => exact endSpan_skipped ..
theorem failRun_skipped (handler : Handler Run) (run : Run) (error : String) (raises : Bool) :
    (handler.failRun run error raises).skippedRuns = handler.skippedRuns := by
  unfold Handler.failRun
  cases handler.spans run with
  | none => rfl
  | some holder =>
    cases raises with
    | true => rfl
    | false => exact endSpan_skipped ..
omit [DecidableEq Run] in
theorem detach_skipped (handler : Handler Run) (token : Option (Bool × Option Nat)) :
    (handler.detach token).skippedRuns = handler.skippedRuns := by
  cases token <;> rfl
theorem onLlmEnd_skipped (handler : Handler Run) (run : Run) (raises : Bool) :
    (onLlmEnd handler run raises).skippedRuns = handler.skippedRuns := by
  unfold onLlmEnd
  cases handler.spans run with
  | none => rfl
  | some holder =>
    cases raises with
    | true => rfl
    | false => exact (endSpan_skipped ..).trans (detach_skipped ..)
theorem onLlmError_skipped (handler : Handler Run) (run : Run) (error : String) (raises : Bool) :
    (onLlmError handler run error raises).skippedRuns = handler.skippedRuns := by
  unfold onLlmError
  cases handler.spans run with
  | none => rfl
  | some holder =>
    cases raises with
    | true => rfl
    | false => exact (endSpan_skipped ..).trans (detach_skipped ..)
/-- Only the end of a chain takes a run from what is skipped. -/
theorem onFinish_skipped (handler : Handler Run) (finish : Finish Run) :
    (onFinish handler finish).skippedRuns =
      if finish.kind = .chain then handler.skippedRuns.filter (·.1 ≠ finish.run) else handler.skippedRuns := by
  unfold onFinish
  cases finish.error with
  | none =>
    cases finish.kind with
    | chain => exact finishRun_skipped ..
    | llm | chatModel => exact onLlmEnd_skipped ..
    | tool | retriever => exact finishRun_skipped ..
  | some error =>
    cases finish.kind with
    | chain => exact failRun_skipped ..
    | llm | chatModel => exact onLlmError_skipped ..
    | tool | retriever => exact failRun_skipped ..

/-- What a start does: nothing, or a run is skipped, or it gets a span. -/
theorem onStart_cases (handler : Handler Run) (start : Start Run) :
    onStart handler start = handler ∨
      (start.kind = .chain ∧ onStart handler start =
        { handler with skippedRuns := (start.run, start.parent) :: handler.skippedRuns.filter (·.1 ≠ start.run) }) ∨
      (Opens handler (onStart handler start) start.run ∧ (onStart handler start).skippedRuns = handler.skippedRuns) := by
  have spans : handler.startSpan start = handler ∨
      (Opens handler (handler.startSpan start) start.run ∧ (handler.startSpan start).skippedRuns = handler.skippedRuns) :=
    (startSpan_cases handler start).imp_right fun opens => ⟨opens, startSpan_skipped ..⟩
  have models : handler.startModel start = handler ∨
      (Opens handler (handler.startModel start) start.run ∧ (handler.startModel start).skippedRuns = handler.skippedRuns) :=
    (startModel_cases handler start).imp_right fun opens => ⟨opens, startModel_skipped ..⟩
  unfold onStart
  cases kind : start.kind with
  | chain =>
    unfold onChainStart
    by_cases early : start.failure = some .beforeSpan
    · exact .inl (if_pos early)
    · rw [if_neg early]
      by_cases skip : skips start = true
      · exact .inr (.inl ⟨rfl, if_pos skip⟩)
      · rw [if_neg skip]
        exact spans.imp_right .inr
  | llm | chatModel => exact models.imp_right .inr
  | tool | retriever => exact spans.imp_right .inr

/-! ### What every callback keeps -/

/-- What holds after callbacks that are careful. -/
structure Kept (callbacks : List (Callback Run)) (handler : Handler Run) : Prop extends Tidy callbacks handler where
  owned : ∀ i span, handler.started[i]? = some span → ¬ Ended callbacks span.run → spanOf handler span.run = some i
  opened : ∀ run i, spanOf handler run = some i → ∃ span, handler.started[i]? = some span ∧ span.run = run
  begun : ∀ span ∈ handler.started, Started callbacks span.run
  chains : ∀ entry ∈ handler.skippedRuns, ∃ s, .start s ∈ callbacks ∧ s.run = entry.1 ∧ s.kind = .chain

omit [DecidableEq Run] in
theorem started_start (callbacks : List (Callback Run)) (s : Start Run) (run : Run) :
    Started (callbacks ++ [.start s]) run ↔ Started callbacks run ∨ s.run = run := by
  simp [Started, or_and_right, exists_or]
omit [DecidableEq Run] in
theorem started_finish (callbacks : List (Callback Run)) (f : Finish Run) (run : Run) :
    Started (callbacks ++ [.finish f]) run ↔ Started callbacks run := by
  simp [Started]
omit [DecidableEq Run] in
theorem ended_start (callbacks : List (Callback Run)) (s : Start Run) (run : Run) :
    Ended (callbacks ++ [.start s]) run ↔ Ended callbacks run := by
  simp [Ended]
omit [DecidableEq Run] in
theorem ended_finish (callbacks : List (Callback Run)) (f : Finish Run) (run : Run) :
    Ended (callbacks ++ [.finish f]) run ↔ Ended callbacks run ∨ f.run = run := by
  simp [Ended, or_and_right, exists_or]
omit [DecidableEq Run] in
theorem spanOf_ne_none {run : Run} : spanOf handler run ≠ none ↔ handler.spans run ≠ none := by
  simp [spanOf]

omit [DecidableEq Run] in
/-- A start after which nothing has changed, or another run is skipped. -/
theorem Kept.start_skipped {callbacks : List (Callback Run)} (before : Kept callbacks handler) {start : Start Run}
    {skipped : List (Run × Option Run)}
    (entries : ∀ entry ∈ skipped, entry ∈ handler.skippedRuns ∨
      (entry.1 = start.run ∧ start.kind = .chain ∧ ¬ Ended callbacks start.run)) :
    Kept (callbacks ++ [.start start]) { handler with skippedRuns := skipped } := by
  constructor
  · constructor
    · intro span member f here same
      have old : .finish f ∈ callbacks := by simpa using here
      exact before.ended span member f old same
    · intro span member going
      rw [ended_start] at going
      exact before.unended span member going
    · intro run kept
      rw [started_start, ended_start]
      exact (before.kept run kept).imp_left .inl
    · intro entry member
      rw [started_start, ended_start]
      rcases entries entry member with old | ⟨same, -, unended⟩
      · exact (before.skipped entry old).imp_left .inl
      · exact ⟨.inr same.symm, same ▸ unended⟩
  · intro i span found unended
    rw [ended_start] at unended
    exact before.owned i span found unended
  · exact before.opened
  · intro span member
    rw [started_start]
    exact .inl (before.begun span member)
  · intro entry member
    rcases entries entry member with old | ⟨same, chain, -⟩
    · obtain ⟨s, given, rest⟩ := before.chains entry old
      exact ⟨s, List.mem_append_left _ given, rest⟩
    · exact ⟨start, by simp, same.symm, chain⟩
omit [DecidableEq Run] in
/-- A span after the start of a new run is one of another run as it was, or the last one, which has not ended. -/
theorem span_opened {callbacks : List (Callback Run)} (before : Kept callbacks handler) {start : Start Run} {handler' : Handler Run}
    (unstarted : ¬ Started callbacks start.run) (opened : ∃ parent calls, .finish ∉ calls ∧
      handler'.started = handler.started ++ [⟨start.run, parent, calls⟩]) {i : Nat} {span : Span Run}
    (found : handler'.started[i]? = some span) :
    (span.run ≠ start.run ∧ handler.started[i]? = some span) ∨
      (span.run = start.run ∧ i = handler.started.length ∧ .finish ∉ span.calls) := by
  obtain ⟨parent, calls, clean, started⟩ := opened
  rw [started, List.getElem?_append] at found
  by_cases inside : i < handler.started.length
  · rw [if_pos inside] at found
    refine .inl ⟨fun same => unstarted ?_, found⟩
    exact same ▸ before.begun span (List.mem_of_getElem? found)
  · rw [if_neg inside, List.getElem?_singleton] at found
    by_cases last : i - handler.started.length = 0
    · rw [if_pos last] at found
      obtain rfl := Option.some.inj found
      exact .inr ⟨rfl, by omega, clean⟩
    · rw [if_neg last] at found
      cases found
/-- A start with a span. -/
theorem Kept.start_opens {callbacks : List (Callback Run)} (before : Kept callbacks handler) {start : Start Run} {handler' : Handler Run}
    (new : MayFollow callbacks (.start start)) (opens : Opens handler handler' start.run)
    (skipped : handler'.skippedRuns = handler.skippedRuns) : Kept (callbacks ++ [.start start]) handler' := by
  have spans {i : Nat} {span : Span Run} (found : handler'.started[i]? = some span) :=
    span_opened before new.1 opens.started found
  constructor
  · constructor
    · intro span member f here same
      have old : .finish f ∈ callbacks := by simpa using here
      obtain ⟨i, found⟩ := List.mem_iff_getElem?.mp member
      rcases spans found with ⟨-, there⟩ | ⟨own, -, -⟩
      · exact before.ended span (List.mem_of_getElem? there) f old same
      · exact absurd ⟨f, old, same.trans own⟩ new.2
    · intro span member going
      rw [ended_start] at going
      obtain ⟨i, found⟩ := List.mem_iff_getElem?.mp member
      rcases spans found with ⟨-, there⟩ | ⟨-, -, clean⟩
      · exact before.unended span (List.mem_of_getElem? there) going
      · exact clean
    · intro run kept
      rw [started_start, ended_start]
      rw [← spanOf_ne_none, opens.spans] at kept
      by_cases same : run = start.run
      · exact ⟨.inr same.symm, same ▸ new.2⟩
      · rw [if_neg same, spanOf_ne_none] at kept
        exact (before.kept run kept).imp_left .inl
    · intro entry member
      rw [started_start, ended_start]
      exact (before.skipped entry (skipped ▸ member)).imp_left .inl
  · intro i span found going
    rw [ended_start] at going
    rw [opens.spans]
    rcases spans found with ⟨other, there⟩ | ⟨own, last, -⟩
    · rw [if_neg other]
      exact before.owned i span there going
    · rw [if_pos own, last]
  · intro run i found
    obtain ⟨parent, calls, -, started⟩ := opens.started
    rw [opens.spans] at found
    rw [started]
    by_cases same : run = start.run
    · rw [if_pos same] at found
      obtain rfl := Option.some.inj found
      exact ⟨_, List.getElem?_concat_length .., same.symm⟩
    · rw [if_neg same] at found
      obtain ⟨span, here, of⟩ := before.opened run i found
      have inside := (List.getElem?_eq_some_iff.mp here).1
      exact ⟨span, (List.getElem?_append_left inside).trans here, of⟩
  · intro span member
    rw [started_start]
    obtain ⟨i, found⟩ := List.mem_iff_getElem?.mp member
    rcases spans found with ⟨-, there⟩ | ⟨own, -, -⟩
    · exact .inl (before.begun span (List.mem_of_getElem? there))
    · exact .inr own.symm
  · intro entry member
    obtain ⟨s, given, rest⟩ := before.chains entry (skipped ▸ member)
    exact ⟨s, List.mem_append_left _ given, rest⟩

/-- What is skipped after an end is not of the run that has ended. -/
theorem skipped_of_finish {callbacks : List (Callback Run)} (before : Kept callbacks handler) {finish : Finish Run}
    (next : MayFollow callbacks (.finish finish)) :
    ∀ entry ∈ (onFinish handler finish).skippedRuns, entry ∈ handler.skippedRuns ∧ finish.run ≠ entry.1 := by
  intro entry member
  rw [onFinish_skipped] at member
  by_cases chain : finish.kind = .chain
  · rw [if_pos chain, List.mem_filter] at member
    exact ⟨member.1, Ne.symm (by simpa using member.2)⟩
  · rw [if_neg chain] at member
    refine ⟨member, fun same => chain ?_⟩
    obtain ⟨s, given, of, kind⟩ := before.chains entry member
    rw [← next.2.2 s given (of.trans same.symm), kind]
theorem Kept.skipped_finish {callbacks : List (Callback Run)} (before : Kept callbacks handler) {finish : Finish Run}
    (next : MayFollow callbacks (.finish finish)) : ∀ entry ∈ (onFinish handler finish).skippedRuns,
      Started (callbacks ++ [.finish finish]) entry.1 ∧ ¬ Ended (callbacks ++ [.finish finish]) entry.1 := by
  intro entry member
  rw [started_finish, ended_finish, not_or]
  obtain ⟨old, other⟩ := skipped_of_finish before next entry member
  exact ⟨(before.skipped entry old).1, (before.skipped entry old).2, other⟩
theorem Kept.chains_finish {callbacks : List (Callback Run)} (before : Kept callbacks handler) {finish : Finish Run}
    (next : MayFollow callbacks (.finish finish)) : ∀ entry ∈ (onFinish handler finish).skippedRuns,
      ∃ s, .start s ∈ callbacks ++ [.finish finish] ∧ s.run = entry.1 ∧ s.kind = .chain := by
  intro entry member
  obtain ⟨s, given, rest⟩ := before.chains entry (skipped_of_finish before next entry member).1
  exact ⟨s, List.mem_append_left _ given, rest⟩
/-- An end of a run that has no span. -/
theorem Kept.finish_unkept {callbacks : List (Callback Run)} (before : Kept callbacks handler) {finish : Finish Run}
    (next : MayFollow callbacks (.finish finish)) (unkept : handler.spans finish.run = none) :
    Kept (callbacks ++ [.finish finish]) (onFinish handler finish) := by
  obtain ⟨started, spans⟩ := onFinish_unkept unkept
  have same (run : Run) : spanOf (onFinish handler finish) run = spanOf handler run := by
    rw [spanOf, spanOf, spans]
  constructor
  · constructor
    · intro span member f here of
      rw [started] at member
      rw [List.mem_append, List.mem_singleton, Callback.finish.injEq] at here
      rcases here with old | rfl
      · exact before.ended span member f old of
      · obtain ⟨i, found⟩ := List.mem_iff_getElem?.mp member
        have owned := before.owned i span found (of ▸ next.2.1)
        rw [spanOf, ← of, unkept] at owned
        cases owned
    · intro span member going
      rw [ended_finish, not_or] at going
      exact before.unended span (started ▸ member) going.1
    · intro run kept
      rw [started_finish, ended_finish, not_or]
      rw [spans] at kept
      obtain ⟨begun, unended⟩ := before.kept run kept
      refine ⟨begun, unended, ?_⟩
      rintro rfl
      exact kept unkept
    · exact before.skipped_finish next
  · intro i span found going
    rw [ended_finish, not_or] at going
    rw [same]
    exact before.owned i span (started ▸ found) going.1
  · intro run i found
    rw [same] at found
    rw [started]
    exact before.opened run i found
  · intro span member
    rw [started_finish]
    exact before.begun span (started ▸ member)
  · exact before.chains_finish next
/-- A span after the end of a run is another one as it was, or that of the run, with its end. -/
theorem span_closed {callbacks : List (Callback Run)} (before : Kept callbacks handler) {handler' : Handler Run} {run : Run} {j : Nat}
    {status : Status} (closes : Closes handler handler' run j status) (kept : spanOf handler run = some j)
    (unended : ¬ Ended callbacks run) {i : Nat} {span : Span Run} (found : handler'.started[i]? = some span) :
    (span.run ≠ run ∧ handler.started[i]? = some span) ∨ (span.run = run ∧ EndedWith span status) := by
  obtain ⟨calls, clean, started⟩ := closes.started
  obtain ⟨own, here, of⟩ := before.opened run j kept
  rw [started] at found
  by_cases same : j = i
  · subst same
    rw [List.getElem?_modify_eq, here] at found
    obtain rfl := Option.some.inj found
    refine .inr ⟨of, own.calls ++ calls, by simp, ?_⟩
    have early := before.unended own (List.mem_of_getElem? here) (of ▸ unended)
    simp [early, clean]
  · rw [List.getElem?_modify_ne _ _ same] at found
    refine .inl ⟨fun this => same ?_, found⟩
    have owned := before.owned i span found (this ▸ unended)
    rw [this, kept] at owned
    exact Option.some.inj owned
/-- An end of a run that is kept. -/
theorem Kept.finish_closes {callbacks : List (Callback Run)} (before : Kept callbacks handler) {finish : Finish Run}
    (next : MayFollow callbacks (.finish finish)) {j : Nat} (kept : spanOf handler finish.run = some j)
    (closes : Closes handler (onFinish handler finish) finish.run j (outcome finish)) :
    Kept (callbacks ++ [.finish finish]) (onFinish handler finish) := by
  have spans {i : Nat} {span : Span Run} (found : (onFinish handler finish).started[i]? = some span) :=
    span_closed before closes kept next.2.1 found
  constructor
  · constructor
    · intro span member f here of
      obtain ⟨i, found⟩ := List.mem_iff_getElem?.mp member
      rw [List.mem_append, List.mem_singleton, Callback.finish.injEq] at here
      rcases spans found with ⟨other, old⟩ | ⟨own, ended⟩
      · rcases here with earlier | rfl
        · exact before.ended span (List.mem_of_getElem? old) f earlier of
        · exact absurd of.symm other
      · rcases here with earlier | rfl
        · exact absurd ⟨f, earlier, of.trans own⟩ next.2.1
        · exact ended
    · intro span member going
      rw [ended_finish, not_or] at going
      obtain ⟨i, found⟩ := List.mem_iff_getElem?.mp member
      rcases spans found with ⟨-, old⟩ | ⟨own, -⟩
      · exact before.unended span (List.mem_of_getElem? old) going.1
      · exact absurd own.symm going.2
    · intro run still
      rw [started_finish, ended_finish, not_or]
      rw [← spanOf_ne_none, closes.spans] at still
      by_cases same : run = finish.run
      · rw [if_pos same] at still
        exact absurd rfl still
      · rw [if_neg same, spanOf_ne_none] at still
        obtain ⟨begun, unended⟩ := before.kept run still
        exact ⟨begun, unended, Ne.symm same⟩
    · exact before.skipped_finish next
  · intro i span found going
    rw [ended_finish, not_or] at going
    rw [closes.spans, if_neg (Ne.symm going.2)]
    rcases spans found with ⟨-, old⟩ | ⟨own, -⟩
    · exact before.owned i span old going.1
    · exact absurd own.symm going.2
  · intro run i found
    rw [closes.spans] at found
    by_cases same : run = finish.run
    · rw [if_pos same] at found
      cases found
    · rw [if_neg same] at found
      obtain ⟨span, here, of⟩ := before.opened run i found
      obtain ⟨calls, -, started⟩ := closes.started
      refine ⟨span, ?_, of⟩
      rw [started, List.getElem?_modify_ne _ _ ?_, here]
      rintro rfl
      obtain ⟨own, there, this⟩ := before.opened finish.run j kept
      rw [here, Option.some.injEq] at there
      exact same (of.symm.trans (there ▸ this))
  · intro span member
    rw [started_finish]
    obtain ⟨i, found⟩ := List.mem_iff_getElem?.mp member
    rcases spans found with ⟨-, old⟩ | ⟨own, -⟩
    · exact before.begun span (List.mem_of_getElem? old)
    · exact own ▸ next.1
  · exact before.chains_finish next

theorem perform_kept {callbacks : List (Callback Run)} (before : Kept callbacks handler) {c : Callback Run} (next : MayFollow callbacks c)
    (careful : Careful handler c) : Kept (callbacks ++ [c]) (perform handler c) := by
  cases c with
  | start start =>
    rw [perform]
    rcases onStart_cases handler start with same | ⟨chain, skips⟩ | ⟨opens, skipped⟩
    · rw [same]
      exact before.start_skipped fun entry member => .inl member
    · rw [skips]
      refine before.start_skipped fun entry member => ?_
      rcases List.mem_cons.mp member with rfl | old
      · exact .inr ⟨rfl, chain, next.2⟩
      · exact .inl (List.mem_of_mem_filter old)
    · exact before.start_opens next opens skipped
  | finish finish =>
    rw [perform]
    cases kept : handler.spans finish.run with
    | none => exact before.finish_unkept next kept
    | some holder => exact before.finish_closes next (by rw [spanOf, kept]; rfl) (onFinish_closes careful kept)

end

/-- In every sequence of callbacks with careful ends every span is ended once,
    after its status, and by the time all runs have ended none is kept or skipped. -/
theorem spans_ended_once {callbacks : List (Callback Run)} (wellFormed : WellFormed callbacks)
    (careful : ∀ before c, before ++ [c] <+: callbacks → Careful (run perform {} before) c) :
    ∀ before, before <+: callbacks → Tidy before (run perform {} before) := by
  intro before early
  suffices Kept before (run perform {} before) from this.toTidy
  induction before using List.reverseRecOn with
  | nil =>
    constructor
    · constructor <;> simp [run]
    all_goals simp [run, spanOf]
  | append_singleton before c ih =>
    rw [run_concat]
    exact perform_kept (ih ((List.prefix_append before [c]).trans early)) (wellFormed before c early) (careful before c early)

/-- An end that raises keeps its run. -/
theorem raising_end_keeps {handler : Handler Run} {finish : Finish Run} (kept : handler.spans finish.run ≠ none)
    (raises : finish.raises = true) : (onFinish handler finish).spans finish.run ≠ none := by
  obtain ⟨holder, found⟩ := Option.ne_none_iff_exists'.mp kept
  unfold onFinish
  rw [raises]
  cases finish.error <;> cases finish.kind <;>
    simp [onChainEnd, onChainError, onLlmEnd, onLlmError, onToolEnd, onToolError, onRetrieverEnd, onRetrieverError, Handler.finishRun,
      Handler.failRun, Handler.popSkipped, Handler.record, found]

/-! A chain with a call of a model below it, which ends before the chain, or after it. -/

def workflow : Start Nat := { kind := .chain, run := 0 }
def question : Start Nat := { kind := .chatModel, run := 1, parent := some 0 }
def workflowEnd : Finish Nat := { kind := .chain, run := 0 }
def questionEnd : Finish Nat := { kind := .chatModel, run := 1 }

theorem spans_ended_once_nested : Tidy [.start workflow, .start question, .finish questionEnd, .finish workflowEnd]
    (run perform {} [.start workflow, .start question, .finish questionEnd, .finish workflowEnd]) := by
  refine spans_ended_once ?_ ?_ _ (List.prefix_refl _)
  · refine forall_steps_cons ?_ (forall_steps_cons ?_ (forall_steps_cons ?_ (forall_steps_cons ?_ forall_steps_nil))) <;>
      simp [MayFollow, Started, Ended, workflow, question, questionEnd, workflowEnd]
  · refine forall_steps_cons trivial (forall_steps_cons trivial (forall_steps_cons ?_ (forall_steps_cons ?_ forall_steps_nil)))
    · intro holder kept
      cases kept
      simp [questionEnd]
    · intro holder kept
      cases kept
      refine ⟨rfl, by simp [workflowEnd], fun child member => ?_⟩
      obtain rfl : child = 1 := by simpa [question] using member
      rfl
/-- A chain that ends first ends the span of the call without a status, and the end of the call ends it again. -/
theorem early_chain_ends_twice :
    WellFormed [.start workflow, .start question, .finish workflowEnd, .finish questionEnd] ∧
      ¬ Tidy [.start workflow, .start question, .finish workflowEnd, .finish questionEnd]
        (run perform {} [.start workflow, .start question, .finish workflowEnd, .finish questionEnd]) := by
  constructor
  · refine forall_steps_cons ?_ (forall_steps_cons ?_ (forall_steps_cons ?_ (forall_steps_cons ?_ forall_steps_nil))) <;>
      simp [MayFollow, Started, Ended, workflow, question, questionEnd, workflowEnd]
  · intro tidy
    have ended := tidy.ended ⟨1, some 0, [.setAttribute, .finish, .setAttribute, .setStatus .ok, .setStatus .ok, .finish]⟩
      (by decide) questionEnd (by simp) rfl
    obtain ⟨before, calls, once⟩ := ended
    obtain rfl : [.setAttribute, .finish, .setAttribute, .setStatus .ok] = before := List.append_cancel_right calls
    simp at once

end Openlit.CallbackSpans
