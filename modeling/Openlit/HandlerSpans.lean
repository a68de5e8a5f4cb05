import Mathlib.Data.List.Nodup
import Openlit.LangchainHandler
import Openlit.Runs

/-!
The spans of the TypeScript handler over any sequence of callbacks and returned
lookups, in which every run starts once and ends once. Each span is ended once,
as the last that is done to it, and the map has no entry of a run that has
ended, as long as no body throws once it has its span.
-/
namespace Openlit.HandlerSpans
open Openlit.LangchainHandler Openlit.Runs

variable {Run : Type} [DecidableEq Run]

/-! ### Sequences of callbacks -/

/-- The run that a callback starts. -/
def starts : Callback Run → Option Run
  | .start _ s => some s.run
  | _ => none
/-- The run that a callback ends. -/
def ends : Callback Run → Option Run
  | .finish _ f => some f.run
  | .fail _ f => some f.run
  | _ => none
def Started (callbacks : List (Callback Run)) (run : Run) : Prop := ∃ c ∈ callbacks, starts c = some run
def Ended (callbacks : List (Callback Run)) (run : Run) : Prop := ∃ c ∈ callbacks, ends c = some run
/-- A callback that may come next: the first start of a run or its first end, or any other. -/
def MayFollow (callbacks : List (Callback Run)) (c : Callback Run) : Prop :=
  (∀ run, starts c = some run → ¬ Started callbacks run ∧ ¬ Ended callbacks run) ∧
    ∀ run, ends c = some run → Started callbacks run ∧ ¬ Ended callbacks run
def WellFormed (callbacks : List (Callback Run)) : Prop := ∀ before c, before ++ [c] <+: callbacks → MayFollow before c

/-- A run that has ended, and no longer waits for the prices. -/
def Over (ended : Run → Prop) (handler : Handler Run) (run : Run) : Prop := ended run ∧ ∀ s ∈ handler.suspended, s.run ≠ run
/-- A span that was ended once, after everything else. -/
def EndedOnce (span : Span Run) : Prop := ∃ before, span.calls = before ++ [.finish] ∧ .finish ∉ before
/-- What should hold after some callbacks. -/
structure Tidy (callbacks : List (Callback Run)) (handler : Handler Run) : Prop where
  ended : ∀ span ∈ handler.started, Over (Ended callbacks) handler span.run → EndedOnce span
  unended : ∀ span ∈ handler.started, ¬ Over (Ended callbacks) handler span.run → .finish ∉ span.calls
  entries : ∀ run, handler.spans run ≠ none → Started callbacks run ∧ ¬ Over (Ended callbacks) handler run

/-- A callback that does not throw once it has its span. -/
def Quiet (config : Config) (handler : Handler Run) : Callback Run → Prop
  | .start kind s =>
    s.nameThrows ∨ ((config.traceContent → s.content ≠ .given true) ∧ (kind = .tool → s.description ≠ .given true))
  | .token _ _ => True
  | .finish .chatModel f => handler.spans f.run ≠ none → f.content ≠ .given true
  | .finish _ f => handler.spans f.run ≠ none → config.traceContent → f.content ≠ .given true
  | .fail _ f => handler.spans f.run ≠ none → f.isNull = false
  | .prices run => (∃ s ∈ handler.suspended, s.run = run) → config.applicationName ≠ "" ∧ config.environment ≠ ""

/-! ### What a callback does -/

section
variable {handler handler' : Handler Run} {config : Config}

/-- A run gets a span and an entry. -/
structure Opens (handler handler' : Handler Run) (run : Run) : Prop where
  started : ∃ span : Span Run, span.run = run ∧ .finish ∉ span.calls ∧ handler'.started = handler.started ++ [span]
  spans : handler'.spans = Function.update handler.spans run (some handler.started.length)
  suspended : handler'.suspended = handler.suspended
/-- A span is changed, but is not ended. -/
structure Marks (handler handler' : Handler Run) (i : Nat) : Prop where
  started : ∃ change : Span Run → Span Run, handler'.started = handler.started.modify i change ∧
    ∀ span, (change span).run = span.run ∧ (.finish ∉ span.calls → .finish ∉ (change span).calls)
  spans : handler'.spans = handler.spans
  suspended : handler'.suspended = handler.suspended
/-- A span is ended, and the entry of the run is deleted. -/
structure Closes (handler handler' : Handler Run) (run : Run) (i : Nat) : Prop where
  started : ∃ change : Span Run → Span Run, handler'.started = handler.started.modify i change ∧
    ∀ span, (change span).run = span.run ∧ (.finish ∉ span.calls → EndedOnce (change span))
  spans : handler'.spans = Function.update handler.spans run none
  suspended : handler'.suspended = handler.suspended

/-- What is done to the span. -/
def calls (deeds : List Deed) : List SpanCall := deeds.filterMap fun
  | .call call => some call
  | .compute _ => none

omit [DecidableEq Run] in
theorem body_completes {deeds : List Deed} (quiet : .compute true ∉ deeds) (span : Nat) (after : Handler Run → Handler Run) :
    handler.body span after deeds =
      after { handler with started := handler.started.modify span fun s => { s with calls := s.calls ++ calls deeds } } := by
  induction deeds generalizing handler with
  | nil =>
    have same : (fun s : Span Run => { s with calls := s.calls ++ calls [] }) = id := by
      funext s
      simp [calls]
    rw [same, List.modify_id]
    rfl
  | cons deed deeds ih =>
    obtain ⟨here, rest⟩ : Deed.compute true ≠ deed ∧ .compute true ∉ deeds := by simpa using quiet
    cases deed with
    | call call =>
      rw [Handler.body, ih rest, Handler.record]
      simp only [List.modify_modify_eq]
      congr 3
      funext s
      simp [calls]
    | compute throws =>
      cases throws
      · rw [Handler.body, if_neg (by simp), ih rest]
        rfl
      · exact absurd rfl here

theorem startSpan_opens {start : Start Run} {deeds : List Deed} (named : start.nameThrows = false) (quiet : .compute true ∉ deeds)
    (unended : .finish ∉ calls deeds) : Opens handler (handler.startSpan start deeds) start.run := by
  rw [Handler.startSpan, if_neg (by simp [named]), body_completes quiet]
  refine ⟨⟨{ run := start.run, parent := start.parent.bind handler.spans, calls := calls deeds }, rfl, unended, ?_⟩, rfl, rfl⟩
  simp only [Handler.set]
  rw [List.modify_eq_take_cons_drop (by simp)]
  simp
/-- A body that ends its span and deletes the entry. -/
theorem body_closes {deeds : List Deed} (quiet : .compute true ∉ deeds) (unended : .finish ∉ calls deeds) (run : Run) (i : Nat) (ok : Bool) :
    Closes handler (handler.body i (Handler.delete run) (deeds ++ [.call (.setStatus ok), .call .finish])) run i := by
  rw [body_completes (by simpa using quiet)]
  refine ⟨⟨_, rfl, fun span => ⟨rfl, fun early => ⟨span.calls ++ (calls deeds ++ [.setStatus ok]), ?_, ?_⟩⟩⟩, rfl, rfl⟩
  · simp [calls]
  · simp [early, unended]

omit [DecidableEq Run] in
theorem attributes_quiet (count : Nat) : .compute true ∉ attributes count ∧ .finish ∉ calls (attributes count) := by
  simp [attributes, calls, List.mem_replicate]
theorem described_quiet {content : Content} (quiet : content ≠ .given true) :
    .compute true ∉ described content ∧ .finish ∉ calls (described content) := by
  cases content with
  | absent => simp [described, calls]
  | given throws =>
    cases throws
    · simp [described, calls]
    · exact absurd rfl quiet
theorem traced_quiet {content : Content} (quiet : config.traceContent → content ≠ .given true) :
    .compute true ∉ traced config content ∧ .finish ∉ calls (traced config content) := by
  rw [traced]
  by_cases tracing : config.traceContent
  · rw [if_pos tracing]
    exact described_quiet (quiet tracing)
  · rw [if_neg tracing]
    simp [calls]

theorem append_quiet {first second : List Deed} (one : .compute true ∉ first ∧ .finish ∉ calls first)
    (two : .compute true ∉ second ∧ .finish ∉ calls second) :
    .compute true ∉ first ++ second ∧ .finish ∉ calls (first ++ second) := by
  simp only [calls, List.filterMap_append, List.mem_append, not_or]
  exact ⟨⟨one.1, two.1⟩, ⟨one.2, two.2⟩⟩

/-- The start of a run leaves the handler as it is, or opens a span. -/
theorem start_cases {kind : Kind} {start : Start Run} (quiet : Quiet config handler (.start kind start)) :
    perform config handler (.start kind start) = handler ∨ Opens handler (perform config handler (.start kind start)) start.run := by
  cases named : start.nameThrows with
  | true =>
    left
    cases kind <;> exact if_pos named
  | false =>
    right
    obtain ⟨content, description⟩ : (config.traceContent → start.content ≠ .given true) ∧ (kind = .tool → start.description ≠ .given true) := by
      simpa [Quiet, named] using quiet
    have text := traced_quiet content
    cases kind with
    | chatModel =>
      obtain ⟨completes, unended⟩ := append_quiet (append_quiet (attributes_quiet 7) (attributes_quiet start.parameters)) text
      exact startSpan_opens named completes unended
    | chain =>
      obtain ⟨completes, unended⟩ := append_quiet (attributes_quiet 6) text
      exact startSpan_opens named completes unended
    | tool =>
      obtain ⟨completes, unended⟩ := append_quiet (append_quiet (attributes_quiet 6) (described_quiet (description rfl))) text
      exact startSpan_opens named completes unended
    | retriever =>
      obtain ⟨completes, unended⟩ := append_quiet (attributes_quiet 5) text
      exact startSpan_opens named completes unended
omit [DecidableEq Run] in
theorem token_marks {run : Run} {i : Nat} (entry : handler.spans run = some i) (token : String) :
    Marks handler (handleLLMNewToken handler token run) i := by
  simp only [handleLLMNewToken, entry, Handler.record, List.modify_modify_eq]
  refine ⟨⟨_, rfl, fun span => ⟨rfl, fun early => ?_⟩⟩, rfl, rfl⟩
  simpa using early

omit [DecidableEq Run] in
/-- The end of a model's run that is kept is suspended. -/
theorem handleLLMEnd_suspends {finish : Finish Run} {i : Nat} (entry : handler.spans finish.run = some i)
    (quiet : finish.content ≠ .given true) :
    ∃ s, s.run = finish.run ∧ s.span = i ∧
      handleLLMEnd handler finish = { handler with suspended := handler.suspended ++ [s] } := by
  simp only [handleLLMEnd, entry, if_neg quiet]
  exact ⟨_, rfl, rfl, rfl⟩
/-- The end of another run that is kept is that of its span. -/
theorem finish_closes {kind : Kind} {finish : Finish Run} {i : Nat} (other : kind ≠ .chatModel) (entry : handler.spans finish.run = some i)
    (quiet : config.traceContent → finish.content ≠ .given true) :
    Closes handler (perform config handler (.finish kind finish)) finish.run i := by
  have text := traced_quiet quiet
  have closes (count : Nat) : Closes handler (handler.finishRun finish.run (attributes count ++ traced config finish.content)) finish.run i := by
    obtain ⟨completes, unended⟩ := append_quiet (attributes_quiet count) text
    simp only [Handler.finishRun, entry]
    exact body_closes completes unended finish.run i true
  cases kind with
  | chatModel => exact absurd rfl other
  | chain => exact closes 1
  | tool => exact closes 1
  | retriever => exact closes 2
theorem fail_closes {kind : Kind} {failure : Failure Run} {i : Nat} (entry : handler.spans failure.run = some i)
    (quiet : failure.isNull = false) : Closes handler (perform config handler (.fail kind failure)) failure.run i := by
  have closes : Closes handler (handler.failRun failure) failure.run i := by
    simp only [Handler.failRun, entry, quiet]
    exact @body_closes _ _ handler [.call .recordException, .compute false] (by decide) (by decide) failure.run i false
  cases kind <;> exact closes
theorem resume_closes {suspended : Suspended Run} (application : config.applicationName ≠ "") (environment : config.environment ≠ "") :
    Closes handler (handler.resume config suspended) suspended.run suspended.span := by
  have base : .compute true ∉ setBaseSpanAttributes config ∧ .finish ∉ calls (setBaseSpanAttributes config) := by
    simp [setBaseSpanAttributes, application, environment, attributes, calls]
  have whether (P : Prop) [Decidable P] (count : Nat) : .compute true ∉ (if P then attributes count else []) ∧
      .finish ∉ calls (if P then attributes count else []) := by
    split
    · exact attributes_quiet count
    · simp [calls]
  obtain ⟨completes, unended⟩ := append_quiet (append_quiet (append_quiet (attributes_quiet 9)
    (whether (suspended.isStreaming ∧ suspended.hasFirstToken) _)) (whether (config.traceContent ∧ suspended.hasContent) 1)) base
  exact body_closes completes unended suspended.run suspended.span true

/-! ### What is kept -/

/-- The handler against the runs that have started and those that have ended. -/
structure Kept (started ended : Run → Prop) (handler : Handler Run) : Prop where
  going : ∀ (i : Nat) (span : Span Run), handler.started[i]? = some span → ¬ Over ended handler span.run →
    handler.spans span.run = some i ∧ .finish ∉ span.calls
  closed : ∀ (i : Nat) (span : Span Run), handler.started[i]? = some span → Over ended handler span.run → EndedOnce span
  entries : ∀ (run : Run) (i : Nat), handler.spans run = some i →
    started run ∧ ¬ Over ended handler run ∧ ∃ span : Span Run, handler.started[i]? = some span ∧ span.run = run
  begun : ∀ (i : Nat) (span : Span Run), handler.started[i]? = some span → started span.run
  suspended : ∀ s ∈ handler.suspended, ended s.run ∧ handler.spans s.run = some s.span
  distinct : (handler.suspended.map (·.run)).Nodup

variable {started ended : Run → Prop} {run : Run} {i : Nat}

omit [DecidableEq Run] in
/-- The start of a run that gets no span. -/
theorem Kept.starts (kept : Kept started ended handler) : Kept (fun r => started r ∨ r = run) ended handler :=
  ⟨kept.going, kept.closed, fun r j entry => ⟨.inl (kept.entries r j entry).1, (kept.entries r j entry).2⟩,
    fun j span found => .inl (kept.begun j span found), kept.suspended, kept.distinct⟩
omit [DecidableEq Run] in
/-- A span after one has been started is that one, or one of another run. -/
theorem Kept.span_opened (kept : Kept started ended handler) (new : ¬ started run) {span : Span Run}
    (appended : handler'.started = handler.started ++ [span]) {j : Nat} {s : Span Run} (there : handler'.started[j]? = some s) :
    (j = handler.started.length ∧ s = span) ∨ (handler.started[j]? = some s ∧ s.run ≠ run) := by
  rw [appended, List.getElem?_append] at there
  by_cases old : j < handler.started.length
  · rw [if_pos old] at there
    exact .inr ⟨there, fun same => new (same ▸ kept.begun j s there)⟩
  · rw [if_neg old, List.getElem?_singleton] at there
    split at there
    · exact .inl ⟨by omega, (Option.some.inj there).symm⟩
    · cases there
theorem Kept.opens (kept : Kept started ended handler) (new : ¬ started run) (unended : ¬ ended run) (opens : Opens handler handler' run) :
    Kept (fun r => started r ∨ r = run) ended handler' := by
  obtain ⟨span, of, early, appended⟩ := opens.started
  have isOver (r : Run) : Over ended handler' r ↔ Over ended handler r := by simp only [Over, opens.suspended]
  have found {j : Nat} {s : Span Run} (there : handler'.started[j]? = some s) := kept.span_opened new appended there
  refine ⟨?_, ?_, ?_, ?_, ?_, ?_⟩
  · intro j s there still
    rw [isOver] at still
    rw [opens.spans]
    rcases found there with ⟨rfl, rfl⟩ | ⟨old, other⟩
    · rw [of, Function.update_self]
      exact ⟨rfl, early⟩
    · rw [Function.update_of_ne other]
      exact kept.going j s old still
  · intro j s there ended
    rw [isOver] at ended
    rcases found there with ⟨rfl, rfl⟩ | ⟨old, -⟩
    · exact absurd (of ▸ ended.1) unended
    · exact kept.closed j s old ended
  · intro r j entry
    rw [isOver]
    rw [opens.spans] at entry
    by_cases same : r = run
    · subst same
      rw [Function.update_self] at entry
      cases entry
      exact ⟨.inr rfl, fun ended => unended ended.1, span, by rw [appended]; simp, of⟩
    · rw [Function.update_of_ne same] at entry
      obtain ⟨begun, still, s, there, own⟩ := kept.entries r j entry
      refine ⟨.inl begun, still, s, ?_, own⟩
      rw [appended, List.getElem?_append_left (List.getElem?_eq_some_iff.mp there).1, there]
  · intro j s there
    rcases found there with ⟨-, rfl⟩ | ⟨old, -⟩
    · exact .inr of
    · exact .inl (kept.begun j s old)
  · intro s member
    rw [opens.suspended] at member
    obtain ⟨ended, entry⟩ := kept.suspended s member
    rw [opens.spans, Function.update_of_ne (by rintro rfl; exact unended ended)]
    exact ⟨ended, entry⟩
  · rw [opens.suspended]
    exact kept.distinct

omit [DecidableEq Run] in
/-- A span in a list in which one was changed. -/
theorem getElem?_changed {spans : List (Span Run)} {change : Span Run → Span Run} {j : Nat} {s : Span Run}
    (there : (spans.modify i change)[j]? = some s) : ∃ old, spans[j]? = some old ∧ s = if i = j then change old else old := by
  rw [List.getElem?_modify] at there
  cases found : spans[j]? with
  | none => simp [found] at there
  | some old =>
    refine ⟨old, rfl, ?_⟩
    simpa [found, eq_comm] using there
omit [DecidableEq Run] in
theorem getElem?_unchanged {spans : List (Span Run)} (change : Span Run → Span Run) {j : Nat} {s : Span Run} (there : spans[j]? = some s) :
    (spans.modify i change)[j]? = some (if i = j then change s else s) := by
  rw [List.getElem?_modify, there]
  by_cases same : i = j <;> simp [same]
omit [DecidableEq Run] in
theorem Kept.marks (kept : Kept started ended handler) (entry : handler.spans run = some i) (marks : Marks handler handler' i) :
    Kept started ended handler' := by
  obtain ⟨change, modified, same⟩ := marks.started
  have isOver (r : Run) : Over ended handler' r ↔ Over ended handler r := by simp only [Over, marks.suspended]
  obtain ⟨-, still, own, here, of⟩ := kept.entries run i entry
  have found {j : Nat} {s : Span Run} (there : handler'.started[j]? = some s) :
      ∃ old, handler.started[j]? = some old ∧ s.run = old.run ∧ (.finish ∉ old.calls → .finish ∉ s.calls) ∧
        (Over ended handler s.run → s = old) := by
    rw [modified] at there
    obtain ⟨old, before, rfl⟩ := getElem?_changed there
    refine ⟨old, before, ?_⟩
    by_cases this : i = j
    · subst this
      obtain rfl := Option.some.inj (here.symm.trans before)
      simp only [if_true]
      exact ⟨(same _).1, (same _).2, fun ended => absurd (of ▸ (same own).1 ▸ ended) still⟩
    · simp [this]
  refine ⟨?_, ?_, ?_, ?_, ?_, ?_⟩
  · intro j s there going
    rw [isOver] at going
    obtain ⟨old, before, run, early, -⟩ := found there
    rw [run] at going ⊢
    obtain ⟨entry, unended⟩ := kept.going j old before going
    rw [marks.spans]
    exact ⟨entry, early unended⟩
  · intro j s there ended
    rw [isOver] at ended
    obtain ⟨old, before, -, -, unchanged⟩ := found there
    obtain rfl := unchanged ended
    exact kept.closed j s before ended
  · intro r j entry
    rw [marks.spans] at entry
    obtain ⟨begun, going, s, there, of⟩ := kept.entries r j entry
    rw [isOver, modified]
    refine ⟨begun, going, _, getElem?_unchanged change there, ?_⟩
    by_cases this : i = j
    · rw [if_pos this, (same s).1, of]
    · rw [if_neg this, of]
  · intro j s there
    obtain ⟨old, before, run, -, -⟩ := found there
    rw [run]
    exact kept.begun j old before
  · rw [marks.suspended, marks.spans]
    exact kept.suspended
  · rw [marks.suspended]
    exact kept.distinct
omit [DecidableEq Run] in
/-- A span after one has been ended is that one, or another as it was. -/
theorem Kept.span_closed (kept : Kept started ended handler) (entry : handler.spans run = some i)
    (changed : ∃ change : Span Run → Span Run, handler'.started = handler.started.modify i change ∧
      ∀ span, (change span).run = span.run ∧ (.finish ∉ span.calls → EndedOnce (change span))) {j : Nat} {s : Span Run}
    (there : handler'.started[j]? = some s) : (s.run = run ∧ EndedOnce s) ∨ (s.run ≠ run ∧ handler.started[j]? = some s) := by
  obtain ⟨change, modified, ends⟩ := changed
  obtain ⟨-, still, own, here, of⟩ := kept.entries run i entry
  have unended : .finish ∉ own.calls := (kept.going i own here (of ▸ still)).2
  rw [modified] at there
  obtain ⟨old, old_there, rfl⟩ := getElem?_changed there
  by_cases this : i = j
  · subst this
    obtain rfl := Option.some.inj (here.symm.trans old_there)
    rw [if_pos rfl]
    exact .inl ⟨(ends _).1.trans of, (ends _).2 unended⟩
  · rw [if_neg this]
    refine .inr ⟨fun same => this ?_, old_there⟩
    have entered := (kept.going j old old_there (same ▸ still)).1
    rw [same, entry] at entered
    exact Option.some.inj entered
omit [DecidableEq Run] in
/-- Other runs are over as they were. -/
theorem over_closed {waiting : List (Suspended Run)} (fewer : waiting.Sublist handler.suspended)
    (others : ∀ s ∈ handler.suspended, s.run ≠ run → s ∈ waiting) (suspended : handler'.suspended = waiting) {ended' : Run → Prop}
    (before : ∀ r, r ≠ run → (ended' r ↔ ended r)) {r : Run} (other : r ≠ run) : Over ended' handler' r ↔ Over ended handler r := by
  rw [Over, Over, before r other, suspended]
  refine and_congr_right fun _ => ⟨fun none s member => ?_, fun none s member => none s (fewer.subset member)⟩
  by_cases this : s.run = run
  · exact this ▸ other.symm
  · exact none s (others s member this)
/-- The span of a run that was kept is ended and its entry deleted, and the run is over now. -/
theorem Kept.closes (kept : Kept started ended handler) (entry : handler.spans run = some i) {waiting : List (Suspended Run)}
    (fewer : waiting.Sublist handler.suspended) (gone : ∀ s ∈ waiting, s.run ≠ run)
    (others : ∀ s ∈ handler.suspended, s.run ≠ run → s ∈ waiting)
    (closes : Closes { handler with suspended := waiting } handler' run i) {ended' : Run → Prop} (now : ended' run)
    (before : ∀ r, r ≠ run → (ended' r ↔ ended r)) : Kept started ended' handler' := by
  obtain ⟨change, modified, ends⟩ := closes.started
  have begun := (kept.entries run i entry).1
  have overNow : Over ended' handler' run := ⟨now, by simpa only [closes.suspended] using gone⟩
  have isOver (r : Run) (other : r ≠ run) : Over ended' handler' r ↔ Over ended handler r :=
    over_closed fewer others closes.suspended before other
  have found {j : Nat} {s : Span Run} (there : handler'.started[j]? = some s) := kept.span_closed entry closes.started there
  refine ⟨?_, ?_, ?_, ?_, ?_, ?_⟩
  · intro j s there going
    rcases found there with ⟨same, -⟩ | ⟨other, old⟩
    · exact absurd (same ▸ overNow) going
    · rw [isOver s.run other] at going
      rw [closes.spans, Function.update_of_ne other]
      exact kept.going j s old going
  · intro j s there ended
    rcases found there with ⟨-, once⟩ | ⟨other, old⟩
    · exact once
    · exact kept.closed j s old ((isOver s.run other).mp ended)
  · intro r j entered
    rw [closes.spans] at entered
    by_cases same : r = run
    · rw [same, Function.update_self] at entered
      cases entered
    · rw [Function.update_of_ne same] at entered
      obtain ⟨begun, going, s, there, own⟩ := kept.entries r j entered
      rw [isOver r same, modified]
      refine ⟨begun, going, _, getElem?_unchanged change there, ?_⟩
      by_cases this : i = j
      · rw [if_pos this, (ends s).1, own]
      · rw [if_neg this, own]
  · intro j s there
    rcases found there with ⟨same, -⟩ | ⟨-, old⟩
    · exact same ▸ begun
    · exact kept.begun j s old
  · intro s member
    rw [closes.suspended] at member
    have other := gone s member
    obtain ⟨ended, entered⟩ := kept.suspended s (fewer.subset member)
    rw [closes.spans, Function.update_of_ne other]
    exact ⟨(before s.run other).mpr ended, entered⟩
  · rw [closes.suspended]
    exact kept.distinct.sublist (fewer.map _)

/-- The end of a run that has an entry, with that of its span. -/
theorem Kept.ends (kept : Kept started ended handler) (entry : handler.spans run = some i) (going : ¬ ended run)
    (closes : Closes handler handler' run i) : Kept started (fun r => ended r ∨ r = run) handler' := by
  have alone (t : Suspended Run) (member : t ∈ handler.suspended) : t.run ≠ run :=
    fun same => going (same ▸ (kept.suspended t member).1)
  refine kept.closes entry (List.Sublist.refl _) alone (fun t member _ => member) closes (.inr rfl) ?_
  simp +contextual

omit [DecidableEq Run] in
theorem over_or {other : Run} (different : other ≠ run) : Over (fun r => ended r ∨ r = run) handler other ↔ Over ended handler other := by
  simp [Over, different]
omit [DecidableEq Run] in
/-- The end of a run that has no entry. -/
theorem Kept.ends_unkept (kept : Kept started ended handler) (unkept : handler.spans run = none) (going : ¬ ended run) :
    Kept started (fun r => ended r ∨ r = run) handler := by
  have still : ¬ Over ended handler run := fun isOver => going isOver.1
  have other {j : Nat} {span : Span Run} (there : handler.started[j]? = some span) : span.run ≠ run := by
    intro same
    have entry := (kept.going j span there (same ▸ still)).1
    rw [same, unkept] at entry
    cases entry
  refine ⟨?_, ?_, ?_, kept.begun, ?_, kept.distinct⟩
  · intro j span there unended
    rw [over_or (other there)] at unended
    exact kept.going j span there unended
  · intro j span there ended
    rw [over_or (other there)] at ended
    exact kept.closed j span there ended
  · intro r j entry
    have different : r ≠ run := by
      rintro rfl
      rw [unkept] at entry
      cases entry
    rw [over_or different]
    exact kept.entries r j entry
  · intro s member
    exact ⟨.inl (kept.suspended s member).1, (kept.suspended s member).2⟩
omit [DecidableEq Run] in
/-- The end of a run that waits for the prices. -/
theorem Kept.suspends (kept : Kept started ended handler) {s : Suspended Run} (entry : handler.spans s.run = some s.span)
    (going : ¬ ended s.run) :
    Kept started (fun r => ended r ∨ r = s.run) { handler with suspended := handler.suspended ++ [s] } := by
  have isOver (r : Run) : Over (fun r => ended r ∨ r = s.run) { handler with suspended := handler.suspended ++ [s] } r ↔
      Over ended handler r := by
    by_cases same : r = s.run
    · refine iff_of_false (fun isOver => isOver.2 s (by simp) same.symm) (fun isOver => going (same ▸ isOver.1))
    · simp [Over, same, or_imp, forall_and, Ne.symm same]
  refine ⟨?_, ?_, ?_, kept.begun, ?_, ?_⟩
  · intro j span there unended
    rw [isOver] at unended
    exact kept.going j span there unended
  · intro j span there ended
    rw [isOver] at ended
    exact kept.closed j span there ended
  · intro r j entry
    rw [isOver]
    exact kept.entries r j entry
  · intro t member
    rcases List.mem_append.mp member with old | new
    · exact ⟨.inl (kept.suspended t old).1, (kept.suspended t old).2⟩
    · obtain rfl := List.mem_singleton.mp new
      exact ⟨.inr rfl, entry⟩
  · rw [List.map_append, List.map_singleton, List.nodup_append]
    refine ⟨kept.distinct, by simp, ?_⟩
    rintro _ member _ last rfl
    obtain ⟨t, old, same⟩ := List.mem_map.mp member
    rw [List.mem_singleton] at last
    exact going (last ▸ same ▸ (kept.suspended t old).1)
/-- The return of a lookup. -/
theorem Kept.prices (kept : Kept started ended handler) (quiet : Quiet config handler (.prices run)) :
    Kept started ended (pricesFound config handler run) := by
  rw [pricesFound]
  cases waits : handler.suspended.find? (·.run = run) with
  | none => exact kept
  | some s =>
    have member := List.mem_of_find?_eq_some waits
    have of : s.run = run := by simpa using List.find?_some waits
    obtain ⟨application, environment⟩ := quiet ⟨s, member, of⟩
    obtain ⟨ended, entry⟩ := kept.suspended s member
    have only {t : Suspended Run} (there : t ∈ handler.suspended) (same : t.run = s.run) : t = s :=
      List.inj_on_of_nodup_map kept.distinct there member same
    have nodup : handler.suspended.Nodup := kept.distinct.of_map _
    refine kept.closes entry List.erase_sublist ?_ ?_ (resume_closes application environment) ended fun _ _ => Iff.rfl
    · intro t there same
      exact ((nodup.mem_erase_iff.mp there).1) (only (List.mem_of_mem_erase there) same)
    · intro t there other
      exact (List.mem_erase_of_ne (by rintro rfl; exact other rfl)).mpr there

theorem perform_kept {callbacks : List (Callback Run)} (kept : Kept (Started callbacks) (Ended callbacks) handler) {c : Callback Run}
    (next : MayFollow callbacks c) (quiet : Quiet config handler c) :
    Kept (Started (callbacks ++ [c])) (Ended (callbacks ++ [c])) (perform config handler c) := by
  have started : Started (callbacks ++ [c]) = fun r => Started callbacks r ∨ starts c = some r := by
    funext r
    simp [Started, or_and_right, exists_or]
  have ended : Ended (callbacks ++ [c]) = fun r => Ended callbacks r ∨ ends c = some r := by
    funext r
    simp [Ended, or_and_right, exists_or]
  rw [started, ended]
  cases c with
  | start kind s =>
    obtain ⟨new, unended⟩ := next.1 s.run rfl
    simp only [starts, ends, Option.some.injEq, reduceCtorEq, or_false, @eq_comm _ s.run]
    rcases start_cases quiet with same | opens
    · rw [same]
      exact kept.starts
    · exact kept.opens new unended opens
  | token token run =>
    simp only [starts, ends, reduceCtorEq, or_false, perform]
    cases entry : handler.spans run with
    | none =>
      rw [handleLLMNewToken, entry]
      exact kept
    | some i => exact kept.marks entry (token_marks entry token)
  | finish kind f =>
    have going := (next.2 f.run rfl).2
    simp only [starts, ends, Option.some.injEq, reduceCtorEq, or_false, @eq_comm _ f.run]
    cases entry : handler.spans f.run with
    | none =>
      have same : perform config handler (.finish kind f) = handler := by
        cases kind <;> simp [perform, handleLLMEnd, handleChainEnd, handleToolEnd, handleRetrieverEnd, Handler.finishRun, entry]
      rw [same]
      exact kept.ends_unkept entry going
    | some i =>
      have entered : handler.spans f.run ≠ none := by simp [entry]
      by_cases model : kind = .chatModel
      · subst model
        obtain ⟨s, of, span, suspended⟩ := handleLLMEnd_suspends entry (quiet entered)
        rw [perform, suspended, ← of]
        exact kept.suspends (by rw [of, entry, span]) (of ▸ going)
      · have readable : config.traceContent → f.content ≠ .given true := by
          cases kind with
          | chatModel => exact absurd rfl model
          | chain | tool | retriever => exact quiet entered
        exact kept.ends entry going (finish_closes model entry readable)
  | fail kind f =>
    have going := (next.2 f.run rfl).2
    simp only [starts, ends, Option.some.injEq, reduceCtorEq, or_false, @eq_comm _ f.run]
    cases entry : handler.spans f.run with
    | none =>
      have same : perform config handler (.fail kind f) = handler := by
        cases kind <;> simp [perform, handleLLMError, handleChainError, handleToolError, handleRetrieverError, Handler.failRun, entry]
      rw [same]
      exact kept.ends_unkept entry going
    | some i => exact kept.ends entry going (fail_closes entry (quiet (by simp [entry])))
  | prices run =>
    simp only [starts, ends, reduceCtorEq, or_false]
    exact kept.prices quiet

omit [DecidableEq Run] in
theorem Kept.tidy {callbacks : List (Callback Run)} (kept : Kept (Started callbacks) (Ended callbacks) handler) : Tidy callbacks handler := by
  refine ⟨?_, ?_, ?_⟩
  · intro span member isOver
    obtain ⟨i, there⟩ := List.mem_iff_getElem?.mp member
    exact kept.closed i span there isOver
  · intro span member going
    obtain ⟨i, there⟩ := List.mem_iff_getElem?.mp member
    exact (kept.going i span there going).2
  · intro run entered
    obtain ⟨i, entry⟩ := Option.ne_none_iff_exists'.mp entered
    exact ⟨(kept.entries run i entry).1, (kept.entries run i entry).2.1⟩

end

/-- Over any sequence of callbacks and lookups of which none throws once it has its span, each span is ended once, as
    the last that is done to it, when its run is over, and not before, and there is no entry of a run that is over. -/
theorem handler_tidy (config : Config) {callbacks : List (Callback Run)} (wellFormed : WellFormed callbacks)
    (quiet : ∀ before c, before ++ [c] <+: callbacks → Quiet config (run (perform config) {} before) c) :
    ∀ before, before <+: callbacks → Tidy before (run (perform config) {} before) := by
  intro before early
  suffices Kept (Started before) (Ended before) (run (perform config) {} before) from this.tidy
  induction before using List.reverseRecOn with
  | nil => constructor <;> simp [run]
  | append_singleton before c ih =>
    rw [run_concat]
    exact perform_kept (ih ((List.prefix_append before [c]).trans early)) (wellFormed before c early) (quiet before c early)

/-! A question to a model, with tokens before and during the lookup, and a chain whose inputs cannot be made a text. -/

def question : List (Callback Nat) :=
  [.start .chatModel { run := 0, content := .given false }, .token "to" 0, .finish .chatModel { run := 0, content := .given false },
    .token "ken" 0, .prices 0]
def unreadable : List (Callback Nat) := [.start .chain { run := 0, content := .given true }, .finish .chain { run := 0 }]

theorem question_tidy : Tidy question (run (perform {}) {} question) := by
  refine handler_tidy {} ?_ ?_ _ (List.prefix_refl _)
  · refine forall_steps_cons ?_ (forall_steps_cons ?_ (forall_steps_cons ?_ (forall_steps_cons ?_ (forall_steps_cons ?_ forall_steps_nil)))) <;>
      simp [MayFollow, Started, Ended, starts, ends]
  · refine forall_steps_cons ?_ (forall_steps_cons ?_ (forall_steps_cons ?_ (forall_steps_cons ?_ (forall_steps_cons ?_ forall_steps_nil)))) <;>
      simp [Quiet]
/-- The span of the chain is never ended. -/
theorem unreadable_untidy : ¬ ∀ (config : Config) (callbacks : List (Callback Nat)), WellFormed callbacks →
    Tidy callbacks (run (perform config) {} callbacks) := by
  intro all
  have tidy := all {} unreadable
    (forall_steps_cons (by simp [MayFollow, Started, Ended, starts, ends])
      (forall_steps_cons (by simp [MayFollow, Started, Ended, starts, ends]) forall_steps_nil))
  have isOver : Over (Ended unreadable) (run (perform {}) {} unreadable) 0 := by
    refine ⟨⟨.finish .chain { run := 0 }, by simp [unreadable], rfl⟩, ?_⟩
    decide
  obtain ⟨before, calls, -⟩ := tidy.ended { run := 0, parent := none, calls := List.replicate 6 .setAttribute } (by decide) isOver
  have last := congrArg List.getLast? calls
  rw [List.getLast?_concat] at last
  revert last
  decide

end Openlit.HandlerSpans
