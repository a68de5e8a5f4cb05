import Openlit.CallbackSpans

/-!
The flag that says that a framework owns a call of a model, and the span that is
attached, over any sequence of LangChain callbacks. Both are restored from what a
run found when it started, so they are right at the end if it was the first run
that ended last.
-/
namespace Openlit.FrameworkFlags
open Openlit.CallbackSpans Openlit.LangchainCallbacks Openlit.Runs

variable {Run : Type} [DecidableEq Run]

/-! ### Open calls of models -/

def isModel : Kind → Bool
  | .llm | .chatModel => true
  | .chain | .tool | .retriever => false
/-- The calls of models that are not yet ended, in the order of their starts. -/
def openRuns (callbacks : List (Callback Run)) : List Run :=
  callbacks.foldl (fun opened c => match c with
    | .start s => if isModel s.kind then opened ++ [s.run] else opened
    | .finish f => opened.filter (· ≠ f.run)) []

/-- The flag and the attached span are those from before as long as no call is open; while one is, the flag is set. -/
structure Restored (initial : Handler Run) (callbacks : List (Callback Run)) (handler : Handler Run) : Prop where
  idle : openRuns callbacks = [] →
    handler.frameworkLlmActive = initial.frameworkLlmActive ∧ handler.context = initial.context
  active : openRuns callbacks ≠ [] → handler.frameworkLlmActive = true

/-- A call of a model that starts without an exception before it is attached, or
    ends without one before it is detached; the one that was opened first ends only when no other is open. -/
def Orderly (callbacks : List (Callback Run)) : Callback Run → Prop
  | .start s => isModel s.kind = true → s.failure ≠ some .beforeSpan
  | .finish f => f.run ∈ openRuns callbacks →
    f.raises = false ∧ ((openRuns callbacks).head? = some f.run → openRuns callbacks = [f.run])

theorem openRuns_start (callbacks : List (Callback Run)) (s : Start Run) :
    openRuns (callbacks ++ [.start s]) = if isModel s.kind then openRuns callbacks ++ [s.run] else openRuns callbacks :=
  List.foldl_concat ..
theorem openRuns_finish (callbacks : List (Callback Run)) (f : Finish Run) :
    openRuns (callbacks ++ [.finish f]) = (openRuns callbacks).filter (· ≠ f.run) := List.foldl_concat ..
omit [DecidableEq Run] in
theorem wellFormed_concat {callbacks : List (Callback Run)} {c : Callback Run} (wellFormed : WellFormed (callbacks ++ [c])) :
    WellFormed callbacks ∧ MayFollow callbacks c :=
  ⟨fun before b early => wellFormed before b (early.trans (List.prefix_append ..)), wellFormed callbacks c (List.prefix_refl _)⟩
theorem mem_openRuns {callbacks : List (Callback Run)} (wellFormed : WellFormed callbacks) (run : Run) :
    run ∈ openRuns callbacks ↔ (∃ s, .start s ∈ callbacks ∧ s.run = run ∧ isModel s.kind = true) ∧ ¬ Ended callbacks run := by
  induction callbacks using List.reverseRecOn with
  | nil => simp [openRuns]
  | append_singleton callbacks c ih =>
    obtain ⟨earlier, next⟩ := wellFormed_concat wellFormed
    have ih := ih earlier
    cases c with
    | start s =>
      rw [openRuns_start, ended_start]
      by_cases model : isModel s.kind = true
      · rw [if_pos model, List.mem_append, List.mem_singleton, ih]
        constructor
        · rintro (⟨⟨s', given, rest⟩, unended⟩ | rfl)
          · exact ⟨⟨s', List.mem_append_left _ given, rest⟩, unended⟩
          · exact ⟨⟨s, by simp, rfl, model⟩, next.2⟩
        · rintro ⟨⟨s', given, rfl, rest⟩, unended⟩
          rw [List.mem_append, List.mem_singleton, Callback.start.injEq] at given
          rcases given with old | rfl
          · exact .inl ⟨⟨s', old, rfl, rest⟩, unended⟩
          · exact .inr rfl
      · rw [if_neg model, ih]
        refine and_congr_left fun _ => exists_congr fun s' => ?_
        rw [List.mem_append, List.mem_singleton, Callback.start.injEq]
        constructor
        · exact fun given => ⟨.inl given.1, given.2⟩
        · rintro ⟨old | rfl, same, kind⟩
          · exact ⟨old, same, kind⟩
          · exact absurd kind model
    | finish f =>
      have given : (∃ s, .start s ∈ callbacks ++ [.finish f] ∧ s.run = run ∧ isModel s.kind = true) ↔
          ∃ s, .start s ∈ callbacks ∧ s.run = run ∧ isModel s.kind = true := by simp
      rw [openRuns_finish, ended_finish, List.mem_filter, ih, not_or, and_assoc, given, decide_eq_true_eq, ne_comm]

/-! ### What a callback does to the flag -/

section
variable {handler : Handler Run}

/-- What a run has kept, if it is there. -/
def tokenOf (handler : Handler Run) (run : Run) : Option (Option (Bool × Option Nat)) := (handler.spans run).map (·.token)

/-- Nothing has changed but for a run. -/
structure Apart (handler handler' : Handler Run) (run : Run) : Prop where
  active : handler'.frameworkLlmActive = handler.frameworkLlmActive
  context : handler'.context = handler.context
  tokens : ∀ r ≠ run, tokenOf handler' r = tokenOf handler r

theorem createSpan_apart (handler : Handler Run) (run : Run) (parent : Option Run) : Apart handler (handler.createSpan run parent) run := by
  refine ⟨rfl, rfl, fun r other => ?_⟩
  refine (map_createSpan (·.token) (fun _ _ => rfl) handler run parent r).trans ?_
  rw [if_neg other]
  rfl
omit [DecidableEq Run] in
theorem Apart.describe {handler' : Handler Run} {run : Run} (apart : Apart handler handler' run) : Apart handler (handler'.describe run) run := by
  unfold Handler.describe
  cases handler'.spans run with
  | none => exact apart
  | some holder => exact ⟨apart.active, apart.context, apart.tokens⟩
theorem startSpan_apart (handler : Handler Run) (start : Start Run) : Apart handler (handler.startSpan start) start.run := by
  unfold Handler.startSpan
  cases start.failure with
  | none => exact (createSpan_apart ..).describe
  | some failure =>
    cases failure with
    | beforeSpan => exact ⟨rfl, rfl, fun _ _ => rfl⟩
    | afterSpan => exact createSpan_apart ..
theorem onStart_apart {start : Start Run} (other : isModel start.kind = false) : Apart handler (onStart handler start) start.run := by
  unfold onStart
  cases kind : start.kind with
  | chain =>
    unfold onChainStart
    by_cases early : start.failure = some .beforeSpan
    · rw [if_pos early]
      exact ⟨rfl, rfl, fun _ _ => rfl⟩
    · rw [if_neg early]
      by_cases skip : skips start = true
      · rw [if_pos skip]
        exact ⟨rfl, rfl, fun _ _ => rfl⟩
      · rw [if_neg skip]
        exact startSpan_apart ..
  | llm | chatModel =>
    rw [kind] at other
    cases other
  | tool | retriever => exact startSpan_apart ..

/-- The start of a call of a model, that keeps what the flag and the attached span were. -/
structure Attaches (handler handler' : Handler Run) (run : Run) : Prop where
  active : handler'.frameworkLlmActive = true
  tokens : ∀ r, tokenOf handler' r = if r = run then some (some (handler.frameworkLlmActive, handler.context)) else tokenOf handler r
theorem attach_attaches (handler : Handler Run) (run : Run) (parent : Option Run) :
    Attaches handler ((handler.createSpan run parent).attach run) run := by
  have tokens (r : Run) : tokenOf (handler.createSpan run parent) r = if r = run then some none else tokenOf handler r :=
    map_createSpan (·.token) (fun _ _ => rfl) handler run parent r
  unfold Handler.attach
  cases found : (handler.createSpan run parent).spans run with
  | none =>
    have own := tokens run
    rw [if_pos rfl, tokenOf, found] at own
    cases own
  | some holder =>
    refine ⟨rfl, fun r => (map_update (·.token) (handler.createSpan run parent).spans run _ r).trans ?_⟩
    by_cases same : r = run
    · rw [if_pos same, if_pos same]
      rfl
    · rw [if_neg same, if_neg same]
      exact (tokens r).trans (if_neg same)
omit [DecidableEq Run] in
theorem describe_flags (handler : Handler Run) (run : Run) :
    (handler.describe run).frameworkLlmActive = handler.frameworkLlmActive ∧ (handler.describe run).spans = handler.spans := by
  unfold Handler.describe
  cases handler.spans run <;> exact ⟨rfl, rfl⟩
theorem onStart_attaches {start : Start Run} (model : isModel start.kind = true) (attached : start.failure ≠ some .beforeSpan) :
    Attaches handler (onStart handler start) start.run := by
  have models : Attaches handler (handler.startModel start) start.run := by
    unfold Handler.startModel
    have attaches := attach_attaches handler start.run start.parent
    cases failure : start.failure with
    | none =>
      obtain ⟨active, spans⟩ := describe_flags ((handler.createSpan start.run start.parent).attach start.run) start.run
      refine ⟨active.trans attaches.active, fun r => ?_⟩
      rw [← attaches.tokens r, tokenOf, tokenOf, spans]
    | some failure' =>
      cases failure' with
      | beforeSpan => exact absurd failure attached
      | afterSpan => exact attaches
  unfold onStart
  cases kind : start.kind with
  | llm | chatModel => exact models
  | chain | tool | retriever =>
    rw [kind] at model
    cases model

omit [DecidableEq Run] in
theorem endChildren_flags (handler : Handler Run) (children : List Run) :
    (children.foldl Handler.endChild handler).frameworkLlmActive = handler.frameworkLlmActive ∧
      (children.foldl Handler.endChild handler).context = handler.context ∧
      (children.foldl Handler.endChild handler).spans = handler.spans := by
  induction children generalizing handler with
  | nil => exact ⟨rfl, rfl, rfl⟩
  | cons child rest ih =>
    have same : (handler.endChild child).frameworkLlmActive = handler.frameworkLlmActive ∧
        (handler.endChild child).context = handler.context ∧ (handler.endChild child).spans = handler.spans := by
      unfold Handler.endChild
      cases handler.spans child with
      | none => exact ⟨rfl, rfl, rfl⟩
      | some holder => by_cases ended : handler.hasEnded holder.span <;> simp [ended, Handler.record]
    rw [List.foldl_cons]
    obtain ⟨active, context, spans⟩ := ih (handler.endChild child)
    exact ⟨active.trans same.1, context.trans same.2.1, spans.trans same.2.2⟩
theorem endSpan_apart (handler : Handler Run) (run : Run) (error : Option String) : Apart handler (handler.endSpan run error) run := by
  unfold Handler.endSpan
  cases handler.spans run with
  | none => exact ⟨rfl, rfl, fun _ _ => rfl⟩
  | some holder =>
    obtain ⟨active, context, spans⟩ := endChildren_flags handler holder.children
    refine ⟨active, context, fun r other => ?_⟩
    refine (map_update (·.token) (holder.children.foldl Handler.endChild handler).spans run none r).trans ?_
    rw [if_neg other, spans]
    rfl
omit [DecidableEq Run] in
/-- A span that is recorded to plays no part in the flag. -/
theorem Apart.of_record {handler' : Handler Run} {run : Run} {span : Nat} {call : SpanCall}
    (apart : Apart (handler.record span call) handler' run) : Apart handler handler' run := ⟨apart.active, apart.context, apart.tokens⟩
theorem Apart.of_popSkipped {handler' : Handler Run} {run : Run} (apart : Apart (handler.popSkipped run) handler' run) :
    Apart handler handler' run := ⟨apart.active, apart.context, apart.tokens⟩
theorem finishRun_apart (handler : Handler Run) (run : Run) (raises : Bool) : Apart handler (handler.finishRun run raises) run := by
  unfold Handler.finishRun
  cases handler.spans run with
  | none => exact ⟨rfl, rfl, fun _ _ => rfl⟩
  | some holder =>
    cases raises with
    | true => exact ⟨rfl, rfl, fun _ _ => rfl⟩
    | false => exact (endSpan_apart ..).of_record
theorem failRun_apart (handler : Handler Run) (run : Run) (error : String) (raises : Bool) :
    Apart handler (handler.failRun run error raises) run := by
  unfold Handler.failRun
  cases handler.spans run with
  | none => exact ⟨rfl, rfl, fun _ _ => rfl⟩
  | some holder =>
    cases raises with
    | true => exact ⟨rfl, rfl, fun _ _ => rfl⟩
    | false => exact (endSpan_apart ..).of_record
theorem onFinish_apart {finish : Finish Run} (other : isModel finish.kind = false) : Apart handler (onFinish handler finish) finish.run := by
  unfold onFinish
  cases finish.error with
  | none =>
    cases kind : finish.kind with
    | chain => exact (finishRun_apart ..).of_popSkipped
    | llm | chatModel =>
      rw [kind] at other
      cases other
    | tool | retriever => exact finishRun_apart ..
  | some error =>
    cases kind : finish.kind with
    | chain => exact (failRun_apart ..).of_popSkipped
    | llm | chatModel =>
      rw [kind] at other
      cases other
    | tool | retriever => exact failRun_apart ..

/-- The end of a call of a model, that restores what it kept. -/
structure Detaches (handler handler' : Handler Run) (run : Run) (token : Bool × Option Nat) : Prop where
  active : handler'.frameworkLlmActive = token.1
  context : handler'.context = token.2
  tokens : ∀ r ≠ run, tokenOf handler' r = tokenOf handler r
theorem onFinish_detaches {finish : Finish Run} (model : isModel finish.kind = true) (quiet : finish.raises = false)
    {token : Bool × Option Nat} (kept : tokenOf handler finish.run = some (some token)) :
    Detaches handler (onFinish handler finish) finish.run token := by
  obtain ⟨holder, found, given⟩ := Option.map_eq_some_iff.mp kept
  have detached (marked : Handler Run) (same : marked.spans = handler.spans) (error : Option String) :
      Detaches handler ((marked.detach holder.token).endSpan finish.run error) finish.run token := by
    have apart := endSpan_apart (marked.detach holder.token) finish.run error
    have restored : marked.detach holder.token = { marked with frameworkLlmActive := token.1, context := token.2 } := by
      rw [given]
      rfl
    rw [restored] at apart ⊢
    refine ⟨apart.active, apart.context, fun r other => (apart.tokens r other).trans ?_⟩
    rw [tokenOf, tokenOf, ← same]
  unfold onFinish
  rw [quiet]
  cases finish.error with
  | none =>
    cases kind : finish.kind with
    | llm | chatModel =>
      simp only [onLlmEnd, found]
      rw [if_neg Bool.false_ne_true]
      refine detached _ ?_ none
      rfl
    | chain | tool | retriever =>
      rw [kind] at model
      cases model
  | some error =>
    cases kind : finish.kind with
    | llm | chatModel =>
      simp only [onLlmError, found]
      rw [if_neg Bool.false_ne_true]
      refine detached _ ?_ (some error)
      rfl
    | chain | tool | retriever =>
      rw [kind] at model
      cases model

end

/-! ### The flag over a sequence of callbacks -/

/-- What the open calls have kept: the first one what was there before, the others that the flag was set. -/
structure Saved (initial : Handler Run) (callbacks : List (Callback Run)) (handler : Handler Run) : Prop extends
    Restored initial callbacks handler where
  tokens : ∀ run ∈ openRuns callbacks, ∃ token, tokenOf handler run = some (some token) ∧
    ((openRuns callbacks).head? = some run → token = (initial.frameworkLlmActive, initial.context)) ∧
    ((openRuns callbacks).head? ≠ some run → token.1 = true)

section
variable {initial handler : Handler Run} {callbacks : List (Callback Run)}

/-- A callback that has nothing to do with a call of a model. -/
theorem Saved.apart (before : Saved initial callbacks handler) {handler' : Handler Run} {run : Run} {c : Callback Run}
    (apart : Apart handler handler' run) (closed : run ∉ openRuns callbacks) (same : openRuns (callbacks ++ [c]) = openRuns callbacks) :
    Saved initial (callbacks ++ [c]) handler' := by
  constructor
  · constructor
    · rw [same, apart.active, apart.context]
      exact before.idle
    · rw [same, apart.active]
      exact before.active
  · rw [same]
    intro r member
    have other : r ≠ run := by
      rintro rfl
      exact closed member
    rw [apart.tokens r other]
    exact before.tokens r member
theorem Saved.start (before : Saved initial callbacks handler) {start : Start Run} (new : start.run ∉ openRuns callbacks)
    (model : isModel start.kind = true) (attached : start.failure ≠ some .beforeSpan) :
    Saved initial (callbacks ++ [.start start]) (onStart handler start) := by
  have attaches : Attaches handler (onStart handler start) start.run := onStart_attaches model attached
  have opened : openRuns (callbacks ++ [.start start]) = openRuns callbacks ++ [start.run] := by
    rw [openRuns_start, if_pos model]
  constructor
  · constructor
    · simp [opened]
    · exact fun _ => attaches.active
  · rw [opened]
    intro run member
    rw [attaches.tokens]
    by_cases own : run = start.run
    · refine ⟨_, if_pos own, ?_⟩
      by_cases idle : openRuns callbacks = []
      · obtain ⟨active, context⟩ := before.idle idle
        simp [idle, own, active, context]
      · rw [List.head?_append_of_ne_nil _ idle]
        refine ⟨fun first => ?_, fun _ => before.active idle⟩
        exact absurd (own ▸ List.mem_of_mem_head? first) new
    · have old : run ∈ openRuns callbacks := by simpa [own] using member
      rw [if_neg own, List.head?_append_of_ne_nil _ (List.ne_nil_of_mem old)]
      exact before.tokens run old
theorem Saved.finish (before : Saved initial callbacks handler) {finish : Finish Run} (model : isModel finish.kind = true)
    (member : finish.run ∈ openRuns callbacks) (quiet : finish.raises = false)
    (last : (openRuns callbacks).head? = some finish.run → openRuns callbacks = [finish.run]) :
    Saved initial (callbacks ++ [.finish finish]) (onFinish handler finish) := by
  obtain ⟨token, kept, first, later⟩ := before.tokens finish.run member
  have detaches := onFinish_detaches model quiet kept
  by_cases head : (openRuns callbacks).head? = some finish.run
  · have idle : openRuns (callbacks ++ [.finish finish]) = [] := by
      rw [openRuns_finish, last head]
      simp
    obtain rfl := first head
    constructor
    · exact ⟨fun _ => ⟨detaches.active, detaches.context⟩, fun busy => absurd idle busy⟩
    · simp [idle]
  · obtain ⟨oldest, rest, opened⟩ := List.exists_cons_of_ne_nil (List.ne_nil_of_mem member)
    rw [opened] at head
    have other : oldest ≠ finish.run := fun same => head (congrArg some same)
    have still : openRuns (callbacks ++ [.finish finish]) = oldest :: rest.filter (· ≠ finish.run) := by
      rw [openRuns_finish, opened, List.filter_cons_of_pos (by simpa using other)]
    constructor
    · constructor
      · intro idle
        rw [still] at idle
        cases idle
      · intro _
        rw [detaches.active]
        exact later (by rwa [opened])
    · intro run busy
      have different : run ≠ finish.run := by
        rw [openRuns_finish, List.mem_filter] at busy
        simpa using busy.2
      have old : run ∈ openRuns callbacks := by
        rw [openRuns_finish] at busy
        exact List.mem_of_mem_filter busy
      rw [detaches.tokens run different, still, List.head?_cons]
      have tokens := before.tokens run old
      rwa [opened, List.head?_cons] at tokens

theorem perform_saved (before : Saved initial callbacks handler) (wellFormed : WellFormed callbacks) {c : Callback Run}
    (next : MayFollow callbacks c) (orderly : Orderly callbacks c) : Saved initial (callbacks ++ [c]) (perform handler c) := by
  have member := mem_openRuns wellFormed
  cases c with
  | start start =>
    have new : start.run ∉ openRuns callbacks := by
      rw [member]
      rintro ⟨⟨s, given, of, -⟩, -⟩
      exact next.1 ⟨s, given, of⟩
    by_cases model : isModel start.kind = true
    · exact before.start new model (orderly model)
    · rw [Bool.not_eq_true] at model
      refine before.apart (onStart_apart model) new ?_
      simp [openRuns_start, model]
  | finish finish =>
    obtain ⟨⟨s, given, of⟩, unended, kinds⟩ := next
    have kind := kinds s given of
    by_cases model : isModel finish.kind = true
    · have opened : finish.run ∈ openRuns callbacks := (member _).mpr ⟨⟨s, given, of, kind ▸ model⟩, unended⟩
      obtain ⟨quiet, last⟩ := orderly opened
      exact before.finish model opened quiet last
    · rw [Bool.not_eq_true] at model
      have closed : finish.run ∉ openRuns callbacks := by
        rw [member]
        rintro ⟨⟨s', given', of', model'⟩, -⟩
        rw [kinds s' given' of', model] at model'
        cases model'
      refine before.apart (onFinish_apart model) closed ?_
      rw [openRuns_finish, List.filter_eq_self]
      intro run opened
      rw [decide_eq_true_eq]
      rintro rfl
      exact closed opened

end

/-- In every sequence of callbacks in which calls of models start and end without
    an exception, and the one that was opened first ends when no other is open, the
    flag and the attached span are restored whenever no call is open, and the flag is
    set while one is. -/
theorem flag_restored {callbacks : List (Callback Run)} (wellFormed : WellFormed callbacks) (initial : Handler Run)
    (orderly : ∀ before c, before ++ [c] <+: callbacks → Orderly before c) :
    ∀ before, before <+: callbacks → Restored initial before (run perform initial before) := by
  intro before early
  suffices Saved initial before (run perform initial before) from this.toRestored
  induction before using List.reverseRecOn with
  | nil => exact ⟨⟨fun _ => ⟨rfl, rfl⟩, fun busy => absurd rfl busy⟩, by simp [openRuns]⟩
  | append_singleton before c ih =>
    have earlier := (List.prefix_append before [c]).trans early
    rw [run_concat]
    exact perform_saved (ih earlier) (fun front b first => wellFormed front b (first.trans earlier)) (wellFormed before c early)
      (orderly before c early)

/-! Two calls of models that overlap, of which the first ends last, or first. -/

def modelStart (run : Nat) : Callback Nat := .start { kind := .chatModel, run }
def modelEnd (run : Nat) : Callback Nat := .finish { kind := .chatModel, run }

theorem wellFormed_overlap {first second : Nat} (each : first = 0 ∧ second = 1 ∨ first = 1 ∧ second = 0) :
    WellFormed [modelStart 0, modelStart 1, modelEnd first, modelEnd second] := by
  refine forall_steps_cons ?_ (forall_steps_cons ?_ (forall_steps_cons ?_ (forall_steps_cons ?_ forall_steps_nil))) <;>
    rcases each with ⟨rfl, rfl⟩ | ⟨rfl, rfl⟩ <;> simp [MayFollow, Started, Ended, modelStart, modelEnd]
theorem flag_restored_overlap :
    Restored {} [modelStart 0, modelStart 1, modelEnd 1, modelEnd 0]
      (run perform {} [modelStart 0, modelStart 1, modelEnd 1, modelEnd 0]) := by
  refine flag_restored (wellFormed_overlap (.inr ⟨rfl, rfl⟩)) {} ?_ _ (List.prefix_refl _)
  refine forall_steps_cons ?_ (forall_steps_cons ?_ (forall_steps_cons ?_ (forall_steps_cons ?_ forall_steps_nil))) <;>
    simp [Orderly, modelStart, modelEnd, openRuns, isModel]
/-- If the first call ends first, the flag stays set after both have ended. -/
theorem stuck_flag : WellFormed [modelStart 0, modelStart 1, modelEnd 0, modelEnd 1] ∧
    ¬ Restored {} [modelStart 0, modelStart 1, modelEnd 0, modelEnd 1]
      (run perform {} [modelStart 0, modelStart 1, modelEnd 0, modelEnd 1]) := by
  refine ⟨wellFormed_overlap (.inl ⟨rfl, rfl⟩), fun restored => ?_⟩
  have idle : openRuns [modelStart 0, modelStart 1, modelEnd 0, modelEnd 1] = [] := by
    simp [openRuns, modelStart, modelEnd, isModel]
  exact absurd (restored.idle idle).1 (by decide)

end Openlit.FrameworkFlags
