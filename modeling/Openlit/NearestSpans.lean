import Openlit.CallbackSpans
import Openlit.Lookups

/-!
The parents of the spans of the LangChain callback handler. A run that is skipped
has no span, and the runs below it belong under the nearest run above that has one.
The handler knows only the runs that are active, so this is found as long as none
of the runs on the way has ended.
-/
namespace Openlit.NearestSpans
open Openlit.LangchainCallbacks Openlit.CallbackSpans Openlit.Lookups Openlit.Runs

variable {Run : Type} [DecidableEq Run]

/-! ### The walk over skipped runs -/

/-- The loop of `_resolve_parent_run_id`, with the runs that it has visited. There is no result if it has not ended after
so many rounds. -/
def walk (skipped : List (Run × Option Run)) : Nat → List Run → Option Run → Option (Option Run)
  | rounds, visited, current =>
    match current with
    | none => some none
    | some run =>
      match skipped.lookup run with
      | none => some (some run)
      | some next =>
        if run ∈ visited then some (some run)
        else
          match rounds with
          | 0 => none
          | rounds + 1 => walk skipped rounds (run :: visited) next

theorem length_filter_lt {β : Type} {entries : List (Run × β)} {run : Run} {value : β} (there : entries.lookup run = some value) :
    (entries.filter (·.1 ≠ run)).length < entries.length := by
  rw [List.length_filter_lt_length_iff_exists]
  exact ⟨(run, value), mem_of_lookup there, by simp⟩

/-- The walk ends, as the runs that are left to visit become fewer. -/
theorem walk_eq (skipped : List (Run × Option Run)) (rounds : Nat) (visited : List Run) (current : Option Run)
    (enough : (skipped.filter (·.1 ∉ visited)).length ≤ rounds) :
    walk skipped rounds visited current = some (resolveParentRunId (skipped.filter (·.1 ∉ visited)) current rounds) := by
  induction rounds generalizing visited current with
  | zero =>
    cases current with
    | none => rfl
    | some run =>
      have left := lookup_filter_key (fun run => decide (run ∉ visited)) skipped run
      rw [List.length_eq_zero_iff.mp (Nat.le_zero.mp enough)] at left
      rw [walk, resolveParentRunId]
      cases found : skipped.lookup run with
      | none => rfl
      | some next =>
        by_cases seen : run ∈ visited
        · exact if_pos seen
        · simp [found, seen] at left
  | succ rounds ih =>
    cases current with
    | none => rfl
    | some run =>
      have left := lookup_filter_key (fun run => decide (run ∉ visited)) skipped run
      rw [walk, resolveParentRunId, left]
      cases found : skipped.lookup run with
      | none => simp
      | some next =>
        by_cases seen : run ∈ visited
        · simp [seen]
        · have fewer := length_filter_lt (left.trans (by rw [found, if_pos (decide_eq_true seen)]))
          have same : (skipped.filter (·.1 ∉ visited)).filter (·.1 ≠ run) = skipped.filter (·.1 ∉ run :: visited) := by
            rw [List.filter_filter]
            exact List.filter_congr fun entry _ => by simp [not_or]
          rw [same] at fewer
          simp only [seen, if_false, not_false_eq_true, decide_true, if_true, same]
          exact ih (run :: visited) next (by omega)
/-- Whatever the map of skipped runs holds, the walk ends, with what the handler resolves. -/
theorem walk_ends (skipped : List (Run × Option Run)) (parent : Option Run) :
    walk skipped skipped.length [] parent = some (resolveParentRunId skipped parent skipped.length) := by
  have all : skipped.filter (·.1 ∉ ([] : List Run)) = skipped := by simp
  have ends := walk_eq skipped skipped.length [] parent (by rw [all])
  rwa [all] at ends

/-- A way over skipped runs of which the last has none above, or one that is not skipped. -/
inductive Way (skipped : List (Run × Option Run)) : Nat → Option Run → Option Run → Prop
  | top : Way skipped 0 none none
  | found {run : Run} (kept : skipped.lookup run = none) : Way skipped 0 (some run) (some run)
  | skip {n : Nat} {run : Run} {next result : Option Run} (isSkipped : skipped.lookup run = some next) (rest : Way skipped n next result) :
      Way skipped (n + 1) (some run) result

section
variable {skipped : List (Run × Option Run)}

theorem Way.length_unique {n m : Nat} {parent result result' : Option Run} (way : Way skipped n parent result)
    (other : Way skipped m parent result') : n = m := by
  induction way generalizing m with
  | top =>
    cases other
    rfl
  | found kept =>
    cases other with
    | found => rfl
    | skip isSkipped rest => exact absurd (kept.symm.trans isSkipped) nofun
  | skip isSkipped rest ih =>
    cases other with
    | found kept => exact absurd (kept.symm.trans isSkipped) nofun
    | skip isSkipped' rest' =>
      obtain rfl := Option.some.inj (isSkipped.symm.trans isSkipped')
      rw [ih rest']
/-- A way does not come back to a run from which the way is longer. -/
theorem Way.filter {n : Nat} {parent result : Option Run} (way : Way skipped n parent result) {run : Run}
    (longer : ∀ m result', Way skipped m (some run) result' → n < m) : Way (skipped.filter (·.1 ≠ run)) n parent result := by
  have left (other : Run) := lookup_filter_key (fun key => decide (key ≠ run)) skipped other
  induction way with
  | top => exact .top
  | found kept => exact .found (by rw [left, kept, ite_self])
  | @skip n other next result isSkipped rest ih =>
    have different : other ≠ run := by
      rintro rfl
      exact absurd (longer _ _ (.skip isSkipped rest)) (Nat.lt_irrefl _)
    refine .skip (by rw [left, if_pos (decide_eq_true different), isSkipped]) (ih fun m result' own => ?_)
    exact Nat.lt_of_succ_lt (longer m result' own)
/-- What the handler resolves is the end of the way. -/
theorem Way.resolve {n : Nat} {parent result : Option Run} (way : Way skipped n parent result) {visits : Nat}
    (enough : skipped.length ≤ visits) : resolveParentRunId skipped parent visits = result := by
  induction n generalizing skipped parent visits with
  | zero =>
    cases visits with
    | zero => cases way <;> rfl
    | succ visits =>
      cases way with
      | top => rfl
      | found kept => simp [resolveParentRunId, kept]
  | succ n ih =>
    cases way with
    | @skip _ run next _ isSkipped rest =>
      have fewer := length_filter_lt isSkipped
      cases visits with
      | zero => omega
      | succ visits =>
        rw [resolveParentRunId, isSkipped]
        refine ih (rest.filter fun m result' own => ?_) (by omega)
        rw [own.length_unique (.skip isSkipped rest)]
        exact Nat.lt_succ_self n

end

/-! ### Runs with a span, and runs that are skipped -/

def SkipsRun (s : Start Run) : Prop := s.failure ≠ some .beforeSpan ∧ s.kind = .chain ∧ skips s = true
def HasSpan (s : Start Run) : Prop := s.failure ≠ some .beforeSpan ∧ ¬ (s.kind = .chain ∧ skips s = true)
/-- The way from a parent to the nearest run that is not skipped, if there is one, over runs that meet a condition. -/
inductive Nearest (callbacks : List (Callback Run)) (allowed : Run → Prop) : Option Run → Option Run → Prop
  | top : Nearest callbacks allowed none none
  | found {s : Start Run} (started : .start s ∈ callbacks) (spanned : HasSpan s) (isAllowed : allowed s.run) :
      Nearest callbacks allowed (some s.run) (some s.run)
  | skip {s : Start Run} {nearest : Option Run} (started : .start s ∈ callbacks) (skipped : SkipsRun s) (isAllowed : allowed s.run)
      (rest : Nearest callbacks allowed s.parent nearest) : Nearest callbacks allowed (some s.run) nearest
/-- What the handler knows of the runs that have not ended. -/
structure Mirrors (callbacks : List (Callback Run)) (handler : Handler Run) : Prop where
  once : ∀ s s', .start s ∈ callbacks → .start s' ∈ callbacks → s.run = s'.run → s = s'
  skipped : ∀ run parent, handler.skippedRuns.lookup run = some parent ↔
    ∃ s, .start s ∈ callbacks ∧ s.run = run ∧ SkipsRun s ∧ s.parent = parent ∧ ¬ Ended callbacks run
  kept : ∀ s, .start s ∈ callbacks → HasSpan s → ¬ Ended callbacks s.run →
    ∃ i, spanOf handler s.run = some i ∧ (handler.started.map (·.run))[i]? = some s.run

/-- Where a span belongs: the span of a run, or where there is none, what is attached. -/
def parentSpan (handler : Handler Run) (parent : Option Run) : Option Nat :=
  (parent.bind (spanOf handler)).elim handler.context some

section
variable {callbacks : List (Callback Run)} {handler : Handler Run}

theorem way_of_nearest (mirrors : Mirrors callbacks handler) {parent nearest : Option Run}
    (way : Nearest callbacks (¬ Ended callbacks ·) parent nearest) : ∃ n, Way handler.skippedRuns n parent nearest := by
  induction way with
  | top => exact ⟨0, .top⟩
  | @found s started spanned active =>
    refine ⟨0, .found ?_⟩
    cases found : handler.skippedRuns.lookup s.run with
    | none => rfl
    | some parent =>
      obtain ⟨other, started', same, skipped, -, -⟩ := (mirrors.skipped s.run parent).mp found
      obtain rfl := mirrors.once other s started' started same
      exact absurd skipped.2 spanned.2
  | @skip s nearest started skipped active rest ih =>
    obtain ⟨n, way⟩ := ih
    exact ⟨n + 1, .skip ((mirrors.skipped s.run s.parent).mpr ⟨s, started, rfl, skipped, rfl, active⟩) way⟩
theorem kept_of_nearest (mirrors : Mirrors callbacks handler) {parent : Option Run} {a : Run}
    (way : Nearest callbacks (¬ Ended callbacks ·) parent (some a)) :
    ∃ i, spanOf handler a = some i ∧ (handler.started.map (·.run))[i]? = some a := by
  generalize isNearest : some a = nearest at way
  induction way with
  | top => cases isNearest
  | @found s started spanned active =>
    obtain rfl := Option.some.inj isNearest
    exact mirrors.kept s started spanned active
  | skip _ _ _ _ ih => exact ih isNearest

end

/-! ### What a callback changes -/

section
variable {handler : Handler Run}

/-- A run gets a span where it belongs. -/
structure OpensUnder (handler handler' : Handler Run) (s : Start Run) : Prop where
  opens : Opens handler handler' s.run
  skippedRuns : handler'.skippedRuns = handler.skippedRuns
  started : ∃ calls, handler'.started = handler.started ++ [⟨s.run, parentSpan handler (handler.resolveParent s.parent), calls⟩]

theorem createSpan_opensUnder (handler : Handler Run) (s : Start Run) : OpensUnder handler (handler.createSpan s.run s.parent) s := by
  refine ⟨createSpan_opens .., rfl, [], ?_⟩
  have same : parentSpan handler (handler.resolveParent s.parent) =
      ((handler.resolveParent s.parent).bind handler.spans).elim handler.context fun holder => some holder.span := by
    unfold parentSpan spanOf
    cases handler.resolveParent s.parent with
    | none => rfl
    | some above => cases found : handler.spans above <;> simp [found]
  rw [same]
  rfl
theorem OpensUnder.attach {handler' : Handler Run} {s : Start Run} (under : OpensUnder handler handler' s) :
    OpensUnder handler (handler'.attach s.run) s := by
  obtain ⟨calls, started⟩ := under.started
  refine ⟨under.opens.attach, (attach_skipped ..).trans under.skippedRuns, calls, ?_⟩
  unfold Handler.attach
  cases handler'.spans s.run <;> exact started
theorem OpensUnder.describe {handler' : Handler Run} {s : Start Run} (under : OpensUnder handler handler' s) :
    OpensUnder handler (handler'.describe s.run) s := by
  obtain ⟨calls, started⟩ := under.started
  have own := under.opens.spans s.run
  rw [if_pos rfl, spanOf] at own
  obtain ⟨holder, found, isLast⟩ := Option.map_eq_some_iff.mp own
  refine ⟨under.opens.describe, (describe_skipped ..).trans under.skippedRuns, calls ++ [.setAttribute], ?_⟩
  simp only [Handler.describe, found, Handler.record, isLast, started, modify_last]
theorem startSpan_opensUnder (handler : Handler Run) {s : Start Run} (reached : s.failure ≠ some .beforeSpan) :
    OpensUnder handler (handler.startSpan s) s := by
  have created := createSpan_opensUnder handler s
  unfold Handler.startSpan
  cases failure : s.failure with
  | none => exact created.describe
  | some failure' =>
    cases failure' with
    | beforeSpan => exact absurd failure reached
    | afterSpan => exact created
theorem startModel_opensUnder (handler : Handler Run) {s : Start Run} (reached : s.failure ≠ some .beforeSpan) :
    OpensUnder handler (handler.startModel s) s := by
  have attached := (createSpan_opensUnder handler s).attach
  unfold Handler.startModel
  cases failure : s.failure with
  | none => exact attached.describe
  | some failure' =>
    cases failure' with
    | beforeSpan => exact absurd failure reached
    | afterSpan => exact attached
/-- A start that opens a span. -/
theorem onStart_opensUnder (handler : Handler Run) {s : Start Run} (spanned : HasSpan s) : OpensUnder handler (onStart handler s) s := by
  unfold onStart
  cases kind : s.kind with
  | chain =>
    have unskipped : ¬ skips s = true := fun skip => spanned.2 ⟨kind, skip⟩
    simp only [onChainStart, if_neg spanned.1, if_neg unskipped]
    exact startSpan_opensUnder handler spanned.1
  | llm | chatModel => exact startModel_opensUnder handler spanned.1
  | tool | retriever => exact startSpan_opensUnder handler spanned.1
theorem onStart_skips (handler : Handler Run) {s : Start Run} (skipped : SkipsRun s) :
    onStart handler s = { handler with skippedRuns := (s.run, s.parent) :: handler.skippedRuns.filter (·.1 ≠ s.run) } := by
  simp only [onStart, skipped.2.1, onChainStart, if_neg skipped.1, if_pos skipped.2.2]
theorem onStart_fails (handler : Handler Run) {s : Start Run} (failed : s.failure = some .beforeSpan) : onStart handler s = handler := by
  unfold onStart
  cases s.kind <;>
    simp [onChainStart, onLlmStart, onChatModelStart, onToolStart, onRetrieverStart, Handler.startSpan, Handler.startModel, failed]

/-- The spans stay those of their runs, and all runs but one are kept as they are. -/
structure Frame (run : Run) (handler handler' : Handler Run) : Prop where
  spans : ∀ r, r ≠ run → handler'.spans r = handler.spans r
  runs : handler'.started.map (·.run) = handler.started.map (·.run)

omit [DecidableEq Run] in
theorem Frame.refl (run : Run) (handler : Handler Run) : Frame run handler handler := ⟨fun _ _ => rfl, rfl⟩
omit [DecidableEq Run] in
theorem Frame.trans {run : Run} {handler' handler'' : Handler Run} (first : Frame run handler handler')
    (second : Frame run handler' handler'') : Frame run handler handler'' :=
  ⟨fun r other => (second.spans r other).trans (first.spans r other), second.runs.trans first.runs⟩
omit [DecidableEq Run] in
theorem record_frame (run : Run) (handler : Handler Run) (span : Nat) (call : SpanCall) : Frame run handler (handler.record span call) := by
  refine ⟨fun _ _ => rfl, List.ext_getElem? fun i => ?_⟩
  simp only [Handler.record, List.getElem?_map, List.getElem?_modify]
  cases handler.started[i]? with
  | none => simp
  | some s => by_cases here : span = i <;> simp [here]
omit [DecidableEq Run] in
theorem endChildren_frame (run : Run) (handler : Handler Run) (children : List Run) :
    Frame run handler (children.foldl Handler.endChild handler) := by
  induction children generalizing handler with
  | nil => exact .refl run handler
  | cons child rest ih =>
    refine Frame.trans ?_ (ih (handler.endChild child))
    unfold Handler.endChild
    cases handler.spans child with
    | none => exact .refl run handler
    | some holder =>
      by_cases ended : handler.hasEnded holder.span = true
      · simpa [ended] using Frame.refl run handler
      · simpa [ended] using record_frame run handler holder.span .finish
theorem endSpan_frame (handler : Handler Run) (run : Run) (error : Option String) : Frame run handler (handler.endSpan run error) := by
  unfold Handler.endSpan
  cases handler.spans run with
  | none => exact .refl run handler
  | some holder =>
    have ended := ((endChildren_frame run handler holder.children).trans
      (record_frame run _ holder.span (.setStatus (statusOf error)))).trans (record_frame run _ holder.span .finish)
    exact ⟨fun r other => (Function.update_of_ne other _ _).trans (ended.spans r other), ended.runs⟩
omit [DecidableEq Run] in
theorem detach_frame (run : Run) (handler : Handler Run) (token : Option (Bool × Option Nat)) :
    Frame run handler (handler.detach token) := by
  cases token <;> exact ⟨fun _ _ => rfl, rfl⟩
theorem finishRun_frame (handler : Handler Run) (run : Run) (raises : Bool) : Frame run handler (handler.finishRun run raises) := by
  unfold Handler.finishRun
  cases handler.spans run with
  | none => exact .refl run handler
  | some holder =>
    have marked := record_frame run handler holder.span .setAttribute
    cases raises with
    | true => exact marked
    | false => exact marked.trans (endSpan_frame ..)
theorem failRun_frame (handler : Handler Run) (run : Run) (error : String) (raises : Bool) :
    Frame run handler (handler.failRun run error raises) := by
  unfold Handler.failRun
  cases handler.spans run with
  | none => exact .refl run handler
  | some holder =>
    cases raises with
    | true => exact .refl run handler
    | false => exact (record_frame run handler holder.span .setAttribute).trans (endSpan_frame ..)
theorem onLlmEnd_frame (handler : Handler Run) (run : Run) (raises : Bool) : Frame run handler (onLlmEnd handler run raises) := by
  unfold onLlmEnd
  cases handler.spans run with
  | none => exact .refl run handler
  | some holder =>
    have marked := record_frame run handler holder.span .setAttribute
    cases raises with
    | true => exact marked
    | false =>
      have statused := marked.trans (record_frame run _ holder.span (.setStatus .ok))
      exact (statused.trans (detach_frame run _ holder.token)).trans (endSpan_frame ..)
theorem onLlmError_frame (handler : Handler Run) (run : Run) (error : String) (raises : Bool) :
    Frame run handler (onLlmError handler run error raises) := by
  unfold onLlmError
  cases handler.spans run with
  | none => exact .refl run handler
  | some holder =>
    cases raises with
    | true => exact .refl run handler
    | false =>
      exact ((record_frame run handler holder.span .setAttribute).trans (detach_frame run _ holder.token)).trans (endSpan_frame ..)
/-- The end of a run. -/
theorem onFinish_frame (handler : Handler Run) (finish : Finish Run) : Frame finish.run handler (onFinish handler finish) := by
  have popped : Frame finish.run handler (handler.popSkipped finish.run) := ⟨fun _ _ => rfl, rfl⟩
  unfold onFinish
  cases finish.error with
  | none =>
    cases finish.kind with
    | chain => exact popped.trans (finishRun_frame ..)
    | llm | chatModel => exact onLlmEnd_frame ..
    | tool | retriever => exact finishRun_frame ..
  | some error =>
    cases finish.kind with
    | chain => exact popped.trans (failRun_frame ..)
    | llm | chatModel => exact onLlmError_frame ..
    | tool | retriever => exact failRun_frame ..

end

/-! ### Sequences of callbacks -/

section
variable {callbacks : List (Callback Run)} {handler : Handler Run}

omit [DecidableEq Run] in
theorem start_mem_concat {s s' : Start Run} : .start s' ∈ callbacks ++ [.start s] ↔ .start s' ∈ callbacks ∨ s' = s := by
  simp
omit [DecidableEq Run] in
theorem start_mem_finish {f : Finish Run} {s : Start Run} : .start s ∈ callbacks ++ [.finish f] ↔ .start s ∈ callbacks := by
  simp

omit [DecidableEq Run] in
theorem run_ne_of_new {s s' : Start Run} (next : MayFollow callbacks (.start s)) (started : .start s' ∈ callbacks) : s'.run ≠ s.run :=
  fun same => next.1 ⟨s', started, same⟩
/-- A run that is new has not been skipped. -/
theorem lookup_new (mirrors : Mirrors callbacks handler) {s : Start Run} (next : MayFollow callbacks (.start s)) :
    handler.skippedRuns.lookup s.run = none := by
  cases found : handler.skippedRuns.lookup s.run with
  | none => rfl
  | some parent =>
    obtain ⟨s', started, same, -⟩ := (mirrors.skipped s.run parent).mp found
    exact absurd same (run_ne_of_new next started)
theorem once_start (mirrors : Mirrors callbacks handler) {s : Start Run} (next : MayFollow callbacks (.start s)) {s₁ s₂ : Start Run}
    (first : .start s₁ ∈ callbacks ++ [.start s]) (second : .start s₂ ∈ callbacks ++ [.start s]) (same : s₁.run = s₂.run) : s₁ = s₂ := by
  rcases start_mem_concat.mp first with old₁ | rfl <;> rcases start_mem_concat.mp second with old₂ | rfl
  · exact mirrors.once s₁ s₂ old₁ old₂ same
  · exact absurd same (run_ne_of_new next old₁)
  · exact absurd same.symm (run_ne_of_new next old₂)
  · rfl
/-- The entries of other runs stay, and the run itself has one exactly if it is skipped. -/
theorem skipped_start_iff (mirrors : Mirrors callbacks handler) {s : Start Run} (next : MayFollow callbacks (.start s))
    {entries : List (Run × Option Run)} (others : ∀ run, run ≠ s.run → entries.lookup run = handler.skippedRuns.lookup run)
    (own : ∀ parent, entries.lookup s.run = some parent ↔ SkipsRun s ∧ s.parent = parent) (run : Run) (parent : Option Run) :
    entries.lookup run = some parent ↔ ∃ s', .start s' ∈ callbacks ++ [.start s] ∧ s'.run = run ∧ SkipsRun s' ∧ s'.parent = parent ∧
      ¬ Ended (callbacks ++ [.start s]) run := by
  rw [ended_start]
  by_cases same : run = s.run
  · subst same
    rw [own]
    constructor
    · exact fun ⟨skipped, isParent⟩ => ⟨s, start_mem_concat.mpr (.inr rfl), rfl, skipped, isParent, next.2⟩
    · rintro ⟨s', started, isRun, skipped, isParent, -⟩
      rcases start_mem_concat.mp started with started | rfl
      · exact absurd isRun (run_ne_of_new next started)
      · exact ⟨skipped, isParent⟩
  · rw [others run same, mirrors.skipped]
    constructor
    · exact fun ⟨s', started, rest⟩ => ⟨s', start_mem_concat.mpr (.inl started), rest⟩
    · rintro ⟨s', started, isRun, rest⟩
      rcases start_mem_concat.mp started with started | rfl
      · exact ⟨s', started, isRun, rest⟩
      · exact absurd isRun.symm same
/-- The spans of other runs stay theirs, and the run itself has one if it is not skipped. -/
theorem kept_start (mirrors : Mirrors callbacks handler) {s : Start Run} (next : MayFollow callbacks (.start s)) {handler' : Handler Run}
    (others : ∀ run, run ≠ s.run → spanOf handler' run = spanOf handler run)
    (runs : handler.started.map (·.run) <+: handler'.started.map (·.run))
    (own : HasSpan s → ∃ i, spanOf handler' s.run = some i ∧ (handler'.started.map (·.run))[i]? = some s.run) (s' : Start Run)
    (started : .start s' ∈ callbacks ++ [.start s]) (spanned : HasSpan s') (active : ¬ Ended (callbacks ++ [.start s]) s'.run) :
    ∃ i, spanOf handler' s'.run = some i ∧ (handler'.started.map (·.run))[i]? = some s'.run := by
  rcases start_mem_concat.mp started with started | rfl
  · rw [ended_start] at active
    obtain ⟨i, isSpan, isRun⟩ := mirrors.kept s' started spanned active
    refine ⟨i, (others s'.run (run_ne_of_new next started)).trans isSpan, ?_⟩
    obtain ⟨more, runs⟩ := runs
    rw [← runs, List.getElem?_append_left (List.getElem?_eq_some_iff.mp isRun).1, isRun]
  · exact own spanned
/-- A start that raises before anything is done. -/
theorem mirrors_failed (mirrors : Mirrors callbacks handler) {s : Start Run} (next : MayFollow callbacks (.start s))
    (failed : s.failure = some .beforeSpan) : Mirrors (callbacks ++ [.start s]) (onStart handler s) := by
  rw [onStart_fails handler failed]
  refine ⟨fun _ _ => once_start mirrors next, skipped_start_iff mirrors next (fun _ _ => rfl) fun parent => ?_,
    kept_start mirrors next (fun _ _ => rfl) (List.prefix_refl _) fun spanned => absurd failed spanned.1⟩
  rw [lookup_new mirrors next]
  exact iff_of_false nofun fun skipped => skipped.1.1 failed
theorem mirrors_skipped (mirrors : Mirrors callbacks handler) {s : Start Run} (next : MayFollow callbacks (.start s))
    (skipped : SkipsRun s) : Mirrors (callbacks ++ [.start s]) (onStart handler s) := by
  rw [onStart_skips handler skipped]
  refine ⟨fun _ _ => once_start mirrors next, skipped_start_iff mirrors next ?_ ?_,
    kept_start mirrors next (fun _ _ => rfl) (List.prefix_refl _) fun spanned => absurd skipped.2 spanned.2⟩
  · intro run different
    have notSame : (run == s.run) = false := by simpa using different
    have left := lookup_filter_key (fun key => decide (key ≠ s.run)) handler.skippedRuns run
    rw [if_pos (decide_eq_true different)] at left
    rw [List.lookup_cons, notSame]
    exact left
  · intro parent
    rw [List.lookup_cons_self, Option.some.injEq]
    exact (and_iff_right skipped).symm
theorem mirrors_spanned (mirrors : Mirrors callbacks handler) {s : Start Run} (next : MayFollow callbacks (.start s))
    (spanned : HasSpan s) : Mirrors (callbacks ++ [.start s]) (onStart handler s) := by
  obtain ⟨opens, skippedRuns, calls, started⟩ := onStart_opensUnder handler spanned
  have runs : (onStart handler s).started.map (·.run) = handler.started.map (·.run) ++ [s.run] := by
    rw [started, List.map_append]
    rfl
  have others : ∀ run, run ≠ s.run → spanOf (onStart handler s) run = spanOf handler run := fun run different =>
    (opens.spans run).trans (if_neg different)
  refine ⟨fun _ _ => once_start mirrors next, ?_, kept_start mirrors next others (runs ▸ List.prefix_append ..) fun _ => ?_⟩
  · rw [skippedRuns]
    refine skipped_start_iff mirrors next (fun _ _ => rfl) fun parent => ?_
    rw [lookup_new mirrors next]
    exact iff_of_false nofun fun skipped => spanned.2 skipped.1.2
  · refine ⟨handler.started.length, (opens.spans s.run).trans (if_pos rfl), ?_⟩
    rw [runs]
    simp
/-- A start of a run that is new. -/
theorem mirrors_start (mirrors : Mirrors callbacks handler) {s : Start Run} (next : MayFollow callbacks (.start s)) :
    Mirrors (callbacks ++ [.start s]) (onStart handler s) := by
  by_cases failed : s.failure = some .beforeSpan
  · exact mirrors_failed mirrors next failed
  by_cases skip : s.kind = .chain ∧ skips s = true
  · exact mirrors_skipped mirrors next ⟨failed, skip⟩
  · exact mirrors_spanned mirrors next ⟨failed, skip⟩
/-- The end of a run that is active. -/
theorem mirrors_finish (mirrors : Mirrors callbacks handler) {f : Finish Run} (next : MayFollow callbacks (.finish f)) :
    Mirrors (callbacks ++ [.finish f]) (onFinish handler f) := by
  obtain ⟨-, -, kinds⟩ := next
  have frame := onFinish_frame handler f
  refine ⟨?_, ?_, ?_⟩
  · intro s₁ s₂ first second same
    exact mirrors.once s₁ s₂ (start_mem_finish.mp first) (start_mem_finish.mp second) same
  · intro run parent
    simp only [start_mem_finish, ended_finish, not_or]
    have left := lookup_filter_key (fun key => decide (key ≠ f.run)) handler.skippedRuns run
    by_cases same : run = f.run
    · -- A run that is skipped is a chain, and its end takes it away.
      refine iff_of_false ?_ ?_
      · rw [onFinish_skipped]
        by_cases chain : f.kind = .chain
        · rw [if_pos chain, left]
          simp [same]
        · rw [if_neg chain]
          intro found
          obtain ⟨s, started, isRun, skipped, -⟩ := (mirrors.skipped run parent).mp found
          exact chain ((kinds s started (isRun.trans same)).symm.trans skipped.2.1)
      · rintro ⟨s, -, -, -, -, -, notThis⟩
        exact notThis same.symm
    · have others : (onFinish handler f).skippedRuns.lookup run = handler.skippedRuns.lookup run := by
        rw [onFinish_skipped]
        split
        · rw [left, if_pos (decide_eq_true same)]
        · rfl
      rw [others, mirrors.skipped]
      simp [same, eq_comm]
  · intro s started spanned active
    rw [ended_finish, not_or] at active
    obtain ⟨i, isSpan, isRun⟩ := mirrors.kept s (start_mem_finish.mp started) spanned active.1
    refine ⟨i, ?_, frame.runs ▸ isRun⟩
    rw [spanOf, frame.spans s.run (Ne.symm active.2)]
    exact isSpan

theorem mirrors_perform (mirrors : Mirrors callbacks handler) {c : Callback Run} (next : MayFollow callbacks c) :
    Mirrors (callbacks ++ [c]) (perform handler c) := by
  cases c with
  | start s => exact mirrors_start mirrors next
  | finish f => exact mirrors_finish mirrors next

end

/-- The handler after some callbacks. -/
def after (callbacks : List (Callback Run)) : Handler Run := run perform {} callbacks

theorem mirrors_after {callbacks : List (Callback Run)} (wellFormed : WellFormed callbacks) : Mirrors callbacks (after callbacks) := by
  induction callbacks using List.reverseRecOn with
  | nil =>
    have none (s : Start Run) : .start s ∉ ([] : List (Callback Run)) := List.not_mem_nil
    refine ⟨fun s _ started => absurd started (none s), fun run parent => iff_of_false ?_ ?_, fun s started => absurd started (none s)⟩
    · exact fun found => nomatch (found : (Option.none : Option (Option Run)) = some parent)
    · rintro ⟨s, started, -⟩
      exact none s started
  | append_singleton before c ih =>
    have earlier : WellFormed before := fun first c' early => wellFormed first c' (early.trans (List.prefix_append before [c]))
    rw [after, run_concat]
    exact mirrors_perform (ih earlier) (wellFormed before c (List.prefix_refl _))

/-- The span of a run that starts after some callbacks has the span of another run as its parent, or where there is no other
run, what is attached. -/
def Belongs (before : List (Callback Run)) (s : Start Run) (nearest : Option Run) : Prop :=
  ∃ parent calls, (perform (after before) (.start s)).started = (after before).started ++ [⟨s.run, parent, calls⟩] ∧
    match nearest with
    | none => parent = (after before).context
    | some a => ∃ i, parent = some i ∧ ((after before).started.map (·.run))[i]? = some a
/-- A run that starts while its parent is active. -/
def ParentActive (before : List (Callback Run)) : Callback Run → Prop
  | .start s => ∀ parent, s.parent = some parent → Started before parent ∧ ¬ Ended before parent
  | .finish _ => True

/-- A span belongs to the nearest run above that is not skipped, if no run on the way has ended; and the walk over the skipped
runs always ends. -/
theorem spans_belong {callbacks : List (Callback Run)} (wellFormed : WellFormed callbacks) :
    (∀ before s, before ++ [.start s] <+: callbacks → HasSpan s → ∀ nearest, Nearest before (¬ Ended before ·) s.parent nearest →
      Belongs before s nearest) ∧
    ∀ (skipped : List (Run × Option Run)) (parent : Option Run),
      walk skipped skipped.length [] parent = some (resolveParentRunId skipped parent skipped.length) := by
  refine ⟨fun before s early spanned nearest way => ?_, walk_ends⟩
  have earlier : WellFormed before := fun first c early' => wellFormed first c (early'.trans ((List.prefix_append before _).trans early))
  have mirrors := mirrors_after earlier
  obtain ⟨n, way'⟩ := way_of_nearest mirrors way
  obtain ⟨calls, started⟩ := (onStart_opensUnder (after before) spanned).started
  refine ⟨_, calls, started, ?_⟩
  rw [Handler.resolveParent, way'.resolve (Nat.le_refl _)]
  cases nearest with
  | none => rfl
  | some a =>
    obtain ⟨i, isSpan, isRun⟩ := kept_of_nearest mirrors way
    refine ⟨i, ?_, isRun⟩
    rw [parentSpan, Option.bind_some, isSpan]
    rfl

/-! ### An agent that calls a chain -/

def agentStart : Start Nat := { kind := .chain, run := 0, agent := true }
def chainStart : Start Nat := { kind := .chain, run := 1, parent := some 0 }
def modelStart : Start Nat := { kind := .chatModel, run := 2, parent := some 1 }
/-- In the chain a model is called, before the agent ends or after. -/
def timelyCall : List (Callback Nat) := [.start agentStart, .start chainStart, .start modelStart]
def lateCall : List (Callback Nat) := [.start agentStart, .start chainStart, .finish { kind := .chain, run := 0 }, .start modelStart]

theorem agent_spanned : HasSpan agentStart := by simp [HasSpan, skips, agentStart]
theorem chain_skipped : SkipsRun chainStart := by simp [SkipsRun, skips, chainStart]
theorem model_spanned : HasSpan modelStart := by simp [HasSpan, modelStart]

theorem spans_belong_timely : Belongs (timelyCall.take 2) modelStart (some 0) := by
  have wellFormed : WellFormed timelyCall := by
    refine forall_steps_cons ?_ (forall_steps_cons ?_ (forall_steps_cons ?_ forall_steps_nil)) <;>
      simp [MayFollow, Started, Ended, agentStart, chainStart, modelStart]
  have active (r : Nat) : ¬ Ended (timelyCall.take 2) r := by simp [Ended, timelyCall]
  have agent : Nearest (timelyCall.take 2) (¬ Ended (timelyCall.take 2) ·) (some 0) (some 0) :=
    .found (show .start agentStart ∈ timelyCall.take 2 by decide) agent_spanned (active 0)
  have chain : Nearest (timelyCall.take 2) (¬ Ended (timelyCall.take 2) ·) (some 1) (some 0) :=
    .skip (show .start chainStart ∈ timelyCall.take 2 by decide) chain_skipped (active 1) agent
  exact (spans_belong wellFormed).1 (timelyCall.take 2) modelStart (List.prefix_refl _) model_spanned (some 0) chain

theorem lateCall_wellFormed : WellFormed lateCall := by
  refine forall_steps_cons ?_ (forall_steps_cons ?_ (forall_steps_cons ?_ (forall_steps_cons ?_ forall_steps_nil))) <;>
    simp [MayFollow, Started, Ended, agentStart, chainStart, modelStart]
theorem lateCall_parentActive : ∀ before c, before ++ [c] <+: lateCall → ParentActive before c := by
  refine forall_steps_cons ?_ (forall_steps_cons ?_ (forall_steps_cons trivial (forall_steps_cons ?_ forall_steps_nil))) <;>
    simp [ParentActive, Started, Ended, agentStart, chainStart, modelStart]
/-- The span of the model has no parent, although the agent has a span and the chain is skipped. -/
theorem late_call_orphaned :
    ¬ ∀ callbacks : List (Callback Nat), WellFormed callbacks → (∀ before c, before ++ [c] <+: callbacks → ParentActive before c) →
      ∀ before s, before ++ [.start s] <+: callbacks → HasSpan s → ∀ nearest, Nearest before (fun _ => True) s.parent nearest →
        Belongs before s nearest := by
  intro all
  have agent : Nearest (lateCall.take 3) (fun _ => True) (some 0) (some 0) :=
    .found (show .start agentStart ∈ lateCall.take 3 by decide) agent_spanned trivial
  have chain : Nearest (lateCall.take 3) (fun _ => True) (some 1) (some 0) :=
    .skip (show .start chainStart ∈ lateCall.take 3 by decide) chain_skipped trivial agent
  obtain ⟨parent, calls, started, i, isParent, -⟩ := all lateCall lateCall_wellFormed lateCall_parentActive (lateCall.take 3) modelStart
    (List.prefix_refl _) model_spanned (some 0) chain
  have root : (perform (after (lateCall.take 3)) (.start modelStart)).started.getLast?.map (·.parent) = some none := by decide
  rw [started, List.getLast?_concat, isParent] at root
  cases root

end Openlit.NearestSpans
