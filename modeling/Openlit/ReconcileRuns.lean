import Openlit.Reconciles

/-!
What holds in every run of the reconcilers: the status tells how the generation
that it names has been validated (`status_truthful`), and what users have written
stays (`edits_kept`), but for an empty `matchLabels`, which a reconciler drops and
which the webhook takes for every pod (`selection_kept_iff`).
-/
namespace Openlit.ReconcileRuns
open Openlit.Lookups Openlit.Manifests Openlit.Reconciles Openlit.Relations Openlit.Revisions Openlit.Values

section
variable [UrlParsing] {Worker : Type} [DecidableEq Worker] (identity : Worker → Identity)

/-! ### What the status says -/

/-- A status that no reconciler has written, or what one has written about the
    specification that the resource has had in the generation it names. -/
def Reported (s : Store Resource) (r : Resource) : Prop :=
  r.status = {} ∨
    ∃ (w : Versioned Resource) (since time : Nat), some w ∈ s.history ∧ w.value.uid = r.uid ∧
      r.status =
        { conditions := [readyCondition w.value.generation (validate w.value.spec) since]
          validationErrors := (validate w.value.spec).errors
          lastProcessed := some time }

/-- The generations of a resource count its specifications, and its status is about one of them. -/
structure Honest (s : Store Resource) : Prop where
  uids : ∀ v, some v ∈ s.history → v.value.uid < s.next
  newest : ∀ c v, s.current = some c → some v ∈ s.history → v.value.uid = c.value.uid →
    v.value.generation ≤ c.value.generation
  specs : ∀ v w, some v ∈ s.history → some w ∈ s.history → v.value.uid = w.value.uid →
    v.value.generation = w.value.generation → v.value.spec = w.value.spec
  reported : ∀ v, some v ∈ s.history → Reported s v.value

omit [UrlParsing] in
@[simp] theorem readyCondition_type (generation : Nat) (result : ValidationResult) (now : Nat) :
    (readyCondition generation result now).type = "Ready" := by
  unfold readyCondition
  split <;> rfl

theorem Reported.grows {s s' : Store Resource} {r : Resource} (grows : s.history <:+ s'.history) (reported : Reported s r) :
    Reported s' r := by
  refine reported.imp_right fun ⟨w, since, time, past, same, status⟩ => ?_
  exact ⟨w, since, time, grows.mem past, same, status⟩
theorem Reported.congr {s : Store Resource} {r r' : Resource} (reported : Reported s r) (uid : r'.uid = r.uid)
    (status : r'.status = r.status) : Reported s r' := by
  unfold Reported
  rw [uid, status]
  exact reported

/-- A later state of the same resource: the same generation with the same specification, or the next one. -/
theorem Honest.put {s : Store Resource} (honest : Honest s) {v : Versioned Resource} (now : s.current = some v) {r : Resource}
    (uid : r.uid = v.value.uid)
    (counted : r.generation = v.value.generation ∧ r.spec = v.value.spec ∨ r.generation = v.value.generation + 1)
    (reported : Reported s r) : Honest (s.put r) := by
  have here := Store.current_mem now
  have later : v.value.generation ≤ r.generation := by
    rcases counted with ⟨same, -⟩ | next <;> omega
  -- A version with the new generation is the new one, or the generation has not changed.
  have agrees (w : Versioned Resource) (past : some w ∈ s.history) (own : w.value.uid = r.uid)
      (equal : w.value.generation = r.generation) : w.value.spec = r.spec := by
    have bound := honest.newest v w now past (own.trans uid)
    rcases counted with ⟨same, spec⟩ | next
    · rw [spec]
      exact honest.specs w v past here (own.trans uid) (equal.trans same)
    · omega
  refine ⟨?_, ?_, ?_, ?_⟩
  · intro w mem
    rw [Store.next_put]
    rcases List.mem_cons.mp mem with new | past
    · cases new
      have bound := honest.uids v here
      show r.uid < _
      omega
    · exact Nat.lt_succ_of_lt (honest.uids w past)
  · intro c w current mem own
    rw [Store.current_put] at current
    cases current
    rcases List.mem_cons.mp mem with new | past
    · cases new
      exact le_rfl
    · have bound := honest.newest v w now past (own.trans uid)
      exact bound.trans later
  · intro w w' mem mem' own equal
    rcases List.mem_cons.mp mem with new | past <;> rcases List.mem_cons.mp mem' with new' | past'
    · cases new
      cases new'
      rfl
    · cases new
      exact (agrees w' past' own.symm equal.symm).symm
    · cases new'
      exact agrees w past own equal
    · exact honest.specs w w' past past' own equal
  · intro w mem
    rcases List.mem_cons.mp mem with new | past
    · cases new
      exact reported.grows (List.suffix_cons _ _)
    · exact (honest.reported w past).grows (List.suffix_cons _ _)
/-- A resource that is created is another one than all before it. -/
theorem Honest.create {s : Store Resource} (honest : Honest s) {r : Resource} (uid : r.uid = s.next) (status : r.status = {}) :
    Honest (s.put r) := by
  have fresh (w : Versioned Resource) (past : some w ∈ s.history) : w.value.uid ≠ r.uid := by
    have bound := honest.uids w past
    omega
  refine ⟨?_, ?_, ?_, ?_⟩
  · intro w mem
    rw [Store.next_put]
    rcases List.mem_cons.mp mem with new | past
    · cases new
      show r.uid < _
      omega
    · exact Nat.lt_succ_of_lt (honest.uids w past)
  · intro c w current mem own
    rw [Store.current_put] at current
    cases current
    rcases List.mem_cons.mp mem with new | past
    · cases new
      exact le_rfl
    · exact absurd own (fresh w past)
  · intro w w' mem mem' own equal
    rcases List.mem_cons.mp mem with new | past <;> rcases List.mem_cons.mp mem' with new' | past'
    · cases new
      cases new'
      rfl
    · cases new
      exact absurd own.symm (fresh w' past')
    · cases new'
      exact absurd own (fresh w past)
    · exact honest.specs w w' past past' own equal
  · intro w mem
    rcases List.mem_cons.mp mem with new | past
    · cases new
      exact .inl status
    · exact (honest.reported w past).grows (List.suffix_cons _ _)
theorem Honest.remove {s : Store Resource} (honest : Honest s) : Honest s.remove := by
  have past {v : Versioned Resource} (mem : some v ∈ s.remove.history) : some v ∈ s.history := by simpa using mem
  refine ⟨fun v mem => honest.uids v (past mem), ?_, ?_, ?_⟩
  · intro c v current
    rw [Store.current_remove] at current
    cases current
  · exact fun v w memV memW => honest.specs v w (past memV) (past memW)
  · exact fun v mem => (honest.reported v (past mem)).grows (List.suffix_cons _ _)

omit [UrlParsing] in
/-- The generation after an update goes with the specification. -/
theorem updated_counted (labels : StringMap) (spec : AutoInstrumentationSpec) (r : Resource) :
    (updated labels spec r).generation = r.generation ∧ (updated labels spec r).spec = r.spec ∨
      (updated labels spec r).generation = r.generation + 1 := by
  unfold updated
  by_cases same : spec = r.spec
  · exact .inl ⟨if_pos same, same⟩
  · exact .inr (if_neg same)
theorem Honest.updated {s : Store Resource} (honest : Honest s) {v : Versioned Resource} (now : s.current = some v)
    (labels : StringMap) (spec : AutoInstrumentationSpec) : Honest (s.put (updated labels spec v.value)) :=
  honest.put now rfl (updated_counted labels spec v.value) ((honest.reported v (Store.current_mem now)).congr rfl rfl)
/-- A reconciler writes a report about the object that is there. -/
theorem Honest.reports {s : Store Resource} (honest : Honest s) {v : Versioned Resource} (now : s.current = some v) (time : Nat) :
    Honest (s.put (statusUpdated (statusOf v.value (validate v.value.spec) time) v.value)) := by
  have here := Store.current_mem now
  refine honest.put now rfl (.inl ⟨rfl, rfl⟩) (.inr ?_)
  rcases honest.reported v here with blank | ⟨w, since, last, -, -, status⟩
  · refine ⟨v, time, time, here, rfl, ?_⟩
    simp [statusUpdated, statusOf, blank, setStatusCondition, findStatusCondition]
  · by_cases turns : (validate w.value.spec).valid = (validate v.value.spec).valid
    · refine ⟨v, since, time, here, rfl, ?_⟩
      cases valid : (validate v.value.spec).valid <;> rw [valid] at turns <;>
        simp [statusUpdated, statusOf, status, setStatusCondition, findStatusCondition, updateFirst, merged, readyCondition, valid, turns]
    · refine ⟨v, time, time, here, rfl, ?_⟩
      cases valid : (validate v.value.spec).valid <;> cases before : (validate w.value.spec).valid <;>
        simp_all [statusUpdated, statusOf, setStatusCondition, findStatusCondition, updateFirst, merged, readyCondition]

theorem step_honest {world : World Worker} (held : Held world) (honest : Honest world.store) (event : Event Worker) :
    Honest (step identity world event).store := by
  have happens := step_cases identity held event
  revert happens
  generalize (step identity world event).store = s'
  intro happens
  cases happens with
  | created labels spec absent => exact honest.create rfl rfl
  | edited labels spec v now other => exact honest.updated now labels spec
  | deleted v now => exact honest.remove
  | «exists» | unchanged | missing | gone => exact honest
  | called worker answer time s' change =>
    cases change with
    | nothing => exact honest
    | labels v who now => exact honest.updated now _ _
    | status v time now => exact honest.reports now time

theorem run_honest (events : List (Event Worker)) : Honest (run identity events).store := by
  induction events using List.reverseRecOn with
  | nil =>
    refine ⟨?_, ?_, ?_, ?_⟩
    · intro v mem
      cases mem
    · intro c v current
      cases current
    · intro v w mem
      cases mem
    · intro v mem
      cases mem
  | append_singleton before event ih =>
    rw [run_concat]
    exact step_honest identity (run_held identity before) ih event

/-- The Ready condition of the resource that is there names a generation that
    the resource has had, and tells how the specification of that generation has
    been validated. There is no other condition. -/
def Truthful (s : Store Resource) : Prop :=
  ∀ v, s.current = some v →
    v.value.status.conditions.length ≤ 1 ∧
    ∀ ready, findStatusCondition v.value.status.conditions "Ready" = some ready →
      ready.observedGeneration ≤ v.value.generation ∧
      (∃ w, some w ∈ s.history ∧ w.value.uid = v.value.uid ∧ w.value.generation = ready.observedGeneration) ∧
      ∀ w, some w ∈ s.history → w.value.uid = v.value.uid → w.value.generation = ready.observedGeneration →
        ready = readyCondition ready.observedGeneration (validate w.value.spec) ready.lastTransitionTime ∧
          v.value.status.validationErrors = (validate w.value.spec).errors

omit [UrlParsing] in
@[simp] theorem readyCondition_observedGeneration (generation : Nat) (result : ValidationResult) (now : Nat) :
    (readyCondition generation result now).observedGeneration = generation := by
  unfold readyCondition
  split <;> rfl
omit [UrlParsing] in
@[simp] theorem readyCondition_lastTransitionTime (generation : Nat) (result : ValidationResult) (now : Nat) :
    (readyCondition generation result now).lastTransitionTime = now := by
  unfold readyCondition
  split <;> rfl

theorem Honest.truthful {s : Store Resource} (honest : Honest s) : Truthful s := by
  intro v now
  rcases honest.reported v (Store.current_mem now) with blank | ⟨w, since, time, past, own, status⟩
  · rw [blank]
    refine ⟨Nat.zero_le 1, fun ready found => ?_⟩
    cases found
  · rw [status]
    refine ⟨le_rfl, fun ready found => ?_⟩
    obtain rfl : readyCondition w.value.generation (validate w.value.spec) since = ready := by
      simpa [findStatusCondition] using found
    rw [readyCondition_observedGeneration, readyCondition_lastTransitionTime]
    refine ⟨honest.newest v w now past own, ⟨w, past, own, rfl⟩, fun w' past' own' named => ?_⟩
    have spec := honest.specs w' w past' past (own'.trans own.symm) named
    rw [spec]
    exact ⟨rfl, rfl⟩
/-- In every run, with reads however old and writes of any number of pods. -/
theorem status_truthful (events : List (Event Worker)) : Truthful (run identity events).store :=
  (run_honest identity events).truthful

/-! ### What users write -/

/-- The labels and the specification that users have written last, while there is a resource. -/
def intention (written : Option (StringMap × AutoInstrumentationSpec)) : Event Worker → Option (StringMap × AutoInstrumentationSpec)
  | .create labels spec => some (written.getD (labels, spec))
  | .edit labels spec => written.map fun _ => (labels, spec)
  | .delete => none
  | .call _ _ _ => written
def intended (events : List (Event Worker)) : Option (StringMap × AutoInstrumentationSpec) := events.foldl intention none

/-- The resource is as users have written it, but for its two management labels
    and for what the typed client drops. -/
def Kept (written : StringMap × AutoInstrumentationSpec) (r : Resource) : Prop :=
  (r.spec = written.2 ∨ r.spec = sentSpec written.2) ∧
    ∀ key, key ≠ managedByLabel → key ≠ instrumentedByLabel → r.labels.lookup key = written.1.lookup key
def Agrees (written : Option (StringMap × AutoInstrumentationSpec)) (current : Option (Versioned Resource)) : Prop :=
  match written, current with
  | none, none => True
  | some written, some v => Kept written v.value
  | _, _ => False

theorem change_kept {s s' : Store Resource} (change : Change s s') {written : Option (StringMap × AutoInstrumentationSpec)}
    (agrees : Agrees written s.current) : Agrees written s'.current := by
  cases change with
  | nothing => exact agrees
  | labels v who now =>
    cases written with
    | none =>
      rw [now] at agrees
      exact agrees.elim
    | some written =>
      rw [now] at agrees
      obtain ⟨spec, labels⟩ := agrees
      refine ⟨.inr ?_, fun key notManaged notInstrumented => ?_⟩
      · show sentSpec v.value.spec = _
        rcases spec with same | sent
        · rw [same]
        · rw [sent, sentSpec_sent]
      · show (managementLabels who v.value.labels).lookup key = _
        rw [lookup_managementLabels, if_neg notInstrumented, if_neg notManaged]
        exact labels key notManaged notInstrumented
  | status v time now =>
    cases written with
    | none =>
      rw [now] at agrees
      exact agrees.elim
    | some written =>
      rw [now] at agrees
      exact agrees
theorem step_agrees {world : World Worker} (held : Held world) {written : Option (StringMap × AutoInstrumentationSpec)}
    (agrees : Agrees written world.store.current) (event : Event Worker) :
    Agrees (intention written event) (step identity world event).store.current := by
  have happens := step_cases identity held event
  revert happens
  generalize (step identity world event).store = s'
  intro happens
  have absent : world.store.current = none → written = none := by
    intro absent
    rw [absent] at agrees
    cases written with
    | none => rfl
    | some written => exact agrees.elim
  have present {v : Versioned Resource} (now : world.store.current = some v) : ∃ last, written = some last := by
    rw [now] at agrees
    cases written with
    | none => exact agrees.elim
    | some last => exact ⟨last, rfl⟩
  cases happens with
  | created labels spec none' =>
    rw [absent none']
    exact ⟨.inl rfl, fun _ _ _ => rfl⟩
  | «exists» labels spec v now =>
    obtain ⟨last, rfl⟩ := present now
    exact agrees
  | edited labels spec v now other =>
    obtain ⟨last, rfl⟩ := present now
    exact ⟨.inl rfl, fun _ _ _ => rfl⟩
  | unchanged labels spec v now same =>
    obtain ⟨last, rfl⟩ := present now
    rw [now]
    show Kept (labels, spec) v.value
    rw [← same]
    exact ⟨.inl rfl, fun _ _ _ => rfl⟩
  | missing labels spec none' =>
    rw [absent none', none']
    trivial
  | deleted v now => trivial
  | gone none' =>
    rw [none']
    trivial
  | called worker answer time s' change => exact change_kept change agrees

/-- No reconciler undoes what a user has written, whatever it has read before. -/
theorem edits_kept (events : List (Event Worker)) : Agrees (intended events) (run identity events).store.current := by
  induction events using List.reverseRecOn with
  | nil => trivial
  | append_singleton before event ih =>
    rw [run_concat, intended, List.foldl_concat]
    exact step_agrees identity (run_held identity before) ih event

end

/-! ### What the webhook makes of it -/

/-- The pods that the webhook finds for a specification. -/
def selects (spec : AutoInstrumentationSpec) (pod : Pods.Pod) : Bool :=
  spec.selector.matchLabels.any (Webhook.podMatchesSelector pod)
theorem labelMatches_eq (pod : Pods.Pod) (r : Stored) : WebhookSelection.labelMatches pod r = selects r.spec pod := rfl

/-- An empty block matches every pod with labels, and an absent one matches none. -/
theorem selects_sent_iff (spec : AutoInstrumentationSpec) :
    (∀ pod, selects (sentSpec spec) pod = selects spec pod) ↔ spec.selector.matchLabels ≠ some [] := by
  have sent : (sentSpec spec).selector.matchLabels = spec.selector.matchLabels.filter (· ≠ []) := rfl
  constructor
  · intro same empty
    let pod : Pods.Pod := { metadata := { labels := some [] }, spec := { containers := [] } }
    have lost := same pod
    simp [selects, sent, empty, pod, Webhook.podMatchesSelector] at lost
  · intro written pod
    rw [selects, sent, selects]
    cases block : spec.selector.matchLabels with
    | none => rfl
    | some labels =>
      rw [block] at written
      have kept : labels ≠ [] := fun empty => written (congrArg some empty)
      simp [Option.filter, kept]

section
variable [UrlParsing] {Worker : Type} [DecidableEq Worker] (identity : Worker → Identity)

/-- The webhook finds the pods that the users have selected, until a reconciler
    has written a resource whose `matchLabels` they have left empty. -/
theorem selection_kept_iff (events : List (Event Worker)) {written : StringMap × AutoInstrumentationSpec}
    (wanted : intended events = some written) {v : Versioned Resource} (now : (run identity events).store.current = some v) :
    (∀ pod, selects v.value.spec pod = selects written.2 pod) ↔
      (written.2.selector.matchLabels = some [] → v.value.spec = written.2) := by
  have agrees := edits_kept identity events
  rw [wanted, now] at agrees
  obtain ⟨spec, -⟩ := agrees
  rcases spec with same | sent
  · rw [same]
    exact iff_of_true (fun _ => rfl) fun _ => rfl
  · rw [sent, selects_sent_iff]
    constructor
    · intro kept empty
      exact absurd empty kept
    · intro same empty
      have unsent := congrArg (fun spec => spec.selector.matchLabels) (same empty)
      simp [sentSpec, sentSelector, empty, Option.filter] at unsent

end

/-- A resource for every pod with labels, and one that has no label of its operator yet. -/
theorem selection_of_every_pod :
    ∃ (written : StringMap × AutoInstrumentationSpec) (v : Versioned Resource),
      written.2.selector.matchLabels = some [] ∧
      ¬ ∀ pod, selects v.value.spec pod = selects written.2 pod := by
  let spec : AutoInstrumentationSpec := { selector := { matchLabels := some [] }, otlp := { endpoint := "http://openlit:4318" } }
  let events : List (Event Unit) := [.create [] spec, .call () (.served 0) 0, .call () (.served 0) 0]
  let identity : Unit → Identity := fun _ => { operatorName := "openlit-operator-0", operatorNamespace := "openlit" }
  let _ := WebhookSelection.anyUrl
  let v : Versioned Resource :=
    ⟨1, updated (managementLabels (identity ()) []) (sentSpec spec) { uid := 0, generation := 1, labels := [], spec, status := {} }⟩
  have wanted : intended events = some ([], spec) := rfl
  have now : (run identity events).store.current = some v := rfl
  refine ⟨([], spec), v, rfl, fun same => ?_⟩
  have kept := (selection_kept_iff identity events wanted now).mp same rfl
  have unsent := congrArg (fun spec => spec.selector.matchLabels) kept
  simp [v, updated, sentSpec, sentSelector, spec, Option.filter] at unsent

end Openlit.ReconcileRuns
