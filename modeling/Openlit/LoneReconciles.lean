import Openlit.Reconciles

/-!
Reconciliations that nothing disturbs. One of them leaves the labels of its pod
and the status of the specification (`alone_eq`), and another by the same pod
changes the time alone, so the reconciler comes to rest within a second. Two pods
with different names do not: each puts the labels of the other right.
-/
namespace Openlit.LoneReconciles
open Openlit.Values Openlit.Manifests Openlit.Reconciles Openlit.Relations Openlit.Revisions

section
variable [UrlParsing] {Worker : Type} [DecidableEq Worker] (identity : Worker → Identity)

/-! ### One reconciliation -/

def labelled (who : Identity) (r : Resource) : Resource :=
  if needsUpdate who r.labels then updated (managementLabels who r.labels) (sentSpec r.spec) r else r
/-- The resource after a reconciliation. -/
def reconciled (who : Identity) (now : Nat) (r : Resource) : Resource :=
  statusUpdated (statusOf (labelled who r) (validate (labelled who r).spec) now) (labelled who r)
/-- A reconciler that is about to begin. -/
def Resting (stage : Stage) : Prop := ∃ last, stage = .fetching last
/-- The calls of one reconciliation, each with its answer from the store as it is. -/
def alone (world : World Worker) (worker : Worker) (now : Nat) : World Worker :=
  match world.store.current with
  | none => call identity world worker (.served 0) now
  | some v =>
    let calls := if needsUpdate (identity worker) v.value.labels then 4 else 3
    (List.replicate calls (.call worker (.served 0) now)).foldl (step identity) world

omit [UrlParsing] in
@[simp] theorem moved_again (world : World Worker) (worker : Worker) (first second : Stage) (s : Store Resource) :
    moved { moved world worker first with store := s } worker second = moved { world with store := s } worker second := by
  simp [moved]
omit [UrlParsing] in
@[simp] theorem moved_own (world : World Worker) (worker : Worker) (stage : Stage) : (moved world worker stage).stage worker = stage := by
  simp [moved]
omit [UrlParsing] in
@[simp] theorem moved_store (world : World Worker) (worker : Worker) (stage : Stage) : (moved world worker stage).store = world.store :=
  rfl

section
variable {world : World Worker} {worker : Worker} {v : Versioned Resource} (now : world.store.current = some v)
include now

theorem call_fetching {last : Option Result} (stage : world.stage worker = .fetching last) (time : Nat) :
    call identity world worker (.served 0) time =
      moved world worker (if needsUpdate (identity worker) v.value.labels then .labelling v else .refetching) := by
  simp only [call, stage, Store.read_zero, now]
  split <;> rfl
theorem call_labelling (stage : world.stage worker = .labelling v) (time : Nat) :
    call identity world worker (.served 0) time =
      moved
        { world with
          store := world.store.replace v
            (updated (managementLabels (identity worker) v.value.labels) (sentSpec v.value.spec) v.value) }
        worker .refetching := by
  simp only [call, stage, Store.write_current now, writing]
theorem call_refetching (stage : world.stage worker = .refetching) (time : Nat) :
    call identity world worker (.served 0) time = moved world worker (.reporting v) := by
  simp only [call, stage, Store.read_zero, now]
theorem call_reporting (stage : world.stage worker = .reporting v) (time : Nat) :
    call identity world worker (.served 0) time =
      ended
        { world with
          store := world.store.replace v (statusUpdated (statusOf v.value (validate v.value.spec) time) v.value) }
        worker (if (validate v.value.spec).valid then 0 else 300) false := by
  simp only [call, stage, Store.write_current now, writing]
/-- The second half: the status of the object as it is. -/
theorem report_alone (stage : world.stage worker = .refetching) (time : Nat) :
    (List.replicate 2 (Event.call worker (.served 0) time)).foldl (step identity) world =
      ended
        { world with
          store := world.store.replace v (statusUpdated (statusOf v.value (validate v.value.spec) time) v.value) }
        worker (if (validate v.value.spec).valid then 0 else 300) false := by
  simp only [List.replicate, List.foldl_cons, List.foldl_nil, step]
  rw [call_refetching identity now stage, call_reporting identity (v := v) (by exact now) (by simp)]
  simp [ended]

/-- A reconciliation that nothing disturbs writes the labels, then the status, and succeeds. -/
theorem alone_eq (idle : Resting (world.stage worker)) (time : Nat) :
    ∃ mid, (world.store.replace v (labelled (identity worker) v.value)).current = some mid ∧
      mid.value = labelled (identity worker) v.value ∧
      alone identity world worker time =
        ended
          { world with
            store := (world.store.replace v (labelled (identity worker) v.value)).replace mid
              (reconciled (identity worker) time v.value) }
          worker (if (validate (labelled (identity worker) v.value).spec).valid then 0 else 300) false := by
  obtain ⟨last, idle⟩ := idle
  have calls : alone identity world worker time =
      (List.replicate (if needsUpdate (identity worker) v.value.labels then 4 else 3)
        (Event.call worker (.served 0) time)).foldl (step identity) world := by
    rw [alone, now]
  by_cases wrong : needsUpdate (identity worker) v.value.labels = true
  · have labels : labelled (identity worker) v.value =
        updated (managementLabels (identity worker) v.value.labels) (sentSpec v.value.spec) v.value := by
      rw [labelled, if_pos wrong]
    obtain ⟨mid, found, value⟩ := Store.current_replace now (labelled (identity worker) v.value)
    refine ⟨mid, found, value, ?_⟩
    have first : (List.replicate 2 (Event.call worker (.served 0) time)).foldl (step identity) world =
        moved { world with store := world.store.replace v (labelled (identity worker) v.value) } worker .refetching := by
      simp only [List.replicate, List.foldl_cons, List.foldl_nil, step]
      rw [call_fetching identity now idle, if_pos wrong, call_labelling identity (v := v) (by exact now) (by simp)]
      simp [labels]
    rw [calls, if_pos wrong, show (4 : Nat) = 2 + 2 from rfl, List.replicate_add, List.foldl_append, first,
      report_alone identity (v := mid) (by exact found) (by simp), value]
    simp [ended, reconciled]
  · have labels : labelled (identity worker) v.value = v.value := by rw [labelled, if_neg wrong]
    rw [labels, Store.replace_same]
    refine ⟨v, now, rfl, ?_⟩
    have first : (List.replicate 1 (Event.call worker (.served 0) time)).foldl (step identity) world =
        moved world worker .refetching := by
      simp only [List.replicate, List.foldl_cons, List.foldl_nil, step]
      rw [call_fetching identity now idle, if_neg wrong]
    rw [calls, if_neg wrong, show (3 : Nat) = 1 + 2 from rfl, List.replicate_add, List.foldl_append, first,
      report_alone identity (v := v) (by exact now) (by simp)]
    simp [ended, reconciled, labels]

end

end

/-! ### The next one -/

/-- Putting a condition again, with another time, changes nothing. -/
theorem setStatusCondition_again (conditions : List Condition) (new : Condition) (later : Nat) :
    setStatusCondition (setStatusCondition conditions new) { new with lastTransitionTime := later } =
      setStatusCondition conditions new := by
  cases found : findStatusCondition conditions new.type with
  | none =>
    have appended : setStatusCondition conditions new = conditions ++ [new] := by rw [setStatusCondition, found]
    have first : findStatusCondition (conditions ++ [new]) new.type = some new := by
      rw [findStatusCondition] at found ⊢
      rw [List.find?_append, found]
      simp
    rw [appended, setStatusCondition]
    simp only [first]
    refine updateFirst_self fun a here => ?_
    obtain rfl : new = a := Option.some.inj (first.symm.trans here)
    simp [merged]
  | some existing =>
    have changed : findStatusCondition (setStatusCondition conditions new) new.type = some (merged new existing) := by
      rw [setStatusCondition, found]
      rw [findStatusCondition] at found ⊢
      rw [find_updateFirst, found, Option.map_some]
      intro a here
      simpa [merged] using List.find?_some here
    rw [setStatusCondition]
    simp only [changed]
    refine updateFirst_self fun a here => ?_
    obtain rfl := Option.some.inj (changed.symm.trans here)
    simp [merged]

/-! ### Settling -/

theorem labelled_right (who : Identity) (r : Resource) : needsUpdate who (labelled who r).labels = false := by
  unfold labelled
  split
  · exact not_needsUpdate who r.labels
  · rename_i right
    simpa using right
theorem labelled_again {who : Identity} {r : Resource} (right : needsUpdate who r.labels = false) : labelled who r = r := by
  rw [labelled, if_neg (by simp [right])]

/-- The labels of another pod are wrong ones. -/
theorem needsUpdate_other {who other : Identity} (different : who ≠ other) (labels : StringMap)
    (right : needsUpdate other labels = false) : needsUpdate who labels = true := by
  obtain ⟨managed, instrumented⟩ : labels.lookup managedByLabel = some (expectedManagedBy other) ∧
      labels.lookup instrumentedByLabel = some other.operatorName := by
    simpa [needsUpdate] using right
  simp only [needsUpdate, managed, instrumented, ne_eq, Option.some.injEq, decide_eq_true_eq]
  by_contra both
  obtain ⟨sameManaged, sameName⟩ := not_or.mp both
  rw [not_not] at sameManaged sameName
  refine different ?_
  obtain ⟨name, nameSpace⟩ := who
  obtain ⟨name', nameSpace'⟩ := other
  simp only at sameName
  subst sameName
  simp only [expectedManagedBy, String.append_right_inj] at sameManaged
  rw [sameManaged]

section
variable [UrlParsing]

theorem reconciled_labels (who : Identity) (now : Nat) (r : Resource) : (reconciled who now r).labels = (labelled who r).labels := rfl
/-- A reconciliation by the same pod changes the time alone. -/
theorem reconciled_again (who : Identity) (now later : Nat) (r : Resource) :
    reconciled who later (reconciled who now r) =
      statusUpdated { (reconciled who now r).status with lastProcessed := some later } (reconciled who now r) := by
  have right : labelled who (reconciled who now r) = reconciled who now r := by
    refine labelled_again ?_
    rw [reconciled_labels]
    exact labelled_right who r
  have condition : readyCondition (labelled who r).generation (validate (labelled who r).spec) later =
      { readyCondition (labelled who r).generation (validate (labelled who r).spec) now with lastTransitionTime := later } := by
    unfold readyCondition
    split <;> rfl
  have conditions := setStatusCondition_again (labelled who r).status.conditions
    (readyCondition (labelled who r).generation (validate (labelled who r).spec) now) later
  rw [← condition] at conditions
  rw [reconciled, right]
  simp only [reconciled, statusUpdated, statusOf, conditions]

variable {Worker : Type} [DecidableEq Worker] (identity : Worker → Identity)

/-- What a reconciliation leaves, with the number of changes it makes to the store. -/
theorem alone_leaves {world : World Worker} {worker : Worker} {v : Versioned Resource} (now : world.store.current = some v)
    (idle : Resting (world.stage worker)) (time : Nat) :
    (∃ w, (alone identity world worker time).store.current = some w ∧ w.value = reconciled (identity worker) time v.value) ∧
    (alone identity world worker time).stage =
      Function.update world.stage worker
        (.fetching (some { requeueAfter := if (validate (labelled (identity worker) v.value).spec).valid then 0 else 300
                           failed := false })) ∧
    (alone identity world worker time).store.next =
      world.store.next + (if labelled (identity worker) v.value = v.value then 0 else 1) +
        (if reconciled (identity worker) time v.value = labelled (identity worker) v.value then 0 else 1) ∧
    (reconciled (identity worker) time v.value = v.value → labelled (identity worker) v.value = v.value →
      (alone identity world worker time).store = world.store) := by
  obtain ⟨mid, found, value, done⟩ := alone_eq identity now idle time
  rw [done]
  refine ⟨Store.current_replace found _, rfl, ?_, fun same labels => ?_⟩
  · show ((world.store.replace v _).replace mid _).next = _
    rw [Store.next_replace, Store.next_replace, value]
    split <;> split <;> rfl
  · show (world.store.replace v _).replace mid _ = _
    rw [labels, Store.replace_same] at found ⊢
    obtain rfl := Option.some.inj (now.symm.trans found)
    rw [same, Store.replace_same]

/-- A reconciliation of a pod right after its own changes the time of the status
    alone, and nothing at all within the same second. -/
theorem second_reconciliation {world : World Worker} {worker : Worker} {v : Versioned Resource}
    (now : world.store.current = some v) (idle : Resting (world.stage worker)) (time later : Nat) :
    ∃ w w', (alone identity world worker time).store.current = some w ∧
      (alone identity (alone identity world worker time) worker later).store.current = some w' ∧
      w'.value = statusUpdated { w.value.status with lastProcessed := some later } w.value ∧
      ((alone identity (alone identity world worker time) worker later).store = (alone identity world worker time).store ↔
        later = time) := by
  obtain ⟨⟨w, found, value⟩, stage, -, -⟩ := alone_leaves identity now idle time
  have rests : Resting ((alone identity world worker time).stage worker) := by
    rw [stage, Function.update_self]
    exact ⟨_, rfl⟩
  obtain ⟨⟨w', found', value'⟩, -, changes, same⟩ := alone_leaves identity found rests later
  have labels : labelled (identity worker) w.value = w.value := by
    refine labelled_again ?_
    rw [value]
    exact labelled_right (identity worker) v.value
  have again : reconciled (identity worker) later w.value =
      statusUpdated { w.value.status with lastProcessed := some later } w.value := by
    rw [value]
    exact reconciled_again (identity worker) time later v.value
  refine ⟨w, w', found, found', value'.trans again, ?_⟩
  constructor
  · intro equal
    rw [equal, labels, if_pos rfl, again] at changes
    have kept : statusUpdated { w.value.status with lastProcessed := some later } w.value = w.value := by
      by_contra other
      rw [if_neg other] at changes
      omega
    have times := congrArg (fun r : Resource => r.status.lastProcessed) kept
    simp only [statusUpdated] at times
    have before : w.value.status.lastProcessed = some time := by rw [value]; rfl
    exact Option.some.inj (times.trans before)
  · rintro rfl
    refine same ?_ labels
    rw [again]
    have before : w.value.status.lastProcessed = some later := by rw [value]; rfl
    rw [← before]
    rfl

end

/-- A new resource that a pod reconciles twice, in the same second or in two. -/
theorem third_reconciliation_rests :
    let _ := WebhookSelection.anyUrl
    let identity : Unit → Identity := fun _ => { operatorName := "openlit-operator-0", operatorNamespace := "openlit" }
    let world := alone identity (step identity (.start Unit) (.create [("app", "chat")] {})) () 7
    (alone identity world () 7).store = world.store ∧ (alone identity world () 8).store ≠ world.store := by
  intro _ identity world
  let created := step identity (.start Unit) (.create [("app", "chat")] {})
  have now : created.store.current = some ⟨0, { uid := 0, generation := 1, labels := [("app", "chat")], spec := {}, status := {} }⟩ :=
    rfl
  obtain ⟨-, -, -, -, -, sameSecond⟩ := second_reconciliation identity now ⟨none, rfl⟩ 7 7
  obtain ⟨-, -, -, -, -, nextSecond⟩ := second_reconciliation identity now ⟨none, rfl⟩ 7 8
  exact ⟨sameSecond.mpr rfl, fun same => absurd (nextSecond.mp same) (by decide)⟩

/-! ### Several pods -/

section
variable [UrlParsing] {Worker : Type} [DecidableEq Worker] (identity : Worker → Identity)

/-- Reconciliations of several pods, one after the other. -/
def turns (world : World Worker) (workers : List (Worker × Nat)) : World Worker :=
  workers.foldl (fun world turn => alone identity world turn.1 turn.2) world

theorem alone_rests {world : World Worker} {worker : Worker} {v : Versioned Resource} (now : world.store.current = some v)
    (idle : ∀ worker, Resting (world.stage worker)) (time : Nat) (other : Worker) :
    Resting ((alone identity world worker time).stage other) := by
  obtain ⟨-, stage, -, -⟩ := alone_leaves identity now (idle worker) time
  rw [stage, Function.update_apply]
  split
  · exact ⟨_, rfl⟩
  · exact idle other
/-- Every turn of a pod after one of another pod makes a change. -/
theorem turns_change {world : World Worker} {v : Versioned Resource} (now : world.store.current = some v)
    (idle : ∀ worker, Resting (world.stage worker)) {before : Worker × Nat} {rest : List (Worker × Nat)}
    (right : needsUpdate (identity before.1) v.value.labels = false)
    (alternate : (before :: rest).IsChain fun a b => identity a.1 ≠ identity b.1) :
    world.store.next + rest.length ≤ (turns identity world rest).store.next := by
  induction rest generalizing world v before with
  | nil => exact le_rfl
  | cons turn rest ih =>
    obtain ⟨different, later⟩ := List.isChain_cons_cons.mp alternate
    obtain ⟨⟨w, found, value⟩, -, changes, -⟩ := alone_leaves identity now (idle turn.1) turn.2
    have wrong := needsUpdate_other different.symm v.value.labels right
    have written : labelled (identity turn.1) v.value ≠ v.value := by
      intro same
      have mine := labelled_right (identity turn.1) v.value
      rw [same, wrong] at mine
      cases mine
    have own : needsUpdate (identity turn.1) w.value.labels = false := by
      rw [value]
      exact labelled_right (identity turn.1) v.value
    have rest' := ih found (alone_rests identity now idle turn.2) own later
    rw [if_neg written] at changes
    rw [turns, List.foldl_cons, ← turns, List.length_cons]
    omega

end

/-- The pods of a rolling update. -/
def rivals (second : Bool) : Identity :=
  { operatorName := if second then "openlit-operator-1" else "openlit-operator-0", operatorNamespace := "openlit" }
end Openlit.LoneReconciles
