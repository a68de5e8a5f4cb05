import Openlit.Lookups
import Openlit.Relations
import Openlit.Revisions
import Openlit.Runs
import Openlit.WebhookSelection

/-!
The reconciler of AutoInstrumentation resources (`internal/controller`), call by
call, for one resource: users create, edit and delete it, and any number of
operator pods reconcile it at once. A read comes from a cache that may lag
behind, a call may fail, and a write may be made though its answer is lost. The
API server keeps the status of an object that is updated and everything but the
status of one whose status is; users do not write the status.
-/
namespace Openlit.Reconciles
open Openlit.Lookups Openlit.Manifests Openlit.Relations Openlit.Revisions Openlit.Values

deriving instance DecidableEq for Pods.SecretKeySelector, Pods.ConfigMapKeySelector, Pods.ObjectFieldSelector
deriving instance DecidableEq for EnvVarSource, EnvVar, InstrumentationSettings, PythonInstrumentation, GoInstrumentation
deriving instance DecidableEq for OTLPConfig, ResourceConfig, PodSelector, AutoInstrumentationSpec

/-! ### The resource -/

inductive ConditionStatus
  | isTrue
  | isFalse
  | isUnknown
  deriving DecidableEq
/-- `metav1.Condition`. Times are those of the served object, in whole seconds. -/
structure Condition where
  type : String
  status : ConditionStatus
  observedGeneration : Nat
  lastTransitionTime : Nat
  reason : String
  message : String
  deriving DecidableEq
structure InstrumentedPod where
  name : String
  nameSpace : String
  instrumentedAt : Nat
  provider : String
  deriving DecidableEq
structure AutoInstrumentationStatus where
  conditions : List Condition := []
  instrumentedPods : List InstrumentedPod := []
  validationErrors : List String := []
  lastProcessed : Option Nat := none
  deriving DecidableEq
/-- The resource in the store. A resource that is created again gets another `uid`. -/
structure Resource where
  uid : Nat
  generation : Nat
  labels : StringMap
  spec : AutoInstrumentationSpec
  status : AutoInstrumentationStatus
  deriving DecidableEq

/-- What the typed client sends of a selector: the tag `omitempty` leaves an empty map out. -/
def sentSelector (s : PodSelector) : PodSelector := { s with matchLabels := s.matchLabels.filter (· ≠ []) }
def sentSpec (s : AutoInstrumentationSpec) : AutoInstrumentationSpec :=
  { s with selector := sentSelector s.selector, ignore := s.ignore.map sentSelector }

theorem sentSelector_sent (s : PodSelector) : sentSelector (sentSelector s) = sentSelector s := by
  simp [sentSelector, Option.filter_filter]
theorem sentSpec_sent (s : AutoInstrumentationSpec) : sentSpec (sentSpec s) = sentSpec s := by
  simp only [sentSpec, sentSelector_sent, Option.map_map]
  congr 2
  funext selector
  exact sentSelector_sent selector

/-! ### The API server -/

/-- An update of the object keeps its status. Another spec begins a generation. -/
def updated (labels : StringMap) (spec : AutoInstrumentationSpec) (r : Resource) : Resource :=
  { r with labels, spec, generation := if spec = r.spec then r.generation else r.generation + 1 }
def statusUpdated (status : AutoInstrumentationStatus) (r : Resource) : Resource := { r with status }

/-! ### The labels -/

/-- The pod of an operator and its namespace. -/
structure Identity where
  operatorName : String
  operatorNamespace : String
  deriving DecidableEq

def managedByLabel : String := "openlit.io/managed-by"
def instrumentedByLabel : String := "openlit.io/instrumented-by"
def expectedManagedBy (who : Identity) : String := who.operatorName ++ "." ++ who.operatorNamespace

def setLabel (labels : StringMap) (key value : String) : StringMap :=
  if (labels.lookup key).isSome then setItem labels key value else labels ++ [(key, value)]
def checkLabel (key value : String) (labels : StringMap) : StringMap :=
  if labels.lookup key = some value then labels else setLabel labels key value
def needsUpdate (who : Identity) (labels : StringMap) : Bool :=
  labels.lookup managedByLabel ≠ some (expectedManagedBy who) ∨ labels.lookup instrumentedByLabel ≠ some who.operatorName
/-- The labels that `ensureManagementLabels` leaves. -/
def managementLabels (who : Identity) (labels : StringMap) : StringMap :=
  checkLabel instrumentedByLabel who.operatorName (checkLabel managedByLabel (expectedManagedBy who) labels)

theorem lookup_setLabel (labels : StringMap) (key value other : String) :
    (setLabel labels key value).lookup other = if other = key then some value else labels.lookup other := by
  unfold setLabel
  cases found : labels.lookup key with
  | some old =>
    rw [Option.isSome_some, if_pos rfl, lookup_setItem, found]
    simp
  | none =>
    rw [if_neg (by simp), List.lookup_append, List.lookup_cons]
    by_cases same : other = key
    · subst same
      simp [found]
    · have apart : (other == key) = false := by simpa using same
      simp [apart, same]
theorem lookup_checkLabel (labels : StringMap) (key value other : String) :
    (checkLabel key value labels).lookup other = if other = key then some value else labels.lookup other := by
  unfold checkLabel
  split
  · rename_i already
    split
    · rename_i same
      rw [same, already]
    · rfl
  · exact lookup_setLabel labels key value other
theorem lookup_managementLabels (who : Identity) (labels : StringMap) (key : String) :
    (managementLabels who labels).lookup key =
      if key = instrumentedByLabel then some who.operatorName
      else if key = managedByLabel then some (expectedManagedBy who) else labels.lookup key := by
  rw [managementLabels, lookup_checkLabel, lookup_checkLabel]
theorem not_needsUpdate (who : Identity) (labels : StringMap) : needsUpdate who (managementLabels who labels) = false := by
  simp [needsUpdate, lookup_managementLabels, managedByLabel, instrumentedByLabel]

/-! ### The status -/

/-- `meta.FindStatusCondition` -/
def findStatusCondition (conditions : List Condition) (conditionType : String) : Option Condition :=
  conditions.find? (·.type = conditionType)
/-- A condition that is there takes over everything of the new one; the time of
    its last transition stays while the status does. -/
def merged (new existing : Condition) : Condition :=
  { existing with
    status := new.status
    lastTransitionTime := if existing.status ≠ new.status then new.lastTransitionTime else existing.lastTransitionTime
    reason := new.reason
    message := new.message
    observedGeneration := new.observedGeneration }
/-- `meta.SetStatusCondition` -/
def setStatusCondition (conditions : List Condition) (new : Condition) : List Condition :=
  match findStatusCondition conditions new.type with
  | none => conditions ++ [new]
  | some _ => updateFirst (·.type = new.type) (merged new) conditions

def readyCondition (generation : Nat) (result : ValidationResult) (now : Nat) : Condition :=
  if result.valid then
    { type := "Ready", lastTransitionTime := now, observedGeneration := generation
      status := .isTrue
      reason := "ValidationPassed"
      message :=
        if result.warnings.length > 0 then
          "AutoInstrumentation is valid with " ++ toString result.warnings.length ++ " warnings"
        else "AutoInstrumentation is valid and ready" }
  else
    { type := "Ready", lastTransitionTime := now, observedGeneration := generation
      status := .isFalse
      reason := "ValidationFailed"
      message := "Validation failed with " ++ toString result.errors.length ++ " errors" }
/-- The status that `updateStatus` sends. -/
def statusOf (config : Resource) (result : ValidationResult) (now : Nat) : AutoInstrumentationStatus :=
  { config.status with
    lastProcessed := some now
    validationErrors := result.errors
    conditions := setStatusCondition config.status.conditions (readyCondition config.generation result now) }

/-! ### The reconcilers -/

/-- What `Reconcile` returns: the seconds after which it asks to run again, 0 for not at all, and whether there is an error. -/
structure Result where
  requeueAfter : Nat
  failed : Bool
  deriving DecidableEq

/-- The call to the API server that a reconciler makes next. -/
inductive Stage
  | fetching (last : Option Result)
  | labelling (config : Versioned Resource)
  | refetching
  | reporting (config : Versioned Resource)
/-- How a call ends: without any effect, with an effect but without an answer,
    or with its answer; a read answers from the state `age` changes ago. -/
inductive Answer
  | failed
  | lost
  | served (age : Nat)
inductive Event (Worker : Type)
  | create (labels : StringMap) (spec : AutoInstrumentationSpec)
  | edit (labels : StringMap) (spec : AutoInstrumentationSpec)
  | delete
  | call (worker : Worker) (answer : Answer) (now : Nat)

structure World (Worker : Type) where
  store : Store Resource
  stage : Worker → Stage
def World.start (Worker : Type) : World Worker := { store := .empty, stage := fun _ => .fetching none }

section
variable [UrlParsing] {Worker : Type} [DecidableEq Worker] (identity : Worker → Identity)

def moved (world : World Worker) (worker : Worker) (stage : Stage) : World Worker :=
  { world with stage := Function.update world.stage worker stage }
def ended (world : World Worker) (worker : Worker) (requeueAfter : Nat) (failed : Bool) : World Worker :=
  moved world worker (.fetching (some { requeueAfter, failed }))
/-- A write ends well where it is accepted and the answer arrives; its effect is there without the answer too. -/
def writing (world : World Worker) (worker : Worker) (answer : Answer) (written : Option (Store Resource))
    (next : World Worker → World Worker) : World Worker :=
  match answer with
  | .failed => ended world worker 30 true
  | .lost => ended { world with store := written.getD world.store } worker 30 true
  | .served _ =>
    match written with
    | none => ended world worker 30 true
    | some store => next { world with store }

/-- One call of `Reconcile`, with what it computes up to the next one. -/
def call (world : World Worker) (worker : Worker) (answer : Answer) (now : Nat) : World Worker :=
  match world.stage worker with
  | .fetching _ =>
    match answer with
    | .served age =>
      match world.store.read age with
      | none => ended world worker 0 false
      | some config =>
        if needsUpdate (identity worker) config.value.labels then moved world worker (.labelling config)
        else moved world worker .refetching
    | _ => ended world worker 0 true
  | .labelling config =>
    writing world worker answer
      (world.store.write config.revision
        (updated (managementLabels (identity worker) config.value.labels) (sentSpec config.value.spec)))
      fun world => moved world worker .refetching
  | .refetching =>
    match answer with
    | .served age =>
      match world.store.read age with
      | none => ended world worker 30 true
      | some config => moved world worker (.reporting config)
    | _ => ended world worker 30 true
  | .reporting config =>
    let result := validate config.value.spec
    writing world worker answer (world.store.write config.revision (statusUpdated (statusOf config.value result now)))
      fun world => ended world worker (if result.valid then 0 else 300) false

/-- Creating what exists and changing what does not are refused. The status of a new object is dropped. -/
def step (world : World Worker) : Event Worker → World Worker
  | .create labels spec =>
    match world.store.current with
    | some _ => world
    | none =>
      { world with store := world.store.put { uid := world.store.next, generation := 1, labels, spec, status := {} } }
  | .edit labels spec =>
    match world.store.current with
    | none => world
    | some v => { world with store := (world.store.write v.revision (updated labels spec)).getD world.store }
  | .delete =>
    match world.store.current with
    | none => world
    | some _ => { world with store := world.store.remove }
  | .call worker answer now => call identity world worker answer now

/-! ### What a call does to the store -/

/-- The version that a reconciler works on. -/
def Stage.config : Stage → Option (Versioned Resource)
  | .labelling config | .reporting config => some config
  | _ => none
/-- Every version that a reconciler works on has been in the store. -/
def Held (world : World Worker) : Prop :=
  ∀ worker config, (world.stage worker).config = some config → some config ∈ world.store.history

/-- What a call does to the store: nothing, or it writes labels or a status into the
    object that is there. -/
inductive Change (s : Store Resource) : Store Resource → Prop
  | nothing : Change s s
  | labels (v : Versioned Resource) (who : Identity) (now : s.current = some v) :
    Change s (s.put (updated (managementLabels who v.value.labels) (sentSpec v.value.spec) v.value))
  | status (v : Versioned Resource) (time : Nat) (now : s.current = some v) :
    Change s (s.put (statusUpdated (statusOf v.value (validate v.value.spec) time) v.value))

theorem Change.grows {s s' : Store Resource} (change : Change s s') : s.history <:+ s'.history := by
  cases change with
  | nothing => exact List.suffix_rfl
  | labels => exact List.suffix_cons _ _
  | status => exact List.suffix_cons _ _

/-- All that a call of a reconciler does: it goes on with a version that it has
    read, or it changes the store and has none. -/
inductive Moves (world : World Worker) (worker : Worker) : World Worker → Prop
  | reads (stage : Stage) (read : ∀ config, stage.config = some config → some config ∈ world.store.history) :
    Moves world worker (moved world worker stage)
  | writes (s : Store Resource) (stage : Stage) (change : Change world.store s) (done : stage.config = none) :
    Moves world worker (moved { world with store := s } worker stage)

theorem ended_moves (world : World Worker) (worker : Worker) (requeueAfter : Nat) (failed : Bool) :
    Moves world worker (ended world worker requeueAfter failed) := by
  refine .reads _ fun config holds => ?_
  cases holds
/-- A write of a held version is a change of what is there. -/
theorem writing_moves {world : World Worker} (worker : Worker) (answer : Answer) {v : Versioned Resource}
    (held : some v ∈ world.store.history) {change : Resource → Resource}
    (made : world.store.current = some v → Change world.store (world.store.put (change v.value))) {stage : Stage}
    (done : stage.config = none) :
    Moves world worker
      (writing world worker answer (world.store.write v.revision change) fun w => moved w worker stage) := by
  have changed {s : Store Resource} (written : world.store.write v.revision change = some s) : Change world.store s := by
    obtain ⟨now, rfl⟩ := (Store.write_held held change s).mp written
    unfold Store.replace
    split
    · exact .nothing
    · exact made now
  cases answer with
  | failed => exact ended_moves world worker 30 true
  | lost =>
    refine .writes _ _ ?_ rfl
    cases written : world.store.write v.revision change with
    | none => exact .nothing
    | some s => exact changed written
  | served age =>
    unfold writing
    cases written : world.store.write v.revision change with
    | none => exact ended_moves world worker 30 true
    | some s => exact .writes s stage (changed written) done

theorem call_moves {world : World Worker} (held : Held world) (worker : Worker) (answer : Answer) (now : Nat) :
    Moves world worker (call identity world worker answer now) := by
  unfold call
  cases stage : world.stage worker with
  | fetching last =>
    cases answer with
    | failed => exact ended_moves world worker 0 true
    | lost => exact ended_moves world worker 0 true
    | served age =>
      dsimp only
      cases found : world.store.read age with
      | none => exact ended_moves world worker 0 false
      | some seen =>
        dsimp only
        split
        · refine .reads _ fun config holds => ?_
          cases holds
          exact Store.read_mem found
        · refine .reads _ fun config holds => ?_
          cases holds
  | refetching =>
    cases answer with
    | failed => exact ended_moves world worker 30 true
    | lost => exact ended_moves world worker 30 true
    | served age =>
      dsimp only
      cases found : world.store.read age with
      | none => exact ended_moves world worker 30 true
      | some seen =>
        refine .reads _ fun config holds => ?_
        cases holds
        exact Store.read_mem found
  | labelling config =>
    have here := held worker config (by rw [stage]; rfl)
    exact writing_moves worker answer here (fun current => .labels config (identity worker) current) rfl
  | reporting config =>
    have here := held worker config (by rw [stage]; rfl)
    exact writing_moves worker answer here (fun current => .status config now current) rfl

theorem Moves.change {world w : World Worker} {worker : Worker} (moves : Moves world worker w) :
    Change world.store w.store := by
  cases moves with
  | reads => exact .nothing
  | writes s stage change done => exact change
theorem Moves.held {world w : World Worker} {worker : Worker} (held : Held world) (moves : Moves world worker w) : Held w := by
  intro other config holds
  refine moves.change.grows.mem ?_
  cases moves with
  | reads stage read =>
    by_cases own : other = worker
    · subst own
      exact read config (by simpa [moved] using holds)
    · exact held other config (by simpa [moved, own] using holds)
  | writes s stage change done =>
    by_cases own : other = worker
    · subst own
      simp [moved, done] at holds
    · exact held other config (by simpa [moved, own] using holds)

/-- What any event does to the store. -/
inductive Step (s : Store Resource) : Event Worker → Store Resource → Prop
  | created (labels : StringMap) (spec : AutoInstrumentationSpec) (absent : s.current = none) :
    Step s (.create labels spec) (s.put { uid := s.next, generation := 1, labels, spec, status := {} })
  | exists (labels : StringMap) (spec : AutoInstrumentationSpec) (v : Versioned Resource) (now : s.current = some v) :
    Step s (.create labels spec) s
  | edited (labels : StringMap) (spec : AutoInstrumentationSpec) (v : Versioned Resource) (now : s.current = some v)
    (other : updated labels spec v.value ≠ v.value) : Step s (.edit labels spec) (s.put (updated labels spec v.value))
  | unchanged (labels : StringMap) (spec : AutoInstrumentationSpec) (v : Versioned Resource) (now : s.current = some v)
    (same : updated labels spec v.value = v.value) : Step s (.edit labels spec) s
  | missing (labels : StringMap) (spec : AutoInstrumentationSpec) (absent : s.current = none) : Step s (.edit labels spec) s
  | deleted (v : Versioned Resource) (now : s.current = some v) : Step s .delete s.remove
  | gone (absent : s.current = none) : Step s .delete s
  | called (worker : Worker) (answer : Answer) (time : Nat) (s' : Store Resource) (change : Change s s') :
    Step s (.call worker answer time) s'

theorem step_cases {world : World Worker} (held : Held world) (event : Event Worker) :
    Step world.store event (step identity world event).store := by
  cases event with
  | create labels spec =>
    unfold step
    cases now : world.store.current with
    | none => exact .created labels spec now
    | some v => exact .exists labels spec v now
  | edit labels spec =>
    unfold step
    cases now : world.store.current with
    | none => exact .missing labels spec now
    | some v =>
      dsimp only
      rw [Store.write_current now, Option.getD_some, Store.replace]
      split
      · rename_i same
        exact .unchanged labels spec v now same
      · rename_i other
        exact .edited labels spec v now other
  | delete =>
    unfold step
    cases now : world.store.current with
    | none => exact .gone now
    | some v => exact .deleted v now
  | call worker answer time => exact .called worker answer time _ (call_moves identity held worker answer time).change

omit [DecidableEq Worker] in
theorem Step.grows {s s' : Store Resource} {event : Event Worker} (happens : Step s event s') : s.history <:+ s'.history := by
  cases happens with
  | created | edited | deleted => exact List.suffix_cons _ _
  | «exists» | unchanged | missing | gone => exact List.suffix_rfl
  | called worker answer time s' change => exact change.grows

theorem step_held {world : World Worker} (held : Held world) (event : Event Worker) : Held (step identity world event) := by
  have grows := (step_cases identity held event).grows
  cases event with
  | call worker answer time => exact (call_moves identity held worker answer time).held held
  | create labels spec =>
    have same : (step identity world (.create labels spec)).stage = world.stage := by
      unfold step
      cases world.store.current <;> rfl
    exact fun worker config holds => grows.mem (held worker config (same ▸ holds))
  | edit labels spec =>
    have same : (step identity world (.edit labels spec)).stage = world.stage := by
      unfold step
      cases world.store.current <;> rfl
    exact fun worker config holds => grows.mem (held worker config (same ▸ holds))
  | delete =>
    have same : (step identity world (.delete : Event Worker)).stage = world.stage := by
      unfold step
      cases world.store.current <;> rfl
    exact fun worker config holds => grows.mem (held worker config (same ▸ holds))

def run (events : List (Event Worker)) : World Worker := Runs.run (step identity) (.start Worker) events

theorem run_concat (before : List (Event Worker)) (event : Event Worker) :
    run identity (before ++ [event]) = step identity (run identity before) event :=
  Runs.run_concat ..
theorem run_held (events : List (Event Worker)) : Held (run identity events) := by
  refine @Runs.run_keeps _ _ (step identity) (.start Worker) Held ?_ (fun _ event held => step_held identity held event) events
  intro worker config holds
  cases holds

end

end Openlit.Reconciles
