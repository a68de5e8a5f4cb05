import Openlit.Webhook

/-!
Which resource the webhook uses for a pod. A stored resource survives the
untyped object only in part (`parsed`): its ignore block and its
`matchExpressions` are gone. The selection is therefore right exactly where the
lost parts, the switch `enabled` and the labels that read as empty would not
have changed it, and defined exactly where every match has a Python block.
-/
namespace Openlit.WebhookSelection
open Openlit.Text Openlit.Values Openlit.Pods Openlit.Injector Openlit.Manifests Openlit.Sorting Openlit.Webhook

/-! ### What survives the untyped object -/

theorem parseLabels_object (labels : StringMap) :
    parseLabels (labels.map fun entry => (entry.1, .str entry.2)) = .ok labels := by
  induction labels with
  | nil => rfl
  | cons entry rest ih =>
    unfold parseLabels at ih ⊢
    rw [List.map_cons, List.mapM_cons, ih]
    rfl
theorem parseMatchLabels_object (s : AutoInstrumentationSpec) :
    parseMatchLabels (specObject s) = .ok s.selector.matchLabels := by
  have block : (asMap (Values.get (specObject s) "selector")).bind (fun data => asMap (Values.get data "matchLabels")) =
      s.selector.matchLabels.map fun labels => labels.map fun entry => (entry.1, .str entry.2) := by
    cases labels : s.selector.matchLabels <;>
      simp [specObject, selectorObject, labelsObject, asMap, Values.get, List.lookup_append, labels]
  rw [parseMatchLabels, block]
  cases s.selector.matchLabels with
  | none => rfl
  | some labels =>
    show some <$> parseLabels _ = _
    rw [parseLabels_object]
    rfl

/-- The settings that the parser makes of a Python block: none of the environment, and defaults for a missing block. -/
def parsedPython (p : PythonInstrumentation) : PythonInstrumentation :=
  { instrumentation := some { p.instrumentation.getD {} with env := [] } }
theorem parsePython_object (p : PythonInstrumentation) :
    (asMap (pythonObject p)).map parsePython = some (parsedPython p) := by
  cases block : p.instrumentation with
  | none => simp [pythonObject, asMap, parsePython, parsedPython, Values.get, block]
  | some s =>
    simp [pythonObject, instrumentationObject, asMap, parsePython, parsedPython, parseInstrumentation, textOf,
      Values.get, List.lookup_append, block]
theorem parseOTLP_object (o : OTLPConfig) :
    (asMap (otlpObject o)).map parseOTLP = some { o with timeout := none } := by
  have whole : asFloat ((o.timeout.map Value.int).getD .null) = none := by
    cases o.timeout <;> rfl
  simp [otlpObject, asMap, parseOTLP, textOf, Values.get, List.lookup_append, lookup_entry, whole]
  rfl
theorem parseResource_object (r : ResourceConfig) : (asMap (resourceObject r)).map parseResource = some r := by
  simp [resourceObject, asMap, parseResource, textOf, Values.get]

/-! ### The oldest match -/

theorem selectConfig_eq_none (sort : CreationSort) (configs : List AutoInstrumentation) :
    selectConfig sort configs = none ↔ configs = [] := by
  unfold selectConfig
  split
  · rw [List.head?_eq_none_iff]
    constructor
    · intro empty
      exact List.Perm.eq_nil ((sort.perm configs).symm.trans (empty ▸ List.Perm.refl _))
    · rintro rfl
      exact List.Perm.eq_nil (sort.perm [])
  · exact List.head?_eq_none_iff
/-- The chosen resource is one of the oldest. -/
theorem selectConfig_least {sort : CreationSort} {configs : List AutoInstrumentation} {cfg : AutoInstrumentation}
    (chosen : selectConfig sort configs = some cfg) : Least AutoInstrumentation.creationTimestamp configs cfg := by
  unfold selectConfig at chosen
  by_cases several : configs.length > 1
  · rw [if_pos several] at chosen
    exact sort_head_least sort chosen
  · rw [if_neg several] at chosen
    obtain ⟨rest, rfl⟩ := List.head?_eq_some_iff.mp chosen
    have alone : rest = [] := List.length_eq_zero_iff.mp (by simpa using several)
    subst alone
    exact ⟨List.mem_singleton_self _, fun b member => le_of_eq (by rw [List.mem_singleton.mp member])⟩
/-- Among several oldest resources any may be chosen. -/
theorem exists_selectConfig {configs : List AutoInstrumentation} {cfg : AutoInstrumentation}
    (least : Least AutoInstrumentation.creationTimestamp configs cfg) :
    ∃ sort : CreationSort, selectConfig sort configs = some cfg := by
  by_cases several : configs.length > 1
  · obtain ⟨sort, first⟩ := exists_sort_head least
    exact ⟨sort, by rw [selectConfig, if_pos several, first]⟩
  · refine ⟨stableSort _, ?_⟩
    rw [selectConfig, if_neg several]
    obtain ⟨before, after, split⟩ := List.append_of_mem least.1
    have short := congrArg List.length split
    simp only [List.length_append, List.length_cons] at short
    obtain rfl : before = [] := List.length_eq_zero_iff.mp (by omega)
    rw [split]
    rfl

section
variable [TimeParsing]

/-! ### The resource after parsing -/

def created (r : Stored) : Int := creationTime (some r.createdAt)
/-- What the parser makes of a stored resource. -/
def parsed (r : Stored) : AutoInstrumentation :=
  { name := r.name
    nameSpace := r.nameSpace
    creationTimestamp := created r
    spec :=
      { selector := { matchLabels := r.spec.selector.matchLabels }
        python := r.spec.python.map parsedPython
        otlp := { r.spec.otlp with timeout := none }
        resource := r.spec.resource } }

/-- No assertion of the parser fails on a stored resource. -/
theorem parse_stored (r : Stored) : parseAutoInstrumentation (toUnstructured r) = .ok (parsed r) := by
  have python : (asMap (Values.get (specObject r.spec) "python")).map parsePython = r.spec.python.map parsedPython := by
    cases block : r.spec.python with
    | none => simp [specObject, Values.get, List.lookup_append, lookup_entry, block, asMap]
    | some p => simpa [specObject, Values.get, List.lookup_append, lookup_entry, block] using parsePython_object p
  have otlp : (asMap (Values.get (specObject r.spec) "otlp")).map parseOTLP = some { r.spec.otlp with timeout := none } := by
    simpa [specObject, Values.get, List.lookup_append, lookup_entry] using parseOTLP_object r.spec.otlp
  have resource : (asMap (Values.get (specObject r.spec) "resource")).map parseResource = r.spec.resource := by
    cases block : r.spec.resource with
    | none => simp [specObject, Values.get, List.lookup_append, lookup_entry, block, asMap]
    | some p => simpa [specObject, Values.get, List.lookup_append, lookup_entry, block] using parseResource_object p
  show (do
    let matchLabels ← parseMatchLabels (specObject r.spec)
    pure _ : Except Crash AutoInstrumentation) = _
  rw [parseMatchLabels_object, python, otlp, resource]
  rfl

/-! ### The matching loop -/

/-- The labels of a pod match a stored resource as the webhook sees it. -/
def labelMatches (pod : Pod) (r : Stored) : Bool := r.spec.selector.matchLabels.any (podMatchesSelector pod)

theorem settings_parsed (r : Stored) (python : r.spec.python.isSome) :
    ∃ s, settings (parsed r) = .ok s := by
  obtain ⟨p, found⟩ := Option.isSome_iff_exists.mp python
  exact ⟨_, by simp [settings, parsed, found, dereferenced, parsedPython]; rfl⟩
theorem settings_absent (r : Stored) (absent : r.spec.python = none) :
    settings (parsed r) = .error .nilDereference := by
  simp [settings, parsed, absent, dereferenced]; rfl

/-- The loop collects every label match, unless one of them has no Python block. -/
theorem matchingConfigs_stored (pod : Pod) (rs : List Stored) :
    matchingConfigs pod (rs.map toUnstructured) =
      if (rs.filter (labelMatches pod)).all (·.spec.python.isSome) then
        .ok ((rs.filter (labelMatches pod)).map parsed)
      else .error .nilDereference := by
  induction rs with
  | nil => rfl
  | cons r rest ih =>
    have open_ : ¬ explicitlyIgnored pod (parsed r) := by simp [explicitlyIgnored, parsed]
    have same : matchesSelector pod (parsed r) = labelMatches pod r := rfl
    rw [List.map_cons, matchingConfigs, parse_stored, ih]
    by_cases found : labelMatches pod r
    · cases python : r.spec.python with
      | none =>
        simp [open_, same, found, python, settings_absent r python, Except.bind, Bind.bind]
      | some p =>
        obtain ⟨s, read⟩ := settings_parsed r (by simp [python])
        by_cases all : (rest.filter (labelMatches pod)).all (·.spec.python.isSome)
        · simp [open_, same, found, python, read, all, Except.bind, Bind.bind, Except.pure, Pure.pure]
        · simp [open_, same, found, python, read, all, Except.bind, Bind.bind]
    · simp [same, found, Except.bind, Bind.bind]

/-! ### The search -/

def candidates (cluster : Cluster) (pod : Pod) (nameSpace : String) : List Stored :=
  ((listing cluster nameSpace).getD []).filter (labelMatches pod)
/-- The label matches that the choice is made from: those that the listing for
    the pod's own namespace gives, or those of the operator's where it gives none. -/
def consulted (cluster : Cluster) (pod : Pod) : List Stored :=
  match candidates cluster pod pod.metadata.nameSpace with
  | [] => candidates cluster pod "openlit"
  | own => own

theorem matchingConfigs_listing (cluster : Cluster) (pod : Pod) (nameSpace : String) :
    matchingConfigs pod (((listing cluster nameSpace).getD []).map toUnstructured) =
      if (candidates cluster pod nameSpace).all (·.spec.python.isSome) then
        .ok ((candidates cluster pod nameSpace).map parsed)
      else .error .nilDereference :=
  matchingConfigs_stored pod _

/-- The search in closed form. -/
theorem findMatching_eq (sort : CreationSort) (cluster : Cluster) (pod : Pod) :
    findMatchingAutoInstrumentation sort cluster pod =
      if (consulted cluster pod).all (·.spec.python.isSome) then
        .ok (selectConfig sort ((consulted cluster pod).map parsed))
      else .error .nilDereference := by
  rw [findMatchingAutoInstrumentation, searchNamespaces, matchingConfigs_listing, searchNamespaces,
    matchingConfigs_listing, consulted]
  cases own : candidates cluster pod pod.metadata.nameSpace with
  | nil =>
    have nothing : selectConfig sort [] = none := (selectConfig_eq_none sort []).mpr rfl
    by_cases defined : (candidates cluster pod "openlit").all (·.spec.python.isSome)
    · cases chosen : selectConfig sort ((candidates cluster pod "openlit").map parsed) <;>
        simp only [List.all_nil, List.map_nil, ↓reduceIte, nothing, defined, chosen, searchNamespaces, Bind.bind,
          Except.bind] <;> rfl
    · simp [nothing, defined, Bind.bind, Except.bind]
  | cons r rest =>
    by_cases defined : (r :: rest).all (·.spec.python.isSome)
    · cases chosen : selectConfig sort ((r :: rest).map parsed) with
      | none => cases (selectConfig_eq_none sort _).mp chosen
      | some cfg => simp only [defined, ↓reduceIte, chosen, Bind.bind, Except.bind]; rfl
    · simp [defined, Bind.bind, Except.bind]

/-- What the choice comes to: nothing, or one of the oldest label matches. -/
theorem selectConfig_parsed {sort : CreationSort} {rs : List Stored} {cfg : AutoInstrumentation}
    (chosen : selectConfig sort (rs.map parsed) = some cfg) : ∃ r, cfg = parsed r ∧ Least created rs r := by
  obtain ⟨member, least⟩ := selectConfig_least chosen
  obtain ⟨r, inside, rfl⟩ := List.mem_map.mp member
  exact ⟨r, rfl, inside, fun other there => least _ (List.mem_map_of_mem there)⟩
theorem exists_selectConfig_parsed {rs : List Stored} {r : Stored} (least : Least created rs r) :
    ∃ sort : CreationSort, selectConfig sort (rs.map parsed) = some (parsed r) := by
  refine exists_selectConfig ⟨List.mem_map_of_mem least.1, fun cfg member => ?_⟩
  obtain ⟨other, there, rfl⟩ := List.mem_map.mp member
  exact least.2 other there

variable [CaseFolding]

/-- All that the handler can do: panic at a match without a Python block, allow
    the pod where nothing matches, or patch it for one of the oldest matches. -/
theorem handle_cases (sort : CreationSort) (cluster : Cluster) (req : Request) :
    (handle sort cluster req = .error .nilDereference ∧
      ∃ r ∈ consulted cluster req.pod, r.spec.python = none) ∨
    ((∀ r ∈ consulted cluster req.pod, r.spec.python.isSome) ∧
      ((handle sort cluster req = .ok .allowed ∧ consulted cluster req.pod = []) ∨
        ∃ r pod, selectConfig sort ((consulted cluster req.pod).map parsed) = some (parsed r) ∧
          Least created (consulted cluster req.pod) r ∧ handle sort cluster req = .ok (.patched (parsed r) pod))) := by
  have found := findMatching_eq sort cluster req.pod
  by_cases defined : (consulted cluster req.pod).all (·.spec.python.isSome)
  · have python := List.all_eq_true.mp defined
    rw [if_pos defined] at found
    refine .inr ⟨python, ?_⟩
    cases chosen : selectConfig sort ((consulted cluster req.pod).map parsed) with
    | none =>
      refine .inl ⟨?_, List.map_eq_nil_iff.mp ((selectConfig_eq_none sort _).mp chosen)⟩
      rw [handle, found, chosen]
      rfl
    | some cfg =>
      obtain ⟨r, rfl, least⟩ := selectConfig_parsed chosen
      obtain ⟨s, read⟩ := settings_parsed r (python r least.1)
      refine .inr ⟨r, ?_, rfl, least, ?_⟩
      rotate_left
      · rw [handle, found, chosen]
        simp only [Bind.bind, Except.bind, createInjectorConfig, read]
        rfl
  · rw [if_neg defined] at found
    refine .inl ⟨by rw [handle, found]; rfl, ?_⟩
    simpa using defined

/-- The way from the served objects to the injector configuration is defined
    exactly if every label match that is consulted has a Python block. -/
theorem handle_defined_iff (sort : CreationSort) (cluster : Cluster) (req : Request) :
    (∃ response, handle sort cluster req = .ok response) ↔
      ∀ r ∈ consulted cluster req.pod, r.spec.python.isSome := by
  rcases handle_cases sort cluster req with ⟨crashed, r, member, absent⟩ | ⟨python, ⟨allowed, -⟩ | ⟨r, pod, -, -, patched⟩⟩
  · constructor
    · rintro ⟨response, defined⟩
      cases crashed.symm.trans defined
    · intro python
      have present := python r member
      simp [absent] at present
  · exact ⟨fun _ => python, fun _ => ⟨_, allowed⟩⟩
  · exact ⟨fun _ => python, fun _ => ⟨_, patched⟩⟩

end

/-! ### A resource without a Python block -/

/-- Every URL parses and every time is unknown: neither matters to the samples. -/
@[reducible] def anyUrl : UrlParsing := ⟨fun _ => none⟩
@[reducible] def noTime : TimeParsing := ⟨fun _ => none⟩

/-- A resource that selects the pods of one application. -/
def sampleResource (spec : AutoInstrumentationSpec) : Stored :=
  { name := "chat", nameSpace := "apps", createdAt := "2024-05-01T10:00:00Z"
    spec := { spec with selector := { spec.selector with matchLabels := some [("app", "chat")] }
                        otlp := { endpoint := "http://collector:4318" } }
    named := by decide, namespaced := by decide }
def sampleCluster (spec : AutoInstrumentationSpec) : Cluster :=
  { resources := [sampleResource spec], keys := List.nodup_singleton _ }
/-- The creation of a pod of that application. -/
def sampleRequest : Request :=
  { nameSpace := "apps"
    pod :=
      { metadata := { name := "chat-0", nameSpace := "apps", labels := some [("app", "chat"), ("tier", "debug")] }
        spec := { containers := [{ name := "app", image := "python:3.12" }] } }
    namespaced := by decide, agrees := .inr rfl }

/-- The validating webhook accepts a resource without a Python block, and a pod that it selects makes the handler panic. -/
theorem accepted_resource_crashes :
    ¬ ∀ [UrlParsing] [TimeParsing] [CaseFolding] (sort : CreationSort) (cluster : Cluster) (req : Request),
        (∀ r ∈ cluster.resources, (validate r.spec).valid = true) →
        ∃ response, handle sort cluster req = .ok response := by
  intro all
  have accepted : ∀ r ∈ (sampleCluster {}).resources, (@validate anyUrl r.spec).valid = true := by
    intro r member
    rw [List.mem_singleton.mp member]
    decide
  obtain ⟨response, defined⟩ :=
    @all anyUrl noTime asciiFolding (stableSort _) (sampleCluster {}) sampleRequest accepted
  rcases @handle_cases noTime asciiFolding (stableSort _) (sampleCluster {}) sampleRequest with
    ⟨crashed, -⟩ | ⟨python, -⟩
  · cases crashed.symm.trans defined
  · exact absurd python (by decide)

end Openlit.WebhookSelection
