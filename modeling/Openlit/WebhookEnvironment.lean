import Openlit.InjectorFrame
import Openlit.WebhookSelection

/-!
The environment that a resource asks for (`spec.python.instrumentation.env`).
The parser passes the list over, and the injector does not look at the
variables of its configuration. An entry is therefore in an instrumented
container only where it was there before or where the operator sets the very
same variable on its own account (`env_arrives_iff`).
-/
namespace Openlit.WebhookEnvironment
open Openlit.Text Openlit.Values Openlit.Pods Openlit.Injector Openlit.InjectorFrame Openlit.Manifests Openlit.Sorting
  Openlit.Webhook Openlit.WebhookSelection

/-- `spec.python.instrumentation`, with the defaults of a block that is not written. -/
def pythonSettings (r : Stored) : InstrumentationSettings := (r.spec.python.bind (·.instrumentation)).getD {}
/-- The entries that the resource asks for. -/
def requested (r : Stored) : List Manifests.EnvVar := (pythonSettings r).env

/-- Every entry of the resource is in the environment of every container that a pod was changed in. -/
def EnvArrives (r : Stored) (before after : Pod) : Prop :=
  ∀ (i : Nat) (container instrumented : Container), before.spec.containers[i]? = some container →
    after.spec.containers[i]? = some instrumented → instrumented ≠ container →
      ∀ entry ∈ requested r, toEnvVar entry ∈ instrumented.env

/-! ### What the operator sets on its own account -/

/-- The attributes of the telemetry of a container. -/
def resourceAttributes (r : Stored) (container : Container) (pod : Pod) : List String :=
  ["service.name=" ++ generateServiceName container pod, "service.namespace=" ++ generateServiceNamespace pod,
    "deployment.environment=" ++ (present (r.spec.resource.map (·.environment))).getD "kubernetes"] ++
  (if generateServiceVersion pod ≠ "" then ["service.version=" ++ generateServiceVersion pod] else []) ++
  (if pod.metadata.name ≠ "" then ["service.instance.id=" ++ generateServiceInstanceId container pod] else [])
/-- The names and values that an instrumented container gets in any case. -/
def operatorVariables (r : Stored) (container : Container) (pod : Pod) : List (String × String) :=
  let existing := ((container.env.find? (·.name = "PYTHONPATH")).map (·.value)).getD ""
  [("PYTHONPATH", if existing ≠ "" then "/instrumentation-packages" ++ ":" ++ existing else "/instrumentation-packages"),
    ("OTEL_EXPORTER_OTLP_ENDPOINT", r.spec.otlp.endpoint),
    ("OTEL_EXPORTER_OTLP_HEADERS", r.spec.otlp.headers),
    ("OTEL_SERVICE_NAME", generateServiceName container pod),
    ("OTEL_SERVICE_NAMESPACE", generateServiceNamespace pod),
    ("OTEL_DEPLOYMENT_ENVIRONMENT", (present (r.spec.resource.map (·.environment))).getD "kubernetes"),
    ("OTEL_RESOURCE_ATTRIBUTES", String.intercalate "," (resourceAttributes r container pod)),
    ("OTEL_SERVICE_VERSION", generateServiceVersion pod),
    ("OTEL_INSTRUMENTATION_GENAI_CAPTURE_MESSAGE_CONTENT", "true")] ++
  (if pod.metadata.name ≠ "" ∧ generateServiceInstanceId container pod ≠ "" then
    [("OTEL_SERVICE_INSTANCE_ID", generateServiceInstanceId container pod)] else []) ++
  [("OPENLIT_DETAILED_TRACING", "true")] ++
  (if (pythonSettings r).customPackages ≠ "" then [("CUSTOM_PACKAGES", (pythonSettings r).customPackages)] else [])

/-- Every entry is in every container that is to be instrumented already, or is one of the operator's own. -/
def Provided [CaseFolding] (r : Stored) (pod : Pod) : Prop :=
  validateSecurityContext pod = none →
    ∀ container ∈ pod.spec.containers, shouldInstrumentContainer container pod = true →
      (∀ mount ∈ container.volumeMounts, mount.name ≠ "instrumentation-packages") →
        ∀ entry ∈ requested r, toEnvVar entry ∈ container.env ∨
          entry.valueFrom = none ∧ (entry.name, entry.value) ∈ operatorVariables r container pod

/-! ### The configuration of a resource -/

/-- The injector configuration that is made of a stored resource. -/
structure ConfigOf (r : Stored) (cfg : InjectorConfig) : Prop where
  endpoint : cfg.otlpEndpoint = r.spec.otlp.endpoint
  headers : cfg.otlpHeaders = r.spec.otlp.headers
  environment : cfg.environment = (r.spec.resource.map (·.environment)).getD ""
  volumeName : cfg.sharedVolumeName = "instrumentation-packages"
  volumePath : cfg.sharedVolumePath = "/instrumentation-packages"
  packages : cfg.customPackages = (pythonSettings r).customPackages
  capture : cfg.captureMessageContent = true
  tracing : cfg.detailedTracing = true
  image : getInitContainerImage cfg ≠ ""

theorem getProviderImage_ne (provider : String) : getProviderImage provider ≠ "" := by
  unfold getProviderImage
  split
  · decide
  split
  · decide
  split <;> decide

theorem createInjectorConfig_parsed {r : Stored} {cfg : InjectorConfig} [TimeParsing]
    (made : createInjectorConfig (parsed r) = .ok cfg) : ConfigOf r cfg := by
  cases python : r.spec.python with
  | none =>
    rw [createInjectorConfig, settings_absent r python] at made
    cases made
  | some p =>
    have read : settings (parsed r) = .ok { p.instrumentation.getD {} with env := [] } := by
      simp [settings, parsed, python, dereferenced, parsedPython]
      rfl
    have same : pythonSettings r = p.instrumentation.getD {} := by simp [pythonSettings, python]
    rw [createInjectorConfig, read] at made
    obtain rfl := Except.ok.inj made
    refine ⟨rfl, rfl, rfl, rfl, rfl, by rw [same], rfl, rfl, ?_⟩
    by_cases custom : (p.instrumentation.getD {}).customInitImage = ""
    · simp [getInitContainerImage, custom, getProviderImage_ne]
    · simp [getInitContainerImage, custom]

theorem initContainer_name_ne (cfg : InjectorConfig) : (initContainer cfg).name ≠ "" := by
  show getContainerName cfg ≠ ""
  unfold getContainerName
  split
  · decide
  · intro empty
    have long := congrArg String.length empty
    rw [String.length_append] at long
    have start : "auto-instrumentation-".length = 21 := by decide
    rw [start] at long
    have none_ : "".length = 0 := by decide
    omega

/-- The environment that is built is the operator's, whatever the resource asks for. -/
theorem buildEnvironment_operator {r : Stored} {cfg : InjectorConfig} (config : ConfigOf r cfg) (container : Container)
    (pod : Pod) :
    buildEnvironmentVariables cfg (withSharedMount cfg container) pod =
      (operatorVariables r container pod).map fun entry => { name := entry.1, value := entry.2 } := by
  have deployment : (if cfg.environment = "" then "kubernetes" else cfg.environment) =
      (present (r.spec.resource.map (·.environment))).getD "kubernetes" := by
    rw [config.environment]
    cases r.spec.resource with
    | none => rfl
    | some block =>
      by_cases empty : block.environment = "" <;> simp [present, Option.filter, empty]
  have path : getSharedVolumePath cfg = "/instrumentation-packages" := by
    simp [getSharedVolumePath, config.volumePath]
  have name : generateServiceName (withSharedMount cfg container) pod = generateServiceName container pod := rfl
  have instanceId : generateServiceInstanceId (withSharedMount cfg container) pod =
      generateServiceInstanceId container pod := rfl
  have env : (withSharedMount cfg container).env = container.env := rfl
  unfold buildEnvironmentVariables operatorVariables resourceAttributes
  rw [deployment, path, config.endpoint, config.headers, config.packages, config.capture, config.tracing, name,
    instanceId, env, if_pos rfl, if_pos rfl, List.map_append, List.map_append, List.map_append,
    apply_ite (List.map _), apply_ite (List.map _)]
  by_cases named : pod.metadata.name ≠ ""
  · simp only [if_pos named]
    rfl
  · have unnamed {α : Type} (text : String) (a b : α) : (if pod.metadata.name ≠ "" ∧ text ≠ "" then a else b) = b :=
      if_neg fun both => named both.1
    simp only [if_neg named]
    rw [unnamed, unnamed]
    rfl

theorem mem_buildEnvironment {r : Stored} {cfg : InjectorConfig} (config : ConfigOf r cfg) (container : Container)
    (pod : Pod) (entry : Manifests.EnvVar) :
    toEnvVar entry ∈ buildEnvironmentVariables cfg (withSharedMount cfg container) pod ↔
      entry.valueFrom = none ∧ (entry.name, entry.value) ∈ operatorVariables r container pod := by
  rw [buildEnvironment_operator config, List.mem_map]
  constructor
  · rintro ⟨⟨name, value⟩, member, same⟩
    rw [toEnvVar, Pods.EnvVar.mk.injEq] at same
    obtain ⟨rfl, rfl, literal⟩ := same
    exact ⟨Option.map_eq_none_iff.mp literal.symm, member⟩
  · rintro ⟨literal, member⟩
    exact ⟨_, member, by simp [toEnvVar, literal]⟩

/-! ### When the entries arrive -/

section
variable [CaseFolding]

/-- A container is changed by an injection exactly if it is instrumented. -/
theorem injected_ne_iff (cfg : InjectorConfig) (pod : Pod) (container : Container) :
    injected cfg pod container ≠ container ↔ instrumentable cfg pod container = true := by
  by_cases changes : instrumentable cfg pod container = true
  · have longer : (instrument cfg pod container).volumeMounts ≠ container.volumeMounts := by
      simp [instrument, withSharedMount]
    rw [injected, if_pos changes]
    refine iff_of_true ?_ changes
    intro same
    exact longer (congrArg Container.volumeMounts same)
  · simp [injected, changes]
theorem instrumentable_iff {r : Stored} {cfg : InjectorConfig} (config : ConfigOf r cfg) (pod : Pod)
    (container : Container) :
    instrumentable cfg pod container = true ↔ shouldInstrumentContainer container pod = true ∧
      ∀ mount ∈ container.volumeMounts, mount.name ≠ "instrumentation-packages" := by
  have volume : getSharedVolumeName cfg = "instrumentation-packages" := by
    simp [getSharedVolumeName, config.volumeName]
  simp [instrumentable, mountsShared, volume]

/-- The entries of an injected resource arrive exactly if they were there or are the operator's own. -/
theorem injected_arrives_iff {r : Stored} {cfg : InjectorConfig} (config : ConfigOf r cfg) (pod : Pod) :
    EnvArrives r pod (injectOpenLIT cfg pod).2 ↔ Provided r pod := by
  have succeeds := injectOpenLIT_ok_iff (initContainer_name_ne cfg) config.image pod
  by_cases ok : (injectOpenLIT cfg pod).1 = none
  · have left := (injectOpenLIT_success ok).1
    rw [left]
    constructor
    · intro arrives _ container member selected free entry asked
      obtain ⟨i, found⟩ := List.mem_iff_getElem?.mp member
      have changes := (instrumentable_iff config pod container).mpr ⟨selected, free⟩
      have after : (injectedPod cfg pod).spec.containers[i]? = some (injected cfg pod container) := by
        simp [injectedPod, found]
      have there := arrives i container _ found after ((injected_ne_iff cfg pod container).mpr changes) entry asked
      rw [injected, if_pos changes] at there
      rcases List.mem_append.mp there with before | built
      · exact .inl before
      · exact .inr ((mem_buildEnvironment config container pod entry).mp built)
    · intro provided i container instrumented found after changed entry asked
      have same : injected cfg pod container = instrumented := by
        simpa [injectedPod, found] using after
      rw [← same] at changed ⊢
      have changes := (injected_ne_iff cfg pod container).mp changed
      obtain ⟨selected, free⟩ := (instrumentable_iff config pod container).mp changes
      rw [injected, if_pos changes]
      apply List.mem_append.mpr
      rcases provided (succeeds.mp ok).1 container (List.mem_of_getElem? found) selected free entry asked with
        before | own
      · exact .inl before
      · exact .inr ((mem_buildEnvironment config container pod entry).mpr own)
  · rw [injectOpenLIT_restores cfg pod ok]
    refine iff_of_true ?_ ?_
    · intro i container instrumented found after changed
      rw [found] at after
      exact absurd (Option.some.inj after).symm changed
    · intro security container member selected free
      have changes := (instrumentable_iff config pod container).mpr ⟨selected, free⟩
      exact absurd (succeeds.mpr ⟨security, container, member, changes⟩) ok

variable [TimeParsing]

theorem handle_patched {sort : CreationSort} {cluster : Cluster} {req : Request} {instrConfig : AutoInstrumentation}
    {pod : Pod} (patched : handle sort cluster req = .ok (.patched instrConfig pod)) :
    ∃ cfg, createInjectorConfig instrConfig = .ok cfg ∧ pod = (injectOpenLIT cfg req.pod).2 := by
  cases found : findMatchingAutoInstrumentation sort cluster req.pod with
  | error crash => simp [handle, found, Bind.bind, Except.bind] at patched
  | ok chosen =>
    cases chosen with
    | none => simp [handle, found, Bind.bind, Except.bind, Pure.pure, Except.pure] at patched
    | some instr =>
      cases made : createInjectorConfig instr with
      | error crash => simp [handle, found, made, Bind.bind, Except.bind] at patched
      | ok cfg =>
        simp only [handle, found, made, Bind.bind, Except.bind, Pure.pure, Except.pure, Except.ok.injEq,
          Response.patched.injEq] at patched
        obtain ⟨rfl, rfl⟩ := patched
        exact ⟨cfg, made, rfl⟩

/-- The environment that the chosen resource asks for arrives in the
    instrumented containers exactly if it was there already or the operator sets
    the same variables by itself. -/
theorem env_arrives_iff (sort : CreationSort) (cluster : Cluster) (req : Request) (r : Stored) (pod : Pod)
    (patched : handle sort cluster req = .ok (.patched (parsed r) pod)) :
    EnvArrives r req.pod pod ↔ Provided r req.pod := by
  obtain ⟨cfg, made, rfl⟩ := handle_patched patched
  exact injected_arrives_iff (createInjectorConfig_parsed made) req.pod

end

/-! ### A variable of the user -/

/-- A resource that points the application to another model endpoint. -/
def endpointSettings : InstrumentationSettings :=
  { provider := "openlit", env := [{ name := "OPENAI_BASE_URL", value := "http://models:8000" }] }
def endpointResource : Stored := sampleResource { python := some { instrumentation := some endpointSettings } }
def endpointCluster : Cluster := { resources := [endpointResource], keys := List.nodup_singleton _ }

/-- The pod is patched and its container instrumented, without the variable. -/
theorem endpoint_patched :
    ∃ pod, @handle noTime asciiFolding (stableSort _) endpointCluster sampleRequest =
        .ok (.patched (@parsed noTime endpointResource) pod) ∧
      (pod.spec.containers.map fun container => container.env.all (·.name ≠ "OPENAI_BASE_URL")) = [true] ∧
      (pod.spec.containers.map (·.volumeMounts.length)) = [1] := by
  refine ⟨_, rfl, ?_, ?_⟩ <;> decide +kernel

theorem env_arrives_endpoint :
    ∃ pod, @handle noTime asciiFolding (stableSort _) endpointCluster sampleRequest =
        .ok (.patched (@parsed noTime endpointResource) pod) ∧
      (EnvArrives endpointResource sampleRequest.pod pod ↔ @Provided asciiFolding endpointResource sampleRequest.pod) := by
  obtain ⟨pod, patched, -⟩ := endpoint_patched
  exact ⟨pod, patched,
    @env_arrives_iff asciiFolding noTime (stableSort _) endpointCluster sampleRequest endpointResource pod patched⟩

/-- The user's variable does not arrive in the container that is instrumented. -/
theorem requested_variable_missing :
    ¬ ∀ [TimeParsing] [CaseFolding] (sort : CreationSort) (cluster : Cluster) (req : Request) (r : Stored) (pod : Pod),
        r ∈ cluster.resources → handle sort cluster req = .ok (.patched (parsed r) pod) → EnvArrives r req.pod pod := by
  intro all
  obtain ⟨pod, patched, absent, mounted⟩ := endpoint_patched
  have arrives := @all noTime asciiFolding (stableSort _) endpointCluster sampleRequest endpointResource pod
    (List.mem_singleton_self _) patched
  obtain ⟨instrumented, only⟩ : ∃ instrumented, pod.spec.containers = [instrumented] := by
    apply List.length_eq_one_iff.mp
    simpa using congrArg List.length mounted
  rw [only] at absent mounted
  have changed : instrumented ≠ { name := "app", image := "python:3.12" } := by
    rintro rfl
    simp at mounted
  have there := arrives 0 _ instrumented rfl (by rw [only]; rfl) changed
    { name := "OPENAI_BASE_URL", value := "http://models:8000" } (List.mem_singleton_self _)
  have none_ : ∀ entry ∈ instrumented.env, entry.name ≠ "OPENAI_BASE_URL" := by simpa using absent
  exact none_ _ there rfl

end Openlit.WebhookEnvironment
