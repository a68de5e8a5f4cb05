import Openlit.Pods

/-!
The pod injector of the operator (`internal/injector`): the stages that add the
init container, the shared volume and the changes of the application
containers, and the recovery that runs when a stage fails. Logging is left out.
None of the stages can panic, so the `recover` blocks are not modelled.
-/
namespace Openlit.Injector
open Openlit.Text Openlit.Values Openlit.Pods

/-- `InjectorConfig`, made from an AutoInstrumentation resource. -/
structure InjectorConfig where
  provider : String
  otlpEndpoint : String
  otlpHeaders : String := ""
  environment : String := ""
  imagePullPolicy : PullPolicy := .ifNotPresent
  customPackages : String := ""
  customInitImage : String := ""
  initContainerImage : String := ""
  serviceName : String := ""
  serviceNamespace : String := ""
  captureMessageContent : Bool := false
  detailedTracing : Bool := false
  sharedVolumeName : String := ""
  sharedVolumePath : String := ""
  envVars : List EnvVar := []

/-- `InjectorConfig.Validate`: the first missing setting. -/
def validate (c : InjectorConfig) : Option String :=
  if c.provider = "" then some "provider is required"
  else if c.otlpEndpoint = "" then some "OTLP endpoint is required"
  else if c.initContainerImage = "" ∧ c.customInitImage = "" then
    some "either InitContainerImage or CustomInitImage must be specified"
  else none
def getInitContainerImage (c : InjectorConfig) : String :=
  if c.customInitImage ≠ "" then c.customInitImage else c.initContainerImage
def getContainerName (c : InjectorConfig) : String :=
  if c.provider = "" then "auto-instrumentation" else "auto-instrumentation-" ++ c.provider
def getSharedVolumeName (c : InjectorConfig) : String :=
  if c.sharedVolumeName ≠ "" then c.sharedVolumeName else "instrumentation-packages"
def getSharedVolumePath (c : InjectorConfig) : String :=
  if c.sharedVolumePath ≠ "" then c.sharedVolumePath else "/instrumentation-packages"

/-- `InjectionResult`: the bookkeeping that the recovery looks at. -/
structure InjectionResult where
  success : Bool := false
  instrumentedCount : Nat := 0
  totalContainers : Nat := 0
  partialFailure : Bool := false
  failedContainers : List String := []
  recoveryActions : List String := []
  error : Option String := none

/-- The pod under modification together with the bookkeeping. -/
structure Injection where
  pod : Pod
  result : InjectionResult

/-- The error of a stage, `none` for success, and what it leaves behind. -/
abbrev Outcome := Option String × Injection

def record (st : Injection) (action : String) : Injection :=
  { st with result := { st.result with recoveryActions := st.result.recoveryActions ++ [action] } }

/-! ### The environment of an instrumented container -/

/-- The name before the last dash. -/
def beforeLastDash (name : String) : Option String :=
  match name.toList.reverse.dropWhile (· ≠ '-') with
  | _ :: before => some (String.ofList before.reverse)
  | [] => none
/-- A ReplicaSet's name without the hash at its end, where it looks like one. -/
def deploymentOf (name : String) : String :=
  if name.utf8ByteSize > 10 then
    match beforeLastDash name with
    | some potentialDeployment =>
      if 0 < potentialDeployment.utf8ByteSize ∧ potentialDeployment.utf8ByteSize < name.utf8ByteSize - 8 then
        potentialDeployment
      else name
    | none => name
  else name
def hierarchyOrder : List (String × Nat) :=
  [("Deployment", 1), ("ReplicaSet", 2), ("StatefulSet", 3), ("DaemonSet", 4), ("CronJob", 5), ("Job", 6)]
/-- The best match so far and its priority, after one owner and one kind. -/
def considerOwner (owner : OwnerReference) (best : String × Nat) (hierarchy : String × Nat) : String × Nat :=
  if owner.kind = hierarchy.1 ∧ hierarchy.2 < best.2 then
    (if owner.kind = "ReplicaSet" then deploymentOf owner.name else owner.name, hierarchy.2)
  else best
def extractResourceNameFromOwnerReferences (pod : Pod) : String :=
  (pod.metadata.ownerReferences.foldl (fun best owner => hierarchyOrder.foldl (considerOwner owner) best)
    ("", 999)).1

def generateServiceName (container : Container) (pod : Pod) : String :=
  (present (annotationValue pod "resource.opentelemetry.io/service.name")
    <|> present (labelValue pod "app.kubernetes.io/instance")
    <|> present (labelValue pod "app.kubernetes.io/name")
    <|> present (some (extractResourceNameFromOwnerReferences pod))
    <|> present (some pod.metadata.name)
    <|> present (some container.name)).getD "openlit-instrumented-app"
def generateServiceNamespace (pod : Pod) : String :=
  (present (annotationValue pod "resource.opentelemetry.io/service.namespace")
    <|> present (some pod.metadata.nameSpace)).getD "default"
def generateServiceVersion (pod : Pod) : String :=
  (present (annotationValue pod "resource.opentelemetry.io/service.version")
    <|> present (labelValue pod "app.kubernetes.io/version")).getD ""
/-- A string without one trailing dash (`strings.TrimSuffix`). -/
def trimDash (s : String) : String :=
  if hasSuffix s "-" then String.ofList s.toList.dropLast else s
def generateServiceInstanceId (container : Container) (pod : Pod) : String :=
  match present (annotationValue pod "resource.opentelemetry.io/service.instance.id") with
  | some instanceId => instanceId
  | none =>
    let space := if pod.metadata.nameSpace = "" then "default" else pod.metadata.nameSpace
    let podName :=
      if pod.metadata.name ≠ "" then pod.metadata.name
      else if pod.metadata.generateName ≠ "" then trimDash pod.metadata.generateName ++ "-pending"
      else generateServiceName container pod ++ "-pod"
    let containerName := if container.name = "" then "unknown-container" else container.name
    space ++ "." ++ podName ++ "." ++ containerName

/-- The entries that instrumentation appends to a container's environment. -/
def buildEnvironmentVariables (cfg : InjectorConfig) (container : Container) (pod : Pod) : List EnvVar :=
  let serviceName := generateServiceName container pod
  let serviceNamespace := generateServiceNamespace pod
  let serviceVersion := generateServiceVersion pod
  let deploymentEnvironment := if cfg.environment = "" then "kubernetes" else cfg.environment
  let serviceInstanceId := if pod.metadata.name ≠ "" then generateServiceInstanceId container pod else ""
  let resourceAttrs :=
    ["service.name=" ++ serviceName, "service.namespace=" ++ serviceNamespace,
      "deployment.environment=" ++ deploymentEnvironment] ++
    (if serviceVersion ≠ "" then ["service.version=" ++ serviceVersion] else []) ++
    (if pod.metadata.name ≠ "" then ["service.instance.id=" ++ serviceInstanceId] else [])
  let existingPythonPath := ((container.env.find? (·.name = "PYTHONPATH")).map (·.value)).getD ""
  let volumePath := getSharedVolumePath cfg
  let pythonPathValue :=
    if existingPythonPath ≠ "" then volumePath ++ ":" ++ existingPythonPath else volumePath
  [{ name := "PYTHONPATH", value := pythonPathValue },
    { name := "OTEL_EXPORTER_OTLP_ENDPOINT", value := cfg.otlpEndpoint },
    { name := "OTEL_EXPORTER_OTLP_HEADERS", value := cfg.otlpHeaders },
    { name := "OTEL_SERVICE_NAME", value := serviceName },
    { name := "OTEL_SERVICE_NAMESPACE", value := serviceNamespace },
    { name := "OTEL_DEPLOYMENT_ENVIRONMENT", value := deploymentEnvironment },
    { name := "OTEL_RESOURCE_ATTRIBUTES", value := String.intercalate "," resourceAttrs },
    { name := "OTEL_SERVICE_VERSION", value := serviceVersion },
    { name := "OTEL_INSTRUMENTATION_GENAI_CAPTURE_MESSAGE_CONTENT",
      value := if cfg.captureMessageContent then "true" else "false" }] ++
  (if pod.metadata.name ≠ "" ∧ serviceInstanceId ≠ "" then
    [{ name := "OTEL_SERVICE_INSTANCE_ID", value := serviceInstanceId }] else []) ++
  (if cfg.detailedTracing then [{ name := "OPENLIT_DETAILED_TRACING", value := "true" }] else []) ++
  (if cfg.customPackages ≠ "" then [{ name := "CUSTOM_PACKAGES", value := cfg.customPackages }] else [])

/-! ### Which pods and containers are instrumented -/

def blocksWrites (container : Container) : Bool :=
  (container.securityContext.bind (·.readOnlyRootFilesystem)).getD false
/-- The error of `validateSecurityContext`; its warnings are only logged. -/
def validateSecurityContext (pod : Pod) : Option String :=
  match pod.spec.containers.find? blocksWrites with
  | some container =>
    some ("container " ++ container.name ++ " has readOnlyRootFilesystem=true which prevents instrumentation")
  | none =>
    if annotationValue pod "pod-security.kubernetes.io/enforce" = some "restricted" then
      some "pod enforces 'restricted' Pod Security Standard which may prevent instrumentation"
    else none

/-- The names in a comma-separated annotation. -/
def listed (names : String) : List String := (split names ',').map trimSpace
/-- The language that an annotation such as `app:python,sidecar:java` gives a container, or `""`. -/
def containerLanguage (languageMapping containerName : String) : String :=
  ((split languageMapping ',').findSome? fun mapping =>
    match split (trimSpace mapping) ':' with
    | [name, language] => if trimSpace name = containerName then some (trimSpace language) else none
    | _ => none).getD ""

def sidecarPatterns : List String :=
  ["istio-proxy", "linkerd-proxy", "envoy", "oauth2-proxy", "cloudsql-proxy", "kube-proxy", "fluentd",
    "fluent-bit", "filebeat", "prometheus", "grafana-agent", "jaeger-agent", "otel-collector", "vault-agent",
    "consul-connect"]
def initPatterns : List String := ["busybox", "alpine", "scratch", "k8s.gcr.io/pause", "registry.k8s.io/pause"]
def pythonImagePatterns : List String :=
  ["python", "pypy", "django", "flask", "fastapi", "uvicorn", "gunicorn", "celery", "jupyter", "anaconda",
    "miniconda"]
def pythonEnvVars : List String :=
  ["PYTHONPATH", "PYTHON_VERSION", "PIP_", "POETRY_", "CONDA_", "VIRTUAL_ENV", "DJANGO_SETTINGS_MODULE",
    "FLASK_APP", "FASTAPI_"]
def pythonArgPatterns : List String := ["python", "pip", "django", "flask", "gunicorn", "uvicorn"]

section
variable [CaseFolding]
open CaseFolding

def isPythonContainer (container : Container) : Bool :=
  pythonImagePatterns.any (contains (toLower container.image)) ||
  container.env.any (fun envVar => pythonEnvVars.any (hasPrefix envVar.name)) ||
  (container.command ++ container.args).any (fun arg => pythonArgPatterns.any (contains (toLower arg)))

/-- The selection of a container: the exclude, include and language annotations,
    then sidecars by name, utility images, and last what looks like Python. -/
def shouldInstrumentContainer (container : Container) (pod : Pod) : Bool :=
  if (annotationValue pod "openlit.io/exclude-containers").any (fun names => container.name ∈ listed names) then false
  else if (annotationValue pod "openlit.io/include-containers").any (fun names => container.name ∉ listed names) then
    false
  else if (annotationValue pod "openlit.io/container-languages").any (fun mapping =>
      containerLanguage mapping container.name ≠ "" ∧ containerLanguage mapping container.name ≠ "python") then
    false
  else if sidecarPatterns.any (contains (toLower container.name)) then false
  else if initPatterns.any (contains (toLower container.image)) then false
  else isPythonContainer container

/-! ### The stages -/

def generateInstallCommand (cfg : InjectorConfig) : String :=
  let provider := cfg.provider
  let volumePath := getSharedVolumePath cfg
  let base :=
    "\necho \"Setting up " ++ provider ++ " instrumentation...\"\nexport INSTRUMENTATION_PROVIDER=" ++ provider ++
    "\nexport TARGET_PATH=" ++ volumePath ++
    "\n\n# Copy pre-built base instrumentation using Python setup script\n" ++
    "python3 /usr/local/bin/setup-instrumentation.py"
  let custom :=
    if cfg.customPackages ≠ "" then
      ["\necho \"📦 Installing custom packages...\"",
        "\n# Install user-specified custom packages\necho \"Installing: " ++ cfg.customPackages ++
          "\"\npip install --target " ++ volumePath ++ " --no-deps " ++
          String.intercalate " " (split cfg.customPackages ','),
        "\necho \"✅ Custom packages installed!\""]
    else []
  let finalMessage :=
    if provider = "openlit" then
      "\necho \"" ++ provider ++ " instrumentation ready! Using openlit-instrument CLI\"\n" ++
      "echo \"Zero-code instrumentation via openlit-instrument CLI approach\"\n" ++
      "echo \"Auto-discovery and setup handled automatically\"\nls -la " ++ volumePath ++ "/ | head -10"
    else
      "\necho \"" ++ provider ++ " instrumentation ready!\"\n" ++
      "echo \"Zero-code instrumentation configured via Kubernetes CR\"\nls -la " ++ volumePath ++ "/ | head -10"
  String.intercalate "\n" ([base] ++ custom ++ [finalMessage])

def initContainer (cfg : InjectorConfig) : Container :=
  { name := getContainerName cfg
    image := getInitContainerImage cfg
    imagePullPolicy := some cfg.imagePullPolicy
    command := ["/bin/sh"]
    args := ["-c", generateInstallCommand cfg]
    volumeMounts := [{ name := getSharedVolumeName cfg, mountPath := getSharedVolumePath cfg }]
    env := [{ name := "INSTRUMENTATION_PROVIDER", value := cfg.provider }]
    resources :=
      { limits := [("cpu", "200m"), ("memory", "256Mi")], requests := [("cpu", "100m"), ("memory", "128Mi")] } }

def addInitContainerWithRecovery (cfg : InjectorConfig) (st : Injection) : Outcome :=
  let added := initContainer cfg
  if added.name = "" then (some "init container name is empty", st)
  else if added.image = "" then (some "init container image is empty", st)
  else
    let original := st.pod.spec.initContainers
    let st := { st with pod := { st.pod with spec := { st.pod.spec with initContainers := original ++ [added] } } }
    if st.pod.spec.initContainers.length ≠ original.length + 1 then
      (some ("init container addition failed - expected " ++ toString (original.length + 1) ++
        " containers, got " ++ toString st.pod.spec.initContainers.length), st)
    else (none, record st "added_init_container")

def sharedVolume (cfg : InjectorConfig) : Volume := { name := getSharedVolumeName cfg, source := .emptyDir }

def addSharedVolumeWithRecovery (cfg : InjectorConfig) (st : Injection) : Outcome :=
  let original := st.pod.spec.volumes
  if original.any (·.name = getSharedVolumeName cfg) then (none, st)
  else
    let st := { st with pod := { st.pod with spec := { st.pod.spec with volumes := original ++ [sharedVolume cfg] } } }
    if st.pod.spec.volumes.length ≠ original.length + 1 then
      (some ("shared volume addition failed - expected " ++ toString (original.length + 1) ++
        " volumes, got " ++ toString st.pod.spec.volumes.length), st)
    else (none, record st "added_shared_volume")

def sharedMount (cfg : InjectorConfig) : VolumeMount :=
  { name := getSharedVolumeName cfg, mountPath := getSharedVolumePath cfg, readOnly := true }

/-- One container: its error, and the container as it is left. -/
def modifyContainerWithRecovery (cfg : InjectorConfig) (container : Container) (pod : Pod) :
    Option String × Container :=
  let volumeMount := sharedMount cfg
  if container.volumeMounts.any (·.name = volumeMount.name) then
    (some ("volume mount " ++ volumeMount.name ++ " already exists in container " ++ container.name), container)
  else
    let container := { container with volumeMounts := container.volumeMounts ++ [volumeMount] }
    let envVars := buildEnvironmentVariables cfg container pod
    if envVars.length = 0 then
      (some ("failed to build environment variables for container " ++ container.name), container)
    else (none, { container with env := container.env ++ envVars })

/-- A container after a failed modification: cut back to the counts it had. -/
def restoreContainer (original container : Container) : Container :=
  { container with
    env := container.env.take original.env.length
    volumeMounts := container.volumeMounts.take original.volumeMounts.length }
/-- The recovery actions that cutting back writes down. -/
def restoreActions (original container : Container) : List String :=
  (if container.env.length > original.env.length then ["restored_env_vars_for_" ++ container.name] else []) ++
  (if container.volumeMounts.length > original.volumeMounts.length then
    ["restored_volume_mounts_for_" ++ container.name] else [])

/-- One turn of the loop over the application containers. -/
def modifyOne (cfg : InjectorConfig) (pod : Pod) (container : Container) (result : InjectionResult) :
    Container × InjectionResult :=
  if shouldInstrumentContainer container pod then
    match modifyContainerWithRecovery cfg container pod with
    | (some _, modified) =>
      (restoreContainer container modified,
        { result with
          failedContainers := result.failedContainers ++ [container.name]
          partialFailure := true
          recoveryActions := result.recoveryActions ++ restoreActions container modified })
    | (none, modified) => (modified, { result with instrumentedCount := result.instrumentedCount + 1 })
  else (container, result)
/-- The loop. The modifications read the pod only at its metadata, which no turn changes. -/
def modifyLoop (cfg : InjectorConfig) (pod : Pod) : List Container → InjectionResult → List Container × InjectionResult
  | [], result => ([], result)
  | container :: rest, result =>
    let turn := modifyOne cfg pod container result
    let tail := modifyLoop cfg pod rest turn.2
    (turn.1 :: tail.1, tail.2)

def modifyContainersWithRecovery (cfg : InjectorConfig) (st : Injection) : Outcome :=
  let looped := modifyLoop cfg st.pod st.pod.spec.containers st.result
  let st : Injection :=
    { pod := { st.pod with spec := { st.pod.spec with containers := looped.1 } }, result := looped.2 }
  if st.result.instrumentedCount = 0 ∧ st.result.failedContainers.length > 0 then
    (some ("all container modifications failed: [" ++ String.intercalate " " st.result.failedContainers ++ "]"), st)
  else (none, st)

/-- The operation that `InjectOpenLIT` runs under recovery. -/
def injectionOperation (cfg : InjectorConfig) (st : Injection) : Outcome :=
  match validateSecurityContext st.pod with
  | some err => (some ("security context validation failed: " ++ err), st)
  | none =>
    match addInitContainerWithRecovery cfg st with
    | (some err, st) => (some ("failed to add init container: " ++ err), st)
    | (none, st) =>
      match addSharedVolumeWithRecovery cfg st with
      | (some err, st) => (some ("failed to add shared volume: " ++ err), st)
      | (none, st) =>
        match modifyContainersWithRecovery cfg st with
        | (some err, st) => (some ("failed to modify containers: " ++ err), st)
        | (none, st) =>
          if st.result.instrumentedCount = 0 then
            (some "no containers were instrumented - all containers excluded by selection criteria", st)
          else (none, st)

/-! ### Recovery -/

inductive RecoveryStrategy
  | fullRollback
  | partialCleanup
  | leavePartial
  deriving DecidableEq, Repr

def determineRecoveryStrategy (result : InjectionResult) (err : String) : RecoveryStrategy :=
  if contains err "security context" ∨ contains err "validation failed" ∨ result.instrumentedCount = 0 then
    .fullRollback
  else if contains err "failed to modify containers" ∨ result.partialFailure then .partialCleanup
  else if (contains err "init container" ∨ contains err "shared volume") ∧ result.instrumentedCount > 0 then
    .leavePartial
  else .partialCleanup

/-- `cleanupPartialInstrumentation`. Its last loop ranges over copies of the
    containers, so the environment and mounts that it resets stay in the pod. -/
def cleanupPartialInstrumentation (cfg : InjectorConfig) (originalPod : Pod) (st : Injection) : Injection :=
  let originalInitCount := originalPod.spec.initContainers.length
  let st :=
    if st.pod.spec.initContainers.length > originalInitCount then
      record { st with pod := { st.pod with spec := { st.pod.spec with
        initContainers := st.pod.spec.initContainers.take originalInitCount } } } "removed_added_init_containers"
    else st
  let st :=
    if st.pod.spec.volumes.length > originalPod.spec.volumes.length then
      record { st with pod := { st.pod with spec := { st.pod.spec with
        volumes := st.pod.spec.volumes.filter (·.name ≠ getSharedVolumeName cfg) } } } "removed_shared_volume"
    else st
  record st "cleaned_up_container_modifications"

def performCleanupRecovery (cfg : InjectorConfig) (originalPod : Pod) (st : Injection) (err : String) : Injection :=
  match determineRecoveryStrategy st.result err with
  | .fullRollback =>
    record { st with pod := { st.pod with spec := originalPod.spec } } "full_rollback_completed"
  | .partialCleanup => cleanupPartialInstrumentation cfg originalPod st
  | .leavePartial => record st "left_partial_instrumentation"

def executeWithRecovery (cfg : InjectorConfig) (originalPod : Pod) (outcome : Outcome) : Outcome :=
  match outcome with
  | (some err, st) =>
    let st := performCleanupRecovery cfg originalPod st err
    (some err, { st with result := { st.result with error := some err, success := false } })
  | (none, st) => (none, { st with result := { st.result with success := true } })

/-- `InjectOpenLIT`: the error that is returned and the pod as it is left.
    The deep copy of the pod is the pod on entry. -/
def injectOpenLIT (cfg : InjectorConfig) (pod : Pod) : Option String × Pod :=
  let originalPod := pod
  let result : InjectionResult := { totalContainers := pod.spec.containers.length }
  let outcome := executeWithRecovery cfg originalPod (injectionOperation cfg { pod := pod, result := result })
  (outcome.1, outcome.2.pod)

end

end Openlit.Injector
