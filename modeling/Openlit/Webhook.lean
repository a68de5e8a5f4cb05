import Mathlib.Algebra.Group.Nat.Defs
import Openlit.Injector
import Openlit.Manifests
import Openlit.Sorting

/-!
The admission webhook (`internal/webhook/handler.go`): reading a served object
back into a resource, looking for the resources that match a pod, and turning
the one that is chosen into an injector configuration. A panic is an outcome of
its own, so that the places that can cause one show.
-/
namespace Openlit.Webhook
open Openlit.Text Openlit.Values Openlit.Pods Openlit.Injector Openlit.Manifests Openlit.Sorting

/-- The run-time panics of the handler. -/
inductive Crash
  | typeAssertion
  | nilDereference
  deriving DecidableEq, Repr

/-- A type assertion without the second result. -/
def asserted {α : Type} : Option α → Except Crash α
  | some a => .ok a
  | none => .error .typeAssertion
/-- A field access through a pointer. -/
def dereferenced {α : Type} : Option α → Except Crash α
  | some a => .ok a
  | none => .error .nilDereference

/-- `time.Parse(time.RFC3339, ..)`, in nanoseconds of the Unix epoch. -/
class TimeParsing where
  parse : String → Option Int

/-- The zero `time.Time`, the start of the year 1. -/
def zeroTime : Int := -62135596800000000000

/-! ### From a served object to a resource -/

def parseLabels (labels : Fields) : Except Crash StringMap :=
  labels.mapM fun entry => do
    let value ← asserted (asString entry.2)
    pure (entry.1, value)
def textOf (data : Fields) (key : String) : String := (asString (get data key)).getD ""
def parseInstrumentation (data : Fields) : InstrumentationSettings :=
  { enabled := asBool (get data "enabled")
    provider := textOf data "provider"
    version := textOf data "version"
    imagePullPolicy := textOf data "imagePullPolicy"
    customPackages := textOf data "customPackages"
    customInitImage := textOf data "customInitImage" }
/-- The settings are allocated before the block is looked for. -/
def parsePython (data : Fields) : PythonInstrumentation :=
  { instrumentation := some (((asMap (get data "instrumentation")).map parseInstrumentation).getD {}) }
/-- The conversion `int32(f)`. -/
def toInt32 (q : Rat) : Int := (q.num.tdiv q.den).bmod (2 ^ 32)
/-- The timeout is only taken from a `float64`. -/
def parseOTLP (data : Fields) : OTLPConfig :=
  { endpoint := textOf data "endpoint"
    headers := textOf data "headers"
    timeout := (asFloat (get data "timeout")).map toInt32 }
def parseResource (data : Fields) : ResourceConfig := { environment := textOf data "environment" }

/-- The labels of the selector, `none` where there is no such block. -/
def parseMatchLabels (spec : Fields) : Except Crash (Option StringMap) :=
  match (asMap (get spec "selector")).bind fun selector => asMap (get selector "matchLabels") with
  | some labels => some <$> parseLabels labels
  | none => pure none

section
variable [TimeParsing]

def creationTime (text : Option String) : Int := (text.bind TimeParsing.parse).getD zeroTime

/-- `parseAutoInstrumentation`. Only `matchLabels`, the Python settings without
    their environment, the OTLP block and the resource block are read. -/
def parseAutoInstrumentation (obj : Fields) : Except Crash AutoInstrumentation := do
  let metadata ← asserted (asMap (get obj "metadata"))
  let name ← asserted (asString (get metadata "name"))
  let nameSpace ← asserted (asString (get metadata "namespace"))
  let creationTimestamp := creationTime (asString (get metadata "creationTimestamp"))
  let spec ← asserted (asMap (get obj "spec"))
  let matchLabels ← parseMatchLabels spec
  pure
    { name, nameSpace, creationTimestamp
      spec :=
        { selector := { matchLabels }
          python := (asMap (get spec "python")).map parsePython
          otlp := ((asMap (get spec "otlp")).map parseOTLP).getD {}
          resource := (asMap (get spec "resource")).map parseResource } }

end

/-! ### Finding the resource for a pod -/

/-- `podMatchesSelector`. A missing label reads as the empty string. -/
def podMatchesSelector (pod : Pod) (selector : StringMap) : Bool :=
  match pod.metadata.labels with
  | none => false
  | some labels => selector.all fun entry => (labels.lookup entry.1).getD "" = entry.2

def matchesSelector (pod : Pod) (cfg : AutoInstrumentation) : Bool :=
  cfg.spec.selector.matchLabels.any (podMatchesSelector pod)
def explicitlyIgnored (pod : Pod) (cfg : AutoInstrumentation) : Bool :=
  (cfg.spec.ignore.bind (·.matchLabels)).any (podMatchesSelector pod)
/-- `cfg.Spec.Python.Instrumentation`, which the log lines read too. -/
def settings (cfg : AutoInstrumentation) : Except Crash InstrumentationSettings := do
  let python ← dereferenced cfg.spec.python
  dereferenced python.instrumentation

/-- The resources in the store, of which no two share namespace and name, and
    the namespaces whose listing fails. -/
structure Cluster where
  resources : List Stored
  unavailable : String → Bool := fun _ => false
  keys : (resources.map fun r => (r.nameSpace, r.name)).Nodup
/-- The resources of one namespace; the empty name stands for all of them. -/
def listing (cluster : Cluster) (nameSpace : String) : Option (List Stored) :=
  if cluster.unavailable nameSpace then none
  else some (cluster.resources.filter fun r => nameSpace = "" ∨ r.nameSpace = nameSpace)

/-- The creation time that conflicts are decided by. -/
abbrev CreationSort := KeySort AutoInstrumentation.creationTimestamp

section
variable [TimeParsing]

/-- The loop over the listed items. The log line for a match reads the provider. -/
def matchingConfigs (pod : Pod) : List Fields → Except Crash (List AutoInstrumentation)
  | [] => pure []
  | item :: rest => do
    let cfg ← parseAutoInstrumentation item
    if matchesSelector pod cfg ∧ ¬ explicitlyIgnored pod cfg then
      let _ ← settings cfg
      let others ← matchingConfigs pod rest
      pure (cfg :: others)
    else matchingConfigs pod rest

/-- Conflicts are sorted by age and the first one is taken. -/
def selectConfig (sort : CreationSort) (configs : List AutoInstrumentation) : Option AutoInstrumentation :=
  (if configs.length > 1 then sort.sort configs else configs).head?

/-- The namespaces in their order; one whose listing fails is passed over. -/
def searchNamespaces (sort : CreationSort) (cluster : Cluster) (pod : Pod) :
    List String → Except Crash (Option AutoInstrumentation)
  | [] => pure none
  | nameSpace :: rest => do
    let configs ← matchingConfigs pod (((listing cluster nameSpace).getD []).map toUnstructured)
    match selectConfig sort configs with
    | some cfg => pure (some cfg)
    | none => searchNamespaces sort cluster pod rest
def findMatchingAutoInstrumentation (sort : CreationSort) (cluster : Cluster) (pod : Pod) :
    Except Crash (Option AutoInstrumentation) :=
  searchNamespaces sort cluster pod [pod.metadata.nameSpace, "openlit"]

end

/-! ### The injector configuration -/

def getProviderImage (provider : String) : String :=
  if provider = "openlit" then "ghcr.io/openlit/openlit-ai-instrumentation:latest"
  else if provider = "openinference" then "ghcr.io/openlit/openinference-ai-instrumentation:latest"
  else if provider = "openllmetry" then "ghcr.io/openlit/openllmetry-ai-instrumentation:latest"
  else "ghcr.io/openlit/openlit-ai-instrumentation:latest"
def pullPolicy (text : String) : PullPolicy :=
  if text = "Always" then .always else if text = "Never" then .never else .ifNotPresent
def toEnvVar (envVar : Manifests.EnvVar) : Pods.EnvVar :=
  { name := envVar.name
    value := envVar.value
    valueFrom := envVar.valueFrom.map fun source =>
      { secretKeyRef := source.secretKeyRef, configMapKeyRef := source.configMapKeyRef, fieldRef := source.fieldRef } }

def createInjectorConfig (instrConfig : AutoInstrumentation) : Except Crash InjectorConfig := do
  let instrumentation ← settings instrConfig
  pure
    { provider := instrumentation.provider
      otlpEndpoint := instrConfig.spec.otlp.endpoint
      otlpHeaders := instrConfig.spec.otlp.headers
      imagePullPolicy := pullPolicy instrumentation.imagePullPolicy
      environment := ((instrConfig.spec.resource).map (·.environment)).getD ""
      serviceName := "instrumented-app"
      serviceNamespace := instrConfig.nameSpace
      captureMessageContent := true
      detailedTracing := true
      sharedVolumeName := "instrumentation-packages"
      sharedVolumePath := "/instrumentation-packages"
      customPackages := instrumentation.customPackages
      customInitImage := instrumentation.customInitImage
      initContainerImage :=
        if instrumentation.customInitImage ≠ "" then "" else getProviderImage instrumentation.provider
      envVars := instrumentation.env.map toEnvVar }

/-! ### Admission -/

/-- An admission request for a pod. The namespace of the request is the pod's;
    the object itself may leave it out. -/
structure Request where
  nameSpace : String
  pod : Pod
  namespaced : nameSpace ≠ ""
  agrees : pod.metadata.nameSpace = "" ∨ pod.metadata.nameSpace = nameSpace

/-- A request is allowed as it is, or answered with a patch to the pod that an injection leaves. -/
inductive Response
  | allowed
  | patched (cfg : AutoInstrumentation) (pod : Pod)

/-- `Handle`, for a request that decodes. The error of the injection is not looked at. -/
def handle [TimeParsing] [CaseFolding] (sort : CreationSort) (cluster : Cluster) (req : Request) :
    Except Crash Response := do
  match ← findMatchingAutoInstrumentation sort cluster req.pod with
  | none => pure .allowed
  | some instrConfig =>
    let injectorConfig ← createInjectorConfig instrConfig
    pure (.patched instrConfig (injectOpenLIT injectorConfig req.pod).2)

end Openlit.Webhook
