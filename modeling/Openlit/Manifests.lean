import Openlit.Pods

/-!
AutoInstrumentation resources (`api/v1alpha1`): their typed form, the object
that the API server serves for them, and the checks of the validating webhook
(`internal/validation`). The status, which neither the webhooks nor the injector
read, is left out.
-/
namespace Openlit.Manifests
open Openlit.Text Openlit.Values

/-! ### The typed resource -/

/-- `metav1.LabelSelectorOperator`. The schema admits any text. -/
inductive LabelSelectorOperator
  | opIn
  | opNotIn
  | opExists
  | opDoesNotExist
  | other (text : String)
  deriving DecidableEq, Repr
structure LabelSelectorRequirement where
  key : String
  operator : LabelSelectorOperator
  values : List String := []
  deriving DecidableEq
/-- `PodSelector`. A block that is not written is `none`; `matchLabels: {}` is `some []`. -/
structure PodSelector where
  matchLabels : Option StringMap := none
  matchExpressions : List LabelSelectorRequirement := []

structure EnvVarSource where
  secretKeyRef : Option Pods.SecretKeySelector := none
  configMapKeyRef : Option Pods.ConfigMapKeySelector := none
  fieldRef : Option Pods.ObjectFieldSelector := none
structure EnvVar where
  name : String
  value : String := ""
  valueFrom : Option EnvVarSource := none
structure InstrumentationSettings where
  enabled : Option Bool := none
  version : String := ""
  provider : String := ""
  imagePullPolicy : String := ""
  customPackages : String := ""
  customInitImage : String := ""
  env : List EnvVar := []
structure PythonInstrumentation where
  instrumentation : Option InstrumentationSettings := none
structure GoInstrumentation where
  image : String := ""
  env : List EnvVar := []
structure OTLPConfig where
  endpoint : String := ""
  headers : String := ""
  timeout : Option Int := none
structure ResourceConfig where
  environment : String := ""
structure AutoInstrumentationSpec where
  selector : PodSelector := {}
  ignore : Option PodSelector := none
  python : Option PythonInstrumentation := none
  go : Option GoInstrumentation := none
  otlp : OTLPConfig := {}
  resource : Option ResourceConfig := none
/-- `AutoInstrumentation`, with the creation time in nanoseconds of the Unix epoch. -/
structure AutoInstrumentation where
  name : String
  nameSpace : String
  creationTimestamp : Int
  spec : AutoInstrumentationSpec

/-! ### The served object -/

/-- A resource in the store. The API server gives it a name, a namespace and
    the text of its creation time. -/
structure Stored where
  name : String
  nameSpace : String
  createdAt : String
  spec : AutoInstrumentationSpec
  named : name ≠ ""
  namespaced : nameSpace ≠ ""

def operatorText : LabelSelectorOperator → String
  | .opIn => "In"
  | .opNotIn => "NotIn"
  | .opExists => "Exists"
  | .opDoesNotExist => "DoesNotExist"
  | .other text => text
def requirementObject (r : LabelSelectorRequirement) : Value :=
  .map ([("key", .str r.key), ("operator", .str (operatorText r.operator))] ++
    written (!r.values.isEmpty) "values" (.list (r.values.map .str)))
def labelsObject (labels : StringMap) : Value := .map (labels.map fun entry => (entry.1, .str entry.2))
def selectorObject (s : PodSelector) : Value :=
  .map (optional "matchLabels" labelsObject s.matchLabels ++
    written (!s.matchExpressions.isEmpty) "matchExpressions" (.list (s.matchExpressions.map requirementObject)))
def keyRefObject (name key : String) (isOptional : Option Bool) : Value :=
  .map ([("name", .str name), ("key", .str key)] ++ optional "optional" .bool isOptional)
def sourceObject (s : EnvVarSource) : Value :=
  .map (optional "secretKeyRef" (fun ref => keyRefObject ref.name ref.key ref.optional) s.secretKeyRef ++
    optional "configMapKeyRef" (fun ref => keyRefObject ref.name ref.key ref.optional) s.configMapKeyRef ++
    optional "fieldRef" (fun ref => .map ([("fieldPath", .str ref.fieldPath)] ++ nonEmpty "apiVersion" ref.apiVersion))
      s.fieldRef)
def envVarObject (e : EnvVar) : Value :=
  .map ([("name", .str e.name)] ++ nonEmpty "value" e.value ++ optional "valueFrom" sourceObject e.valueFrom)
def instrumentationObject (s : InstrumentationSettings) : Value :=
  .map (optional "enabled" .bool s.enabled ++ nonEmpty "version" s.version ++ nonEmpty "provider" s.provider ++
    nonEmpty "imagePullPolicy" s.imagePullPolicy ++ nonEmpty "customPackages" s.customPackages ++
    nonEmpty "customInitImage" s.customInitImage ++
    written (!s.env.isEmpty) "env" (.list (s.env.map envVarObject)))
def pythonObject (p : PythonInstrumentation) : Value :=
  .map (optional "instrumentation" instrumentationObject p.instrumentation)
def goObject (g : GoInstrumentation) : Value :=
  .map (nonEmpty "image" g.image ++ written (!g.env.isEmpty) "env" (.list (g.env.map envVarObject)))
/-- A whole number stays one: the timeout is served as an `int64`. -/
def otlpObject (o : OTLPConfig) : Value :=
  .map ([("endpoint", .str o.endpoint)] ++ nonEmpty "headers" o.headers ++ optional "timeout" .int o.timeout)
def resourceObject (r : ResourceConfig) : Value := .map (nonEmpty "environment" r.environment)
def specObject (s : AutoInstrumentationSpec) : Fields :=
  [("selector", selectorObject s.selector)] ++ optional "ignore" selectorObject s.ignore ++
    optional "python" pythonObject s.python ++ optional "go" goObject s.go ++ [("otlp", otlpObject s.otlp)] ++
    optional "resource" resourceObject s.resource
/-- The untyped object (`unstructured.Unstructured`) that a list call returns for a stored resource. -/
def toUnstructured (r : Stored) : Fields :=
  [("apiVersion", .str "openlit.io/v1alpha1"), ("kind", .str "AutoInstrumentation"),
    ("metadata", .map [("name", .str r.name), ("namespace", .str r.nameSpace),
      ("creationTimestamp", .str r.createdAt)]),
    ("spec", .map (specObject r.spec))]

/-! ### Validation -/

/-- The errors of `url.Parse`. -/
class UrlParsing where
  parseError : String → Option String

/-- What one check reports. -/
structure Findings where
  errors : List String := []
  warnings : List String := []
  deriving DecidableEq
instance : Append Findings := ⟨fun a b => ⟨a.errors ++ b.errors, a.warnings ++ b.warnings⟩⟩
def failing (condition : Bool) (error : String) : Findings := if condition then { errors := [error] } else {}
def warning (condition : Bool) (text : String) : Findings := if condition then { warnings := [text] } else {}
/-- The findings of all items of a list, each with its position. -/
def each {α : Type} (check : Nat → α → Findings) (items : List α) : Findings :=
  (items.zipIdx.map fun item => check item.2 item.1).foldr (· ++ ·) {}

structure ValidationResult where
  valid : Bool
  errors : List String
  warnings : List String
  deriving DecidableEq

def validateRequiredFields (spec : AutoInstrumentationSpec) : Findings :=
  failing ((spec.selector.matchLabels.getD []).length = 0 ∧ spec.selector.matchExpressions.length = 0)
    "spec.selector must have either matchLabels or matchExpressions" ++
  failing (spec.otlp.endpoint = "") "spec.otlp.endpoint is required"
def validateSelector (selector : PodSelector) : Findings :=
  each (fun _ entry => failing (entry.1 = "") "matchLabels keys cannot be empty") (selector.matchLabels.getD []) ++
  each (fun i expr => failing (expr.key = "") ("matchExpressions[" ++ toString i ++ "].key cannot be empty"))
    selector.matchExpressions
def validateIgnoreSelector (ignore : PodSelector) : Findings :=
  validateSelector ignore ++
  warning ((ignore.matchLabels.getD []).length = 0 ∧ ignore.matchExpressions.length = 0)
    "ignore selector with no criteria will ignore all pods"

def reservedVars : List String :=
  ["OTEL_EXPORTER_OTLP_ENDPOINT", "OTEL_EXPORTER_OTLP_HEADERS", "OTEL_EXPORTER_OTLP_TIMEOUT",
    "OTEL_RESOURCE_ATTRIBUTES", "OTEL_SERVICE_NAME", "OTEL_SERVICE_VERSION", "PYTHONPATH"]
/-- One variable, after the names in `earlier`. -/
def validateEnvironmentVariable (earlier : List String) (i : Nat) (envVar : EnvVar) : Findings :=
  failing (envVar.name ∈ earlier)
    ("duplicate environment variable name '" ++ envVar.name ++ "' at position " ++ toString i) ++
  failing (envVar.value = "" ∧ envVar.valueFrom.isNone)
    ("environment variable '" ++ envVar.name ++ "' must have either 'value' or 'valueFrom' set") ++
  failing (envVar.value ≠ "" ∧ envVar.valueFrom.isSome)
    ("environment variable '" ++ envVar.name ++ "' cannot have both 'value' and 'valueFrom' set") ++
  warning (envVar.name ∈ reservedVars)
    ("environment variable '" ++ envVar.name ++ "' is reserved and may be overridden by the operator")
def validateEnvironmentVariables (envVars : List EnvVar) : Findings :=
  each (fun i envVar => validateEnvironmentVariable ((envVars.take i).map (·.name)) i envVar) envVars

def validatePythonInstrumentation (python : PythonInstrumentation) : Findings :=
  match python.instrumentation with
  | none => {}
  | some instrumentation =>
    warning (instrumentation.version ≠ "" ∧ instrumentation.version ≠ "latest" ∧ ¬ contains instrumentation.version ".")
      "version should follow semantic versioning (e.g., 1.0.0)" ++
    failing (instrumentation.provider = "custom" ∧ instrumentation.customInitImage = "")
      "customInitImage is required when provider is 'custom'" ++
    validateEnvironmentVariables instrumentation.env
def validateResourceConfig (res : ResourceConfig) : Findings :=
  warning (res.environment ≠ "" ∧ (contains res.environment " " ∨ contains res.environment "."))
    "environment should be DNS-compatible (no spaces or dots)"

section
variable [UrlParsing]

def validateOTLPConfig (otlp : OTLPConfig) : Findings :=
  (if otlp.endpoint ≠ "" then
    (match UrlParsing.parseError otlp.endpoint with
      | some err => { errors := ["invalid OTLP endpoint URL: " ++ err] }
      | none => {}) ++
    warning (hasSuffix otlp.endpoint "/v1/traces") "OTLP endpoint should not include '/v1/traces' suffix for OpenLIT"
  else {}) ++
  match otlp.timeout with
  | some timeout => failing (timeout < 1 ∨ timeout > 300) "timeout must be between 1 and 300 seconds"
  | none => {}

/-- `Validate`: every check runs, and the resource is valid when none reports an error. -/
def validate (spec : AutoInstrumentationSpec) : ValidationResult :=
  let findings := validateRequiredFields spec ++ validateSelector spec.selector ++
    (match spec.ignore with
      | some ignore => validateIgnoreSelector ignore
      | none => {}) ++
    (match spec.python with
      | some python => validatePythonInstrumentation python
      | none => {}) ++
    validateOTLPConfig spec.otlp ++
    (match spec.resource with
      | some resource => validateResourceConfig resource
      | none => {})
  { valid := findings.errors.length = 0, errors := findings.errors, warnings := findings.warnings }

end

end Openlit.Manifests
