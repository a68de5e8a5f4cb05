import Openlit.AttributeLists
import Openlit.PythonPath

/-!
The resource attributes of an instrumented container. The injector joins them
into the variable `OTEL_RESOURCE_ATTRIBUTES` as they are, without the escapes
that its readers undo. They are read back where no text of the pod that becomes
a value holds a comma or an escape (`resource_attributes_read_back_iff`).
-/
namespace Openlit.ResourceAttributes
open Openlit.Text Openlit.Pods Openlit.Injector Openlit.InjectorFrame Openlit.PythonPath Openlit.AttributeLists

/-! ### The attributes and their reading -/

/-- The attributes that the injector takes from a pod and its configuration. -/
def resourceAttributes (cfg : InjectorConfig) (container : Container) (pod : Pod) : List (String × String) :=
  [("service.name", generateServiceName container pod), ("service.namespace", generateServiceNamespace pod),
    ("deployment.environment", if cfg.environment = "" then "kubernetes" else cfg.environment)] ++
  (if generateServiceVersion pod ≠ "" then [("service.version", generateServiceVersion pod)] else []) ++
  (if pod.metadata.name ≠ "" then [("service.instance.id", generateServiceInstanceId container pod)] else [])
/-- The attributes that a container has as variables of their own too. -/
def ownVariables : List (String × String) :=
  [("service.name", "OTEL_SERVICE_NAME"), ("service.namespace", "OTEL_SERVICE_NAMESPACE"),
    ("deployment.environment", "OTEL_DEPLOYMENT_ENVIRONMENT")]

/-- The literal of the entry that counts. -/
def seen (container : Container) (name : String) : Option String := (lastEntry container.env name).map (·.value)
def encoded (text : String) : List UInt8 := utf8 text.toList
/-- The attributes as the container's telemetry reads them. -/
def read (container : Container) : List (List UInt8 × List UInt8) :=
  decoded ((seen container "OTEL_RESOURCE_ATTRIBUTES").getD "").toList

/-- The attributes arrive as they were computed, each once and as the variables of their own say. -/
structure ReadsBack (cfg : InjectorConfig) (pod : Pod) (before after : Container) : Prop where
  attributes : read after = (resourceAttributes cfg before pod).map fun entry => (encoded entry.1, encoded entry.2)
  once : ((read after).map Prod.fst).Nodup
  consistent : ∀ own ∈ ownVariables, ∃ text, seen after own.2 = some text ∧ (encoded own.1, encoded text) ∈ read after

/-! ### What the values are taken from -/

def nameSource (container : Container) (pod : Pod) : Option String :=
  present (annotationValue pod "resource.opentelemetry.io/service.name")
    <|> present (labelValue pod "app.kubernetes.io/instance")
    <|> present (labelValue pod "app.kubernetes.io/name")
    <|> present (some (extractResourceNameFromOwnerReferences pod))
    <|> present (some pod.metadata.name)
    <|> present (some container.name)
def nameSpaceSource (pod : Pod) : Option String :=
  present (annotationValue pod "resource.opentelemetry.io/service.namespace") <|> present (some pod.metadata.nameSpace)
def versionSource (pod : Pod) : Option String :=
  present (annotationValue pod "resource.opentelemetry.io/service.version")
    <|> present (labelValue pod "app.kubernetes.io/version")
def instanceSources (container : Container) (pod : Pod) : List String :=
  match present (annotationValue pod "resource.opentelemetry.io/service.instance.id") with
  | some instanceId => [instanceId]
  | none => [pod.metadata.nameSpace, pod.metadata.name, container.name]

/-- No text that becomes a value holds a comma or an escape. -/
structure PlainSources (cfg : InjectorConfig) (container : Container) (pod : Pod) : Prop where
  name : ∀ text ∈ nameSource container pod, Plain text.toList
  nameSpace : ∀ text ∈ nameSpaceSource pod, Plain text.toList
  environment : Plain cfg.environment.toList
  version : ∀ text ∈ versionSource pod, Plain text.toList
  instanceId : pod.metadata.name ≠ "" → ∀ text ∈ instanceSources container pod, Plain text.toList

theorem plain_nil : Plain [] := by decide
theorem plain_getD {default : String} (plain : Plain default.toList) (source : Option String) :
    Plain (source.getD default).toList ↔ ∀ text ∈ source, Plain text.toList := by
  cases source <;> simp [plain]
theorem plain_orDefault {default : String} (plain : Plain default.toList) (text : String) :
    Plain (if text = "" then default else text).toList ↔ Plain text.toList := by
  by_cases empty : text = ""
  · simp [empty, plain, plain_nil]
  · simp only [empty, if_false]
theorem plain_generateServiceInstanceId {container : Container} {pod : Pod} (named : pod.metadata.name ≠ "") :
    Plain (generateServiceInstanceId container pod).toList ↔ ∀ text ∈ instanceSources container pod, Plain text.toList := by
  unfold generateServiceInstanceId instanceSources
  cases present (annotationValue pod "resource.opentelemetry.io/service.instance.id") with
  | some instanceId => simp
  | none =>
    have dot : ".".toList = ['.'] := rfl
    simp only [if_pos named, String.toList_append, dot, List.append_assoc, List.cons_append, List.nil_append]
    rw [plain_append_dot, plain_append_dot, plain_orDefault (by decide), plain_orDefault (by decide)]
    simp

theorem plain_values_iff (cfg : InjectorConfig) (container : Container) (pod : Pod) :
    (∀ entry ∈ resourceAttributes cfg container pod, Plain entry.2.toList) ↔ PlainSources cfg container pod := by
  have name : Plain (generateServiceName container pod).toList ↔ ∀ text ∈ nameSource container pod, Plain text.toList :=
    plain_getD (by decide) (nameSource container pod)
  have nameSpace : Plain (generateServiceNamespace pod).toList ↔ ∀ text ∈ nameSpaceSource pod, Plain text.toList :=
    plain_getD (by decide) (nameSpaceSource pod)
  have version : Plain (generateServiceVersion pod).toList ↔ ∀ text ∈ versionSource pod, Plain text.toList :=
    plain_getD (by decide) (versionSource pod)
  have written : (∀ entry ∈ if generateServiceVersion pod ≠ "" then [("service.version", generateServiceVersion pod)] else [],
      Plain entry.2.toList) ↔ ∀ text ∈ versionSource pod, Plain text.toList := by
    rw [← version]
    by_cases empty : generateServiceVersion pod = ""
    · simp [empty, plain_nil]
    · simp [empty]
  have instance_ : (∀ entry ∈ if pod.metadata.name ≠ "" then
      [("service.instance.id", generateServiceInstanceId container pod)] else [], Plain entry.2.toList) ↔
      (pod.metadata.name ≠ "" → ∀ text ∈ instanceSources container pod, Plain text.toList) := by
    by_cases named : pod.metadata.name = ""
    · simp [named]
    · simp [named, plain_generateServiceInstanceId named]
  rw [resourceAttributes, List.forall_mem_append, List.forall_mem_append, written, instance_]
  simp only [List.forall_mem_cons, List.not_mem_nil, false_implies, implies_true, and_true]
  rw [name, nameSpace, plain_orDefault (by decide)]
  constructor
  · rintro ⟨⟨⟨names, nameSpaces, environment⟩, versions⟩, instances⟩
    exact ⟨names, nameSpaces, environment, versions, instances⟩
  · intro sources
    exact ⟨⟨⟨sources.name, sources.nameSpace, sources.environment⟩, sources.version⟩, sources.instanceId⟩

/-! ### The variables of an instrumented container -/

/-- The value of the variable: each attribute with its equals sign, between commas. -/
def attributesText (cfg : InjectorConfig) (container : Container) (pod : Pod) : String :=
  String.intercalate "," ((resourceAttributes cfg container pod).map fun entry => entry.1 ++ "=" ++ entry.2)
theorem attributesText_eq (cfg : InjectorConfig) (container : Container) (pod : Pod) :
    attributesText cfg container pod = String.intercalate ","
      (["service.name=" ++ generateServiceName container pod, "service.namespace=" ++ generateServiceNamespace pod,
          "deployment.environment=" ++ if cfg.environment = "" then "kubernetes" else cfg.environment] ++
        (if generateServiceVersion pod ≠ "" then ["service.version=" ++ generateServiceVersion pod] else []) ++
        if pod.metadata.name ≠ "" then
          ["service.instance.id=" ++ if pod.metadata.name ≠ "" then generateServiceInstanceId container pod else ""]
        else []) := by
  have version : (if generateServiceVersion pod ≠ "" then [("service.version", generateServiceVersion pod)] else []).map
      (fun entry => entry.1 ++ "=" ++ entry.2) =
      if generateServiceVersion pod ≠ "" then ["service.version=" ++ generateServiceVersion pod] else [] := by
    split <;> simp
  have instance_ : (if pod.metadata.name ≠ "" then [("service.instance.id", generateServiceInstanceId container pod)] else []).map
      (fun entry => entry.1 ++ "=" ++ entry.2) =
      if pod.metadata.name ≠ "" then
        ["service.instance.id=" ++ if pod.metadata.name ≠ "" then generateServiceInstanceId container pod else ""]
      else [] := by
    split
    · simp
    · rfl
  rw [attributesText, resourceAttributes, List.map_append, List.map_append, version, instance_]
  simp

/-- The last of an instrumented container's entries with a name that the injector always sets. -/
theorem seen_instrument (cfg : InjectorConfig) (pod : Pod) (container : Container) {name value : String}
    (member : (name, value) ∈ [("OTEL_SERVICE_NAME", generateServiceName container pod),
      ("OTEL_SERVICE_NAMESPACE", generateServiceNamespace pod),
      ("OTEL_DEPLOYMENT_ENVIRONMENT", if cfg.environment = "" then "kubernetes" else cfg.environment),
      ("OTEL_RESOURCE_ATTRIBUTES", attributesText cfg container pod)]) :
    seen (instrument cfg pod container) name = some value := by
  have built : ∃ always sometimes, buildEnvironmentVariables cfg (withSharedMount cfg container) pod = always ++ sometimes ∧
      (∀ entry ∈ sometimes, entry.name ≠ name) ∧ lastEntry always name = some { name, value } := by
    have sameName : generateServiceName (withSharedMount cfg container) pod = generateServiceName container pod := rfl
    have sameId : generateServiceInstanceId (withSharedMount cfg container) pod = generateServiceInstanceId container pod := rfl
    rw [attributesText_eq] at member
    unfold buildEnvironmentVariables
    rw [List.append_assoc, List.append_assoc, sameName, sameId]
    refine ⟨_, _, rfl, ?_, ?_⟩
    · have known : name = "OTEL_SERVICE_NAME" ∨ name = "OTEL_SERVICE_NAMESPACE" ∨ name = "OTEL_DEPLOYMENT_ENVIRONMENT" ∨
          name = "OTEL_RESOURCE_ATTRIBUTES" := by
        have names := List.mem_map_of_mem (f := Prod.fst) member
        simpa using names
      intro entry added same
      have names : entry.name ∈ ["OTEL_SERVICE_INSTANCE_ID", "OPENLIT_DETAILED_TRACING", "CUSTOM_PACKAGES"] := by
        simp only [List.mem_append, List.mem_ite_nil_right, List.mem_singleton] at added
        rcases added with ⟨-, rfl⟩ | ⟨-, rfl⟩ | ⟨-, rfl⟩ <;> simp
      rw [same] at names
      rcases known with rfl | rfl | rfl | rfl <;> simp at names
    · simp only [List.mem_cons, Prod.mk.injEq, List.not_mem_nil, or_false] at member
      rcases member with ⟨rfl, rfl⟩ | ⟨rfl, rfl⟩ | ⟨rfl, rfl⟩ | ⟨rfl, rfl⟩ <;> simp [lastEntry]
  obtain ⟨always, sometimes, built, other, last⟩ := built
  have absent : lastEntry sometimes name = none := by simpa [lastEntry] using other
  rw [seen, instrument, built, lastEntry_append, lastEntry_append, absent, last]
  rfl

/-! ### Reading the attributes back -/

theorem read_instrument (cfg : InjectorConfig) (pod : Pod) (container : Container) :
    read (instrument cfg pod container) =
      decoded (joined ((resourceAttributes cfg container pod).map fun entry => (entry.1.toList, entry.2.toList))) := by
  have comma : ",".toList = [','] := rfl
  have equals : "=".toList = ['='] := rfl
  have value := @seen_instrument cfg pod container "OTEL_RESOURCE_ATTRIBUTES" (attributesText cfg container pod) (by simp)
  rw [read, value, Option.getD_some, attributesText, String.toList_intercalate, joined, comma,
    List.map_map, List.map_map]
  refine congrArg decoded (congrArg [','].intercalate (List.map_congr_left fun entry _ => ?_))
  simp [written, equals]
/-- The keys are the injector's own, in this order. -/
def keys : List String :=
  ["service.name", "service.namespace", "deployment.environment", "service.version", "service.instance.id"]
theorem keys_sublist (cfg : InjectorConfig) (container : Container) (pod : Pod) :
    ((resourceAttributes cfg container pod).map Prod.fst).Sublist keys := by
  unfold resourceAttributes keys
  split_ifs <;> simp

theorem key_known {cfg : InjectorConfig} {container : Container} {pod : Pod} {entry : String × String}
    (member : entry ∈ resourceAttributes cfg container pod) : entry.1 ∈ keys :=
  (keys_sublist cfg container pod).subset (List.mem_map_of_mem member)
/-- The list arrives as it was taken exactly if its values need no escapes, as its keys never do. -/
theorem attributes_arrive_iff (cfg : InjectorConfig) (pod : Pod) (container : Container) :
    read (instrument cfg pod container) =
      (resourceAttributes cfg container pod).map (fun entry => (encoded entry.1, encoded entry.2)) ↔ PlainSources cfg container pod := by
  have spelled : ∀ key ∈ keys, '=' ∉ key.toList ∧ Plain key.toList := by decide
  rw [read_instrument, ← plain_values_iff]
  have whole := decoded_joined_iff ((resourceAttributes cfg container pod).map fun entry => (entry.1.toList, entry.2.toList))
    (by simp [resourceAttributes]) (by
      intro pair member
      obtain ⟨entry, inside, rfl⟩ := List.mem_map.mp member
      exact spelled entry.1 (key_known inside))
  rw [List.map_map] at whole
  rw [List.forall_mem_map] at whole
  exact whole
theorem encoded_keys_nodup (cfg : InjectorConfig) (container : Container) (pod : Pod) :
    ((resourceAttributes cfg container pod).map fun entry => encoded entry.1).Nodup := by
  have once : (keys.map encoded).Nodup := by decide
  have sub := (keys_sublist cfg container pod).map encoded
  rw [List.map_map] at sub
  exact once.sublist sub

theorem readsBack_instrument_iff (cfg : InjectorConfig) (pod : Pod) (container : Container) :
    ReadsBack cfg pod container (instrument cfg pod container) ↔ PlainSources cfg container pod := by
  constructor
  · intro back
    exact (attributes_arrive_iff cfg pod container).mp back.attributes
  · intro plain
    have attributes := (attributes_arrive_iff cfg pod container).mpr plain
    refine ⟨attributes, ?_, ?_⟩
    · rw [attributes, List.map_map]
      exact encoded_keys_nodup cfg container pod
    · rw [attributes]
      intro own member
      simp only [ownVariables, List.mem_cons, List.not_mem_nil, or_false] at member
      rcases member with rfl | rfl | rfl
      · refine ⟨generateServiceName container pod, seen_instrument cfg pod container (by simp), ?_⟩
        simp [resourceAttributes]
      · refine ⟨generateServiceNamespace pod, seen_instrument cfg pod container (by simp), ?_⟩
        simp [resourceAttributes]
      · refine ⟨if cfg.environment = "" then "kubernetes" else cfg.environment, seen_instrument cfg pod container (by simp), ?_⟩
        simp [resourceAttributes]

/-- After a successful injection the telemetry of an instrumented container reads the attributes
    of its pod back exactly if none of the texts they are taken from holds a comma or an escape. -/
theorem resource_attributes_read_back_iff [CaseFolding] (cfg : InjectorConfig) (pod : Pod) (ok : (injectOpenLIT cfg pod).1 = none)
    (before after : Container) (paired : (before, after) ∈ pod.spec.containers.zip (injectOpenLIT cfg pod).2.spec.containers)
    (instrumented : instrumentable cfg pod before = true) : ReadsBack cfg pod before after ↔ PlainSources cfg before pod := by
  obtain ⟨-, rfl⟩ := (mem_zip_injected ok).mp paired
  rw [injected, if_pos instrumented, readsBack_instrument_iff]

/-- A pod with a service name of its own. -/
def namedPod (serviceName : String) : Pod :=
  { metadata := { name := "chat", annotations := some [("resource.opentelemetry.io/service.name", serviceName)] }
    spec := { containers := [{ name := "app", image := "python:3.12" }] } }

theorem resource_attributes_read_back_named :
    (@injectOpenLIT asciiFolding sampleConfig (namedPod "chat-api")).1 = none ∧
      ReadsBack sampleConfig (namedPod "chat-api") { name := "app", image := "python:3.12" }
        (@injected asciiFolding sampleConfig (namedPod "chat-api") { name := "app", image := "python:3.12" }) := by
  have ok : (@injectOpenLIT asciiFolding sampleConfig (namedPod "chat-api")).1 = none := by decide
  have paired := (@mem_zip_injected asciiFolding _ _ ok _ _).mpr ⟨List.mem_singleton.mpr rfl, rfl⟩
  refine ⟨ok, (@resource_attributes_read_back_iff asciiFolding _ _ ok _ _ paired (by decide)).mpr ?_⟩
  constructor <;> decide

/-- A service name with a comma is cut at it. -/
theorem service_name_cut :
    ∃ before after, (before, after) ∈ (namedPod "chat,eu").spec.containers.zip
        (@injectOpenLIT asciiFolding sampleConfig (namedPod "chat,eu")).2.spec.containers ∧
      @instrumentable asciiFolding sampleConfig (namedPod "chat,eu") before = true ∧
      ¬ ReadsBack sampleConfig (namedPod "chat,eu") before after := by
  have ok : (@injectOpenLIT asciiFolding sampleConfig (namedPod "chat,eu")).1 = none := by decide
  have selected : @instrumentable asciiFolding sampleConfig (namedPod "chat,eu") { name := "app", image := "python:3.12" } = true := by
    decide
  refine ⟨_, _, (@mem_zip_injected asciiFolding _ _ ok _ _).mpr ⟨List.mem_singleton.mpr rfl, rfl⟩, selected, ?_⟩
  intro back
  rw [@injected.eq_1 asciiFolding, if_pos selected] at back
  have plain := ((readsBack_instrument_iff _ _ _).mp back).name "chat,eu" (by decide)
  revert plain
  decide

end Openlit.ResourceAttributes
