import Openlit.Text
import Openlit.Values

/-!
The parts of the Kubernetes pod API that the operator reads or writes. What it
only carries along (ports, probes, affinity, status and the rest) is kept
uninterpreted in the `rest` of each object, so that "every other field" is a
field of the model too.
-/
namespace Openlit.Pods
open Openlit.Text Openlit.Values

/-- `corev1.SecretKeySelector`: a key of a named secret. -/
structure SecretKeySelector where
  name : String
  key : String
  optional : Option Bool
/-- `corev1.ConfigMapKeySelector`: a key of a named config map. -/
structure ConfigMapKeySelector where
  name : String
  key : String
  optional : Option Bool
structure ObjectFieldSelector where
  apiVersion : String
  fieldPath : String
structure EnvVarSource where
  secretKeyRef : Option SecretKeySelector := none
  configMapKeyRef : Option ConfigMapKeySelector := none
  fieldRef : Option ObjectFieldSelector := none
  rest : Fields := []
structure EnvVar where
  name : String
  value : String := ""
  valueFrom : Option EnvVarSource := none
structure VolumeMount where
  name : String
  mountPath : String
  readOnly : Bool := false
  rest : Fields := []

inductive PullPolicy
  | always
  | never
  | ifNotPresent
  deriving DecidableEq, Repr

structure ResourceRequirements where
  limits : StringMap := []
  requests : StringMap := []
  rest : Fields := []
structure SecurityContext where
  readOnlyRootFilesystem : Option Bool := none
  rest : Fields := []
structure Container where
  name : String
  image : String
  command : List String := []
  args : List String := []
  env : List EnvVar := []
  volumeMounts : List VolumeMount := []
  imagePullPolicy : Option PullPolicy := none
  resources : ResourceRequirements := {}
  securityContext : Option SecurityContext := none
  rest : Fields := []

inductive VolumeSource
  | emptyDir
  | other (source : Fields)
structure Volume where
  name : String
  source : VolumeSource

structure OwnerReference where
  kind : String
  name : String
  rest : Fields := []
/-- Labels and annotations are `none` where the decoded map is `nil`. -/
structure ObjectMeta where
  name : String := ""
  generateName : String := ""
  nameSpace : String := ""
  labels : Option StringMap := none
  annotations : Option StringMap := none
  ownerReferences : List OwnerReference := []
  rest : Fields := []
structure PodSpec where
  initContainers : List Container := []
  containers : List Container
  volumes : List Volume := []
  rest : Fields := []
structure Pod where
  metadata : ObjectMeta
  spec : PodSpec
  rest : Fields := []

/-- The value of an annotation; reading a `nil` map finds nothing. -/
def annotationValue (pod : Pod) (key : String) : Option String := (pod.metadata.annotations.getD []).lookup key
def labelValue (pod : Pod) (key : String) : Option String := (pod.metadata.labels.getD []).lookup key

/-- What the API server checks of a pod's names before it stores the pod:
    container names over both lists, volume names, and the mount paths of each
    container are pairwise distinct. -/
structure Distinct (spec : PodSpec) : Prop where
  names : ((spec.initContainers ++ spec.containers).map (·.name)).Nodup
  volumes : (spec.volumes.map (·.name)).Nodup
  mounts : ∀ c ∈ spec.initContainers ++ spec.containers, (c.volumeMounts.map (·.mountPath)).Nodup

instance (spec : PodSpec) : Decidable (Distinct spec) :=
  decidable_of_iff
    (((spec.initContainers ++ spec.containers).map (·.name)).Nodup ∧ (spec.volumes.map (·.name)).Nodup ∧
      ∀ c ∈ spec.initContainers ++ spec.containers, (c.volumeMounts.map (·.mountPath)).Nodup)
    ⟨fun h => ⟨h.1, h.2.1, h.2.2⟩, fun h => ⟨h.names, h.volumes, h.mounts⟩⟩

end Openlit.Pods
