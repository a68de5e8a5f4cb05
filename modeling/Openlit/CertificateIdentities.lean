import Openlit.Certificates
import Openlit.GeneratedNames

/-!
The identities of operators. An operator takes the name of its Deployment from
the name of its pod and puts its namespace behind a dot. Identities are compared
as far as their first dot only, so that neither the namespace nor the rest of a
name with dots counts (`identities_exact_iff`).
-/
namespace Openlit.CertificateIdentities
open Openlit.Text Openlit.GeneratedNames Openlit.Certificates

/-! ### The pod of an operator -/

/-- The name of a Deployment's pod, with the hash of its template and a suffix of its own. -/
structure PodName (hashes suffixes : HashForm) where
  deployment : String
  hash : String
  suffix : String
  isHash : hashes.isHash hash
  isSuffix : suffixes.isHash suffix

variable {hashes suffixes : HashForm}

def PodName.hostname (pod : PodName hashes suffixes) : String := pod.deployment ++ "-" ++ pod.hash ++ "-" ++ pod.suffix
/-- A Deployment in its namespace. -/
structure Identity where
  deployment : String
  nameSpace : String
def Identity.text (identity : Identity) : String := identity.deployment ++ "." ++ identity.nameSpace
/-- The operator whose pod it is. -/
def operatorOf (pod : PodName hashes suffixes) (cm : Operator) : Operator := { cm with hostname := pod.hostname }
def identityOf (pod : PodName hashes suffixes) (cm : Operator) : Identity := ⟨pod.deployment, cm.nameSpace⟩

/-- The Deployment is found, identities are the same if both parts are, and a secret is managed if its label is the own identity. -/
structure Exact (pod : PodName hashes suffixes) (cm : Operator) (other : Identity) (label : String) : Prop where
  derived : extractDeploymentName pod.hostname = pod.deployment
  compared : isSameDeployment other.text (identityOf pod cm).text = true ↔ other = identityOf pod cm
  managed : ∀ {Bytes : Type} (secret : Secret Bytes), managedBy secret = some label →
    (shouldManageSecret (operatorOf pod cm) secret = true ↔ label = (identityOf pod cm).text)

/-- Two texts are the same up to their first dots. -/
def SameStart (a b : String) : Prop := (split a '.').head? = (split b '.').head?
/-- The hash and the suffix have five to ten letters, and the other identity and the label are the
    own one if they begin like the Deployment's name. -/
structure ToldApart (pod : PodName hashes suffixes) (cm : Operator) (other : Identity) (label : String) : Prop where
  hash : looksLikeHash pod.hash = true
  suffix : looksLikeHash pod.suffix = true
  other : SameStart other.deployment pod.deployment → other = identityOf pod cm
  label : SameStart label pod.deployment → label = (identityOf pod cm).text

/-! ### The name of the Deployment -/

theorem split_hostname (pod : PodName hashes suffixes) :
    split pod.hostname '-' = split pod.deployment '-' ++ [pod.hash, pod.suffix] := by
  have dash : "-".toList = ['-'] := rfl
  have letters : pod.hostname.toList = pod.deployment.toList ++ '-' :: (pod.hash.toList ++ '-' :: pod.suffix.toList) := by
    simp [PodName.hostname, dash]
  rw [split, split, letters, List.splitOn_append_cons_self,
    List.splitOn_append_cons_self_of_not_mem (hashes.undashed _ pod.isHash),
    List.splitOn_eq_singleton (suffixes.undashed _ pod.isSuffix)]
  simp
theorem hostname_ne (pod : PodName hashes suffixes) : pod.hostname ≠ pod.deployment := by
  intro same
  have size := congrArg String.utf8ByteSize same
  rw [PodName.hostname, utf8ByteSize_dashed, utf8ByteSize_dashed] at size
  omega
/-- A name between dashes is put together again. -/
theorem joined_split (name : String) : String.ofList (['-'].intercalate ((split name '-').map String.toList)) = name := by
  have pieces : (split name '-').map String.toList = name.toList.splitOn '-' := by
    simp [split, Function.comp_def]
  rw [pieces, List.intercalate_splitOn, String.ofList_toList]
theorem extractDeploymentName_hostname (pod : PodName hashes suffixes) :
    extractDeploymentName pod.hostname =
      if looksLikeHash pod.suffix && looksLikeHash pod.hash then pod.deployment else pod.hostname := by
  have parts : (split pod.hostname '-').reverse = pod.suffix :: pod.hash :: (split pod.deployment '-').reverse := by
    rw [split_hostname]
    simp
  have whole := joined_split pod.deployment
  have some_ : split pod.deployment '-' ≠ [] := by simp [split]
  obtain ⟨first, front, back⟩ := List.exists_cons_of_ne_nil (List.reverse_ne_nil_iff.mpr some_)
  rw [List.reverse_eq_iff.mp back] at whole
  rw [back] at parts
  simp only [extractDeploymentName, parts, whole]
/-- The Deployment is found exactly if both parts behind it look like hashes. -/
theorem extractDeploymentName_iff (pod : PodName hashes suffixes) :
    extractDeploymentName pod.hostname = pod.deployment ↔ looksLikeHash pod.hash = true ∧ looksLikeHash pod.suffix = true := by
  rw [extractDeploymentName_hostname]
  by_cases hash : looksLikeHash pod.hash = true
  · by_cases suffix : looksLikeHash pod.suffix = true
    · simp [hash, suffix]
    · simp [hash, suffix, hostname_ne]
  · simp [hash, hostname_ne]

theorem getOperatorIdentity_operatorOf {pod : PodName hashes suffixes} (found : extractDeploymentName pod.hostname = pod.deployment)
    (cm : Operator) : getOperatorIdentity (operatorOf pod cm) = (identityOf pod cm).text := by
  have set : pod.hostname ≠ "" := by
    intro empty
    have size := congrArg String.utf8ByteSize empty
    rw [PodName.hostname, utf8ByteSize_dashed] at size
    simp at size
  have identity : getOperatorIdentity (operatorOf pod cm) =
      extractDeploymentName (if pod.hostname = "" then "openlit-operator" else pod.hostname) ++ "." ++ cm.nameSpace := rfl
  rw [identity, if_neg set, found, Identity.text, identityOf]

/-! ### Identities and secrets -/

/-- What follows the first dot of a name is not compared, and the namespace never is. -/
theorem head_split_text (identity : Identity) : (split identity.text '.').head? = (split identity.deployment '.').head? := by
  have dot : ".".toList = ['.'] := rfl
  have letters : identity.text.toList = identity.deployment.toList ++ '.' :: identity.nameSpace.toList := by
    simp [Identity.text, dot]
  rw [split, split, letters, List.splitOn_append_cons_self, List.map_append, List.head?_append]
  cases parts : identity.deployment.toList.splitOn '.' with
  | nil => exact absurd parts (List.splitOn_ne_nil _ _)
  | cons first rest => rfl
theorem isSameDeployment_text (a : String) (identity : Identity) :
    isSameDeployment a identity.text = true ↔ SameStart a identity.deployment := by
  rw [isSameDeployment, head_split_text, beq_iff_eq, SameStart]
theorem sameStart_text (identity : Identity) (name : String) :
    SameStart identity.text name ↔ SameStart identity.deployment name := by
  rw [SameStart, head_split_text, SameStart]

/-- With a label a secret is managed if the label begins like the own identity. -/
theorem shouldManageSecret_iff {Bytes : Type} {cm : Operator} {secret : Secret Bytes} {label : String}
    (labelled : managedBy secret = some label) {identity : Identity} (own : getOperatorIdentity cm = identity.text) :
    shouldManageSecret cm secret = true ↔ SameStart label identity.deployment := by
  obtain ⟨labels, there, found⟩ := Option.bind_eq_some_iff.mp labelled
  have compared : shouldManageSecret cm secret = (label == identity.text || isSameDeployment label identity.text) := by
    simp [shouldManageSecret, there, found, own]
  rw [compared, Bool.or_eq_true, isSameDeployment_text, beq_iff_eq]
  constructor
  · rintro (rfl | same)
    · rw [sameStart_text]
      rfl
    · exact same
  · intro same
    exact .inr same

theorem identities_exact_iff (pod : PodName hashes suffixes) (cm : Operator) (other : Identity) (label : String) :
    Exact pod cm other label ↔ ToldApart pod cm other label := by
  have compared : isSameDeployment other.text (identityOf pod cm).text = true ↔ SameStart other.deployment pod.deployment := by
    rw [isSameDeployment_text, sameStart_text]
    rfl
  have own (found : extractDeploymentName pod.hostname = pod.deployment) := getOperatorIdentity_operatorOf found cm
  constructor
  · intro exact
    obtain ⟨hash, suffix⟩ := (extractDeploymentName_iff pod).mp exact.derived
    refine ⟨hash, suffix, ?_, ?_⟩
    · intro same
      exact exact.compared.mp (compared.mpr same)
    · intro same
      let secret : Secret Unit := { labels := some [("managed-by", label)] }
      have labelled : managedBy secret = some label := rfl
      exact (exact.managed secret labelled).mp ((shouldManageSecret_iff labelled (own exact.derived)).mpr same)
  · intro apart
    have derived := (extractDeploymentName_iff pod).mpr ⟨apart.hash, apart.suffix⟩
    refine ⟨derived, ?_, ?_⟩
    · rw [compared]
      constructor
      · intro same
        exact apart.other same
      · rintro rfl
        rfl
    · intro Bytes secret labelled
      rw [shouldManageSecret_iff labelled (own derived)]
      constructor
      · intro same
        exact apart.label same
      · rintro rfl
        rw [sameStart_text]
        rfl

def operatorPod : PodName templateHashes podSuffixes where
  deployment := "openlit-operator"
  hash := "7d9c8b6f5"
  suffix := "x2k4z"
  isHash := by decide
  isSuffix := by decide
def operatorIn (nameSpace : String) : Operator :=
  { nameSpace, serviceName := "openlit-webhook", secretName := "openlit-webhook-tls", refreshThreshold := 30 }

/-- The secret of a Deployment of the same name in another namespace is managed as the own one. -/
theorem other_namespace_managed :
    shouldManageSecret (operatorOf operatorPod (operatorIn "openlit"))
        ({ labels := some [("managed-by", "openlit-operator.staging")] } : Secret Unit) = true ∧
      ¬ Exact operatorPod (operatorIn "openlit") ⟨"openlit-operator", "staging"⟩ "openlit-operator.staging" := by
  have managed : shouldManageSecret (operatorOf operatorPod (operatorIn "openlit"))
      ({ labels := some [("managed-by", "openlit-operator.staging")] } : Secret Unit) = true := by decide
  refine ⟨managed, ?_⟩
  intro exact
  have own := (exact.managed _ rfl).mp managed
  revert own
  decide

end Openlit.CertificateIdentities
