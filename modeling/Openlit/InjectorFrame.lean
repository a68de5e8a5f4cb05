import Mathlib.Data.List.Forall2
import Openlit.Injector

/-!
What an injection does to a pod, stage by stage. Every stage has one lemma that
says all it can do; together they give the pod of a successful injection in
closed form (`injectOpenLIT_success`): one more init container, the shared
volume, and each container either as it was or with one mount and the new
environment appended (`instrument`).
-/
namespace Openlit.InjectorFrame
open Openlit.Text Openlit.Values Openlit.Pods Openlit.Injector

/-! ### The pod of an injection -/

/-- A container already mounts a volume of the shared volume's name. -/
def mountsShared (cfg : InjectorConfig) (container : Container) : Bool :=
  container.volumeMounts.any (·.name = getSharedVolumeName cfg)
def withSharedMount (cfg : InjectorConfig) (container : Container) : Container :=
  { container with volumeMounts := container.volumeMounts ++ [sharedMount cfg] }
/-- An instrumented container: one mount and the built environment at the ends of its lists. -/
def instrument (cfg : InjectorConfig) (pod : Pod) (container : Container) : Container :=
  { withSharedMount cfg container with
    env := container.env ++ buildEnvironmentVariables cfg (withSharedMount cfg container) pod }
/-- The volumes with the shared volume, which is only added where no volume has its name. -/
def withSharedVolume (cfg : InjectorConfig) (volumes : List Volume) : List Volume :=
  if volumes.any (·.name = getSharedVolumeName cfg) then volumes else volumes ++ [sharedVolume cfg]

section
variable [CaseFolding]

/-- The containers that an injection changes: selected, and not mounting the volume yet. -/
def instrumentable (cfg : InjectorConfig) (pod : Pod) (container : Container) : Bool :=
  shouldInstrumentContainer container pod && !mountsShared cfg container
/-- What an injection makes of a container. -/
def injected (cfg : InjectorConfig) (pod : Pod) (container : Container) : Container :=
  if instrumentable cfg pod container then instrument cfg pod container else container
/-- The pod that a successful injection leaves. -/
def injectedPod (cfg : InjectorConfig) (pod : Pod) : Pod :=
  { pod with spec := { pod.spec with
      initContainers := pod.spec.initContainers ++ [initContainer cfg]
      volumes := withSharedVolume cfg pod.spec.volumes
      containers := pod.spec.containers.map (injected cfg pod) } }

/-! ### Selection and environment read only the metadata -/

omit [CaseFolding] in
theorem annotationValue_congr {p q : Pod} (same : p.metadata = q.metadata) : annotationValue p = annotationValue q := by
  funext key
  rw [annotationValue, annotationValue, same]
theorem shouldInstrument_congr {p q : Pod} (same : p.metadata = q.metadata) (container : Container) :
    shouldInstrumentContainer container p = shouldInstrumentContainer container q := by
  rw [shouldInstrumentContainer, annotationValue_congr same, ← shouldInstrumentContainer]

omit [CaseFolding] in
theorem generateServiceName_congr {p q : Pod} (same : p.metadata = q.metadata) (container : Container) :
    generateServiceName container p = generateServiceName container q := by
  simp only [generateServiceName, extractResourceNameFromOwnerReferences, annotationValue, labelValue, same]
omit [CaseFolding] in
theorem generateServiceInstanceId_congr {p q : Pod} (same : p.metadata = q.metadata) (container : Container) :
    generateServiceInstanceId container p = generateServiceInstanceId container q := by
  unfold generateServiceInstanceId
  rw [annotationValue_congr same, generateServiceName_congr same, same]
omit [CaseFolding] in
theorem buildEnvironment_congr {p q : Pod} (same : p.metadata = q.metadata) (cfg : InjectorConfig)
    (container : Container) : buildEnvironmentVariables cfg container p = buildEnvironmentVariables cfg container q := by
  have space : generateServiceNamespace p = generateServiceNamespace q := by
    simp only [generateServiceNamespace, annotationValue, same]
  have version : generateServiceVersion p = generateServiceVersion q := by
    simp only [generateServiceVersion, annotationValue, labelValue, same]
  unfold buildEnvironmentVariables
  rw [generateServiceName_congr same, generateServiceInstanceId_congr same, space, version, same]

theorem injected_congr {p q : Pod} (same : p.metadata = q.metadata) (cfg : InjectorConfig) (container : Container) :
    injected cfg p container = injected cfg q container := by
  unfold injected instrumentable instrument
  rw [shouldInstrument_congr same, buildEnvironment_congr same]

/-! ### One container -/

omit [CaseFolding] in
/-- The environment always holds `PYTHONPATH`, so building it never comes out empty. -/
theorem buildEnvironment_ne_nil (cfg : InjectorConfig) (container : Container) (pod : Pod) :
    buildEnvironmentVariables cfg container pod ≠ [] := by
  simp [buildEnvironmentVariables]

omit [CaseFolding] in
theorem modifyContainer_mounted {cfg : InjectorConfig} {container : Container} (mounted : mountsShared cfg container)
    (pod : Pod) : ∃ err, modifyContainerWithRecovery cfg container pod = (some err, container) := by
  have found : container.volumeMounts.any (·.name = (sharedMount cfg).name) = true := mounted
  exact ⟨_, by rw [modifyContainerWithRecovery, if_pos found]⟩
omit [CaseFolding] in
theorem modifyContainer_fresh {cfg : InjectorConfig} {container : Container}
    (fresh : mountsShared cfg container = false) (pod : Pod) :
    modifyContainerWithRecovery cfg container pod = (none, instrument cfg pod container) := by
  have absent : ¬ container.volumeMounts.any (·.name = (sharedMount cfg).name) = true := by
    rw [← Bool.not_eq_true] at fresh
    exact fresh
  have built : ¬ (buildEnvironmentVariables cfg (withSharedMount cfg container) pod).length = 0 := by
    simpa using buildEnvironment_ne_nil cfg (withSharedMount cfg container) pod
  rw [modifyContainerWithRecovery, if_neg absent]
  exact if_neg built

omit [CaseFolding] in
/-- Cutting an unmodified container back changes nothing. -/
theorem restoreContainer_self (container : Container) : restoreContainer container container = container := by
  simp [restoreContainer]

/-! ### The loop over the containers -/

theorem modifyOne_container (cfg : InjectorConfig) (pod : Pod) (container : Container) (result : InjectionResult) :
    (modifyOne cfg pod container result).1 = injected cfg pod container := by
  by_cases selected : shouldInstrumentContainer container pod
  · by_cases mounted : mountsShared cfg container
    · obtain ⟨err, failed⟩ := modifyContainer_mounted mounted pod
      simp [modifyOne, injected, instrumentable, selected, mounted, failed, restoreContainer_self]
    · simp only [Bool.not_eq_true] at mounted
      simp [modifyOne, injected, instrumentable, selected, mounted, modifyContainer_fresh mounted]
  · simp [modifyOne, injected, instrumentable, selected]
theorem modifyOne_count (cfg : InjectorConfig) (pod : Pod) (container : Container) (result : InjectionResult) :
    (modifyOne cfg pod container result).2.instrumentedCount =
      result.instrumentedCount + if instrumentable cfg pod container then 1 else 0 := by
  by_cases selected : shouldInstrumentContainer container pod
  · by_cases mounted : mountsShared cfg container
    · obtain ⟨err, failed⟩ := modifyContainer_mounted mounted pod
      simp [modifyOne, instrumentable, selected, mounted, failed]
    · simp only [Bool.not_eq_true] at mounted
      simp [modifyOne, instrumentable, selected, mounted, modifyContainer_fresh mounted]
  · simp [modifyOne, instrumentable, selected]

theorem modifyLoop_containers (cfg : InjectorConfig) (pod : Pod) (containers : List Container)
    (result : InjectionResult) :
    (modifyLoop cfg pod containers result).1 = containers.map (injected cfg pod) := by
  induction containers generalizing result with
  | nil => rfl
  | cons container rest ih => simp only [modifyLoop, List.map_cons, modifyOne_container, ih]
theorem modifyLoop_count (cfg : InjectorConfig) (pod : Pod) (containers : List Container) (result : InjectionResult) :
    (modifyLoop cfg pod containers result).2.instrumentedCount =
      result.instrumentedCount + containers.countP (instrumentable cfg pod) := by
  induction containers generalizing result with
  | nil => simp [modifyLoop]
  | cons container rest ih =>
    simp only [modifyLoop, ih, modifyOne_count, List.countP_cons]
    omega

/-! ### The stages -/

/-- The pod after each stage. -/
def withInitContainer (cfg : InjectorConfig) (pod : Pod) : Pod :=
  { pod with spec := { pod.spec with initContainers := pod.spec.initContainers ++ [initContainer cfg] } }
def withVolume (cfg : InjectorConfig) (pod : Pod) : Pod :=
  { pod with spec := { pod.spec with volumes := withSharedVolume cfg pod.spec.volumes } }
def withContainers (containers : List Container) (pod : Pod) : Pod :=
  { pod with spec := { pod.spec with containers := containers } }

omit [CaseFolding] in
/-- All that the init container's stage can do: fail before it touches the pod,
    or append its container. -/
theorem addInitContainer_cases (cfg : InjectorConfig) (st : Injection) :
    (∃ err, addInitContainerWithRecovery cfg st = (some err, st)) ∨
    ∃ result, result.instrumentedCount = st.result.instrumentedCount ∧
      addInitContainerWithRecovery cfg st = (none, ⟨withInitContainer cfg st.pod, result⟩) := by
  by_cases noName : (initContainer cfg).name = ""
  · exact .inl ⟨_, by rw [addInitContainerWithRecovery, if_pos noName]⟩
  by_cases noImage : (initContainer cfg).image = ""
  · exact .inl ⟨_, by rw [addInitContainerWithRecovery, if_neg noName, if_pos noImage]⟩
  refine .inr ⟨{ st.result with recoveryActions := st.result.recoveryActions ++ ["added_init_container"] }, rfl, ?_⟩
  rw [addInitContainerWithRecovery, if_neg noName, if_neg noImage]
  simp [record, withInitContainer]

omit [CaseFolding] in
/-- The volume's stage never fails. -/
theorem addSharedVolume_eq (cfg : InjectorConfig) (st : Injection) :
    ∃ result, result.instrumentedCount = st.result.instrumentedCount ∧
      addSharedVolumeWithRecovery cfg st = (none, ⟨withVolume cfg st.pod, result⟩) := by
  by_cases named : st.pod.spec.volumes.any (·.name = getSharedVolumeName cfg)
  · refine ⟨st.result, rfl, ?_⟩
    rw [addSharedVolumeWithRecovery, if_pos named, withVolume, withSharedVolume, if_pos named]
  · refine ⟨{ st.result with recoveryActions := st.result.recoveryActions ++ ["added_shared_volume"] }, rfl, ?_⟩
    rw [addSharedVolumeWithRecovery, if_neg named, withVolume, withSharedVolume, if_neg named]
    simp [record]

/-- All that the containers' stage can do. Its error needs a count of zero. -/
theorem modifyContainers_cases (cfg : InjectorConfig) (st : Injection) :
    ∃ error result, modifyContainersWithRecovery cfg st =
        (error, ⟨withContainers (st.pod.spec.containers.map (injected cfg st.pod)) st.pod, result⟩) ∧
      result.instrumentedCount =
        st.result.instrumentedCount + st.pod.spec.containers.countP (instrumentable cfg st.pod) ∧
      (error ≠ none → result.instrumentedCount = 0) := by
  have containers := modifyLoop_containers cfg st.pod st.pod.spec.containers st.result
  have count := modifyLoop_count cfg st.pod st.pod.spec.containers st.result
  by_cases failed : (modifyLoop cfg st.pod st.pod.spec.containers st.result).2.instrumentedCount = 0 ∧
      (modifyLoop cfg st.pod st.pod.spec.containers st.result).2.failedContainers.length > 0
  · rw [modifyContainersWithRecovery, if_pos failed, containers]
    exact ⟨_, _, rfl, count, fun _ => failed.1⟩
  · rw [modifyContainersWithRecovery, if_neg failed, containers]
    exact ⟨_, _, rfl, count, fun h => absurd rfl h⟩

/-- The containers of the operation, seen from the pod on entry. -/
theorem stages_injectedPod (cfg : InjectorConfig) (pod : Pod) :
    withContainers (pod.spec.containers.map (injected cfg (withVolume cfg (withInitContainer cfg pod))))
      (withVolume cfg (withInitContainer cfg pod)) = injectedPod cfg pod := by
  have same : injected cfg (withVolume cfg (withInitContainer cfg pod)) = injected cfg pod :=
    funext fun container => injected_congr rfl cfg container
  rw [same]
  rfl
theorem stages_count (cfg : InjectorConfig) (pod : Pod) :
    pod.spec.containers.countP (instrumentable cfg (withVolume cfg (withInitContainer cfg pod))) =
      pod.spec.containers.countP (instrumentable cfg pod) := by
  refine List.countP_congr fun container _ => ?_
  have same : (withVolume cfg (withInitContainer cfg pod)).metadata = pod.metadata := rfl
  rw [instrumentable, instrumentable, shouldInstrument_congr same]

/-- All that the operation can do: fail with nothing instrumented and everything
    but the spec untouched, or leave `injectedPod`. -/
theorem injectionOperation_cases (cfg : InjectorConfig) (pod : Pod) (result : InjectionResult)
    (fresh : result.instrumentedCount = 0) :
    (∃ err st, injectionOperation cfg ⟨pod, result⟩ = (some err, st) ∧
      st.result.instrumentedCount = 0 ∧ st.pod.metadata = pod.metadata ∧ st.pod.rest = pod.rest) ∨
    (∃ after, injectionOperation cfg ⟨pod, result⟩ = (none, ⟨injectedPod cfg pod, after⟩) ∧
      0 < pod.spec.containers.countP (instrumentable cfg pod)) := by
  unfold injectionOperation
  cases security : validateSecurityContext pod with
  | some err => exact .inl ⟨_, _, rfl, fresh, rfl, rfl⟩
  | none =>
    rcases addInitContainer_cases cfg ⟨pod, result⟩ with ⟨err, failed⟩ | ⟨result₁, count₁, added⟩
    · rw [failed]
      exact .inl ⟨_, _, rfl, fresh, rfl, rfl⟩
    obtain ⟨result₂, count₂, volume⟩ := addSharedVolume_eq cfg ⟨withInitContainer cfg pod, result₁⟩
    obtain ⟨error, result₃, modified, count₃, zero⟩ :=
      modifyContainers_cases cfg ⟨withVolume cfg (withInitContainer cfg pod), result₂⟩
    simp only [added, volume, modified]
    cases error with
    | some err => exact .inl ⟨_, _, rfl, zero (by simp), rfl, rfl⟩
    | none =>
      have total : result₃.instrumentedCount = pod.spec.containers.countP (instrumentable cfg pod) := by
        rw [count₃, count₂, count₁, fresh, Nat.zero_add]
        exact stages_count cfg pod
      by_cases nothing : result₃.instrumentedCount = 0
      · simp only [nothing, ↓reduceIte]
        exact .inl ⟨_, _, rfl, nothing, rfl, rfl⟩
      · simp only [nothing, ↓reduceIte]
        refine .inr ⟨result₃, ?_, by omega⟩
        rw [← stages_injectedPod cfg pod]
        rfl

/-! ### The whole injection -/

/-- A successful injection leaves exactly `injectedPod`, with some container instrumented. -/
theorem injectOpenLIT_success {cfg : InjectorConfig} {pod : Pod} (ok : (injectOpenLIT cfg pod).1 = none) :
    (injectOpenLIT cfg pod).2 = injectedPod cfg pod ∧ ∃ c ∈ pod.spec.containers, instrumentable cfg pod c := by
  rcases injectionOperation_cases cfg pod { totalContainers := pod.spec.containers.length } rfl with
    ⟨err, st, failed, -⟩ | ⟨result, ran, some_⟩
  · simp [injectOpenLIT, executeWithRecovery, failed] at ok
  · exact ⟨by simp [injectOpenLIT, executeWithRecovery, ran], List.countP_pos_iff.mp some_⟩

/-- An injection succeeds exactly if the pod's security settings allow it, the
    configuration names an image and some container is to be instrumented. -/
theorem injectOpenLIT_ok_iff {cfg : InjectorConfig} (named : (initContainer cfg).name ≠ "")
    (imaged : (initContainer cfg).image ≠ "") (pod : Pod) :
    (injectOpenLIT cfg pod).1 = none ↔
      validateSecurityContext pod = none ∧ ∃ c ∈ pod.spec.containers, instrumentable cfg pod c := by
  have reported : (injectOpenLIT cfg pod).1 = none ↔
      (injectionOperation cfg ⟨pod, { totalContainers := pod.spec.containers.length }⟩).1 = none := by
    rw [injectOpenLIT]
    cases ran : injectionOperation cfg ⟨pod, { totalContainers := pod.spec.containers.length }⟩ with
    | mk error st => cases error <;> simp [executeWithRecovery]
  constructor
  · intro ok
    refine ⟨?_, (injectOpenLIT_success ok).2⟩
    cases security : validateSecurityContext pod with
    | none => rfl
    | some err =>
      have failed := reported.mp ok
      simp [injectionOperation, security] at failed
  · rintro ⟨security, found⟩
    apply reported.mpr
    rcases addInitContainer_cases cfg ⟨pod, { totalContainers := pod.spec.containers.length }⟩ with
      ⟨err, failed⟩ | ⟨result₁, count₁, added⟩
    · rw [addInitContainerWithRecovery, if_neg named, if_neg imaged] at failed
      simp at failed
    obtain ⟨result₂, count₂, volume⟩ := addSharedVolume_eq cfg ⟨withInitContainer cfg pod, result₁⟩
    obtain ⟨error, result₃, modified, count₃, zero⟩ :=
      modifyContainers_cases cfg ⟨withVolume cfg (withInitContainer cfg pod), result₂⟩
    have some_ : result₃.instrumentedCount ≠ 0 := by
      have total := stages_count cfg pod
      have positive := List.countP_pos_iff.mpr found
      simp only [withVolume, withInitContainer] at total count₃
      omega
    have fine : error = none := by
      by_contra failed
      exact some_ (zero failed)
    simp [injectionOperation, security, added, volume, modified, fine, some_]

/-- Field by field, what an injection that reports no error does to a pod. A
    container is left alone where the selection excludes it or it already
    mounts the volume; otherwise it gets one read-only mount and new
    environment entries at the end. Everything else stays. -/
theorem injectOpenLIT_frame (cfg : InjectorConfig) (pod : Pod) (ok : (injectOpenLIT cfg pod).1 = none) :
    ∃ added : Container, ∃ after : List Container,
      (injectOpenLIT cfg pod).2 = { pod with spec := { pod.spec with
        initContainers := pod.spec.initContainers ++ [added]
        volumes := pod.spec.volumes ++
          if pod.spec.volumes.any (·.name = getSharedVolumeName cfg) then [] else [sharedVolume cfg]
        containers := after } } ∧
      List.Forall₂ (fun before now =>
        (now = before ∧ (shouldInstrumentContainer before pod = false ∨
          ∃ mount ∈ before.volumeMounts, mount.name = getSharedVolumeName cfg)) ∨
        (shouldInstrumentContainer before pod = true ∧
          (∀ mount ∈ before.volumeMounts, mount.name ≠ getSharedVolumeName cfg) ∧
          ∃ entries mount, entries ≠ [] ∧ mount.name = getSharedVolumeName cfg ∧ mount.readOnly = true ∧
            now = { before with env := before.env ++ entries, volumeMounts := before.volumeMounts ++ [mount] }))
        pod.spec.containers after ∧
      ∃ before ∈ pod.spec.containers, shouldInstrumentContainer before pod = true ∧
        ∀ mount ∈ before.volumeMounts, mount.name ≠ getSharedVolumeName cfg := by
  obtain ⟨left, container, member, changed⟩ := injectOpenLIT_success ok
  refine ⟨initContainer cfg, pod.spec.containers.map (injected cfg pod), ?_, ?_, container, member, ?_⟩
  · rw [left, injectedPod, withSharedVolume]
    split <;> simp
  · rw [List.forall₂_map_right_iff]
    refine List.forall₂_same.mpr fun before _ => ?_
    by_cases selected : shouldInstrumentContainer before pod = true
    · by_cases mounted : mountsShared cfg before = true
      · refine .inl ⟨by simp [injected, instrumentable, mounted], .inr ?_⟩
        simpa [mountsShared] using mounted
      · refine .inr ⟨selected, by simpa [mountsShared] using mounted,
          buildEnvironmentVariables cfg (withSharedMount cfg before) pod, sharedMount cfg,
          buildEnvironment_ne_nil cfg (withSharedMount cfg before) pod, rfl, rfl, ?_⟩
        simp [injected, instrumentable, selected, mounted, instrument, withSharedMount]
    · exact .inl ⟨by simp [injected, instrumentable, selected], .inl (by simpa using selected)⟩
  · simpa [instrumentable, mountsShared] using changed

/-! ### A failed injection -/

omit [CaseFolding] in
/-- With no container instrumented every error rolls back, whatever its text. -/
theorem determineRecoveryStrategy_uninstrumented {result : InjectionResult} (none_ : result.instrumentedCount = 0)
    (err : String) : determineRecoveryStrategy result err = .fullRollback := by
  rw [determineRecoveryStrategy, if_pos (.inr (.inr none_))]

/-- An injection that reports an error leaves the pod as it was on entry. The
    stages after the first instrumented container cannot fail, so the two
    partial strategies are never chosen. -/
theorem injectOpenLIT_restores (cfg : InjectorConfig) (pod : Pod) (failed : (injectOpenLIT cfg pod).1 ≠ none) :
    (injectOpenLIT cfg pod).2 = pod := by
  rcases injectionOperation_cases cfg pod { totalContainers := pod.spec.containers.length } rfl with
    ⟨err, st, ran, uninstrumented, metadata, rest⟩ | ⟨result, ran, -⟩
  · have rollback := determineRecoveryStrategy_uninstrumented uninstrumented err
    have left : (injectOpenLIT cfg pod).2 = ⟨st.pod.metadata, pod.spec, st.pod.rest⟩ := by
      simp [injectOpenLIT, executeWithRecovery, ran, performCleanupRecovery, rollback, record]
    rw [left, metadata, rest]
  · simp [injectOpenLIT, executeWithRecovery, ran] at failed

/-! ### A second injection -/

/-- After an injection no container is left to instrument: the shared mount marks the instrumented ones. -/
theorem injected_uninstrumentable (cfg : InjectorConfig) (pod : Pod) (container : Container) :
    instrumentable cfg pod (injected cfg pod container) = false := by
  by_cases changes : instrumentable cfg pod container
  · have mounted : mountsShared cfg (instrument cfg pod container) = true := by
      simp [mountsShared, instrument, withSharedMount, sharedMount]
    rw [injected, if_pos changes, instrumentable, mounted]
    simp
  · rw [injected, if_neg changes]
    simpa using changes
theorem injectedPod_uninstrumentable (cfg : InjectorConfig) (pod : Pod) :
    ∀ container ∈ (injectedPod cfg pod).spec.containers, instrumentable cfg (injectedPod cfg pod) container = false := by
  intro container member
  obtain ⟨before, _, rfl⟩ := List.mem_map.mp member
  have same : (injectedPod cfg pod).metadata = pod.metadata := rfl
  rw [instrumentable, shouldInstrument_congr same, ← instrumentable]
  exact injected_uninstrumentable cfg pod before

/-- The pod of a successful injection is left as it is by another one: with no
    container to instrument the second injection cannot succeed, and an
    injection that fails restores its pod. -/
theorem injectOpenLIT_idempotent (cfg : InjectorConfig) (pod : Pod) (ok : (injectOpenLIT cfg pod).1 = none) :
    (injectOpenLIT cfg (injectOpenLIT cfg pod).2).2 = (injectOpenLIT cfg pod).2 := by
  have left := (injectOpenLIT_success ok).1
  apply injectOpenLIT_restores
  intro again
  obtain ⟨_, container, member, changes⟩ := injectOpenLIT_success again
  rw [left] at member changes
  rw [injectedPod_uninstrumentable cfg pod container member] at changes
  cases changes

end

/-- A configuration as the operator makes it for the `openlit` provider. -/
def sampleConfig : InjectorConfig :=
  { provider := "openlit", otlpEndpoint := "http://collector:4318",
    initContainerImage := "ghcr.io/openlit/openlit-ai-instrumentation:latest" }
/-- A pod with a Python application and a sidecar, which the injection changes in the first container only. -/
def samplePod : Pod :=
  { metadata := { name := "chat" }
    spec := { containers := [{ name := "app", image := "python:3.12" }, { name := "istio-proxy", image := "proxy" }] } }
/-- The same application with a mount of the shared volume's name already there. -/
def mountedPod : Pod :=
  { metadata := { name := "chat" }
    spec := { containers := [{ name := "app", image := "python:3.12",
                               volumeMounts := [{ name := "instrumentation-packages", mountPath := "/packages" }] }] } }

theorem injectOpenLIT_frame_sample :
    (@injectOpenLIT asciiFolding sampleConfig samplePod).1 = none ∧
    ∃ added : Container, ∃ after : List Container,
      (@injectOpenLIT asciiFolding sampleConfig samplePod).2.spec.initContainers = [added] ∧
      (@injectOpenLIT asciiFolding sampleConfig samplePod).2.spec.containers = after := by
  have ok : (@injectOpenLIT asciiFolding sampleConfig samplePod).1 = none := by decide
  obtain ⟨added, after, left, -⟩ := @injectOpenLIT_frame asciiFolding sampleConfig samplePod ok
  exact ⟨ok, added, after, by rw [left]; rfl, by rw [left]⟩

theorem injectOpenLIT_idempotent_sample :
    (@injectOpenLIT asciiFolding sampleConfig samplePod).1 = none ∧
    (@injectOpenLIT asciiFolding sampleConfig (@injectOpenLIT asciiFolding sampleConfig samplePod).2).2 =
      (@injectOpenLIT asciiFolding sampleConfig samplePod).2 := by
  have ok : (@injectOpenLIT asciiFolding sampleConfig samplePod).1 = none := by decide
  exact ⟨ok, @injectOpenLIT_idempotent asciiFolding sampleConfig samplePod ok⟩

theorem injectOpenLIT_restores_mounted :
    (@injectOpenLIT asciiFolding sampleConfig mountedPod).1 ≠ none ∧
    (@injectOpenLIT asciiFolding sampleConfig mountedPod).2 = mountedPod := by
  have failed : (@injectOpenLIT asciiFolding sampleConfig mountedPod).1 ≠ none := by decide
  exact ⟨failed, @injectOpenLIT_restores asciiFolding sampleConfig mountedPod failed⟩

end Openlit.InjectorFrame
