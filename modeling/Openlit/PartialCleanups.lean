import Openlit.InjectorFrame

/-!
The cleanup of a pod that an injection has left on its way
(`internal/injector/injector.go`). What the stages have added to the pod is
taken away again, but the containers are reset in copies that are not written
back, so a container keeps what it has been given.
-/
namespace Openlit.PartialCleanups
open Openlit.Text Openlit.Pods Openlit.Injector Openlit.InjectorFrame

/-! ### Pods on their way -/

/-- A container with what it has been given, which may be nothing. -/
def Given (before now : Container) : Prop :=
  ∃ entries mounts, now = { before with env := before.env ++ entries, volumeMounts := before.volumeMounts ++ mounts }
/-- A pod after the first stages of an injection, of which the last may have come to any of the containers. -/
inductive UnderWay (cfg : InjectorConfig) (original : Pod) : Pod → Prop
  | entered : UnderWay cfg original original
  | initialized : UnderWay cfg original (withInitContainer cfg original)
  | shared : UnderWay cfg original (withVolume cfg (withInitContainer cfg original))
  | modified {containers : List Container} (given : List.Forall₂ Given original.spec.containers containers) :
      UnderWay cfg original (withContainers containers (withVolume cfg (withInitContainer cfg original)))
/-- What should hold after the cleanup. -/
structure Restored (original pod : Pod) : Prop where
  initContainers : pod.spec.initContainers = original.spec.initContainers
  volumes : pod.spec.volumes = original.spec.volumes
  containers : List.Forall₂ (fun before now => now.env = before.env ∧ now.volumeMounts = before.volumeMounts)
    original.spec.containers pod.spec.containers

theorem Given.refl (container : Container) : Given container container := ⟨[], [], by simp⟩
theorem given_self (containers : List Container) : List.Forall₂ Given containers containers :=
  List.forall₂_same.mpr fun container _ => .refl container

section
variable [CaseFolding]

theorem given_injected (cfg : InjectorConfig) (pod : Pod) (container : Container) : Given container (injected cfg pod container) := by
  unfold injected
  split
  · exact ⟨buildEnvironmentVariables cfg (withSharedMount cfg container) pod, [sharedMount cfg], rfl⟩
  · exact .refl container
/-- Wherever the operation ends, the pod is on its way. -/
theorem operation_underWay (cfg : InjectorConfig) (pod : Pod) (result : InjectionResult) :
    UnderWay cfg pod (injectionOperation cfg ⟨pod, result⟩).2.pod := by
  unfold injectionOperation
  cases validateSecurityContext pod with
  | some err => exact .entered
  | none =>
    rcases addInitContainer_cases cfg ⟨pod, result⟩ with ⟨err, failed⟩ | ⟨result₁, -, added⟩
    · rw [failed]
      exact .entered
    obtain ⟨result₂, -, volume⟩ := addSharedVolume_eq cfg ⟨withInitContainer cfg pod, result₁⟩
    obtain ⟨error, result₃, modified, -⟩ := modifyContainers_cases cfg ⟨withVolume cfg (withInitContainer cfg pod), result₂⟩
    simp only [added, volume, modified]
    have given : List.Forall₂ Given pod.spec.containers
        (pod.spec.containers.map (injected cfg (withVolume cfg (withInitContainer cfg pod)))) :=
      List.forall₂_map_right_iff.mpr (List.forall₂_same.mpr fun container _ => given_injected ..)
    cases error with
    | some err => exact .modified given
    | none =>
      dsimp only
      split <;> exact .modified given

end

/-! ### What the cleanup does -/

section
variable {cfg : InjectorConfig} {original pod : Pod}

theorem UnderWay.given (underWay : UnderWay cfg original pod) : List.Forall₂ Given original.spec.containers pod.spec.containers := by
  cases underWay with
  | entered | initialized | shared => exact given_self _
  | modified given => exact given
theorem UnderWay.initContainers (underWay : UnderWay cfg original pod) :
    pod.spec.initContainers = original.spec.initContainers ∨
      pod.spec.initContainers = original.spec.initContainers ++ [initContainer cfg] := by
  cases underWay with
  | entered => exact .inl rfl
  | initialized | shared | modified => exact .inr rfl
theorem UnderWay.volumes (underWay : UnderWay cfg original pod) :
    pod.spec.volumes = original.spec.volumes ∨ pod.spec.volumes = withSharedVolume cfg original.spec.volumes := by
  cases underWay with
  | entered | initialized => exact .inl rfl
  | shared | modified => exact .inr rfl

/-- The shared volume is only added where no other has its name, so only it is taken away. -/
theorem withoutShared_withShared (cfg : InjectorConfig) (volumes : List Volume) :
    (if (withSharedVolume cfg volumes).length > volumes.length then
      (withSharedVolume cfg volumes).filter (·.name ≠ getSharedVolumeName cfg)
    else withSharedVolume cfg volumes) = volumes := by
  by_cases named : volumes.any (·.name = getSharedVolumeName cfg)
  · rw [withSharedVolume, if_pos named, if_neg (Nat.lt_irrefl _)]
  · have others : ∀ volume ∈ volumes, decide (volume.name ≠ getSharedVolumeName cfg) = true := by
      intro volume member
      exact decide_eq_true fun same => named (List.any_eq_true.mpr ⟨volume, member, decide_eq_true same⟩)
    have own : [sharedVolume cfg].filter (·.name ≠ getSharedVolumeName cfg) = [] := by simp [sharedVolume]
    have longer : (volumes ++ [sharedVolume cfg]).length > volumes.length := by simp
    rw [withSharedVolume, if_neg named, if_pos longer, List.filter_append, List.filter_eq_self.mpr others, own, List.append_nil]
/-- The pod after the cleanup. -/
theorem cleanup_spec (cfg : InjectorConfig) (original : Pod) (st : Injection) :
    (cleanupPartialInstrumentation cfg original st).pod.spec =
      { st.pod.spec with
        initContainers := st.pod.spec.initContainers.take original.spec.initContainers.length
        volumes :=
          if st.pod.spec.volumes.length > original.spec.volumes.length then
            st.pod.spec.volumes.filter (·.name ≠ getSharedVolumeName cfg)
          else st.pod.spec.volumes } := by
  by_cases longer : st.pod.spec.initContainers.length > original.spec.initContainers.length
  · by_cases more : st.pod.spec.volumes.length > original.spec.volumes.length <;>
      simp [cleanupPartialInstrumentation, record, longer, more]
  · rw [List.take_of_length_le (Nat.le_of_not_lt longer)]
    by_cases more : st.pod.spec.volumes.length > original.spec.volumes.length <;>
      simp [cleanupPartialInstrumentation, record, longer, more]

theorem UnderWay.cleanup_initContainers (underWay : UnderWay cfg original pod) (result : InjectionResult) :
    (cleanupPartialInstrumentation cfg original ⟨pod, result⟩).pod.spec.initContainers = original.spec.initContainers := by
  rw [cleanup_spec]
  rcases underWay.initContainers with same | added
  · exact (congrArg _ same).trans List.take_length
  · exact (congrArg _ added).trans (List.take_left' rfl)
theorem UnderWay.cleanup_volumes (underWay : UnderWay cfg original pod) (result : InjectionResult) :
    (cleanupPartialInstrumentation cfg original ⟨pod, result⟩).pod.spec.volumes = original.spec.volumes := by
  rw [cleanup_spec]
  dsimp only
  rcases underWay.volumes with same | added
  · rw [same, if_neg (Nat.lt_irrefl _)]
  · rw [added]
    exact withoutShared_withShared cfg original.spec.volumes
theorem cleanup_containers (cfg : InjectorConfig) (original : Pod) (st : Injection) :
    (cleanupPartialInstrumentation cfg original st).pod.spec.containers = st.pod.spec.containers := by
  rw [cleanup_spec]

/-- A container that has been given nothing is the one that was there. -/
theorem Given.eq {before now : Container} (given : Given before now) (env : now.env = before.env)
    (volumeMounts : now.volumeMounts = before.volumeMounts) : now = before := by
  obtain ⟨entries, mounts, rfl⟩ := given
  rw [List.append_right_eq_self.mp env, List.append_right_eq_self.mp volumeMounts, List.append_nil, List.append_nil]

theorem eq_of_given {before now : List Container} (given : List.Forall₂ Given before now)
    (kept : List.Forall₂ (fun before now : Container => now.env = before.env ∧ now.volumeMounts = before.volumeMounts) before now) :
    now = before := by
  induction given with
  | nil => rfl
  | cons own _ ih =>
    cases kept with
    | cons same rest => rw [own.eq same.1 same.2, ih rest]

/-- A pod on its way is restored exactly if none of its containers has been given anything. -/
theorem cleanup_restores_iff (underWay : UnderWay cfg original pod) (result : InjectionResult) :
    Restored original (cleanupPartialInstrumentation cfg original ⟨pod, result⟩).pod ↔ pod.spec.containers = original.spec.containers := by
  constructor
  · intro restored
    have kept := restored.containers
    rw [cleanup_containers] at kept
    exact eq_of_given underWay.given kept
  · intro untouched
    refine ⟨underWay.cleanup_initContainers result, underWay.cleanup_volumes result, ?_⟩
    rw [cleanup_containers, untouched]
    exact List.forall₂_same.mpr fun container _ => ⟨rfl, rfl⟩

/-! ### Copies that are reset -/

/-- What the last loop makes of its copy of a container. -/
def resetContainer (original container : Container) : Container :=
  { container with env := original.env, volumeMounts := original.volumeMounts }
theorem Given.reset {before now : Container} (given : Given before now) : resetContainer before now = before := by
  obtain ⟨entries, mounts, rfl⟩ := given
  rfl
theorem reset_given {before now : List Container} (given : List.Forall₂ Given before now) :
    List.zipWith resetContainer before now = before := by
  induction given with
  | nil => rfl
  | cons own _ ih => rw [List.zipWith_cons_cons, own.reset, ih]
/-- The copies are as the containers should be, so every pod on its way would be restored if they were written back. -/
theorem restored_by_copies (underWay : UnderWay cfg original pod) (result : InjectionResult) :
    Restored original (withContainers (List.zipWith resetContainer original.spec.containers pod.spec.containers)
      (cleanupPartialInstrumentation cfg original ⟨pod, result⟩).pod) := by
  refine ⟨underWay.cleanup_initContainers result, underWay.cleanup_volumes result, ?_⟩
  change List.Forall₂ _ _ (List.zipWith resetContainer original.spec.containers pod.spec.containers)
  rw [reset_given underWay.given]
  exact List.forall₂_same.mpr fun container _ => ⟨rfl, rfl⟩

end

/-! ### An application that stays instrumented -/

/-- `samplePod` after all stages. -/
def sampleUnderWay : Pod :=
  withContainers
    [instrument sampleConfig samplePod { name := "app", image := "python:3.12" }, { name := "istio-proxy", image := "proxy" }]
    (withVolume sampleConfig (withInitContainer sampleConfig samplePod))
theorem sample_underWay : UnderWay sampleConfig samplePod sampleUnderWay :=
  .modified (.cons ⟨_, _, rfl⟩ (.cons (.refl _) .nil))
theorem cleanup_restores_iff_sample :
    Restored samplePod (cleanupPartialInstrumentation sampleConfig samplePod
      ⟨withVolume sampleConfig (withInitContainer sampleConfig samplePod), {}⟩).pod :=
  (cleanup_restores_iff .shared {}).mpr rfl
/-- The mount of the application and the first entry of its environment are still there. -/
theorem instrumentation_remains :
    UnderWay sampleConfig samplePod sampleUnderWay ∧
      (cleanupPartialInstrumentation sampleConfig samplePod ⟨sampleUnderWay, {}⟩).pod.spec.containers.map
        (fun container => (container.volumeMounts.map (·.name), (container.env.map (·.name)).head?)) =
          [(["instrumentation-packages"], some "PYTHONPATH"), ([], none)] ∧
      ¬ Restored samplePod (cleanupPartialInstrumentation sampleConfig samplePod ⟨sampleUnderWay, {}⟩).pod := by
  refine ⟨sample_underWay, rfl, fun restored => ?_⟩
  have kept := restored.containers
  rw [cleanup_containers] at kept
  have untouched := eq_of_given sample_underWay.given kept
  have mounts := congrArg (fun containers : List Container => containers.map (·.volumeMounts.length)) untouched
  exact absurd mounts (by decide)

end Openlit.PartialCleanups
