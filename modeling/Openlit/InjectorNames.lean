import Openlit.InjectorFrame

/-!
Names after an injection. The shared volume is tested for before it is added;
the init container is appended whatever the pod's containers are called, and
the mount is tested for by its volume only, not by its path. The pod keeps
distinct names exactly where those two tests would have passed.
-/
namespace Openlit.InjectorNames
open Openlit.Text Openlit.Pods Openlit.Injector Openlit.InjectorFrame

/-- One more element keeps the keys of a list distinct exactly if its own key is new. -/
theorem nodup_map_concat {α β : Type} (key : α → β) (items : List α) (added : α)
    (distinct : (items.map key).Nodup) :
    ((items ++ [added]).map key).Nodup ↔ key added ∉ items.map key := by
  rw [List.map_append, List.map_singleton, List.nodup_append]
  constructor
  · rintro ⟨-, -, apart⟩ inside
    exact apart _ inside _ (List.mem_singleton_self _) rfl
  · intro fresh
    refine ⟨distinct, List.pairwise_singleton _ _, ?_⟩
    rintro a inside b only rfl
    exact fresh (List.mem_singleton.mp only ▸ inside)

/-! ### Each list of the injected pod -/

/-- The shared volume is only added where its name is free, so volume names stay distinct. -/
theorem withSharedVolume_distinct (cfg : InjectorConfig) {volumes : List Volume}
    (distinct : (volumes.map (·.name)).Nodup) : ((withSharedVolume cfg volumes).map (·.name)).Nodup := by
  by_cases named : volumes.any (·.name = getSharedVolumeName cfg)
  · rwa [withSharedVolume, if_pos named]
  · rw [withSharedVolume, if_neg named]
    refine (nodup_map_concat _ volumes _ distinct).mpr fun inside => named ?_
    obtain ⟨volume, member, same⟩ := List.mem_map.mp inside
    exact List.any_eq_true.mpr ⟨volume, member, decide_eq_true same⟩

section
variable [CaseFolding]

theorem injected_name (cfg : InjectorConfig) (pod : Pod) (container : Container) :
    (injected cfg pod container).name = container.name := by
  unfold injected
  split <;> rfl

/-- The container names of the injected pod are those of the pod and the init container's. -/
theorem injectedPod_names (cfg : InjectorConfig) (pod : Pod)
    (distinct : ((pod.spec.initContainers ++ pod.spec.containers).map (·.name)).Nodup) :
    (((injectedPod cfg pod).spec.initContainers ++ (injectedPod cfg pod).spec.containers).map (·.name)).Nodup ↔
      getContainerName cfg ∉ (pod.spec.initContainers ++ pod.spec.containers).map (·.name) := by
  have names : (pod.spec.containers.map (injected cfg pod)).map (·.name) = pod.spec.containers.map (·.name) := by
    rw [List.map_map]
    exact List.map_congr_left fun container _ => injected_name cfg pod container
  refine Iff.trans (List.Perm.nodup_iff ?_) (nodup_map_concat (·.name) _ (initContainer cfg) distinct)
  rw [List.map_append, show (injectedPod cfg pod).spec.containers.map (·.name) = _ from names,
    show (injectedPod cfg pod).spec.initContainers = pod.spec.initContainers ++ [initContainer cfg] from rfl,
    List.map_append, List.map_append, List.map_append, List.append_assoc, List.append_assoc]
  exact List.perm_append_comm.append_left _

/-- A container's mount paths stay distinct unless it is instrumented and uses the shared path already. -/
theorem injected_mounts (cfg : InjectorConfig) (pod : Pod) {container : Container}
    (distinct : (container.volumeMounts.map (·.mountPath)).Nodup) :
    ((injected cfg pod container).volumeMounts.map (·.mountPath)).Nodup ↔
      (instrumentable cfg pod container → getSharedVolumePath cfg ∉ container.volumeMounts.map (·.mountPath)) := by
  by_cases changed : instrumentable cfg pod container
  · rw [injected, if_pos changed]
    rw [forall_prop_of_true changed]
    exact nodup_map_concat (·.mountPath) container.volumeMounts (sharedMount cfg) distinct
  · rw [injected, if_neg changed]
    simp [changed, distinct]

theorem injectedPod_mounts (cfg : InjectorConfig) (pod : Pod)
    (distinct : ∀ c ∈ pod.spec.initContainers ++ pod.spec.containers, (c.volumeMounts.map (·.mountPath)).Nodup) :
    (∀ c ∈ (injectedPod cfg pod).spec.initContainers ++ (injectedPod cfg pod).spec.containers,
        (c.volumeMounts.map (·.mountPath)).Nodup) ↔
      ∀ c ∈ pod.spec.containers, instrumentable cfg pod c →
        getSharedVolumePath cfg ∉ c.volumeMounts.map (·.mountPath) := by
  have own (c : Container) (member : c ∈ pod.spec.containers) :=
    injected_mounts cfg pod (distinct c (List.mem_append_right _ member))
  constructor
  · intro all c member
    exact (own c member).mp (all _ (List.mem_append_right _ (List.mem_map_of_mem member)))
  · intro free c member
    rcases List.mem_append.mp member with before | application
    · rcases List.mem_append.mp before with old | added
      · exact distinct c (List.mem_append_left _ old)
      · rw [List.mem_singleton.mp added]
        exact List.pairwise_singleton _ _
    · obtain ⟨original, inside, rfl⟩ := List.mem_map.mp application
      exact (own original inside).mpr (free original inside)

/-! ### The pod as the API server sees it -/

/-- A successful injection into a pod with distinct names leaves distinct names
    exactly if no container is called as the init container and no container
    that it instruments already mounts something at the shared path. -/
theorem injectOpenLIT_distinct_iff (cfg : InjectorConfig) (pod : Pod) (distinct : Distinct pod.spec)
    (ok : (injectOpenLIT cfg pod).1 = none) :
    Distinct (injectOpenLIT cfg pod).2.spec ↔
      getContainerName cfg ∉ (pod.spec.initContainers ++ pod.spec.containers).map (·.name) ∧
      ∀ c ∈ pod.spec.containers, instrumentable cfg pod c →
        getSharedVolumePath cfg ∉ c.volumeMounts.map (·.mountPath) := by
  rw [(injectOpenLIT_success ok).1]
  constructor
  · rintro ⟨names, -, mounts⟩
    exact ⟨(injectedPod_names cfg pod distinct.names).mp names,
      (injectedPod_mounts cfg pod distinct.mounts).mp mounts⟩
  · rintro ⟨unused, free⟩
    exact ⟨(injectedPod_names cfg pod distinct.names).mpr unused,
      withSharedVolume_distinct cfg distinct.volumes,
      (injectedPod_mounts cfg pod distinct.mounts).mpr free⟩

end

/-! ### A name that is already taken -/

/-- `samplePod` with an init container that an earlier injection, or a user, has called like the operator's. -/
def injectedBefore : Pod :=
  { samplePod with spec := { samplePod.spec with
      initContainers := [{ name := "auto-instrumentation-openlit", image := "busybox" }] } }

theorem injectOpenLIT_distinct_iff_sample :
    (@injectOpenLIT asciiFolding sampleConfig samplePod).1 = none ∧
    Distinct (@injectOpenLIT asciiFolding sampleConfig samplePod).2.spec := by
  have ok : (@injectOpenLIT asciiFolding sampleConfig samplePod).1 = none := by decide
  exact ⟨ok, (@injectOpenLIT_distinct_iff asciiFolding sampleConfig samplePod (by decide) ok).mpr (by decide)⟩

/-- A valid configuration and a pod with distinct names, whose injection succeeds and repeats a name. -/
theorem injectOpenLIT_repeats_name :
    ¬ ∀ (folding : CaseFolding) (cfg : InjectorConfig) (pod : Pod), validate cfg = none → Distinct pod.spec →
      (@injectOpenLIT folding cfg pod).1 = none → Distinct (@injectOpenLIT folding cfg pod).2.spec := by
  intro all
  have kept := all asciiFolding sampleConfig injectedBefore (by decide) (by decide) (by decide)
  exact absurd kept (by decide)

end Openlit.InjectorNames
