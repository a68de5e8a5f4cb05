import Openlit.WebhookSelection

/-!
The resources that the documentation allows for a pod, and when the webhook
keeps to them. It compares labels only: `matchExpressions`, the ignore selector
and the switch `enabled` do not take part, a label that is missing passes for an
empty one, and a pod without a namespace in its object is matched against the
resources of every namespace.
-/
namespace Openlit.WebhookEligibility
open Openlit.Text Openlit.Values Openlit.Pods Openlit.Manifests Openlit.Sorting Openlit.Webhook Openlit.WebhookSelection

/-! ### Label selectors -/

/-- A requirement of a label selector. One with an unknown operator holds of no pod. -/
def requirementHolds (labels : StringMap) (r : LabelSelectorRequirement) : Bool :=
  match r.operator with
  | .opIn => (labels.lookup r.key).any fun value => value ∈ r.values
  | .opNotIn => (labels.lookup r.key).all fun value => value ∉ r.values
  | .opExists => (labels.lookup r.key).isSome
  | .opDoesNotExist => (labels.lookup r.key).isNone
  | .other _ => false
/-- All entries and all requirements of a selector hold; one without any holds of every pod. -/
def selectorHolds (labels : StringMap) (s : PodSelector) : Bool :=
  (s.matchLabels.getD []).all (fun entry => labels.lookup entry.1 = some entry.2) &&
  s.matchExpressions.all (requirementHolds labels)
def podLabels (pod : Pod) : StringMap := pod.metadata.labels.getD []

def ignored (pod : Pod) (r : Stored) : Bool := r.spec.ignore.any (selectorHolds (podLabels pod))
def disabled (r : Stored) : Bool :=
  ((r.spec.python.bind (·.instrumentation)).bind (·.enabled)) = some false

/-- A resource may be used for a pod. -/
structure Eligible (req : Request) (r : Stored) : Prop where
  home : r.nameSpace = req.nameSpace ∨ r.nameSpace = "openlit"
  selected : selectorHolds (podLabels req.pod) r.spec.selector = true
  notIgnored : ignored req.pod r = false
  enabled : disabled r = false

/-- A request is answered for a resource that may be used, or the pod is admitted as it is. -/
def Sound (cluster : Cluster) (req : Request) : Except Crash Response → Prop
  | .ok .allowed => True
  | .ok (.patched cfg _) =>
    ∃ r ∈ cluster.resources, (r.nameSpace, r.name) = (cfg.nameSpace, cfg.name) ∧ Eligible req r
  | .error _ => False

/-- What a label match must still satisfy for the webhook to be right in using it. -/
structure Undisturbed (req : Request) (r : Stored) : Prop where
  home : req.pod.metadata.nameSpace = "" → r.nameSpace = req.nameSpace ∨ r.nameSpace = "openlit"
  present : ∀ entry ∈ r.spec.selector.matchLabels.getD [], entry.2 = "" → ((podLabels req.pod).lookup entry.1).isSome
  expressions : r.spec.selector.matchExpressions.all (requirementHolds (podLabels req.pod)) = true
  notIgnored : ignored req.pod r = false
  enabled : disabled r = false

/-! ### Label matches and eligibility -/

theorem podMatchesSelector_labels {pod : Pod} {selector : StringMap} (found : podMatchesSelector pod selector = true) :
    ∀ entry ∈ selector, ((podLabels pod).lookup entry.1).getD "" = entry.2 := by
  unfold podMatchesSelector at found
  unfold podLabels
  cases labels : pod.metadata.labels with
  | none => simp [labels] at found
  | some labels' => simpa [labels] using found

/-- A label match has the labels of the selector, up to missing labels that read as empty. -/
theorem labels_hold_iff {pod : Pod} {r : Stored} (found : labelMatches pod r = true) :
    (r.spec.selector.matchLabels.getD []).all (fun entry => (podLabels pod).lookup entry.1 = some entry.2) = true ↔
      ∀ entry ∈ r.spec.selector.matchLabels.getD [], entry.2 = "" → ((podLabels pod).lookup entry.1).isSome := by
  obtain ⟨labels, block, passed⟩ := (Option.any_eq_true _ _).mp found
  have reads := podMatchesSelector_labels passed
  rw [block, Option.getD_some, List.all_eq_true]
  constructor
  · intro holds entry member _
    have value : (podLabels pod).lookup entry.1 = some entry.2 := by simpa using holds entry member
    simp [value]
  · intro present entry member
    have read := reads entry member
    cases value : (podLabels pod).lookup entry.1 with
    | none =>
      have empty : entry.2 = "" := by simpa [value] using read.symm
      have there := present entry member empty
      simp [value] at there
    | some text => simpa [value] using read

/-- The namespace of a resource that is consulted, for a pod that carries its own. -/
theorem consulted_home {cluster : Cluster} {pod : Pod} {r : Stored} (member : r ∈ consulted cluster pod)
    (own : pod.metadata.nameSpace ≠ "") : r.nameSpace = pod.metadata.nameSpace ∨ r.nameSpace = "openlit" := by
  have listed {nameSpace : String} (inside : r ∈ candidates cluster pod nameSpace) (named : nameSpace ≠ "") :
      r.nameSpace = nameSpace := by
    have served := (List.mem_filter.mp inside).1
    unfold listing at served
    split at served
    · simp at served
    · simpa [named] using (List.mem_filter.mp served).2
  unfold consulted at member
  split at member
  · exact .inr (listed member (by decide))
  · exact .inl (listed member own)
theorem consulted_mem {cluster : Cluster} {pod : Pod} {r : Stored} (member : r ∈ consulted cluster pod) :
    r ∈ cluster.resources ∧ labelMatches pod r = true := by
  have listed {nameSpace : String} (inside : r ∈ candidates cluster pod nameSpace) :
      r ∈ cluster.resources ∧ labelMatches pod r = true := by
    obtain ⟨served, found⟩ := List.mem_filter.mp inside
    unfold listing at served
    split at served
    · simp at served
    · exact ⟨(List.mem_filter.mp served).1, found⟩
  unfold consulted at member
  split at member
  · exact listed member
  · exact listed member

theorem eligible_iff {cluster : Cluster} {req : Request} {r : Stored} (member : r ∈ consulted cluster req.pod) :
    Eligible req r ↔ Undisturbed req r := by
  have labels := labels_hold_iff (consulted_mem member).2
  constructor
  · rintro ⟨home, selected, notIgnored, enabled⟩
    obtain ⟨entries, expressions⟩ := Bool.and_eq_true_iff.mp selected
    exact ⟨fun _ => home, labels.mp entries, expressions, notIgnored, enabled⟩
  · rintro ⟨home, present, expressions, notIgnored, enabled⟩
    refine ⟨?_, Bool.and_eq_true_iff.mpr ⟨labels.mpr present, expressions⟩, notIgnored, enabled⟩
    by_cases own : req.pod.metadata.nameSpace = ""
    · exact home own
    · rcases req.agrees with empty | same
      · exact absurd empty own
      · exact same ▸ consulted_home member own

/-! ### When the webhook keeps to the eligible resources -/

section
variable [TimeParsing] [CaseFolding]

/-- Whatever the sort does with resources of one age, the webhook keeps to
    eligible resources exactly if every label match that it consults has a
    Python block and the oldest of them are undisturbed by what it overlooks. -/
theorem handle_sound_iff (cluster : Cluster) (req : Request) :
    (∀ sort : CreationSort, Sound cluster req (handle sort cluster req)) ↔
      (∀ r ∈ consulted cluster req.pod, r.spec.python.isSome) ∧
      ∀ r, Least created (consulted cluster req.pod) r → Undisturbed req r := by
  constructor
  · intro sound
    have python : ∀ r ∈ consulted cluster req.pod, r.spec.python.isSome := by
      rcases handle_cases (stableSort _) cluster req with ⟨crashed, -⟩ | ⟨python, -⟩
      · have never := sound (stableSort _)
        rw [crashed] at never
        exact never.elim
      · exact python
    refine ⟨python, fun r least => ?_⟩
    obtain ⟨sort, chosen⟩ := exists_selectConfig_parsed least
    have answered := sound sort
    rcases handle_cases sort cluster req with ⟨crashed, -⟩ | ⟨-, ⟨-, none_⟩ | ⟨first, pod, taken, -, patched⟩⟩
    · rw [crashed] at answered
      exact answered.elim
    · rw [none_] at least
      cases least.1
    · rw [patched] at answered
      obtain ⟨used, stored, key, eligible⟩ := answered
      have same : parsed first = parsed r := Option.some.inj (taken.symm.trans chosen)
      have keys : (used.nameSpace, used.name) = (r.nameSpace, r.name) := by
        rw [key, same]
        rfl
      obtain rfl := List.inj_on_of_nodup_map cluster.keys stored (consulted_mem least.1).1 keys
      exact (eligible_iff least.1).mp eligible
  · rintro ⟨python, undisturbed⟩ sort
    rcases handle_cases sort cluster req with ⟨-, r, member, absent⟩ | ⟨-, ⟨allowed, -⟩ | ⟨r, pod, -, least, patched⟩⟩
    · have present := python r member
      simp [absent] at present
    · rw [allowed]
      trivial
    · rw [patched]
      exact ⟨r, (consulted_mem least.1).1, rfl, (eligible_iff least.1).mpr (undisturbed r least)⟩

end

/-! ### An ignored pod -/

/-- A resource that tells the webhook to skip pods of the debug tier, and switches nothing off. -/
def ignoringSpec : AutoInstrumentationSpec :=
  { ignore := some { matchLabels := some [("tier", "debug")] }, python := some {} }

/-- A pod that the ignore selector of a resource matches is answered for that resource. -/
theorem ignored_pod_is_patched :
    ¬ ∀ [TimeParsing] [CaseFolding] (sort : CreationSort) (cluster : Cluster) (req : Request),
        Sound cluster req (handle sort cluster req) := by
  intro all
  have sound := @all noTime asciiFolding (stableSort _) (sampleCluster ignoringSpec) sampleRequest
  rcases @handle_cases noTime asciiFolding (stableSort _) (sampleCluster ignoringSpec) sampleRequest with
    ⟨crashed, -⟩ | ⟨-, ⟨-, none_⟩ | ⟨r, pod, -, -, patched⟩⟩
  · rw [crashed] at sound
    exact sound
  · exact absurd none_ (by decide)
  · rw [patched] at sound
    obtain ⟨used, stored, -, eligible⟩ := sound
    obtain rfl := List.mem_singleton.mp stored
    exact absurd eligible.notIgnored (by decide)

end Openlit.WebhookEligibility
