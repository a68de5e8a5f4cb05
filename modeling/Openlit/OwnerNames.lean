import Openlit.GeneratedNames
import Openlit.Injector
import Openlit.Ranks

/-!
The name of the workload that owns a pod. It is the name of the first owner of
the best kind; a ReplicaSet stands for its Deployment, whose name is the part
before the hash of the pod template. Whether there is a hash is guessed from the
lengths, which is right exactly where `hashed_name_cut_iff` says.
-/
namespace Openlit.OwnerNames
open Openlit.Text Openlit.GeneratedNames Openlit.Pods Openlit.Injector Openlit.Ranks

/-! ### The owner that is chosen -/

/-- The first owner of the best kind. -/
def chosen (owners : List OwnerReference) : Option OwnerReference :=
  (firstBest hierarchyOrder OwnerReference.kind owners).map Prod.fst
def resourceName (owner : OwnerReference) : String :=
  if owner.kind = "ReplicaSet" then deploymentOf owner.name else owner.name

/-- At most one kind of the order is the owner's. -/
theorem foldl_considerOwner (owner : OwnerReference) {order : List (String × Nat)} (distinct : (order.map Prod.fst).Nodup)
    (best : String × Nat) :
    order.foldl (considerOwner owner) best =
      match order.lookup owner.kind with
      | some rank => if rank < best.2 then (resourceName owner, rank) else best
      | none => best := by
  induction order generalizing best with
  | nil => rfl
  | cons entry rest ih =>
    obtain ⟨kind, rank⟩ := entry
    rw [List.map_cons, List.nodup_cons] at distinct
    rw [List.foldl_cons, ih distinct.2]
    by_cases same : owner.kind = kind
    · have absent : rest.lookup owner.kind = none := by
        rw [List.lookup_eq_none_iff]
        intro entry member
        refine bne_iff_ne.mpr fun equal => distinct.1 ?_
        exact List.mem_map.mpr ⟨entry, member, equal.symm.trans same⟩
      rw [absent, same, List.lookup_cons_self]
      by_cases better : rank < best.2
      · simp [considerOwner, same, better, resourceName]
      · simp [considerOwner, same, better]
    · have differs : (owner.kind == kind) = false := beq_false_of_ne same
      simp [considerOwner, same, List.lookup_cons, differs]
/-- The first owner of the best kind gives the name. -/
theorem foldl_owners (owners : List OwnerReference) :
    owners.foldl (fun best owner => hierarchyOrder.foldl (considerOwner owner) best) ("", 999) =
      match firstBest hierarchyOrder OwnerReference.kind owners with
      | some (owner, rank) => (resourceName owner, rank)
      | none => ("", 999) := by
  induction owners using List.reverseRecOn with
  | nil => rfl
  | append_singleton owners owner ih =>
    have ranks : ∀ rank ∈ hierarchyOrder.map Prod.snd, rank < 999 := by decide
    rw [List.foldl_concat, ih, foldl_considerOwner owner (by decide), firstBest_concat (by decide)]
    cases here : hierarchyOrder.lookup owner.kind with
    | none => rfl
    | some rank =>
      cases firstBest hierarchyOrder OwnerReference.kind owners with
      | none => simp [preferred, ranks rank (lookup_rank here)]
      | some best =>
        by_cases better : rank < best.2
        · simp [preferred, better]
        · simp [preferred, better]
theorem extractResourceName_chosen (pod : Pod) :
    extractResourceNameFromOwnerReferences pod = ((chosen pod.metadata.ownerReferences).map resourceName).getD "" := by
  rw [extractResourceNameFromOwnerReferences, foldl_owners, chosen]
  cases firstBest hierarchyOrder OwnerReference.kind pod.metadata.ownerReferences <;> rfl

/-! ### The name of a Deployment -/

/-- The name is that of a Deployment with a hash behind it. -/
def HashedName (form : HashForm) (name deployment : String) : Prop :=
  deployment ≠ "" ∧ ∃ hash, form.isHash hash ∧ name = deployment ++ "-" ++ hash
/-- What the injector takes for a hash: a last part of at least eight bytes in a name of more than ten. -/
def LongEnough (name : String) : Prop :=
  ∃ front last, name = front ++ "-" ++ last ∧ '-' ∉ last.toList ∧
    front ≠ "" ∧ 8 ≤ last.utf8ByteSize ∧ 10 < name.utf8ByteSize

theorem beforeLastDash_dashed (front : String) {last : String} (undashed : '-' ∉ last.toList) :
    beforeLastDash (front ++ "-" ++ last) = some front := by
  have dash : "-".toList = ['-'] := rfl
  have passed : ∀ c ∈ last.toList.reverse, decide (c ≠ '-') = true := by
    intro c member
    exact decide_eq_true fun same => undashed (same ▸ List.mem_reverse.mp member)
  have left : (front ++ "-" ++ last).toList.reverse.dropWhile (· ≠ '-') = '-' :: front.toList.reverse := by
    simp only [String.toList_append, dash, List.reverse_append, List.reverse_singleton, List.singleton_append]
    rw [List.dropWhile_append_of_pos passed]
    simp
  rw [beforeLastDash, left]
  simp
theorem beforeLastDash_undashed {name : String} (undashed : '-' ∉ name.toList) : beforeLastDash name = none := by
  have left : name.toList.reverse.dropWhile (· ≠ '-') = [] := by
    rw [List.dropWhile_eq_nil_iff]
    intro c member
    exact decide_eq_true fun same => undashed (same ▸ List.mem_reverse.mp member)
  rw [beforeLastDash, left]

theorem longEnough_dashed {front last : String} (undashed : '-' ∉ last.toList) :
    LongEnough (front ++ "-" ++ last) ↔ front ≠ "" ∧ 8 ≤ last.utf8ByteSize ∧ 10 < (front ++ "-" ++ last).utf8ByteSize := by
  constructor
  · rintro ⟨other, final, same, alsoUndashed, long⟩
    obtain ⟨rfl, rfl⟩ := dashed_inj undashed alsoUndashed same
    exact long
  · intro long
    exact ⟨front, last, rfl, undashed, long⟩
theorem deploymentOf_long {front last : String} (undashed : '-' ∉ last.toList) (long : LongEnough (front ++ "-" ++ last)) :
    deploymentOf (front ++ "-" ++ last) = front := by
  obtain ⟨nonempty, eight, ten⟩ := (longEnough_dashed undashed).mp long
  have size := utf8ByteSize_dashed front last
  have begun : 0 < front.utf8ByteSize := by
    rwa [Nat.pos_iff_ne_zero, ne_eq, String.utf8ByteSize_eq_zero_iff]
  have cut : 0 < front.utf8ByteSize ∧ front.utf8ByteSize < (front ++ "-" ++ last).utf8ByteSize - 8 := by omega
  simp only [deploymentOf, beforeLastDash_dashed front undashed, if_pos ten, if_pos cut]
theorem deploymentOf_short {name : String} (short : ¬ LongEnough name) : deploymentOf name = name := by
  by_cases ten : name.utf8ByteSize > 10
  · by_cases dashed : '-' ∈ name.toList
    · obtain ⟨front, last, rfl, undashed⟩ := exists_dashed dashed
      have size := utf8ByteSize_dashed front last
      have kept : ¬ (0 < front.utf8ByteSize ∧ front.utf8ByteSize < (front ++ "-" ++ last).utf8ByteSize - 8) := by
        rintro ⟨begun, early⟩
        apply short
        refine (longEnough_dashed undashed).mpr ⟨?_, by omega, ten⟩
        rintro rfl
        simp at begun
      simp only [deploymentOf, beforeLastDash_dashed front undashed, if_pos ten, if_neg kept]
    · simp only [deploymentOf, beforeLastDash_undashed dashed, ite_self]
  · simp only [deploymentOf, if_neg ten]

/-- Of a name with a hash the Deployment is found exactly if the hash is long enough. -/
theorem deploymentOf_hashed_iff {form : HashForm} {name deployment : String} (hashed : HashedName form name deployment) :
    deploymentOf name = deployment ↔ LongEnough name := by
  obtain ⟨-, hash, isHash, rfl⟩ := hashed
  by_cases long : LongEnough (deployment ++ "-" ++ hash)
  · simp [deploymentOf_long (form.undashed hash isHash) long, long]
  · simp only [deploymentOf_short long, long, iff_false]
    exact dashed_ne_front deployment hash
theorem deploymentOf_eq_self_iff (name : String) : deploymentOf name = name ↔ ¬ LongEnough name := by
  constructor
  · rintro same ⟨front, last, rfl, undashed, long⟩
    rw [deploymentOf_long undashed ((longEnough_dashed undashed).mpr long)] at same
    exact dashed_ne_front front last same.symm
  · intro short
    exact deploymentOf_short short

/-! ### The name of the workload -/

/-- What a workload's name should be: that of the first owner of the best kind, or of the
    Deployment behind a ReplicaSet with a hash. The order of owners of different kinds does not count. -/
structure NamesWorkload (form : HashForm) (pod : Pod) : Prop where
  unowned : chosen pod.metadata.ownerReferences = none → extractResourceNameFromOwnerReferences pod = ""
  own : ∀ owner, chosen pod.metadata.ownerReferences = some owner → owner.kind ≠ "ReplicaSet" →
    extractResourceNameFromOwnerReferences pod = owner.name
  hashed : ∀ owner, chosen pod.metadata.ownerReferences = some owner → owner.kind = "ReplicaSet" →
    ∀ deployment, HashedName form owner.name deployment → extractResourceNameFromOwnerReferences pod = deployment
  unhashed : ∀ owner, chosen pod.metadata.ownerReferences = some owner → owner.kind = "ReplicaSet" →
    (∀ deployment, ¬ HashedName form owner.name deployment) → extractResourceNameFromOwnerReferences pod = owner.name
  unordered : ∀ other : Pod, (∀ kind, other.metadata.ownerReferences.filter (·.kind = kind) =
    pod.metadata.ownerReferences.filter (·.kind = kind)) →
      extractResourceNameFromOwnerReferences other = extractResourceNameFromOwnerReferences pod

/-- A ReplicaSet that is chosen has a last part that is long enough exactly if that is a hash. -/
def HashesLong (form : HashForm) (owners : List OwnerReference) : Prop :=
  ∀ owner, chosen owners = some owner → owner.kind = "ReplicaSet" →
    ((∃ deployment, HashedName form owner.name deployment) ↔ LongEnough owner.name)

/-- The name is the intended one, for whatever has the form of a hash, exactly if the lengths give the hash away. -/
theorem hashed_name_cut_iff (form : HashForm) (pod : Pod) :
    NamesWorkload form pod ↔ HashesLong form pod.metadata.ownerReferences := by
  have named {owner : OwnerReference} (found : chosen pod.metadata.ownerReferences = some owner) :
      extractResourceNameFromOwnerReferences pod = resourceName owner := by
    rw [extractResourceName_chosen, found]
    rfl
  constructor
  · intro names owner found replicaSet
    have cut : extractResourceNameFromOwnerReferences pod = deploymentOf owner.name := by
      rw [named found, resourceName, if_pos replicaSet]
    constructor
    · rintro ⟨deployment, hashed⟩
      rw [← deploymentOf_hashed_iff hashed, ← cut]
      exact names.hashed owner found replicaSet deployment hashed
    · intro long
      by_contra unhashed
      have same := names.unhashed owner found replicaSet (not_exists.mp unhashed)
      rw [cut] at same
      exact (deploymentOf_eq_self_iff owner.name).mp same long
  · intro lengths
    constructor
    · intro unowned
      rw [extractResourceName_chosen, unowned]
      rfl
    · intro owner found other
      rw [named found, resourceName, if_neg other]
    · intro owner found replicaSet deployment hashed
      rw [named found, resourceName, if_pos replicaSet, deploymentOf_hashed_iff hashed]
      exact (lengths owner found replicaSet).mp ⟨deployment, hashed⟩
    · intro owner found replicaSet unhashed
      rw [named found, resourceName, if_pos replicaSet, deploymentOf_eq_self_iff]
      intro long
      obtain ⟨deployment, hashed⟩ := (lengths owner found replicaSet).mpr long
      exact unhashed deployment hashed
    · intro other same
      rw [extractResourceName_chosen, extractResourceName_chosen, chosen, chosen, firstBest_congr same]

/-- A Deployment whose pod template has a hash of seven letters is not found. -/
theorem short_hash_kept :
    ¬ NamesWorkload templateHashes
      { metadata := { ownerReferences := [{ kind := "ReplicaSet", name := "chat-api-6d4cf56" }] }, spec := { containers := [] } } := by
  intro names
  have cut := names.hashed { kind := "ReplicaSet", name := "chat-api-6d4cf56" } rfl rfl "chat-api"
    ⟨by decide, "6d4cf56", by decide, by decide⟩
  revert cut
  decide

end Openlit.OwnerNames
