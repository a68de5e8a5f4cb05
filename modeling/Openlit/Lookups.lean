import Mathlib.Data.List.Nodup
import Mathlib.Data.List.ReduceOption

/-!
Maps as lists of entries, where the first entry of a key is its value.
-/
namespace Openlit.Lookups

variable {κ β : Type} [BEq κ]

/-- An entry of a dict gets another value. -/
def setItem (entries : List (κ × β)) (key : κ) (value : β) : List (κ × β) :=
  entries.map fun entry => if entry.1 == key then (entry.1, value) else entry
theorem setItem_keys (entries : List (κ × β)) (key : κ) (value : β) : (setItem entries key value).map (·.1) = entries.map (·.1) := by
  rw [setItem, List.map_map]
  refine List.map_congr_left fun entry _ => ?_
  rw [Function.comp_apply]
  split <;> rfl

variable [LawfulBEq κ]

theorem mem_of_lookup {entries : List (κ × β)} {key : κ} {value : β} (found : entries.lookup key = some value) :
    (key, value) ∈ entries := by
  obtain ⟨before, after, rfl, -⟩ := List.lookup_eq_some_iff.mp found
  simp
theorem lookup_of_mem {entries : List (κ × β)} (once : (entries.map (·.1)).Nodup) {key : κ} {value : β} (mem : (key, value) ∈ entries) :
    entries.lookup key = some value := by
  induction entries with
  | nil => cases mem
  | cons entry entries ih =>
    obtain ⟨first, others⟩ := List.nodup_cons.mp once
    rcases List.mem_cons.mp mem with rfl | later
    · exact List.lookup_cons_self
    · have listed : key ∈ entries.map (·.1) := List.mem_map_of_mem later
      have notFirst : (key == entry.1) = false := by simpa using ne_of_mem_of_not_mem listed first
      rw [List.lookup_cons, notFirst]
      exact ih others later
theorem lookup_isSome_iff {entries : List (κ × β)} {key : κ} : (entries.lookup key).isSome ↔ key ∈ entries.map (·.1) := by
  cases found : entries.lookup key with
  | none =>
    rw [List.lookup_eq_none_iff] at found
    refine iff_of_false (by simp) fun listed => ?_
    obtain ⟨entry, mem, rfl⟩ := List.mem_map.mp listed
    simpa using found entry mem
  | some value => exact iff_of_true rfl (List.mem_map_of_mem (mem_of_lookup found))
/-- What is left of a map whose entries are kept by their keys. -/
theorem lookup_filter_key (p : κ → Bool) (entries : List (κ × β)) (key : κ) :
    (entries.filter fun entry => p entry.1).lookup key = if p key then entries.lookup key else none := by
  induction entries with
  | nil => simp
  | cons entry rest ih =>
    obtain ⟨first, value⟩ := entry
    rw [List.filter_cons, List.lookup_cons]
    by_cases same : key = first
    · subst same
      cases kept : p key with
      | true => simp
      | false => simpa [kept] using ih
    · have other : (key == first) = false := by simpa using same
      cases kept : p first with
      | true => simpa [List.lookup_cons, other] using ih
      | false => simpa [other] using ih
theorem lookup_setItem (entries : List (κ × β)) (key : κ) (value : β) (other : κ) :
    (setItem entries key value).lookup other =
      if other == key then (entries.lookup key).map fun _ => value else entries.lookup other := by
  induction entries with
  | nil => simp [setItem]
  | cons entry entries ih =>
    obtain ⟨first, old⟩ := entry
    have shape : setItem ((first, old) :: entries) key value =
        (first, if first == key then value else old) :: setItem entries key value := by
      rw [setItem, List.map_cons]
      dsimp only
      split <;> rfl
    rw [shape, List.lookup_cons, List.lookup_cons, List.lookup_cons, ih]
    by_cases same : other = first
    · subst same
      by_cases own : other = key
      · subst own
        simp
      · have notKey : (other == key) = false := by simpa using own
        simp [notKey]
    · have notFirst : (other == first) = false := by simpa using same
      rw [notFirst]
      by_cases own : key = first
      · subst own
        simp [notFirst]
      · have notKey : (key == first) = false := by simpa using own
        simp [notKey]

section
variable {ε π : Type} {read : κ × π → Except ε (Option (κ × β))}

omit [BEq κ] [LawfulBEq κ] in
theorem mapM_cons_ok {p : κ × π} {params : List (κ × π)} {entries : List (Option (κ × β))} (done : (p :: params).mapM read = .ok entries) :
    ∃ first rest, read p = .ok first ∧ params.mapM read = .ok rest ∧ entries = first :: rest := by
  rw [List.mapM_cons] at done
  cases now : read p with
  | error e => simp [now, bind, Except.bind] at done
  | ok first =>
    cases others : params.mapM read with
    | error e => simp [now, others, bind, Except.bind] at done
    | ok rest =>
      simp only [now, others, bind, Except.bind, pure, Except.pure, Except.ok.injEq] at done
      exact ⟨first, rest, rfl, rfl, done.symm⟩
omit [BEq κ] [LawfulBEq κ] in
theorem read_of_mapM {params : List (κ × π)} {entries : List (Option (κ × β))} (done : params.mapM read = .ok entries) {p : κ × π}
    (listed : p ∈ params) : ∃ found, read p = .ok found := by
  induction params generalizing entries with
  | nil => cases listed
  | cons q params ih =>
    obtain ⟨first, rest, now, others, -⟩ := mapM_cons_ok done
    rcases List.mem_cons.mp listed with rfl | later
    · exact ⟨first, now⟩
    · exact ih others later
omit [BEq κ] [LawfulBEq κ] in
theorem keys_of_read (own : ∀ p entry, read p = .ok (some entry) → entry.1 = p.1) {params : List (κ × π)}
    {entries : List (Option (κ × β))} (done : params.mapM read = .ok entries) :
    ∀ entry, some entry ∈ entries → entry.1 ∈ params.map (·.1) := by
  induction params generalizing entries with
  | nil =>
    cases done
    simp
  | cons p params ih =>
    obtain ⟨first, rest, now, others, rfl⟩ := mapM_cons_ok done
    intro entry listed
    rcases List.mem_cons.mp listed with same | later
    · rw [← same] at now
      rw [own p entry now]
      exact List.mem_cons_self
    · exact List.mem_cons_of_mem _ (ih others entry later)
/-- A map that is read parameter by parameter has under the key of each what was read for it. -/
theorem lookup_read (own : ∀ p entry, read p = .ok (some entry) → entry.1 = p.1) {params : List (κ × π)}
    (once : (params.map (·.1)).Nodup) {entries : List (Option (κ × β))} (done : params.mapM read = .ok entries) {p : κ × π}
    (listed : p ∈ params) {found : Option (κ × β)} (reads : read p = .ok found) :
    entries.reduceOption.lookup p.1 = found.map (·.2) := by
  induction params generalizing entries with
  | nil => cases listed
  | cons q params ih =>
    obtain ⟨first, rest, now, others, rfl⟩ := mapM_cons_ok done
    obtain ⟨new, once⟩ := List.nodup_cons.mp once
    rcases List.mem_cons.mp listed with rfl | later
    · obtain rfl : first = found := Except.ok.inj (now.symm.trans reads)
      cases first with
      | some entry =>
        rw [List.reduceOption_cons_of_some, List.lookup_cons, own _ _ reads, beq_self_eq_true]
        rfl
      | none =>
        rw [List.reduceOption_cons_of_none, Option.map_none, List.lookup_eq_none_iff]
        intro entry inside
        have key := keys_of_read own others entry (List.reduceOption_mem_iff.mp inside)
        simpa using (ne_of_mem_of_not_mem key new).symm
    · have different : p.1 ≠ q.1 := ne_of_mem_of_not_mem (List.mem_map_of_mem later) new
      cases first with
      | none =>
        rw [List.reduceOption_cons_of_none]
        exact ih once others later
      | some entry =>
        have notFirst : (p.1 == entry.1) = false := by simpa [own q entry now] using different
        rw [List.reduceOption_cons_of_some, List.lookup_cons, notFirst]
        exact ih once others later

end

end Openlit.Lookups
