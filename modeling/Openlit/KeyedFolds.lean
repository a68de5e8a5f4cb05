import Mathlib.Logic.Function.Basic

/-!
Folds that add each entry to the content of its key. Such a fold is one fold for each key over the entries that have it: it fails
exactly if one of these does, and has their results.
-/
namespace Openlit.KeyedFolds

variable {σ M κ C : Type} [DecidableEq κ]

/-- A step changes the content of an entry's key alone, as `add` does, and fails with it. An entry without a key is ignored. -/
structure Adds (valid : σ → Prop) (view : σ → κ → C) (key : M → Option κ) (add : C → M → Option C) (step : σ → M → Option σ) :
    Prop where
  ignored : ∀ {s m}, valid s → key m = none → step s m = some s
  added : ∀ {s m k c}, valid s → key m = some k → add (view s k) m = some c →
    ∃ s', step s m = some s' ∧ valid s' ∧ view s' = Function.update (view s) k c
  failed : ∀ {s m k}, valid s → key m = some k → add (view s k) m = none → step s m = none

/-- The entries that have a key. -/
def ofKey (key : M → Option κ) (k : κ) (entries : List M) : List M := entries.filter (key · = some k)

section
variable {valid : σ → Prop} {view : σ → κ → C} {key : M → Option κ} {add : C → M → Option C} {step : σ → M → Option σ}

theorem ofKey_own {m : M} {k : κ} (isKey : key m = some k) (entries : List M) : ofKey key k (m :: entries) = m :: ofKey key k entries :=
  List.filter_cons_of_pos (by simpa using isKey)
theorem ofKey_other {m : M} {k : κ} (notKey : key m ≠ some k) (entries : List M) : ofKey key k (m :: entries) = ofKey key k entries :=
  List.filter_cons_of_neg (by simpa using notKey)

theorem Adds.run_some (adds : Adds valid view key add step) {entries : List M} {s s' : σ} (isValid : valid s)
    (done : entries.foldlM step s = some s') : valid s' ∧ ∀ k, (ofKey key k entries).foldlM add (view s k) = some (view s' k) := by
  induction entries generalizing s with
  | nil =>
    obtain rfl := Option.some.inj done
    exact ⟨isValid, fun _ => rfl⟩
  | cons m entries ih =>
    obtain ⟨s₁, stepped, rest⟩ := Option.bind_eq_some_iff.mp done
    cases isKey : key m with
    | none =>
      obtain rfl := Option.some.inj ((adds.ignored isValid isKey).symm.trans stepped)
      obtain ⟨valid', views⟩ := ih isValid rest
      exact ⟨valid', fun k => by rw [ofKey_other (by simp [isKey]), views k]⟩
    | some own =>
      cases content : add (view s own) m with
      | none => cases (adds.failed isValid isKey content).symm.trans stepped
      | some c =>
        obtain ⟨s₂, stepped', valid', changed⟩ := adds.added isValid isKey content
        obtain rfl := Option.some.inj (stepped.symm.trans stepped')
        obtain ⟨validEnd, views⟩ := ih valid' rest
        refine ⟨validEnd, fun k => ?_⟩
        have view_k := views k
        rw [changed] at view_k
        by_cases same : k = own
        · subst same
          rw [Function.update_self] at view_k
          rw [ofKey_own isKey, List.foldlM_cons, content]
          exact view_k
        · rw [Function.update_of_ne same] at view_k
          rw [ofKey_other (by simpa [isKey] using Ne.symm same), view_k]
theorem Adds.run_none (adds : Adds valid view key add step) {entries : List M} {s : σ} (isValid : valid s)
    (failed : entries.foldlM step s = none) : ∃ k, (ofKey key k entries).foldlM add (view s k) = none := by
  induction entries generalizing s with
  | nil => cases failed
  | cons m entries ih =>
    rw [List.foldlM_cons] at failed
    cases isKey : key m with
    | none =>
      rw [adds.ignored isValid isKey] at failed
      obtain ⟨k, none'⟩ := ih isValid failed
      exact ⟨k, by rw [ofKey_other (by simp [isKey]), none']⟩
    | some own =>
      cases content : add (view s own) m with
      | none => exact ⟨own, by rw [ofKey_own isKey, List.foldlM_cons, content]; rfl⟩
      | some c =>
        obtain ⟨s₁, stepped, valid', changed⟩ := adds.added isValid isKey content
        rw [stepped] at failed
        obtain ⟨k, none'⟩ := ih valid' failed
        rw [changed] at none'
        refine ⟨k, ?_⟩
        by_cases same : k = own
        · subst same
          rw [Function.update_self] at none'
          rw [ofKey_own isKey, List.foldlM_cons, content]
          exact none'
        · rw [Function.update_of_ne same] at none'
          rw [ofKey_other (by simpa [isKey] using Ne.symm same), none']
/-- The fold has a result exactly if those of all keys have. -/
theorem Adds.isSome_iff (adds : Adds valid view key add step) {entries : List M} {s : σ} (isValid : valid s) :
    (entries.foldlM step s).isSome ↔ ∀ k, ((ofKey key k entries).foldlM add (view s k)).isSome := by
  cases result : entries.foldlM step s with
  | none =>
    obtain ⟨k, none'⟩ := adds.run_none isValid result
    exact iff_of_false (by simp) fun all => by simpa [none'] using all k
  | some s' => exact iff_of_true rfl fun k => by rw [(adds.run_some isValid result).2 k]; rfl

end
end Openlit.KeyedFolds
