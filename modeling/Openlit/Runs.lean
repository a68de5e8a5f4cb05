import Mathlib.Data.List.Induction
import Mathlib.Data.List.Infix

/-!
Runs of a system that takes one action after the other. What a run keeps is
shown action by action, and where an action keeps it exactly on a condition, the
run does exactly if all its actions meet theirs.
-/
namespace Openlit.Runs

section
variable {State Action : Type} (step : State → Action → State) (start : State)

def run (actions : List Action) : State := actions.foldl step start

theorem run_concat (actions : List Action) (a : Action) : run step start (actions ++ [a]) = step (run step start actions) a :=
  List.foldl_concat ..

variable {step start} {Inv : State → Prop} {Good Ok : State → Action → Prop}

theorem run_keeps (starts : Inv start) (keeps : ∀ s a, Inv s → Inv (step s a)) (actions : List Action) :
    Inv (run step start actions) := by
  induction actions using List.reverseRecOn with
  | nil => exact starts
  | append_singleton before a ih =>
    rw [run_concat]
    exact keeps _ a ih

/-- Before every action of a run whose actions are good the invariant holds. -/
theorem run_good (starts : Inv start) (keeps : ∀ s a, Inv s → Good s a → Inv (step s a)) {actions : List Action}
    (good : ∀ before a, before ++ [a] <+: actions → Good (run step start before) a) :
    ∀ before, before <+: actions → Inv (run step start before) := by
  intro before early
  induction before using List.reverseRecOn with
  | nil => exact starts
  | append_singleton before a ih =>
    rw [run_concat]
    exact keeps _ a (ih ((List.prefix_append before [a]).trans early)) (good before a early)
/-- All actions of a run are good exactly if all meet their condition. -/
theorem each_good_iff (starts : Inv start) (keeps : ∀ s a, Inv s → Good s a → Inv (step s a))
    (exact : ∀ s a, Inv s → (Good s a ↔ Ok s a)) (actions : List Action) :
    (∀ before a, before ++ [a] <+: actions → Good (run step start before) a) ↔
      ∀ before a, before ++ [a] <+: actions → Ok (run step start before) a := by
  have earlier {before : List Action} {a : Action} (early : before ++ [a] <+: actions) : before <+: actions :=
    (List.prefix_append before [a]).trans early
  constructor
  · intro good before a early
    have inv := run_good starts keeps good before (earlier early)
    exact (exact _ a inv).mp (good before a early)
  · intro ok before a early
    have inv := run_good starts (fun s a inv met => keeps s a inv ((exact s a inv).mpr met)) ok before (earlier early)
    exact (exact _ a inv).mpr (ok before a early)
/-- An invariant holds throughout a run exactly if all actions meet their condition. -/
theorem always_iff (starts : Inv start) (exact : ∀ s a, Inv s → (Inv (step s a) ↔ Ok s a)) (actions : List Action) :
    (∀ before, before <+: actions → Inv (run step start before)) ↔
      ∀ before a, before ++ [a] <+: actions → Ok (run step start before) a := by
  have each := @each_good_iff _ _ step start Inv (fun s a => Inv (step s a)) Ok starts (fun _ _ _ kept => kept) exact actions
  rw [← each]
  constructor
  · intro always before a early
    rw [← run_concat step start]
    exact always _ early
  · intro kept
    exact run_good starts (fun _ _ _ kept => kept) kept

/-- The steps of a run, up to the last. -/
theorem forall_steps_concat {P : List Action → Action → Prop} {actions : List Action} {a : Action} :
    (∀ before b, before ++ [b] <+: actions ++ [a] → P before b) ↔
      (∀ before b, before ++ [b] <+: actions → P before b) ∧ P actions a := by
  constructor
  · exact fun all => ⟨fun before b early => all before b (early.trans (List.prefix_append ..)), all actions a List.prefix_rfl⟩
  · rintro ⟨earlier, last⟩ before b early
    rcases List.prefix_concat_iff.mp early with same | within
    · obtain ⟨rfl, isLast⟩ := List.append_inj' same rfl
      obtain rfl := List.singleton_inj.mp isLast
      exact last
    · exact earlier before b within
/-- What no action restores is there at the end of a run exactly if all actions keep it. -/
theorem last_iff {Kept : State → Prop} (holds : ∀ actions, Inv (run step start actions)) (starts : Kept start)
    (exact : ∀ s a, Inv s → (Kept (step s a) ↔ Kept s ∧ Ok s a)) (actions : List Action) :
    Kept (run step start actions) ↔ ∀ before a, before ++ [a] <+: actions → Ok (run step start before) a := by
  induction actions using List.reverseRecOn with
  | nil => exact iff_of_true starts fun before a early => absurd (List.prefix_nil.mp early) (by simp)
  | append_singleton before a ih => rw [run_concat, exact _ _ (holds before), ih, forall_steps_concat]

/-- The steps of a run, from the first. -/
theorem forall_steps_nil {P : List Action → Action → Prop} : ∀ before a, before ++ [a] <+: [] → P before a := by
  intro before a early
  exact absurd (List.prefix_nil.mp early) (by simp)
theorem forall_steps_cons {P : List Action → Action → Prop} {first : Action} {actions : List Action} (now : P [] first)
    (later : ∀ before a, before ++ [a] <+: actions → P (first :: before) a) :
    ∀ before a, before ++ [a] <+: first :: actions → P before a := by
  intro before a early
  cases before with
  | nil =>
    obtain ⟨rfl, -⟩ := List.cons_prefix_cons.mp early
    exact now
  | cons b before =>
    obtain ⟨rfl, rest⟩ := List.cons_prefix_cons.mp early
    exact later before a rest

end

end Openlit.Runs
