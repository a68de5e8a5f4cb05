import Mathlib.Data.List.Basic
import Mathlib.Tactic.Common

/-!
Runs of several parties over one state. A run is the list of the parties'
actions in the order in which they happen; what one party does is its part of
the list, which keeps its order.
-/
namespace Openlit.Interleavings

variable {Party Action : Type} [DecidableEq Party]

/-- The actions of one party. -/
def own (who : Party) (events : List (Party × Action)) : List Action :=
  (events.filter (·.1 = who)).map (·.2)

@[simp] theorem own_nil (who : Party) : own who ([] : List (Party × Action)) = [] := rfl
@[simp] theorem own_append (who : Party) (before after : List (Party × Action)) :
    own who (before ++ after) = own who before ++ own who after := by
  simp [own]
@[simp] theorem own_cons_self (who : Party) (action : Action) (events : List (Party × Action)) :
    own who ((who, action) :: events) = action :: own who events := by
  simp [own]
@[simp] theorem own_cons_other {who other : Party} (different : other ≠ who) (action : Action)
    (events : List (Party × Action)) : own who ((other, action) :: events) = own who events := by
  simp [own, different]
theorem mem_own {who : Party} {events : List (Party × Action)} {action : Action} :
    action ∈ own who events ↔ (who, action) ∈ events := by
  simp [own]

/-- The actions of two parties, one party after the other. -/
theorem own_perm (events : List (Bool × Action)) : (own true events ++ own false events).Perm (events.map (·.2)) := by
  have parts := (List.filter_append_perm (fun event : Bool × Action => event.1) events).map (·.2)
  rw [List.map_append] at parts
  simpa [own] using parts

/-- The runs of two parties, for the actions of each. -/
def shuffles : List Action → List Action → List (List (Bool × Action))
  | [], second => [second.map (false, ·)]
  | first :: rest, [] => [(first :: rest).map (true, ·)]
  | first :: rest, second :: later =>
    (shuffles rest (second :: later)).map ((true, first) :: ·) ++ (shuffles (first :: rest) later).map ((false, second) :: ·)
  termination_by first second => first.length + second.length

theorem shuffles_nil_right (first : List Action) : shuffles first [] = [first.map (true, ·)] := by
  cases first with
  | nil => rw [shuffles]; rfl
  | cons action rest => rw [shuffles]
theorem mem_shuffles (events : List (Bool × Action)) : events ∈ shuffles (own true events) (own false events) := by
  induction events with
  | nil => simp [shuffles]
  | cons event rest ih =>
    obtain ⟨who, action⟩ := event
    cases who with
    | true =>
      rw [own_cons_self, own_cons_other (by decide)]
      cases theirs : own false rest with
      | nil =>
        rw [theirs, shuffles_nil_right, List.mem_singleton] at ih
        rw [shuffles_nil_right, List.map_cons, ← ih]
        exact List.mem_singleton_self _
      | cons second later =>
        rw [shuffles, List.mem_append, List.mem_map]
        exact .inl ⟨rest, theirs ▸ ih, rfl⟩
    | false =>
      rw [own_cons_self, own_cons_other (by decide)]
      cases mine : own true rest with
      | nil =>
        rw [mine, shuffles, List.mem_singleton] at ih
        rw [shuffles, List.map_cons, ← ih]
        exact List.mem_singleton_self _
      | cons first later =>
        rw [shuffles, List.mem_append, List.mem_map, List.mem_map]
        exact .inr ⟨rest, mine ▸ ih, rfl⟩

/-- An action is where its party has it: between what the party does before and after. -/
theorem own_split (who : Party) (before after : List (Party × Action)) (action : Action) :
    own who (before ++ (who, action) :: after) = own who before ++ action :: own who after := by
  simp

omit [DecidableEq Party] in
/-- Of two different actions, one that does not come after the other comes before it. -/
theorem mem_of_not_later {first second : Party × Action} {before after before' after' : List (Party × Action)}
    (same : before ++ first :: after = before' ++ second :: after') (different : first ≠ second)
    (notLater : first ∉ after') : second ∈ after := by
  rcases List.append_eq_append_iff.mp same with ⟨between, rfl, rest⟩ | ⟨between, rfl, rest⟩
  · cases between with
    | nil => exact absurd (List.cons.inj rest).1 different
    | cons head tail =>
      rw [(List.cons.inj rest).2]
      simp
  · cases between with
    | nil => exact absurd (List.cons.inj rest).1.symm different
    | cons head tail =>
      rw [(List.cons.inj rest).2] at notLater
      simp at notLater

end Openlit.Interleavings
