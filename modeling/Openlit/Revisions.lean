import Mathlib.Data.List.Infix
import Mathlib.Tactic.Common

/-!
A store of one object under optimistic concurrency. Every change makes a new
revision, a read may answer from any earlier state, and a conditional write names
the revision that it is meant for. So a write that is accepted changes the very
object that its writer has read, however old the read was (`write_held`).
-/
namespace Openlit.Revisions

structure Versioned (α : Type) where
  revision : Nat
  value : α

/-- The states of the store, the newest first: an object, or `none` where there
    is none. Every object that is put has a revision of its own. -/
structure Store (α : Type) where
  history : List (Option (Versioned α))
  next : Nat
  older : ∀ v, some v ∈ history → v.revision < next
  unique : ∀ v w, some v ∈ history → some w ∈ history → v.revision = w.revision → v = w

namespace Store
variable {α : Type}

def empty : Store α where
  history := []
  next := 0
  older := by simp
  unique := by simp

def current (s : Store α) : Option (Versioned α) := s.history.head?.join
/-- What a read gives that answers from the state `age` changes ago. Before the first state there was nothing. -/
def read (s : Store α) (age : Nat) : Option (Versioned α) := s.history[age]?.join

def put (s : Store α) (value : α) : Store α where
  history := some ⟨s.next, value⟩ :: s.history
  next := s.next + 1
  older := by
    intro v mem
    rcases List.mem_cons.mp mem with new | old
    · cases new
      exact Nat.lt_succ_self s.next
    · exact Nat.lt_succ_of_lt (s.older v old)
  unique := by
    intro v w memV memW same
    rcases List.mem_cons.mp memV with newV | oldV <;> rcases List.mem_cons.mp memW with newW | oldW
    · cases newV
      cases newW
      rfl
    · cases newV
      have before := s.older w oldW
      simp only at same
      omega
    · cases newW
      have before := s.older v oldV
      simp only at same
      omega
    · exact s.unique v w oldV oldW same
def remove (s : Store α) : Store α where
  history := none :: s.history
  next := s.next
  older := by simpa using s.older
  unique := by simpa using s.unique

/-- Another value for the current object. One that is the same makes no new revision. -/
def replace [DecidableEq α] (s : Store α) (v : Versioned α) (value : α) : Store α := if value = v.value then s else s.put value
/-- A write for one revision. It is refused where the object is gone or has another revision. -/
def write [DecidableEq α] (s : Store α) (revision : Nat) (change : α → α) : Option (Store α) :=
  match s.current with
  | none => none
  | some v => if v.revision = revision then some (s.replace v (change v.value)) else none

@[simp] theorem current_empty : (empty : Store α).current = none := rfl
@[simp] theorem current_put (s : Store α) (value : α) : (s.put value).current = some ⟨s.next, value⟩ := rfl
@[simp] theorem current_remove (s : Store α) : s.remove.current = none := rfl
@[simp] theorem history_put (s : Store α) (value : α) : (s.put value).history = some ⟨s.next, value⟩ :: s.history := rfl
@[simp] theorem history_remove (s : Store α) : s.remove.history = none :: s.history := rfl
@[simp] theorem next_put (s : Store α) (value : α) : (s.put value).next = s.next + 1 := rfl
@[simp] theorem next_remove (s : Store α) : s.remove.next = s.next := rfl
@[simp] theorem read_zero (s : Store α) : s.read 0 = s.current := by
  rw [read, current, List.head?_eq_getElem?]

theorem read_mem {s : Store α} {age : Nat} {v : Versioned α} (found : s.read age = some v) : some v ∈ s.history := by
  rw [read, Option.join_eq_some_iff] at found
  exact List.mem_of_getElem? found
theorem current_mem {s : Store α} {v : Versioned α} (found : s.current = some v) : some v ∈ s.history := by
  rw [← read_zero] at found
  exact read_mem found

variable [DecidableEq α]

/-- A write of something that has been read is accepted exactly while it is the current object. -/
theorem write_held {s : Store α} {v : Versioned α} (held : some v ∈ s.history) (change : α → α) (s' : Store α) :
    s.write v.revision change = some s' ↔
      s.current = some v ∧ s' = s.replace v (change v.value) := by
  rw [write]
  cases now : s.current with
  | none => simp
  | some w =>
    by_cases same : w.revision = v.revision
    · obtain rfl := s.unique w v (current_mem now) held same
      simp [eq_comm]
    · have other : w ≠ v := fun equal => same (congrArg Versioned.revision equal)
      simp [same, other]
theorem write_current {s : Store α} {v : Versioned α} (now : s.current = some v) (change : α → α) :
    s.write v.revision change = some (s.replace v (change v.value)) :=
  (write_held (current_mem now) change _).mpr ⟨now, rfl⟩

theorem current_replace {s : Store α} {v : Versioned α} (now : s.current = some v) (value : α) :
    ∃ w, (s.replace v value).current = some w ∧ w.value = value := by
  unfold replace
  split
  · rename_i same
    exact ⟨v, now, same.symm⟩
  · exact ⟨_, current_put s value, rfl⟩
theorem replace_same (s : Store α) (v : Versioned α) : s.replace v v.value = s := if_pos rfl
/-- The revisions count the changes. -/
theorem next_replace (s : Store α) (v : Versioned α) (value : α) :
    (s.replace v value).next = if value = v.value then s.next else s.next + 1 := by
  unfold replace
  split <;> rfl

end Store

end Openlit.Revisions
