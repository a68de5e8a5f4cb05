import Openlit.Interleavings

/-!
Two updates of a register that is read as a whole and written back as a whole.
An update is about a part of the value: it leaves the rest as it has read it,
and what it makes of its part depends on that part alone. One of two updates of
different parts is lost exactly if the other, which has read the register
before, writes it afterwards.
-/
namespace Openlit.Registers
open Openlit.Interleavings

inductive Access
  | read
  | write
  deriving DecidableEq

/-- The register, and what each of the updates has read. -/
structure Register (σ : Type) where
  stored : σ
  copy : Bool → σ

section
variable {σ : Type} (update : Bool → σ → Option σ)

/-- An update may also end without a write. -/
def access (register : Register σ) : Bool × Access → Register σ
  | (who, .read) => { register with copy := Function.update register.copy who register.stored }
  | (who, .write) => { register with stored := (update who (register.copy who)).getD register.stored }
/-- What the register holds in the end. -/
def result (events : List (Bool × Access)) (start : σ) : σ :=
  (events.foldl (access update) { stored := start, copy := fun _ => start }).stored
/-- What an update alone leaves. -/
def effect (who : Bool) (value : σ) : σ := (update who value).getD value

/-- Each party reads once and then writes. -/
def Interleaved (events : List (Bool × Access)) : Prop := ∀ who, own who events = [.read, .write]
def Earlier (events : List (Bool × Access)) (first second : Bool × Access) : Prop := events.idxOf first < events.idxOf second
instance (events : List (Bool × Access)) (first second : Bool × Access) : Decidable (Earlier events first second) :=
  inferInstanceAs (Decidable (_ < _))

def oneAfterOther (first : Bool) : List (Bool × Access) :=
  [(first, .read), (first, .write), (!first, .read), (!first, .write)]
/-- Both read before either writes. -/
def overlapping (reads writes : Bool) : List (Bool × Access) :=
  [(reads, .read), (!reads, .read), (writes, .write), (!writes, .write)]

theorem interleaved_cases {events : List (Bool × Access)} (interleaved : Interleaved events) :
    (∃ first, events = oneAfterOther first) ∨ ∃ reads writes, events = overlapping reads writes := by
  have inside := mem_shuffles events
  rw [interleaved true, interleaved false] at inside
  simp only [shuffles, List.map_cons, List.map_nil, List.cons_append, List.nil_append, List.mem_cons, List.not_mem_nil,
    or_false] at inside
  rcases inside with rfl | rfl | rfl | rfl | rfl | rfl
  · exact .inl ⟨true, rfl⟩
  · exact .inr ⟨true, true, rfl⟩
  · exact .inr ⟨true, false, rfl⟩
  · exact .inr ⟨false, true, rfl⟩
  · exact .inr ⟨false, false, rfl⟩
  · exact .inl ⟨false, rfl⟩
theorem earlier_oneAfterOther (first : Bool) : Earlier (oneAfterOther first) (first, .write) (!first, .read) := by
  cases first <;> decide
theorem not_earlier_overlapping (reads writes who : Bool) :
    ¬Earlier (overlapping reads writes) (who, .write) (!who, .read) := by
  cases reads <;> cases writes <;> cases who <;> decide
theorem earlier_overlapping_iff (reads writes who : Bool) :
    Earlier (overlapping reads writes) (who, .write) (!who, .write) ↔ who = writes := by
  cases reads <;> cases writes <;> cases who <;> decide

theorem result_oneAfterOther (first : Bool) (start : σ) :
    result update (oneAfterOther first) start = effect update (!first) (effect update first start) := by
  simp [result, oneAfterOther, access, effect]
theorem result_overlapping (reads writes : Bool) (start : σ) :
    result update (overlapping reads writes) start = (update (!writes) start).getD (effect update writes start) := by
  cases reads <;> cases writes <;> simp [result, overlapping, access, effect]

end

/-- Updates of different parts, where `same` compares a value's part. -/
structure Separate {σ : Type} (update : Bool → σ → Option σ) (same : Bool → σ → σ → Prop) : Prop where
  equivalence : ∀ who, Equivalence (same who)
  frame : ∀ who value, same who value (effect update (!who) value)
  own : ∀ who value other, same who value other → same who (effect update who value) (effect update who other)

section
variable {σ : Type} {update : Bool → σ → Option σ} {same : Bool → σ → σ → Prop} (separate : Separate update same)
include separate

theorem oneAfterOther_keeps (first : Bool) (start : σ) (who : Bool) :
    same who (effect update who start) (result update (oneAfterOther first) start) := by
  rw [result_oneAfterOther]
  by_cases mine : who = first
  · rw [mine]
    exact separate.frame first (effect update first start)
  · rw [Bool.eq_not_of_ne mine]
    have untouched := separate.frame (!first) start
    rw [Bool.not_not] at untouched
    exact separate.own (!first) _ _ untouched
/-- The effect of the later write is there; that of the earlier one is if the
    later one does not happen, or if there was nothing to change. -/
theorem overlapping_keeps_iff (reads writes : Bool) (start : σ) :
    (∀ who, same who (effect update who start) (result update (overlapping reads writes) start)) ↔
      update (!writes) start = none ∨ same writes start (effect update writes start) := by
  rw [result_overlapping]
  have untouched := separate.frame writes start
  cases written : update (!writes) start with
  | none =>
    refine iff_of_true (fun who => ?_) (.inl rfl)
    by_cases mine : who = writes
    · rw [mine]
      exact (separate.equivalence writes).refl _
    · rw [Bool.eq_not_of_ne mine, show effect update (!writes) start = start by rw [effect, written]; rfl]
      have other := separate.frame (!writes) start
      rw [Bool.not_not] at other
      exact other
  | some value =>
    rw [show effect update (!writes) start = value by rw [effect, written]; rfl] at untouched
    rw [Option.getD_some, or_iff_right (by simp)]
    constructor
    · intro both
      exact (separate.equivalence writes).trans untouched ((separate.equivalence writes).symm (both writes))
    · intro nothing who
      by_cases mine : who = writes
      · rw [mine]
        exact (separate.equivalence writes).trans ((separate.equivalence writes).symm nothing) untouched
      · rw [Bool.eq_not_of_ne mine, show effect update (!writes) start = value by rw [effect, written]; rfl]
        exact (separate.equivalence (!writes)).refl _

/-- Both effects are there exactly if one update reads after the other has
    written, or the one that is overwritten has changed nothing of its part. -/
theorem both_effects_iff {events : List (Bool × Access)} (interleaved : Interleaved events) (start : σ) :
    (∀ who, same who (effect update who start) (result update events start)) ↔
      (∃ first, Earlier events (first, .write) (!first, .read)) ∨
        ∀ first, Earlier events (first, .write) (!first, .write) →
          update (!first) start = none ∨ same first start (effect update first start) := by
  rcases interleaved_cases interleaved with ⟨first, rfl⟩ | ⟨reads, writes, rfl⟩
  · exact iff_of_true (oneAfterOther_keeps separate first start) (.inl ⟨first, earlier_oneAfterOther first⟩)
  · have never : ¬∃ first, Earlier (overlapping reads writes) (first, .write) (!first, .read) := by
      rintro ⟨first, earlier⟩
      exact not_earlier_overlapping reads writes first earlier
    rw [overlapping_keeps_iff separate, or_iff_right never]
    simp only [earlier_overlapping_iff, forall_eq]

end

end Openlit.Registers
