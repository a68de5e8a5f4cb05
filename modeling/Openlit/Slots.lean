import Mathlib.Data.List.Basic
import Mathlib.Data.List.ReduceOption

/-!
A list of slots that grows as far as it is written. Each item updates the slot
at its index, which may fail and then ends the writing. What a slot holds at the
end is what the items for that slot make of it, one after the other.
-/
namespace Openlit.Slots
variable {σ α ε : Type} (update : Option σ → α → Except ε (Option σ)) (index : α → Nat)

def grow (slots : List (Option σ)) (length : Nat) : List (Option σ) :=
  slots ++ List.replicate (length - slots.length) none
/-- What is at a position, where beyond the end there is nothing. -/
def held (slots : List (Option σ)) (i : Nat) : Option σ := (slots[i]?).join
/-- The slots as they are at the end, and the error that ended the writing. -/
def writeAll (slots : List (Option σ)) : List α → List (Option σ) × Option ε
  | [] => (slots, none)
  | a :: rest =>
    let slots := grow slots (index a + 1)
    match update (held slots (index a)) a with
    | .error e => (slots, some e)
    | .ok slot => writeAll (slots.set (index a) slot) rest
/-- What some items, one after the other, make of a slot. -/
def folded (slot : Option σ) (items : List α) : Except ε (Option σ) := items.foldlM update slot

@[simp] theorem held_nil (i : Nat) : held ([] : List (Option σ)) i = none := by
  simp [held]
@[simp] theorem held_grow (slots : List (Option σ)) (length i : Nat) : held (grow slots length) i = held slots i := by
  unfold held grow
  by_cases inside : i < slots.length
  · rw [List.getElem?_append_left inside]
  · rw [List.getElem?_append_right (by omega), List.getElem?_eq_none (l := slots) (by omega), List.getElem?_replicate]
    split <;> rfl
theorem length_grow (slots : List (Option σ)) (length : Nat) : (grow slots length).length = max slots.length length := by
  simp only [grow, List.length_append, List.length_replicate]
  omega
theorem held_set {slots : List (Option σ)} {i : Nat} (inside : i < slots.length) (slot : Option σ) (j : Nat) :
    held (slots.set i slot) j = if i = j then slot else held slots j := by
  unfold held
  rw [List.getElem?_set]
  by_cases same : i = j
  · simp [← same, inside]
  · simp [same]

theorem writeAll_cons (slots : List (Option σ)) (a : α) (rest : List α) :
    writeAll update index slots (a :: rest) =
      match update (held slots (index a)) a with
      | .error e => (grow slots (index a + 1), some e)
      | .ok slot => writeAll update index ((grow slots (index a + 1)).set (index a) slot) rest := by
  rw [writeAll, held_grow]
theorem held_written (slots : List (Option σ)) (i : Nat) (slot : Option σ) (j : Nat) :
    held ((grow slots (i + 1)).set i slot) j = if i = j then slot else held slots j := by
  rw [held_set (by rw [length_grow]; omega), held_grow]
theorem folded_cons (slot : Option σ) (a : α) (items : List α) :
    folded update slot (a :: items) =
      match update slot a with
      | .error e => .error e
      | .ok next => folded update next items := by
  rw [folded, List.foldlM_cons]
  cases update slot a <;> rfl

theorem folded_concat (slot : Option σ) (items : List α) (a : α) :
    folded update slot (items ++ [a]) =
      match folded update slot items with
      | .error e => .error e
      | .ok next => update next a := by
  induction items generalizing slot with
  | nil =>
    rw [List.nil_append, folded_cons]
    cases updated : update slot a with
    | error e => simp [folded, updated, pure, Except.pure]
    | ok next => simp [folded, updated, pure, Except.pure]
  | cons b rest ih =>
    rw [List.cons_append, folded_cons, folded_cons]
    cases update slot b with
    | error e => rfl
    | ok next => exact ih next

variable {update index}

/-- What writing without an error leaves in a slot. -/
theorem folded_of_writeAll {items : List α} {slots slots' : List (Option σ)} (written : writeAll update index slots items = (slots', none))
    (j : Nat) : folded update (held slots j) (items.filter (index · = j)) = .ok (held slots' j) := by
  induction items generalizing slots with
  | nil =>
    cases written
    rfl
  | cons a rest ih =>
    rw [writeAll_cons] at written
    cases updated : update (held slots (index a)) a with
    | error e => simp [updated] at written
    | ok slot =>
      rw [updated] at written
      have later := ih written
      rw [held_written] at later
      by_cases same : index a = j
      · subst same
        rw [List.filter_cons_of_pos (by simp), folded_cons, updated]
        simpa using later
      · rw [List.filter_cons_of_neg (by simpa using same)]
        simpa [same] using later
/-- Writing has no error if none of the slots does. -/
theorem exists_writeAll {items : List α} {slots : List (Option σ)}
    (folds : ∀ j, ∃ slot, folded update (held slots j) (items.filter (index · = j)) = .ok slot) :
    ∃ slots', writeAll update index slots items = (slots', none) := by
  induction items generalizing slots with
  | nil => exact ⟨slots, rfl⟩
  | cons a rest ih =>
    obtain ⟨last, first⟩ := folds (index a)
    rw [List.filter_cons_of_pos (by simp), folded_cons] at first
    rw [writeAll_cons]
    cases updated : update (held slots (index a)) a with
    | error e => simp [updated] at first
    | ok slot =>
      rw [updated] at first
      refine ih fun j => ?_
      rw [held_written]
      by_cases same : index a = j
      · subst same
        exact ⟨last, by simpa using first⟩
      · obtain ⟨other, held⟩ := folds j
        rw [List.filter_cons_of_neg (by simpa using same)] at held
        exact ⟨other, by simpa [same] using held⟩
/-- The slots reach no further than the items. -/
theorem length_writeAll {items : List α} {slots : List (Option σ)} {bound : Nat} (short : slots.length ≤ bound)
    (inside : ∀ a ∈ items, index a < bound) : (writeAll update index slots items).1.length ≤ bound := by
  induction items generalizing slots with
  | nil => exact short
  | cons a rest ih =>
    rw [List.forall_mem_cons] at inside
    have grown : (grow slots (index a + 1)).length ≤ bound := by
      rw [length_grow]
      omega
    rw [writeAll_cons]
    cases update (held slots (index a)) a with
    | error e => exact grown
    | ok slot => exact ih (by simpa using grown) inside.2
/-- The slots reach as far as every item. -/
theorem index_lt_length {items : List α} {slots slots' : List (Option σ)} (written : writeAll update index slots items = (slots', none)) :
    slots.length ≤ slots'.length ∧ ∀ a ∈ items, index a < slots'.length := by
  induction items generalizing slots with
  | nil =>
    cases written
    simp
  | cons a rest ih =>
    rw [writeAll_cons] at written
    cases updated : update (held slots (index a)) a with
    | error e => simp [updated] at written
    | ok slot =>
      rw [updated] at written
      obtain ⟨longer, others⟩ := ih written
      rw [List.length_set, length_grow] at longer
      exact ⟨by omega, List.forall_mem_cons.mpr ⟨by omega, others⟩⟩
theorem writeAll_append (slots : List (Option σ)) (items more : List α) :
    writeAll update index slots (items ++ more) =
      match writeAll update index slots items with
      | (slots', none) => writeAll update index slots' more
      | (slots', some e) => (slots', some e) := by
  induction items generalizing slots with
  | nil => rfl
  | cons a rest ih =>
    rw [List.cons_append, writeAll_cons, writeAll_cons]
    cases update (held slots (index a)) a with
    | error e => rfl
    | ok slot => exact ih _

/-- The slots by their positions. -/
theorem map_held (slots : List (Option σ)) : (List.range slots.length).map (held slots) = slots := by
  refine List.ext_getElem (by simp) fun i _ inside => ?_
  simp [held, inside]
theorem reduceOption_held {slots : List (Option σ)} {bound : Nat} (short : slots.length ≤ bound) :
    ((List.range bound).map (held slots)).reduceOption = slots.reduceOption := by
  obtain ⟨more, rfl⟩ := Nat.exists_eq_add_of_le short
  have beyond : ∀ i ∈ List.range more, held slots (slots.length + i) = none := by
    intro i _
    simp [held]
  rw [List.range_add, List.map_append, map_held, List.reduceOption_append, List.map_map]
  have none : (List.range more).map (held slots ∘ fun i => slots.length + i) = List.replicate more none := by
    rw [← List.length_range (n := more), ← List.map_const', List.length_range]
    exact List.map_congr_left beyond
  rw [none, List.reduceOption_replicate_none, List.append_nil]

end Openlit.Slots
