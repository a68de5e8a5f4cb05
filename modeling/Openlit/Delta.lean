import Mathlib.Data.Option.Basic

/-!
Partial updates: a sender leaves out what has not changed since it last sent,
and a receiver keeps what it has where nothing is sent. A receiver that merges
every update keeps the sender's value; one that has missed an update is right
again only if the next update is not left out.
-/
namespace Openlit.Delta

variable {α : Type}

/-- What may be sent for a value: nothing where it is still the one sent last, else the value. -/
structure Partial (last current sent : Option α) : Prop where
  unchanged : sent = none → current = last
  carried : ∀ value, sent = some value → current = some value

/-- Everything may be sent whole, and an unchanged value left out. -/
theorem Partial.whole {last current : Option α} (kept : current = none → last = none) : Partial last current current :=
  ⟨fun nothing => nothing.trans (kept nothing).symm, fun _ sent => sent⟩
theorem Partial.left_out (last : Option α) : Partial last last none :=
  ⟨fun _ => rfl, fun _ sent => nomatch sent⟩

/-- The receiver's value after an update. -/
def merge (sent stored : Option α) : Option α := sent.or stored

@[simp] theorem merge_none (stored : Option α) : merge none stored = stored := rfl
@[simp] theorem merge_some (value : α) (stored : Option α) : merge (some value) stored = some value := rfl

@[simp] theorem merge_again (sent stored : Option α) : merge sent (merge sent stored) = merge sent stored := by
  cases sent <;> rfl

/-- A merge is right exactly if what was left out is stored already. -/
theorem merge_eq_iff {last current sent : Option α} (update : Partial last current sent) (stored : Option α) :
    merge sent stored = current ↔ (sent = none → stored = current) := by
  cases sent with
  | none => simp
  | some value => simp [update.carried value rfl]

/-- The same for a field of a record, where a receiver without a record takes over the first message whole. -/
theorem merge_field_iff {β : Type} {last current : Option α} (field : β → Option α) (record : Option β) (message : β)
    (update : Partial last current (field message)) :
    merge (field message) (field (record.getD message)) = current ↔
      (field message = none → record.bind field = current) := by
  rw [merge_eq_iff update]
  cases record with
  | none =>
    constructor
    · intro kept omitted
      rw [← kept omitted, Option.getD_none, omitted]
      rfl
    · intro kept omitted
      rw [← kept omitted, Option.getD_none, omitted]
      rfl
  | some stored => rfl

/-- The update that leaves out all it may. -/
def omitting [DecidableEq α] (last current : Option α) : Option α := if current = last then none else current

end Openlit.Delta
