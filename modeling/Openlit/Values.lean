import Mathlib.Data.Rat.Defs
import Mathlib.Tactic.Common

/-!
Untyped values: the trees that the Kubernetes API serves for custom resources
(`map[string]interface{}`), with the type assertions of Go on them.
-/
namespace Openlit.Values

/-- An untyped value. The API machinery decodes whole JSON numbers as `int64`
    and every other number as `float64`. -/
inductive Value
  | null
  | bool (b : Bool)
  | int (n : Int)
  | float (q : Rat)
  | str (s : String)
  | list (items : List Value)
  | map (fields : List (String × Value))
  deriving Repr

/-- The entries of a JSON object, in the order of the text. -/
abbrev Fields := List (String × Value)
/-- A Go `map[string]string`. -/
abbrev StringMap := List (String × String)

/-- The value under a key; an absent key reads as `nil`. -/
def get (fields : Fields) (key : String) : Value := (fields.lookup key).getD .null

/-- The type assertions `v.(T)`, `none` where the dynamic type is another one. -/
def asMap : Value → Option Fields
  | .map fields => some fields
  | _ => none
def asString : Value → Option String
  | .str s => some s
  | _ => none
def asBool : Value → Option Bool
  | .bool b => some b
  | _ => none
def asFloat : Value → Option Rat
  | .float q => some q
  | _ => none

/-- An entry of an object that is written only when the value is there
    (`omitempty` on a pointer). -/
def optional {α : Type} (key : String) (encode : α → Value) : Option α → Fields
  | some a => [(key, encode a)]
  | none => []
/-- An entry that is written only under a condition (`omitempty` on a list). -/
def written (condition : Bool) (key : String) (value : Value) : Fields := if condition then [(key, value)] else []
/-- An entry that is written only when the text is not empty (`omitempty` on a string). -/
def nonEmpty (key text : String) : Fields := written (text ≠ "") key (.str text)

/-! ### What a written object reads as -/

theorem lookup_entry (k key : String) (value : Value) (rest : Fields) :
    List.lookup key ((k, value) :: rest) = if key = k then some value else rest.lookup key := by
  by_cases same : key = k
  · simp [same]
  · have differs : (key == k) = false := beq_false_of_ne same
    simp [List.lookup_cons, differs, same]
@[simp] theorem lookup_optional {α : Type} (k key : String) (encode : α → Value) (a : Option α) :
    (optional k encode a).lookup key = if key = k then a.map encode else none := by
  cases a <;> simp [optional, lookup_entry]
@[simp] theorem lookup_written (condition : Bool) (k key : String) (value : Value) :
    (written condition k value).lookup key = if key = k ∧ condition then some value else none := by
  cases condition <;> simp [written, lookup_entry]
@[simp] theorem lookup_nonEmpty (k key text : String) :
    (nonEmpty k text).lookup key = if key = k ∧ text ≠ "" then some (.str text) else none := by
  simp [nonEmpty]
@[simp] theorem asBool_optional (b : Option Bool) : asBool ((b.map .bool).getD .null) = b := by
  cases b <;> rfl
/-- A text reads the same whether the empty one was written or left out. -/
@[simp] theorem asString_nonEmpty (text : String) :
    (asString ((if text = "" then none else some (.str text)).getD .null)).getD "" = text := by
  by_cases empty : text = "" <;> simp [empty, asString]

end Openlit.Values
