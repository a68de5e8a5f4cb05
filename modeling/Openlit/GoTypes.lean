import Mathlib.Algebra.Group.Int.Defs
import Openlit.Text
import Openlit.Values

/-!
Go's types as reflection shows them, their values, and how `encoding/json` writes
and reads the values (`encode`, `decode`). A struct's field is named by its tag; a
field whose tag has the option `omitempty` is left out while it is empty.
-/
namespace Openlit.GoTypes
open Openlit.Text Openlit.Values

mutual
/-- `time` is a `metav1.Time`, and `integer` a signed integer of so many bits. -/
inductive GoType
  | time
  | string
  | boolean
  | integer (bits : Nat)
  | other
  | ptr (elem : GoType)
  | slice (elem : GoType)
  | map (elem : GoType)
  | struct (fields : GoFields)
inductive GoFields
  | nil
  | cons (name : String) (exported : Bool) (tags : List (String × String)) (type : GoType) (rest : GoFields)
end

/-- A time is its text, and the zero time has none. -/
inductive GoValue
  | time (text : Option String)
  | str (s : String)
  | bool (b : Bool)
  | int (n : Int)
  | nil
  | ptr (v : GoValue)
  | list (items : List GoValue)
  | map (entries : List (String × GoValue))
  | struct (values : List GoValue)

/-- The format `date-time`. -/
class DateTimes where
  valid : String → Bool

/-! ### Tags -/

def jsonTag (tags : List (String × String)) : String := (tags.lookup "json").getD ""
/-- What stands before the first comma of a tag. -/
def tagName (tag : String) : String := (split tag ',').headD ""
def omitsEmpty (tag : String) : Bool := "omitempty" ∈ (split tag ',').tail
/-- The key of a field that is written. -/
def jsonName (name tag : String) : String := if tagName tag = "" then name else tagName tag
def isSkipped (exported : Bool) (tag : String) : Bool := !exported || tag = "-"

/-! ### Writing -/

def isEmpty : GoValue → Bool
  | .bool b => !b
  | .int n => n = 0
  | .str s => s = ""
  | .nil | .list [] | .map [] => true
  | _ => false

mutual
def encode : GoType → GoValue → Value
  | .time, .time (some text) => .str text
  | .string, .str s => .str s
  | .boolean, .bool b => .bool b
  | .integer _, .int n => .int n
  | .ptr elem, .ptr v => encode elem v
  | .slice elem, .list items => .list (items.map (encode elem))
  | .map elem, .map entries => .map (entries.map fun entry => (entry.1, encode elem entry.2))
  | .struct fields, .struct values => .map (encodeFields fields values)
  | _, _ => .null
def encodeFields : GoFields → List GoValue → Fields
  | .cons name exported tags type rest, v :: values =>
    if isSkipped exported (jsonTag tags) || (omitsEmpty (jsonTag tags) && isEmpty v) then encodeFields rest values
    else (jsonName name (jsonTag tags), encode type v) :: encodeFields rest values
  | _, _ => []
end

/-! ### Reading -/

mutual
def zero : GoType → GoValue
  | .time => .time none
  | .string => .str ""
  | .boolean => .bool false
  | .integer _ => .int 0
  | .other | .ptr _ | .slice _ | .map _ => .nil
  | .struct fields => .struct (zeros fields)
def zeros : GoFields → List GoValue
  | .nil => []
  | .cons _ _ _ type rest => zero type :: zeros rest
end

def fits (bits : Nat) (n : Int) : Bool := -2 ^ (bits - 1) ≤ n && n < 2 ^ (bits - 1)

mutual
/-- `null` leaves the zero value; a value of another kind, or a number that does not fit, is an error. -/
def decode [DateTimes] : GoType → Value → Option GoValue
  | .time, .null => some (zero .time)
  | .time, .str s => if DateTimes.valid s then some (.time (some s)) else none
  | .string, .null => some (zero .string)
  | .string, .str s => some (.str s)
  | .boolean, .null => some (zero .boolean)
  | .boolean, .bool b => some (.bool b)
  | .integer bits, .null => some (zero (.integer bits))
  | .integer bits, .int n => if fits bits n then some (.int n) else none
  | .ptr _, .null => some .nil
  | .ptr elem, value => (decode elem value).map .ptr
  | .slice _, .null => some .nil
  | .slice elem, .list items => (items.mapM (decode elem)).map .list
  | .map _, .null => some .nil
  | .map elem, .map entries => (entries.mapM fun entry => (decode elem entry.2).map (entry.1, ·)).map .map
  | .struct fields, .null => some (zero (.struct fields))
  | .struct fields, .map entries => (decodeFields fields entries).map .struct
  | _, _ => none
def decodeFields [DateTimes] : GoFields → Fields → Option (List GoValue)
  | .nil, _ => some []
  | .cons name exported tags type rest, entries =>
    let value :=
      if isSkipped exported (jsonTag tags) then some (zero type)
      else
        match entries.lookup (jsonName name (jsonTag tags)) with
        | none => some (zero type)
        | some value => decode type value
    match value, decodeFields rest entries with
    | some v, some values => some (v :: values)
    | _, _ => none
end

/-! ### Values of a type -/

mutual
/-- The values of a type, with every time set. -/
def HasType [DateTimes] : GoType → GoValue → Prop
  | .time, .time (some text) => DateTimes.valid text = true
  | .string, .str _ => True
  | .boolean, .bool _ => True
  | .integer bits, .int n => fits bits n = true
  | .ptr _, .nil | .slice _, .nil | .map _, .nil => True
  | .ptr elem, .ptr v => HasType elem v
  | .slice elem, .list items => ∀ v ∈ items, HasType elem v
  | .map elem, .map entries => ∀ entry ∈ entries, HasType elem entry.2
  | .struct fields, .struct values => HasFields fields values
  | _, _ => False
def HasFields [DateTimes] : GoFields → List GoValue → Prop
  | .nil, [] => True
  | .cons _ _ _ type rest, v :: values => HasType type v ∧ HasFields rest values
  | _, _ => False
end

end Openlit.GoTypes
