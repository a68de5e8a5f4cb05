import Openlit.ClickHouse

/-!
The sanitizer on values of any shape (`utils/sanitizer.ts`). Texts are escaped and
numbers become texts. The keys of an object are copied with their values, so a date,
which has none, becomes an empty object, and an array in an array an object with the
indices as its keys.
-/
namespace Openlit.SanitizedValues
open Openlit.RuleLinks Openlit.ClickHouse

/-! ### Values -/

/-- A value of JavaScript. A number is the text that JavaScript gives it. -/
inductive Value where
  | null
  | bool (b : Bool)
  | number (text : String)
  | string (text : String)
  | date (time : Int)
  | array (items : List Value)
  | object (fields : List (String × Value))

section
variable [Platform]

/-- `Sanitizer.sanitizeValue`, which gets no objects. -/
def Value.sanitizeValue : Value → Value
  | .string text => .string (Storage.sanitizeValue text)
  | .number text => .string text
  | v => v
mutual
/-- What `sanitizeObject` makes of the value of a field. -/
def sanitizeField : Value → Value
  | .array items => .array (sanitizeItems items)
  | .object fields => .object (sanitizeObject fields)
  | .date _ => .object []
  | .null => Value.sanitizeValue .null
  | .bool b => Value.sanitizeValue (.bool b)
  | .number text => Value.sanitizeValue (.number text)
  | .string text => Value.sanitizeValue (.string text)
/-- Its case of a field that is an array: what `isObject` holds of is an object there, whether or not it is an array. -/
def sanitizeItems : List Value → List Value
  | [] => []
  | .array items :: rest => .object (sanitizeIndexed 0 items) :: sanitizeItems rest
  | .object fields :: rest => .object (sanitizeObject fields) :: sanitizeItems rest
  | .date _ :: rest => .object [] :: sanitizeItems rest
  | .null :: rest => Value.sanitizeValue .null :: sanitizeItems rest
  | .bool b :: rest => Value.sanitizeValue (.bool b) :: sanitizeItems rest
  | .number text :: rest => Value.sanitizeValue (.number text) :: sanitizeItems rest
  | .string text :: rest => Value.sanitizeValue (.string text) :: sanitizeItems rest
/-- `Sanitizer.sanitizeObject` on an array, whose keys are its indices. -/
def sanitizeIndexed : Nat → List Value → List (String × Value)
  | _, [] => []
  | index, item :: items => (toString index, sanitizeField item) :: sanitizeIndexed (index + 1) items
/-- `Sanitizer.sanitizeObject`. An assignment to `__proto__` makes no key. -/
def sanitizeObject : List (String × Value) → List (String × Value)
  | [] => []
  | (key, value) :: fields =>
    if key = "__proto__" then sanitizeObject fields else (key, sanitizeField value) :: sanitizeObject fields
end

/-! ### Shapes -/

mutual
/-- The same shape: the same keys, arrays of the same length and order, texts sanitized, and all other leaves as they are, but for
numbers. -/
inductive SameShape (ofNumber : String → Value) : Value → Value → Prop
  | null : SameShape ofNumber .null .null
  | bool (b : Bool) : SameShape ofNumber (.bool b) (.bool b)
  | number (text : String) : SameShape ofNumber (.number text) (ofNumber text)
  | string (text : String) : SameShape ofNumber (.string text) (.string (Storage.sanitizeValue text))
  | date (time : Int) : SameShape ofNumber (.date time) (.date time)
  | array {items items' : List Value} (each : SameItems ofNumber items items') : SameShape ofNumber (.array items) (.array items')
  | object {fields fields' : List (String × Value)} (each : SameFields ofNumber fields fields') :
      SameShape ofNumber (.object fields) (.object fields')
inductive SameItems (ofNumber : String → Value) : List Value → List Value → Prop
  | nil : SameItems ofNumber [] []
  | cons {item item' : Value} {rest rest' : List Value} (first : SameShape ofNumber item item') (later : SameItems ofNumber rest rest') :
      SameItems ofNumber (item :: rest) (item' :: rest')
inductive SameFields (ofNumber : String → Value) : List (String × Value) → List (String × Value) → Prop
  | nil : SameFields ofNumber [] []
  | cons {key : String} {value value' : Value} {rest rest' : List (String × Value)} (first : SameShape ofNumber value value')
      (later : SameFields ofNumber rest rest') : SameFields ofNumber ((key, value) :: rest) ((key, value') :: rest')
end

def Value.isArray : Value → Bool
  | .array _ => true
  | _ => false
mutual
/-- No date, no array in an array, and no key `__proto__`. -/
def Straight : Value → Prop
  | .date _ => False
  | .array items => StraightItems items
  | .object fields => StraightFields fields
  | .null | .bool _ | .number _ | .string _ => True
def StraightItems : List Value → Prop
  | [] => True
  | item :: rest => item.isArray = false ∧ Straight item ∧ StraightItems rest
def StraightFields : List (String × Value) → Prop
  | [] => True
  | (key, value) :: fields => key ≠ "__proto__" ∧ Straight value ∧ StraightFields fields
end

theorem sameShape_array_iff {ofNumber : String → Value} {items items' : List Value} :
    SameShape ofNumber (.array items) (.array items') ↔ SameItems ofNumber items items' := by
  constructor
  · rintro ⟨⟩
    assumption
  · exact .array
theorem sameShape_object_iff {ofNumber : String → Value} {fields fields' : List (String × Value)} :
    SameShape ofNumber (.object fields) (.object fields') ↔ SameFields ofNumber fields fields' := by
  constructor
  · rintro ⟨⟩
    assumption
  · exact .object
theorem sameItems_cons_iff {ofNumber : String → Value} {item item' : Value} {rest rest' : List Value} :
    SameItems ofNumber (item :: rest) (item' :: rest') ↔ SameShape ofNumber item item' ∧ SameItems ofNumber rest rest' := by
  constructor
  · intro same
    cases same with
    | cons first later => exact ⟨first, later⟩
  · exact fun each => .cons each.1 each.2
theorem sameFields_cons_iff {ofNumber : String → Value} {key : String} {value value' : Value} {rest rest' : List (String × Value)} :
    SameFields ofNumber ((key, value) :: rest) ((key, value') :: rest') ↔
      SameShape ofNumber value value' ∧ SameFields ofNumber rest rest' := by
  constructor
  · intro same
    cases same with
    | cons first later => exact ⟨first, later⟩
  · exact fun each => .cons each.1 each.2
theorem SameFields.length_eq {ofNumber : String → Value} {fields fields' : List (String × Value)}
    (same : SameFields ofNumber fields fields') : fields.length = fields'.length := by
  induction fields generalizing fields' with
  | nil =>
    cases same
    rfl
  | cons field rest ih =>
    cases same with
    | cons first later => simp [ih later]

theorem length_sanitizeObject_le (fields : List (String × Value)) : (sanitizeObject fields).length ≤ fields.length := by
  induction fields with
  | nil => exact Nat.le_refl _
  | cons field rest ih =>
    rw [sanitizeObject]
    split
    · exact Nat.le_succ_of_le ih
    · exact Nat.succ_le_succ ih
/-- An item that is no array becomes what it becomes in a field. -/
theorem sanitizeItems_cons {item : Value} (single : item.isArray = false) (rest : List Value) :
    sanitizeItems (item :: rest) = sanitizeField item :: sanitizeItems rest := by
  cases item with
  | array items => cases single
  | null | bool | number | string | date | object => simp only [sanitizeItems, sanitizeField]

mutual
/-- The shape is kept exactly if the value is straight. -/
theorem sameShape_sanitizeField (v : Value) : SameShape .string v (sanitizeField v) ↔ Straight v := by
  cases v with
  | null => exact iff_of_true (by rw [sanitizeField]; exact .null) (by rw [Straight]; trivial)
  | bool b => exact iff_of_true (by rw [sanitizeField]; exact .bool b) (by rw [Straight]; trivial)
  | number text => exact iff_of_true (by rw [sanitizeField]; exact .number text) (by rw [Straight]; trivial)
  | string text => exact iff_of_true (by rw [sanitizeField]; exact .string text) (by rw [Straight]; trivial)
  | date time =>
    refine iff_of_false ?_ (by simp [Straight])
    rw [sanitizeField]
    nofun
  | array items =>
    rw [sanitizeField, Straight, sameShape_array_iff]
    exact sameItems_sanitizeItems items
  | object fields =>
    rw [sanitizeField, Straight, sameShape_object_iff]
    exact sameFields_sanitizeObject fields
theorem sameItems_sanitizeItems (items : List Value) : SameItems .string items (sanitizeItems items) ↔ StraightItems items := by
  cases items with
  | nil => exact iff_of_true (by rw [sanitizeItems]; exact .nil) (by rw [StraightItems]; trivial)
  | cons item rest =>
    rw [StraightItems]
    cases single : item.isArray with
    | false =>
      rw [sanitizeItems_cons single, sameItems_cons_iff, sameShape_sanitizeField item, sameItems_sanitizeItems rest]
      simp
    | true =>
      cases item with
      | array items =>
        refine iff_of_false ?_ (by simp)
        rw [sanitizeItems, sameItems_cons_iff]
        exact fun each => nomatch each.1
      | null | bool | number | string | date | object => cases single
theorem sameFields_sanitizeObject (fields : List (String × Value)) :
    SameFields .string fields (sanitizeObject fields) ↔ StraightFields fields := by
  cases fields with
  | nil => exact iff_of_true (by rw [sanitizeObject]; exact .nil) (by rw [StraightFields]; trivial)
  | cons field rest =>
    obtain ⟨key, value⟩ := field
    rw [StraightFields, sanitizeObject]
    by_cases named : key = "__proto__"
    · refine iff_of_false ?_ fun straight => straight.1 named
      rw [if_pos named]
      intro same
      have fewer := length_sanitizeObject_le rest
      have lengths := same.length_eq
      simp only [List.length_cons] at lengths
      omega
    · rw [if_neg named, sameFields_cons_iff, sameShape_sanitizeField value, sameFields_sanitizeObject rest]
      simp [named]
end

/-- A straight object keeps its shape: its texts are sanitized, and its numbers become texts. -/
theorem straight_object_kept {fields : List (String × Value)} (straight : StraightFields fields) :
    SameShape .string (.object fields) (.object (sanitizeObject fields)) :=
  .object ((sameFields_sanitizeObject fields).mpr straight)

end

/-! ### A rule, and a number -/

section
attribute [local instance] sqlstringPlatform

/-- An object with each kind of value that keeps its shape. -/
def ruleFields : List (String × Value) :=
  [("name", .string "it's"), ("enabled", .bool true), ("tags", .array [.string "llm", .object [("owner", .null)]])]

theorem straight_object_kept_rule : SameShape .string (.object ruleFields) (.object (sanitizeObject ruleFields)) :=
  straight_object_kept (by simp [ruleFields, StraightFields, StraightItems, Straight, Value.isArray])

end
/-- A number becomes a text. -/
theorem number_becomes_text :
    ¬ ∀ [Platform] (fields : List (String × Value)), SameShape .number (.object fields) (.object (sanitizeObject fields)) := by
  intro all
  let _ := sqlstringPlatform
  have same := sameShape_object_iff.mp (all [("limit", .number "5")])
  rw [sanitizeObject, if_neg (by decide), sameFields_cons_iff] at same
  exact nomatch same.1

end Openlit.SanitizedValues
