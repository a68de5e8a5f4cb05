import Openlit.PythonJson

/-!
How Python writes its values, `str` and `repr`, and which of them are true. A string is written with quotes and escapes, and what
needs none stands there as it is. The limits of an interpreter are left out: how deep values may be, and how long an int.
-/
namespace Openlit.PythonRepr
open Openlit.PythonJson

/-- What depends on Unicode's tables, and on how floats and values that no JSON text has are written. -/
class Display where
  /-- `str.isprintable`, for what is not ASCII. -/
  printable : Nat → Bool
  float : Text → Text
  other : Nat → Text
  trueFloat : Text → Bool
  trueOther : Nat → Bool

def truthy [Display] : PyValue → Bool
  | .none => false
  | .bool b => b
  | .int n => n ≠ 0
  | .float literal => Display.trueFloat literal
  | .str text => text ≠ []
  | .list items => !items.isEmpty
  | .dict entries => !entries.isEmpty
  | .other n => Display.trueOther n

/-! ### Strings -/

def quotationMark : Nat := 34
def apostrophe : Nat := 39
def backslash : Nat := 92
def hexDigit (digit : Nat) : Nat := if digit < 10 then '0'.toNat + digit else 'a'.toNat + (digit - 10)
/-- So many hexadecimal digits of a code. -/
def hex : Nat → Nat → Text
  | 0, _ => []
  | width + 1, c => hex width (c / 16) ++ [hexDigit (c % 16)]
/-- The quotes of a string are apostrophes, unless it has those and no quotation marks. -/
def quoteOf (text : Text) : Nat := if apostrophe ∈ text ∧ quotationMark ∉ text then quotationMark else apostrophe

section
variable [Display]

def reprChar (quote c : Nat) : Text :=
  if c = quote ∨ c = backslash then [backslash, c]
  else if c = '\t'.toNat then codes "\\t"
  else if c = '\n'.toNat then codes "\\n"
  else if c = '\r'.toNat then codes "\\r"
  else if c < 32 ∨ c = 127 then codes "\\x" ++ hex 2 c
  else if c < 127 ∨ Display.printable c then [c]
  else if c < 256 then codes "\\x" ++ hex 2 c
  else if c < 65536 then codes "\\u" ++ hex 4 c
  else codes "\\U" ++ hex 8 c
def reprText (text : Text) : Text := quoteOf text :: (text.flatMap (reprChar (quoteOf text)) ++ [quoteOf text])

/-- A string that needs no escape. -/
def Plain (text : Text) : Prop := ∀ c ∈ text, reprChar (quoteOf text) c = [c]
theorem infix_reprText {text : Text} (plain : Plain text) : text <:+: reprText text := by
  have same : text.flatMap (reprChar (quoteOf text)) = text := by
    rw [List.flatMap_congr plain, List.flatMap_singleton']
  rw [reprText, same]
  exact ⟨[quoteOf text], [quoteOf text], by simp⟩

/-! ### Values -/

def join (separator : String) (texts : List Text) : Text := (codes separator).intercalate texts

mutual
def reprValue : PyValue → Text
  | .none => codes "None"
  | .bool b => codes (if b then "True" else "False")
  | .int n => codes (toString n)
  | .float literal => Display.float literal
  | .str text => reprText text
  | .list items => codes "[" ++ join ", " (reprItems items) ++ codes "]"
  | .dict entries => codes "\x7b" ++ join ", " (reprEntries entries) ++ codes "\x7d"
  | .other n => Display.other n
def reprItems : List PyValue → List Text
  | [] => []
  | item :: items => reprValue item :: reprItems items
def reprEntries : List (Text × PyValue) → List Text
  | [] => []
  | (key, value) :: entries => (reprText key ++ codes ": " ++ reprValue value) :: reprEntries entries
end
/-- `str` of a value. -/
def str : PyValue → Text
  | .str text => text
  | value => reprValue value

omit [Display] in
theorem infix_join (separator : String) {text : Text} {texts : List Text} (listed : text ∈ texts) : text <:+: join separator texts := by
  unfold join
  induction texts with
  | nil => cases listed
  | cons first texts ih =>
    cases texts with
    | nil =>
      obtain rfl := List.mem_singleton.mp listed
      exact ⟨[], [], by simp⟩
    | cons second texts =>
      rw [List.intercalate_cons_cons]
      rcases List.mem_cons.mp listed with rfl | later
      · exact ⟨[], codes separator ++ (codes separator).intercalate (second :: texts), by simp⟩
      · exact (ih later).trans (List.suffix_append _ _).isInfix
theorem mem_reprEntries {key : Text} {value : PyValue} {entries : List (Text × PyValue)} (listed : (key, value) ∈ entries) :
    reprText key ++ codes ": " ++ reprValue value ∈ reprEntries entries := by
  induction entries with
  | nil => cases listed
  | cons entry entries ih =>
    obtain ⟨key', value'⟩ := entry
    rcases List.mem_cons.mp listed with same | later
    · cases same
      exact List.mem_cons_self
    · exact List.mem_cons_of_mem _ (ih later)
/-- What is under a key of a dict is written in it. -/
theorem infix_repr_dict {key : Text} {value : PyValue} {entries : List (Text × PyValue)} (listed : (key, value) ∈ entries) :
    reprValue value <:+: reprValue (.dict entries) := by
  have entry := infix_join ", " (mem_reprEntries listed)
  have inEntry : reprValue value <:+: reprText key ++ codes ": " ++ reprValue value := (List.suffix_append _ _).isInfix
  rw [reprValue]
  exact (inEntry.trans entry).trans ⟨codes "\x7b", codes "\x7d", rfl⟩

end
end Openlit.PythonRepr
