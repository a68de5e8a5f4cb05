import Mathlib.Data.List.DropRight
import Mathlib.Data.List.Infix

/-!
The string operations that the Go and TypeScript sources share, over the
characters of a string. The case tables of Unicode are left open: `toLower` is
whatever the platform's tables say, and no result depends on them.
-/
namespace Openlit.Text

/-- The lower-case mapping of the platform. Every part of a lower-case string is lower case. -/
class CaseFolding where
  toLower : String → String
  toLower_part : ∀ (s : String) (part : List Char), part <:+: (toLower s).toList →
    toLower (String.ofList part) = String.ofList part

theorem char_toLower_toLower (c : Char) : c.toLower.toLower = c.toLower := by
  delta Char.toLower
  split
  · split
    · grind [UInt32.toNat_add]
    · rfl
  · rfl

/-- The mapping on ASCII letters, with every other character kept. -/
@[reducible] def asciiFolding : CaseFolding where
  toLower s := String.ofList (s.toList.map Char.toLower)
  toLower_part s part inside := by
    rw [String.toList_ofList] at inside ⊢
    refine congrArg String.ofList ((List.map_congr_left fun c member => ?_).trans (List.map_id part))
    obtain ⟨d, -, rfl⟩ := List.mem_map.mp (inside.subset member)
    exact char_toLower_toLower d

/-- Go's `unicode.IsSpace`. -/
def isSpace (c : Char) : Bool :=
  c ∈ ['\t', '\n', '\x0b', '\x0c', '\r', ' ', '\u0085', '\u00a0', '\u1680', '\u2028', '\u2029', '\u202f',
    '\u205f', '\u3000'] || (0x2000 ≤ c.toNat && c.toNat ≤ 0x200a)
/-- The white space that JavaScript's `trim` removes: Go's without U+0085, with U+FEFF. -/
def isJsSpace (c : Char) : Bool := (isSpace c && c != '\u0085') || c == '\ufeff'

/-- A string without the leading and trailing characters of a class. -/
def stripped (space : Char → Bool) (s : String) : String :=
  String.ofList (((s.toList.dropWhile space).reverse.dropWhile space).reverse)
/-- `strings.TrimSpace`. -/
def trimSpace (s : String) : String := stripped isSpace s
/-- `String.prototype.trim`. -/
def trim (s : String) : String := stripped isJsSpace s

/-- A string is stripped at its beginning, then at its end. -/
theorem toList_stripped (space : Char → Bool) (s : String) :
    (stripped space s).toList = (s.toList.dropWhile space).rdropWhile space := by
  rw [stripped, String.toList_ofList, List.rdropWhile]
theorem stripped_part (space : Char → Bool) (s : String) : (stripped space s).toList <:+: s.toList := by
  rw [toList_stripped]
  exact (List.rdropWhile_prefix space _).isInfix.trans (List.dropWhile_suffix space).isInfix
/-- What is stripped once has nothing left to strip. -/
theorem stripped_stripped (space : Char → Bool) (s : String) : stripped space (stripped space s) = stripped space s := by
  have begun : ((s.toList.dropWhile space).rdropWhile space).dropWhile space = (s.toList.dropWhile space).rdropWhile space := by
    rw [List.dropWhile_eq_self_iff]
    intro nonempty
    have kept := List.rdropWhile_prefix space (s.toList.dropWhile space)
    rw [kept.getElem nonempty]
    exact List.dropWhile_get_zero_not space s.toList (Nat.lt_of_lt_of_le nonempty kept.length_le)
  refine String.toList_inj.mp ?_
  rw [toList_stripped, toList_stripped, begun, List.rdropWhile_idempotent]

/-- `strings.Contains`, `String.prototype.includes` and ClickHouse's `position(..) > 0`. -/
def contains (s pattern : String) : Bool := decide (pattern.toList <:+: s.toList)
/-- `strings.HasPrefix` and ClickHouse's `startsWith`. -/
def hasPrefix (s pattern : String) : Bool := decide (pattern.toList <+: s.toList)
/-- `strings.HasSuffix` and ClickHouse's `endsWith`. -/
def hasSuffix (s pattern : String) : Bool := decide (pattern.toList <:+ s.toList)
/-- `strings.Split` at one character: the pieces between its occurrences, never none. -/
def split (s : String) (separator : Char) : List String :=
  (s.toList.splitOn separator).map String.ofList

/-- A value that a lookup finds and that is not the empty string. -/
def present (found : Option String) : Option String := found.filter (· ≠ "")

/-- A text before a separator that it does not have is what precedes the separator's first occurrence. -/
theorem append_separator_inj {a b rest other : List Char} {separator : Char} (plain : separator ∉ a)
    (alsoPlain : separator ∉ b) (same : a ++ separator :: rest = b ++ separator :: other) : a = b ∧ rest = other := by
  induction a generalizing b with
  | nil =>
    cases b with
    | nil => exact ⟨rfl, List.cons_inj_right _ |>.mp same⟩
    | cons c b => exact absurd (List.cons.inj same).1 fun equal => alsoPlain (equal ▸ List.mem_cons_self)
  | cons c a ih =>
    cases b with
    | nil => exact absurd (List.cons.inj same).1 fun equal => plain (equal ▸ List.mem_cons_self)
    | cons d b =>
      obtain ⟨rfl, tails⟩ := List.cons.inj same
      rw [List.mem_cons, not_or] at plain alsoPlain
      obtain ⟨rfl, rests⟩ := ih plain.2 alsoPlain.2 tails
      exact ⟨rfl, rests⟩

/-- No piece of a text has the separator, and pieces without it are split again as they were joined. -/
theorem notMem_split {s piece : String} {separator : Char} (inside : piece ∈ split s separator) : separator ∉ piece.toList := by
  have whole : ∀ letters ∈ s.toList.splitOn separator, separator ∉ letters := by
    induction s.toList with
    | nil => simp
    | cons c letters ih =>
      rw [List.splitOn_cons_eq_if_modifyHead]
      by_cases same : c = separator
      · simpa [same] using ih
      · cases pieces : letters.splitOn separator with
        | nil => exact absurd pieces (List.splitOn_ne_nil _ _)
        | cons first rest =>
          rw [pieces, List.forall_mem_cons] at ih
          simpa [same, Ne.symm same] using ih
  obtain ⟨letters, mem, rfl⟩ := List.mem_map.mp inside
  rw [String.toList_ofList]
  exact whole letters mem
theorem split_joined {values : List String} {separator : Char} (nonempty : values ≠ [])
    (whole : ∀ value ∈ values, separator ∉ value.toList) :
    split (String.ofList ([separator].intercalate (values.map String.toList))) separator = values := by
  rw [split, String.toList_ofList, List.splitOn_intercalate _ (by simpa using whole) (by simpa using nonempty)]
  simp

end Openlit.Text
