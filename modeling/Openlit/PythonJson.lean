import Mathlib.Data.List.Basic

/-!
Python's values and the reading of JSON texts, `json.loads`. A text is the list of its code points, among which halves of a
surrogate pair may stand. It is read from its start on, and what is raised first ends the reading.
-/
namespace Openlit.PythonJson

abbrev Text := List Nat
def codes (s : String) : Text := s.toList.map Char.toNat

/-- A value. A float is kept as the text that it is read from, and `other` is what no JSON text has. -/
inductive PyValue
  | none
  | bool (b : Bool)
  | int (n : Int)
  | float (literal : Text)
  | str (text : Text)
  | list (items : List PyValue)
  | dict (entries : List (Text × PyValue))
  | other (n : Nat)

/-- `ValueError` is for an int with too many digits. `JSONDecodeError` is a `ValueError` too, but is told from it where
exceptions are caught. -/
inductive JsonRaised where
  | jsonDecodeError
  | valueError
  | recursionError
  deriving DecidableEq, Repr
/-- An interpreter has limits: how many lists and dicts may still be open in one another at the call, and how many digits an int
may have, if that is limited. -/
class Interpreter where
  nesting : Nat
  maxDigits : Option Nat

abbrev Reader (α : Type) := Text → Except JsonRaised (α × Text)

def isBlank (c : Nat) : Bool := c ∈ codes " \t\n\r"
def skip (text : Text) : Text := text.dropWhile isBlank
def isDigit (c : Nat) : Bool := '0'.toNat ≤ c && c ≤ '9'.toNat
/-- What follows a word at the start of a text. -/
def after (word : String) (text : Text) : Option Text :=
  if codes word <+: text then some (text.drop word.length) else none

/-! ### Strings -/

def hexValue (c : Nat) : Option Nat :=
  if isDigit c then some (c - '0'.toNat)
  else if 'a'.toNat ≤ c ∧ c ≤ 'f'.toNat then some (c - 'a'.toNat + 10)
  else if 'A'.toNat ≤ c ∧ c ≤ 'F'.toNat then some (c - 'A'.toNat + 10)
  else none
/-- The code unit of four hexadecimal digits. -/
def readUnit : Text → Option (Nat × Text)
  | a :: b :: c :: d :: rest => do
    pure ((((← hexValue a) * 16 + (← hexValue b)) * 16 + (← hexValue c)) * 16 + (← hexValue d), rest)
  | _ => none
/-- The code point of one code unit, or of two that are a surrogate pair. -/
def readCode (text : Text) : Option (Nat × Text) := do
  let (high, rest) ← readUnit text
  if 0xD800 ≤ high ∧ high < 0xDC00 then
    match after "\\u" rest with
    | some rest' => do
      let (low, rest') ← readUnit rest'
      if 0xDC00 ≤ low ∧ low < 0xE000 then pure (0x10000 + (high - 0xD800) * 0x400 + (low - 0xDC00), rest') else pure (high, rest)
    | none => pure (high, rest)
  else pure (high, rest)
def escapes : List (Nat × Nat) :=
  [('"'.toNat, 34), ('\\'.toNat, 92), ('/'.toNat, 47), ('b'.toNat, 8), ('f'.toNat, 12), ('n'.toNat, 10), ('r'.toNat, 13), ('t'.toNat, 9)]
/-- The next code point of a string. -/
def readNext : Text → Option (Nat × Text)
  | [] => none
  | c :: rest =>
    if c = '\\'.toNat then
      match rest with
      | [] => none
      | mark :: rest => if mark = 'u'.toNat then readCode rest else (escapes.lookup mark).map (·, rest)
    else if c < 32 then none
    else some (c, rest)
/-- `scanstring`: a string up to its closing quote, with fuel for its code points. -/
def scanString : Nat → Reader Text
  | 0, _ => throw .jsonDecodeError
  | fuel + 1, text =>
    if text.head? = some '"'.toNat then pure ([], text.tail)
    else match readNext text with
      | none => throw .jsonDecodeError
      | some (c, rest) => do
        let (string, rest) ← scanString fuel rest
        pure (c :: string, rest)

/-! ### Words and numbers -/

def words : List (String × PyValue) :=
  [("null", .none), ("true", .bool true), ("false", .bool false), ("NaN", .float (codes "NaN")),
    ("Infinity", .float (codes "Infinity")), ("-Infinity", .float (codes "-Infinity"))]
def readWord (text : Text) : Option (PyValue × Text) :=
  words.findSome? fun entry => (after entry.1 text).map fun rest => (entry.2, rest)

/-- The digits before a fraction: one zero, or digits that do not begin with one. -/
def integerPart (text : Text) : Text := if text.head? = some '0'.toNat then text.take 1 else text.takeWhile isDigit
/-- A point with digits after it, or nothing. -/
def fractionPart : Text → Text
  | [] => []
  | c :: rest => if c = '.'.toNat ∧ rest.takeWhile isDigit ≠ [] then c :: rest.takeWhile isDigit else []
/-- An exponent with digits, or nothing. -/
def exponentPart : Text → Text
  | [] => []
  | c :: rest =>
    let sign := if rest.head? = some '+'.toNat ∨ rest.head? = some '-'.toNat then rest.take 1 else []
    let digits := (rest.drop sign.length).takeWhile isDigit
    if (c = 'e'.toNat ∨ c = 'E'.toNat) ∧ digits ≠ [] then c :: sign ++ digits else []
def intValue (digits : Text) : Nat := digits.foldl (fun n c => 10 * n + (c - '0'.toNat)) 0
/-- `_match_number`. -/
def matchNumber [Interpreter] (text : Text) : Except JsonRaised (PyValue × Text) :=
  let sign := if text.head? = some '-'.toNat then text.take 1 else []
  let integer := integerPart (text.drop sign.length)
  let fraction := fractionPart (text.drop (sign ++ integer).length)
  let exponent := exponentPart (text.drop (sign ++ integer ++ fraction).length)
  let rest := text.drop (sign ++ integer ++ fraction ++ exponent).length
  if integer = [] then throw .jsonDecodeError
  else if fraction ++ exponent ≠ [] then pure (.float (sign ++ integer ++ fraction ++ exponent), rest)
  else if Interpreter.maxDigits.any (· < integer.length) then throw .valueError
  else pure (.int (if sign = [] then intValue integer else -intValue integer), rest)

/-! ### Values -/

/-- The items of a list, from its first item on, with fuel for the items. -/
def readItems (scan : Reader PyValue) : Nat → Reader (List PyValue)
  | 0, _ => throw .jsonDecodeError
  | fuel + 1, text => do
    let (item, rest) ← scan text
    match skip rest with
    | [] => throw .jsonDecodeError
    | c :: rest =>
      if c = ']'.toNat then pure ([item], rest)
      else if c = ','.toNat then do
        let (items, rest) ← readItems scan fuel (skip rest)
        pure (item :: items, rest)
      else throw .jsonDecodeError
def readKey : Reader Text
  | [] => throw .jsonDecodeError
  | c :: rest => do
    if c ≠ '"'.toNat then throw .jsonDecodeError
    let (key, rest) ← scanString rest.length rest
    match skip rest with
    | [] => throw .jsonDecodeError
    | c :: rest => if c = ':'.toNat then pure (key, skip rest) else throw .jsonDecodeError
/-- The entries of a dict, from its first key on, with fuel for the entries. -/
def readEntries (scan : Reader PyValue) : Nat → Reader (List (Text × PyValue))
  | 0, _ => throw .jsonDecodeError
  | fuel + 1, text => do
    let (key, rest) ← readKey text
    let (value, rest) ← scan rest
    match skip rest with
    | [] => throw .jsonDecodeError
    | c :: rest =>
      if c = '\x7d'.toNat then pure ([(key, value)], rest)
      else if c = ','.toNat then do
        let (entries, rest) ← readEntries scan fuel (skip rest)
        pure ((key, value) :: entries, rest)
      else throw .jsonDecodeError

/-- `d[key] = value`. A key that is there keeps its place. -/
def setItem (entries : List (Text × PyValue)) (key : Text) (value : PyValue) : List (Text × PyValue) :=
  if entries.any (·.1 = key) then entries.map fun entry => if entry.1 = key then (key, value) else entry
  else entries ++ [(key, value)]
def dictOf (entries : List (Text × PyValue)) : List (Text × PyValue) :=
  entries.foldl (fun d entry => setItem d entry.1 entry.2) []
/-- What stands between brackets, where the reading inside is that of a level further down, or none is left. -/
def readNested {α : Type} (close : Char) (read : Reader PyValue → Nat → Reader (List α)) (nested : Option (Reader PyValue)) :
    Reader (List α) := fun text =>
  match nested with
  | none => throw .recursionError
  | some scan =>
    let inner := skip text
    if inner.head? = some close.toNat then pure ([], inner.tail) else read scan (inner.length + 1) inner
def scanWith [Interpreter] (nested : Option (Reader PyValue)) : Reader PyValue
  | [] => throw .jsonDecodeError
  | c :: rest =>
    if c = '"'.toNat then (scanString rest.length rest).map fun (text, rest) => (.str text, rest)
    else if c = '\x7b'.toNat then (readNested '\x7d' readEntries nested rest).map fun (entries, rest) => (.dict (dictOf entries), rest)
    else if c = '['.toNat then (readNested ']' readItems nested rest).map fun (items, rest) => (.list items, rest)
    else match readWord (c :: rest) with
      | some read => pure read
      | none => matchNumber (c :: rest)
/-- `scan_once`, where so many more lists and dicts may be opened in one another. -/
def scanOnce [Interpreter] : Nat → Reader PyValue
  | 0 => scanWith none
  | nesting + 1 => scanWith (some (scanOnce nesting))
def loads [Interpreter] (text : Text) : Except JsonRaised PyValue := do
  if text.head? = some 0xFEFF then throw .jsonDecodeError
  let (value, rest) ← scanOnce Interpreter.nesting (skip text)
  if skip rest = [] then pure value else throw .jsonDecodeError

/-! ### What is read leaves an end of the text -/

/-- An end of a text that is not the whole text. -/
def Below (rest text : Text) : Prop := rest <:+ text ∧ rest.length < text.length
theorem Below.trans {rest middle text : Text} (below : Below rest middle) (suffix : middle <:+ text) : Below rest text :=
  ⟨below.1.trans suffix, Nat.lt_of_lt_of_le below.2 suffix.length_le⟩
theorem Below.of_suffix {rest middle text : Text} (suffix : rest <:+ middle) (below : Below middle text) : Below rest text :=
  ⟨suffix.trans below.1, Nat.lt_of_le_of_lt suffix.length_le below.2⟩
theorem below_cons {c : Nat} {rest tail : Text} (suffix : rest <:+ tail) : Below rest (c :: tail) :=
  ⟨suffix.trans (List.suffix_cons c tail), Nat.lt_succ_of_le suffix.length_le⟩
theorem skip_suffix (text : Text) : skip text <:+ text := List.dropWhile_suffix _
theorem below_skip {c : Nat} {text rest : Text} (next : skip text = c :: rest) : Below rest text :=
  (below_cons (List.suffix_refl rest)).trans (next ▸ skip_suffix text)

theorem bind_ok {ε α β : Type} {x : Except ε α} {f : α → Except ε β} {b : β} (ok : x >>= f = .ok b) :
    ∃ a, x = .ok a ∧ f a = .ok b := by
  cases x with
  | error => cases ok
  | ok a => exact ⟨a, rfl, ok⟩
theorem bind_congr_ok {ε α β : Type} {x : Except ε α} {f g : α → Except ε β} (same : ∀ a, x = .ok a → f a = g a) : x >>= f = x >>= g := by
  cases x with
  | error => rfl
  | ok a => exact same a rfl
theorem bind_error {ε α β : Type} {x : Except ε α} {f : α → Except ε β} {raised : ε} (error : x >>= f = .error raised) :
    x = .error raised ∨ ∃ a, x = .ok a ∧ f a = .error raised := by
  cases x with
  | error => exact .inl (by cases error; rfl)
  | ok a => exact .inr ⟨a, rfl, error⟩

def Consumes {α : Type} (read : Reader α) : Prop := ∀ ⦃text value rest⦄, read text = .ok (value, rest) → Below rest text

theorem after_suffix {word : String} {text rest : Text} (read : after word text = some rest) : rest <:+ text := by
  rw [after] at read
  split at read
  · cases read
    exact List.drop_suffix _ _
  · cases read
theorem readUnit_suffix {text rest : Text} {unit : Nat} (read : readUnit text = some (unit, rest)) : rest <:+ text := by
  rw [readUnit.eq_def] at read
  split at read
  · simp only [bind, Option.bind_eq_some_iff, pure, Option.some.injEq, Prod.mk.injEq] at read
    obtain ⟨_, _, _, _, _, _, _, _, _, rfl⟩ := read
    exact ⟨[_, _, _, _], rfl⟩
  · cases read
theorem readCode_suffix {text rest : Text} {c : Nat} (read : readCode text = some (c, rest)) : rest <:+ text := by
  simp only [readCode, bind, Option.bind_eq_some_iff] at read
  obtain ⟨⟨high, first⟩, unit, read⟩ := read
  have first_suffix := readUnit_suffix unit
  dsimp only at read
  split at read
  · split at read
    · rename_i second found
      obtain ⟨⟨low, third⟩, unit', read⟩ := Option.bind_eq_some_iff.mp read
      have third_suffix := (readUnit_suffix unit').trans ((after_suffix found).trans first_suffix)
      dsimp only at read
      split at read
      · exact (Prod.mk.inj (Option.some.inj read)).2 ▸ third_suffix
      · exact (Prod.mk.inj (Option.some.inj read)).2 ▸ first_suffix
    · exact (Prod.mk.inj (Option.some.inj read)).2 ▸ first_suffix
  · exact (Prod.mk.inj (Option.some.inj read)).2 ▸ first_suffix
theorem readNext_below {text rest : Text} {c : Nat} (read : readNext text = some (c, rest)) : Below rest text := by
  cases text with
  | nil => cases read
  | cons first tail =>
    rw [readNext.eq_def] at read
    dsimp only at read
    split at read
    · cases tail with
      | nil => cases read
      | cons mark tail =>
        refine below_cons (.trans ?_ (List.suffix_cons mark tail))
        dsimp only at read
        split at read
        · exact readCode_suffix read
        · obtain ⟨_, _, same⟩ := Option.map_eq_some_iff.mp read
          cases same
          exact List.suffix_refl _
    · split at read
      · cases read
      · cases read
        exact below_cons (List.suffix_refl _)
theorem scanString_consumes (fuel : Nat) : Consumes (scanString fuel) := by
  induction fuel with
  | zero => intro _ _ _ read; cases read
  | succ fuel ih =>
    intro text string rest read
    rw [scanString] at read
    split at read
    · rename_i closed
      cases read
      cases text with
      | nil => cases closed
      | cons c tail => exact below_cons (List.suffix_refl tail)
    · split at read
      · cases read
      · rename_i next
        obtain ⟨⟨string', rest'⟩, inner, same⟩ := bind_ok read
        cases same
        exact .trans (ih inner) (readNext_below next).1

theorem below_drop {text : Text} {n : Nat} (some' : text ≠ []) (positive : 0 < n) : Below (text.drop n) text := by
  have long := List.length_pos_iff.mpr some'
  exact ⟨List.drop_suffix n text, by rw [List.length_drop]; omega⟩
theorem readWord_below {text rest : Text} {value : PyValue} (read : readWord text = some (value, rest)) : Below rest text := by
  obtain ⟨entry, listed, found⟩ := List.exists_of_findSome?_eq_some read
  obtain ⟨left, followed, same⟩ := Option.map_eq_some_iff.mp found
  cases same
  have long : 0 < entry.1.length := by
    simp only [words, List.mem_cons, List.not_mem_nil, or_false] at listed
    rcases listed with rfl | rfl | rfl | rfl | rfl | rfl <;> decide
  rw [after] at followed
  split at followed
  · rename_i starts
    cases followed
    refine below_drop ?_ long
    rintro rfl
    have empty := List.prefix_nil.mp starts
    rw [codes, List.map_eq_nil_iff, String.toList_eq_nil_iff] at empty
    simp [empty] at long
  · cases followed
theorem matchNumber_consumes [Interpreter] : Consumes matchNumber := by
  intro text value rest read
  rw [matchNumber] at read
  generalize signed : (if text.head? = some '-'.toNat then text.take 1 else []) = sign at read
  generalize whole : integerPart (text.drop sign.length) = integer at read
  split at read
  · cases read
  · rename_i digits
    have some' : text ≠ [] := by
      rintro rfl
      exact digits (by rw [← whole, List.drop_nil]; rfl)
    have long := List.length_pos_iff.mpr digits
    have below (more : Text) : Below (text.drop (sign ++ integer ++ more).length) text :=
      below_drop some' (by simp only [List.length_append]; omega)
    generalize fractionPart (text.drop (sign ++ integer).length) = fraction at read
    generalize exponentPart (text.drop (sign ++ integer ++ fraction).length) = exponent at read
    rw [List.append_assoc (sign ++ integer)] at read
    have below := below (fraction ++ exponent)
    split at read
    · exact (Prod.mk.inj (Except.ok.inj read)).2 ▸ below
    · split at read
      · cases read
      · exact (Prod.mk.inj (Except.ok.inj read)).2 ▸ below

theorem readKey_consumes : Consumes readKey := by
  intro text key rest read
  cases text with
  | nil => cases read
  | cons c tail =>
    rw [readKey] at read
    split at read
    · obtain ⟨_, raised, _⟩ := bind_ok read
      cases raised
    · obtain ⟨⟨key', left⟩, quoted, read⟩ := bind_ok read
      have below := scanString_consumes _ quoted
      dsimp only at read
      split at read
      · cases read
      · rename_i mark after next
        split at read
        · cases read
          exact .of_suffix (skip_suffix after) ((below_skip next).trans (below.1.trans (List.suffix_cons c tail)))
        · cases read

section
variable {scan : Reader PyValue} (consumes : Consumes scan)
include consumes

theorem readItems_consumes (fuel : Nat) : Consumes (readItems scan fuel) := by
  induction fuel with
  | zero => intro _ _ _ read; cases read
  | succ fuel ih =>
    intro text items rest read
    obtain ⟨⟨item, left⟩, first, read⟩ := bind_ok read
    have below := consumes first
    dsimp only at read
    split at read
    · cases read
    · rename_i c after next
      have below := (below_skip next).trans below.1
      split at read
      · cases read
        exact below
      · split at read
        · obtain ⟨⟨items', left'⟩, others, same⟩ := bind_ok read
          cases same
          exact (ih others).trans ((skip_suffix after).trans below.1)
        · cases read

theorem readEntries_consumes (fuel : Nat) : Consumes (readEntries scan fuel) := by
  induction fuel with
  | zero => intro _ _ _ read; cases read
  | succ fuel ih =>
    intro text entries rest read
    obtain ⟨⟨key, middle⟩, named, read⟩ := bind_ok read
    obtain ⟨⟨value, left⟩, given, read⟩ := bind_ok read
    have below := (consumes given).trans (readKey_consumes named).1
    dsimp only at read
    split at read
    · cases read
    · rename_i c after next
      have below := (below_skip next).trans below.1
      split at read
      · cases read
        exact below
      · split at read
        · obtain ⟨⟨entries', left'⟩, others, same⟩ := bind_ok read
          cases same
          exact (ih others).trans ((skip_suffix after).trans below.1)
        · cases read
end

theorem readNested_suffix {α : Type} {close : Char} {read : Reader PyValue → Nat → Reader (List α)} {nested : Option (Reader PyValue)}
    (consumes : ∀ scan ∈ nested, ∀ fuel, Consumes (read scan fuel)) {text rest : Text} {values : List α}
    (isRead : readNested close read nested text = .ok (values, rest)) : rest <:+ text := by
  cases nested with
  | none => cases isRead
  | some scan =>
    rw [readNested] at isRead
    split at isRead
    · cases isRead
      exact (List.tail_suffix _).trans (skip_suffix text)
    · exact (consumes scan rfl _ isRead).1.trans (skip_suffix text)
theorem map_ok {ε α β : Type} {x : Except ε α} {f : α → β} {b : β} (ok : x.map f = .ok b) : ∃ a, x = .ok a ∧ f a = b := by
  cases x with
  | error => cases ok
  | ok a => exact ⟨a, rfl, Except.ok.inj ok⟩
theorem scanWith_consumes [Interpreter] {nested : Option (Reader PyValue)} (consumes : ∀ scan ∈ nested, Consumes scan) :
    Consumes (scanWith nested) := by
  intro text value rest read
  cases text with
  | nil => cases read
  | cons c tail =>
    rw [scanWith] at read
    split at read
    · obtain ⟨⟨string, left⟩, quoted, same⟩ := map_ok read
      cases same
      exact below_cons (scanString_consumes _ quoted).1
    split at read
    · obtain ⟨⟨entries, left⟩, inner, same⟩ := map_ok read
      cases same
      exact below_cons (readNested_suffix (fun scan known => readEntries_consumes (consumes scan known)) inner)
    split at read
    · obtain ⟨⟨items, left⟩, inner, same⟩ := map_ok read
      cases same
      exact below_cons (readNested_suffix (fun scan known => readItems_consumes (consumes scan known)) inner)
    split at read
    · rename_i word
      cases read
      exact readWord_below word
    · exact matchNumber_consumes read
theorem scanOnce_consumes [Interpreter] (nesting : Nat) : Consumes (scanOnce nesting) := by
  induction nesting with
  | zero => exact scanWith_consumes (fun _ known => by cases known)
  | succ nesting ih =>
    refine scanWith_consumes fun scan known => ?_
    cases known
    exact ih

/-! ### There is always fuel -/

/-- Fuel for the length of a text is enough. -/
theorem scanString_fuel {fuel : Nat} (more : Nat) {text : Text} (enough : text.length ≤ fuel) :
    scanString (fuel + more) text = scanString fuel text := by
  induction fuel generalizing text with
  | zero =>
    cases List.length_eq_zero_iff.mp (Nat.le_zero.mp enough)
    cases more <;> rfl
  | succ fuel ih =>
    rw [Nat.add_right_comm, scanString, scanString]
    split
    · rfl
    split
    · rfl
    · rename_i c rest next
      rw [ih (Nat.le_of_lt_succ (Nat.lt_of_lt_of_le (readNext_below next).2 enough))]

section
variable {scan : Reader PyValue} (consumes : Consumes scan)
include consumes

theorem readItems_fuel {fuel : Nat} (more : Nat) {text : Text} (enough : text.length < fuel) :
    readItems scan (fuel + more) text = readItems scan fuel text := by
  induction fuel generalizing text with
  | zero => exact absurd enough (Nat.not_lt_zero _)
  | succ fuel ih =>
    rw [Nat.add_right_comm, readItems, readItems]
    refine bind_congr_ok fun (item, left) first => ?_
    dsimp only
    split
    · rfl
    · rename_i c after next
      have left := Below.of_suffix (skip_suffix after) ((below_skip next).trans (consumes first).1)
      rw [ih (Nat.lt_of_lt_of_le left.2 (Nat.le_of_lt_succ enough))]
theorem readEntries_fuel {fuel : Nat} (more : Nat) {text : Text} (enough : text.length < fuel) :
    readEntries scan (fuel + more) text = readEntries scan fuel text := by
  induction fuel generalizing text with
  | zero => exact absurd enough (Nat.not_lt_zero _)
  | succ fuel ih =>
    rw [Nat.add_right_comm, readEntries, readEntries]
    refine bind_congr_ok fun (key, middle) named => ?_
    refine bind_congr_ok fun (value, left) given => ?_
    dsimp only
    split
    · rfl
    · rename_i c after next
      have whole := (consumes given).1.trans (readKey_consumes named).1
      have left := Below.of_suffix (skip_suffix after) ((below_skip next).trans whole)
      rw [ih (Nat.lt_of_lt_of_le left.2 (Nat.le_of_lt_succ enough))]
end

/-! ### What a text within the limits raises -/

def opened (text : Text) : Nat := text.countP fun c => c = '['.toNat ∨ c = '\x7b'.toNat
/-- A text that opens no more lists and dicts than may be nested, and is no longer than an int may be. -/
def Within [Interpreter] (nesting : Nat) (text : Text) : Prop :=
  opened text ≤ nesting ∧ ∀ limit ∈ Interpreter.maxDigits, text.length ≤ limit
theorem Within.suffix [Interpreter] {nesting : Nat} {text rest : Text} (within : Within nesting text) (suffix : rest <:+ text) :
    Within nesting rest :=
  ⟨Nat.le_trans suffix.sublist.countP_le within.1, fun limit known => Nat.le_trans suffix.length_le (within.2 limit known)⟩
/-- What is raised, if anything, is that the text is no JSON. -/
def OnlySyntax {α : Type} (result : Except JsonRaised α) : Prop := ∀ raised, result = .error raised → raised = .jsonDecodeError

theorem onlySyntax_throw {α : Type} : OnlySyntax (throw .jsonDecodeError : Except JsonRaised α) := by
  intro raised error
  exact (Except.error.inj error).symm
theorem onlySyntax_pure {α : Type} (a : α) : OnlySyntax (pure a) := by
  intro raised error
  cases error
theorem OnlySyntax.bind {α β : Type} {x : Except JsonRaised α} {f : α → Except JsonRaised β} (first : OnlySyntax x)
    (next : ∀ a, x = .ok a → OnlySyntax (f a)) : OnlySyntax (x >>= f) := by
  intro raised error
  rcases bind_error error with error | ⟨a, ok, error⟩
  · exact first raised error
  · exact next a ok raised error
theorem OnlySyntax.map {α β : Type} {x : Except JsonRaised α} {f : α → β} (first : OnlySyntax x) : OnlySyntax (x.map f) := by
  intro raised error
  cases x with
  | error => exact first raised (by cases error; rfl)
  | ok a => cases error

theorem onlySyntax_scanString (fuel : Nat) (text : Text) : OnlySyntax (scanString fuel text) := by
  induction fuel generalizing text with
  | zero => exact onlySyntax_throw
  | succ fuel ih =>
    rw [scanString]
    split
    · exact onlySyntax_pure _
    split
    · exact onlySyntax_throw
    · exact (ih _).bind fun _ _ => onlySyntax_pure _
theorem onlySyntax_readKey (text : Text) : OnlySyntax (readKey text) := by
  cases text with
  | nil => exact onlySyntax_throw
  | cons c tail =>
    rw [readKey]
    split
    · exact onlySyntax_throw.bind fun _ raised => by cases raised
    · refine (onlySyntax_scanString _ _).bind fun (key, left) _ => ?_
      dsimp only
      split
      · exact onlySyntax_throw
      · split
        · exact onlySyntax_pure _
        · exact onlySyntax_throw
theorem integerPart_length (text : Text) : (integerPart text).length ≤ text.length := by
  rw [integerPart]
  split
  · exact List.length_take_le' _ _
  · exact (List.takeWhile_prefix _).length_le
theorem onlySyntax_matchNumber [Interpreter] {nesting : Nat} {text : Text} (within : Within nesting text) :
    OnlySyntax (matchNumber text) := by
  rw [matchNumber]
  generalize (if text.head? = some '-'.toNat then text.take 1 else []) = sign
  split
  · exact onlySyntax_throw
  split
  · exact onlySyntax_pure _
  split
  · rename_i long
    obtain ⟨limit, known, more⟩ := (Option.any_eq_true ..).mp long
    have short := within.2 limit known
    have part := integerPart_length (text.drop sign.length)
    rw [List.length_drop] at part
    have more := of_decide_eq_true more
    omega
  · exact onlySyntax_pure _

section
variable {scan : Reader PyValue} (consumes : Consumes scan)
include consumes

theorem onlySyntax_readItems (fuel : Nat) {text : Text} (syntactic : ∀ part, part <:+ text → OnlySyntax (scan part)) :
    OnlySyntax (readItems scan fuel text) := by
  induction fuel generalizing text with
  | zero => exact onlySyntax_throw
  | succ fuel ih =>
    rw [readItems]
    refine (syntactic text (List.suffix_refl _)).bind fun (item, left) first => ?_
    dsimp only
    split
    · exact onlySyntax_throw
    · rename_i c after next
      have suffix := (skip_suffix after).trans ((below_skip next).1.trans (consumes first).1)
      split
      · exact onlySyntax_pure _
      split
      · exact (ih fun part part_suffix => syntactic part (part_suffix.trans suffix)).bind fun _ _ => onlySyntax_pure _
      · exact onlySyntax_throw
theorem onlySyntax_readEntries (fuel : Nat) {text : Text} (syntactic : ∀ part, part <:+ text → OnlySyntax (scan part)) :
    OnlySyntax (readEntries scan fuel text) := by
  induction fuel generalizing text with
  | zero => exact onlySyntax_throw
  | succ fuel ih =>
    rw [readEntries]
    refine (onlySyntax_readKey text).bind fun (key, middle) named => ?_
    refine (syntactic middle (readKey_consumes named).1).bind fun (value, left) given => ?_
    dsimp only
    split
    · exact onlySyntax_throw
    · rename_i c after next
      have whole := (consumes given).1.trans (readKey_consumes named).1
      have suffix := (skip_suffix after).trans ((below_skip next).1.trans whole)
      split
      · exact onlySyntax_pure _
      split
      · exact (ih fun part part_suffix => syntactic part (part_suffix.trans suffix)).bind fun _ _ => onlySyntax_pure _
      · exact onlySyntax_throw
end

/-- One bracket is open, and what stands in it is within one level less. -/
theorem within_inner [Interpreter] {c : Nat} {tail : Text} {nesting : Nat} (within : Within nesting (c :: tail))
    (opens : c = '['.toNat ∨ c = '\x7b'.toNat) : ∃ inner, nesting = inner + 1 ∧ Within inner tail := by
  have counted : opened (c :: tail) = opened tail + 1 := List.countP_cons_of_pos (decide_eq_true opens)
  cases nesting with
  | zero => exact absurd within.1 (by omega)
  | succ inner =>
    exact ⟨inner, rfl, by have := within.1; omega, fun limit known => Nat.le_trans (Nat.le_succ _) (within.2 limit known)⟩
theorem onlySyntax_readNested {α : Type} {close : Char} {read : Reader PyValue → Nat → Reader (List α)} {scan : Reader PyValue}
    {text : Text} (syntactic : ∀ fuel part, part <:+ text → OnlySyntax (read scan fuel part)) :
    OnlySyntax (readNested close read (some scan) text) := by
  rw [readNested]
  split
  · exact onlySyntax_pure _
  · exact syntactic _ _ (skip_suffix text)
theorem onlySyntax_scanWith [Interpreter] {nested : Option (Reader PyValue)} {nesting : Nat} {text : Text}
    (levels : ∀ inner, nesting = inner + 1 →
      ∃ scan, nested = some scan ∧ Consumes scan ∧ ∀ part, Within inner part → OnlySyntax (scan part))
    (within : Within nesting text) : OnlySyntax (scanWith nested text) := by
  cases text with
  | nil => exact onlySyntax_throw
  | cons c tail =>
    rw [scanWith]
    split
    · exact (onlySyntax_scanString _ _).map
    split
    · rename_i opens
      obtain ⟨inner, deeper, within⟩ := within_inner within (.inr opens)
      obtain ⟨scan, rfl, consumes, syntactic⟩ := levels inner deeper
      exact (onlySyntax_readNested fun fuel part suffix => onlySyntax_readEntries consumes fuel fun part' suffix' =>
        syntactic part' (within.suffix (suffix'.trans suffix))).map
    split
    · rename_i opens
      obtain ⟨inner, deeper, within⟩ := within_inner within (.inl opens)
      obtain ⟨scan, rfl, consumes, syntactic⟩ := levels inner deeper
      exact (onlySyntax_readNested fun fuel part suffix => onlySyntax_readItems consumes fuel fun part' suffix' =>
        syntactic part' (within.suffix (suffix'.trans suffix))).map
    split
    · exact onlySyntax_pure _
    · exact onlySyntax_matchNumber within
theorem onlySyntax_scanOnce [Interpreter] {nesting : Nat} {text : Text} (within : Within nesting text) :
    OnlySyntax (scanOnce nesting text) := by
  induction nesting generalizing text with
  | zero => exact onlySyntax_scanWith (fun inner deeper => by cases deeper) within
  | succ nesting ih =>
    refine onlySyntax_scanWith (fun inner deeper => ?_) within
    cases deeper
    exact ⟨scanOnce nesting, rfl, scanOnce_consumes nesting, fun _ => ih⟩
/-- The limits of the interpreter are met only by a text that is nested as deep, or as long. -/
theorem onlySyntax_loads [Interpreter] {text : Text} (within : Within Interpreter.nesting text) : OnlySyntax (loads text) := by
  rw [loads]
  split
  · exact onlySyntax_throw.bind fun _ raised => by cases raised
  · refine (onlySyntax_scanOnce (within.suffix (skip_suffix text))).bind fun (value, rest) _ => ?_
    dsimp only
    split
    · exact onlySyntax_pure _
    · exact onlySyntax_throw

end Openlit.PythonJson
