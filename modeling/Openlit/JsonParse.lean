import Openlit.JsonText

/-!
The reading of JSON texts, `JSON.parse`. A value is read back from the text that it is written as
(`jsonParse_jsonStringify`). Numbers and the names of a text are kept as they stand there, as those of a
text from `JSON.stringify` are; half a surrogate pair, which is no character, is not read.
-/
namespace Openlit.JsonParse
open Openlit.JsonText

/-! ### Strings -/

def isBlank (c : Char) : Bool := c ∈ [' ', '\t', '\n', '\r']
def skip (input : List Char) : List Char := input.dropWhile isBlank

def hexValue (c : Char) : Option Nat :=
  if '0' ≤ c ∧ c ≤ '9' then some (c.toNat - 48)
  else if 'a' ≤ c ∧ c ≤ 'f' then some (c.toNat - 87)
  else if 'A' ≤ c ∧ c ≤ 'F' then some (c.toNat - 55)
  else none
/-- The code unit of four hexadecimal digits. -/
def readUnit : List Char → Option (Nat × List Char)
  | a :: b :: c :: d :: rest => do
    pure ((((← hexValue a) * 16 + (← hexValue b)) * 16 + (← hexValue c)) * 16 + (← hexValue d), rest)
  | _ => none
/-- The character of one code unit or of two. -/
def readCharacter (input : List Char) : Option (Char × List Char) := do
  let (high, rest) ← readUnit input
  if high < 0xD800 ∨ 0xE000 ≤ high then pure (Char.ofNat high, rest)
  else match rest with
    | '\\' :: 'u' :: rest => do
      let (low, rest) ← readUnit rest
      if high < 0xDC00 ∧ 0xDC00 ≤ low ∧ low < 0xE000 then
        pure (Char.ofNat (0x10000 + (high - 0xD800) * 0x400 + (low - 0xDC00)), rest)
      else none
    | _ => none
/-- What follows a backslash. -/
def readEscape : List Char → Option (Char × List Char)
  | 'u' :: rest => readCharacter rest
  | '"' :: rest => some ('"', rest)
  | '\\' :: rest => some ('\\', rest)
  | '/' :: rest => some ('/', rest)
  | 'b' :: rest => some ('\x08', rest)
  | 'f' :: rest => some ('\x0c', rest)
  | 'n' :: rest => some ('\n', rest)
  | 'r' :: rest => some ('\r', rest)
  | 't' :: rest => some ('\t', rest)
  | _ => none
/-- A string up to its closing quote. -/
def readString : Nat → List Char → Option (List Char × List Char)
  | 0, _ => none
  | _ + 1, [] => none
  | fuel + 1, c :: rest =>
    if c = '"' then some ([], rest)
    else if c = '\\' then do
      let (c, rest) ← readEscape rest
      let (text, rest) ← readString fuel rest
      pure (c :: text, rest)
    else if c.toNat < 32 then none
    else do
      let (text, rest) ← readString fuel rest
      pure (c :: text, rest)

/-! ### Words -/

def isDigits (text : List Char) : Bool := text ≠ [] && text.all Char.isDigit
/-- A number: an integer without leading zeros, a fraction and an exponent. -/
def isNumber (text : List Char) : Bool :=
  let unsigned := match text with
    | '-' :: rest => rest
    | _ => text
  let (mantissa, exponent) := unsigned.span fun c => c ≠ 'e' && c ≠ 'E'
  let (integer, fraction) := mantissa.span (· ≠ '.')
  let power := match exponent.tail with
    | '+' :: rest => rest
    | '-' :: rest => rest
    | rest => rest
  text ≠ [] && text.all (fun c => c.isDigit || c ∈ ['-', '+', '.', 'e', 'E']) && isDigits integer &&
    (integer.length = 1 || integer.head? ≠ some '0') && (fraction = [] || isDigits fraction.tail) && (exponent = [] || isDigits power)

def isWordChar (c : Char) : Bool := c.isAlphanum || c ∈ ['-', '+', '.']
def readWord (input : List Char) : Option (Json × List Char) :=
  let word := input.takeWhile isWordChar
  let rest := input.dropWhile isWordChar
  if word = "null".toList then some (.null, rest)
  else if word = "true".toList then some (.bool true, rest)
  else if word = "false".toList then some (.bool false, rest)
  else if isNumber word then some (.number (String.ofList word), rest)
  else none

/-! ### Values -/

mutual
def readValue : Nat → List Char → Option (Json × List Char)
  | 0, _ => none
  | fuel + 1, input =>
    match skip input with
    | '"' :: rest => (readString rest.length rest).map fun (text, rest) => (.string (String.ofList text), rest)
    | '[' :: rest =>
      match skip rest with
      | ']' :: rest => some (.array [], rest)
      | _ => (readItems fuel rest).map fun (items, rest) => (.array items, rest)
    | '{' :: rest =>
      match skip rest with
      | '}' :: rest => some (.object [], rest)
      | _ => (readFields fuel rest).map fun (fields, rest) => (.object fields, rest)
    | other => readWord other
def readItems : Nat → List Char → Option (List Json × List Char)
  | 0, _ => none
  | fuel + 1, input => do
    let (item, rest) ← readValue fuel input
    match skip rest with
    | ',' :: rest => (readItems fuel rest).map fun (items, rest) => (item :: items, rest)
    | ']' :: rest => some ([item], rest)
    | _ => none
def readFields : Nat → List Char → Option (List (String × Json) × List Char)
  | 0, _ => none
  | fuel + 1, input =>
    match skip input with
    | '"' :: rest => do
      let (key, rest) ← readString rest.length rest
      match skip rest with
      | ':' :: rest => do
        let (value, rest) ← readValue fuel rest
        match skip rest with
        | ',' :: rest => (readFields fuel rest).map fun (fields, rest) => ((String.ofList key, value) :: fields, rest)
        | '}' :: rest => some ([(String.ofList key, value)], rest)
        | _ => none
      | _ => none
    | _ => none
end

/-- `JSON.parse`, where `none` is a text that it throws at. -/
def jsonParse (text : String) : Option Json :=
  match readValue (2 * text.length + 2) text.toList with
  | some (value, rest) => if skip rest = [] then some value else none
  | none => none

/-! ### Strings are read back -/

theorem hexValue_hexDigit : ∀ n < 16, hexValue (hexDigit n) = some n := by decide
theorem readUnit_control {n : Nat} (control : n < 32) (rest : List Char) :
    readUnit ('0' :: '0' :: hexDigit (n / 16) :: hexDigit (n % 16) :: rest) = some (n, rest) := by
  have zero : hexValue '0' = some 0 := by decide
  have high := hexValue_hexDigit (n / 16) (by omega)
  have low := hexValue_hexDigit (n % 16) (by omega)
  have value : ((0 * 16 + 0) * 16 + n / 16) * 16 + n % 16 = n := by omega
  simp only [readUnit, zero, high, low, bind, Option.bind_some, pure, value]
/-- One character, as it stands in a string. -/
theorem readString_quotedChar (fuel : Nat) (c : Char) (rest : List Char) :
    readString (fuel + 1) (quotedChar c ++ rest) = (readString fuel rest).map fun (text, rest) => (c :: text, rest) := by
  have read (escaped : List Char) (isRead : readEscape (escaped ++ rest) = some (c, rest)) :
      readString (fuel + 1) ('\\' :: escaped ++ rest) = (readString fuel rest).map fun (text, rest) => (c :: text, rest) := by
    rw [List.cons_append, readString, if_neg (by decide), if_pos rfl, isRead]
    simp only [bind, Option.bind_some]
    cases readString fuel rest <;> rfl
  rw [quotedChar]
  by_cases isQuote : c = '"'
  · rw [if_pos isQuote]
    exact read ['"'] (by rw [isQuote]; rfl)
  rw [if_neg isQuote]
  by_cases isBackslash : c = '\\'
  · rw [if_pos isBackslash]
    exact read ['\\'] (by rw [isBackslash]; rfl)
  rw [if_neg isBackslash]
  by_cases isBackspace : c = '\x08'
  · rw [if_pos isBackspace]
    exact read ['b'] (by rw [isBackspace]; rfl)
  rw [if_neg isBackspace]
  by_cases isFeed : c = '\x0c'
  · rw [if_pos isFeed]
    exact read ['f'] (by rw [isFeed]; rfl)
  rw [if_neg isFeed]
  by_cases isNewline : c = '\n'
  · rw [if_pos isNewline]
    exact read ['n'] (by rw [isNewline]; rfl)
  rw [if_neg isNewline]
  by_cases isReturn : c = '\r'
  · rw [if_pos isReturn]
    exact read ['r'] (by rw [isReturn]; rfl)
  rw [if_neg isReturn]
  by_cases isTab : c = '\t'
  · rw [if_pos isTab]
    exact read ['t'] (by rw [isTab]; rfl)
  rw [if_neg isTab]
  by_cases control : c.toNat < 32
  · rw [if_pos control]
    refine read ['u', '0', '0', hexDigit (c.toNat / 16), hexDigit (c.toNat % 16)] ?_
    simp only [List.cons_append, List.nil_append, readEscape, readCharacter, readUnit_control control, bind, Option.bind_some]
    rw [if_pos (by omega), Char.ofNat_toNat]
    rfl
  rw [if_neg control, List.singleton_append, readString, if_neg isQuote, if_neg isBackslash, if_neg control]
  cases readString fuel rest <;> rfl
theorem readString_quoted (text rest : List Char) {fuel : Nat} (enough : text.length < fuel) :
    readString fuel (text.flatMap quotedChar ++ '"' :: rest) = some (text, rest) := by
  induction text generalizing fuel with
  | nil =>
    cases fuel with
    | zero => exact absurd enough (by simp)
    | succ fuel => rfl
  | cons c text ih =>
    cases fuel with
    | zero => exact absurd enough (by simp)
    | succ fuel =>
      rw [List.flatMap_cons, List.append_assoc, readString_quotedChar, ih (by simpa using enough)]
      rfl
theorem length_le_quoted (text : List Char) : text.length ≤ (text.flatMap quotedChar).length := by
  induction text with
  | nil => simp
  | cons c text ih =>
    have some_ : 0 < (quotedChar c).length := by grind [quotedChar]
    simp only [List.flatMap_cons, List.length_append, List.length_cons]
    omega
/-- A quoted text, from its opening quote on. -/
theorem readString_text (text : String) (rest : List Char) :
    readString (text.toList.flatMap quotedChar ++ '"' :: rest).length (text.toList.flatMap quotedChar ++ '"' :: rest) =
      some (text.toList, rest) := by
  refine readString_quoted _ _ ?_
  have long := length_le_quoted text.toList
  simp only [List.length_append, List.length_cons]
  omega

/-! ### Values are read back -/

mutual
/-- The numbers of a value are written as numbers. -/
def Valid : Json → Prop
  | .number text => isNumber text.toList = true
  | .array items => ValidItems items
  | .object fields => ValidFields fields
  | .null | .bool _ | .string _ => True
def ValidItems : List Json → Prop
  | [] => True
  | item :: items => Valid item ∧ ValidItems items
def ValidFields : List (String × Json) → Prop
  | [] => True
  | (_, value) :: fields => Valid value ∧ ValidFields fields
end

theorem skip_cons {c : Char} (visible : isBlank c = false) (rest : List Char) : skip (c :: rest) = c :: rest := by
  rw [skip, List.dropWhile_cons_of_neg (by simp [visible])]
/-- What follows a value: no more of a word. -/
def Ends (rest : List Char) : Prop := ∀ c ∈ rest.head?, isWordChar c = false
theorem ends_cons (mark : Char) (other : isWordChar mark = false) (rest : List Char) : Ends (mark :: rest) := by
  intro c first
  cases first
  exact other
theorem readWord_split {word rest : List Char} (inWord : word.all isWordChar = true) (ends : Ends rest) :
    (word ++ rest).takeWhile isWordChar = word ∧ (word ++ rest).dropWhile isWordChar = rest := by
  have inWord : ∀ c ∈ word, isWordChar c = true := List.all_eq_true.mp inWord
  rw [List.takeWhile_append_of_pos inWord, List.dropWhile_append_of_pos inWord]
  cases rest with
  | nil => simp
  | cons c rest =>
    have stops := ends c rfl
    simp [stops]

theorem visible_of_isWordChar {c : Char} (inWord : isWordChar c = true) : isBlank c = false ∧ c ∉ ['"', '[', '{', ']', '}', ',', ':'] := by
  constructor
  · rw [Bool.eq_false_iff]
    intro blank
    rw [isBlank, decide_eq_true_iff] at blank
    simp only [List.mem_cons, List.not_mem_nil, or_false] at blank
    rcases blank with rfl | rfl | rfl | rfl <;> exact absurd inWord (by decide)
  · intro mark
    simp only [List.mem_cons, List.not_mem_nil, or_false] at mark
    rcases mark with rfl | rfl | rfl | rfl | rfl | rfl | rfl <;> exact absurd inWord (by decide)
theorem readValue_word {c : Char} (inWord : isWordChar c = true) (fuel : Nat) (rest : List Char) :
    readValue (fuel + 1) (c :: rest) = readWord (c :: rest) := by
  obtain ⟨visible, mark⟩ := visible_of_isWordChar inWord
  rw [readValue, skip_cons visible]
  split <;> simp_all

theorem readValue_leaf {word rest : List Char} (nonempty : word ≠ []) (inWord : word.all isWordChar = true) (ends : Ends rest) (fuel : Nat) :
    readValue (fuel + 1) (word ++ rest) =
      if word = "null".toList then some (.null, rest)
      else if word = "true".toList then some (.bool true, rest)
      else if word = "false".toList then some (.bool false, rest)
      else if isNumber word then some (.number (String.ofList word), rest)
      else none := by
  obtain ⟨taken, dropped⟩ := readWord_split inWord ends
  obtain ⟨c, tail, rfl⟩ := List.exists_cons_of_ne_nil nonempty
  have first : isWordChar c = true := List.all_eq_true.mp inWord c List.mem_cons_self
  rw [List.cons_append] at taken dropped ⊢
  rw [readValue_word first, readWord, taken, dropped]
/-- The characters of a number. -/
theorem number_marks {text : List Char} (valid : isNumber text = true) :
    text ≠ [] ∧ ∀ c ∈ text, c.isDigit = true ∨ c ∈ ['-', '+', '.', 'e', 'E'] := by
  simp only [isNumber, Bool.and_eq_true, decide_eq_true_iff] at valid
  obtain ⟨⟨⟨⟨⟨nonempty, marks⟩, -⟩, -⟩, -⟩, -⟩ := valid
  refine ⟨nonempty, fun c inside => ?_⟩
  simpa only [Bool.or_eq_true, decide_eq_true_iff] using List.all_eq_true.mp marks c inside
theorem number_word {text : List Char} (valid : isNumber text = true) : text ≠ [] ∧ text.all isWordChar = true := by
  obtain ⟨nonempty, marks⟩ := number_marks valid
  refine ⟨nonempty, List.all_eq_true.mpr fun c inside => ?_⟩
  rcases marks c inside with digit | sign
  · simp [isWordChar, Char.isAlphanum, digit]
  · simp only [List.mem_cons, List.not_mem_nil, or_false] at sign
    rcases sign with rfl | rfl | rfl | rfl | rfl <;> decide
theorem readValue_number {text : String} (valid : isNumber text.toList = true) {rest : List Char} (ends : Ends rest) (fuel : Nat) :
    readValue (fuel + 1) (text.toList ++ rest) = some (.number text, rest) := by
  obtain ⟨nonempty, inWord⟩ := number_word valid
  rw [readValue_leaf nonempty inWord ends]
  rw [if_neg fun same => absurd valid (by rw [same]; decide), if_neg fun same => absurd valid (by rw [same]; decide),
    if_neg fun same => absurd valid (by rw [same]; decide), if_pos valid, String.ofList_toList]

/-- A value starts with a character that opens no list and ends none. -/
theorem written_start {value : Json} (valid : Valid value) :
    ∃ c tail, written value = c :: tail ∧ isBlank c = false ∧ c ≠ ']' := by
  cases value with
  | null => exact ⟨'n', ['u', 'l', 'l'], rfl, by decide, by decide⟩
  | bool b =>
    cases b
    · exact ⟨'f', ['a', 'l', 's', 'e'], rfl, by decide, by decide⟩
    · exact ⟨'t', ['r', 'u', 'e'], rfl, by decide, by decide⟩
  | number text =>
    obtain ⟨nonempty, inWord⟩ := number_word valid
    obtain ⟨c, tail, isText⟩ := List.exists_cons_of_ne_nil nonempty
    rw [isText] at inWord
    obtain ⟨visible, mark⟩ := visible_of_isWordChar (List.all_eq_true.mp inWord c List.mem_cons_self)
    exact ⟨c, tail, isText, visible, by simp_all⟩
  | string text => exact ⟨'"', _, rfl, by decide, by decide⟩
  | array items => exact ⟨'[', _, rfl, by decide, by decide⟩
  | object fields => exact ⟨'{', _, rfl, by decide, by decide⟩

mutual
/-- The calls that are nested or follow each other in the reading of a value. -/
def steps : Json → Nat
  | .array items => stepsItems items + 1
  | .object fields => stepsFields fields + 1
  | .null | .bool _ | .number _ | .string _ => 1
def stepsItems : List Json → Nat
  | [] => 0
  | item :: items => steps item + stepsItems items + 1
def stepsFields : List (String × Json) → Nat
  | [] => 0
  | (_, value) :: fields => steps value + stepsFields fields + 1
end

theorem joined_cons (first : List Char) (others : List (List Char)) (rest : List Char) :
    joined (first :: others) ++ rest =
      first ++ match others with
        | [] => rest
        | next :: more => ',' :: (joined (next :: more) ++ rest) := by
  cases others <;> simp [joined]
theorem items_start {item : Json} (items : List Json) (valid : Valid item) (rest : List Char) :
    ∃ c tail, joined (writtenItems (item :: items)) ++ rest = c :: tail ∧ isBlank c = false ∧ c ≠ ']' := by
  obtain ⟨c, tail, isWritten, visible, other⟩ := written_start valid
  rw [writtenItems, joined_cons, isWritten]
  exact ⟨c, _, rfl, visible, other⟩
theorem joined_fields (key : String) (value : Json) (fields : List (String × Json)) (rest : List Char) :
    joined (writtenFields ((key, value) :: fields)) ++ rest =
      '"' :: (key.toList.flatMap quotedChar ++ '"' :: ':' :: (written value ++ match fields with
        | [] => rest
        | (next, other) :: more => ',' :: (joined (writtenFields ((next, other) :: more)) ++ rest))) := by
  rw [writtenFields, joined_cons]
  cases fields <;> simp [quoted, writtenFields]

mutual
/-- A value is read back from what is written of it, with what follows left over. -/
theorem readValue_written (value : Json) (valid : Valid value) {fuel : Nat} (enough : steps value ≤ fuel) {rest : List Char}
    (ends : Ends rest) : readValue fuel (written value ++ rest) = some (value, rest) := by
  match value, fuel with
  | .null, fuel + 1 => rw [written, readValue_leaf (by decide) (by decide) ends, if_pos rfl]
  | .bool true, fuel + 1 =>
    show readValue (fuel + 1) ("true".toList ++ rest) = _
    rw [readValue_leaf (by decide) (by decide) ends, if_neg (by decide), if_pos rfl]
  | .bool false, fuel + 1 =>
    show readValue (fuel + 1) ("false".toList ++ rest) = _
    rw [readValue_leaf (by decide) (by decide) ends, if_neg (by decide), if_neg (by decide), if_pos rfl]
  | .number text, fuel + 1 => exact readValue_number valid ends fuel
  | .string text, fuel + 1 =>
    have isWritten : written (.string text) ++ rest = '"' :: (text.toList.flatMap quotedChar ++ '"' :: rest) := by
      simp [written, quoted]
    rw [isWritten, readValue, skip_cons (by decide)]
    simp only [readString_text, Option.map_some, String.ofList_toList]
  | .array [], fuel + 1 => rfl
  | .array (item :: items), fuel + 1 =>
    obtain ⟨c, tail, isWritten, visible, other⟩ := items_start items valid.1 (']' :: rest)
    have all : written (.array (item :: items)) ++ rest = '[' :: (joined (writtenItems (item :: items)) ++ ']' :: rest) := by
      simp [written]
    have read := readItems_written item items valid (Nat.le_of_succ_le_succ enough) rest
    rw [isWritten] at read
    rw [all, isWritten, readValue, skip_cons (by decide)]
    simp only [skip_cons visible, read]
    split
    · next closed => exact absurd (List.cons.inj closed).1 other
    · rfl
  | .object [], fuel + 1 => rfl
  | .object ((key, value) :: fields), fuel + 1 =>
    have all : written (.object ((key, value) :: fields)) ++ rest =
        '{' :: (joined (writtenFields ((key, value) :: fields)) ++ '}' :: rest) := by
      simp [written]
    have read := readFields_written key value fields valid (Nat.le_of_succ_le_succ enough) rest
    rw [joined_fields] at read
    rw [all, joined_fields, readValue, skip_cons (by decide)]
    simp only [skip_cons (show isBlank '"' = false by decide), read, Option.map_some]
    split
    · next closed => exact absurd (List.cons.inj closed).1 (by decide)
    · rfl
theorem readItems_written (item : Json) (items : List Json) (valid : ValidItems (item :: items)) {fuel : Nat}
    (enough : stepsItems (item :: items) ≤ fuel) (rest : List Char) :
    readItems fuel (joined (writtenItems (item :: items)) ++ ']' :: rest) = some (item :: items, rest) := by
  match items, fuel with
  | [], fuel + 1 =>
    have read := readValue_written item valid.1 (Nat.le_of_succ_le_succ enough) (ends_cons ']' (by decide) rest)
    rw [writtenItems, joined_cons]
    show readItems (fuel + 1) (written item ++ ']' :: rest) = _
    rw [readItems, read]
    rfl
  | next :: more, fuel + 1 =>
    simp only [stepsItems] at enough
    have read := readValue_written item valid.1 (show steps item ≤ fuel by omega)
      (ends_cons ',' (by decide) (joined (writtenItems (next :: more)) ++ ']' :: rest))
    have others := readItems_written next more valid.2 (show stepsItems (next :: more) ≤ fuel by simp only [stepsItems]; omega) rest
    rw [writtenItems, joined_cons]
    show readItems (fuel + 1) (written item ++ ',' :: (joined (writtenItems (next :: more)) ++ ']' :: rest)) = _
    rw [readItems, read]
    show (readItems fuel (joined (writtenItems (next :: more)) ++ ']' :: rest)).map _ = _
    rw [others]
    rfl
theorem readFields_written (key : String) (value : Json) (fields : List (String × Json)) (valid : ValidFields ((key, value) :: fields))
    {fuel : Nat} (enough : stepsFields ((key, value) :: fields) ≤ fuel) (rest : List Char) :
    readFields fuel (joined (writtenFields ((key, value) :: fields)) ++ '}' :: rest) = some ((key, value) :: fields, rest) := by
  match fields, fuel with
  | [], fuel + 1 =>
    have read := readValue_written value valid.1 (Nat.le_of_succ_le_succ enough) (ends_cons '}' (by decide) rest)
    rw [joined_fields, readFields, skip_cons (by decide)]
    simp only [readString_text, skip_cons (show isBlank ':' = false by decide), bind, Option.bind_some, read,
      skip_cons (show isBlank '}' = false by decide), String.ofList_toList]
  | (next, other) :: more, fuel + 1 =>
    simp only [stepsFields] at enough
    have read := readValue_written value valid.1 (show steps value ≤ fuel by omega)
      (ends_cons ',' (by decide) (joined (writtenFields ((next, other) :: more)) ++ '}' :: rest))
    have others := readFields_written next other more valid.2
      (show stepsFields ((next, other) :: more) ≤ fuel by simp only [stepsFields]; omega) rest
    rw [joined_fields, readFields, skip_cons (by decide)]
    simp only [readString_text, skip_cons (show isBlank ':' = false by decide), bind, Option.bind_some, read,
      skip_cons (show isBlank ',' = false by decide), others, Option.map_some, String.ofList_toList]
end

theorem length_joined (first : List Char) (others : List (List Char)) :
    (joined (first :: others)).length = first.length + (match others with
      | [] => 0
      | next :: more => (joined (next :: more)).length + 1) := by
  cases others with
  | nil => rfl
  | cons next more => simp [joined]
mutual
theorem steps_le : ∀ value : Json, Valid value → steps value ≤ 2 * (written value).length
  | .null, _ => by decide
  | .bool true, _ => by decide
  | .bool false, _ => by decide
  | .number text, valid => by
    have nonempty := List.length_pos_of_ne_nil (number_word valid).1
    simp only [steps, written]
    omega
  | .string text, _ => by
    simp only [steps, written, quoted, List.length_append, List.length_cons]
    omega
  | .array items, valid => by
    have bound := stepsItems_le items valid
    simp only [steps, written, List.length_append, List.length_cons, List.length_nil]
    omega
  | .object fields, valid => by
    have bound := stepsFields_le fields valid
    simp only [steps, written, List.length_append, List.length_cons, List.length_nil]
    omega
theorem stepsItems_le : ∀ items : List Json, ValidItems items → stepsItems items ≤ 2 * (joined (writtenItems items)).length + 1
  | [], _ => by decide
  | item :: items, valid => by
    have first := steps_le item valid.1
    have others := stepsItems_le items valid.2
    rw [stepsItems, writtenItems, length_joined]
    cases items with
    | nil =>
      simp only [stepsItems, writtenItems]
      omega
    | cons next more =>
      simp only [writtenItems] at others ⊢
      omega
theorem stepsFields_le : ∀ fields : List (String × Json), ValidFields fields →
    stepsFields fields ≤ 2 * (joined (writtenFields fields)).length + 1
  | [], _ => by decide
  | (key, value) :: fields, valid => by
    have first := steps_le value valid.1
    have others := stepsFields_le fields valid.2
    rw [stepsFields, writtenFields, length_joined]
    cases fields with
    | nil =>
      simp only [stepsFields, writtenFields, List.length_append, List.length_cons]
      omega
    | cons next more =>
      simp only [writtenFields, List.length_append, List.length_cons] at others ⊢
      omega
end

/-- `JSON.parse` gives the value that a text was written from. -/
theorem jsonParse_jsonStringify {value : Json} (valid : Valid value) : jsonParse (jsonStringify value) = some value := by
  have bound := steps_le value valid
  have read := readValue_written value valid
    (show steps value ≤ 2 * (jsonStringify value).length + 2 by rw [jsonStringify, String.length_ofList]; omega)
    (show Ends [] from nofun)
  rw [List.append_nil] at read
  rw [jsonParse, jsonStringify, String.toList_ofList, ← jsonStringify, read]
  rfl

/-! ### What is read is valid -/

theorem readWord_valid {input rest : List Char} {value : Json} (read : readWord input = some (value, rest)) : Valid value := by
  simp only [readWord] at read
  split at read
  · cases read
    trivial
  split at read
  · cases read
    trivial
  split at read
  · cases read
    trivial
  split at read
  · next number =>
    cases read
    simpa [Valid] using number
  · cases read
mutual
theorem readValue_valid : ∀ (fuel : Nat) {input rest : List Char} {value : Json},
    readValue fuel input = some (value, rest) → Valid value
  | 0, _, _, _, read => nomatch read
  | fuel + 1, input, rest, value, read => by
    rw [readValue] at read
    split at read
    · obtain ⟨_, -, same⟩ := Option.map_eq_some_iff.mp read
      cases same
      trivial
    · split at read
      · cases read
        trivial
      · obtain ⟨⟨items, _⟩, inside, same⟩ := Option.map_eq_some_iff.mp read
        cases same
        exact readItems_valid fuel inside
    · split at read
      · cases read
        trivial
      · obtain ⟨⟨fields, _⟩, inside, same⟩ := Option.map_eq_some_iff.mp read
        cases same
        exact readFields_valid fuel inside
    · exact readWord_valid read
theorem readItems_valid : ∀ (fuel : Nat) {input rest : List Char} {items : List Json},
    readItems fuel input = some (items, rest) → ValidItems items
  | 0, _, _, _, read => nomatch read
  | fuel + 1, input, rest, items, read => by
    rw [readItems] at read
    obtain ⟨⟨item, left⟩, first, read⟩ := Option.bind_eq_some_iff.mp read
    have valid := readValue_valid fuel first
    dsimp only at read
    split at read
    · obtain ⟨⟨more, _⟩, others, same⟩ := Option.map_eq_some_iff.mp read
      cases same
      exact ⟨valid, readItems_valid fuel others⟩
    · cases read
      exact ⟨valid, trivial⟩
    · cases read
theorem readFields_valid : ∀ (fuel : Nat) {input rest : List Char} {fields : List (String × Json)},
    readFields fuel input = some (fields, rest) → ValidFields fields
  | 0, _, _, _, read => nomatch read
  | fuel + 1, input, rest, fields, read => by
    rw [readFields] at read
    split at read
    · obtain ⟨⟨key, left⟩, -, read⟩ := Option.bind_eq_some_iff.mp read
      dsimp only at read
      split at read
      · obtain ⟨⟨value, left⟩, first, read⟩ := Option.bind_eq_some_iff.mp read
        have valid := readValue_valid fuel first
        dsimp only at read
        split at read
        · obtain ⟨⟨more, _⟩, others, same⟩ := Option.map_eq_some_iff.mp read
          cases same
          exact ⟨valid, readFields_valid fuel others⟩
        · cases read
          exact ⟨valid, trivial⟩
        · cases read
      · cases read
    · cases read
end
theorem jsonParse_valid {text : String} {value : Json} (read : jsonParse text = some value) : Valid value := by
  rw [jsonParse] at read
  split at read
  · next found =>
    split at read
    · cases read
      exact readValue_valid _ found
    · cases read
  · cases read

/-! ### Control characters -/

/-- No control characters. -/
def Printed (text : List Char) : Prop := ∀ c ∈ text, 32 ≤ c.toNat
instance (text : List Char) : Decidable (Printed text) := List.decidableBAll (fun c : Char => 32 ≤ c.toNat) text

theorem printed_append {a b : List Char} (left : Printed a) (right : Printed b) : Printed (a ++ b) := by
  intro c inside
  rcases List.mem_append.mp inside with there | there
  · exact left c there
  · exact right c there
theorem printed_cons {c : Char} {text : List Char} (first : 32 ≤ c.toNat) (others : Printed text) : Printed (c :: text) := by
  intro d inside
  rcases List.mem_cons.mp inside with rfl | there
  · exact first
  · exact others d there
theorem printed_nil : Printed [] := nofun
theorem printed_quotedChar (c : Char) : Printed (quotedChar c) := by
  have hex : ∀ n < 16, 32 ≤ (hexDigit n).toNat := by decide
  rw [quotedChar]
  repeat' split
  case isFalse.isFalse.isFalse.isFalse.isFalse.isFalse.isFalse.isTrue =>
    have high := hex (c.toNat / 16) (by omega)
    have low := hex (c.toNat % 16) (by omega)
    exact printed_cons (by decide) (printed_cons (by decide) (printed_cons (by decide) (printed_cons (by decide)
      (printed_cons high (printed_cons low printed_nil)))))
  case isFalse.isFalse.isFalse.isFalse.isFalse.isFalse.isFalse.isFalse =>
    exact printed_cons (by omega) printed_nil
  all_goals exact printed_cons (by decide) (printed_cons (by decide) printed_nil)
theorem printed_quoted (text : String) : Printed (quoted text) := by
  have inner : Printed (text.toList.flatMap quotedChar) := by
    intro c inside
    obtain ⟨d, -, written⟩ := List.mem_flatMap.mp inside
    exact printed_quotedChar d c written
  exact printed_append (printed_cons (by decide) inner) (printed_cons (by decide) printed_nil)
theorem printed_joined : ∀ {items : List (List Char)}, (∀ item ∈ items, Printed item) → Printed (joined items)
  | [], _ => printed_nil
  | [item], each => each item List.mem_cons_self
  | item :: next :: more, each =>
    printed_append (each item List.mem_cons_self)
      (printed_cons (by decide) (printed_joined fun other inside => each other (List.mem_cons_of_mem item inside)))
theorem printed_number {text : List Char} (valid : isNumber text = true) : Printed text := by
  intro c inside
  rcases (number_marks valid).2 c inside with digit | sign
  · simp only [Char.isDigit, Bool.and_eq_true, decide_eq_true_iff, UInt32.le_iff_toNat_le] at digit
    exact Nat.le_trans (by decide) digit.1
  · simp only [List.mem_cons, List.not_mem_nil, or_false] at sign
    rcases sign with rfl | rfl | rfl | rfl | rfl <;> decide
mutual
theorem printed_written : ∀ {value : Json}, Valid value → Printed (written value)
  | .null, _ => show Printed "null".toList by decide
  | .bool true, _ => show Printed "true".toList by decide
  | .bool false, _ => show Printed "false".toList by decide
  | .number text, valid => printed_number valid
  | .string text, _ => printed_quoted text
  | .array items, valid =>
    printed_append (printed_cons (by decide) (printed_joined (printed_items valid))) (printed_cons (by decide) printed_nil)
  | .object fields, valid =>
    printed_append (printed_cons (by decide) (printed_joined (printed_fields valid))) (printed_cons (by decide) printed_nil)
theorem printed_items : ∀ {items : List Json}, ValidItems items → ∀ item ∈ writtenItems items, Printed item
  | [], _ => nofun
  | _ :: _, valid => List.forall_mem_cons.mpr ⟨printed_written valid.1, printed_items valid.2⟩
theorem printed_fields : ∀ {fields : List (String × Json)}, ValidFields fields → ∀ field ∈ writtenFields fields, Printed field
  | [], _ => nofun
  | (key, value) :: fields, valid =>
    List.forall_mem_cons.mpr
      ⟨printed_append (printed_quoted key) (printed_cons (by decide) (printed_written valid.1)), printed_fields valid.2⟩
end

end Openlit.JsonParse
