import Openlit.ClickHouse
import Openlit.JsonParse
import Openlit.Lexemes

/-!
The ways in which values are put between quotes, over the letters of `sqlstring`
and of ClickHouse: as they are, with doubled quotes, sanitized (`sanitizer.ts`),
and as the JSON text (`json.ts`) of what is sanitized, with the texts that each
of them keeps.
-/
namespace Openlit.QuotedValues
open Openlit.ClickHouse Openlit.JsonParse Openlit.JsonText Openlit.Lexemes Openlit.Literals Openlit.RuleLinks
open Storage Platform
attribute [local instance] sqlstringPlatform

instance : @OneByOne sqlstringEscapes where
  reading_cases {l read} known := by
    change clickHouseReading l = some read at known
    rw [clickHouseReading] at known
    split at known
    · cases known
    obtain rfl := Option.some.inj known
    cases found : clickHouseLetters.lookup l with
    | none =>
      refine .inl ⟨rfl, ?_⟩
      by_contra mark
      rw [Bool.not_eq_false, isMark, Bool.or_eq_true, decide_eq_true_iff, decide_eq_true_iff] at mark
      rcases mark with rfl | rfl <;> exact absurd found (by decide)
    | some c =>
      refine .inr ⟨c, rfl, ?_⟩
      have only : ∀ pair ∈ clickHouseLetters, isMark pair.2 = true → pair.2 = pair.1 := by decide
      exact only (l, c) (Lookups.mem_of_lookup found)

/-! ### Sanitized texts -/

/-- The end of a file is written with a letter that ClickHouse does not know. -/
theorem faithful_iff {c : Char} : Faithful c ↔ c ≠ '\x1a' := by
  constructor
  · rintro faithful rfl
    exact absurd (faithful 'Z' (by decide)) (by decide)
  · intro other l written
    have back : ∀ pair ∈ sqlstringLetters, pair.1 ≠ '\x1a' → clickHouseReading pair.2 = some [pair.1] := by decide
    exact back (c, l) (Lookups.mem_of_lookup written) other
theorem decided_sanitizeValue (text : String) :
    Decided (sanitizeValue text).toList text.toList ('\x1a' ∉ text.toList) Anything := by
  rw [sanitizeValue_escape, String.toList_ofList]
  refine (decided_escape _).congr ?_
  simp only [faithful_iff]
  exact ⟨fun each inside => each _ inside rfl, fun absent c inside same => absent (same ▸ inside)⟩

/-! ### JSON texts of sanitized values -/

/-- What the sanitizer and then `JSON.stringify` make of a character. -/
def sanitizedQuotedChar (c : Char) : List Char := (escape [c]).flatMap quotedChar

/-- The characters of a text whose JSON text ClickHouse does not read as it would be without the sanitizer. -/
def alteredInText : List Char := ['\'', '\x00', '\x1a', '\x0c']
/-- Those of a name, which is not sanitized. -/
def alteredInName : List Char := ['\'', '"', '\\', '\x08', '\x0c', '\n', '\r', '\t']

theorem reads_unicode (c : Char) (control : c.toNat < 32) :
    Reads ['\\', 'u', '0', '0', hexDigit (c.toNat / 16), hexDigit (c.toNat % 16)]
      ['\\', 'u', '0', '0', hexDigit (c.toNat / 16), hexDigit (c.toNat % 16)] := by
  have hex : ∀ n < 16, isMark (hexDigit n) = false := by decide
  have kept : Reads ['\\', 'u'] ['\\', 'u'] := reads_letter (by decide)
  have zero : Reads ['0'] ['0'] := reads_char (by decide)
  exact (((kept.append zero).append zero).append (reads_char (hex _ (by omega)))).append (reads_char (hex _ (by omega)))

theorem reads_quotedChar {c : Char} (simple : c ∉ ['"', '\\', '\x08', '\x0c', '\n', '\r', '\t']) (unquoted : c ≠ '\'') :
    Reads (quotedChar c) (quotedChar c) := by
  simp only [List.mem_cons, List.not_mem_nil, or_false, not_or] at simple
  simp only [quotedChar, simple, if_false]
  split
  next control => exact reads_unicode c control
  · exact reads_char (by simp [isMark, unquoted, simple])

theorem decided_sanitizedQuotedChar (c : Char) :
    Decided (sanitizedQuotedChar c) (quotedChar c) (c ∉ alteredInText) Anything := by
  by_cases special : c ∈ ['\'', '\x00', '\x1a', '\x0c', '"', '\\', '\x08', '\n', '\r', '\t']
  · simp only [List.mem_cons, List.not_mem_nil, or_false] at special
    rcases special with rfl | rfl | rfl | rfl | rfl | rfl | rfl | rfl | rfl | rfl
    -- The backslash is written twice, and the quote after it ends the literal.
    · exact (@decided_differs _ ['\\', '\\'] [] [] '\\' '\'' (reads_of_decoded (by decide)) (by decide) ['\''] []).congr (by decide)
    · exact (@decided_differs _ ['\\', '\\', '0'] ['\\'] [] '0' 'u' (reads_of_decoded (by decide)) (by decide) []
        ['0', '0', '0', '0']).congr (by decide)
    · exact (@decided_differs _ ['\\', '\\', 'Z'] ['\\'] [] 'Z' 'u' (reads_of_decoded (by decide)) (by decide) []
        ['0', '0', '1', 'a']).congr (by decide)
    · exact (@decided_differs _ ['\\', 'f'] [] [] '\x0c' '\\' (reads_of_decoded (by decide)) (by decide) [] ['f']).congr (by decide)
    all_goals exact ((reads_of_decoded (by decide)).decided _).congr (by decide)
  · have letters : ∀ pair ∈ sqlstringLetters, pair.1 ∈ ['\'', '\x00', '\x1a', '\x0c', '"', '\\', '\x08', '\n', '\r', '\t'] := by
      decide
    have plain : Plain c := by
      by_contra written
      obtain ⟨l, written⟩ := Option.ne_none_iff_exists'.mp written
      exact special (letters (c, l) (Lookups.mem_of_lookup written))
    have same : sanitizedQuotedChar c = quotedChar c := by
      rw [sanitizedQuotedChar, escape_cons_of_plain plain, escape, List.flatMap_singleton]
    simp only [List.mem_cons, List.not_mem_nil, or_false, not_or] at special
    rw [same]
    refine ((reads_quotedChar ?_ ?_).decided _).congr ?_
    all_goals simp [alteredInText, special]

theorem escape_eq_flatMap (text : List Char) : escape text = text.flatMap fun c => escape [c] := by
  induction text with
  | nil => rfl
  | cons c rest ih =>
    rw [List.flatMap_cons, ← ih]
    simp only [escape]
    cases Escapes.letter c <;> rfl

/-- A mark between the same two marks. -/
theorem decided_between {mark mark' : Char} (plain : isMark mark = false) (plain' : isMark mark' = false)
    {body value : List Char} {condition : Prop} (decided : Decided body value condition Anything) :
    Decided (mark :: body ++ [mark']) (mark :: value ++ [mark']) condition Anything :=
  ((((reads_char plain).decided Anything).append decided fun _ _ _ => trivial).append
    ((reads_char plain').decided Anything) fun _ _ _ => trivial).congr (by simp)

theorem decided_text (text : String) :
    Decided (quoted (sanitizeValue text)) (quoted text) (∀ c ∈ text.toList, c ∉ alteredInText) Anything := by
  have body : (sanitizeValue text).toList.flatMap quotedChar = text.toList.flatMap sanitizedQuotedChar := by
    rw [sanitizeValue_escape, String.toList_ofList, escape_eq_flatMap, List.flatMap_assoc]
    rfl
  rw [quoted, body]
  exact decided_between (by decide) (by decide) (decided_flatMap fun c _ => decided_sanitizedQuotedChar c)

theorem verbatim_quotedChar (c : Char) (rest : List Char) :
    verbatim (quotedChar c ++ rest) = (decide (c ∉ alteredInName) && verbatim rest) := by
  by_cases special : c ∈ alteredInName
  · have unquotable : ∀ c ∈ alteredInName, verbatim (quotedChar c ++ rest) = false := by
      intro c inside
      simp only [alteredInName, List.mem_cons, List.not_mem_nil, or_false] at inside
      rcases inside with rfl | rfl | rfl | rfl | rfl | rfl | rfl | rfl
      · simp [quotedChar, verbatim]
      all_goals exact (verbatim_letter (by decide) rest).trans (by rw [decide_eq_false (by decide), Bool.false_and])
    simp [unquotable c special, special]
  · have others := special
    simp only [alteredInName, List.mem_cons, List.not_mem_nil, or_false, not_or] at others
    simp only [quotedChar, others, if_false]
    rw [decide_eq_true special, Bool.true_and]
    split
    next control =>
      have hex : ∀ n < 16, isMark (hexDigit n) = false := by decide
      simp only [List.cons_append, List.nil_append]
      rw [verbatim_letter (by decide), decide_eq_true (by decide), Bool.true_and, verbatim_char (by decide), verbatim_char (by decide),
        verbatim_char (hex _ (by omega)), verbatim_char (hex _ (by omega))]
    · exact verbatim_char (by simp [isMark, others]) rest
/-- The JSON text of a name, which is not sanitized. -/
theorem decided_name (key : String) : Decided (quoted key) (quoted key) (∀ c ∈ key.toList, c ∉ alteredInName) Anything := by
  have sound : verbatim (key.toList.flatMap quotedChar) = true ↔ ∀ c ∈ key.toList, c ∉ alteredInName := by
    induction key.toList with
    | nil => simp [verbatim, keepsBackslashes]
    | cons c rest ih => rw [List.flatMap_cons, verbatim_quotedChar, Bool.and_eq_true, ih, List.forall_mem_cons, decide_eq_true_iff]
  have ended := (decided_verbatim (key.toList.flatMap quotedChar)).append ((@reads_char _ '"' (by decide)).decided Anything)
    fun rest s _ => stops_char (by decide) (by decide) _ _
  exact (((@reads_char _ '"' (by decide)).decided Anything).append ended fun _ _ _ => trivial).congr (by simpa using sound)

mutual
/-- Whether ClickHouse reads the JSON text of the sanitized value as that of the value. The sanitizer makes
    a text of a number and an object of an array in an array. -/
def survives : Json → Bool
  | .null | .bool _ => true
  | .number _ => false
  | .string text => text.toList.all (· ∉ alteredInText)
  | .array items => survivesItems items
  | .object fields => survivesFields fields
def survivesItems : List Json → Bool
  | [] => true
  | .array _ :: _ => false
  | item :: items => survives item && survivesItems items
def survivesFields : List (String × Json) → Bool
  | [] => true
  | (key, value) :: fields => key.toList.all (· ∉ alteredInName) && survives value && survivesFields fields
end

theorem decided_char {c : Char} (plain : isMark c = false) {body value : List Char} {condition : Prop}
    (decided : Decided body value condition Anything) : Decided (c :: body) (c :: value) condition Anything :=
  (((reads_char plain).decided Anything).append decided fun _ _ _ => trivial).congr (by simp)
theorem decided_joined_nil : Decided (joined []) (joined []) True Anything := reads_nil.decided _
/-- Values with commas between them, of which there are as many as there should be. -/
theorem decided_joined_cons {body value : List Char} {bodies values : List (List Char)} {condition condition' : Prop}
    (first : Decided body value condition Anything) (others : Decided (joined bodies) (joined values) condition' Anything)
    (same : bodies = [] ↔ values = []) :
    Decided (joined (body :: bodies)) (joined (value :: values)) (condition ∧ condition') Anything := by
  cases bodies with
  | nil =>
    obtain rfl := same.mp rfl
    simpa [joined] using first.append others fun _ _ _ => trivial
  | cons next bodies =>
    obtain ⟨next', values, rfl⟩ := List.exists_cons_of_ne_nil fun none => List.cons_ne_nil _ _ (same.mpr none)
    exact first.append (decided_char (by decide) others) fun _ _ _ => trivial

theorem sanitizeItems_nil_iff (items : List Json) : writtenItems (sanitizeItems items) = [] ↔ writtenItems items = [] := by
  cases items with
  | nil => rfl
  | cons item items => cases item <;> simp [sanitizeItems, writtenItems]
theorem sanitizeFields_nil_iff (fields : List (String × Json)) :
    writtenFields (sanitizeFields fields) = [] ↔ writtenFields fields = [] := by
  cases fields <;> simp [sanitizeFields, writtenFields]

mutual
/-- The JSON text of a sanitized value is read as that of the value exactly when the value survives. -/
theorem decided_written : ∀ {value : Json}, Valid value →
    Decided (written (sanitizeField value)) (written value) (survives value = true) Anything
  | .null, _ => ((reads_of_decoded (by decide)).decided _).congr (by simp [survives])
  | .bool true, _ => ((reads_of_decoded (by decide)).decided _).congr (by simp [survives])
  | .bool false, _ => ((reads_of_decoded (by decide)).decided _).congr (by simp [survives])
  | .number text, valid => by
    obtain ⟨nonempty, inWord⟩ := number_word valid
    obtain ⟨c, tail, isText⟩ := List.exists_cons_of_ne_nil nonempty
    have first : isWordChar c = true := List.all_eq_true.mp inWord c (isText ▸ List.mem_cons_self)
    have other : '"' ≠ c := by
      rintro rfl
      exact absurd first (by decide)
    simp only [sanitizeField, written, survives, isText]
    exact (@decided_differs _ ['"'] [] [] _ _ (reads_char (by decide)) other _ _).congr (by decide)
  | .string text, _ => (decided_text text).congr (by simp [survives])
  | .array items, valid => decided_between (by decide) (by decide) (decided_items valid)
  | .object fields, valid => decided_between (by decide) (by decide) (decided_fields valid)
theorem decided_items : ∀ {items : List Json}, ValidItems items →
    Decided (joined (writtenItems (sanitizeItems items))) (joined (writtenItems items)) (survivesItems items = true) Anything
  | [], _ => decided_joined_nil.congr (by simp [survivesItems])
  | item :: items, valid => by
    have first := decided_written valid.1
    have others := decided_items valid.2
    have same := sanitizeItems_nil_iff items
    cases item with
    | array inner =>
      have differs := @decided_differs _ ['{'] [] [] _ _ (reads_char (by decide)) (by decide : '{' ≠ '[')
        (joined (writtenFields (sanitizeIndexed 0 inner)) ++ ['}']) (joined (writtenItems inner) ++ [']'])
      exact (decided_joined_cons differs others same).congr (by simp [survivesItems])
    | null => exact (decided_joined_cons first others same).congr (by simp [survivesItems])
    | bool b => exact (decided_joined_cons first others same).congr (by simp [survivesItems])
    | number text => exact (decided_joined_cons first others same).congr (by simp [survivesItems])
    | string text => exact (decided_joined_cons first others same).congr (by simp [survivesItems])
    | object fields => exact (decided_joined_cons first others same).congr (by simp [survivesItems])
theorem decided_fields : ∀ {fields : List (String × Json)}, ValidFields fields →
    Decided (joined (writtenFields (sanitizeFields fields))) (joined (writtenFields fields)) (survivesFields fields = true) Anything
  | [], _ => decided_joined_nil.congr (by simp [survivesFields])
  | (key, value) :: fields, valid => by
    have named := (decided_name key).append (@decided_char ':' (by decide) _ _ _ (decided_written valid.1)) fun _ _ _ => trivial
    exact (decided_joined_cons named (decided_fields valid.2) (sanitizeFields_nil_iff fields)).congr
      (by simp [survivesFields, and_assoc])
end

/-! ### Values between quotes -/

/-- A text as it is. -/
def plainLiteral (text : String) : Quoted where
  body := text.toList
  value := text.toList
  condition := verbatim text.toList = true
  decided := (decided_verbatim _).mono fun _ _ closes => closes.stops
def doubledLiteral (text : String) : Quoted where
  body := doubled text.toList
  value := text.toList
  condition := keepsBackslashes text.toList = true
  decided := (decided_doubled _).mono fun _ _ closes => closes.stops
def sanitizedLiteral (text : String) : Quoted where
  body := (sanitizeValue text).toList
  value := text.toList
  condition := '\x1a' ∉ text.toList
  decided := (decided_sanitizeValue text).mono fun _ _ _ => trivial
def jsonLiteral (value : Json) (valid : Valid value) : Quoted where
  body := written (sanitizeField value)
  value := written value
  condition := survives value = true
  decided := (decided_written valid).mono fun _ _ _ => trivial

end Openlit.QuotedValues
