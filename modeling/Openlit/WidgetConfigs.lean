import Openlit.BoardExports
import Openlit.JsonRewrites
import Openlit.UpdateQueries

/-!
The config of a widget, read back after it is created and after it is updated.
A created config is stored as the JSON text of what `sanitizeWidget` makes of
it. An update puts that text between quotes, of which `escapeSingleQuotes`
doubles the pairs, and ClickHouse undoes the backslashes of the JSON text; the
new lines and tabs alone are written again when the config is read.
-/
namespace Openlit.WidgetConfigs
open Openlit.JsonText Openlit.JsonParse Openlit.JsonRewrites Openlit.Lexemes Openlit.QuotedValues Openlit.Text
open Openlit.RuleLinks Openlit.ClickHouse Openlit.Boards Openlit.StoredWidgets Openlit.BoardExports
open Openlit.UpdateQueries (Frame assignmentText bodyOf Columns)
open Openlit.Literals hiding Layout isBlank
open Storage
attribute [local instance] sqlstringBoards

/-! ### The queries -/

/-- `replace(/'([^']*)'/g, "''$1''")`, from a place outside (`false`) or inside (`true`) a pair: a quote begins
    a pair if there is another one. -/
def doubledPairs : Bool → List Char → List Char
  | _, [] => []
  | inPair, c :: rest =>
    if c = '\'' then
      if inPair then '\'' :: '\'' :: doubledPairs false rest
      else if '\'' ∈ rest then '\'' :: '\'' :: doubledPairs true rest
      else '\'' :: doubledPairs false rest
    else c :: doubledPairs inPair rest
def escapeSingleQuotes (input : String) : String := String.ofList (doubledPairs false input.toList)

/-- The columns of `updateValues` but the config, with the texts that are put between quotes. -/
def otherValues (widget : WidgetData) : List (String × String) :=
  [(present (some widget.title)).map ("title", ·),
    (present (some widget.description)).map ("description", ·),
    (present (some widget.type)).map ("widget_type", ·),
    ((some widget.properties).filter truthy).map fun properties => ("properties", jsonStringify properties)].reduceOption
def configValue (widget : WidgetData) : List (String × String) :=
  (((some widget.config).filter truthy).map fun config => ("config", escapeSingleQuotes (jsonStringify config))).toList
def updateValues (widget : WidgetData) : List String :=
  (otherValues widget ++ configValue widget).map (fun item => assignmentText (item.1, some item.2)) ++ ["updated_at = NOW()"]
/-- The query of `updateWidget` for a sanitized widget. -/
def updateQuery (widget : WidgetData) : String :=
  "\n\t\tALTER TABLE openlit_widget\n\t\tUPDATE \n\t\t\t" ++ " , ".intercalate (updateValues widget) ++
    "\n\t\tWHERE id = '" ++ widget.id ++ "'\n\t"
def widgetFrame : Frame where
  header := "\n\t\tALTER TABLE openlit_widget\n\t\tUPDATE \n\t\t\t"
  footer := " , updated_at = NOW()\n\t\tWHERE id = "
  tail := "\n\t"
  nonempty := by decide
  isCode := by decide

/-! ### What is read back -/

/-- The config of `normalizeWidgetToClient`; `none` is undefined. -/
def clientConfig (config : String) : Option Json :=
  if escapedLines config = "" then some (.string "") else jsonParse (escapedLines config)
/-- The config of `getWidgetById`. -/
def getWidgetConfig (id : UUID) (db : Database) : Option Json :=
  (db.widgets.find? (·.id.text = id.text)).bind fun row => clientConfig row.config

/-- A widget whose config is an object. -/
structure WidgetInput where
  title : String
  description : String
  type : String
  properties : Json
  config : List (String × Json)
  numbered : ValidFields config
def WidgetInput.data (widget : WidgetInput) (id : UUID) : WidgetData :=
  { id := id.text
    title := widget.title
    description := widget.description
    type := widget.type
    properties := widget.properties
    config := .object widget.config }

/-- The config is read back from every database that the widget is added to. -/
def CreatedBack (widget : WidgetInput) (id : UUID) : Prop :=
  ∀ db : Database, (∀ row ∈ db.widgets, row.id.text ≠ id.text) →
    ∃ created, createWidget (widget.data id) db = .ok created ∧ getWidgetConfig id created = some (.object widget.config)
/-- ClickHouse reads the query as the update that sets the config to a text, and the other columns to what is
    between their quotes. -/
def SetsConfig (widget : WidgetData) (id : UUID) (stored : String) : Prop :=
  outside (updateQuery widget).toList =
    some (widgetFrame.lexemes ((otherValues widget).map (fun item => (item.1, some (valueOf item.2))) ++ [("config", some stored)])
      id.text)
/-- The config is read back from the text that an update sets it to. -/
def UpdatedBack (widget : WidgetInput) (id : UUID) : Prop :=
  ∃ sanitized stored, sanitizeWidget (widget.data id) = .ok sanitized ∧ SetsConfig sanitized id stored ∧
    clientConfig stored = some (.object widget.config)

/-- The characters whose backslashes an update takes away for good. -/
def lost : List Char := ['"', '\\', '\x08', '\x0c', '\r']
/-- A config that is read back after an update: no name or string has a lost character, and the quotes make pairs. -/
structure Restored (config : Json) : Prop where
  kept : ∀ c ∈ characters config, c ∉ lost
  paired : (characters config).count '\'' % 2 = 0

/-! ### Pairs of quotes -/

/-- Quotes that make pairs are all doubled. -/
theorem doubledPairs_of_even (text : List Char) :
    (text.count '\'' % 2 = 0 → doubledPairs false text = doubled text) ∧
      (text.count '\'' % 2 = 1 → doubledPairs true text = doubled text) := by
  induction text with
  | nil => exact ⟨fun _ => rfl, fun odd => absurd odd (by decide)⟩
  | cons c rest ih =>
    by_cases isQuote : c = '\''
    · subst isQuote
      rw [List.count_cons_self]
      have all : doubled ('\'' :: rest) = '\'' :: '\'' :: doubled rest := rfl
      constructor
      · intro even
        have more : '\'' ∈ rest := List.count_pos_iff.mp (by omega)
        rw [doubledPairs, if_pos rfl, if_neg Bool.false_ne_true, if_pos more, ih.2 (by omega), all]
      · intro odd
        rw [doubledPairs, if_pos rfl, if_pos rfl, ih.1 (by omega), all]
    · rw [List.count_cons_of_ne isQuote, doubled_char isQuote]
      constructor
      · intro even
        rw [doubledPairs, if_neg isQuote, ih.1 even]
      · intro odd
        rw [doubledPairs, if_neg isQuote, ih.2 odd]

/-- Every backslash stands before a letter that ClickHouse knows, which is no quote. -/
def lettered : List Char → Bool
  | [] => true
  | '\\' :: l :: rest => l ≠ '\'' && (clickHouseReading l).isSome && lettered rest
  | c :: rest => c ≠ '\\' && lettered rest

theorem lettered_char {c : Char} (other : c ≠ '\\') (rest : List Char) : lettered (c :: rest) = lettered rest := by
  rw [lettered]
  · simp [other]
  · intros
    simp_all
theorem lettered_append {xs : List Char} (ys : List Char) (holds : lettered xs = true) : lettered (xs ++ ys) = lettered ys := by
  fun_induction lettered xs with
  | case1 => rfl
  | case2 l rest ih =>
    rw [Bool.and_eq_true] at holds
    rw [List.cons_append, List.cons_append, lettered, holds.1, ih holds.2, Bool.true_and]
  | case3 c rest _ ih =>
    rw [Bool.and_eq_true, decide_eq_true_iff] at holds
    rw [List.cons_append, lettered_char holds.1, ih holds.2]

/-- What is outside a literal stops at the bracket of an object. -/
theorem outside_bracket {back : List Char} (unquoted : '\'' ∉ back) (rest : List Char) : outside (back ++ '\x7d' :: rest) = none := by
  induction back with
  | nil => rfl
  | cons c back ih =>
    rw [List.mem_cons, not_or] at unquoted
    have later := ih unquoted.2
    rw [List.cons_append]
    by_cases isDash : c = '-'
    · subst isDash
      cases back with
      | nil => rfl
      | cons d back =>
        rw [List.cons_append] at later ⊢
        rw [outside, later]
        split <;> rfl
    · rw [outside, later]
      · split <;> rfl
      all_goals
        intros
        simp_all
theorem doubledPairs_unquoted {inPair : Bool} {text : List Char} (unquoted : '\'' ∉ text) : doubledPairs inPair text = text := by
  induction text with
  | nil => rfl
  | cons c rest ih =>
    rw [List.mem_cons, not_or] at unquoted
    rw [doubledPairs, if_neg (Ne.symm unquoted.1), ih unquoted.2]
theorem doubledPairs_char {c : Char} (other : c ≠ '\'') (inPair : Bool) (rest : List Char) :
    doubledPairs inPair (c :: rest) = c :: doubledPairs inPair rest := by
  rw [doubledPairs, if_neg other]
/-- A quote without another one ends the literal inside the object. -/
theorem inside_unpaired {text : List Char} (holds : lettered text = true) (after : List Char) :
    (text.count '\'' % 2 = 1 → inside (doubledPairs false (text ++ ['\x7d']) ++ '\'' :: after) = none) ∧
      (text.count '\'' % 2 = 0 → '\'' ∈ text → inside (doubledPairs true (text ++ ['\x7d']) ++ '\'' :: after) = none) := by
  fun_induction lettered text with
  | case1 => exact ⟨fun odd => absurd odd (by decide), fun _ inside => absurd inside List.not_mem_nil⟩
  | case2 l rest ih =>
    simp only [Bool.and_eq_true, decide_eq_true_iff] at holds
    obtain ⟨⟨other, -⟩, holds⟩ := holds
    obtain ⟨odd, even⟩ := ih holds
    rw [List.count_cons_of_ne (by decide), List.count_cons_of_ne other]
    have letter (inPair : Bool) (ended : inside (doubledPairs inPair (rest ++ ['\x7d']) ++ '\'' :: after) = none) :
        inside (doubledPairs inPair ('\\' :: l :: rest ++ ['\x7d']) ++ '\'' :: after) = none := by
      rw [List.cons_append, List.cons_append, doubledPairs_char (by decide), doubledPairs_char other, List.cons_append, List.cons_append,
        inside_letter, ended]
      cases Escapes.reading l <;> rfl
    refine ⟨fun count => letter false (odd count), fun count there => letter true (even count ?_)⟩
    simpa [Ne.symm other] using there
  | case3 c rest _ ih =>
    rw [Bool.and_eq_true, decide_eq_true_iff] at holds
    obtain ⟨odd, even⟩ := ih holds.2
    by_cases isQuote : c = '\''
    · subst isQuote
      rw [List.count_cons_self, List.cons_append]
      constructor
      · intro count
        by_cases more : '\'' ∈ rest
        · have another : '\'' ∈ rest ++ ['\x7d'] := List.mem_append_left _ more
          rw [doubledPairs, if_pos rfl, if_neg Bool.false_ne_true, if_pos another, List.cons_append, List.cons_append, inside_quotes,
            even (by omega) more]
          rfl
        · have last : '\'' ∉ rest ++ ['\x7d'] := by simpa using more
          have closed : (rest ++ '\x7d' :: '\'' :: after).head? ≠ some '\'' := by
            cases rest with
            | nil => simp
            | cons d rest => simpa using fun same => more (by simp [same])
          rw [doubledPairs, if_pos rfl, if_neg Bool.false_ne_true, if_neg last, doubledPairs_unquoted last, List.cons_append,
            List.append_assoc, List.singleton_append, inside_close closed, outside_bracket more]
          rfl
      · intro count _
        rw [doubledPairs, if_pos rfl, if_pos rfl, List.cons_append, List.cons_append, inside_quotes, odd (by omega)]
        rfl
    · have plain : isMark c = false := by simp [isMark, isQuote, holds.1]
      rw [List.count_cons_of_ne isQuote, List.cons_append]
      constructor
      · intro count
        rw [doubledPairs_char isQuote, List.cons_append, inside_char plain, odd count]
        rfl
      · intro count there
        rw [doubledPairs_char isQuote, List.cons_append, inside_char plain, even count (by simpa [Ne.symm isQuote] using there)]
        rfl

/-! ### The text of a config -/

/-- What a character of the config is read as between the quotes. -/
def storedChar (c : Char) : List Char :=
  if c ∈ ['"', '\\', '\x08', '\x0c', '\n', '\r', '\t'] then [c] else quotedChar c
def lineChar (c : Char) : List Char := if c = '\n' then ['\\', 'n'] else if c = '\t' then ['\\', 't'] else [c]
/-- What is left of it when the lines are written again. -/
def shownChar (c : Char) : List Char := if c ∈ lost then [c] else quotedChar c

/-- The characters after a backslash, and those that are written as they are. -/
theorem quotedChar_cases (c : Char) :
    c ∈ ['"', '\\', '\x08', '\x0c', '\n', '\r', '\t'] ∨
      (c ∉ ['"', '\\', '\x08', '\x0c', '\n', '\r', '\t'] ∧
        (quotedChar c = [c] ∨
          c ≠ '\'' ∧ quotedChar c = ['\\', 'u', '0', '0', hexDigit (c.toNat / 16), hexDigit (c.toNat % 16)] ∧ c.toNat < 32)) := by
  by_cases special : c ∈ ['"', '\\', '\x08', '\x0c', '\n', '\r', '\t']
  · exact .inl special
  · refine .inr ⟨special, ?_⟩
    simp only [List.mem_cons, List.not_mem_nil, or_false, not_or] at special
    simp only [quotedChar, special, if_false]
    split
    · next control =>
      refine .inr ⟨?_, rfl, control⟩
      rintro rfl
      exact absurd control (by decide)
    · exact .inl rfl
theorem hexDigits (c : Char) (control : c.toNat < 32) :
    ∀ d ∈ [hexDigit (c.toNat / 16), hexDigit (c.toNat % 16)], d ≠ '\'' ∧ d ≠ '\\' ∧ d ≠ '\n' ∧ d ≠ '\t' := by
  have all : ∀ n < 16, hexDigit n ≠ '\'' ∧ hexDigit n ≠ '\\' ∧ hexDigit n ≠ '\n' ∧ hexDigit n ≠ '\t' := by decide
  simp only [List.forall_mem_cons]
  exact ⟨all _ (by omega), all _ (by omega), nofun⟩

theorem lettered_quotedChar (c : Char) : lettered (quotedChar c) = true := by
  rcases quotedChar_cases c with special | ⟨special, isSelf | ⟨-, isUnicode, control⟩⟩
  · simp only [List.mem_cons, List.not_mem_nil, or_false] at special
    rcases special with rfl | rfl | rfl | rfl | rfl | rfl | rfl <;> rfl
  · have other : c ≠ '\\' := by
      rintro rfl
      exact special (by decide)
    rw [isSelf, lettered_char other]
    rfl
  · have digits := hexDigits c control
    simp only [List.forall_mem_cons] at digits
    have known : (clickHouseReading 'u').isSome = true := by decide
    simp [isUnicode, lettered, digits, known]
theorem count_quotedChar (c : Char) : (quotedChar c).count '\'' = [c].count '\'' := by
  rcases quotedChar_cases c with special | ⟨-, isSelf | ⟨unquoted, isUnicode, control⟩⟩
  · simp only [List.mem_cons, List.not_mem_nil, or_false] at special
    rcases special with rfl | rfl | rfl | rfl | rfl | rfl | rfl <;> rfl
  · rw [isSelf]
  · have digits := hexDigits c control
    simp only [List.forall_mem_cons] at digits
    simp [isUnicode, digits, unquoted]
theorem reads_doubled_quotedChar (c : Char) : Reads (doubled (quotedChar c)) (storedChar c) := by
  by_cases special : c ∈ ['"', '\\', '\x08', '\x0c', '\n', '\r', '\t']
  · simp only [List.mem_cons, List.not_mem_nil, or_false] at special
    rcases special with rfl | rfl | rfl | rfl | rfl | rfl | rfl <;> exact reads_of_decoded (by decide)
  · rw [storedChar, if_neg special]
    by_cases isQuote : c = '\''
    · subst isQuote
      exact reads_quotes
    · have unquoted : doubled (quotedChar c) = quotedChar c := by
        have none : '\'' ∉ quotedChar c := by
          rw [← List.count_eq_zero, count_quotedChar, List.count_eq_zero]
          simpa using Ne.symm isQuote
        have each : ∀ d ∈ quotedChar c, (if d = '\'' then ['\'', '\''] else [d]) = [d] := by
          intro d inside
          exact if_neg (ne_of_mem_of_not_mem inside none)
        rw [doubled, List.flatMap_congr each, List.flatMap_singleton']
      rw [unquoted]
      exact reads_quotedChar special isQuote
theorem flatMap_lineChar (c : Char) : (storedChar c).flatMap lineChar = shownChar c := by
  rcases quotedChar_cases c with special | ⟨special, isSelf | ⟨-, isUnicode, control⟩⟩
  · simp only [List.mem_cons, List.not_mem_nil, or_false] at special
    rcases special with rfl | rfl | rfl | rfl | rfl | rfl | rfl <;> rfl
  · have others := special
    simp only [List.mem_cons, List.not_mem_nil, or_false, not_or] at others
    have kept : c ∉ lost := by simp [lost, others]
    simp [storedChar, special, shownChar, kept, isSelf, lineChar, others]
  · have digits := hexDigits c control
    simp only [List.forall_mem_cons] at digits
    have others := special
    simp only [List.mem_cons, List.not_mem_nil, or_false, not_or] at others
    have kept : c ∉ lost := by simp [lost, others]
    simp [storedChar, special, shownChar, kept, isUnicode, lineChar, digits]
theorem length_shownChar (c : Char) : (shownChar c).length + [c].countP (· ∈ lost) = (quotedChar c).length := by
  by_cases isLost : c ∈ lost
  · simp only [lost, List.mem_cons, List.not_mem_nil, or_false] at isLost
    rcases isLost with rfl | rfl | rfl | rfl | rfl <;> rfl
  · simp [shownChar, isLost]

theorem outer_ne {c : Char} (outer : isOuter c = true) : c ≠ '\'' ∧ c ≠ '\\' ∧ c ≠ '\n' ∧ c ≠ '\t' := by
  refine ⟨?_, ?_, ?_, ?_⟩ <;>
    · rintro rfl
      exact absurd outer (by decide)

theorem lettered_related : Related quotedChar quotedChar fun _ xs _ => lettered xs = true where
  nil := rfl
  append first second := (lettered_append _ first).trans second
  outer c outer := by
    rw [lettered_char (outer_ne outer).2.1]
    rfl
  character := lettered_quotedChar
theorem count_related : Related quotedChar quotedChar fun cs xs _ => xs.count '\'' = cs.count '\'' where
  nil := rfl
  append first second := by rw [List.count_append, List.count_append, first, second]
  outer c outer := by simp [(outer_ne outer).1]
  character := count_quotedChar
theorem reads_related : Related quotedChar storedChar fun _ xs ys => Reads (doubled xs) ys where
  nil := reads_nil
  append first second := by
    rw [doubled, List.flatMap_append]
    exact first.append second
  outer c outer := by
    obtain ⟨unquoted, plain, -⟩ := outer_ne outer
    rw [doubled_char unquoted]
    exact reads_char (by simp [isMark, unquoted, plain])
  character := reads_doubled_quotedChar
theorem lines_related : Related storedChar shownChar fun _ xs ys => xs.flatMap lineChar = ys where
  nil := rfl
  append first second := by rw [List.flatMap_append, first, second]
  outer c outer := by simp [lineChar, outer_ne outer]
  character := flatMap_lineChar
theorem length_related : Related quotedChar shownChar fun cs xs ys => ys.length + cs.countP (· ∈ lost) = xs.length where
  nil := rfl
  append first second := by
    rw [List.length_append, List.length_append, List.countP_append]
    omega
  outer c _ := rfl
  character := length_shownChar
theorem kept_related : Related quotedChar shownChar fun cs xs ys => (∀ c ∈ cs, c ∉ lost) → ys = xs where
  nil _ := rfl
  append first second kept := by
    rw [List.forall_mem_append] at kept
    rw [first kept.1, second kept.2]
  outer _ _ _ := rfl
  character c kept := if_neg (kept c List.mem_cons_self)

/-! ### What an update stores -/

/-- What the text of a config is read as between the quotes. -/
def storedText (config : Json) : List Char := writtenWith storedChar config

section
variable {config : List (String × Json)} (numbered : ValidFields config)
include numbered

theorem count_written : (written (.object config)).count '\'' = (characters (.object config)).count '\'' := by
  rw [← writtenWith_quotedChar]
  exact written_related count_related numbered
theorem reads_storedText : Reads (doubled (written (.object config))) (storedText (.object config)) := by
  rw [← writtenWith_quotedChar]
  exact written_related reads_related numbered
/-- The literal of a config is read as the stored text if the quotes make pairs, and as nothing else. -/
theorem decided_config (stored : List Char) :
    Decided (doubledPairs false (written (.object config))) stored
      ((characters (.object config)).count '\'' % 2 = 0 ∧ stored = storedText (.object config)) Closes := by
  rintro rest s more ⟨after, rfl, unquoted, rfl⟩
  rw [← count_written numbered, List.append_nil]
  by_cases even : (written (.object config)).count '\'' % 2 = 0
  · rw [(doubledPairs_of_even _).1 even, reads_storedText numbered, inside_close unquoted.closed]
    cases outside after with
    | none => simp
    | some lexemes => simpa [Prod.ext_iff, even] using fun _ => eq_comm
  · have inObject : lettered ('{' :: joined (writtenFields config)) = true := by
      rw [← fieldsWith_quotedChar]
      have inFields : lettered (joined (fieldsWith quotedChar config)) = true := joined_fields_related lettered_related numbered
      rwa [lettered_char (by decide)]
    have isObject : written (.object config) = '{' :: joined (writtenFields config) ++ ['\x7d'] := rfl
    have odd : ('{' :: joined (writtenFields config)).count '\'' % 2 = 1 := by
      rw [isObject, List.count_append] at even
      have bracket : ['\x7d'].count '\'' = 0 := by decide
      omega
    rw [isObject, (inside_unpaired inObject after).1 odd]
    exact iff_of_false nofun fun holds => even holds.1.1

theorem clientConfig_storedText :
    clientConfig (String.ofList (storedText (.object config))) = some (.object config) ↔
      ∀ c ∈ characters (.object config), c ∉ lost := by
  have lines : escapedLines (String.ofList (storedText (.object config))) = String.ofList (writtenWith shownChar (.object config)) := by
    have shown : (storedText (.object config)).flatMap lineChar = writtenWith shownChar (.object config) :=
      written_related lines_related numbered
    rw [escapedLines, String.toList_ofList, ← shown]
    rfl
  have nonempty : String.ofList (writtenWith shownChar (.object config)) ≠ "" := by
    intro empty
    have isEmpty := congrArg String.toList empty
    rw [String.toList_ofList] at isEmpty
    cases isEmpty
  rw [clientConfig, lines, if_neg nonempty]
  constructor
  · intro read c inside isLost
    have shortest := length_le_of_jsonParse read
    have lengths := @written_related _ _ _ length_related (.object config) numbered
    rw [writtenWith_quotedChar] at lengths
    have counted : 0 < (characters (.object config)).countP (· ∈ lost) := List.countP_pos_iff.mpr ⟨c, inside, decide_eq_true isLost⟩
    rw [String.toList_ofList] at shortest
    omega
  · intro kept
    have same := @written_related _ _ _ kept_related (.object config) numbered kept
    rw [writtenWith_quotedChar] at same
    rw [same]
    exact @jsonParse_jsonStringify (.object config) numbered
theorem clientConfig_created : clientConfig (jsonStringify (.object config)) = some (.object config) := by
  have printed : escapedLines (jsonStringify (.object config)) = jsonStringify (.object config) :=
    escapedLines_printed (by rw [jsonStringify, String.toList_ofList]; exact @printed_written (.object config) numbered)
  rw [clientConfig, printed, if_neg (@jsonStringify_ne_empty (.object config) numbered)]
  exact @jsonParse_jsonStringify (.object config) numbered

end

/-! ### A config that is created -/

section
variable {widget : WidgetInput} {id : UUID}

theorem sanitizeConfig_object {fields : List (String × Json)} {config : Json} (success : sanitizeConfig (.object fields) = .ok config) :
    ∃ restored, config = .object restored := by
  change (restoredFields (sanitizeFields fields)).map Json.object = .ok config at success
  cases restored : restoredFields (sanitizeFields fields) with
  | error e =>
    rw [restored] at success
    cases success
  | ok more =>
    rw [restored] at success
    exact ⟨more, (Except.ok.inj success).symm⟩
/-- What the sanitizer makes of the config is read back. -/
theorem created_read {stored : WidgetData} (sanitized : sanitizeWidget (widget.data id) = .ok stored) {db : Database}
    (new : ∀ row ∈ db.widgets, row.id.text ≠ id.text) :
    ∃ created, createWidget (widget.data id) db = .ok created ∧ getWidgetConfig id created = some stored.config := by
  obtain ⟨config, isConfig, isStored⟩ := sanitizeWidget_ok sanitized
  have isId : stored.id = id.text := by
    rw [isStored]
    exact sanitizeValue_text id
  have stores : stored.config = config := by rw [isStored]
  have readable := @sanitizeConfig_readable _ (.object widget.config) config widget.numbered rfl isConfig
  obtain ⟨restored, rfl⟩ := sanitizeConfig_object isConfig
  obtain ⟨row, isRow, rowId, -, -, -, -, configText⟩ := widgetRow_text isId
  refine ⟨{ db with widgets := db.widgets ++ [row] }, ?_, ?_⟩
  · rw [createWidget, sanitized]
    simp [bind, Except.bind, pure, Except.pure, isRow]
  · have absent : db.widgets.find? (·.id.text = id.text) = none := by
      rw [List.find?_eq_none]
      intro other inside
      simpa using new other inside
    have isText : row.config = jsonStringify (.object restored) := by
      rw [configText, stores]
      rfl
    rw [getWidgetConfig, List.find?_append, absent, List.find?_singleton, if_pos (by simp [rowId]), Option.none_or, Option.bind_some,
      isText, stores]
    exact clientConfig_created readable.1
theorem createdBack_iff : CreatedBack widget id ↔ ConfigKept (.object widget.config) := by
  rw [← sanitizeConfig_eq_iff]
  constructor
  · intro back
    obtain ⟨created, isCreated, read⟩ := back ⟨[], [], []⟩ nofun
    cases sanitized : sanitizeWidget (widget.data id) with
    | error e =>
      rw [createWidget, sanitized] at isCreated
      cases isCreated
    | ok stored =>
      obtain ⟨again, isAgain, readAgain⟩ := @created_read widget id stored sanitized ⟨[], [], []⟩ nofun
      obtain rfl := Except.ok.inj (isCreated.symm.trans isAgain)
      obtain ⟨config, isConfig, isStored⟩ := sanitizeWidget_ok sanitized
      have same : stored.config = .object widget.config := Option.some.inj (readAgain.symm.trans read)
      have stores : stored.config = config := by rw [isStored]
      rw [stores.symm.trans same] at isConfig
      exact isConfig
  · intro kept db new
    have sanitized : ∃ stored, sanitizeWidget (widget.data id) = .ok stored ∧ stored.config = .object widget.config := by
      rw [sanitizeWidget]
      have isConfig : sanitizeConfig (widget.data id).config = .ok (.object widget.config) := kept
      rw [isConfig]
      exact ⟨_, rfl, rfl⟩
    obtain ⟨stored, isStored, config⟩ := sanitized
    obtain ⟨created, isCreated, read⟩ := created_read isStored new
    exact ⟨created, isCreated, config ▸ read⟩

/-! ### A config that is updated -/

/-- A text that makes one literal, or that has something to read in any case. -/
def Begun (body : String) : Prop := Closed body ∨ ∃ c tail, body.toList = c :: tail ∧ isMark c = false
def begunLiteral {body : String} (begun : Begun body) : Quoted where
  body := body.toList
  value := (valueOf body).toList
  condition := Closed body
  decided := by
    by_cases closed : Closed body
    · obtain ⟨text, decodes, isText⟩ := Option.map_eq_some_iff.mp (literalText_of_closed closed)
      rw [← isText, String.toList_ofList]
      exact ((reads_of_decoded decodes).decided _).congr (iff_of_true trivial closed)
    · obtain ⟨c, tail, isBody, plain⟩ := begun.resolve_left closed
      have empty : valueOf body = "" := by
        rw [Closed, Option.not_isSome_iff_eq_none] at closed
        rw [valueOf, closed]
        rfl
      rw [isBody, empty]
      refine (decided_false ?_).congr (iff_of_false not_false closed)
      rintro rest s more ⟨after, -, -, rfl⟩ read
      obtain ⟨tail, same, -⟩ := inside_head plain read
      cases same
def configLiteral {config : List (String × Json)} (numbered : ValidFields config) (stored : String) : Quoted where
  body := doubledPairs false (written (.object config))
  value := stored.toList
  condition := (characters (.object config)).count '\'' % 2 = 0 ∧ stored.toList = storedText (.object config)
  decided := decided_config numbered stored.toList

theorem mem_otherValues {data : WidgetData} {item : String × String} (inside : item ∈ otherValues data) :
    item.1.toList.all isCode = true ∧
      (item.2 ∈ [data.title, data.description, data.type] ∨ item.2 = jsonStringify data.properties ∧ truthy data.properties = true) := by
  rw [otherValues, List.reduceOption_mem_iff] at inside
  simp only [List.mem_cons, List.not_mem_nil, or_false] at inside
  have given {text : String} {column : String} (same : some item = (present (some text)).map (column, ·)) :
      item = (column, text) := by
    obtain ⟨found, isFound, rfl⟩ := Option.map_eq_some_iff.mp same.symm
    rw [Option.some.inj (Option.filter_eq_some_iff.mp isFound).1]
  rcases inside with same | same | same | same
  · rw [given same]
    exact ⟨(by decide : "title".toList.all isCode = true), .inl (by simp)⟩
  · rw [given same]
    exact ⟨(by decide : "description".toList.all isCode = true), .inl (by simp)⟩
  · rw [given same]
    exact ⟨(by decide : "widget_type".toList.all isCode = true), .inl (by simp)⟩
  · obtain ⟨properties, found, rfl⟩ := Option.map_eq_some_iff.mp same.symm
    obtain ⟨isProperties, holds⟩ := Option.filter_eq_some_iff.mp found
    rw [← Option.some.inj isProperties] at holds ⊢
    exact ⟨(by decide : "properties".toList.all isCode = true), .inr ⟨rfl, holds⟩⟩
/-- A last assignment as a part of what follows. -/
theorem append_stamp {header texts assigned separator stamp opening id closing footer : String}
    (isTexts : texts = assigned ++ separator ++ stamp) (isFooter : separator ++ stamp ++ opening = footer) :
    header ++ texts ++ opening ++ id ++ closing = header ++ assigned ++ footer ++ id ++ closing := by
  rw [isTexts, ← isFooter]
  simp only [String.append_assoc]
theorem query_eq {data : WidgetData} {config : Json} (isConfig : data.config = config) (holds : truthy config = true) :
    updateQuery data = widgetFrame.query ((otherValues data).map (fun item => (item.1, some item.2)) ++
      [("config", some (escapeSingleQuotes (jsonStringify config)))]) data.id := by
  have isValue : configValue data = [("config", escapeSingleQuotes (jsonStringify config))] := by
    rw [configValue, isConfig, Option.filter_some, if_pos holds]
    rfl
  have texts : updateValues data = ((otherValues data).map (fun item => (item.1, some item.2)) ++
      [("config", some (escapeSingleQuotes (jsonStringify config)))]).map assignmentText ++ ["updated_at = NOW()"] := by
    rw [updateValues, isValue, List.map_append, List.map_append, List.map_map]
    rfl
  have framed := widgetFrame.query_eq rfl (by decide : " , updated_at = NOW()\n\t\tWHERE id = '" = _) (by decide : "'\n\t" = _)
    ((otherValues data).map (fun item => (item.1, some item.2)) ++ [("config", some (escapeSingleQuotes (jsonStringify config)))]) data.id
  have stamped := @String.intercalate_append_of_ne_nil (((otherValues data).map (fun item => (item.1, some item.2)) ++
    [("config", some (escapeSingleQuotes (jsonStringify config)))]).map assignmentText) ["updated_at = NOW()"] " , " (by simp) (by simp)
  rw [← texts, String.intercalate_singleton] at stamped
  exact (append_stamp stamped (by decide)).trans framed
theorem closed_uuid (id : UUID) : Closed id.text := by
  have sanitized := closed_sanitizeValue id.text
  rwa [sanitizeValue_text] at sanitized
theorem valueOf_uuid (id : UUID) : valueOf id.text = id.text := by
  have plain : ∀ c ∈ id.text.toList, Plain c := fun c inside => plain_of_isPlain (toUUID_plain id.read c inside)
  have kept := valueOf_sanitizeValue_iff.mpr fun c inside => (plain c inside).faithful
  rwa [sanitizeValue_text] at kept

section
variable {data : WidgetData} {config : List (String × Json)} (begun : ∀ item ∈ otherValues data, Begun item.2)
  (numbered : ValidFields config) (stored : String)

/-- The columns of the update with the literals that they are set to. -/
def updateItems : List (String × Option Quoted) :=
  (otherValues data).pmap (fun item begun => (item.1, some (@begunLiteral item.2 begun))) begun ++
    [("config", some (configLiteral numbered stored))]

theorem updateItems_bodies : (updateItems begun numbered stored).map bodyOf =
    (otherValues data).map (fun item => (item.1, some item.2)) ++
      [("config", some (escapeSingleQuotes (jsonStringify (.object config))))] := by
  have others (item : String × String) (isBegun : Begun item.2) :
      bodyOf (item.1, some (begunLiteral isBegun)) = (item.1, some item.2) := by
    simp [bodyOf, begunLiteral]
  simp only [updateItems, List.map_append, List.map_pmap, others, List.pmap_eq_map]
  simp [bodyOf, configLiteral, escapeSingleQuotes, jsonStringify]
theorem updateItems_values : (updateItems begun numbered stored).map Openlit.UpdateQueries.valueOf =
    (otherValues data).map (fun item => (item.1, some (valueOf item.2))) ++ [("config", some stored)] := by
  have others (item : String × String) (isBegun : Begun item.2) :
      Openlit.UpdateQueries.valueOf (item.1, some (begunLiteral isBegun)) = (item.1, some (valueOf item.2)) := by
    simp [Openlit.UpdateQueries.valueOf, begunLiteral]
  simp only [updateItems, List.map_append, List.map_pmap, others, List.pmap_eq_map]
  simp [Openlit.UpdateQueries.valueOf, configLiteral]
theorem updateItems_columns : Columns (updateItems begun numbered stored) := by
  intro item inside
  rcases List.mem_append.mp inside with other | isLast
  · obtain ⟨origin, among, rfl⟩ := List.mem_pmap.mp other
    exact (mem_otherValues among).1
  · rw [List.mem_singleton.mp isLast]
    exact (by decide : "config".toList.all isCode = true)
theorem updateItems_conditions : (∀ item ∈ updateItems begun numbered stored, ∀ quoted ∈ item.2, quoted.condition) ↔
    (∀ item ∈ otherValues data, Closed item.2) ∧ (configLiteral numbered stored).condition := by
  rw [updateItems, List.forall_mem_append, List.forall_mem_singleton]
  refine and_congr ⟨fun all item among => ?_, fun all item inside quoted isQuoted => ?_⟩ (by simp)
  · exact all _ (List.mem_pmap.mpr ⟨item, among, rfl⟩) _ rfl
  · obtain ⟨origin, among, rfl⟩ := List.mem_pmap.mp inside
    obtain rfl := Option.some.inj isQuoted
    exact all origin among

include begun numbered in
/-- The query sets the config to the stored text, if its quotes make pairs and each other text makes one literal,
    and to no other. -/
theorem setsConfig_iff (isId : data.id = id.text) (isConfig : data.config = .object config) :
    SetsConfig data id stored ↔ (∀ item ∈ otherValues data, Closed item.2) ∧
      (characters (.object config)).count '\'' % 2 = 0 ∧ stored.toList = storedText (.object config) := by
  have decided := widgetFrame.outside_query_iff (updateItems_columns begun numbered stored) (begunLiteral (.inl (closed_uuid id)))
  have idBody : String.ofList (begunLiteral (.inl (closed_uuid id))).body = data.id := by simp [begunLiteral, isId]
  have idValue : String.ofList (begunLiteral (.inl (closed_uuid id))).value = id.text := by simp [begunLiteral, valueOf_uuid]
  have idCondition : (begunLiteral (.inl (closed_uuid id))).condition := closed_uuid id
  rw [updateItems_bodies, updateItems_values, updateItems_conditions, and_iff_left idCondition, idBody, idValue,
    ← query_eq isConfig rfl] at decided
  exact decided

end

/-- Properties that are not updated, or whose text makes one literal. -/
def PropertiesClosed (properties : Json) : Prop :=
  truthy (sanitizeField properties) = true → Closed (jsonStringify (sanitizeField properties))

theorem begun_properties (properties : Json) : Begun (jsonStringify (sanitizeField properties)) := by
  refine .inr ?_
  rw [jsonStringify, String.toList_ofList]
  cases properties with
  | null => exact ⟨'n', _, rfl, by decide⟩
  | bool b =>
    cases b
    · exact ⟨'f', _, rfl, by decide⟩
    · exact ⟨'t', _, rfl, by decide⟩
  | number text => exact ⟨'"', _, rfl, by decide⟩
  | string text => exact ⟨'"', _, rfl, by decide⟩
  | array items => exact ⟨'[', _, rfl, by decide⟩
  | object fields => exact ⟨'\x7b', _, rfl, by decide⟩

/-- The other texts of a sanitized widget make one literal, but for the properties. -/
theorem sanitized_text {sanitized : WidgetData} (success : sanitizeWidget (widget.data id) = .ok sanitized) {item : String × String}
    (inside : item ∈ otherValues sanitized) :
    Closed item.2 ∨ item.2 = jsonStringify (sanitizeField widget.properties) ∧ truthy (sanitizeField widget.properties) = true := by
  obtain ⟨config, -, rfl⟩ := sanitizeWidget_ok success
  refine (mem_otherValues inside).2.imp_left fun text => ?_
  simp only [List.mem_cons, List.not_mem_nil, or_false] at text
  rcases text with isText | isText | isText <;>
    · rw [isText]
      exact closed_sanitizeValue _
theorem sanitized_begun {sanitized : WidgetData} (success : sanitizeWidget (widget.data id) = .ok sanitized) :
    ∀ item ∈ otherValues sanitized, Begun item.2 := by
  intro item inside
  rcases sanitized_text success inside with closed | ⟨properties, -⟩
  · exact .inl closed
  · rw [properties]
    exact begun_properties _
theorem sanitized_closed_iff {sanitized : WidgetData} (success : sanitizeWidget (widget.data id) = .ok sanitized) :
    (∀ item ∈ otherValues sanitized, Closed item.2) ↔ PropertiesClosed widget.properties := by
  constructor
  · intro all holds
    obtain ⟨config, -, isData⟩ := sanitizeWidget_ok success
    refine all ("properties", jsonStringify (sanitizeField widget.properties)) ?_
    rw [otherValues, List.reduceOption_mem_iff, isData]
    refine List.mem_cons_of_mem _ (List.mem_cons_of_mem _ (List.mem_cons_of_mem _ (List.mem_singleton.mpr ?_)))
    have isTruthy : truthy (sanitizeField (widget.data id).properties) = true := holds
    rw [Option.filter_some, if_pos isTruthy]
    rfl
  · intro properties item inside
    rcases sanitized_text success inside with closed | ⟨isText, holds⟩
    · exact closed
    · rw [isText]
      exact properties holds
/-- A config that is read back after it is created is read back after an update if the update restores it. -/
theorem updatedBack_iff (kept : ConfigKept (.object widget.config)) :
    UpdatedBack widget id ↔ Restored (.object widget.config) ∧ PropertiesClosed widget.properties := by
  have isConfig : sanitizeConfig (widget.data id).config = .ok (.object widget.config) := (sanitizeConfig_eq_iff _).mpr kept
  obtain ⟨sanitized, success⟩ : ∃ sanitized, sanitizeWidget (widget.data id) = .ok sanitized := by
    rw [sanitizeWidget, isConfig]
    exact ⟨_, rfl⟩
  obtain ⟨config, isSanitized, isData⟩ := sanitizeWidget_ok success
  obtain rfl := Except.ok.inj (isConfig.symm.trans isSanitized)
  have isId : sanitized.id = id.text := by
    rw [isData]
    exact sanitizeValue_text id
  have holdsConfig : sanitized.config = .object widget.config := by rw [isData]
  have sets (stored : String) := setsConfig_iff (sanitized_begun success) widget.numbered stored isId holdsConfig
  simp only [sanitized_closed_iff success] at sets
  constructor
  · rintro ⟨again, stored, isAgain, isSet, read⟩
    obtain rfl := Except.ok.inj (success.symm.trans isAgain)
    obtain ⟨properties, paired, isStored⟩ := (sets stored).mp isSet
    rw [← String.ofList_toList (s := stored), isStored] at read
    exact ⟨⟨(clientConfig_storedText widget.numbered).mp read, paired⟩, properties⟩
  · rintro ⟨⟨kept, paired⟩, properties⟩
    refine ⟨sanitized, String.ofList (storedText (.object widget.config)), success,
      (sets _).mpr ⟨properties, paired, String.toList_ofList⟩, ?_⟩
    exact (clientConfig_storedText widget.numbered).mpr kept

end

/-! ### A query with a name between double quotes -/

def totalQuery : WidgetInput where
  title := "Requests"
  description := ""
  type := "STAT_CARD"
  properties := .object []
  config := [("query", .string "SELECT count() AS \"total\" FROM otel_traces")]
  numbered := ⟨trivial, trivial⟩
end Openlit.WidgetConfigs
