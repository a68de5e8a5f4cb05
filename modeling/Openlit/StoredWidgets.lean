import Openlit.Boards

/-!
What the tables hold of a widget that is created, and what is read back of it. Texts are stored
sanitized and numbers as texts; in the queries and contents of widgets alone, the escapes of quotes,
new lines and tabs are undone.
-/
namespace Openlit.StoredWidgets
open Openlit.JsonText Openlit.JsonParse Openlit.RuleLinks Openlit.ClickHouse Openlit.Boards
open Openlit.Literals hiding Layout
open Storage

/-! ### Queries and contents -/

theorem replacePair_other {a b one c : Char} (other : c ≠ a) (rest : List Char) :
    replacePair a b one (c :: rest) = c :: replacePair a b one rest := by
  cases rest with
  | nil => rfl
  | cons d rest => rw [replacePair, if_neg fun pair => other pair.1]
theorem replacePair_pair (a b one : Char) (rest : List Char) :
    replacePair a b one (a :: b :: rest) = one :: replacePair a b one rest := by
  rw [replacePair, if_pos ⟨rfl, rfl⟩]
theorem replacePair_single {a b one : Char} {rest : List Char} (other : rest.head? ≠ some b) :
    replacePair a b one (a :: rest) = a :: replacePair a b one rest := by
  cases rest with
  | nil => rfl
  | cons d rest => rw [replacePair, if_neg fun pair => other (congrArg some pair.2)]
theorem replacePair_apart {a b one c : Char} (apart : c ≠ b) (rest : List Char) :
    replacePair a b one (a :: c :: rest) = a :: replacePair a b one (c :: rest) := by
  rw [replacePair, if_neg fun pair => apart pair.2]
theorem head_replacePair {a b one : Char} {c : Char} (rest : List Char) :
    (replacePair a b one (c :: rest)).head? = some c ∨ (replacePair a b one (c :: rest)).head? = some one := by
  cases rest with
  | nil => exact .inl rfl
  | cons d rest =>
    rw [replacePair]
    split
    · exact .inr rfl
    · exact .inl rfl

@[simp] theorem unescaped_nil : unescaped [] = [] := rfl
theorem unescaped_plain {c : Char} (noQuote : c ≠ '\'') (noBackslash : c ≠ '\\') (rest : List Char) :
    unescaped (c :: rest) = c :: unescaped rest := by
  simp only [unescaped, replacePair_other noQuote, replacePair_other noBackslash]
theorem unescaped_newline (rest : List Char) : unescaped ('\\' :: 'n' :: rest) = '\n' :: unescaped rest := by
  simp [unescaped, replacePair_other, replacePair_apart, replacePair_pair]
theorem unescaped_tab (rest : List Char) : unescaped ('\\' :: 't' :: rest) = '\t' :: unescaped rest := by
  simp [unescaped, replacePair_other, replacePair_apart, replacePair_pair]
theorem unescaped_quote {rest : List Char} (apart : rest.head? ≠ some '\'') :
    unescaped ('\\' :: '\'' :: rest) = '\'' :: unescaped rest := by
  simp [unescaped, replacePair_other, replacePair_single apart, replacePair_pair]
theorem unescaped_other {l : Char} (other : l ∉ ['\'', '\\', 'n', 't']) (rest : List Char) :
    unescaped ('\\' :: l :: rest) = '\\' :: l :: unescaped rest := by
  simp only [List.mem_cons, List.not_mem_nil, or_false, not_or] at other
  obtain ⟨quote, backslash, n, t⟩ := other
  simp [unescaped, replacePair_other, replacePair_apart, quote, backslash, n, t]
theorem unescaped_backslash (rest : List Char) : unescaped ('\\' :: '\\' :: rest) = '\\' :: unescaped ('\\' :: rest) := by
  simp only [unescaped, replacePair_other (show '\\' ≠ '\'' by decide)]
  generalize replacePair '\'' '\'' '\'' rest = text
  -- what follows the first backslash starts with a backslash or with what a pair was replaced by
  obtain ⟨c, tail, isText, start⟩ :
      ∃ c tail, replacePair '\\' '\'' '\'' ('\\' :: text) = c :: tail ∧ (c = '\\' ∨ c = '\'') := by
    cases isText : replacePair '\\' '\'' '\'' ('\\' :: text) with
    | nil => rcases @head_replacePair '\\' '\'' '\'' '\\' text with head | head <;> simp [isText] at head
    | cons c tail =>
      refine ⟨c, tail, rfl, ?_⟩
      simpa [isText] using @head_replacePair '\\' '\'' '\'' '\\' text
  rw [replacePair_apart (by decide), isText, replacePair_apart (by rcases start with rfl | rfl <;> decide)]
  refine replacePair_single ?_
  rcases head_replacePair tail with head | head
  · rw [head]
    rcases start with rfl | rfl <;> decide
  · rw [head]
    decide

section
variable [BoardPlatform]
open Escapes Platform BoardPlatform

/-- The characters of a query that are stored as they are: the plain ones and those whose escapes are undone. -/
def Kept (c : Char) : Prop := Plain c ∨ c ∈ ['\'', '\n', '\t']
instance (c : Char) : Decidable (Kept c) := inferInstanceAs (Decidable (_ ∨ _))

theorem escape_head (text : List Char) : (escape text).head? ≠ some '\'' := by
  cases text with
  | nil => exact nofun
  | cons c rest =>
    rw [escape]
    split
    · simp
    · next plain => simpa using Plain.ne_quote plain
/-- How the escape of a character is undone, with the text after it. -/
theorem unescaped_escape_cons (c : Char) (rest : List Char) :
    (Kept c ∧ unescaped (escape (c :: rest)) = c :: unescaped (escape rest)) ∨
    (c = '\\' ∧ unescaped (escape (c :: rest)) = '\\' :: unescaped ('\\' :: escape rest)) ∨
    (¬ Kept c ∧ c ≠ '\\' ∧ ∃ l, unescaped (escape (c :: rest)) = '\\' :: l :: unescaped (escape rest)) := by
  cases written : letter c with
  | none =>
    have plain : Plain c := written
    rw [escape_cons_of_plain plain, unescaped_plain plain.ne_quote plain.ne_backslash]
    exact .inl ⟨.inl plain, rfl⟩
  | some l =>
    rw [escape_cons_of_letter written]
    by_cases quote : l = '\''
    · subst quote
      have isQuote : c = '\'' := by
        rcases reading_letter written with read | read <;> rw [reading_quote] at read
        · simpa using read.symm
        · cases read
      subst isQuote
      exact .inl ⟨.inr (by simp), unescaped_quote (escape_head rest)⟩
    by_cases backslash : l = '\\'
    · subst backslash
      have isBackslash : c = '\\' := by
        rcases reading_letter written with read | read <;> rw [reading_backslash] at read
        · simpa using read.symm
        · cases read
      exact .inr (.inl ⟨isBackslash, unescaped_backslash _⟩)
    by_cases newline : l = 'n'
    · subst newline
      obtain rfl := letter_n written
      exact .inl ⟨.inr (by simp), unescaped_newline _⟩
    by_cases tab : l = 't'
    · subst tab
      obtain rfl := letter_t written
      exact .inl ⟨.inr (by simp), unescaped_tab _⟩
    refine .inr (.inr ⟨?_, ?_, l, unescaped_other (by simp [quote, backslash, newline, tab]) _⟩)
    · rintro (plain | undone)
      · rw [Plain, written] at plain
        cases plain
      · simp only [List.mem_cons, List.not_mem_nil, or_false] at undone
        rcases undone with rfl | rfl | rfl
        · exact quote (Option.some.inj (written.symm.trans letter_quote))
        · exact newline (Option.some.inj (written.symm.trans letter_newline))
        · exact tab (Option.some.inj (written.symm.trans letter_tab))
    · rintro rfl
      exact backslash (Option.some.inj (written.symm.trans letter_backslash))

/-- How a backslash in front of an escaped text is read with the character after it. -/
theorem unescaped_after_backslash (d : Char) (rest : List Char) :
    (∃ c, c ≠ d ∧ unescaped ('\\' :: escape (d :: rest)) = c :: unescaped (escape rest)) ∨
    (d ≠ '\\' ∧ unescaped ('\\' :: escape (d :: rest)) = '\\' :: d :: unescaped (escape rest)) ∨
    unescaped ('\\' :: escape (d :: rest)) = '\\' :: unescaped (escape (d :: rest)) := by
  cases written : letter d with
  | none =>
    have plain : Plain d := written
    rw [escape_cons_of_plain plain]
    by_cases n : d = 'n'
    · subst n
      exact .inl ⟨'\n', by decide, unescaped_newline _⟩
    by_cases t : d = 't'
    · subst t
      exact .inl ⟨'\t', by decide, unescaped_tab _⟩
    exact .inr (.inl ⟨plain.ne_backslash,
      unescaped_other (by simp [plain.ne_quote, plain.ne_backslash, n, t]) _⟩)
  | some l =>
    rw [escape_cons_of_letter written]
    exact .inr (.inr (unescaped_backslash _))
theorem length_le_unescaped (text : List Char) :
    text.length ≤ (unescaped (escape text)).length ∧ text.length ≤ (unescaped ('\\' :: escape text)).length := by
  induction text with
  | nil => simp
  | cons c rest ih =>
    obtain ⟨whole, after⟩ := ih
    have first : (c :: rest).length ≤ (unescaped (escape (c :: rest))).length := by
      rcases unescaped_escape_cons c rest with ⟨-, read⟩ | ⟨-, read⟩ | ⟨-, -, l, read⟩ <;>
        simp only [read, List.length_cons] <;> omega
    refine ⟨first, ?_⟩
    rcases unescaped_after_backslash c rest with ⟨d, -, read⟩ | ⟨-, read⟩ | read <;>
      simp only [read, List.length_cons] at first ⊢ <;> omega
theorem unescaped_backslash_ne (text : List Char) : unescaped ('\\' :: escape text) ≠ text := by
  intro same
  cases text with
  | nil => exact nomatch same
  | cons d rest =>
    rcases unescaped_after_backslash d rest with ⟨c, other, read⟩ | ⟨other, read⟩ | read
    · exact other (List.cons.inj (read.symm.trans same)).1
    · exact other (List.cons.inj (read.symm.trans same)).1.symm
    · have short := congrArg List.length (List.cons.inj (read.symm.trans same)).2
      have long := (length_le_unescaped (d :: rest)).1
      simp only [List.length_cons] at long
      omega
/-- A text is stored as it is exactly if all its characters are. -/
theorem unescaped_escape_iff (text : List Char) : unescaped (escape text) = text ↔ ∀ c ∈ text, Kept c := by
  induction text with
  | nil => simp [escape]
  | cons c rest ih =>
    rw [List.forall_mem_cons]
    rcases unescaped_escape_cons c rest with ⟨kept, read⟩ | ⟨isBackslash, read⟩ | ⟨altered, other, l, read⟩
    · rw [read, List.cons_inj_right, ih, and_iff_right kept]
    · refine iff_of_false ?_ ?_
      · rw [read, isBackslash, List.cons_inj_right]
        exact unescaped_backslash_ne rest
      · rintro ⟨plain | undone, -⟩
        · exact plain.ne_backslash isBackslash
        · rw [isBackslash] at undone
          exact absurd undone (by decide)
    · refine iff_of_false ?_ fun kept => altered kept.1
      rw [read]
      intro same
      exact other (List.cons.inj same).1.symm

/-! ### Properties and configs -/

mutual
/-- A value that is stored as it is: of plain texts, without numbers and without an array in an array. -/
def Unaltered : Json → Prop
  | .string text => ∀ c ∈ text.toList, Plain c
  | .number _ => False
  | .array items => UnalteredItems items
  | .object fields => UnalteredFields fields
  | .null | .bool _ => True
def UnalteredItems : List Json → Prop
  | [] => True
  | .array _ :: _ => False
  | item :: items => Unaltered item ∧ UnalteredItems items
def UnalteredFields : List (String × Json) → Prop
  | [] => True
  | (_, value) :: fields => Unaltered value ∧ UnalteredFields fields
end

mutual
theorem sanitizeField_eq_self_iff : ∀ value : Json, sanitizeField value = value ↔ Unaltered value
  | .null | .bool _ => by simp [sanitizeField, Unaltered]
  | .number _ => by simp [sanitizeField, Unaltered]
  | .string text => by simp [sanitizeField, Unaltered, sanitizeValue_eq_self_iff]
  | .array items => by simp [sanitizeField, Unaltered, sanitizeItems_eq_self_iff items]
  | .object fields => by simp [sanitizeField, Unaltered, sanitizeFields_eq_self_iff fields]
theorem sanitizeItems_eq_self_iff : ∀ items : List Json, sanitizeItems items = items ↔ UnalteredItems items
  | [] => by simp [sanitizeItems, UnalteredItems]
  | .null :: rest => by simp [sanitizeItems, UnalteredItems, Unaltered, sanitizeItems_eq_self_iff rest]
  | .bool _ :: rest => by simp [sanitizeItems, UnalteredItems, Unaltered, sanitizeItems_eq_self_iff rest]
  | .number _ :: rest => by simp [sanitizeItems, UnalteredItems, Unaltered]
  | .string text :: rest => by
    simp [sanitizeItems, UnalteredItems, Unaltered, sanitizeValue_eq_self_iff, sanitizeItems_eq_self_iff rest]
  | .array _ :: rest => by simp [sanitizeItems, UnalteredItems]
  | .object fields :: rest => by
    simp [sanitizeItems, UnalteredItems, Unaltered, sanitizeFields_eq_self_iff fields, sanitizeItems_eq_self_iff rest]
theorem sanitizeFields_eq_self_iff : ∀ fields : List (String × Json), sanitizeFields fields = fields ↔ UnalteredFields fields
  | [] => by simp [sanitizeFields, UnalteredFields]
  | (key, value) :: fields => by
    simp [sanitizeFields, UnalteredFields, sanitizeField_eq_self_iff value, sanitizeFields_eq_self_iff fields]
end

mutual
/-- What is sanitized has no numbers. -/
theorem sanitizeField_valid : ∀ value : Json, Valid (sanitizeField value)
  | .null | .bool _ | .number _ | .string _ => trivial
  | .array items => sanitizeItems_valid items
  | .object fields => sanitizeFields_valid fields
theorem sanitizeItems_valid : ∀ items : List Json, ValidItems (sanitizeItems items)
  | [] => trivial
  | .null :: rest | .bool _ :: rest | .number _ :: rest | .string _ :: rest => ⟨trivial, sanitizeItems_valid rest⟩
  | .array items :: rest => ⟨sanitizeIndexed_valid 0 items, sanitizeItems_valid rest⟩
  | .object fields :: rest => ⟨sanitizeFields_valid fields, sanitizeItems_valid rest⟩
theorem sanitizeIndexed_valid : ∀ (index : Nat) (items : List Json), ValidFields (sanitizeIndexed index items)
  | _, [] => trivial
  | index, item :: items => ⟨sanitizeField_valid item, sanitizeIndexed_valid (index + 1) items⟩
theorem sanitizeFields_valid : ∀ fields : List (String × Json), ValidFields (sanitizeFields fields)
  | [] => trivial
  | (_, value) :: fields => ⟨sanitizeField_valid value, sanitizeFields_valid fields⟩
end

/-- A query or a content that is stored as it is. -/
def QueryKept : Json → Prop
  | .string text => ∀ c ∈ text.toList, Kept c
  | .null => True
  | .bool b => b = false
  | .number _ | .array _ | .object _ => False
def FieldKept (field : String × Json) : Prop :=
  if field.1 = "query" ∨ field.1 = "content" then QueryKept field.2 else Unaltered field.2
def ConfigKept : Json → Prop
  | .object fields => ∀ field ∈ fields, FieldKept field
  | config => Unaltered config

theorem unescapedValue_eq_iff (value : Json) : unescapedValue (sanitizeField value) = .ok value ↔ QueryKept value := by
  cases value with
  | null => simp [sanitizeField, unescapedValue, truthy, QueryKept, pure, Except.pure]
  | bool b => cases b <;> simp [sanitizeField, unescapedValue, truthy, QueryKept, pure, Except.pure, throw, throwThe, MonadExceptOf.throw]
  | number text => by_cases empty : text = "" <;> simp [sanitizeField, unescapedValue, truthy, QueryKept, pure, Except.pure, empty]
  | array items => simp [sanitizeField, unescapedValue, truthy, QueryKept, throw, throwThe, MonadExceptOf.throw]
  | object fields => simp [sanitizeField, unescapedValue, truthy, QueryKept, throw, throwThe, MonadExceptOf.throw]
  | string text =>
    rw [QueryKept, ← unescaped_escape_iff, sanitizeField, unescapedValue, truthy]
    by_cases empty : text = ""
    · simp [empty, sanitizeValue_eq_empty.mpr rfl, pure, Except.pure, escape]
    · rw [if_pos (by simpa [sanitizeValue_eq_empty] using empty), sanitizeValue_escape, String.toList_ofList]
      simp [pure, Except.pure, ← String.toList_inj]
theorem restoredFields_eq_iff (fields : List (String × Json)) :
    restoredFields (sanitizeFields fields) = .ok fields ↔ ∀ field ∈ fields, FieldKept field := by
  induction fields with
  | nil => simp [sanitizeFields, restoredFields, pure, Except.pure]
  | cons field fields ih =>
    obtain ⟨key, value⟩ := field
    have first : restoredField key (sanitizeField value) = .ok value ↔ FieldKept (key, value) := by
      rw [restoredField, FieldKept]
      split
      · exact unescapedValue_eq_iff value
      · simp [pure, Except.pure, sanitizeField_eq_self_iff]
    rw [List.forall_mem_cons, ← first, ← ih, sanitizeFields, restoredFields]
    cases restoredField key (sanitizeField value) with
    | error e => simp [bind, Except.bind]
    | ok read =>
      cases restoredFields (sanitizeFields fields) with
      | error e => simp [bind, Except.bind]
      | ok others => simp [bind, Except.bind, pure, Except.pure]
theorem sanitizeConfig_eq_iff (config : Json) : sanitizeConfig config = .ok config ↔ ConfigKept config := by
  cases config with
  | object fields =>
    rw [ConfigKept, ← restoredFields_eq_iff]
    show (restoredFields (sanitizeFields fields)).map Json.object = _ ↔ _
    cases restoredFields (sanitizeFields fields) <;> simp [Except.map]
  | _ => simp [sanitizeConfig, ConfigKept, sanitizeField, Unaltered, pure, Except.pure, ← sanitizeValue_eq_self_iff, ← sanitizeItems_eq_self_iff]

theorem truthy_sanitizeField {value : Json} (valid : Valid value) (holds : truthy value = true) : truthy (sanitizeField value) = true := by
  cases value with
  | number text =>
    have nonempty := (number_word valid).1
    simpa [sanitizeField, truthy] using nonempty
  | string text => simpa [sanitizeField, truthy, sanitizeValue_eq_empty] using holds
  | null | bool _ => exact holds
  | array _ | object _ => rfl
omit [BoardPlatform] in
theorem unescapedValue_valid {value read : Json} (valid : Valid value) (success : unescapedValue value = .ok read) : Valid read := by
  unfold unescapedValue at success
  split at success
  · cases value <;> cases success
    trivial
  · cases success
    exact valid
omit [BoardPlatform] in
theorem restoredFields_valid {fields read : List (String × Json)} (valid : ValidFields fields)
    (success : restoredFields fields = .ok read) : ValidFields read := by
  induction fields generalizing read with
  | nil =>
    cases success
    trivial
  | cons field fields ih =>
    obtain ⟨key, value⟩ := field
    rw [restoredFields] at success
    cases first : restoredField key value with
    | error e => simp [first, bind, Except.bind] at success
    | ok restored =>
      cases others : restoredFields fields with
      | error e => simp [first, others, bind, Except.bind] at success
      | ok more =>
        simp only [first, others, bind, Except.bind, pure, Except.pure, Except.ok.injEq] at success
        subst success
        refine ⟨?_, ih valid.2 others⟩
        rw [restoredField] at first
        split at first
        · exact unescapedValue_valid valid.1 first
        · cases first
          exact valid.1
/-- What is stored of a config can be read. -/
theorem sanitizeConfig_readable {config read : Json} (valid : Valid config) (holds : truthy config = true)
    (success : sanitizeConfig config = .ok read) : Valid read ∧ truthy read = true := by
  rw [sanitizeConfig] at success
  split at success
  · next fields isObject =>
    have sanitized := sanitizeField_valid config
    rw [isObject] at sanitized
    cases restored : restoredFields fields with
    | error e => simp [restored, Except.map] at success
    | ok more =>
      simp only [restored, Except.map, Except.ok.injEq] at success
      subst success
      exact ⟨restoredFields_valid sanitized restored, rfl⟩
  · cases success
    exact ⟨sanitizeField_valid config, truthy_sanitizeField valid holds⟩

/-! ### Widgets -/

/-- A widget whose import has the same content. -/
structure WidgetKept (widget : WidgetData) : Prop where
  title : Unescaped widget.title
  description : Unescaped widget.description
  type : Unescaped widget.type
  properties : Unaltered widget.properties
  config : ConfigKept widget.config

theorem sanitizeValue_text (id : UUID) : sanitizeValue id.text = id.text :=
  sanitizeValue_plain (toUUID_plain id.read)
theorem readUUID_text (id : UUID) : readUUID id.text = some id := by
  unfold readUUID
  split
  · next text parsed =>
    have same := id.read.symm.trans parsed
    cases id
    simp_all
  · next unread =>
    rw [id.read] at unread
    exact nomatch unread

theorem sanitizeWidget_ok {widget stored : WidgetData} (success : sanitizeWidget widget = .ok stored) :
    ∃ config, sanitizeConfig widget.config = .ok config ∧
      stored =
        { id := sanitizeValue widget.id
          title := sanitizeValue widget.title
          description := sanitizeValue widget.description
          type := sanitizeValue widget.type
          properties := sanitizeField widget.properties
          config := config } := by
  rw [sanitizeWidget] at success
  cases sanitized : sanitizeConfig widget.config with
  | error e => simp [sanitized, bind, Except.bind] at success
  | ok config =>
    rw [sanitized] at success
    exact ⟨config, rfl, (Except.ok.inj success).symm⟩
theorem sanitizeWidget_eq_iff (widget : WidgetData) (id : UUID) :
    sanitizeWidget { widget with id := id.text } = .ok { widget with id := id.text } ↔ WidgetKept widget := by
  constructor
  · intro same
    obtain ⟨config, sanitized, fields⟩ := sanitizeWidget_ok same
    rw [WidgetData.mk.injEq] at fields
    obtain ⟨-, title, description, type, properties, isConfig⟩ := fields
    exact
      { title := sanitizeValue_eq_self_iff.mp title.symm
        description := sanitizeValue_eq_self_iff.mp description.symm
        type := sanitizeValue_eq_self_iff.mp type.symm
        properties := (sanitizeField_eq_self_iff _).mp properties.symm
        config := (sanitizeConfig_eq_iff _).mp (isConfig ▸ sanitized) }
  · intro kept
    have config : sanitizeConfig widget.config = .ok widget.config := (sanitizeConfig_eq_iff _).mpr kept.config
    have title : sanitizeValue widget.title = widget.title := sanitizeValue_eq_self_iff.mpr kept.title
    have description : sanitizeValue widget.description = widget.description := sanitizeValue_eq_self_iff.mpr kept.description
    have type : sanitizeValue widget.type = widget.type := sanitizeValue_eq_self_iff.mpr kept.type
    have properties : sanitizeField widget.properties = widget.properties := (sanitizeField_eq_self_iff _).mpr kept.properties
    rw [sanitizeWidget, config]
    simp only [bind, Except.bind, pure, Except.pure, sanitizeValue_text, title, description, type, properties]

/-! ### What is stored of a value is read back -/

/-- What a stored object is read as. -/
def Readable (value : Json) : Prop := Valid value ∧ truthy value = true

omit [BoardPlatform] in
theorem orEmpty_of_truthy {value : Json} (holds : truthy value = true) : orEmpty (some value) = value := by
  simp [orEmpty, Option.filter, holds]
omit [BoardPlatform] in
theorem readable_orEmpty {value : Option Json} (valid : ∀ v ∈ value, Valid v) : Readable (orEmpty value) := by
  cases value with
  | none => exact ⟨trivial, rfl⟩
  | some v =>
    by_cases holds : truthy v = true
    · rw [orEmpty_of_truthy holds]
      exact ⟨valid v rfl, holds⟩
    · rw [orEmpty, Option.filter_some, if_neg holds]
      exact ⟨trivial, rfl⟩
omit [BoardPlatform] in
theorem jsonStringify_ne_empty {value : Json} (valid : Valid value) : jsonStringify value ≠ "" := by
  obtain ⟨c, tail, isWritten, -, -⟩ := written_start valid
  intro empty
  have isEmpty := congrArg String.toList empty
  rw [jsonStringify, String.toList_ofList, isWritten] at isEmpty
  exact absurd isEmpty (List.cons_ne_nil c tail)
omit [BoardPlatform] in
theorem escapedLines_printed {text : String} (printed : Printed text.toList) : escapedLines text = text := by
  have each : ∀ c ∈ text.toList, (if c = '\n' then ['\\', 'n'] else if c = '\t' then ['\\', 't'] else [c]) = [c] := by
    intro c inside
    have visible := printed c inside
    rw [if_neg (by rintro rfl; exact absurd visible (by decide)), if_neg (by rintro rfl; exact absurd visible (by decide))]
  rw [escapedLines, List.flatMap_congr each, List.flatMap_singleton', String.ofList_toList]
omit [BoardPlatform] in
theorem stored_read {value : Json} (readable : Readable value) :
    orEmpty (if jsonStringify value = "" then none else jsonParse (jsonStringify value)) = value := by
  rw [if_neg (jsonStringify_ne_empty readable.1), jsonParse_jsonStringify readable.1, orEmpty_of_truthy readable.2]
omit [BoardPlatform] in
theorem stored_config_read {value : Json} (readable : Readable value) :
    orEmpty (if jsonStringify value = "" then none else jsonParse (escapedLines (jsonStringify value))) = value := by
  rw [escapedLines_printed (by rw [jsonStringify, String.toList_ofList]; exact printed_written readable.1), stored_read readable]

omit [BoardPlatform] in
theorem find?_alone {α : Type} {p : α → Bool} {rows : List α} {row : α} (inside : row ∈ rows) (holds : p row = true)
    (alone : ∀ other ∈ rows, p other = true → other = row) : rows.find? p = some row := by
  cases found : rows.find? p with
  | none => exact absurd holds (by simpa using List.find?_eq_none.mp found row inside)
  | some other => rw [alone other (List.mem_of_find?_eq_some found) (List.find?_some found)]
theorem widgetRow_text {widget : WidgetData} {id : UUID} (isId : widget.id = id.text) :
    ∃ row, widgetRow widget = some row ∧ row.id = id ∧ row.title = widget.title ∧ row.description = widget.description ∧
      row.widget_type = widget.type ∧ row.properties = jsonStringify (orEmpty (some widget.properties)) ∧
      row.config = jsonStringify (orEmpty (some widget.config)) := by
  rw [widgetRow, isId, readUUID_text]
  exact ⟨_, rfl, rfl, rfl, rfl, rfl, rfl, rfl⟩
/-- A widget is read back from the row that it is stored in. -/
theorem widgetData_stored {db : Database} {old : List WidgetRow} {stored : List WidgetData}
    (rows : db.widgets = old ++ stored.filterMap widgetRow) (ids : ∀ widget ∈ stored, ∃ id : UUID, widget.id = id.text)
    (distinct : (stored.map (·.id)).Nodup) (new : ∀ row ∈ old, row.id.text ∉ stored.map (·.id)) {widget : WidgetData}
    (inside : widget ∈ stored) (properties : Readable widget.properties) (config : Readable widget.config) :
    widgetData db widget.id = widget := by
  obtain ⟨id, isId⟩ := ids widget inside
  obtain ⟨row, isRow, rowId, title, description, type, propertiesText, configText⟩ := widgetRow_text isId
  have found : db.widgets.reverse.find? (·.id.text = widget.id) = some row := by
    refine find?_alone ?_ ?_ ?_
    · rw [List.mem_reverse, rows]
      exact List.mem_append_right _ (List.mem_filterMap.mpr ⟨widget, inside, isRow⟩)
    · simp [rowId, isId]
    · intro other there same
      have same : other.id.text = widget.id := by simpa using same
      rw [List.mem_reverse, rows, List.mem_append] at there
      rcases there with there | there
      · exact absurd (List.mem_map.mpr ⟨widget, inside, same.symm⟩) (new other there)
      · obtain ⟨origin, among, isOther⟩ := List.mem_filterMap.mp there
        obtain ⟨originId, isOriginId⟩ := ids origin among
        obtain ⟨originRow, isOriginRow, originRowId, -⟩ := widgetRow_text isOriginId
        obtain rfl := Option.some.inj (isOriginRow.symm.trans isOther)
        have sameId : origin.id = widget.id := by rw [isOriginId, ← originRowId, same]
        obtain rfl := List.inj_on_of_nodup_map distinct among inside sameId
        exact Option.some.inj (isOther.symm.trans isRow)
  rw [widgetData, found]
  simp only [title, description, type, propertiesText, configText, orEmpty_of_truthy properties.2, orEmpty_of_truthy config.2,
    stored_read properties, stored_config_read config]
/-- What a widget is stored as has its id and is readable. -/
theorem sanitizeWidget_stored {widget stored : WidgetData} (isUUID : ∃ id : UUID, widget.id = id.text) (properties : Readable widget.properties)
    (config : Readable widget.config) (success : sanitizeWidget widget = .ok stored) :
    stored.id = widget.id ∧ Readable stored.properties ∧ Readable stored.config := by
  obtain ⟨id, isId⟩ := isUUID
  obtain ⟨read, sanitized, rfl⟩ := sanitizeWidget_ok success
  refine ⟨?_, ⟨sanitizeField_valid _, truthy_sanitizeField properties.1 properties.2⟩, sanitizeConfig_readable config.1 config.2 sanitized⟩
  rw [isId]
  exact sanitizeValue_text id
theorem sanitizeWidgets_stored {widgets stored : List WidgetData}
    (each : ∀ widget ∈ widgets, (∃ id : UUID, widget.id = id.text) ∧ Readable widget.properties ∧ Readable widget.config)
    (sanitized : List.Forall₂ (fun widget stored => sanitizeWidget widget = .ok stored) widgets stored) :
    stored.map (·.id) = widgets.map (·.id) ∧ ∀ widget ∈ stored, Readable widget.properties ∧ Readable widget.config := by
  induction sanitized with
  | nil => exact ⟨rfl, nofun⟩
  | cons first _ ih =>
    rw [List.forall_mem_cons] at each
    obtain ⟨isUUID, properties, config⟩ := each.1
    obtain ⟨sameId, readable⟩ := sanitizeWidget_stored isUUID properties config first
    obtain ⟨sameIds, others⟩ := ih each.2
    exact ⟨by rw [List.map_cons, List.map_cons, sameId, sameIds], List.forall_mem_cons.mpr ⟨readable, others⟩⟩

end
end Openlit.StoredWidgets
