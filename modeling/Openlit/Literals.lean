import Mathlib.Data.List.Basic

/-!
Texts of a query language, in which a literal stands between single quotes and
a backslash before a letter stands for something else: what a writer makes of a
text that is to be a literal, and what a reader makes of a query. A query is
read as far as the statements go that change or remove the rows with one value
in one column.
-/
namespace Openlit.Literals

/-- A writer's and a reader's letters. The writer puts a backslash and a letter
    for some characters; the reader takes a backslash with such a letter for the
    character, or keeps both. -/
class Escapes where
  letter : Char → Option Char
  /-- `none` where more than the one letter is read. -/
  reading : Char → Option (List Char)
  letter_quote : letter '\'' = some '\''
  letter_backslash : letter '\\' = some '\\'
  reading_quote : reading '\'' = some ['\'']
  reading_backslash : reading '\\' = some ['\\']
  reading_letter : ∀ {c l}, letter c = some l → reading l = some [c] ∨ reading l = some ['\\', l]

section
variable [Escapes]
open Escapes

/-! ### The body of a literal -/

def escape : List Char → List Char
  | [] => []
  | c :: rest =>
    match letter c with
    | some l => '\\' :: l :: escape rest
    | none => c :: escape rest

/-- What a text between two quotes is read as; `none` where the literal ends before the text does,
    or after it. -/
def decoded : List Char → Option (List Char)
  | [] => some []
  | '\'' :: '\'' :: rest => (decoded rest).map ('\'' :: ·)
  | '\\' :: l :: rest => (reading l).bind fun read => (decoded rest).map (read ++ ·)
  | c :: rest => if c = '\'' ∨ c = '\\' then none else (decoded rest).map (c :: ·)

/-- A character that is written as itself. -/
def Plain (c : Char) : Prop := letter c = none
/-- A character that is read as what was written. -/
def Faithful (c : Char) : Prop := ∀ l, letter c = some l → reading l = some [c]

instance (c : Char) : Decidable (Plain c) := inferInstanceAs (Decidable (letter c = none))
instance (c : Char) : Decidable (Faithful c) :=
  decidable_of_iff ((letter c).all fun l => reading l = some [c]) (by
    simp [Faithful, Option.all_eq_true])

theorem Plain.faithful {c : Char} (plain : Plain c) : Faithful c := by
  intro l written
  rw [plain] at written
  exact nomatch written
theorem Plain.ne_quote {c : Char} (plain : Plain c) : c ≠ '\'' := by
  rintro rfl
  rw [Plain, letter_quote] at plain
  exact nomatch plain
theorem Plain.ne_backslash {c : Char} (plain : Plain c) : c ≠ '\\' := by
  rintro rfl
  rw [Plain, letter_backslash] at plain
  exact nomatch plain

theorem escape_cons_of_plain {c : Char} (plain : Plain c) (rest : List Char) :
    escape (c :: rest) = c :: escape rest := by
  rw [escape, plain]
theorem escape_cons_of_letter {c l : Char} (written : letter c = some l) (rest : List Char) :
    escape (c :: rest) = '\\' :: l :: escape rest := by
  rw [escape, written]
theorem decoded_cons {c : Char} (unquoted : c ≠ '\'') (unescaped : c ≠ '\\') (rest : List Char) :
    decoded (c :: rest) = (decoded rest).map (c :: ·) := by
  rw [decoded, if_neg (by simp [unquoted, unescaped])]
  · intro rest' same
    exact absurd same unquoted
  · intro l rest' same
    exact absurd same unescaped

/-- What has neither quotes nor backslashes is read as it is. -/
theorem decoded_eq_self {s : List Char} (straight : ∀ c ∈ s, c ≠ '\'' ∧ c ≠ '\\') : decoded s = some s := by
  induction s with
  | nil => rfl
  | cons c rest ih =>
    rw [List.forall_mem_cons] at straight
    rw [decoded_cons straight.1.1 straight.1.2, ih straight.2, Option.map_some]

theorem length_le_escape (s : List Char) : s.length ≤ (escape s).length := by
  induction s with
  | nil => exact Nat.zero_le _
  | cons c rest ih =>
    rw [escape]
    split <;> simp only [List.length_cons] <;> omega
/-- Only a text of plain characters is written as it is. -/
theorem escape_eq_self_iff {s : List Char} : escape s = s ↔ ∀ c ∈ s, Plain c := by
  induction s with
  | nil => simp [escape]
  | cons c rest ih =>
    cases written : letter c with
    | none =>
      have plain : Plain c := written
      rw [escape_cons_of_plain plain, List.cons_inj_right, ih, List.forall_mem_cons, and_iff_right plain]
    | some l =>
      constructor
      · intro same
        -- What is written is longer by the letter at least.
        have longer : (escape (c :: rest)).length = (c :: rest).length := congrArg List.length same
        have shorter : rest.length ≤ (escape rest).length := length_le_escape rest
        rw [escape_cons_of_letter written] at longer
        simp only [List.length_cons] at longer
        omega
      · intro plain
        have unwritten : Plain c := plain c List.mem_cons_self
        rw [Plain, written] at unwritten
        exact nomatch unwritten
/-- What is not written as it is gets longer. -/
theorem length_lt_escape {s : List Char} (altered : escape s ≠ s) : s.length < (escape s).length := by
  induction s with
  | nil => exact absurd rfl altered
  | cons c rest ih =>
    cases written : letter c with
    | none =>
      have plain : Plain c := written
      rw [escape_cons_of_plain plain, ne_eq, List.cons_inj_right] at altered
      rw [escape_cons_of_plain plain]
      exact Nat.succ_lt_succ (ih altered)
    | some l =>
      have shorter : rest.length ≤ (escape rest).length := length_le_escape rest
      rw [escape_cons_of_letter written]
      simp only [List.length_cons]
      omega

/-- What is written without a backslash is a text of plain characters. -/
theorem plain_of_straight {s : List Char} (straight : '\\' ∉ escape s) : ∀ c ∈ s, Plain c := by
  induction s with
  | nil => exact nofun
  | cons c rest ih =>
    cases written : letter c with
    | none =>
      have plain : Plain c := written
      rw [escape_cons_of_plain plain, List.mem_cons, not_or] at straight
      exact List.forall_mem_cons.mpr ⟨plain, ih straight.2⟩
    | some l =>
      rw [escape_cons_of_letter written] at straight
      exact absurd List.mem_cons_self straight

/-- What is written is always one literal. -/
theorem decoded_escape (s : List Char) : ∃ text, decoded (escape s) = some text := by
  induction s with
  | nil => exact ⟨[], rfl⟩
  | cons c rest ih =>
    obtain ⟨text, read⟩ := ih
    cases written : letter c with
    | none =>
      have plain : Plain c := written
      exact ⟨c :: text, by rw [escape_cons_of_plain plain, decoded_cons plain.ne_quote plain.ne_backslash, read]; rfl⟩
    | some l =>
      rw [escape_cons_of_letter written, decoded]
      rcases reading_letter written with back | kept
      · exact ⟨_, by rw [back, read]; rfl⟩
      · exact ⟨_, by rw [kept, read]; rfl⟩
/-- A text is read back exactly when each of its characters is. -/
theorem decoded_escape_iff {s : List Char} : decoded (escape s) = some s ↔ ∀ c ∈ s, Faithful c := by
  induction s with
  | nil => simp [escape, decoded]
  | cons c rest ih =>
    rw [List.forall_mem_cons, ← ih]
    cases written : letter c with
    | none =>
      have plain : Plain c := written
      rw [escape_cons_of_plain plain, decoded_cons plain.ne_quote plain.ne_backslash, and_iff_right plain.faithful]
      simp
    | some l =>
      obtain ⟨text, read⟩ := decoded_escape rest
      rw [escape_cons_of_letter written, decoded, read]
      rcases reading_letter written with back | kept
      · have faithful : Faithful c := by
          intro l' written'
          rw [written, Option.some.injEq] at written'
          exact written' ▸ back
        rw [and_iff_right faithful, back]
        simp
      · constructor
        · rw [kept]
          intro same
          obtain ⟨rfl, -⟩ := List.cons.inj (Option.some.inj same)
          rw [letter_backslash, Option.some.injEq] at written
          subst written
          rw [reading_backslash] at kept
          exact nomatch kept
        · rintro ⟨faithful, -⟩
          rw [faithful l written] at kept
          exact nomatch kept

/-- What is read differently from what was written has a backslash. -/
theorem eq_of_decoded_escape {s text : List Char} (read : decoded (escape s) = some text) (straight : '\\' ∉ text) :
    text = s := by
  induction s generalizing text with
  | nil => exact (Option.some.inj read).symm
  | cons c rest ih =>
    cases written : letter c with
    | none =>
      have plain : Plain c := written
      rw [escape_cons_of_plain plain, decoded_cons plain.ne_quote plain.ne_backslash] at read
      obtain ⟨text', decodes, rfl⟩ := Option.map_eq_some_iff.mp read
      rw [ih decodes fun inside => straight (List.mem_cons_of_mem _ inside)]
    | some l =>
      rw [escape_cons_of_letter written, decoded] at read
      obtain ⟨first, known, later⟩ := Option.bind_eq_some_iff.mp read
      obtain ⟨text', decodes, rfl⟩ := Option.map_eq_some_iff.mp later
      rcases reading_letter written with back | kept
      · rw [back, Option.some.injEq] at known
        subst known
        rw [ih decodes fun inside => straight (List.mem_append_right _ inside)]
        rfl
      · rw [kept, Option.some.injEq] at known
        subst known
        exact absurd (List.mem_append_left _ List.mem_cons_self) straight

/-! ### The literals of a query -/

def isBlank (c : Char) : Bool := c = ' ' || c = '\n' || c = '\t'
/-- The signs that are words of their own. -/
def isSign (c : Char) : Bool := c = ',' || c = '=' || c = '(' || c = ')' || c = ';'
/-- The characters that are read outside literals: those of names, signs and blanks. -/
def isBare (c : Char) : Bool := c.isAlphanum || c = '_' || c = '.' || isBlank c || isSign c

/-- Characters put in front of the first piece. -/
def before (read : List Char) : List (List Char) → List (List Char)
  | piece :: pieces => (read ++ piece) :: pieces
  | [] => [read]

/-- The pieces of a query from a place outside (`false`) or inside (`true`) a literal: by turns
    the text between two literals and what a literal is read as. -/
def scan : Bool → List Char → Option (List (List Char))
  | false, [] => some [[]]
  | false, '\'' :: rest => (scan true rest).map ([] :: ·)
  | false, c :: rest => if isBare c then (scan false rest).map (before [c]) else none
  | true, [] => none
  | true, '\'' :: '\'' :: rest => (scan true rest).map (before ['\''])
  | true, '\'' :: rest => (scan false rest).map ([] :: ·)
  | true, '\\' :: l :: rest => (reading l).bind fun read => (scan true rest).map (before read)
  | true, c :: rest => if c = '\\' then none else (scan true rest).map (before [c])

theorem scan_bare {bare : List Char} (read : ∀ c ∈ bare, isBare c = true) {rest : List Char} {piece : List Char}
    {pieces : List (List Char)} (scanned : scan false rest = some (piece :: pieces)) :
    scan false (bare ++ rest) = some ((bare ++ piece) :: pieces) := by
  induction bare with
  | nil => exact scanned
  | cons c bare ih =>
    obtain ⟨first, others⟩ := List.forall_mem_cons.mp read
    have unquoted : c ≠ '\'' := by
      rintro rfl
      exact absurd first (by decide)
    rw [List.cons_append, scan, if_pos first, ih others]
    · rfl
    · intro same
      exact absurd same unquoted

/-- A literal is scanned as its body is read, when no quote follows it. -/
theorem scan_literal {body text rest : List Char} {pieces : List (List Char)} (read : decoded body = some text)
    (closed : rest.head? ≠ some '\'') (scanned : scan false rest = some pieces) :
    scan true (body ++ '\'' :: rest) = some (text :: pieces) := by
  fun_induction decoded body generalizing text with
  | case1 =>
    obtain rfl := Option.some.inj read
    rw [List.nil_append]
    rw [scan, scanned]
    · rfl
    · rintro rest' rfl
      exact closed rfl
  | case2 body ih =>
    obtain ⟨read', decodes, rfl⟩ := Option.map_eq_some_iff.mp read
    rw [List.cons_append, List.cons_append, scan, ih decodes]
    rfl
  | case3 l body ih =>
    obtain ⟨first, known, later⟩ := Option.bind_eq_some_iff.mp read
    obtain ⟨read', decodes, rfl⟩ := Option.map_eq_some_iff.mp later
    rw [List.cons_append, List.cons_append, scan, known, ih decodes]
    rfl
  | case4 => exact nomatch read
  | case5 c body _ _ ordinary ih =>
    obtain ⟨read', decodes, rfl⟩ := Option.map_eq_some_iff.mp read
    rw [not_or] at ordinary
    rw [List.cons_append, scan, if_neg ordinary.2, ih decodes]
    · rfl
    all_goals
      intros
      simp_all

end

/-! ### Statements -/

/-- The words of a text outside literals. -/
def words : List Char → List (List Char)
  | [] => []
  | c :: rest =>
    if isBlank c then words rest
    else if isSign c then [c] :: words rest
    else
      match rest with
      | [] => [[c]]
      | d :: _ => if isBlank d || isSign d then [c] :: words rest else before [c] (words rest)

inductive Token
  | word (text : List Char)
  | literal (text : List Char)
  deriving DecidableEq, Repr

def tokens : List (List Char) → List Token
  | [] => []
  | [bare] => (words bare).map .word
  | bare :: read :: pieces => (words bare).map .word ++ .literal read :: tokens pieces

/-- The assignments of an update up to its condition: columns with the literal that each is set
    to, `none` where it is the time. -/
def assignments : List Token → Option (List (List Char × Option (List Char)) × List Token)
  | .word column :: .word equals :: .literal text :: .word next :: rest =>
    if equals = "=".toList then
      if next = ",".toList then (assignments rest).map fun (more, left) => ((column, some text) :: more, left)
      else some ([(column, some text)], .word next :: rest)
    else none
  | .word column :: .word equals :: .word now :: .word opening :: .word closing :: .word next :: rest =>
    if [equals, now, opening, closing] = ["=".toList, "now".toList, "(".toList, ")".toList] then
      if next = ",".toList then (assignments rest).map fun (more, left) => ((column, none) :: more, left)
      else some ([(column, none)], .word next :: rest)
    else none
  | _ => none

/-- `UPDATE` and `DELETE` of the rows that have a value in a column. -/
inductive Statement
  | update (table : List Char) (assigned : List (List Char × Option (List Char))) (column value : List Char)
  | delete (table column value : List Char)
  deriving DecidableEq, Repr

def condition : List Token → Option (List Char × List Char)
  | .word head :: .word column :: .word equals :: .literal value :: rest =>
    if head = "WHERE".toList ∧ equals = "=".toList ∧ (rest = [] ∨ rest = [.word ";".toList]) then some (column, value)
    else none
  | _ => none
def statement : List Token → Option Statement
  | .word verb :: .word object :: .word table :: rest =>
    if [verb, object] = ["DELETE".toList, "FROM".toList] then
      (condition rest).map fun (column, value) => .delete table column value
    else if [verb, object] = ["ALTER".toList, "TABLE".toList] ∧ rest.head? = some (.word "UPDATE".toList) then
      (assignments rest.tail).bind fun (assigned, left) =>
        (condition left).map fun (column, value) => .update table assigned column value
    else none
  | _ => none

section
variable [Escapes]

/-- What a query says, where it is read at all. -/
def read (query : List Char) : Option Statement := (scan false query).bind (statement <| tokens ·)

/-! ### Queries that set columns to literals -/

/-- A column with a literal, by its body and by what that is read as. -/
structure Setting where
  column : List Char
  body : List Char
  value : List Char
  decodes : decoded body = some value

def Setting.text (s : Setting) : List Char := s.column ++ " = '".toList ++ s.body ++ ['\'']

/-- A query of settings with the text in front of each. -/
abbrev Parts := List (List Char × Setting)

/-- The texts in front of settings are outside literals, and the settings stand apart. -/
structure Parts.Apart (parts : Parts) : Prop where
  leads : ∀ part ∈ parts, part.1 ≠ [] ∧ ∀ c ∈ part.1, isBare c = true
  columns : ∀ part ∈ parts, ∀ c ∈ part.2.column, isBare c = true

theorem scan_setting {lead rest : List Char} {s : Setting} {pieces : List (List Char)} (bare : ∀ c ∈ lead, isBare c = true)
    (bareColumn : ∀ c ∈ s.column, isBare c = true) (closed : rest.head? ≠ some '\'') (scanned : scan false rest = some pieces) :
    scan false (lead ++ s.text ++ rest) = some ((lead ++ s.column ++ " = ".toList) :: s.value :: pieces) := by
  have opened : scan false ('\'' :: (s.body ++ '\'' :: rest)) = some ([] :: s.value :: pieces) := by
    rw [scan, scan_literal s.decodes closed scanned]
    rfl
  have bares : ∀ c ∈ lead ++ s.column ++ " = ".toList, isBare c = true := by
    intro c inside
    rw [List.mem_append, List.mem_append] at inside
    rcases inside with (inLead | inColumn) | inSign
    · exact bare c inLead
    · exact bareColumn c inColumn
    · exact List.all_eq_true.mp (by decide : " = ".toList.all isBare = true) c inSign
  have whole : lead ++ s.text ++ rest = lead ++ s.column ++ " = ".toList ++ '\'' :: (s.body ++ '\'' :: rest) := by
    have spelled : " = '".toList = " = ".toList ++ ['\''] := by decide
    simp [Setting.text, spelled]
  rw [whole, scan_bare bares opened, List.append_nil]

omit [Escapes] in
theorem head_ne_quote {c : Char} (bare : isBare c = true) : some c ≠ some '\'' := by
  intro same
  rw [Option.some.inj same] at bare
  exact absurd bare (by decide)
theorem scan_parts (parts : Parts) (apart : parts.Apart) {tail : List Char} (bare : ∀ c ∈ tail, isBare c = true) :
    scan false (parts.flatMap (fun part => part.1 ++ part.2.text) ++ tail) =
      some (parts.flatMap (fun part => [part.1 ++ part.2.column ++ " = ".toList, part.2.value]) ++ [tail]) := by
  induction parts with
  | nil =>
    have ended : scan false [] = some [[]] := by rw [scan]
    have whole := scan_bare bare ended
    rw [List.append_nil] at whole
    exact whole
  | cons part parts ih =>
    obtain ⟨⟨leads, others⟩, columns, otherColumns⟩ :=
      And.intro (List.forall_mem_cons.mp apart.leads) (List.forall_mem_cons.mp apart.columns)
    have closed : (parts.flatMap (fun part => part.1 ++ part.2.text) ++ tail).head? ≠ some '\'' := by
      cases parts with
      | nil =>
        cases tail with
        | nil => simp
        | cons c tail => exact head_ne_quote (bare c List.mem_cons_self)
      | cons next parts =>
        obtain ⟨nonempty, bareLead⟩ := others next List.mem_cons_self
        cases lead : next.1 with
        | nil => exact absurd lead nonempty
        | cons c lead' =>
          simpa [lead] using head_ne_quote (bareLead c (lead ▸ List.mem_cons_self))
    rw [List.flatMap_cons, List.append_assoc, scan_setting leads.2 columns closed (ih ⟨others, otherColumns⟩),
      List.flatMap_cons]
    rfl

theorem tokens_parts (parts : Parts) (tail : List Char) :
    tokens (parts.flatMap (fun part => [part.1 ++ part.2.column ++ " = ".toList, part.2.value]) ++ [tail]) =
      parts.flatMap (fun part => (words (part.1 ++ part.2.column ++ " = ".toList)).map .word ++ [.literal part.2.value]) ++
        (words tail).map .word := by
  induction parts with
  | nil => rfl
  | cons part parts ih =>
    rw [List.flatMap_cons, List.append_assoc, List.cons_append, List.singleton_append, tokens, ih]
    simp
/-- The tokens of settings that are separated by commas are read as their assignments. -/
theorem assignments_settings (s : Setting) (more : List Setting) (rest : List Token) :
    assignments (.word s.column :: .word "=".toList :: .literal s.value ::
      (more.flatMap (fun s => [.word ",".toList, .word s.column, .word "=".toList, .literal s.value]) ++
        .word "WHERE".toList :: rest)) =
      some ((s :: more).map (fun s => (s.column, some s.value)), .word "WHERE".toList :: rest) := by
  induction more generalizing s with
  | nil =>
    rw [List.flatMap_nil, List.nil_append, assignments, if_pos rfl, if_neg (by decide)]
    rfl
  | cons next more ih =>
    rw [List.flatMap_cons, List.append_assoc]
    simp only [List.cons_append, List.nil_append]
    rw [assignments, if_pos rfl, if_pos rfl, ih]
    rfl

omit [Escapes] in
/-- The assignments of times to columns, which are read before those of literals. -/
theorem assignments_stamps (stamps : List (List Char)) {assigned : List (List Char × Option (List Char))}
    {rest left : List Token} (read : assignments rest = some (assigned, left)) :
    assignments (stamps.flatMap (fun column => [.word column, .word "=".toList, .word "now".toList, .word "(".toList,
      .word ")".toList, .word ",".toList]) ++ rest) = some (stamps.map (fun column => (column, none)) ++ assigned, left) := by
  induction stamps with
  | nil => exact read
  | cons column stamps ih =>
    rw [List.flatMap_cons, List.append_assoc]
    simp only [List.cons_append, List.nil_append]
    rw [assignments, if_pos rfl, if_pos rfl, ih]
    rfl

/-- The texts around the settings of an update: what is in front of the first, between two, and in
    front of the condition. The first sets some columns to the time. -/
structure Layout where
  table : List Char
  stamps : List (List Char)
  header : List Char
  separator : List Char
  footer : List Char
  apart : header ≠ [] ∧ separator ≠ [] ∧ footer ≠ []
  bare : (header ++ separator ++ footer).all isBare = true

/-- The columns that the words of a layout are told apart from. -/
structure Layout.Names (layout : Layout) (column : List Char) : Prop where
  bare : column.all isBare = true
  first : words (layout.header ++ column ++ " = ".toList) =
    ["ALTER".toList, "TABLE".toList, layout.table, "UPDATE".toList] ++
      layout.stamps.flatMap (fun c => [c, "=".toList, "now".toList, "(".toList, ")".toList, ",".toList]) ++ [column, "=".toList]
  next : words (layout.separator ++ column ++ " = ".toList) = [",".toList, column, "=".toList]
  last : words (layout.footer ++ column ++ " = ".toList) = ["WHERE".toList, column, "=".toList]

def Layout.query (layout : Layout) (s : Setting) (more : List Setting) (key : Setting) : List Char :=
  layout.header ++ s.text ++ more.flatMap (layout.separator ++ ·.text) ++ layout.footer ++ key.text

theorem read_query (layout : Layout) {s : Setting} {more : List Setting} {key : Setting}
    (named : ∀ setting ∈ key :: s :: more, layout.Names setting.column) :
    read (layout.query s more key) = some (.update layout.table
      (layout.stamps.map (fun column => (column, none)) ++ (s :: more).map fun s => (s.column, some s.value))
      key.column key.value) := by
  have bare := List.all_eq_true.mp layout.bare
  have whole : layout.query s more key =
      ((layout.header, s) :: (more.map (layout.separator, ·) ++ [(layout.footer, key)])).flatMap
        (fun part : List Char × Setting => part.1 ++ part.2.text) ++ [] := by
    simp [Layout.query, List.flatMap_map]
  have apart : Parts.Apart ((layout.header, s) :: (more.map (layout.separator, ·) ++ [(layout.footer, key)])) := by
    constructor
    · simp only [List.forall_mem_cons, List.forall_mem_append, List.forall_mem_map]
      simp only [List.forall_mem_append] at bare
      exact ⟨⟨layout.apart.1, bare.1.1⟩, fun _ _ => ⟨layout.apart.2.1, bare.1.2⟩, ⟨layout.apart.2.2, bare.2⟩, nofun⟩
    · simp only [List.forall_mem_cons, List.forall_mem_append, List.forall_mem_map] at named ⊢
      exact ⟨List.all_eq_true.mp named.2.1.bare, fun s inside => List.all_eq_true.mp (named.2.2 s inside).bare,
        List.all_eq_true.mp named.1.bare, nofun⟩
  obtain ⟨keyNamed, firstNamed, othersNamed⟩ :=
    And.imp_right List.forall_mem_cons.mp (List.forall_mem_cons.mp named)
  have later : more.flatMap (fun s => (words (layout.separator ++ s.column ++ " = ".toList)).map Token.word ++ [.literal s.value]) =
      more.flatMap (fun s => [.word ",".toList, .word s.column, .word "=".toList, .literal s.value]) := by
    apply List.flatMap_congr
    intro s inside
    rw [(othersNamed s inside).next]
    rfl
  have tokenised : tokens (((layout.header, s) :: (more.map (layout.separator, ·) ++ [(layout.footer, key)])).flatMap
        (fun part : List Char × Setting => [part.1 ++ part.2.column ++ " = ".toList, part.2.value]) ++ [[]]) =
      [Token.word "ALTER".toList, Token.word "TABLE".toList, Token.word layout.table, Token.word "UPDATE".toList] ++
        (layout.stamps.flatMap (fun column => [Token.word column, Token.word "=".toList, Token.word "now".toList, Token.word "(".toList,
          Token.word ")".toList, Token.word ",".toList]) ++
        (Token.word s.column :: Token.word "=".toList :: Token.literal s.value ::
          (more.flatMap (fun s => [Token.word ",".toList, Token.word s.column, Token.word "=".toList, Token.literal s.value]) ++
            Token.word "WHERE".toList :: [Token.word key.column, Token.word "=".toList, Token.literal key.value]))) := by
    rw [tokens_parts, List.flatMap_cons, List.flatMap_append, List.flatMap_map, later, firstNamed.first, List.flatMap_cons,
      List.flatMap_nil, keyNamed.last]
    simp [words, List.map_flatMap]
  rw [read, whole, scan_parts _ apart (by simp), Option.bind_some, tokenised]
  have assigned := assignments_stamps layout.stamps
    (assignments_settings s more [.word key.column, .word "=".toList, .literal key.value])
  have conditioned : condition (.word "WHERE".toList :: [.word key.column, .word "=".toList, .literal key.value]) =
      some (key.column, key.value) := by
    rw [condition, if_pos ⟨rfl, rfl, .inl rfl⟩]
  simp only [List.cons_append, List.nil_append]
  rw [statement, if_neg (by decide), if_pos ⟨rfl, rfl⟩, List.tail_cons, assigned, Option.bind_some]
  simp only [conditioned, Option.map_some]

theorem read_delete {lead table : List Char} {key : Setting} (apart : lead ≠ []) (bare : lead.all isBare = true)
    (bareKey : key.column.all isBare = true)
    (named : words (lead ++ key.column ++ " = ".toList) =
      ["DELETE".toList, "FROM".toList, table, "WHERE".toList, key.column, "=".toList]) :
    read (lead ++ key.text ++ ";".toList) = some (.delete table key.column key.value) := by
  have whole : lead ++ key.text ++ ";".toList =
      [(lead, key)].flatMap (fun part : List Char × Setting => part.1 ++ part.2.text) ++ ";".toList := by
    simp
  have parts : Parts.Apart [(lead, key)] := by
    constructor
    · simpa using ⟨apart, by simpa using bare⟩
    · simpa using bareKey
  have conditioned : condition [.word "WHERE".toList, .word key.column, .word "=".toList, .literal key.value,
      .word ";".toList] = some (key.column, key.value) := by
    rw [condition, if_pos ⟨rfl, rfl, .inr rfl⟩]
  rw [read, whole, scan_parts _ parts (List.all_eq_true.mp (by decide)), Option.bind_some, tokens_parts, List.flatMap_cons,
    List.flatMap_nil, named]
  have tail : (words ";".toList).map Token.word = [.word ";".toList] := by decide
  simp only [tail, List.map_cons, List.map_nil, List.cons_append, List.nil_append, List.append_nil]
  rw [statement, if_pos rfl, conditioned]
  rfl

end

end Openlit.Literals
