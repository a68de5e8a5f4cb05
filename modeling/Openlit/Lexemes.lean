import Openlit.Literals

/-!
The lexemes of a query, which are the characters outside its literals and what
each literal is read as, and when a query that is put together from code and
literals has the lexemes that it is meant to have: exactly when the body of
each literal is written so that it is read as its value.
-/
namespace Openlit.Lexemes
open Openlit.Literals

inductive Lexeme
  | code (c : Char)
  | literal (text : List Char)
  deriving DecidableEq, Repr

/-- The characters of code: those of names, numbers, brackets, signs and blanks. -/
def isCode (c : Char) : Bool := isBare c || c ∈ ['[', ']', '<', '>', '!', '+']
/-- The characters that are not themselves in a literal. -/
def isMark (c : Char) : Bool := c = '\'' || c = '\\'

/-- A letter after a backslash is read as one character or kept with its backslash, and only the two
    marks are read as marks. -/
class OneByOne [Escapes] : Prop where
  reading_cases : ∀ {l read}, Escapes.reading l = some read →
    (read = ['\\', l] ∧ isMark l = false) ∨ ∃ c, read = [c] ∧ (isMark c = true → c = l)

/-- `replace(/'/g, "''")`. -/
def doubled (text : List Char) : List Char := text.flatMap fun c => if c = '\'' then ['\'', '\''] else [c]

section
variable [Escapes]
open Escapes

mutual
/-- The lexemes of a text that begins outside a literal. A dash stands before a number or a word, since
    two of them begin a comment. -/
def outside : List Char → Option (List Lexeme)
  | [] => some []
  | '\'' :: rest => (inside rest).map fun (text, more) => .literal text :: more
  | '-' :: c :: rest => if c.isAlphanum then (outside (c :: rest)).map (.code '-' :: ·) else none
  | c :: rest => if isCode c then (outside rest).map (.code c :: ·) else none
/-- The rest of a literal with the lexemes after it. -/
def inside : List Char → Option (List Char × List Lexeme)
  | [] => none
  | '\'' :: '\'' :: rest => (inside rest).map (Prod.map ('\'' :: ·) id)
  | '\'' :: rest => (outside rest).map ([], ·)
  | '\\' :: l :: rest => (reading l).bind fun read => (inside rest).map (Prod.map (read ++ ·) id)
  | c :: rest => if c = '\\' then none else (inside rest).map (Prod.map (c :: ·) id)
end

/-- A text that does not go on with a literal that ends before it. -/
def Unquoted (rest : List Char) : Prop := ∀ c ∈ rest.head?, isMark c = false

omit [Escapes] in
theorem Unquoted.append {front back : List Char} (unquoted : Unquoted front) (more : Unquoted back) : Unquoted (front ++ back) := by
  cases front with
  | nil => exact more
  | cons c front => exact unquoted
omit [Escapes] in
theorem unquoted_cons {c : Char} (plain : isMark c = false) (rest : List Char) : Unquoted (c :: rest) := by
  intro c' first
  cases first
  exact plain

omit [Escapes] in
theorem Unquoted.closed {rest : List Char} (unquoted : Unquoted rest) : rest.head? ≠ some '\'' := by
  intro first
  exact absurd (unquoted '\'' first) (by decide)

theorem inside_quotes (rest : List Char) : inside ('\'' :: '\'' :: rest) = (inside rest).map (Prod.map ('\'' :: ·) id) := by
  rw [inside]
theorem inside_close {rest : List Char} (closed : rest.head? ≠ some '\'') : inside ('\'' :: rest) = (outside rest).map ([], ·) := by
  rw [inside]
  rintro rest' rfl
  exact closed rfl
theorem inside_letter (l : Char) (rest : List Char) :
    inside ('\\' :: l :: rest) = (reading l).bind fun read => (inside rest).map (Prod.map (read ++ ·) id) := by
  rw [inside]
theorem inside_char {c : Char} (plain : isMark c = false) (rest : List Char) :
    inside (c :: rest) = (inside rest).map (Prod.map (c :: ·) id) := by
  simp only [isMark, Bool.or_eq_false_iff, decide_eq_false_iff_not] at plain
  rw [inside, if_neg plain.2]
  all_goals
    intros
    simp_all

/-! ### Bodies that are read as a value -/

/-- The body is read as the value, whatever comes after it. -/
def Reads (body value : List Char) : Prop := ∀ rest, inside (body ++ rest) = (inside rest).map (Prod.map (value ++ ·) id)
/-- The body is read as the value exactly when the condition holds, for the texts and the rests of the
    literal that may come after it. -/
def Decided (body value : List Char) (condition : Prop) (After : List Char → List Char → Prop) : Prop :=
  ∀ rest s more, After rest s → (inside (body ++ rest) = some (value ++ s, more) ↔ condition ∧ inside rest = some (s, more))
/-- Anything may come after. -/
def Anything (_ _ : List Char) : Prop := True

omit [Escapes] in
theorem map_front_iff {read : Option (List Char × List Lexeme)} {value s : List Char} {more : List Lexeme} :
    read.map (Prod.map (value ++ ·) id) = some (value ++ s, more) ↔ read = some (s, more) := by
  cases read with
  | none => simp
  | some pair => simp [Prod.ext_iff]

omit [Escapes] in
theorem exists_tail {result : Option (List Char × List Lexeme)} (read : List Char) {text : List Char} {more : List Lexeme}
    (mapped : result.map (Prod.map (read ++ ·) id) = some (text, more)) : ∃ tail, text = read ++ tail ∧ result = some (tail, more) := by
  obtain ⟨⟨tail, more'⟩, isResult, same⟩ := Option.map_eq_some_iff.mp mapped
  obtain ⟨rfl, rfl⟩ := Prod.mk.inj same
  exact ⟨tail, rfl, isResult⟩

theorem reads_nil : Reads [] [] := by
  intro rest
  rw [List.nil_append]
  cases inside rest <;> rfl
theorem reads_char {c : Char} (plain : isMark c = false) : Reads [c] [c] := fun rest => inside_char plain rest
theorem reads_letter {l : Char} {read : List Char} (known : reading l = some read) : Reads ['\\', l] read := by
  intro rest
  rw [List.cons_append, List.singleton_append, inside_letter, known, Option.bind_some]
theorem reads_quotes : Reads ['\'', '\''] ['\''] := inside_quotes
theorem Reads.append {body body' value value' : List Char} (first : Reads body value) (second : Reads body' value') :
    Reads (body ++ body') (value ++ value') := by
  intro rest
  rw [List.append_assoc, first, second, Option.map_map]
  congr 1
  funext pair
  simp [Prod.map]
theorem Reads.decided {body value : List Char} (reads : Reads body value) (After : List Char → List Char → Prop) :
    Decided body value True After := by
  intro rest s more _
  rw [reads, map_front_iff, true_and]
/-- What closes is read the same before any text. -/
theorem reads_of_decoded {body text : List Char} (decodes : decoded body = some text) : Reads body text := by
  fun_induction decoded body generalizing text with
  | case1 =>
    obtain rfl := Option.some.inj decodes
    exact reads_nil
  | case2 body ih =>
    obtain ⟨text', read, rfl⟩ := Option.map_eq_some_iff.mp decodes
    exact reads_quotes.append (ih read)
  | case3 l body ih =>
    obtain ⟨first, known, later⟩ := Option.bind_eq_some_iff.mp decodes
    obtain ⟨text', read, rfl⟩ := Option.map_eq_some_iff.mp later
    exact (reads_letter known).append (ih read)
  | case4 => cases decodes
  | case5 c body _ _ ordinary ih =>
    obtain ⟨text', read, rfl⟩ := Option.map_eq_some_iff.mp decodes
    have plain : isMark c = false := by simpa [isMark] using ordinary
    exact (reads_char plain).append (ih read)

/-- A body that is never read as the value. -/
theorem decided_false {body value : List Char} {After : List Char → List Char → Prop}
    (never : ∀ rest s more, After rest s → inside (body ++ rest) ≠ some (value ++ s, more)) : Decided body value False After := by
  intro rest s more after
  exact ⟨fun read => (never rest s more after read).elim, fun read => read.1.elim⟩
/-- A body that begins with another text than the value. -/
theorem decided_differs {body front tail : List Char} {a b : Char} (reads : Reads body (front ++ a :: tail)) (other : a ≠ b)
    (later valueTail : List Char) : Decided (body ++ later) (front ++ b :: valueTail) False Anything := by
  refine decided_false fun rest s more _ read => ?_
  rw [List.append_assoc, reads] at read
  obtain ⟨text, same, -⟩ := exists_tail (front ++ a :: tail) read
  rw [List.append_assoc, List.append_assoc, List.append_cancel_left_eq] at same
  exact other (List.cons.inj same).1.symm
theorem Decided.append {body body' value value' : List Char} {condition condition' : Prop} {After After' : List Char → List Char → Prop}
    (first : Decided body value condition After) (second : Decided body' value' condition' After')
    (joins : ∀ rest s, After' rest s → After (body' ++ rest) (value' ++ s)) :
    Decided (body ++ body') (value ++ value') (condition ∧ condition') After' := by
  intro rest s more after
  rw [List.append_assoc, List.append_assoc, first _ _ _ (joins rest s after), second _ _ _ after, and_assoc]
theorem Decided.congr {body value : List Char} {condition condition' : Prop} {After : List Char → List Char → Prop}
    (decided : Decided body value condition After) (same : condition ↔ condition') : Decided body value condition' After := by
  intro rest s more after
  rw [decided _ _ _ after, same]
theorem Decided.mono {body value : List Char} {condition : Prop} {After After' : List Char → List Char → Prop}
    (decided : Decided body value condition After) (fewer : ∀ rest s, After' rest s → After rest s) :
    Decided body value condition After' := fun rest s more after => decided rest s more (fewer rest s after)
/-- Bodies that are decided one by one are decided together. -/
theorem decided_flatMap {α : Type} {body value : α → List Char} {condition : α → Prop} {items : List α}
    (decided : ∀ item ∈ items, Decided (body item) (value item) (condition item) Anything) :
    Decided (items.flatMap body) (items.flatMap value) (∀ item ∈ items, condition item) Anything := by
  induction items with
  | nil => exact (reads_nil.decided _).congr (by simp)
  | cons item items ih =>
    obtain ⟨first, others⟩ := List.forall_mem_cons.mp decided
    rw [List.flatMap_cons, List.flatMap_cons]
    exact (first.append (ih others) fun _ _ _ => trivial).congr (List.forall_mem_cons).symm

/-! ### Texts that are their own bodies -/

/-- Every backslash stands before a letter that is kept with it. -/
def keepsBackslashes : List Char → Bool
  | [] => true
  | ['\\'] => false
  | '\\' :: l :: rest => reading l = some ['\\', l] && keepsBackslashes rest
  | _ :: rest => keepsBackslashes rest
/-- A text without quotes whose backslashes are kept. -/
def verbatim (text : List Char) : Bool := '\'' ∉ text && keepsBackslashes text

/-- What comes after a text does not read a mark at its end as the marks that are missing in front. -/
def Stops (rest s : List Char) : Prop :=
  ∀ mark ∈ [[], ['\''], ['\\']], ∀ front more, front ≠ [] → (∀ c ∈ front, isMark c = true) →
    inside (mark ++ rest) ≠ some (front ++ s, more)
/-- The end of a literal. -/
def Closes (rest s : List Char) : Prop := ∃ after, rest = '\'' :: after ∧ Unquoted after ∧ s = []

theorem inside_head {c : Char} (plain : isMark c = false) {rest text : List Char} {more : List Lexeme}
    (read : inside (c :: rest) = some (text, more)) : ∃ tail, text = c :: tail ∧ inside rest = some (tail, more) := by
  rw [inside_char plain] at read
  exact exists_tail [c] read
/-- What is after a literal does not begin with marks. -/
theorem Unquoted.inside_ne {rest : List Char} (unquoted : Unquoted rest) {front : List Char} {more : List Lexeme}
    (marks : ∀ c ∈ front, isMark c = true) : inside rest ≠ some (front, more) := by
  intro read
  cases rest with
  | nil =>
    rw [inside] at read
    cases read
  | cons c rest =>
    have plain := unquoted c rfl
    obtain ⟨tail, rfl, -⟩ := inside_head plain read
    rw [marks c List.mem_cons_self] at plain
    cases plain
theorem Closes.stops {rest s : List Char} (closes : Closes rest s) : Stops rest s := by
  obtain ⟨after, rfl, unquoted, rfl⟩ := closes
  intro mark isEnd front more nonempty marks
  obtain ⟨c, front, rfl⟩ := List.exists_cons_of_ne_nil nonempty
  obtain ⟨-, others⟩ := List.forall_mem_cons.mp marks
  rw [List.append_nil]
  simp only [List.mem_cons, List.not_mem_nil, or_false] at isEnd
  rcases isEnd with rfl | rfl | rfl
  · rw [List.nil_append, inside_close unquoted.closed]
    intro read
    obtain ⟨_, -, same⟩ := Option.map_eq_some_iff.mp read
    cases (Prod.mk.inj same).1
  · rw [List.cons_append, List.nil_append, inside_quotes]
    intro read
    obtain ⟨tail, same, later⟩ := exists_tail ['\''] read
    obtain ⟨-, rfl⟩ := List.cons.inj same
    exact unquoted.inside_ne others later
  · rw [List.cons_append, List.nil_append, inside_letter, reading_quote, Option.bind_some]
    intro read
    obtain ⟨tail, same, later⟩ := exists_tail ['\''] read
    obtain ⟨-, rfl⟩ := List.cons.inj same
    exact unquoted.inside_ne others later
/-- A character that is itself, also after a backslash. -/
theorem stops_char {c : Char} (plain : isMark c = false) (known : reading c = some [c]) (rest s : List Char) :
    Stops (c :: rest) s := by
  intro mark isEnd front more nonempty marks
  obtain ⟨d, front, rfl⟩ := List.exists_cons_of_ne_nil nonempty
  obtain ⟨first, -⟩ := List.forall_mem_cons.mp marks
  have other : ∀ {text : List Char}, c :: text ≠ d :: (front ++ s) := by
    intro text same
    rw [(List.cons.inj same).1, first] at plain
    cases plain
  simp only [List.mem_cons, List.not_mem_nil, or_false] at isEnd
  rcases isEnd with rfl | rfl | rfl
  · intro read
    obtain ⟨tail, same, -⟩ := inside_head plain read
    exact other same.symm
  · rw [List.cons_append, List.nil_append, inside_close (unquoted_cons plain rest).closed]
    intro read
    obtain ⟨_, -, same⟩ := Option.map_eq_some_iff.mp read
    cases (Prod.mk.inj same).1
  · rw [List.cons_append, List.nil_append, inside_letter, known, Option.bind_some]
    intro read
    obtain ⟨tail, same, -⟩ := exists_tail [c] read
    exact other same.symm

/-- What a letter is read as, when a text that begins with a mark is read from its backslash on: the mark, which is the letter. -/
theorem letter_of_mark [OneByOne] {l d : Char} {text rest : List Char} {more : List Lexeme} (mark : isMark d = true)
    (read : inside ('\\' :: l :: rest) = some (d :: text, more)) :
    (reading l = some ['\\', l] ∧ d = '\\' ∧ isMark l = false ∧ ∃ tail, text = l :: tail ∧ inside rest = some (tail, more)) ∨
      (d = l ∧ inside rest = some (text, more)) := by
  rw [inside_letter] at read
  obtain ⟨first, known, later⟩ := Option.bind_eq_some_iff.mp read
  obtain ⟨tail, same, after⟩ := exists_tail first later
  rcases OneByOne.reading_cases known with ⟨rfl, plain⟩ | ⟨c, rfl, only⟩
  · obtain ⟨rfl, rfl⟩ := List.cons.inj same
    exact .inl ⟨known, rfl, plain, tail, rfl, after⟩
  · obtain ⟨rfl, rfl⟩ := List.cons.inj same
    exact .inr ⟨only mark, after⟩

theorem letter_of_marks [OneByOne] {l : Char} {front text rest : List Char} {more : List Lexeme} (nonempty : front ≠ [])
    (marks : ∀ c ∈ front, isMark c = true) (read : inside ('\\' :: l :: rest) = some (front ++ '\\' :: text, more)) :
    ∃ others, front = l :: others ∧ inside rest = some (others ++ '\\' :: text, more) := by
  obtain ⟨d, front, rfl⟩ := List.exists_cons_of_ne_nil nonempty
  obtain ⟨mark, others⟩ := List.forall_mem_cons.mp marks
  rcases letter_of_mark mark read with ⟨-, -, plain, tail, same, -⟩ | ⟨rfl, later⟩
  · -- A letter that is kept is no mark, and neither is it the backslash.
    cases front with
    | nil =>
      obtain ⟨rfl, -⟩ := List.cons.inj same
      exact absurd plain (by decide)
    | cons c front =>
      obtain ⟨rfl, -⟩ := List.cons.inj same
      rw [others c List.mem_cons_self] at plain
      cases plain
  · exact ⟨front, rfl, later⟩

/-- A text is not read with more marks in front of it. -/
theorem inside_ne_marks [OneByOne] {rest s : List Char} (stops : Stops rest s) (t : List Char) {front : List Char}
    {more : List Lexeme} (nonempty : front ≠ []) (marks : ∀ c ∈ front, isMark c = true) :
    inside (t ++ rest) ≠ some (front ++ t ++ s, more) := by
  have quote : isMark '\'' = true := by decide
  fun_induction decoded t generalizing front with
  | case1 =>
    rw [List.append_nil]
    exact stops [] List.mem_cons_self front more nonempty marks
  | case2 t ih =>
    obtain ⟨d, front, rfl⟩ := List.exists_cons_of_ne_nil nonempty
    obtain ⟨-, others⟩ := List.forall_mem_cons.mp marks
    intro read
    rw [List.cons_append, List.cons_append, inside_quotes] at read
    obtain ⟨tail, same, later⟩ := exists_tail ['\''] read
    obtain ⟨-, rfl⟩ := List.cons.inj same
    have longer : ∀ c ∈ front ++ ['\'', '\''], isMark c = true := by
      simpa [or_imp, forall_and] using ⟨others, quote⟩
    refine ih (by simp) longer ?_
    simpa using later
  | case3 l t ih =>
    intro read
    rw [List.append_assoc] at read
    obtain ⟨others, rfl, later⟩ := letter_of_marks nonempty marks read
    obtain ⟨mark, marksLeft⟩ := List.forall_mem_cons.mp marks
    have longer : ∀ c ∈ others ++ ['\\', l], isMark c = true := by
      simpa [or_imp, forall_and] using ⟨marksLeft, by decide, mark⟩
    refine ih (by simp) longer ?_
    simpa using later
  | case4 c t noQuotes noLetter ends =>
    rcases ends with rfl | rfl
    · cases t with
      | nil => exact stops ['\''] (by simp) (front ++ ['\'']) more (by simp) (by simpa [or_imp, forall_and] using ⟨marks, quote⟩)
      | cons c t =>
        have closed : ((c :: t) ++ rest).head? ≠ some '\'' := by
          intro first
          obtain rfl := Option.some.inj first
          exact noQuotes t rfl rfl
        intro read
        rw [List.cons_append, inside_close closed] at read
        obtain ⟨_, -, same⟩ := Option.map_eq_some_iff.mp read
        have empty := (Prod.mk.inj same).1
        simp [nonempty] at empty
    · cases t with
      | nil => exact stops ['\\'] (by simp) (front ++ ['\\']) more (by simp) (by simpa [or_imp, forall_and] using ⟨marks, by decide⟩)
      | cons c t => exact (noLetter c t rfl rfl).elim
  | case5 c t _ _ ordinary =>
    obtain ⟨d, front, rfl⟩ := List.exists_cons_of_ne_nil nonempty
    have plain : isMark c = false := by simpa [isMark] using ordinary
    intro read
    obtain ⟨tail, same, -⟩ := inside_head plain read
    obtain ⟨rfl, -⟩ := List.cons.inj same
    rw [marks d List.mem_cons_self] at plain
    cases plain

@[simp] theorem keepsBackslashes_letter (l : Char) (rest : List Char) :
    keepsBackslashes ('\\' :: l :: rest) = (decide (reading l = some ['\\', l]) && keepsBackslashes rest) := by
  rw [keepsBackslashes]
theorem keepsBackslashes_char {c : Char} (other : c ≠ '\\') (rest : List Char) :
    keepsBackslashes (c :: rest) = keepsBackslashes rest := by
  rw [keepsBackslashes]
  all_goals
    intros
    simp_all

theorem verbatim_letter {l : Char} (other : l ≠ '\'') (rest : List Char) :
    verbatim ('\\' :: l :: rest) = (decide (reading l = some ['\\', l]) && verbatim rest) := by
  have unquoted : '\'' ∉ '\\' :: l :: rest ↔ '\'' ∉ rest := by simp [other.symm]
  simp only [verbatim, keepsBackslashes_letter, unquoted, Bool.and_left_comm]
theorem verbatim_char {c : Char} (plain : isMark c = false) (rest : List Char) : verbatim (c :: rest) = verbatim rest := by
  simp only [isMark, Bool.or_eq_false_iff, decide_eq_false_iff_not] at plain
  have unquoted : '\'' ∉ c :: rest ↔ '\'' ∉ rest := by simp [Ne.symm plain.1]
  simp only [verbatim, keepsBackslashes_char plain.2, unquoted]

/-- A letter that is read as one character is never read with its backslash. -/
theorem inside_letter_ne [OneByOne] {l : Char} {t rest s : List Char} {more : List Lexeme} (stops : Stops rest s)
    (read : inside ('\\' :: l :: t ++ rest) = some ('\\' :: l :: t ++ s, more)) :
    reading l = some ['\\', l] ∧ isMark l = false ∧ inside (t ++ rest) = some (t ++ s, more) := by
  rcases letter_of_mark (by decide) read with ⟨known, -, plain, tail, same, later⟩ | ⟨rfl, later⟩
  · obtain ⟨-, rfl⟩ := List.cons.inj same
    exact ⟨known, plain, later⟩
  · exact absurd later (@inside_ne_marks _ _ _ _ stops t ['\\'] _ (by simp) (by simp [isMark]))

/-- A text between quotes is read as itself exactly when it is verbatim. -/
theorem decided_verbatim [OneByOne] (text : List Char) : Decided text text (verbatim text = true) Stops := by
  intro rest s more stops
  fun_induction decoded text with
  | case1 => simp [verbatim, keepsBackslashes]
  | case2 t =>
    refine iff_of_false (fun read => ?_) fun sound => absurd sound.1 (by simp [verbatim])
    rw [List.cons_append, List.cons_append, inside_quotes] at read
    obtain ⟨tail, same, later⟩ := exists_tail ['\''] read
    obtain ⟨-, rfl⟩ := List.cons.inj same
    exact @inside_ne_marks _ _ _ _ stops t ['\''] _ (by simp) (by simp [isMark]) later
  | case3 l t ih =>
    constructor
    · intro read
      obtain ⟨known, plain, later⟩ := inside_letter_ne stops read
      obtain ⟨sound, after⟩ := ih.mp later
      have other : l ≠ '\'' := by
        rintro rfl
        exact absurd plain (by decide)
      exact ⟨by simp [verbatim_letter other, known, sound], after⟩
    · rintro ⟨sound, after⟩
      have other : l ≠ '\'' := by
        rintro rfl
        exact absurd sound (by simp [verbatim])
      rw [verbatim_letter other, Bool.and_eq_true, decide_eq_true_iff] at sound
      rw [List.cons_append, List.cons_append, inside_letter, sound.1, Option.bind_some, ih.mpr ⟨sound.2, after⟩]
      rfl
  | case4 c t noQuotes noLetter ends =>
    rcases ends with rfl | rfl
    · refine iff_of_false (fun read => ?_) fun sound => absurd sound.1 (by simp [verbatim])
      cases t with
      | nil => exact stops ['\''] (by simp) ['\''] more (by simp) (by simp [isMark]) read
      | cons c t =>
        have closed : ((c :: t) ++ rest).head? ≠ some '\'' := by
          intro first
          obtain rfl := Option.some.inj first
          exact noQuotes t rfl rfl
        rw [List.cons_append, inside_close closed] at read
        obtain ⟨_, -, same⟩ := Option.map_eq_some_iff.mp read
        cases (Prod.mk.inj same).1
    · cases t with
      | nil =>
        refine iff_of_false (fun read => ?_) fun sound => absurd sound.1 (by simp [verbatim, keepsBackslashes])
        exact stops ['\\'] (by simp) ['\\'] more (by simp) (by simp [isMark]) read
      | cons c t => exact (noLetter c t rfl rfl).elim
  | case5 c t _ _ ordinary ih =>
    have plain : isMark c = false := by simpa [isMark] using ordinary
    rw [verbatim_char plain, ← ih, List.cons_append, inside_char plain]
    exact @map_front_iff _ [c] _ _

/-! ### Texts with doubled quotes -/

omit [Escapes] in
@[simp] theorem doubled_quote (t : List Char) : doubled ('\'' :: t) = '\'' :: '\'' :: doubled t := by
  simp [doubled]
omit [Escapes] in
theorem doubled_char {c : Char} (other : c ≠ '\'') (t : List Char) : doubled (c :: t) = c :: doubled t := by
  simp [doubled, other]

/-- A text with doubled quotes is not read with more marks in front of it, neither from a quote before it on. -/
theorem inside_doubled_ne [OneByOne] {rest s : List Char} (stops : Stops rest s) (t : List Char) {front : List Char}
    {more : List Lexeme} (nonempty : front ≠ []) (marks : ∀ c ∈ front, isMark c = true) :
    inside (doubled t ++ rest) ≠ some (front ++ t ++ s, more) ∧
      inside ('\'' :: (doubled t ++ rest)) ≠ some (front ++ t ++ s, more) := by
  have quote : isMark '\'' = true := by decide
  have backslash : isMark '\\' = true := by decide
  have marked : ∀ {front back : List Char}, (∀ c ∈ front, isMark c = true) → (∀ c ∈ back, isMark c = true) →
      ∀ c ∈ front ++ back, isMark c = true := fun first second => List.forall_mem_append.mpr ⟨first, second⟩
  -- After a quote that does not double another the literal ends.
  have ended : ∀ {c : Char} {t front : List Char}, c ≠ '\'' → front ≠ [] →
      inside ('\'' :: (doubled (c :: t) ++ rest)) ≠ some (front ++ c :: t ++ s, more) := by
    intro c t front other nonempty read
    have closed : (doubled (c :: t) ++ rest).head? ≠ some '\'' := by
      rw [doubled_char other]
      simpa using other
    rw [inside_close closed] at read
    obtain ⟨_, -, same⟩ := Option.map_eq_some_iff.mp read
    exact absurd (Prod.mk.inj same).1 (by simp)
  fun_induction keepsBackslashes t generalizing front with
  | case1 =>
    rw [List.append_nil]
    exact ⟨stops [] (by simp) front more nonempty marks, stops ['\''] (by simp) front more nonempty marks⟩
  | case2 =>
    refine ⟨?_, ended (by decide) nonempty⟩
    exact stops ['\\'] (by simp) (front ++ ['\\']) more (by simp) (marked marks (List.forall_mem_singleton.mpr backslash))
  | case3 l t ih =>
    refine ⟨fun read => ?_, ended (by decide) nonempty⟩
    rw [doubled_char (by decide), List.append_assoc] at read
    by_cases isQuote : l = '\''
    · subst isQuote
      rw [doubled_quote] at read
      obtain ⟨others, rfl, later⟩ := letter_of_marks nonempty marks read
      have left := (List.forall_mem_cons.mp marks).2
      refine (ih (by simp) (marked left (List.forall_mem_cons.mpr ⟨backslash, List.forall_mem_singleton.mpr quote⟩))).2 ?_
      simpa using later
    · rw [doubled_char isQuote] at read
      obtain ⟨others, rfl, later⟩ := letter_of_marks nonempty marks read
      obtain ⟨mark, left⟩ := List.forall_mem_cons.mp marks
      have longer : ∀ c ∈ others ++ ['\\', l], isMark c = true :=
        marked left (List.forall_mem_cons.mpr ⟨by decide, List.forall_mem_singleton.mpr mark⟩)
      refine (ih (by simp) longer).1 ?_
      simpa using later
  | case4 c t noEnd noLetter ih =>
    by_cases isQuote : c = '\''
    · subst isQuote
      obtain ⟨d, front, rfl⟩ := List.exists_cons_of_ne_nil nonempty
      obtain ⟨-, others⟩ := List.forall_mem_cons.mp marks
      obtain ⟨first, second⟩ := @ih (front ++ ['\'']) (by simp) (marked others (List.forall_mem_singleton.mpr quote))
      constructor
      · intro read
        rw [doubled_quote, List.cons_append, List.cons_append, inside_quotes] at read
        obtain ⟨tail, same, later⟩ := exists_tail ['\''] read
        obtain ⟨-, rfl⟩ := List.cons.inj same
        exact first (by simpa using later)
      · intro read
        rw [doubled_quote, List.cons_append, List.cons_append, inside_quotes] at read
        obtain ⟨tail, same, later⟩ := exists_tail ['\''] read
        obtain ⟨-, rfl⟩ := List.cons.inj same
        exact second (by simpa using later)
    · refine ⟨fun read => ?_, ended isQuote nonempty⟩
      have unescaped : c ≠ '\\' := by
        rintro rfl
        cases t with
        | nil => exact noEnd rfl rfl
        | cons l t => exact noLetter l t rfl rfl
      have plain : isMark c = false := by simp [isMark, isQuote, unescaped]
      obtain ⟨d, front, rfl⟩ := List.exists_cons_of_ne_nil nonempty
      rw [doubled_char isQuote] at read
      obtain ⟨tail, same, -⟩ := inside_head plain read
      obtain ⟨rfl, -⟩ := List.cons.inj same
      rw [marks d List.mem_cons_self] at plain
      cases plain

/-- A text with doubled quotes is read as the text exactly when its backslashes are kept. -/
theorem decided_doubled [OneByOne] (text : List Char) : Decided (doubled text) text (keepsBackslashes text = true) Stops := by
  intro rest s more stops
  fun_induction keepsBackslashes text with
  | case1 => simp [doubled]
  | case2 =>
    refine iff_of_false (fun read => ?_) fun sound => absurd sound.1 (by simp)
    exact stops ['\\'] (by simp) ['\\'] more (by simp) (by simp [isMark]) read
  | case3 l t ih =>
    rw [doubled_char (by decide)]
    by_cases isQuote : l = '\''
    · subst isQuote
      refine iff_of_false (fun read => ?_) fun sound => ?_
      · rcases letter_of_mark (by decide) read with ⟨-, -, plain, -⟩ | ⟨same, -⟩
        · exact absurd plain (by decide)
        · exact absurd same (by decide)
      · simp [reading_quote] at sound
    · rw [doubled_char isQuote]
      constructor
      · intro read
        rcases letter_of_mark (by decide) read with ⟨known, -, -, tail, same, later⟩ | ⟨rfl, later⟩
        · obtain ⟨-, rfl⟩ := List.cons.inj same
          obtain ⟨sound, after⟩ := ih.mp later
          exact ⟨by simp [known, sound], after⟩
        · exact absurd later (@inside_doubled_ne _ _ _ _ stops t ['\\'] _ (by simp) (by simp [isMark])).1
      · rintro ⟨sound, after⟩
        rw [Bool.and_eq_true, decide_eq_true_iff] at sound
        rw [List.cons_append, List.cons_append, inside_letter, sound.1, Option.bind_some, ih.mpr ⟨sound.2, after⟩]
        rfl
  | case4 c t noEnd noLetter ih =>
    by_cases isQuote : c = '\''
    · subst isQuote
      rw [doubled_quote, ← ih, List.cons_append, List.cons_append, inside_quotes]
      exact @map_front_iff _ ['\''] _ _
    · have unescaped : c ≠ '\\' := by
        rintro rfl
        cases t with
        | nil => exact noEnd rfl rfl
        | cons l t => exact noLetter l t rfl rfl
      have plain : isMark c = false := by simp [isMark, isQuote, unescaped]
      rw [doubled_char isQuote, ← ih, List.cons_append, inside_char plain]
      exact @map_front_iff _ [c] _ _

/-! ### Escaped texts -/

/-- A letter that is kept is not the character that it is written for. -/
theorem decided_kept {c l : Char} (written : letter c = some l) (kept : reading l = some ['\\', l]) :
    Decided ['\\', l] [c] False Anything := by
  have other : '\\' ≠ c := by
    rintro rfl
    rw [letter_backslash, Option.some.injEq] at written
    subst written
    rw [reading_backslash] at kept
    exact absurd kept (by decide)
  exact @decided_differs _ _ [] _ _ _ (reads_letter kept) other [] []
/-- An escaped text is read as the text exactly when its characters are. -/
theorem decided_escape (text : List Char) : Decided (escape text) text (∀ c ∈ text, Faithful c) Anything := by
  induction text with
  | nil => exact (reads_nil.decided _).congr (by simp)
  | cons c rest ih =>
    rw [List.forall_mem_cons]
    cases written : letter c with
    | none =>
      have plain : Plain c := written
      have unmarked : isMark c = false := by simp [isMark, plain.ne_quote, plain.ne_backslash]
      rw [escape_cons_of_plain plain]
      exact (((reads_char unmarked).decided Anything).append ih fun _ _ _ => trivial).congr (by simp [plain.faithful])
    | some l =>
      rw [escape_cons_of_letter written]
      rcases reading_letter written with back | kept
      · have faithful : Faithful c := by
          intro l' written'
          rw [written, Option.some.injEq] at written'
          exact written' ▸ back
        exact (((reads_letter back).decided Anything).append ih fun _ _ _ => trivial).congr (by simp [faithful])
      · have unfaithful : ¬ Faithful c := by
          intro faithful
          rw [faithful l written, Option.some.injEq] at kept
          cases kept
        exact ((decided_kept written kept).append ih fun _ _ _ => trivial).congr (by simp [unfaithful])

/-! ### Queries of code and literals -/

/-- A text that is code wherever it stands. -/
def IsCode (text : List Char) : Prop := ∀ rest, outside (text ++ rest) = (outside rest).map (text.map .code ++ ·)
/-- A literal by its body and the value that it is meant to have, which it has under a condition. -/
structure Quoted where
  body : List Char
  value : List Char
  condition : Prop
  decided : Decided body value condition Closes

inductive Piece
  | code (text : List Char)
  | literal (quoted : Quoted)

def Piece.text : Piece → List Char
  | .code text => text
  | .literal quoted => '\'' :: (quoted.body ++ ['\''])
def Piece.lexemes : Piece → List Lexeme
  | .code text => text.map .code
  | .literal quoted => [.literal quoted.value]
def Piece.Sound : Piece → Prop
  | .code _ => True
  | .literal quoted => quoted.condition

/-- The text of a query, and the lexemes that it is meant to have. -/
def textOf (pieces : List Piece) : List Char := pieces.flatMap Piece.text
def lexemesOf (pieces : List Piece) : List Lexeme := pieces.flatMap Piece.lexemes

theorem textOf_append (front back : List Piece) : textOf (front ++ back) = textOf front ++ textOf back := List.flatMap_append
theorem lexemesOf_append (front back : List Piece) : lexemesOf (front ++ back) = lexemesOf front ++ lexemesOf back :=
  List.flatMap_append
theorem textOf_code (text : List Char) (pieces : List Piece) : textOf (.code text :: pieces) = text ++ textOf pieces := rfl
theorem lexemesOf_code (text : List Char) (pieces : List Piece) :
    lexemesOf (.code text :: pieces) = text.map .code ++ lexemesOf pieces := rfl

/-- The code is code, and no literal stands next to another. -/
def Apart : List Piece → Prop
  | [] => True
  | .code text :: pieces => IsCode text ∧ Apart pieces
  | .literal _ :: pieces => Unquoted (textOf pieces) ∧ Apart pieces

omit [Escapes] in
theorem unquoted_nil : Unquoted [] := by
  simp [Unquoted]
omit [Escapes] in
theorem unquoted_of_all {text : List Char} (all : text.all isCode = true) : Unquoted text := by
  intro c first
  have isCode := List.all_eq_true.mp all c (List.mem_of_head? first)
  by_contra mark
  rw [Bool.not_eq_false, isMark, Bool.or_eq_true, decide_eq_true_iff, decide_eq_true_iff] at mark
  rcases mark with rfl | rfl <;> exact absurd isCode (by decide)
omit [Escapes] in
theorem unquoted_code {text : List Char} (nonempty : text ≠ []) (all : text.all isCode = true) (rest : List Char) :
    Unquoted (text ++ rest) := by
  have unquoted := unquoted_of_all all
  obtain ⟨c, text, rfl⟩ := List.exists_cons_of_ne_nil nonempty
  exact unquoted
theorem isCode_nil : IsCode [] := by
  intro rest
  rw [List.nil_append]
  cases outside rest <;> rfl
theorem isCode_of_all {text : List Char} (all : text.all isCode = true) : IsCode text := by
  intro rest
  induction text with
  | nil => exact isCode_nil rest
  | cons c text ih =>
    rw [List.all_cons, Bool.and_eq_true] at all
    obtain ⟨first, others⟩ := all
    have unquoted : c ≠ '\'' := by
      rintro rfl
      exact absurd first (by decide)
    have undashed : c ≠ '-' := by
      rintro rfl
      exact absurd first (by decide)
    rw [List.cons_append, outside, if_pos first, ih others, Option.map_map]
    · rfl
    · intro same
      exact absurd same unquoted
    · intro d rest' same
      exact absurd same undashed
theorem isCode_dash {c : Char} (isWord : c.isAlphanum = true) {text : List Char} (code : IsCode (c :: text)) :
    IsCode ('-' :: c :: text) := by
  intro rest
  rw [List.cons_append, List.cons_append, outside, if_pos isWord, ← List.cons_append, code, Option.map_map]
  rfl
theorem IsCode.append {front back : List Char} (first : IsCode front) (second : IsCode back) : IsCode (front ++ back) := by
  intro rest
  rw [List.append_assoc, first, second, Option.map_map]
  congr 1
  funext lexemes
  simp

theorem Apart.append {front back : List Piece} (first : Apart front) (second : Apart back) (unquoted : Unquoted (textOf back)) :
    Apart (front ++ back) := by
  induction front with
  | nil => exact second
  | cons piece front ih =>
    cases piece with
    | code text => exact ⟨first.1, ih first.2⟩
    | literal quoted =>
      refine ⟨?_, ih first.2⟩
      exact textOf_append front back ▸ first.1.append unquoted

/-- A query has the lexemes that it is meant to have exactly when its literals have their values. -/
theorem outside_textOf_iff {pieces : List Piece} (apart : Apart pieces) :
    outside (textOf pieces) = some (lexemesOf pieces) ↔ ∀ piece ∈ pieces, piece.Sound := by
  induction pieces with
  | nil => simp [textOf, lexemesOf, outside]
  | cons piece pieces ih =>
    rw [List.forall_mem_cons]
    cases piece with
    | code text =>
      rw [← ih apart.2]
      have whole : textOf (.code text :: pieces) = text ++ textOf pieces := rfl
      have meant : lexemesOf (.code text :: pieces) = text.map .code ++ lexemesOf pieces := rfl
      rw [whole, meant, apart.1]
      cases outside (textOf pieces) <;> simp [Piece.Sound]
    | literal quoted =>
      rw [← ih apart.2]
      have whole : textOf (.literal quoted :: pieces) = '\'' :: (quoted.body ++ '\'' :: textOf pieces) := by
        simp [textOf, Piece.text]
      have meant : lexemesOf (.literal quoted :: pieces) = .literal quoted.value :: lexemesOf pieces := rfl
      have ends := quoted.decided ('\'' :: textOf pieces) [] (lexemesOf pieces) ⟨_, rfl, apart.1, rfl⟩
      rw [List.append_nil, inside_close apart.1.closed] at ends
      rw [whole, meant, outside]
      have opened : (inside (quoted.body ++ '\'' :: textOf pieces)).map (fun x => Lexeme.literal x.1 :: x.2) =
            some (.literal quoted.value :: lexemesOf pieces) ↔
          inside (quoted.body ++ '\'' :: textOf pieces) = some (quoted.value, lexemesOf pieces) := by
        cases inside (quoted.body ++ '\'' :: textOf pieces) <;> simp [Prod.ext_iff]
      rw [opened, ends]
      cases outside (textOf pieces) <;> simp [Piece.Sound]

end
end Openlit.Lexemes
