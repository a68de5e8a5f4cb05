import Mathlib.Data.List.Chain
import Mathlib.Data.List.Infix

/-!
SQL statements as PostgreSQL takes them apart: blanks and comments, which may be
nested, separate; quoted texts and those between dollar signs are taken whole. The
reader goes over a statement character by character, and what comes after a blank
does not depend on what stood before it (`step_blank`). Names, numbers and
operators are not told apart: they are the texts between two separators.
-/
namespace Openlit.SqlTokens

inductive Mark
  | single
  | double
  deriving DecidableEq, Repr
def Mark.char : Mark → Char
  | .single => '\''
  | .double => '"'
inductive Token
  | text (chars : List Char)
  | semicolon
  /-- A text in quotes, with what stands directly before it, such as the `E` of an escape string. -/
  | quoted (before : List Char) (mark : Mark) (body : List Char)
  | dollar (before tag body : List Char)
  deriving DecidableEq, Repr

def isBlank (c : Char) : Bool := c ∈ [' ', '\t', '\n', '\r', '\x0b', '\x0c']
def isName (c : Char) : Bool := c.isAlphanum || c = '_' || c = '$' || 128 ≤ c.toNat
/-- The characters of the tag of a dollar quote, which does not begin with a digit. -/
def isTag (before : List Char) (c : Char) : Bool := c ≠ '$' && isName c && !(before = [] && c.isDigit)
/-- The text before a quote makes an escape string of it. -/
def escapes (before : List Char) : Bool :=
  match before.reverse with
  | c :: earlier => (c = 'e' || c = 'E') && earlier.head?.all (!isName ·)
  | [] => false

inductive Mode
  | outside (text : List Char)
  /-- After one dash, one slash or a dollar sign. -/
  | dash (text : List Char)
  | slash (text : List Char)
  | tag (text name : List Char)
  | inside (before : List Char) (mark : Mark) (escaping : Bool) (body : List Char)
  | backslash (before : List Char) (mark : Mark) (body : List Char)
  /-- After a mark, which closes unless another one follows. -/
  | closing (before : List Char) (mark : Mark) (escaping : Bool) (body : List Char)
  | dollar (before tag body : List Char)
  | line
  | block (depth : Nat)
  | blockSlash (depth : Nat)
  | blockStar (depth : Nat)
  deriving DecidableEq, Repr

/-- The reader: its mode and the tokens so far. -/
structure Reader where
  mode : Mode
  tokens : List Token
  deriving DecidableEq, Repr

def Reader.start : Reader := { mode := .outside [], tokens := [] }
def ended (tokens : List Token) (text : List Char) : List Token := if text = [] then tokens else tokens ++ [.text text]
/-- A character outside of quotes and comments, after a text. -/
def outside (tokens : List Token) (text : List Char) (c : Char) : Reader :=
  if isBlank c then { mode := .outside [], tokens := ended tokens text }
  else if c = ';' then { mode := .outside [], tokens := ended tokens text ++ [.semicolon] }
  else if c = '\'' then { mode := .inside text .single (escapes text) [], tokens }
  else if c = '"' then { mode := .inside text .double false [], tokens }
  else if c = '-' then { mode := .dash text, tokens }
  else if c = '/' then { mode := .slash text, tokens }
  else if c = '$' && !text.getLast?.any isName then { mode := .tag text [], tokens }
  else { mode := .outside (text ++ [c]), tokens }
def step (r : Reader) (c : Char) : Reader :=
  match r.mode with
  | .outside text => outside r.tokens text c
  | .dash text => if c = '-' then { mode := .line, tokens := ended r.tokens text } else outside r.tokens (text ++ ['-']) c
  | .slash text => if c = '*' then { mode := .block 0, tokens := ended r.tokens text } else outside r.tokens (text ++ ['/']) c
  | .tag text name =>
    if c = '$' then { r with mode := .dollar text name [] }
    else if isTag name c then { r with mode := .tag text (name ++ [c]) }
    else outside r.tokens (text ++ '$' :: name) c
  | .inside before mark escaping body =>
    if c = mark.char then { r with mode := .closing before mark escaping body }
    else if escaping && c = '\\' then { r with mode := .backslash before mark body }
    else { r with mode := .inside before mark escaping (body ++ [c]) }
  | .backslash before mark body => { r with mode := .inside before mark true (body ++ ['\\', c]) }
  | .closing before mark escaping body =>
    if c = mark.char then { r with mode := .inside before mark escaping (body ++ [c, c]) }
    else outside (r.tokens ++ [.quoted before mark body]) [] c
  | .dollar before tag body =>
    let delimiter := '$' :: tag ++ ['$']
    let body := body ++ [c]
    if delimiter.isSuffixOf body then
      { mode := .outside [], tokens := r.tokens ++ [.dollar before tag (body.take (body.length - delimiter.length))] }
    else { r with mode := .dollar before tag body }
  | .line => if c = '\n' || c = '\r' then { r with mode := .outside [] } else r
  | .block depth =>
    if c = '/' then { r with mode := .blockSlash depth } else if c = '*' then { r with mode := .blockStar depth } else r
  | .blockSlash depth =>
    if c = '*' then { r with mode := .block (depth + 1) } else if c = '/' then r else { r with mode := .block depth }
  | .blockStar depth =>
    if c = '/' then
      match depth with
      | 0 => { r with mode := .outside [] }
      | outer + 1 => { r with mode := .block outer }
    else if c = '*' then r
    else { r with mode := .block depth }
def read (r : Reader) (text : List Char) : Reader := text.foldl step r
/-- The tokens of a statement that may end here. -/
def finish (r : Reader) : Option (List Token) :=
  match r.mode with
  | .outside text => some (ended r.tokens text)
  | .dash text => some (ended r.tokens (text ++ ['-']))
  | .slash text => some (ended r.tokens (text ++ ['/']))
  | .tag text name => some (ended r.tokens (text ++ '$' :: name))
  | .closing before mark _ body => some (r.tokens ++ [.quoted before mark body])
  | .line => some r.tokens
  | _ => none
def tokens (text : List Char) : Option (List Token) := finish (read .start text)

@[simp] theorem read_nil (r : Reader) : read r [] = r := rfl
@[simp] theorem read_cons (r : Reader) (c : Char) (text : List Char) : read r (c :: text) = read (step r c) text := rfl
theorem read_append (r : Reader) (front back : List Char) : read r (front ++ back) = read (read r front) back := List.foldl_append ..

example : tokens "SELECT 'a;' /* b /* c */ */ -- d".toList = some [.text "SELECT".toList, .quoted [] .single "a;".toList] := by decide

theorem ended_frame (before more : List Token) (text : List Char) : ended (before ++ more) text = before ++ ended more text := by
  unfold ended
  split
  · rfl
  · rw [List.append_assoc]
theorem outside_frame (before more : List Token) (text : List Char) (c : Char) :
    outside (before ++ more) text c = { mode := (outside more text c).mode, tokens := before ++ (outside more text c).tokens } := by
  unfold outside
  simp only [ended_frame, List.append_assoc]
  split_ifs <;> rfl
/-- The tokens that have been read before play no part. -/
theorem step_frame (mode : Mode) (before more : List Token) (c : Char) :
    step { mode, tokens := before ++ more } c =
      { mode := (step { mode, tokens := more } c).mode, tokens := before ++ (step { mode, tokens := more } c).tokens } := by
  cases mode with
  | outside text => exact outside_frame before more text c
  | dash text =>
    simp only [step, ended_frame]
    split
    · rfl
    · exact outside_frame before more _ c
  | slash text =>
    simp only [step, ended_frame]
    split
    · rfl
    · exact outside_frame before more _ c
  | tag text name =>
    simp only [step]
    split
    · rfl
    · split
      · rfl
      · exact outside_frame before more _ c
  | inside text mark escaping body =>
    simp only [step]
    split_ifs <;> rfl
  | backslash => rfl
  | closing text mark escaping body =>
    simp only [step, List.append_assoc]
    split
    · rfl
    · exact outside_frame before (more ++ _) _ c
  | dollar text tag body =>
    simp only [step, List.append_assoc]
    split_ifs <;> rfl
  | line | block | blockSlash =>
    simp only [step]
    split_ifs <;> rfl
  | blockStar depth =>
    simp only [step]
    split
    · cases depth <;> rfl
    · split <;> rfl
theorem read_frame (r : Reader) (before : List Token) (text : List Char) :
    read { r with tokens := before ++ r.tokens } text =
      { mode := (read r text).mode, tokens := before ++ (read r text).tokens } := by
  induction text generalizing r with
  | nil => rfl
  | cons c text ih =>
    rw [read_cons, step_frame, read_cons]
    exact ih (step r c)

/-! ### The end of a statement -/

/-- After a blank the reader is outside, or it still is in the comment at the end of a line. -/
theorem step_blank {r : Reader} {found : List Token} (ends : finish r = some found) :
    step r ' ' = { mode := .outside [], tokens := found } ∨ r = { mode := .line, tokens := found } ∧ step r ' ' = r := by
  obtain ⟨mode, before⟩ := r
  cases mode with
  | line =>
    cases ends
    exact .inr ⟨rfl, rfl⟩
  | outside text | dash text | slash text | tag text name =>
    cases ends
    exact .inl rfl
  | closing text mark escaping body =>
    cases ends
    cases mark <;> exact .inl rfl
  | inside | backslash | dollar | block | blockSlash | blockStar => cases ends

/-- Two characters next to each other that neither begin nor end a comment. -/
def Apart (a b : Char) : Prop := ¬(a = '/' ∧ b = '*') ∧ ¬(a = '*' ∧ b = '/')
instance (a b : Char) : Decidable (Apart a b) := inferInstanceAs (Decidable (_ ∧ _))
/-- The mode inside a comment after a character. -/
def after (c : Char) : Mode := if c = '/' then .blockSlash 0 else if c = '*' then .blockStar 0 else .block 0

theorem step_block {found : List Token} {a b : Char} (apart : Apart a b) :
    step { mode := after a, tokens := found } b = { mode := after b, tokens := found } := by
  obtain ⟨opens, closes⟩ := apart
  unfold after
  by_cases slash : a = '/'
  · have notStar : b ≠ '*' := fun star => opens ⟨slash, star⟩
    simp only [slash, if_true, step, notStar, if_false]
    split <;> rfl
  · by_cases star : a = '*'
    · have notSlash : b ≠ '/' := fun slash => closes ⟨star, slash⟩
      subst star
      simp only [if_neg slash, if_true, step, notSlash, if_false]
      split <;> rfl
    · simp only [if_neg slash, if_neg star, step]
      split <;> (try split) <;> rfl
theorem read_block {found : List Token} {a b : Char} {body : List Char} (apart : (a :: body ++ [b]).IsChain Apart) :
    read { mode := after a, tokens := found } (body ++ [b]) = { mode := after b, tokens := found } := by
  induction body generalizing a with
  | nil =>
    obtain ⟨only, -⟩ := List.isChain_cons_cons.mp apart
    exact step_block only
  | cons c body ih =>
    obtain ⟨first, rest⟩ := List.isChain_cons_cons.mp apart
    rw [List.cons_append, read_cons, step_block first, ih rest]

/-- The body of a comment that ends where it is meant to. -/
def Closed (body : List Char) : Prop := ('\'' :: body ++ ['*']).IsChain Apart
def comment (body : List Char) : List Char := '/' :: '*' :: body ++ ['*', '/']
def OneLine (text : List Char) : Prop := ∀ c ∈ text, c ≠ '\n' ∧ c ≠ '\r'

/-- A comment leaves the reader where it is. -/
theorem read_comment {found : List Token} {body : List Char} (closed : Closed body) :
    read { mode := .outside [], tokens := found } (comment body) = { mode := .outside [], tokens := found } := by
  have opened : read { mode := .outside [], tokens := found } ['/', '*'] = { mode := after '\'', tokens := found } := rfl
  have split : comment body = ['/', '*'] ++ ((body ++ ['*']) ++ ['/']) := by simp [comment]
  rw [split, read_append, opened, read_append, read_block closed]
  rfl
theorem read_line {found : List Token} {text : List Char} (oneLine : OneLine text) :
    read { mode := .line, tokens := found } text = { mode := .line, tokens := found } := by
  induction text with
  | nil => rfl
  | cons c text ih =>
    obtain ⟨notNewline, notReturn⟩ := oneLine c (by simp)
    have stays : step { mode := .line, tokens := found } c = { mode := .line, tokens := found } := by
      simp [step, notNewline, notReturn]
    rw [read_cons, stays]
    exact ih fun d member => oneLine d (List.mem_cons_of_mem c member)
theorem oneLine_comment {body : List Char} (oneLine : OneLine body) : OneLine (comment body) := by
  intro c member
  simp only [comment, List.cons_append, List.mem_cons, List.mem_append, List.not_mem_nil, or_false] at member
  rcases member with rfl | rfl | inside | rfl | rfl
  · decide
  · decide
  · exact oneLine c inside
  · decide
  · decide

/-- A comment after a blank adds no token to a statement. -/
theorem finish_comment {r : Reader} {found : List Token} (ends : finish r = some found) {body : List Char} (closed : Closed body)
    (oneLine : OneLine body) : finish (read r (' ' :: comment body)) = some found := by
  rw [read_cons]
  rcases step_blank ends with blank | ⟨line, stays⟩
  · rw [blank, read_comment closed]
    rfl
  · rw [stays, line, read_line (oneLine_comment oneLine)]
    rfl
/-- After a semicolon the reader is outside, or it still is in the comment at the end of a line. -/
theorem step_semicolon {r : Reader} {found : List Token} (ends : finish r = some found) :
    step r ';' = { mode := .outside [], tokens := found ++ [.semicolon] } ∨
      r = { mode := .line, tokens := found } ∧ step r ';' = r := by
  obtain ⟨mode, before⟩ := r
  cases mode with
  | line =>
    cases ends
    exact .inr ⟨rfl, rfl⟩
  | outside text | dash text | slash text | tag text name =>
    cases ends
    exact .inl rfl
  | closing text mark escaping body =>
    cases ends
    cases mark <;> exact .inl rfl
  | inside | backslash | dollar | block | blockSlash | blockStar => cases ends

/-- The characters that mean something inside of quotes or comments. -/
def isCloser (c : Char) : Bool := c ∈ ['\'', '"', '$', '/', '*']
/-- A statement that cannot end here cannot end after any other character either. -/
theorem step_open {r : Reader} (never : finish r = none) {c : Char} (other : isCloser c = false) : finish (step r c) = none := by
  obtain ⟨notSingle, notDouble, notDollar, notSlash, notStar⟩ :
      c ≠ '\'' ∧ c ≠ '"' ∧ c ≠ '$' ∧ c ≠ '/' ∧ c ≠ '*' := by
    simpa [isCloser] using other
  obtain ⟨mode, before⟩ := r
  cases mode with
  | outside | dash | slash | tag | closing | line => cases never
  | inside text mark escaping body =>
    have open_ : c ≠ mark.char := by
      cases mark
      · exact notSingle
      · exact notDouble
    simp only [step, if_neg open_]
    split <;> rfl
  | backslash => rfl
  | dollar text tag body =>
    have open_ : ¬ ('$' :: tag ++ ['$']).isSuffixOf (body ++ [c]) = true := by
      rw [List.isSuffixOf_iff_suffix]
      rintro ⟨front, same⟩
      rw [← List.append_assoc] at same
      have last := (List.append_inj' same rfl).2
      exact notDollar (List.cons.inj last).1.symm
    simp only [step, if_neg open_]
    rfl
  | block depth | blockSlash depth | blockStar depth =>
    simp only [step, notSlash, notStar, if_false]
    rfl
theorem read_open {r : Reader} (never : finish r = none) {text : List Char} (other : ∀ c ∈ text, isCloser c = false) :
    finish (read r text) = none := by
  induction text generalizing r with
  | nil => exact never
  | cons c text ih =>
    rw [read_cons]
    exact ih (step_open never (other c (by simp))) fun d member => other d (List.mem_cons_of_mem c member)
theorem isCloser_of_blank {c : Char} (blank : isBlank c = true) : isCloser c = false := by
  simp only [isBlank, List.mem_cons, List.not_mem_nil, or_false, decide_eq_true_eq] at blank
  rcases blank with rfl | rfl | rfl | rfl | rfl | rfl <;> decide

/-- Blanks after a semicolon. -/
theorem finish_blanks {r : Reader} (after : r.mode = .outside [] ∨ r.mode = .line) {text : List Char}
    (blank : ∀ c ∈ text, isBlank c = true) : finish (read r text) = finish r := by
  induction text generalizing r with
  | nil => rfl
  | cons c text ih =>
    have first := blank c (by simp)
    have later : ∀ d ∈ text, isBlank d = true := fun d member => blank d (List.mem_cons_of_mem c member)
    obtain ⟨mode, before⟩ := r
    rw [read_cons]
    rcases after with rfl | rfl
    · have stays : step { mode := .outside [], tokens := before } c = { mode := .outside [], tokens := before } := by
        simp [step, outside, first, ended]
      rw [stays]
      exact ih (.inl rfl) later
    · by_cases newline : (c = '\n' || c = '\r') = true
      · have leaves : step { mode := .line, tokens := before } c = { mode := .outside [], tokens := before } := by
          simp only [step, newline, if_true]
        rw [leaves, ih (.inl rfl) later]
        rfl
      · have stays : step { mode := .line, tokens := before } c = { mode := .line, tokens := before } := by
          simp only [step, if_neg newline]
        rw [stays]
        exact ih (.inr rfl) later

/-- A comment before the semicolon at the end adds no token. -/
theorem finish_comment_semicolon {r : Reader} {found : List Token} {blanks : List Char}
    (ends : finish (read r (';' :: blanks)) = some found) (blank : ∀ c ∈ blanks, isBlank c = true) {body : List Char}
    (closed : Closed body) (oneLine : OneLine body) : finish (read r (' ' :: comment body ++ [';'])) = some found := by
  cases inner : finish r with
  | none =>
    have never : finish (read r (';' :: blanks)) = none := by
      refine read_open inner fun c member => ?_
      rcases List.mem_cons.mp member with rfl | later
      · decide
      · exact isCloser_of_blank (blank c later)
    rw [never] at ends
    cases ends
  | some before =>
    rw [read_cons] at ends
    rw [List.cons_append, read_cons, read_append]
    rcases step_semicolon inner with outside | ⟨line, stays⟩
    · rw [outside, finish_blanks (.inl rfl) blank] at ends
      rcases step_blank inner with blanked | ⟨line, -⟩
      · rw [blanked, read_comment closed]
        exact ends
      · rw [line] at outside
        cases outside
    · subst line
      rw [stays, finish_blanks (.inr rfl) blank] at ends
      have blanked : step { mode := .line, tokens := before } ' ' = { mode := .line, tokens := before } := rfl
      rw [blanked, read_line (oneLine_comment oneLine)]
      exact ends

end Openlit.SqlTokens
