import Mathlib.Tactic.Common

/-!
Text between double quotes in a POSIX shell. Escapes, parameters and simple
commands are expanded. What else a dollar sign begins, and what a quote or a
backquote in the text does, is left open.
-/
namespace Openlit.DoubleQuotes

/-- The values of parameters, and the output of commands without its last newlines. `other` is
    what is written for a text that is not expanded here, if anything is. -/
class Shell where
  parameter : List Char → List Char
  command : List Char → List Char
  other : List Char → Option (List Char)

/-- The characters that are not kept as they are. -/
def special : List Char := ['$', '\x60', '"', '\\']
def isNameStart (c : Char) : Bool := c.isAlpha || c == '_'
def isNameChar (c : Char) : Bool := c.isAlphanum || c == '_'
/-- The characters of a command that is a list of words. -/
def isCommandChar (c : Char) : Bool := isNameChar c || c ∈ [' ', '-', '/', '.']

/-- What follows a backslash: an escaped character, the end of a line that is continued, or any other. -/
def escaped : List Char → Option (List Char × List Char)
  | [] => none
  | c :: rest =>
    if c ∈ special then some ([c], rest)
    else if c = '\n' then some ([], rest)
    else some (['\\', c], rest)

section
variable [Shell]

/-- What follows a dollar sign. -/
def substituted : List Char → Option (List Char × List Char)
  | [] => none
  | c :: rest =>
    if c = '(' then
      match rest.dropWhile isCommandChar with
      | [] => none
      | close :: after => if close = ')' then some (Shell.command (rest.takeWhile isCommandChar), after) else none
    else if isNameStart c then some (Shell.parameter (c :: rest.takeWhile isNameChar), rest.dropWhile isNameChar)
    else none
/-- What the beginning of a text stands for, and the text after it. -/
def piece : List Char → Option (List Char × List Char)
  | [] => none
  | c :: rest =>
    if c = '\\' then escaped rest
    else if c = '$' then substituted rest
    else if c ∈ special then none
    else some ([c], rest)
def expandFrom : Nat → List Char → Option (List Char)
  | _, [] => some []
  | 0, _ :: _ => none
  | fuel + 1, c :: rest => (piece (c :: rest)).bind fun found => (expandFrom fuel found.2).map (found.1 ++ ·)
/-- What a text between double quotes stands for. -/
def expand (text : List Char) : Option (List Char) := expandFrom text.length text
/-- What `echo` with the text as its operand writes. -/
def echo (text : List Char) : Option (List Char) :=
  match expand text with
  | some written => some (written ++ ['\n'])
  | none => Shell.other text

/-! ### Lines -/

omit [Shell] in
theorem takeWhile_newline {p : Char → Bool} (stops : p '\n' = false) (a b : List Char) :
    (a ++ '\n' :: b).takeWhile p = a.takeWhile p ∧ (a ++ '\n' :: b).dropWhile p = a.dropWhile p ++ '\n' :: b := by
  induction a with
  | nil => simp [stops]
  | cons c a ih => by_cases holds : p c = true <;> simp [holds, ih]

/-- A piece does not reach past the end of its line. -/
theorem piece_newline {text out rest : List Char} (found : piece text = some (out, rest)) (more : List Char) :
    piece (text ++ '\n' :: more) = some (out, rest ++ '\n' :: more) := by
  have names (a : List Char) := takeWhile_newline (p := isNameChar) (by decide) a more
  have commands (a : List Char) := takeWhile_newline (p := isCommandChar) (by decide) a more
  cases text with
  | nil => simp [piece] at found
  | cons c text =>
    simp only [piece, List.cons_append] at found ⊢
    by_cases backslash : c = '\\'
    · rw [if_pos backslash] at found ⊢
      cases text with
      | nil => simp [escaped] at found
      | cons d text =>
        simp only [escaped, List.cons_append] at found ⊢
        by_cases known : d ∈ special
        · rw [if_pos known] at found ⊢
          cases found
          rfl
        · rw [if_neg known] at found ⊢
          by_cases newline : d = '\n' <;> simp only [newline, if_true, if_false] at found ⊢ <;> cases found <;> rfl
    · rw [if_neg backslash] at found ⊢
      by_cases dollar : c = '$'
      · rw [if_pos dollar] at found ⊢
        cases text with
        | nil => simp [substituted] at found
        | cons d text =>
          simp only [substituted, List.cons_append, names, commands] at found ⊢
          by_cases command : d = '('
          · rw [if_pos command] at found ⊢
            cases after : text.dropWhile isCommandChar with
            | nil => simp [after] at found
            | cons close after' =>
              simp only [after, List.cons_append] at found ⊢
              by_cases closes : close = ')'
              · rw [if_pos closes] at found ⊢
                cases found
                rfl
              · simp [closes] at found
          · rw [if_neg command] at found ⊢
            by_cases name : isNameStart d = true
            · rw [if_pos name] at found ⊢
              cases found
              rfl
            · simp [name] at found
      · rw [if_neg dollar] at found ⊢
        by_cases known : c ∈ special
        · simp [known] at found
        · rw [if_neg known] at found ⊢
          cases found
          rfl

theorem expandFrom_mono {fuel : Nat} {text out : List Char} (expanded : expandFrom fuel text = some out) (more : Nat) :
    expandFrom (fuel + more) text = some out := by
  induction fuel generalizing text out with
  | zero =>
    cases text with
    | nil => simpa [expandFrom] using expanded
    | cons c rest => simp [expandFrom] at expanded
  | succ fuel ih =>
    cases text with
    | nil => simpa [expandFrom] using expanded
    | cons c rest =>
      rw [expandFrom] at expanded
      obtain ⟨found, isFound, mapped⟩ := Option.bind_eq_some_iff.mp expanded
      obtain ⟨after, expands, rfl⟩ := Option.map_eq_some_iff.mp mapped
      rw [Nat.add_right_comm, expandFrom, isFound, Option.bind_some, ih expands, Option.map_some]

theorem expandFrom_newline {fuel n : Nat} {text out more written : List Char} (expanded : expandFrom fuel text = some out)
    (after : expandFrom n ('\n' :: more) = some written) :
    expandFrom (fuel + n) (text ++ '\n' :: more) = some (out ++ written) := by
  induction fuel generalizing text out with
  | zero =>
    cases text with
    | nil =>
      obtain rfl : out = [] := by simpa [expandFrom] using expanded.symm
      simpa using after
    | cons c rest => simp [expandFrom] at expanded
  | succ fuel ih =>
    cases text with
    | nil =>
      obtain rfl : out = [] := by simpa [expandFrom] using expanded.symm
      rw [Nat.add_comm]
      exact expandFrom_mono after _
    | cons c rest =>
      rw [expandFrom] at expanded
      obtain ⟨found, isFound, mapped⟩ := Option.bind_eq_some_iff.mp expanded
      obtain ⟨tail, expands, rfl⟩ := Option.map_eq_some_iff.mp mapped
      have longer := piece_newline isFound more
      rw [List.cons_append] at longer ⊢
      rw [Nat.add_right_comm, expandFrom, longer, Option.bind_some, ih expands, Option.map_some, List.append_assoc]

/-- Lines are expanded one by one. -/
theorem expand_newline {line out more written : List Char} (expanded : expand line = some out) (after : expand more = some written) :
    expand (line ++ '\n' :: more) = some (out ++ '\n' :: written) := by
  have next : expandFrom (more.length + 1) ('\n' :: more) = some ('\n' :: written) := by
    rw [expandFrom, piece, if_neg (by decide), if_neg (by decide), if_neg (by decide), Option.bind_some,
      show expandFrom more.length more = some written from after]
    rfl
  have all := expandFrom_newline expanded next
  rwa [show line.length + (more.length + 1) = (line ++ '\n' :: more).length by simp] at all
theorem expand_joined {lines written : List (List Char)}
    (expanded : List.Forall₂ (fun line out => expand line = some out) lines written) :
    expand (['\n'].intercalate lines) = some (['\n'].intercalate written) := by
  induction expanded with
  | nil => rfl
  | cons first rest ih =>
    cases rest with
    | nil => simpa using first
    | cons second rest =>
      simp only [List.intercalate_cons_cons, List.append_assoc, List.singleton_append] at ih ⊢
      exact expand_newline first ih

/-! ### Plain text -/

/-- A text without special characters stands for itself. -/
def Plain (text : List Char) : Prop := ∀ c ∈ text, c ∉ special

theorem expandFrom_plain {text : List Char} (plain : Plain text) (fuel : Nat) (more : List Char) :
    expandFrom (text.length + fuel) (text ++ more) = (expandFrom fuel more).map (text ++ ·) := by
  induction text with
  | nil => simp
  | cons c text ih =>
    have ordinary := plain c (by simp)
    have others : c ≠ '\\' ∧ c ≠ '$' := by
      constructor
      · rintro rfl
        simp [special] at ordinary
      · rintro rfl
        simp [special] at ordinary
    have rest := ih fun d member => plain d (List.mem_cons_of_mem c member)
    rw [List.length_cons, Nat.add_right_comm, List.cons_append, expandFrom, piece, if_neg others.1, if_neg others.2, if_neg ordinary,
      Option.bind_some, rest, Option.map_map]
    rfl
theorem expand_plain {text : List Char} (plain : Plain text) : expand text = some text := by
  have all := expandFrom_plain plain 0 []
  simpa [expand, expandFrom] using all
/-- A command between plain texts is replaced by its output. -/
theorem expand_command {before words after : List Char} (plainBefore : Plain before) (simple : ∀ c ∈ words, isCommandChar c = true)
    (plainAfter : Plain after) :
    expand (before ++ ('$' :: '(' :: (words ++ ')' :: after))) = some (before ++ (Shell.command words ++ after)) := by
  have taken : (words ++ ')' :: after).takeWhile isCommandChar = words := by
    rw [List.takeWhile_append_of_pos simple]
    simp [show isCommandChar ')' = false by decide]
  have dropped : (words ++ ')' :: after).dropWhile isCommandChar = ')' :: after := by
    rw [List.dropWhile_append_of_pos simple]
    simp [show isCommandChar ')' = false by decide]
  have first : piece ('$' :: '(' :: (words ++ ')' :: after)) = some (Shell.command words, after) := by
    rw [piece, if_neg (by decide), if_pos rfl, substituted, if_pos rfl, taken, dropped]
    rfl
  have last : expandFrom (words.length + 2 + after.length) after = some after := by
    rw [Nat.add_comm]
    exact expandFrom_mono (expand_plain plainAfter) _
  rw [expand, show (before ++ ('$' :: '(' :: (words ++ ')' :: after))).length = before.length + (words.length + 2 + after.length + 1) by
    simp; omega, expandFrom_plain plainBefore, expandFrom, first, Option.bind_some, last]
  rfl

end

end Openlit.DoubleQuotes
