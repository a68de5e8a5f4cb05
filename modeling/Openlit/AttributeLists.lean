import Mathlib.Data.List.Infix
import Openlit.JsonParse

/-!
Attribute lists in one text, as an environment variable or a header carries
them: pairs between commas, each with its key before the first equals sign, and
percent escapes for the bytes that cannot stand for themselves. A list that is
written without escapes reads as the same list exactly if no text of it holds a
comma or what looks like an escape (`decoded_joined_iff`).
-/
namespace Openlit.AttributeLists
open Openlit.JsonParse

/-! ### Percent escapes -/

def utf8 (text : List Char) : List UInt8 := text.flatMap String.utf8EncodeChar

/-- The byte of an escape at the beginning of a text. -/
def escape : List Char → Option UInt8
  | '%' :: high :: low :: _ => do pure (UInt8.ofNat (16 * (← hexValue high) + (← hexValue low)))
  | _ => none
/-- The bytes of a text; a percent sign that begins no escape stands for itself. -/
def percentDecoded : List Char → List UInt8
  | '%' :: high :: low :: rest =>
    match escape ('%' :: high :: low :: rest) with
    | some byte => byte :: percentDecoded rest
    | none => String.utf8EncodeChar '%' ++ percentDecoded (high :: low :: rest)
  | c :: rest => String.utf8EncodeChar c ++ percentDecoded rest
  | [] => []
def hasEscape (text : List Char) : Bool := text.tails.any fun tail => (escape tail).isSome

theorem utf8_cons (c : Char) (rest : List Char) : utf8 (c :: rest) = String.utf8EncodeChar c ++ utf8 rest := rfl
theorem length_utf8_cons (c : Char) (rest : List Char) : (utf8 rest).length < (utf8 (c :: rest)).length := by
  have positive := c.utf8Size_pos
  rw [utf8_cons, List.length_append, String.length_utf8EncodeChar]
  omega
theorem hasEscape_cons (c : Char) (rest : List Char) :
    hasEscape (c :: rest) = ((escape (c :: rest)).isSome || hasEscape rest) := by
  simp [hasEscape]

/-- Bytes are only lost in decoding. -/
theorem length_percentDecoded (text : List Char) : (percentDecoded text).length ≤ (utf8 text).length := by
  fun_induction percentDecoded text with
  | case1 high low rest byte read ih =>
    have first := length_utf8_cons '%' (high :: low :: rest)
    have second := length_utf8_cons high (low :: rest)
    have third := length_utf8_cons low rest
    rw [List.length_cons]
    omega
  | case2 high low rest unread ih => simpa [utf8_cons] using ih
  | case3 c rest other ih => simpa [utf8_cons] using ih
  | case4 => simp
/-- A text decodes to itself exactly if there is no escape in it. -/
theorem percentDecoded_eq_iff (text : List Char) : percentDecoded text = utf8 text ↔ hasEscape text = false := by
  fun_induction percentDecoded text with
  | case1 high low rest byte read ih =>
    have shorter := length_percentDecoded rest
    have first := length_utf8_cons '%' (high :: low :: rest)
    have second := length_utf8_cons high (low :: rest)
    have third := length_utf8_cons low rest
    refine iff_of_false ?_ (by simp [hasEscape_cons, read])
    intro same
    have lengths := congrArg List.length same
    rw [List.length_cons] at lengths
    omega
  | case2 high low rest unread ih =>
    rw [utf8_cons, List.append_cancel_left_eq, ih, hasEscape_cons '%', unread]
    simp
  | case3 c rest other ih =>
    have unread : escape (c :: rest) = none := by
      unfold escape
      split
      · rename_i high low after same
        obtain ⟨rfl, rfl⟩ := List.cons.inj same
        exact absurd rfl (other high low after rfl)
      · rfl
    rw [utf8_cons, List.append_cancel_left_eq, ih, hasEscape_cons, unread]
    simp
  | case4 => simp [utf8, hasEscape, escape]

/-! ### Lists -/

/-- The pair of one piece; a piece without an equals sign holds none. -/
def readPair (piece : List Char) : Option (List UInt8 × List UInt8) :=
  match piece.dropWhile (· ≠ '=') with
  | _ :: value => some (percentDecoded (piece.takeWhile (· ≠ '=')), percentDecoded value)
  | [] => none
def decoded (text : List Char) : List (List UInt8 × List UInt8) := (text.splitOn ',').filterMap readPair

/-- The texts of a key and its value. -/
abbrev Pair := List Char × List Char
def written (pair : Pair) : List Char := pair.1 ++ '=' :: pair.2
def joined (pairs : List Pair) : List Char := [','].intercalate (pairs.map written)
def bytes (pair : Pair) : List UInt8 × List UInt8 := (utf8 pair.1, utf8 pair.2)

/-- A text that stands for itself between commas. -/
def Plain (text : List Char) : Prop := ',' ∉ text ∧ hasEscape text = false
instance (text : List Char) : Decidable (Plain text) := inferInstanceAs (Decidable (_ ∧ _))

theorem splitOn_joined (pairs : List Pair) (nonempty : pairs ≠ []) :
    (joined pairs).splitOn ',' = pairs.flatMap fun pair => (written pair).splitOn ',' := by
  induction pairs with
  | nil => exact absurd rfl nonempty
  | cons pair rest ih =>
    cases rest with
    | nil => simp [joined]
    | cons next rest =>
      have tail := ih (List.cons_ne_nil next rest)
      simp only [joined, List.map_cons, List.intercalate_cons_cons, List.append_assoc, List.singleton_append] at tail ⊢
      rw [List.splitOn_append_cons_self, tail]
      rfl

theorem readPair_written {key : List Char} (unequal : '=' ∉ key) (value : List Char) :
    readPair (written (key, value)) = some (percentDecoded key, percentDecoded value) := by
  have notEqual : ∀ c ∈ key, decide (c ≠ '=') = true := by
    intro c member
    exact decide_eq_true fun same => unequal (same ▸ member)
  have begun : (written (key, value)).takeWhile (· ≠ '=') = key := by
    rw [written, List.takeWhile_append_of_pos notEqual]
    simp
  have left : (written (key, value)).dropWhile (· ≠ '=') = '=' :: value := by
    rw [written, List.dropWhile_append_of_pos notEqual]
    simp
  rw [readPair, left, begun]

theorem comma_not_mem_written {key value : List Char} (unparted : ',' ∉ key) (whole : ',' ∉ value) : ',' ∉ written (key, value) := by
  simp [written, unparted, whole]
/-- What is read of a written pair begins with its key, and with its value exactly if the value is plain. -/
theorem read_written {key : List Char} (unequal : '=' ∉ key) (unparted : ',' ∉ key) (value : List Char) :
    ∃ first more, ((written (key, value)).splitOn ',').filterMap readPair = (percentDecoded key, first) :: more ∧
      (first = utf8 value ↔ Plain value) ∧ (Plain value → more = []) := by
  by_cases parted : ',' ∈ value
  · obtain ⟨before, after, rfl, whole⟩ := List.eq_append_cons_of_mem parted
    have longer : (percentDecoded before).length < (utf8 (before ++ ',' :: after)).length := by
      have fewer := length_percentDecoded before
      have comma := length_utf8_cons ',' after
      rw [utf8, List.flatMap_append, List.length_append]
      exact Nat.lt_of_le_of_lt fewer (Nat.lt_add_of_pos_right (Nat.zero_lt_of_lt comma))
    have split : written (key, before ++ ',' :: after) = written (key, before) ++ ',' :: after := by simp [written]
    refine ⟨percentDecoded before, (after.splitOn ',').filterMap readPair, ?_, iff_of_false ?_ fun plain => plain.1 parted,
      fun plain => absurd parted plain.1⟩
    · rw [split, List.splitOn_append_cons_self_of_not_mem (comma_not_mem_written unparted whole),
        List.filterMap_cons_some (readPair_written unequal before)]
    · intro same
      exact Nat.ne_of_lt longer (congrArg List.length same)
  · refine ⟨percentDecoded value, [], ?_, ?_, fun _ => rfl⟩
    · rw [List.splitOn_eq_singleton (comma_not_mem_written unparted parted),
        List.filterMap_cons_some (readPair_written unequal value), List.filterMap_nil]
    · rw [percentDecoded_eq_iff]
      simp [Plain, parted]

/-- The list is read back exactly if every value of it is plain. -/
theorem decoded_joined_iff (pairs : List Pair) (nonempty : pairs ≠ [])
    (keys : ∀ pair ∈ pairs, '=' ∉ pair.1 ∧ Plain pair.1) :
    decoded (joined pairs) = pairs.map bytes ↔ ∀ pair ∈ pairs, Plain pair.2 := by
  rw [decoded, splitOn_joined pairs nonempty, List.filterMap_flatMap]
  clear nonempty
  induction pairs with
  | nil => simp
  | cons pair rest ih =>
    rw [List.forall_mem_cons] at keys
    obtain ⟨⟨unequal, unparted, unescaped⟩, others⟩ := keys
    obtain ⟨first, more, read, plain_iff, alone⟩ := read_written unequal unparted pair.2
    rw [List.flatMap_cons, List.map_cons, List.forall_mem_cons, ← ih others, ← plain_iff]
    rw [read, List.cons_append, List.cons.injEq, bytes, (percentDecoded_eq_iff pair.1).mpr unescaped, Prod.mk.injEq]
    constructor
    · rintro ⟨⟨-, same⟩, tails⟩
      rw [alone (plain_iff.mp same), List.nil_append] at tails
      exact ⟨same, tails⟩
    · rintro ⟨same, tails⟩
      rw [alone (plain_iff.mp same), List.nil_append]
      exact ⟨⟨rfl, same⟩, tails⟩

/-! ### Texts that are joined by dots -/

theorem escape_cons_of_ne {c : Char} (other : c ≠ '%') (rest : List Char) : escape (c :: rest) = none := by
  unfold escape
  split
  · rename_i same
    exact absurd (List.cons.inj same).1 other
  · rfl
/-- A dot is no part of an escape, so that an escape does not reach over one. -/
theorem escape_append_dot (before after : List Char) : escape (before ++ '.' :: after) = escape before := by
  have dot : hexValue '.' = none := by decide
  match before with
  | [] => exact escape_cons_of_ne (by decide) after
  | c :: rest =>
    by_cases sign : c = '%'
    · subst sign
      match rest with
      | [] => cases after <;> simp [escape, dot]
      | [high] => simp [escape, dot]
      | high :: low :: rest => rfl
    · rw [List.cons_append, escape_cons_of_ne sign, escape_cons_of_ne sign]
theorem hasEscape_append_dot (before after : List Char) :
    hasEscape (before ++ '.' :: after) = (hasEscape before || hasEscape after) := by
  induction before with
  | nil => simp [hasEscape, escape]
  | cons c before ih =>
    have same := escape_append_dot (c :: before) after
    rw [List.cons_append] at same ⊢
    rw [hasEscape_cons, same, ih, hasEscape_cons, Bool.or_assoc]
theorem plain_append_dot (before after : List Char) : Plain (before ++ '.' :: after) ↔ Plain before ∧ Plain after := by
  have dot : ',' ≠ '.' := by decide
  simp only [Plain, hasEscape_append_dot, List.mem_append, List.mem_cons, dot, false_or, not_or, Bool.or_eq_false_iff]
  tauto

end Openlit.AttributeLists
