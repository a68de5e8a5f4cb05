import Mathlib.Algebra.GroupWithZero.Nat
import Mathlib.Data.List.Infix
import Mathlib.Data.List.Basic
import Mathlib.Data.List.Find

/-!
The replacement of a pattern in a text, and texts with holes that are filled at once. A text is read as pieces: single letters
and the patterns of keys. Where no pattern overlaps another, replacing one key after the other fills the holes, unless values
and what stands beside them make a pattern that no hole has written.
-/
namespace Openlit.Substitutions

variable {α κ : Type} [DecidableEq α]

/-! ### Replacing one pattern -/

/-- A text with a value in place of every occurrence of a pattern, after some more letters of an occurrence. -/
def replace (pattern value : List α) : Nat → List α → List α
  | _, [] => []
  | skip + 1, _ :: rest => replace pattern value skip rest
  | 0, c :: rest =>
    if pattern <+: c :: rest then value ++ replace pattern value (pattern.length - 1) rest else c :: replace pattern value 0 rest
/-- How many occurrences are replaced. -/
def occurrences (pattern : List α) : Nat → List α → Nat
  | _, [] => 0
  | skip + 1, _ :: rest => occurrences pattern skip rest
  | 0, c :: rest => if pattern <+: c :: rest then occurrences pattern (pattern.length - 1) rest + 1 else occurrences pattern 0 rest

/-- No part of `p` from one of its letters on begins as `q` does. Of a pattern and itself, the whole is left out. -/
def Apart (p q : List α) : Prop := ∀ n < p.length, (n = 0 → p ≠ q) → ¬ p.drop n <+: q ∧ ¬ q <+: p.drop n

theorem replace_skip (pattern value : List α) (skip : Nat) (text : List α) :
    replace pattern value skip text = replace pattern value 0 (text.drop skip) := by
  induction text generalizing skip with
  | nil => rw [List.drop_nil, replace.eq_def, replace.eq_def]
  | cons c rest ih =>
    cases skip with
    | zero => rfl
    | succ skip => rw [replace, ih, List.drop_succ_cons]
theorem occurrences_skip (pattern : List α) (skip : Nat) (text : List α) :
    occurrences pattern skip text = occurrences pattern 0 (text.drop skip) := by
  induction text generalizing skip with
  | nil => rw [List.drop_nil, occurrences.eq_def, occurrences.eq_def]
  | cons c rest ih =>
    cases skip with
    | zero => rfl
    | succ skip => rw [occurrences, ih, List.drop_succ_cons]

theorem replace_found {p value text : List α} (nonempty : p ≠ []) (found : p <+: text) :
    replace p value 0 text = value ++ replace p value 0 (text.drop p.length) := by
  obtain ⟨c, p, rfl⟩ := List.exists_cons_of_ne_nil nonempty
  obtain ⟨rest, rfl⟩ := found
  have found : c :: p <+: c :: (p ++ rest) := List.prefix_append (c :: p) rest
  rw [List.cons_append, replace, if_pos found, replace_skip, List.length_cons, Nat.add_sub_cancel,
    List.drop_succ_cons]
theorem replace_absent {p value rest : List α} {c : α} (absent : ¬ p <+: c :: rest) :
    replace p value 0 (c :: rest) = c :: replace p value 0 rest := by rw [replace, if_neg absent]
theorem occurrences_found {p text : List α} (nonempty : p ≠ []) (found : p <+: text) :
    occurrences p 0 text = occurrences p 0 (text.drop p.length) + 1 := by
  obtain ⟨c, p, rfl⟩ := List.exists_cons_of_ne_nil nonempty
  obtain ⟨rest, rfl⟩ := found
  have found : c :: p <+: c :: (p ++ rest) := List.prefix_append (c :: p) rest
  rw [List.cons_append, occurrences, if_pos found, occurrences_skip, List.length_cons,
    Nat.add_sub_cancel, List.drop_succ_cons]
theorem occurrences_absent {p rest : List α} {c : α} (absent : ¬ p <+: c :: rest) :
    occurrences p 0 (c :: rest) = occurrences p 0 rest := by rw [occurrences, if_neg absent]

omit [DecidableEq α] in
/-- An occurrence that begins before a pattern does not reach into it. -/
theorem prefix_of_apart {p q front back : List α} (apart : Apart p q) (some_ : front ≠ []) (found : p <+: front ++ (q ++ back)) :
    p <+: front := by
  rcases List.prefix_or_prefix_of_prefix found (List.prefix_append front (q ++ back)) with inside | ⟨rest, rfl⟩
  · exact inside
  · have rest_prefix : rest <+: q ++ back := (List.prefix_append_right_inj front).mp found
    cases rest with
    | nil => rw [List.append_nil]
    | cons c rest =>
      have long := List.length_pos_iff.mpr some_
      have next := apart front.length (by rw [List.length_append, List.length_cons]; omega) (fun none => by omega)
      rw [List.drop_left] at next
      exact absurd (List.prefix_or_prefix_of_prefix rest_prefix (List.prefix_append q back)) (by simpa using next)

section
variable {p : List α} (own : Apart p p) (nonempty : p ≠ [])
include own nonempty

theorem replace_append (value front back : List α) :
    replace p value 0 (front ++ (p ++ back)) = replace p value 0 front ++ (value ++ replace p value 0 back) := by
  induction length : front.length using Nat.strong_induction_on generalizing front with
  | _ n ih =>
    cases front with
    | nil =>
      rw [List.nil_append, replace_found nonempty (List.prefix_append p back), List.drop_left]
      rfl
    | cons c front =>
      by_cases found : p <+: c :: front
      · have later := found.trans (List.prefix_append (c :: front) (p ++ back))
        have long := List.length_pos_iff.mpr nonempty
        rw [replace_found nonempty later, replace_found nonempty found, List.drop_append_of_le_length found.length_le,
          ih _ _ _ rfl, List.append_assoc]
        rw [← length, List.length_drop, List.length_cons]
        omega
      · have absent : ¬ p <+: c :: (front ++ (p ++ back)) := fun later =>
          found (prefix_of_apart own (List.cons_ne_nil c front) later)
        rw [List.cons_append, replace_absent absent, replace_absent found,
          ih front.length (by rw [← length]; exact Nat.lt_succ_self _) _ rfl]
        rfl
theorem occurrences_append (front back : List α) :
    occurrences p 0 (front ++ (p ++ back)) = occurrences p 0 front + (occurrences p 0 back + 1) := by
  induction length : front.length using Nat.strong_induction_on generalizing front with
  | _ n ih =>
    cases front with
    | nil =>
      rw [List.nil_append, occurrences_found nonempty (List.prefix_append p back), List.drop_left, occurrences, Nat.zero_add]
    | cons c front =>
      by_cases found : p <+: c :: front
      · have later := found.trans (List.prefix_append (c :: front) (p ++ back))
        have long := List.length_pos_iff.mpr nonempty
        rw [occurrences_found nonempty later, occurrences_found nonempty found, List.drop_append_of_le_length found.length_le,
          ih _ _ _ rfl]
        · omega
        · rw [← length, List.length_drop, List.length_cons]
          omega
      · have absent : ¬ p <+: c :: (front ++ (p ++ back)) := fun later =>
          found (prefix_of_apart own (List.cons_ne_nil c front) later)
        rw [List.cons_append, occurrences_absent absent, occurrences_absent found,
          ih front.length (by rw [← length]; exact Nat.lt_succ_self _) _ rfl]
end

theorem replace_none {p value text : List α} (none : occurrences p 0 text = 0) : replace p value 0 text = text := by
  induction text with
  | nil => rfl
  | cons c rest ih =>
    rw [occurrences] at none
    rw [replace]
    split at none
    · cases none
    · rename_i absent
      rw [if_neg absent, ih none]

theorem occurrences_eq_zero {p text : List α} (nonempty : p ≠ []) : occurrences p 0 text = 0 ↔ ¬ p <:+: text := by
  induction text with
  | nil => simpa [occurrences] using nonempty
  | cons c rest ih =>
    by_cases found : p <+: c :: rest
    · rw [occurrences_found nonempty found]
      exact iff_of_false (Nat.succ_ne_zero _) fun absent => absent found.isInfix
    · rw [occurrences_absent found, ih, List.infix_cons_iff]
      exact not_congr (by simp [found])

/-- What the letters of a text weigh, with every replaced pattern and every value that was put in its place. -/
theorem replace_weight {p : List α} (nonempty : p ≠ []) (weight : α → Nat) (value text : List α) :
    ((replace p value 0 text).map weight).sum + occurrences p 0 text * (p.map weight).sum =
      (text.map weight).sum + occurrences p 0 text * (value.map weight).sum := by
  induction length : text.length using Nat.strong_induction_on generalizing text with
  | _ n ih =>
    cases text with
    | nil => simp [replace, occurrences]
    | cons c rest =>
      by_cases found : p <+: c :: rest
      · have long := List.length_pos_iff.mpr nonempty
        have after := ih ((c :: rest).drop p.length).length (by rw [← length, List.length_drop, List.length_cons]; omega) _ rfl
        have split : (c :: rest).map weight = p.map weight ++ ((c :: rest).drop p.length).map weight := by
          obtain ⟨back, same⟩ := found
          rw [← same, List.drop_left, List.map_append]
        rw [replace_found nonempty found, occurrences_found nonempty found, split, List.map_append, List.sum_append, List.sum_append,
          Nat.succ_mul, Nat.succ_mul]
        omega
      · have after := ih rest.length (by rw [← length]; exact Nat.lt_succ_self _) rest rfl
        rw [replace_absent found, occurrences_absent found, List.map_cons, List.map_cons, List.sum_cons, List.sum_cons]
        omega

theorem length_replace {p value : List α} (nonempty : p ≠ []) (length : value.length = p.length) (text : List α) :
    (replace p value 0 text).length = text.length := by
  have weight := replace_weight nonempty (fun _ => 1) value text
  simp only [List.map_const', List.sum_replicate_nat, Nat.mul_one, length] at weight
  omega
theorem replace_self {p : List α} (nonempty : p ≠ []) (text : List α) : replace p p 0 text = text := by
  induction length : text.length using Nat.strong_induction_on generalizing text with
  | _ n ih =>
    cases text with
    | nil => rfl
    | cons c rest =>
      by_cases found : p <+: c :: rest
      · have long := List.length_pos_iff.mpr nonempty
        rw [replace_found nonempty found, ih _ (by rw [← length, List.length_drop, List.length_cons]; omega) _ rfl]
        obtain ⟨back, same⟩ := found
        rw [← same, List.drop_left]
      · rw [replace_absent found, ih rest.length (by rw [← length]; exact Nat.lt_succ_self _) rest rfl]
/-- A value as long as its pattern that leaves a text with the pattern as it is is the pattern. -/
theorem value_of_replace_self {p value text : List α} (own : Apart p p) (nonempty : p ≠ []) (length : value.length = p.length)
    (there : occurrences p 0 text ≠ 0) (same : replace p value 0 text = text) : value = p := by
  obtain ⟨front, back, rfl⟩ := not_not.mp fun absent => there ((occurrences_eq_zero nonempty).mpr absent)
  rw [List.append_assoc, replace_append own nonempty] at same
  exact (List.append_inj (List.append_inj same (length_replace nonempty length front)).2 length).1

/-! ### Texts with holes -/

inductive Piece (α κ : Type)
  | letter (c : α)
  | hole (k : κ)
  deriving DecidableEq

def fill (values : κ → List α) : List (Piece α κ) → List α
  | [] => []
  | .letter c :: rest => c :: fill values rest
  | .hole k :: rest => values k ++ fill values rest
/-- The pieces of a text, after some more letters of a pattern. -/
def read (pattern : κ → List α) (keys : List κ) : Nat → List α → List (Piece α κ)
  | _, [] => []
  | skip + 1, _ :: rest => read pattern keys skip rest
  | 0, c :: rest =>
    match keys.find? fun k => pattern k <+: c :: rest with
    | some k => .hole k :: read pattern keys ((pattern k).length - 1) rest
    | none => .letter c :: read pattern keys 0 rest
/-- Simultaneous substitution. -/
def substitute (pattern : κ → List α) (keys : List κ) (values : κ → List α) (text : List α) : List α :=
  fill values (read pattern keys 0 text)

omit [DecidableEq α] in
theorem fill_append (values : κ → List α) (front back : List (Piece α κ)) :
    fill values (front ++ back) = fill values front ++ fill values back := by
  induction front with
  | nil => rfl
  | cons piece front ih =>
    cases piece with
    | letter c => exact congrArg (List.cons c) ih
    | hole k => rw [List.cons_append, fill, fill, ih, List.append_assoc]
omit [DecidableEq α] in
theorem infix_of_hole {values : κ → List α} {k : κ} {pieces : List (Piece α κ)} (hole : .hole k ∈ pieces) :
    values k <:+: fill values pieces := by
  obtain ⟨front, back, rfl⟩ := List.append_of_mem hole
  rw [fill_append, fill]
  exact ⟨fill values front, fill values back, by rw [List.append_assoc]⟩
omit [DecidableEq α] in
/-- Only the values of the holes count. -/
theorem fill_congr {values values' : κ → List α} {pieces : List (Piece α κ)} (same : ∀ k, .hole k ∈ pieces → values k = values' k) :
    fill values pieces = fill values' pieces := by
  induction pieces with
  | nil => rfl
  | cons piece pieces ih =>
    have rest := ih fun k listed => same k (.tail _ listed)
    cases piece with
    | letter c => exact congrArg (List.cons c) rest
    | hole k => rw [fill, fill, rest, same k (.head _)]
/-- What a text weighs with another value in the holes of a key. -/
theorem fill_weight [DecidableEq κ] (weight : α → Nat) (values : κ → List α) (k : κ) (value : List α) (pieces : List (Piece α κ)) :
    ((fill (Function.update values k value) pieces).map weight).sum + pieces.count (.hole k) * ((values k).map weight).sum =
      ((fill values pieces).map weight).sum + pieces.count (.hole k) * (value.map weight).sum := by
  induction pieces with
  | nil => simp [fill]
  | cons piece pieces ih =>
    cases piece with
    | letter c =>
      rw [fill, fill, List.count_cons_of_ne (by simp), List.map_cons, List.map_cons, List.sum_cons, List.sum_cons]
      omega
    | hole j =>
      rw [fill, fill, List.map_append, List.map_append, List.sum_append, List.sum_append]
      by_cases same : j = k
      · rw [same, Function.update_self, List.count_cons_self, Nat.succ_mul, Nat.succ_mul]
        omega
      · rw [Function.update_of_ne same, List.count_cons_of_ne (by simpa using same)]
        omega
theorem read_skip (pattern : κ → List α) (keys : List κ) (skip : Nat) (text : List α) :
    read pattern keys skip text = read pattern keys 0 (text.drop skip) := by
  induction text generalizing skip with
  | nil => rw [List.drop_nil, read.eq_def, read.eq_def]
  | cons c rest ih =>
    cases skip with
    | zero => rfl
    | succ skip => rw [read, ih, List.drop_succ_cons]

/-- Keys whose patterns are not in a text are not read. -/
theorem read_filter {pattern : κ → List α} {keys : List κ} {text : List α} (q : κ → Bool)
    (absent : ∀ k ∈ keys, q k = false → ¬ pattern k <:+: text) :
    read pattern keys 0 text = read pattern (keys.filter q) 0 text := by
  induction length : text.length using Nat.strong_induction_on generalizing text with
  | _ n ih =>
    cases text with
    | nil => rfl
    | cons c rest =>
      have same : ((keys.filter q).find? fun k => pattern k <+: c :: rest) = keys.find? fun k => pattern k <+: c :: rest := by
        rw [List.find?_filter]
        refine List.find?_congr fun k listed => ?_
        cases chosen : q k with
        | true => simp
        | false =>
          have missing : ¬ pattern k <+: c :: rest := fun found => absent k listed chosen found.isInfix
          simp [missing]
      have later (skip : Nat) : read pattern keys skip rest = read pattern (keys.filter q) skip rest := by
        have shorter : (rest.drop skip).length < n := by rw [← length, List.length_drop, List.length_cons]; omega
        have part : rest.drop skip <:+: c :: rest := (List.drop_suffix skip rest).isInfix.trans (List.suffix_cons c rest).isInfix
        rw [read_skip, read_skip pattern (keys.filter q)]
        exact ih _ shorter (fun k listed chosen found => absent k listed chosen (found.trans part)) rfl
      rw [read, read, same]
      cases keys.find? fun k => pattern k <+: c :: rest with
      | none => exact congrArg (List.cons (Piece.letter c)) (later 0)
      | some k => exact congrArg (List.cons (Piece.hole k)) (later _)

section
variable {pattern : κ → List α} {keys : List κ} (nonempty : ∀ k ∈ keys, pattern k ≠ [])
include nonempty

/-- At a letter, a text has the pattern of a key, or the letter is read. -/
theorem read_cases (c : α) (rest : List α) :
    (∃ k ∈ keys, ∃ back, c :: rest = pattern k ++ back ∧ read pattern keys 0 (c :: rest) = .hole k :: read pattern keys 0 back) ∨
      (∀ k ∈ keys, ¬ pattern k <+: c :: rest) ∧ read pattern keys 0 (c :: rest) = .letter c :: read pattern keys 0 rest := by
  rw [read]
  split
  · rename_i k found
    have listed := List.mem_of_find?_eq_some found
    obtain ⟨back, same⟩ : pattern k <+: c :: rest := by simpa using List.find?_some found
    refine .inl ⟨k, listed, back, same.symm, ?_⟩
    obtain ⟨d, p, shape⟩ := List.exists_cons_of_ne_nil (nonempty k listed)
    rw [shape, List.cons_append] at same
    cases same
    rw [read_skip, shape, List.length_cons, Nat.add_sub_cancel, List.drop_left]
  · rename_i none
    refine .inr ⟨fun k listed found => ?_, rfl⟩
    have absent := List.find?_eq_none.mp none k listed
    exact absent (decide_eq_true found)
theorem fill_read (text : List α) : fill pattern (read pattern keys 0 text) = text := by
  induction length : text.length using Nat.strong_induction_on generalizing text with
  | _ n ih =>
    cases text with
    | nil => rfl
    | cons c rest =>
      rcases read_cases nonempty c rest with ⟨k, listed, back, same, isRead⟩ | ⟨-, isRead⟩
      · have long := List.length_pos_iff.mpr (nonempty k listed)
        rw [isRead, fill, ih back.length (by rw [← length, same, List.length_append]; omega) back rfl, same]
      · rw [isRead, fill, ih rest.length (by rw [← length]; exact Nat.lt_succ_self _) rest rfl]
end

variable [DecidableEq κ]

omit [DecidableEq α] in
theorem fill_update_absent {values : κ → List α} {k : κ} {value : List α} {pieces : List (Piece α κ)} (absent : .hole k ∉ pieces) :
    fill (Function.update values k value) pieces = fill values pieces := by
  refine fill_congr fun j listed => ?_
  have other : j ≠ k := fun same => absent (same ▸ listed)
  rw [Function.update_of_ne other]

/-- No pattern overlaps another, or itself. -/
structure Separate (pattern : κ → List α) (keys : List κ) : Prop where
  nonempty : ∀ k ∈ keys, pattern k ≠ []
  apart : ∀ j ∈ keys, ∀ k ∈ keys, Apart (pattern j) (pattern k)
  injective : ∀ j ∈ keys, ∀ k ∈ keys, pattern j = pattern k → j = k

omit [DecidableEq κ] in
/-- In a part where no occurrence begins, none is found. -/
theorem occurrences_past {p part : List α} (none : ∀ n < part.length, ¬ part.drop n <+: p ∧ ¬ p <+: part.drop n) (back : List α) :
    occurrences p 0 (part ++ back) = occurrences p 0 back := by
  induction part with
  | nil => rfl
  | cons c part ih =>
    obtain ⟨overlap, inside⟩ := none 0 (Nat.zero_lt_succ _)
    have absent : ¬ p <+: c :: (part ++ back) := fun found =>
      (List.prefix_or_prefix_of_prefix found (List.prefix_append (c :: part) back)).elim inside overlap
    rw [List.cons_append, occurrences_absent absent]
    exact ih fun n short => none (n + 1) (Nat.succ_lt_succ short)
omit [DecidableEq κ] in
/-- A hole is read wherever the pattern of its key occurs. -/
theorem occurrences_read {pattern : κ → List α} {keys : List κ} (separate : Separate pattern keys) [DecidableEq κ] {k : κ}
    (listed : k ∈ keys) (text : List α) : occurrences (pattern k) 0 text = (read pattern keys 0 text).count (.hole k) := by
  have nonempty := separate.nonempty
  induction length : text.length using Nat.strong_induction_on generalizing text with
  | _ n ih =>
    cases text with
    | nil => rfl
    | cons c rest =>
      rcases read_cases nonempty c rest with ⟨j, known, back, same, isRead⟩ | ⟨absent, isRead⟩
      · have long := List.length_pos_iff.mpr (nonempty j known)
        have after := ih back.length (by rw [← length, same, List.length_append]; omega) back rfl
        rw [isRead, same]
        by_cases own : j = k
        · subst own
          rw [occurrences_found (nonempty j known) (List.prefix_append _ back), List.drop_left, after, List.count_cons_self]
        · have other : pattern j ≠ pattern k := fun equal => own (separate.injective j known k listed equal)
          rw [occurrences_past (fun n short => separate.apart j known k listed n short fun _ => other), after,
            List.count_cons_of_ne (by simpa using own)]
      · have after := ih rest.length (by rw [← length]; exact Nat.lt_succ_self _) rest rfl
        rw [isRead, occurrences_absent (absent k listed), after, List.count_cons_of_ne (by simp)]

section
variable {pattern values : κ → List α} {k : κ} (own : Apart (pattern k) (pattern k)) (nonempty : pattern k ≠ [])
  (open_ : values k = pattern k)
include own nonempty open_

/-- Every hole that is written as its pattern is an occurrence. -/
theorem count_le_occurrences (pieces : List (Piece α κ)) :
    pieces.count (.hole k) ≤ occurrences (pattern k) 0 (fill values pieces) := by
  induction length : pieces.length using Nat.strong_induction_on generalizing pieces with
  | _ n ih =>
    by_cases there : .hole k ∈ pieces
    · obtain ⟨front, back, rfl, absent⟩ := List.eq_append_cons_of_mem there
      have after := ih back.length (by rw [← length, List.length_append, List.length_cons]; omega) back rfl
      rw [fill_append, fill, open_, occurrences_append own nonempty, List.count_append, List.count_eq_zero.mpr absent,
        List.count_cons_self]
      omega
    · rw [List.count_eq_zero.mpr there]
      exact Nat.zero_le _
/-- Where there are no other occurrences, the holes of a key are filled by replacing its pattern. -/
theorem replace_fill (value : List α) {pieces : List (Piece α κ)}
    (only : occurrences (pattern k) 0 (fill values pieces) = pieces.count (.hole k)) :
    replace (pattern k) value 0 (fill values pieces) = fill (Function.update values k value) pieces := by
  induction length : pieces.length using Nat.strong_induction_on generalizing pieces with
  | _ n ih =>
    by_cases there : .hole k ∈ pieces
    · obtain ⟨front, back, rfl, absent⟩ := List.eq_append_cons_of_mem there
      have more := count_le_occurrences own nonempty open_ back
      rw [fill_append, fill, open_, occurrences_append own nonempty, List.count_append, List.count_eq_zero.mpr absent,
        List.count_cons_self] at only
      have after := ih back.length (by rw [← length, List.length_append, List.length_cons]; omega) (by omega) rfl
      rw [fill_append, fill, open_, replace_append own nonempty, replace_none (by omega), after, fill_append, fill,
        Function.update_self, fill_update_absent absent]
    · rw [List.count_eq_zero.mpr there] at only
      rw [replace_none only, fill_update_absent there]
/-- Where there are others, a value as long as the pattern that fills only the holes is the pattern. -/
theorem value_of_replace_fill {value : List α} (length : value.length = (pattern k).length) {pieces : List (Piece α κ)}
    (others : occurrences (pattern k) 0 (fill values pieces) ≠ pieces.count (.hole k))
    (same : replace (pattern k) value 0 (fill values pieces) = fill (Function.update values k value) pieces) : value = pattern k := by
  induction size : pieces.length using Nat.strong_induction_on generalizing pieces with
  | _ n ih =>
    by_cases there : .hole k ∈ pieces
    · obtain ⟨front, back, rfl, absent⟩ := List.eq_append_cons_of_mem there
      rw [fill_append, fill, open_, replace_append own nonempty, fill_append, fill, Function.update_self,
        fill_update_absent absent] at same
      obtain ⟨first, same⟩ := List.append_inj same (length_replace nonempty length (fill values front))
      rw [fill_append, fill, open_, occurrences_append own nonempty, List.count_append, List.count_eq_zero.mpr absent,
        List.count_cons_self] at others
      by_cases before : occurrences (pattern k) 0 (fill values front) = 0
      · exact ih back.length (by rw [← size, List.length_append, List.length_cons]; omega) (fun few => others (by omega))
          (List.append_cancel_left same) rfl
      · exact value_of_replace_self own nonempty length before first
    · rw [List.count_eq_zero.mpr there] at others
      rw [fill_update_absent there] at same
      exact value_of_replace_self own nonempty length others same
/-- The holes are filled exactly if there are no other occurrences, or each pattern stays as it is. -/
theorem replace_fill_iff (value : List α) (pieces : List (Piece α κ)) :
    replace (pattern k) value 0 (fill values pieces) = fill (Function.update values k value) pieces ↔
      occurrences (pattern k) 0 (fill values pieces) = pieces.count (.hole k) ∨ value = pattern k := by
  constructor
  · intro same
    by_contra neither
    obtain ⟨others, different⟩ := not_or.mp neither
    obtain ⟨more, count⟩ := Nat.exists_eq_add_of_le (count_le_occurrences own nonempty open_ pieces)
    have replaced := replace_weight nonempty (fun _ => 1) value (fill values pieces)
    have filled := fill_weight (fun _ => 1) values k value pieces
    rw [same, count, Nat.add_mul, Nat.add_mul] at replaced
    rw [open_] at filled
    simp only [List.map_const', List.sum_replicate_nat, Nat.mul_one] at replaced filled
    have length : value.length = (pattern k).length := Nat.eq_of_mul_eq_mul_left (by omega : 0 < more) (by omega)
    exact different (value_of_replace_fill own nonempty open_ length others same)
  · rintro (only | rfl)
    · exact replace_fill own nonempty open_ value only
    · rw [replace_self nonempty, ← open_, Function.update_eq_self]
end

/-! ### Placeholders in double braces -/

def placeholder (name : List Char) : List Char := '\x7b' :: '\x7b' :: (name ++ ['\x7d', '\x7d'])
/-- A name without braces. -/
def Plain (name : List Char) : Prop := '\x7b' ∉ name ∧ '\x7d' ∉ name

theorem placeholder_ne_nil (name : List Char) : placeholder name ≠ [] := List.cons_ne_nil _ _
theorem prefix_heads {c d : Char} {xs ys : List Char} (comparable : c :: xs <+: d :: ys ∨ d :: ys <+: c :: xs) : c = d := by
  rcases comparable with starts | starts
  · exact (List.cons_prefix_cons.mp starts).1
  · exact (List.cons_prefix_cons.mp starts).1.symm
theorem prefix_tails {c d : Char} {xs ys : List Char} (comparable : c :: xs <+: d :: ys ∨ d :: ys <+: c :: xs) :
    xs <+: ys ∨ ys <+: xs :=
  comparable.imp (fun starts => (List.cons_prefix_cons.mp starts).2) fun starts => (List.cons_prefix_cons.mp starts).2
/-- Names that are closed in the same way are the same. -/
theorem closed_inj {j k rest rest' : List Char} (plain : Plain j) (plain' : Plain k)
    (same : j ++ '\x7d' :: rest = k ++ '\x7d' :: rest') : j = k := by
  have names {name rest : List Char} (plain : Plain name) : (name ++ '\x7d' :: rest).takeWhile (· ≠ '\x7d') = name := by
    have inName : ∀ c ∈ name, decide (c ≠ '\x7d') = true := by
      intro c listed
      refine decide_eq_true fun close => ?_
      exact plain.2 (close ▸ listed)
    rw [List.takeWhile_append_of_pos inName, List.takeWhile_cons_of_neg (by simp), List.append_nil]
  rw [← names plain, same, names plain']
theorem apart_placeholder {j k : List Char} (plain : Plain j) (plain' : Plain k) : Apart (placeholder j) (placeholder k) := by
  intro n inside other
  rw [← not_or]
  intro comparable
  match n, inside with
  | 0, _ =>
    have names := prefix_tails (prefix_tails comparable)
    have same : j = k := by
      rcases names with ⟨rest, same⟩ | ⟨rest, same⟩
      · exact closed_inj plain plain' (by rw [List.append_assoc] at same; exact same)
      · exact (closed_inj plain' plain (by rw [List.append_assoc] at same; exact same)).symm
    exact other rfl (by rw [same])
  | 1, _ =>
    have second := prefix_tails comparable
    cases j with
    | nil => exact absurd (prefix_heads second) (by decide)
    | cons c j => exact plain.1 (by rw [prefix_heads second]; exact .head _)
  | n + 2, inside =>
    have part : (placeholder j).drop (n + 2) = (j ++ ['\x7d', '\x7d']).drop n := rfl
    rw [part] at comparable
    cases rest : (j ++ ['\x7d', '\x7d']).drop n with
    | nil =>
      rw [List.drop_eq_nil_iff] at rest
      simp only [placeholder, List.length_cons] at inside
      omega
    | cons c rest' =>
      rw [rest] at comparable
      have listed : c ∈ j ++ ['\x7d', '\x7d'] := List.mem_of_mem_drop (rest.symm ▸ List.mem_cons_self)
      rw [prefix_heads comparable] at listed
      rcases List.mem_append.mp listed with inName | close
      · exact plain.1 inName
      · simp at close
/-- Placeholders of plain names do not overlap. -/
theorem separate_placeholder {names : List (List Char)} (plain : ∀ name ∈ names, Plain name) : Separate placeholder names where
  nonempty name _ := placeholder_ne_nil name
  apart j known k listed := apart_placeholder (plain j known) (plain k listed)
  injective j known k listed same := by
    have closed := (List.cons_inj_right _).mp ((List.cons_inj_right _).mp same)
    exact closed_inj (plain j known) (plain k listed) closed

end Openlit.Substitutions
