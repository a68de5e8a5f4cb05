import Openlit.AttributeLists
import Openlit.Lookups

/-!
The parameters of a URL as `URLSearchParams` keeps and changes them, and the form
in which they stand in the URL: the bytes of UTF-8, of which the letters, the
digits and a few signs stand for themselves, a space is a plus sign and the others
are percent escapes. Every list of parameters is read back as it was written
(`parsed_serialized`).
-/
namespace Openlit.UrlParameters
open Openlit.AttributeLists Openlit.JsonParse

abbrev Parameters := List (String × String)

/-! ### Changes -/

variable (params : Parameters) (name : String)

def get : Option String := params.lookup name
def getAll : List String := (params.filter (·.1 = name)).map (·.2)
def delete : Parameters := params.filter (·.1 ≠ name)
def append (value : String) : Parameters := params ++ [(name, value)]
/-- The first parameter of the name gets the value and the others of it go. -/
def set (value : String) : Parameters → Parameters
  | [] => [(name, value)]
  | (first, old) :: rest => if first = name then (name, value) :: delete rest name else (first, old) :: set value rest

variable {params name} {other value : String}

@[simp] theorem get_append_ne (different : other ≠ name) : get (append params name value) other = get params other := by
  simp [get, append, List.lookup_append, different]
theorem get_append (missing : get params name = none) : get (append params name value) name = some value := by
  rw [get] at missing
  simp [get, append, List.lookup_append, missing]
@[simp] theorem get_delete_self : get (delete params name) name = none := by
  rw [get, delete, List.lookup_eq_none_iff]
  intro entry kept
  have different : entry.1 ≠ name := by simpa using (List.mem_filter.mp kept).2
  simp [Ne.symm different]
@[simp] theorem get_delete_ne (different : other ≠ name) : get (delete params name) other = get params other := by
  have kept := Lookups.lookup_filter_key (fun key => decide (key ≠ name)) params other
  simpa [get, delete, different] using kept
@[simp] theorem get_set_self : get (set name value params) name = some value := by
  induction params with
  | nil => simp [set, get]
  | cons entry rest ih =>
    obtain ⟨first, old⟩ := entry
    by_cases same : first = name
    · simp [set, get, same]
    · rw [set, if_neg same, get, List.lookup_cons, beq_false_of_ne (Ne.symm same)]
      exact ih
@[simp] theorem get_set_ne (different : other ≠ name) : get (set name value params) other = get params other := by
  induction params with
  | nil => simp [set, get, different]
  | cons entry rest ih =>
    obtain ⟨first, old⟩ := entry
    by_cases same : first = name
    · subst same
      have kept : get (delete rest first) other = get rest other := get_delete_ne different
      rw [set, if_pos rfl, get, get, List.lookup_cons, List.lookup_cons, beq_false_of_ne different]
      exact kept
    · rw [set, if_neg same, get, get, List.lookup_cons, List.lookup_cons]
      cases other == first
      · exact ih
      · rfl

@[simp] theorem getAll_append_self : getAll (append params name value) name = getAll params name ++ [value] := by
  simp [getAll, append]
@[simp] theorem getAll_append_ne (different : other ≠ name) : getAll (append params name value) other = getAll params other := by
  simp [getAll, append, Ne.symm different]
@[simp] theorem getAll_delete_self : getAll (delete params name) name = [] := by
  simp [getAll, delete]
@[simp] theorem getAll_delete_ne (different : other ≠ name) : getAll (delete params name) other = getAll params other := by
  rw [getAll, getAll, delete, List.filter_filter]
  congr 1
  refine List.filter_congr fun entry _ => ?_
  by_cases same : entry.1 = other <;> simp [same, different]
@[simp] theorem getAll_set_ne (different : other ≠ name) : getAll (set name value params) other = getAll params other := by
  induction params with
  | nil => simp [set, getAll, Ne.symm different]
  | cons entry rest ih =>
    obtain ⟨first, old⟩ := entry
    by_cases same : first = name
    · subst same
      have kept : getAll (delete rest first) other = getAll rest other := getAll_delete_ne different
      simpa [set, getAll, Ne.symm different] using kept
    · rw [set, if_neg same]
      by_cases own : first = other
      · simpa [getAll, own] using ih
      · simpa [getAll, own] using ih

/-! ### The form in a URL -/

/-- A digit of an escape, in upper case. -/
def hexDigit (n : Nat) : Char := (Nat.digitChar n).toUpper
def escaped (byte : UInt8) : List Char := ['%', hexDigit (byte.toNat / 16), hexDigit (byte.toNat % 16)]
/-- The characters that stand for themselves. -/
def isSafe (c : Char) : Bool := c.isAlphanum || c ∈ ['*', '-', '.', '_']
def encodedChar (c : Char) : List Char :=
  if c = ' ' then ['+'] else if isSafe c then [c] else (String.utf8EncodeChar c).flatMap escaped
def encoded (text : List Char) : List Char := text.flatMap encodedChar
def written (parameter : String × String) : List Char := encoded parameter.1.toList ++ '=' :: encoded parameter.2.toList
/-- `toString`. -/
def serialized (params : Parameters) : List Char := ['&'].intercalate (params.map written)

def plusToSpace (c : Char) : Char := if c = '+' then ' ' else c
/-- A text of a piece. Bytes that are no UTF-8 are left open. -/
def decoded (text : List Char) : Option String :=
  (percentDecoded (text.map plusToSpace)).toByteArray.utf8Decode?.map fun chars => String.ofList chars.toList
/-- One parameter; without an equals sign its value is empty. -/
def readParameter (piece : List Char) : Option (String × String) := do
  let name ← decoded (piece.takeWhile (· ≠ '='))
  let value ← decoded ((piece.dropWhile (· ≠ '=')).drop 1)
  pure (name, value)
/-- `new URLSearchParams`, without the question mark. -/
def parsed (text : List Char) : Option Parameters := ((text.splitOn '&').filter (· ≠ [])).mapM readParameter

/-! ### What is written is read back -/

theorem hexValue_hexDigit : ∀ n < 16, hexValue (hexDigit n) = some n := by decide
theorem hexDigit_alphanum : ∀ n < 16, (hexDigit n).isAlphanum = true := by decide

/-- The characters of an escape and of what stands for itself. -/
def isWritten (c : Char) : Bool := isSafe c || c = '%' || c = '+'
theorem isWritten_escaped (byte : UInt8) : ∀ c ∈ escaped byte, isWritten c = true := by
  have small := byte.toNat_lt
  intro c inside
  simp only [escaped, List.mem_cons, List.not_mem_nil, or_false] at inside
  rcases inside with rfl | rfl | rfl
  · rfl
  · simp [isWritten, isSafe, hexDigit_alphanum (byte.toNat / 16) (by omega)]
  · simp [isWritten, isSafe, hexDigit_alphanum (byte.toNat % 16) (by omega)]
theorem isWritten_encodedChar (c : Char) : ∀ d ∈ encodedChar c, isWritten d = true := by
  intro d inside
  unfold encodedChar at inside
  split at inside
  · obtain rfl := List.mem_singleton.mp inside
    rfl
  · split at inside
    · rename_i safe
      obtain rfl := List.mem_singleton.mp inside
      simp [isWritten, safe]
    · obtain ⟨byte, -, digit⟩ := List.mem_flatMap.mp inside
      exact isWritten_escaped byte d digit
theorem isWritten_encoded (text : List Char) : ∀ c ∈ encoded text, isWritten c = true := by
  intro c inside
  obtain ⟨d, -, digit⟩ := List.mem_flatMap.mp inside
  exact isWritten_encodedChar d c digit
theorem notMem_encoded {separator : Char} (unwritten : isWritten separator = false) (text : List Char) :
    separator ∉ encoded text := by
  intro inside
  rw [isWritten_encoded text separator inside] at unwritten
  cases unwritten

theorem percentDecoded_escaped (byte : UInt8) (rest : List Char) :
    percentDecoded (escaped byte ++ rest) = byte :: percentDecoded rest := by
  have small := byte.toNat_lt
  have high := hexValue_hexDigit (byte.toNat / 16) (by omega)
  have low := hexValue_hexDigit (byte.toNat % 16) (by omega)
  have value : 16 * (byte.toNat / 16) + byte.toNat % 16 = byte.toNat := Nat.div_add_mod ..
  have read : escape ('%' :: hexDigit (byte.toNat / 16) :: hexDigit (byte.toNat % 16) :: rest) = some byte := by
    simp only [escape, high, low, value, bind, Option.bind_some, pure, UInt8.ofNat_toNat]
  simp only [escaped, List.cons_append, List.nil_append, percentDecoded, read]
theorem percentDecoded_escapes (bytes : List UInt8) (rest : List Char) :
    percentDecoded (bytes.flatMap escaped ++ rest) = bytes ++ percentDecoded rest := by
  induction bytes with
  | nil => rfl
  | cons byte bytes ih => rw [List.flatMap_cons, List.append_assoc, percentDecoded_escaped, ih, List.cons_append]
theorem percentDecoded_cons {c : Char} (other : c ≠ '%') (rest : List Char) :
    percentDecoded (c :: rest) = String.utf8EncodeChar c ++ percentDecoded rest := by
  rw [percentDecoded.eq_def]
  split
  · rename_i same
    exact absurd (List.cons.inj same).1 other
  · rename_i same
    obtain ⟨rfl, rfl⟩ := List.cons.inj same
    rfl
  · rename_i same
    cases same

theorem map_plusToSpace_escapes (bytes : List UInt8) : (bytes.flatMap escaped).map plusToSpace = bytes.flatMap escaped := by
  refine (List.map_congr_left fun c inside => ?_).trans (List.map_id _)
  obtain ⟨byte, -, digit⟩ := List.mem_flatMap.mp inside
  have small := byte.toNat_lt
  have plain : ∀ n < 16, plusToSpace (hexDigit n) = hexDigit n := by decide
  simp only [escaped, List.mem_cons, List.not_mem_nil, or_false] at digit
  rcases digit with rfl | rfl | rfl
  · rfl
  · exact plain _ (by omega)
  · exact plain _ (by omega)
theorem percentDecoded_encodedChar (c : Char) (rest : List Char) :
    percentDecoded ((encodedChar c).map plusToSpace ++ rest) = String.utf8EncodeChar c ++ percentDecoded rest := by
  unfold encodedChar
  split
  · rename_i space
    subst space
    exact percentDecoded_cons (by decide) rest
  · split
    · rename_i safe
      have sign : c ≠ '%' := by rintro rfl; cases safe
      have plus : plusToSpace c = c := if_neg (by rintro rfl; cases safe)
      rw [List.map_singleton, plus]
      exact percentDecoded_cons sign rest
    · rw [map_plusToSpace_escapes, percentDecoded_escapes]
theorem percentDecoded_encoded (text : List Char) : percentDecoded ((encoded text).map plusToSpace) = utf8 text := by
  induction text with
  | nil => rfl
  | cons c text ih =>
    have parts : encoded (c :: text) = encodedChar c ++ encoded text := rfl
    rw [parts, List.map_append, percentDecoded_encodedChar, ih]
    rfl
theorem decoded_encoded (text : String) : decoded (encoded text.toList) = some text := by
  have bytes : (utf8 text.toList).toByteArray = text.toList.utf8Encode := rfl
  rw [decoded, percentDecoded_encoded, bytes, List.utf8Decode?_utf8Encode]
  simp

theorem readParameter_written (parameter : String × String) : readParameter (written parameter) = some parameter := by
  have unequal : ∀ c ∈ encoded parameter.1.toList, decide (c ≠ '=') = true := by
    intro c inside
    exact decide_eq_true fun same => notMem_encoded (show isWritten '=' = false by decide) _ (same ▸ inside)
  have name : (written parameter).takeWhile (· ≠ '=') = encoded parameter.1.toList := by
    rw [written, List.takeWhile_append_of_pos unequal]
    simp
  have value : (written parameter).dropWhile (· ≠ '=') = '=' :: encoded parameter.2.toList := by
    rw [written, List.dropWhile_append_of_pos unequal]
    simp
  rw [readParameter, name, value, List.drop_one, List.tail_cons, decoded_encoded, decoded_encoded]
  rfl

theorem parsed_serialized (params : Parameters) : parsed (serialized params) = some params := by
  have unparted : ∀ piece ∈ params.map written, '&' ∉ piece := by
    intro piece inside
    obtain ⟨parameter, -, rfl⟩ := List.mem_map.mp inside
    simp [written, notMem_encoded (show isWritten '&' = false by decide)]
  by_cases empty : params = []
  · subst empty
    rfl
  · have pieces : (serialized params).splitOn '&' = params.map written :=
      List.splitOn_intercalate '&' unparted (by simpa using empty)
    have nonempty : (params.map written).filter (· ≠ []) = params.map written := by
      rw [List.filter_eq_self]
      intro piece inside
      obtain ⟨parameter, -, rfl⟩ := List.mem_map.mp inside
      simp [written]
    rw [parsed, pieces, nonempty]
    clear unparted empty pieces nonempty
    induction params with
    | nil => rfl
    | cons parameter params ih =>
      rw [List.map_cons, List.mapM_cons, readParameter_written, ih]
      rfl

end Openlit.UrlParameters
