import Mathlib.Data.List.TakeWhile
import Mathlib.Tactic.Common

/-!
Server-sent events as bytes: the lines that Go's `bufio.Scanner` returns of a
body, and the data that the format dispatches for lines of text.
-/
namespace Openlit.ServerEvents

abbrev Bytes := List UInt8

/-- `"\n"`. -/
def lineFeed : UInt8 := '\n'.toUInt8
/-- `"\r"`. -/
def carriageReturn : UInt8 := '\r'.toUInt8

/-! ### The scanner -/

/-- How reading a body ends. Of an error, whether it is `known` before the last line is taken from the buffer. -/
inductive End
  | eof
  | failed (known : Bool)
deriving DecidableEq

/-- `Scanner.Err`. -/
inductive ScanError
  | tooLong
  | read

/-- `bufio.MaxScanTokenSize`. -/
def maxTokenSize : Nat := 64 * 1024

/-- `dropCR`. -/
def dropCR (line : Bytes) : Bytes := if line.getLast? = some carriageReturn then line.dropLast else line
/-- What stands between the line feeds. After the last one there is a line only if it is not empty. -/
def pieces (body : Bytes) : List Bytes :=
  let parts := body.splitOn lineFeed
  if parts.getLast? = some [] then parts.dropLast else parts
/-- The buffer has place for the line and the byte after it. -/
def fits (piece : Bytes) : Bool := piece.length < maxTokenSize

/-- The lines for which `Scan` is true, one after the other, and the error that is left. Once the buffer was too short,
    another call returns what is in it as a line. -/
structure Scanned where
  lines : List Bytes
  leftover : List Bytes
  error : Option ScanError
  errorKnown : Option ScanError

/-- `bufio.NewScanner(body)`, with the lines of `ScanLines`. -/
def scanner (body : Bytes) (finish : End) : Scanned :=
  let lines := ((pieces body).takeWhile fits).map dropCR
  match (pieces body).dropWhile fits with
  | long :: _ => { lines := lines, leftover := [dropCR (long.take maxTokenSize)], error := some .tooLong, errorKnown := none }
  | [] =>
    { lines := lines
      leftover := []
      error := if finish = .eof then none else some .read
      errorKnown := if finish = .failed true then some .read else none }

theorem scanner_lines (body : Bytes) (finish : End) : (scanner body finish).lines = ((pieces body).takeWhile fits).map dropCR := by
  rw [scanner]
  cases (pieces body).dropWhile fits <;> rfl
theorem scanner_error_none (body : Bytes) (finish : End) :
    (scanner body finish).error = none ↔ finish = .eof ∧ ∀ piece ∈ pieces body, fits piece := by
  have allFit := List.dropWhile_eq_nil_iff (p := fits) (l := pieces body)
  rw [scanner]
  cases long : (pieces body).dropWhile fits with
  | nil => simpa using fun _ => allFit.mp long
  | cons piece rest => simpa [long] using fun _ => allFit
theorem scanner_leftover {body : Bytes} {finish : End} (none : (scanner body finish).error = none) :
    (scanner body finish).leftover = [] := by
  rw [scanner] at none ⊢
  cases long : (pieces body).dropWhile fits with
  | nil => rfl
  | cons piece rest => simp [long] at none

/-! ### Lines of text -/

/-- A line of the format with the way in which it is ended. -/
structure Line where
  text : Bytes
  crlf : Bool := false
  noLineFeed : lineFeed ∉ text := by decide
  noCarriageReturn : carriageReturn ∉ text := by decide

def Line.raw (line : Line) : Bytes := line.text ++ if line.crlf then [carriageReturn] else []
def encode (lines : List Line) : Bytes := lines.flatMap fun line => line.raw ++ [lineFeed]

theorem lineFeed_not_mem_raw (line : Line) : lineFeed ∉ line.raw := by
  have plain := line.noLineFeed
  cases crlf : line.crlf
  · simpa [Line.raw, crlf] using plain
  · simpa [Line.raw, crlf] using ⟨plain, by decide⟩
@[simp] theorem dropCR_raw (line : Line) : dropCR line.raw = line.text := by
  cases crlf : line.crlf
  · have other : line.text.getLast? ≠ some carriageReturn :=
      fun last => line.noCarriageReturn (List.mem_of_getLast? last)
    simp [Line.raw, crlf, dropCR, other]
  · simp [Line.raw, crlf, dropCR]
/-- A text of ended lines has these lines. -/
theorem pieces_encode (lines : List Line) : pieces (encode lines) = lines.map Line.raw := by
  have parts : (encode lines).splitOn lineFeed = lines.map Line.raw ++ [[]] := by
    induction lines with
    | nil => rfl
    | cons line lines ih =>
      have split := List.splitOn_append_cons_self_of_not_mem (lineFeed_not_mem_raw line) (encode lines)
      rw [ih] at split
      simpa [encode] using split
  simp only [pieces, parts, List.getLast?_concat, if_true, List.dropLast_concat]
theorem scanner_encode (lines : List Line) (finish : End) :
    (scanner (encode lines) finish).lines = (lines.takeWhile fun line => fits line.raw).map Line.text := by
  rw [scanner_lines, pieces_encode, List.takeWhile_map, List.map_map]
  exact List.map_congr_left fun line _ => dropCR_raw line

/-! ### Dispatched data -/

def colon : UInt8 := ':'.toUInt8
def space : UInt8 := ' '.toUInt8
/-- `data`. -/
def dataField : Bytes := ['d', 'a', 't', 'a'].map Char.toUInt8

/-- The value of a `data` field, without a space after the colon. Comments and other fields have none. -/
def dataValue (text : Bytes) : Option Bytes :=
  if text = dataField then some []
  else if (dataField ++ [colon]).isPrefixOf text then
    let value := text.drop (dataField.length + 1)
    some (if value.head? = some space then value.tail else value)
  else none
/-- What is dispatched: at an empty line, the values since the last one, joined by line feeds. -/
def dispatched (values : List Bytes) : List Bytes → List Bytes
  | [] => []
  | text :: rest =>
    if text = [] then (if values = [] then [] else [[lineFeed].intercalate values]) ++ dispatched [] rest
    else dispatched (values ++ (dataValue text).toList) rest
/-- The data of the events that the lines of text stand for. -/
def payloads (texts : List Bytes) : List Bytes := dispatched [] texts

end Openlit.ServerEvents
