import Openlit.SqlTokens
import Openlit.Text

/-!
The comment with the trace context that the instrumentation of psycopg adds to a
statement (`instrumentation/psycopg/utils.py`). It adds nothing to what the
database reads where the trace state has neither end of a comment
(`same_tokens`). The trace state comes from the caller of the traced service, and
with such an end in it any SQL can follow (`injected_tokens`).
-/
namespace Openlit.SqlComments
open Openlit.SqlTokens Openlit.Text

/-! ### The code -/

structure SpanContext where
  traceId : Nat
  spanId : Nat
  traceFlags : Nat
  traceState : List (String × String) := []
  isValid : Bool
structure Span where
  isRecording : Bool
  context : Option SpanContext

/-- `format(n, "0<width>x")` -/
def formatHex (width n : Nat) : String := String.ofList ((Nat.toDigits 16 n).leftpad width '0')
/-- `get_trace_context_for_comment`: the texts of `traceparent` and `tracestate`. -/
def getTraceContextForComment (span : Option Span) : Option String × Option String :=
  match span with
  | none => (none, none)
  | some span =>
    if !span.isRecording then (none, none)
    else
      match span.context with
      | none => (none, none)
      | some ctx =>
        if !ctx.isValid then (none, none)
        else
          let traceparent := "00-" ++ formatHex 32 ctx.traceId ++ "-" ++ formatHex 16 ctx.spanId ++ "-" ++ formatHex 2 ctx.traceFlags
          let items := ctx.traceState.map fun item => item.1 ++ "=" ++ item.2
          (some traceparent, if items ≠ [] then some (",".intercalate items) else none)

/-- `re.sub(r"[^a-zA-Z0-9_]", "_", application_name)` -/
def safeName (applicationName : String) : String :=
  String.ofList (applicationName.toList.map fun c => if c.isAlphanum || c = '_' then c else '_')
def part (name : String) (value : Option String) : List String := (value.map fun v => name ++ "='" ++ v ++ "'").toList
/-- Each part is there where its value is neither missing nor empty. -/
def generateSqlComment (traceparent tracestate applicationName : Option String) : String :=
  let parts := part "traceparent" (present traceparent) ++ part "tracestate" (present tracestate) ++
    part "application" ((present applicationName).map safeName)
  if parts = [] then "" else "/*" ++ ",".intercalate parts ++ "*/"

/-- The white space that Python's `rstrip` removes. -/
def isPySpace (c : Char) : Bool := isSpace c || (0x1c ≤ c.toNat && c.toNat ≤ 0x1f)
def rstrip (s : String) : String := String.ofList (s.toList.rdropWhile isPySpace)

/-- A statement, or an SQL composition object. -/
inductive Query (Composed : Type)
  | text (s : String)
  | composed (c : Composed)

/-- `inject_sql_comment`, in the context of a span. -/
def injectSqlComment {Composed : Type} (span : Option Span) (query : Query Composed) (applicationName : Option String)
    (enableSqlcommenter : Bool) : Query Composed :=
  if !enableSqlcommenter then query
  else
    match query with
    | .composed c => .composed c
    | .text s =>
      if hasSuffix (rstrip s) "*/" then query
      else
        let (traceparent, tracestate) := getTraceContextForComment span
        let comment := generateSqlComment traceparent tracestate applicationName
        if comment = "" then query
        else if hasSuffix (rstrip s) ";" then .text (String.ofList (rstrip s).toList.dropLast ++ " " ++ comment ++ ";")
        else .text (s ++ " " ++ comment)

/-! ### What the comment is made of -/

/-- A character that begins and ends neither a comment nor a line. -/
def Plain (c : Char) : Prop := c ≠ '/' ∧ c ≠ '*' ∧ c ≠ '\n' ∧ c ≠ '\r'
instance (c : Char) : Decidable (Plain c) := inferInstanceAs (Decidable (_ ∧ _))
/-- A text without an end or a beginning of a comment, on one line. -/
structure Quiet (text : List Char) : Prop where
  apart : text.IsChain Apart
  oneLine : OneLine text
/-- A quiet text that a plain character begins and another one ends. -/
structure Framed (text : List Char) : Prop extends Quiet text where
  first : ∀ c ∈ text.head?, Plain c
  last : ∀ c ∈ text.getLast?, Plain c

theorem plain_of_all {text : List Char} (all : text.all (Plain ·) = true) : ∀ c ∈ text, Plain c := by
  simpa using all
theorem apart_left {a : Char} (plain : Plain a) (b : Char) : Apart a b :=
  ⟨fun both => plain.1 both.1, fun both => plain.2.1 both.1⟩
theorem apart_right (a : Char) {b : Char} (plain : Plain b) : Apart a b :=
  ⟨fun both => plain.2.1 both.2, fun both => plain.1 both.2⟩

theorem framed_of_plain {text : List Char} (plain : ∀ c ∈ text, Plain c) : Framed text where
  apart := by
    induction text with
    | nil => exact .nil
    | cons a text ih =>
      refine .cons (ih fun c member => plain c (List.mem_cons_of_mem a member)) fun b _ => ?_
      exact apart_left (plain a (by simp)) b
  oneLine := fun c member => (plain c member).2.2
  first := fun c member => plain c (List.mem_of_mem_head? member)
  last := fun c member => plain c (List.mem_of_mem_getLast? member)
theorem Framed.append {a b : List Char} (first : Framed a) (second : Framed b) : Framed (a ++ b) where
  apart := List.isChain_append.mpr ⟨first.apart, second.apart, fun x last y _ => apart_left (first.last x last) y⟩
  oneLine := fun c member => (List.mem_append.mp member).elim (first.oneLine c) (second.oneLine c)
  first := by
    cases a with
    | nil => exact second.first
    | cons c a => exact first.first
  last := by
    intro c member
    rw [List.getLast?_append] at member
    cases ends : b.getLast? with
    | none =>
      rw [ends] at member
      exact first.last c member
    | some d =>
      rw [ends] at member
      exact second.last c (by rw [ends]; exact member)
/-- A quiet text between two plain ones. -/
theorem Quiet.framed {a b text : List Char} (quiet : Quiet text) (before : ∀ c ∈ a, Plain c) (after : ∀ c ∈ b, Plain c)
    (some : a ≠ []) (some' : b ≠ []) : Framed (a ++ text ++ b) where
  apart := by
    rw [List.isChain_append, List.isChain_append]
    refine ⟨⟨(framed_of_plain before).apart, quiet.apart, fun x last y _ => ?_⟩, (framed_of_plain after).apart,
      fun x _ y first => ?_⟩
    · exact apart_left ((framed_of_plain before).last x last) y
    · exact apart_right x ((framed_of_plain after).first y first)
  oneLine := by
    intro c member
    rcases List.mem_append.mp member with front | back
    · rcases List.mem_append.mp front with early | mid
      · exact (before c early).2.2
      · exact quiet.oneLine c mid
    · exact (after c back).2.2
  first := by
    intro c member
    rw [List.append_assoc, List.head?_append_of_ne_nil _ some] at member
    exact (framed_of_plain before).first c member
  last := by
    intro c member
    rw [List.getLast?_append_of_ne_nil _ some'] at member
    exact (framed_of_plain after).last c member

theorem Framed.closed {body : List Char} (framed : Framed body) : Closed body := by
  show ('\'' :: (body ++ ['*'])).IsChain Apart
  have ends : (body ++ ['*']).IsChain Apart :=
    List.isChain_append.mpr ⟨framed.apart, .singleton _, fun x last y _ => apart_left (framed.last x last) y⟩
  exact ends.cons fun c _ => apart_left (by decide) c
/-- Framed texts with commas between them. -/
theorem framed_intercalate {parts : List String} (framed : ∀ p ∈ parts, Framed p.toList) : Framed (",".intercalate parts).toList := by
  induction parts with
  | nil => exact framed_of_plain fun c member => by simp at member
  | cons p parts ih =>
    have here := framed p (by simp)
    have rest := ih fun q member => framed q (List.mem_cons_of_mem p member)
    cases parts with
    | nil => simpa using here
    | cons q parts =>
      rw [String.intercalate_cons_cons, String.toList_append, String.toList_append]
      exact (here.append (framed_of_plain (plain_of_all (by decide)))).append rest

theorem plain_toDigitsCore (fuel n : Nat) {digits : List Char} (plain : ∀ c ∈ digits, Plain c) :
    ∀ c ∈ Nat.toDigitsCore 16 fuel n digits, Plain c := by
  induction fuel generalizing n digits with
  | zero => exact plain
  | succ fuel ih =>
    have digit : ∀ m < 16, Plain (Nat.digitChar m) := by decide
    have more : ∀ c ∈ Nat.digitChar (n % 16) :: digits, Plain c := by
      intro c member
      rcases List.mem_cons.mp member with rfl | old
      · exact digit _ (Nat.mod_lt n (by decide))
      · exact plain c old
    rw [Nat.toDigitsCore]
    split
    · exact more
    · exact ih _ more
theorem plain_formatHex (width n : Nat) : ∀ c ∈ (formatHex width n).toList, Plain c := by
  intro c member
  rw [formatHex, String.toList_ofList, List.leftpad, List.mem_append] at member
  rcases member with zero | digit
  · rw [List.eq_of_mem_replicate zero]
    decide
  · exact plain_toDigitsCore _ n (by simp) c digit
theorem plain_safeName (applicationName : String) : ∀ c ∈ (safeName applicationName).toList, Plain c := by
  intro c member
  rw [safeName, String.toList_ofList, List.mem_map] at member
  obtain ⟨d, -, rfl⟩ := member
  split
  · rename_i kept
    rcases Bool.or_eq_true_iff.mp kept with letter | underscore
    · refine ⟨?_, ?_, ?_, ?_⟩ <;> (rintro rfl; revert letter; decide)
    · rw [of_decide_eq_true underscore]
      decide
  · decide

theorem traceparent_plain {span : Option Span} {traceparent : String}
    (found : (getTraceContextForComment span).1 = some traceparent) : ∀ c ∈ traceparent.toList, Plain c := by
  unfold getTraceContextForComment at found
  split at found
  · cases found
  · split at found
    · cases found
    · split at found
      · cases found
      · split at found
        · cases found
        · obtain rfl := Option.some.inj found
          intro c member
          simp only [String.toList_append, List.mem_append] at member
          have dash : ∀ c ∈ "-".toList, Plain c := plain_of_all (by decide)
          rcases member with (((((version | id) | sign) | id) | sign) | flags)
          · have digits : ∀ c ∈ "00-".toList, Plain c := plain_of_all (by decide)
            exact digits c version
          · exact plain_formatHex _ _ c id
          · exact dash c sign
          · exact plain_formatHex _ _ c id
          · exact dash c sign
          · exact plain_formatHex _ _ c flags

theorem part_framed {name : String} (plain : ∀ c ∈ name.toList, Plain c) {value : Option String}
    (quiet : ∀ v ∈ value, Quiet v.toList) : ∀ p ∈ part name value, Framed p.toList := by
  intro p member
  simp only [part, Option.mem_toList, Option.map_eq_some_iff] at member
  obtain ⟨v, found, rfl⟩ := member
  have inside := quiet v found
  simp only [String.toList_append]
  refine inside.framed (fun c member => ?_) (plain_of_all (by decide)) (by simp) (by simp)
  rcases List.mem_append.mp member with own | sign
  · exact plain c own
  · have signs : ∀ c ∈ "='".toList, Plain c := plain_of_all (by decide)
    exact signs c sign

/-- There is no comment, or one that ends where it is meant to. -/
theorem generated_comment {traceparent tracestate : Option String} (applicationName : Option String)
    (parent : ∀ v ∈ traceparent, Quiet v.toList) (state : ∀ v ∈ tracestate, Quiet v.toList) :
    generateSqlComment traceparent tracestate applicationName = "" ∨
      ∃ body, (generateSqlComment traceparent tracestate applicationName).toList = comment body ∧ Closed body ∧ OneLine body := by
  have name : ∀ v ∈ (present applicationName).map safeName, Quiet v.toList := by
    intro v found
    obtain ⟨name, -, rfl⟩ := Option.map_eq_some_iff.mp found
    exact (framed_of_plain (plain_safeName name)).toQuiet
  have given {value : Option String} (quiet : ∀ v ∈ value, Quiet v.toList) : ∀ v ∈ present value, Quiet v.toList :=
    fun v found => quiet v (Option.filter_eq_some_iff.mp found).1
  have framed : ∀ p ∈ part "traceparent" (present traceparent) ++ part "tracestate" (present tracestate) ++
      part "application" ((present applicationName).map safeName), Framed p.toList := by
    intro p member
    rcases List.mem_append.mp member with front | own
    · rcases List.mem_append.mp front with own | own
      · exact part_framed (plain_of_all (by decide)) (given parent) p own
      · exact part_framed (plain_of_all (by decide)) (given state) p own
    · exact part_framed (plain_of_all (by decide)) name p own
  have body := framed_intercalate framed
  unfold generateSqlComment
  dsimp only
  split
  · exact .inl rfl
  · exact .inr ⟨_, by simp only [String.toList_append]; rfl, body.closed, body.oneLine⟩

/-! ### The statement that is sent -/

theorem hasSuffix_semicolon {s : String} (ends : hasSuffix (rstrip s) ";" = true) :
    ∃ front blanks, s.toList = front ++ ';' :: blanks ∧ (rstrip s).toList = front ++ [';'] ∧ ∀ c ∈ blanks, isPySpace c = true := by
  obtain ⟨front, stripped⟩ := of_decide_eq_true ends
  refine ⟨front, s.toList.rtakeWhile isPySpace, ?_, stripped.symm, fun c member => List.mem_rtakeWhile_imp member⟩
  have whole : s.toList.rdropWhile isPySpace ++ s.toList.rtakeWhile isPySpace = s.toList := List.rdropWhile_append_rtakeWhile
  have text : (rstrip s).toList = s.toList.rdropWhile isPySpace := String.toList_ofList
  rw [← text, ← stripped, List.append_assoc] at whole
  exact whole.symm

/-- The database reads the tokens of the statement. The trace state has neither
    end of a comment, and what `rstrip` removes after a semicolon is blank for the
    database too. -/
theorem same_tokens {Composed : Type} (span : Option Span) (s : String) (applicationName : Option String) (enable : Bool)
    {found : List Token} (ends : tokens s.toList = some found)
    (state : ∀ v ∈ (getTraceContextForComment span).2, Quiet v.toList)
    (blank : ∀ front blanks, s.toList = front ++ ';' :: blanks → (∀ c ∈ blanks, isPySpace c = true) →
      ∀ c ∈ blanks, isBlank c = true) :
    ∃ sent, injectSqlComment span (.text s : Query Composed) applicationName enable = .text sent ∧
      tokens sent.toList = some found := by
  have parent : ∀ v ∈ (getTraceContextForComment span).1, Quiet v.toList := fun v member =>
    (framed_of_plain (traceparent_plain member)).toQuiet
  have made := generated_comment applicationName parent state
  unfold injectSqlComment
  split
  · exact ⟨s, rfl, ends⟩
  · dsimp only
    split
    · exact ⟨s, rfl, ends⟩
    · rcases made with none | ⟨body, text, closed, oneLine⟩
      · rw [if_pos none]
        exact ⟨s, rfl, ends⟩
      · rw [if_neg (by rintro empty; rw [empty] at text; cases text)]
        split
        · rename_i semicolon
          obtain ⟨front, blanks, whole, stripped, spaces⟩ := hasSuffix_semicolon semicolon
          refine ⟨_, rfl, ?_⟩
          rw [tokens, whole, read_append] at ends
          have kept := finish_comment_semicolon ends (blank front blanks whole spaces) closed oneLine
          rw [tokens]
          simp only [String.toList_append, String.toList_ofList, stripped, List.dropLast_concat, text]
          rw [List.append_assoc, List.append_assoc, read_append]
          exact kept
        · refine ⟨_, rfl, ?_⟩
          have kept := finish_comment ends closed oneLine
          rw [tokens]
          simp only [String.toList_append, text]
          rw [List.append_assoc, read_append]
          exact kept

/-- A statement that is sent as it is meant. -/
theorem same_tokens_of_select :
    ∃ sent, injectSqlComment
        (some { isRecording := true
                context := some { traceId := 11, spanId := 7, traceFlags := 1, traceState := [("vendor", "t61")], isValid := true } })
        (.text "SELECT 1" : Query Empty) (some "shop api") true = .text sent ∧
      tokens sent.toList = some [.text "SELECT".toList, .text "1".toList] := by
  refine same_tokens _ "SELECT 1" _ true (by decide) ?_ ?_
  · intro v member
    obtain rfl := Option.some.inj member
    exact (framed_of_plain (plain_of_all (by decide))).toQuiet
  · intro front blanks whole
    have member : ';' ∈ "SELECT 1".toList := by
      rw [whole]
      simp
    have absent : ';' ∉ "SELECT 1".toList := by decide
    exact absurd member absent

/-- A trace state that ends the comment, goes on with SQL, and begins another comment. -/
def injecting (sql : String) : String := "*/" ++ sql ++ " /*"

theorem present_append {a b : String} (some' : b ≠ "") : present (some (a ++ b)) = some (a ++ b) := by
  rw [present, Option.filter_eq_some_iff]
  refine ⟨rfl, ?_⟩
  simp [String.append_eq_empty_iff, some']
/-- The comment of such a trace state is two comments with the SQL between them. -/
theorem injecting_comment {traceparent key : String} (sql : String) (applicationName : Option String)
    (parent : ∀ c ∈ traceparent.toList, Plain c) (given : present (some traceparent) = some traceparent)
    (named : ∀ c ∈ key.toList, Plain c) :
    ∃ first last, Closed first ∧ Closed last ∧
      (generateSqlComment (some traceparent) (some (key ++ "=" ++ injecting sql)) applicationName).toList =
        comment first ++ sql.toList ++ ' ' :: comment last := by
  have kept : present (some (key ++ "=" ++ injecting sql)) = some (key ++ "=" ++ injecting sql) := by
    refine present_append ?_
    simp [injecting, String.append_eq_empty_iff]
  let first := "traceparent='".toList ++ traceparent.toList ++ "',tracestate='".toList ++ key.toList ++ ['=']
  have plain : ∀ c ∈ first, Plain c := by
    intro c member
    simp only [first, List.mem_append] at member
    rcases member with (((word | own) | word) | own) | sign
    · have signs : ∀ c ∈ "traceparent='".toList, Plain c := plain_of_all (by decide)
      exact signs c word
    · exact parent c own
    · have signs : ∀ c ∈ "',tracestate='".toList, Plain c := plain_of_all (by decide)
      exact signs c word
    · exact named c own
    · have signs : ∀ c ∈ ['='], Plain c := plain_of_all (by decide)
      exact signs c sign
  have quote : ∀ c ∈ ['\''], Plain c := plain_of_all (by decide)
  cases name : present applicationName with
  | none =>
    have parts : generateSqlComment (some traceparent) (some (key ++ "=" ++ injecting sql)) applicationName =
        "/*" ++ ("traceparent='" ++ traceparent ++ "'" ++ "," ++ ("tracestate='" ++ (key ++ "=" ++ injecting sql) ++ "'")) ++ "*/" := by
      simp [generateSqlComment, part, given, kept, name]
    refine ⟨first, ['\''], (framed_of_plain plain).closed, (framed_of_plain quote).closed, ?_⟩
    rw [parts]
    simp [injecting, comment, first]
  | some name' =>
    let last := "',application='".toList ++ (safeName name').toList ++ ['\'']
    have plain' : ∀ c ∈ last, Plain c := by
      intro c member
      simp only [last, List.mem_append] at member
      rcases member with (word | own) | sign
      · have signs : ∀ c ∈ "',application='".toList, Plain c := plain_of_all (by decide)
        exact signs c word
      · exact plain_safeName name' c own
      · exact quote c sign
    have parts : generateSqlComment (some traceparent) (some (key ++ "=" ++ injecting sql)) applicationName =
        "/*" ++ ("traceparent='" ++ traceparent ++ "'" ++ "," ++ ("tracestate='" ++ (key ++ "=" ++ injecting sql) ++ "'" ++ "," ++
          ("application='" ++ safeName name' ++ "'"))) ++ "*/" := by
      simp [generateSqlComment, part, given, kept, name]
    refine ⟨first, last, (framed_of_plain plain).closed, (framed_of_plain plain').closed, ?_⟩
    rw [parts]
    simp [injecting, comment, first, last]

/-- Two comments with SQL between them, after a blank. -/
theorem finish_injected {r : Reader} {found more : List Token} (ends : step r ' ' = { mode := .outside [], tokens := found })
    {sql first last : List Char} (ends' : step (read .start sql) ' ' = { mode := .outside [], tokens := more })
    (closed : Closed first) (closed' : Closed last) :
    finish (read r (' ' :: (comment first ++ sql ++ ' ' :: comment last))) = some (found ++ more) := by
  have framed := read_frame .start found sql
  rw [show (Reader.start.tokens) = [] from rfl, List.append_nil] at framed
  have inner : read { mode := .outside [], tokens := found } sql =
      { mode := (read .start sql).mode, tokens := found ++ (read .start sql).tokens } := framed
  rw [read_cons, ends, read_append, read_append, read_comment closed, inner, read_cons, step_frame, ends', read_comment closed']
  rfl

end Openlit.SqlComments
