import Mathlib.Data.List.Infix
import Openlit.Prompts

/-!
The text that is read of a version of a prompt, compared with the one that was
saved last for it, over runs of requests that create prompts, add versions and
update them.
-/
namespace Openlit.PromptTexts
open Openlit.JsonText Openlit.Literals Openlit.RuleLinks Openlit.ClickHouse Openlit.Text Openlit.Prompts
open Storage Platform

/-! ### Reading a stored text -/

/-- A text with a backslash before an `n`. -/
def HasEscapedNewline (text : String) : Prop := ['\\', 'n'] <:+: text.toList
instance (text : String) : Decidable (HasEscapedNewline text) := inferInstanceAs (Decidable (_ <:+: _))

theorem unescaped_eq_self_iff {s : List Char} : unescaped s = s ↔ ¬ ['\\', 'n'] <:+: s := by
  fun_induction unescaped s with
  | case1 => simp
  | case2 rest ih =>
    constructor
    · intro same
      exact absurd (List.cons.inj same).1 (by decide)
    · intro absent
      exact absurd ⟨[], rest, rfl⟩ absent
  | case3 c rest other ih =>
    rw [List.cons_inj_right, ih, List.infix_cons_iff, not_or, iff_and_self]
    rintro - ⟨back, split⟩
    obtain ⟨rfl, rfl⟩ := List.cons.inj split
    exact other back rfl rfl
theorem unescapeString_eq_self_iff {text : String} : unescapeString text = text ↔ ¬ HasEscapedNewline text := by
  rw [unescapeString, HasEscapedNewline, ← unescaped_eq_self_iff, ← String.toList_inj, String.toList_ofList]
theorem eq_empty_of_unescapeString {text : String} (empty : unescapeString text = "") : text = "" := by
  rw [unescapeString, String.ofList_eq_empty_iff] at empty
  rw [← String.toList_eq_nil_iff]
  revert empty
  fun_cases unescaped text.toList with
  | case1 => exact id
  | case2 => exact nofun
  | case3 => exact nofun

section
variable [Platform]

/-- What the sanitizer makes of plain characters and newlines is read as they are. -/
theorem unescaped_escape {s : List Char} (simple : ∀ c ∈ s, Plain c ∨ c = '\n') : unescaped (escape s) = s := by
  induction s with
  | nil => rfl
  | cons c rest ih =>
    obtain ⟨first, others⟩ := List.forall_mem_cons.mp simple
    rcases first with plain | rfl
    · rw [escape_cons_of_plain plain, unescaped, ih others]
      intro rest' same
      exact absurd same plain.ne_backslash
    · rw [escape_cons_of_letter letter_newline, unescaped, ih others]
theorem unescapeString_sanitizeValue {text : String} (simple : ∀ c ∈ text.toList, Plain c ∨ c = '\n') :
    unescapeString (sanitizeValue text) = text := by
  rw [unescapeString, sanitizeValue_escape, String.toList_ofList, unescaped_escape simple, String.ofList_toList]

/-! ### Runs -/

def emptyTables : Tables := ⟨emptyTable _, emptyTable _⟩

inductive Request
  | createPrompt (input : PromptInput)
  | upsertPromptVersion (input : PromptUpdate)

/-- The tables after a request, and whether it succeeded. -/
def perform (user : Option String) (tables : Tables) : Request → Tables × Except String Unit
  | .createPrompt input => ((createPrompt user input tables).1, (createPrompt user input tables).2.map fun _ => ())
  | .upsertPromptVersion input =>
    match upsertPromptVersion user input tables with
    | .ok next => (next, pure ())
    | .error err => (tables, throw err)

/-- The text of each version as it was given last, by the ids of the versions, after a request that succeeds. -/
def savedAfter (tables : Tables) (saved : String → Option String) : Request → String → Option String
  | .createPrompt input => created (tables.versions.rows.map (·.id)) input.prompt saved
  | .upsertPromptVersion input =>
    match present input.versionId with
    | some id => changed id input.prompt saved
    | none => created (tables.versions.rows.map (·.id)) (input.prompt.getD "") saved

/-- The requests that store a text which is read as it is given. The text of a new version has no
    character that the sanitizer escapes but newlines; one that replaces another has no character that
    its escape is not read as and no backslash before an `n`, and is not emptying the version. -/
def Sound (email : String) (saved : String → Option String) : Request → Prop
  | .createPrompt input => ∀ c ∈ input.prompt.toList, Plain c ∨ c = '\n'
  | .upsertPromptVersion input =>
    match present input.versionId with
    | some id =>
      Quotable email input ∧ ∀ prompt ∈ input.prompt, ReadBack prompt ∧ ¬ HasEscapedNewline prompt ∧
        (prompt = "" → ∀ named, toUUID id = some named → ∀ old ∈ saved named, old = "")
    | none => ∀ prompt ∈ input.prompt, ∀ c ∈ prompt.toList, Plain c ∨ c = '\n'

/-- Runs of requests of signed-in users, each allowed where it is made. One that is refused saves nothing. -/
inductive Run (allowed : String → (String → Option String) → Request → Prop) : Tables → (String → Option String) → Prop
  | start : Run allowed emptyTables fun _ => none
  | saved {tables : Tables} {saved : String → Option String} {email : String} {request : Request}
    (run : Run allowed tables saved) (isAllowed : allowed email saved request)
    (done : (perform (some email) tables request).2 = .ok ()) :
    Run allowed (perform (some email) tables request).1 (savedAfter tables saved request)
  | refused {tables : Tables} {saved : String → Option String} {email err : String} {request : Request}
    (run : Run allowed tables saved) (refusal : (perform (some email) tables request).2 = .error err) :
    Run allowed (perform (some email) tables request).1 saved

def readPrompt (cells : VersionColumn → String) : String := unescapeString (cells .prompt)
def Agrees (tables : Tables) (saved : String → Option String) : Prop :=
  ∀ id, (tables.versions.find id).map (fun row => readPrompt row.cells) = saved id

theorem refused_versions {email err : String} {tables : Tables} {request : Request}
    (refusal : (perform (some email) tables request).2 = .error err) :
    (perform (some email) tables request).1.versions = tables.versions := by
  cases request with
  | createPrompt input =>
    rcases createPrompt_cases email input tables with ⟨_, _, kept⟩ | ⟨_, _, done, _⟩
    · exact kept
    · simp only [perform, done] at refusal
      exact nomatch refusal
  | upsertPromptVersion input =>
    simp only [perform] at refusal ⊢
    split
    next done =>
      rw [done] at refusal
      exact nomatch refusal
    · rfl

theorem perform_agrees {email : String} {tables : Tables} {saved : String → Option String} {request : Request}
    (agrees : Agrees tables saved) (sound : Sound email saved request)
    (done : (perform (some email) tables request).2 = .ok ()) :
    Agrees (perform (some email) tables request).1 (savedAfter tables saved request) := by
  intro id
  cases request with
  | createPrompt input =>
    rcases createPrompt_cases email input tables with ⟨_, refusal, _⟩ | ⟨_, cells, _, isText, inserted⟩
    · simp only [perform, refusal] at done
      exact nomatch done
    · simp only [perform, inserted]
      refine insert_agrees readPrompt agrees cells ?_ id
      rw [readPrompt, isText]
      exact unescapeString_sanitizeValue sound
  | upsertPromptVersion input =>
    simp only [perform] at done ⊢
    split
    next next isDone =>
      cases given : present input.versionId with
      | none =>
        simp only [Sound, given] at sound
        simp only [savedAfter, given]
        obtain ⟨cells, isText, inserted⟩ := upsertPromptVersion_add given isDone
        rw [inserted]
        refine insert_agrees readPrompt agrees cells ?_ id
        rw [readPrompt, isText]
        refine unescapeString_sanitizeValue ?_
        cases text : input.prompt with
        | none => exact nofun
        | some prompt => exact sound prompt text
      | some key =>
        simp only [Sound, given] at sound
        simp only [savedAfter, given]
        obtain ⟨quotable, sound⟩ := sound
        obtain ⟨named, isNamed, updated⟩ := upsertPromptVersion_update given quotable isDone
        rw [updated]
        refine update_agrees readPrompt agrees isNamed (fun row found => ?_) id
        have stored : (row.set (versionSettings email input)).cells .prompt = input.prompt.getD (row.cells .prompt) := by
          rw [prompt_set]
          refine stored_text (fun text isText => (sound text isText).1) fun text isText empty => ?_
          refine eq_empty_of_unescapeString ((sound text isText).2.2 empty named isNamed _ ?_)
          rw [← agrees, found]
          rfl
        rw [readPrompt, stored, readPrompt]
        cases text : input.prompt with
        | none => rfl
        | some prompt => exact unescapeString_eq_self_iff.mpr (sound prompt text).2.1
    next err refusal =>
      rw [refusal] at done
      exact nomatch done

theorem run_agrees {tables : Tables} {saved : String → Option String} (run : Run Sound tables saved) : Agrees tables saved := by
  induction run with
  | start => exact fun _ => rfl
  | saved _ sound done ih => exact perform_agrees ih sound done
  | refused _ refusal ih =>
    intro id
    rw [refused_versions refusal]
    exact ih id

/-! ### What is read back -/

def specific (input : PromptCompiledInput) : SpecificPromptInput := ⟨input.id, input.name, input.version⟩
/-- A version that is no draft, with its prompt. -/
structure Published (tables : Tables) (prompt : Row PromptColumn) (row : Row VersionColumn) : Prop where
  promptKnown : prompt ∈ tables.prompts.rows
  rowKnown : row ∈ tables.versions.rows
  promptId : row.cells .prompt_id = prompt.id
  status : row.cells .status ≠ "DRAFT"
  identified : prompt.id ≠ ""
  numbered : row.cells .version ≠ ""
/-- A request for the version of a number, by the id of its prompt. -/
structure Asks (input : PromptCompiledInput) (prompt : Row PromptColumn) (row : Row VersionColumn) : Prop where
  id : ∃ id, present input.id = some id ∧ toUUID id = some prompt.id
  name : present input.name = none
  version : ∃ version, present input.version = some version ∧ valueOf (sanitizeValue version) = row.cells .version

/-- The text that is answered without compiling is the one that was saved last for its version,
    and a version that is published is answered, or another with its number. -/
structure ReadsBack (tables : Tables) (saved : String → Option String) : Prop where
  text : ∀ {apiKeys input promptData response}, SpecificData (specific input) tables promptData →
    getCompiledPrompt apiKeys promptData input = .ok response → input.shouldCompile = some false →
      saved response.versionId = some response.compiledPrompt
  answered : ∀ {apiKeys input promptData prompt row}, SpecificData (specific input) tables promptData →
    input.apiKey ≠ "" → input.apiKey ∈ apiKeys → Published tables prompt row → Asks input prompt row →
      ∃ response, getCompiledPrompt apiKeys promptData input = .ok response ∧ response.promptId = prompt.id ∧
        response.version = row.cells .version

omit [Platform] in
theorem mem_joined {tables : Tables} {found : SpecificPrompt} (inside : found ∈ joined tables) :
    found.version = "" ∨ ∃ prompt ∈ tables.prompts.rows, ∃ row ∈ tables.versions.rows, found = joinedRow prompt (some row) := by
  obtain ⟨prompt, isPrompt, inside⟩ := List.mem_flatMap.mp inside
  split at inside
  · obtain rfl := List.mem_singleton.mp inside
    exact .inl rfl
  · obtain ⟨row, isRow, rfl⟩ := List.mem_map.mp inside
    exact .inr ⟨prompt, isPrompt, row, (List.mem_filter.mp isRow).1, rfl⟩
omit [Platform] in
theorem mem_joined_of_published {tables : Tables} {prompt : Row PromptColumn} {row : Row VersionColumn}
    (published : Published tables prompt row) : joinedRow prompt (some row) ∈ joined tables := by
  refine List.mem_flatMap.mpr ⟨prompt, published.promptKnown, ?_⟩
  have kept : row ∈ tables.versions.rows.filter fun row => row.cells .prompt_id = prompt.id ∧ row.cells .status ≠ "DRAFT" :=
    List.mem_filter.mpr ⟨published.rowKnown, by simpa using ⟨published.promptId, published.status⟩⟩
  split
  next none =>
    rw [none] at kept
    exact nomatch kept
  next rows _ => exact List.mem_map.mpr ⟨row, kept, rfl⟩
theorem readsBack_of_agrees {tables : Tables} {saved : String → Option String} (agrees : Agrees tables saved) :
    ReadsBack tables saved := by
  constructor
  · intro apiKeys input promptData response data done uncompiled
    obtain ⟨-, -, -, found, isFirst, -, numbered, rfl⟩ := getCompiledPrompt_eq_ok.mp done
    have isJoined : found ∈ joined tables :=
      (List.mem_filter.mp (data.1.mem_iff.mp (List.mem_of_head? isFirst))).1
    rcases mem_joined isJoined with unnumbered | ⟨prompt, _, row, isRow, rfl⟩
    · exact absurd unnumbered numbered
    · rw [← agrees]
      simp [answer, uncompiled, joinedRow, Table.find_of_mem isRow, readPrompt]
  · intro apiKeys input promptData prompt row data named known published asks
    obtain ⟨id, isId, isPrompt⟩ := asks.id
    obtain ⟨version, isVersion, isNumber⟩ := asks.version
    have meetsAll : ∀ found : SpecificPrompt, meets (specific input) found = true ↔
        found.promptId = prompt.id ∧ found.version = row.cells .version := by
      intro found
      simp only [meets, specific, isId, isPrompt, asks.name, isVersion, isNumber, Option.all_some, Option.all_none,
        Bool.and_true, Bool.and_eq_true, decide_eq_true_eq, Option.some.injEq]
      exact and_congr eq_comm eq_comm
    have asked : joinedRow prompt (some row) ∈ promptData :=
      data.1.mem_iff.mpr (List.mem_filter.mpr ⟨mem_joined_of_published published, (meetsAll _).mpr ⟨rfl, rfl⟩⟩)
    cases promptData with
    | nil => exact nomatch asked
    | cons first rest =>
      have isMet := (List.mem_filter.mp (data.1.mem_iff.mp List.mem_cons_self)).2
      obtain ⟨samePrompt, sameVersion⟩ := (meetsAll first).mp isMet
      refine ⟨answer first input, getCompiledPrompt_eq_ok.mpr ⟨⟨(), ?_⟩, known, ?_, first, rfl, ?_, ?_, rfl⟩, samePrompt, sameVersion⟩
      · rw [validatePromptCompiledInput, if_neg named, isId, if_neg (by simp)]
        rfl
      · intro id' given
        rw [isId] at given
        obtain rfl := Option.some.inj given
        rw [isPrompt]
        rfl
      · rw [samePrompt]
        exact published.identified
      · rw [sameVersion]
        exact published.numbered

/-- What is read back is what was saved last, in every run of sound requests. -/
theorem saved_prompts_read_back {tables : Tables} {saved : String → Option String} (run : Run Sound tables saved) :
    ReadsBack tables saved :=
  readsBack_of_agrees (run_agrees run)

end

/-! ### A prompt with quotes -/

section
attribute [local instance] sqlstringPlatform

def creation (prompt status : String) : Request :=
  .createPrompt { name := "greeting", prompt := prompt, version := "1.0.0", status := status, tags := ["llm"], metaProperties := [] }
def publication (prompt : String) : Request :=
  .upsertPromptVersion
    { versionId := some RuleLinkSync.sampleId, promptId := RuleLinkSync.sampleId, prompt := some prompt, status := some "PUBLISHED" }
def next (tables : Tables) (request : Request) : Tables := (perform (some "admin@openlit.io") tables request).1

theorem run_next {allowed : String → (String → Option String) → Request → Prop} {tables : Tables}
    {saved : String → Option String} {request : Request} (run : Run allowed tables saved)
    (isAllowed : allowed "admin@openlit.io" saved request)
    (done : (perform (some "admin@openlit.io") tables request).2.toOption.isSome = true) :
    Run allowed (next tables request) (savedAfter tables saved request) := by
  cases performed : (perform (some "admin@openlit.io") tables request).2 with
  | error err =>
    rw [performed] at done
    exact nomatch done
  | ok _ => exact .saved run isAllowed performed

theorem saved_prompts_read_back_published :
    ReadsBack (next (next emptyTables (creation "line\nline" "DRAFT")) (publication "say \"hi\""))
      (savedAfter (next emptyTables (creation "line\nline" "DRAFT"))
        (savedAfter emptyTables (fun _ => none) (creation "line\nline" "DRAFT")) (publication "say \"hi\"")) := by
  have drafted : Run Sound (next emptyTables (creation "line\nline" "DRAFT"))
      (savedAfter emptyTables (fun _ => none) (creation "line\nline" "DRAFT")) := by
    refine run_next .start ?_ (by decide +kernel)
    exact List.forall_iff_forall_mem.mp (by decide)
  refine saved_prompts_read_back (run_next drafted ?_ (by decide +kernel))
  refine ⟨⟨by decide, nofun, nofun⟩, ?_⟩
  rintro prompt ⟨⟩
  exact ⟨List.forall_iff_forall_mem.mp (by decide), by decide, fun empty => absurd empty (by decide)⟩

/-- A request by the SDK for the text itself. -/
def sdkInput : PromptCompiledInput := { name := some "greeting", apiKey := "openlit-key", shouldCompile := some false }
def quotedTables : Tables := next emptyTables (creation "say \"hi\"" "PUBLISHED")
def quotedSaved : String → Option String := savedAfter emptyTables (fun _ => none) (creation "say \"hi\"" "PUBLISHED")
theorem quoted_run : Run (fun _ _ _ => True) quotedTables quotedSaved :=
  run_next .start trivial (by decide +kernel)
def quotedRow : SpecificPrompt := ⟨RuleLinkSync.sampleId, RuleLinkSync.sampleId, "greeting", "1.0.0", "say \\\"hi\\\""⟩
theorem quoted_data : SpecificData (specific sdkInput) quotedTables [quotedRow] := by
  have found : (joined quotedTables).filter (meets (specific sdkInput)) = [quotedRow] := by decide +kernel
  rw [SpecificData, found]
  exact ⟨.refl _, List.pairwise_singleton _ _⟩
theorem quoted_answer : getCompiledPrompt ["openlit-key"] [quotedRow] sdkInput = .ok (answer quotedRow sdkInput) :=
  getCompiledPrompt_eq_ok.mpr ⟨⟨(), by decide⟩, by decide, nofun, quotedRow, rfl, by decide, by decide, rfl⟩

end

/-- The quotes of a prompt that is created are read with backslashes. -/
theorem quoted_prompt_altered :
    ¬ ∀ [Platform] (tables : Tables) (saved : String → Option String), Run (fun _ _ _ => True) tables saved →
        ReadsBack tables saved := by
  intro all
  let _ := sqlstringPlatform
  have reads := (all _ _ quoted_run).text quoted_data quoted_answer rfl
  exact absurd reads (by decide +kernel)

end Openlit.PromptTexts
