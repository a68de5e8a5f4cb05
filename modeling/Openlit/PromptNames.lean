import Openlit.PromptTexts

/-!
Prompts by their names (`prompt/index.ts`). A name is stored as the sanitizer
writes it. The test for a name that is taken sanitizes it once more, and so finds
what is stored; the query for a prompt does not, and finds it only where ClickHouse
reads no escape of the name (`created_name_iff`).
-/
namespace Openlit.PromptNames
open Openlit.Literals Openlit.RuleLinks Openlit.ClickHouse Openlit.Text Openlit.Prompts
open Storage Escapes Platform

/-! ### Escapes that are read as they stand -/

section
variable [Escapes]

/-- A character that is written as it is, or whose escape no reader takes for a character. -/
def Standing (c : Char) : Prop := ∀ l, letter c = some l → reading l = some ['\\', l]
instance (c : Char) : Decidable (Standing c) :=
  decidable_of_iff ((letter c).all fun l => reading l = some ['\\', l]) (by simp [Standing, Option.all_eq_true])

theorem length_decoded_le {s text : List Char} (read : decoded (escape s) = some text) : text.length ≤ (escape s).length := by
  induction s generalizing text with
  | nil => simp [← Option.some.inj read]
  | cons c rest ih =>
    cases written : letter c with
    | none =>
      have plain : Plain c := written
      rw [escape_cons_of_plain plain, decoded_cons plain.ne_quote plain.ne_backslash] at read
      obtain ⟨later, decodes, rfl⟩ := Option.map_eq_some_iff.mp read
      rw [escape_cons_of_plain plain]
      exact Nat.succ_le_succ (ih decodes)
    | some l =>
      rw [escape_cons_of_letter written, decoded] at read
      obtain ⟨first, known, read⟩ := Option.bind_eq_some_iff.mp read
      obtain ⟨later, decodes, rfl⟩ := Option.map_eq_some_iff.mp read
      have shorter := ih decodes
      rw [escape_cons_of_letter written]
      rcases reading_letter written with back | kept
      · obtain rfl := Option.some.inj (back.symm.trans known)
        simp only [List.singleton_append, List.length_cons]
        omega
      · obtain rfl := Option.some.inj (kept.symm.trans known)
        simp only [List.cons_append, List.nil_append, List.length_cons]
        omega
/-- What is written is read as it stands exactly if each escape of it is. -/
theorem decoded_escape_standing_iff {s : List Char} : decoded (escape s) = some (escape s) ↔ ∀ c ∈ s, Standing c := by
  induction s with
  | nil => simp [escape, decoded]
  | cons c rest ih =>
    rw [List.forall_mem_cons, ← ih]
    cases written : letter c with
    | none =>
      have plain : Plain c := written
      have standing : Standing c := by
        intro l other
        rw [written] at other
        cases other
      rw [escape_cons_of_plain plain, decoded_cons plain.ne_quote plain.ne_backslash, and_iff_right standing]
      simp
    | some l =>
      obtain ⟨text, read⟩ := decoded_escape rest
      rw [escape_cons_of_letter written, decoded, read]
      rcases reading_letter written with back | kept
      · -- One character is read for two.
        have shorter := length_decoded_le read
        rw [back]
        constructor
        · intro same
          have lengths := congrArg List.length (Option.some.inj same)
          simp only [List.singleton_append, List.length_cons] at lengths
          omega
        · rintro ⟨standing, -⟩
          have stands := back.symm.trans (standing l written)
          simp at stands
      · have standing : Standing c := by
          intro l' other
          obtain rfl := Option.some.inj (written.symm.trans other)
          exact kept
        rw [kept, and_iff_right standing]
        simp

end

/-! ### A prompt that is created -/

section
variable [Platform]

/-- Every answer to the query for the name has rows, all of the prompt. -/
def Found (tables : Tables) (name promptId : String) : Prop :=
  ∀ promptData, SpecificData { name := some name } tables promptData → promptData ≠ [] ∧ ∀ row ∈ promptData, row.promptId = promptId
/-- No one creates a prompt with the name. -/
def Taken (tables : Tables) (name : String) : Prop :=
  ∀ (email : String) (params : PromptInput), params.name = name → params.prompt ≠ "" →
    createPrompt (some email) params tables = (tables, .error "Prompt name is already taken!")

theorem getPromptByName_insert {name email : String} {prompts : Table PromptColumn} {row : Row PromptColumn}
    (absent : getPromptByName name prompts = none) (found : getPromptByName name (prompts.insert (promptValues name email)) = some row) :
    row.id = generateUUIDv4 (prompts.rows.map (·.id)) ∧ literalText (sanitizeValue name) = some name ∧
      ∀ other ∈ prompts.rows, other.cells .name ≠ name := by
  rw [getPromptByName] at absent
  rw [getPromptByName, Table.insert, List.find?_append, absent, Option.none_or, List.find?_singleton] at found
  split at found
  next isName =>
    have read : literalText (sanitizeValue name) = some name := of_decide_eq_true isName
    refine ⟨by rw [← Option.some.inj found], read, fun other inside isOther => ?_⟩
    exact List.find?_eq_none.mp absent other inside (decide_eq_true (by rw [read, isOther]))
  · cases found
/-- A creation that succeeds: the new prompt is found by the name that it is stored with, which no other has. -/
theorem createPrompt_ok {email promptId : String} {params : PromptInput} {tables next : Tables}
    (created : createPrompt (some email) params tables = (next, .ok promptId)) :
    params.name ≠ "" ∧ next.prompts = tables.prompts.insert (promptValues (sanitizeValue params.name) email) ∧
      promptId = generateUUIDv4 (tables.prompts.rows.map (·.id)) ∧
      literalText (sanitizeValue (sanitizeValue params.name)) = some (sanitizeValue params.name) ∧
      ∀ row ∈ tables.prompts.rows, row.cells .name ≠ sanitizeValue params.name := by
  simp only [createPrompt] at created
  split at created
  · cases (Prod.mk.inj created).2
  next verified =>
    have named : params.name ≠ "" := by
      intro empty
      simp [verifyPromptInput, PromptInput.sanitizeObject, empty, sanitizeValue_eq_empty.mpr rfl, throw, throwThe, MonadExceptOf.throw]
        at verified
    split at created
    · cases (Prod.mk.inj created).2
    next untaken =>
      split at created
      · cases (Prod.mk.inj created).2
      next promptData found =>
        split at created
        · cases (Prod.mk.inj created).2
        next versions inserted =>
          obtain ⟨rfl, isId⟩ := Prod.mk.inj created
          obtain rfl := Except.ok.inj isId
          obtain ⟨isNew, read, others⟩ := getPromptByName_insert (by simpa using untaken) found
          exact ⟨named, rfl, isNew, read, others⟩

theorem exists_specificData (input : SpecificPromptInput) (tables : Tables) : ∃ promptData, SpecificData input tables promptData := by
  refine ⟨((joined tables).filter (meets input)).mergeSort fun row next => next.version ≤ row.version, List.mergeSort_perm .., ?_⟩
  have sorted := @List.pairwise_mergeSort _ (fun row next : SpecificPrompt => decide (next.version ≤ row.version))
    (fun _ _ _ first second => decide_eq_true (String.le_trans (of_decide_eq_true second) (of_decide_eq_true first)))
    (fun row next => by simpa using String.le_total next.version row.version) ((joined tables).filter (meets input))
  exact sorted.imp of_decide_eq_true
omit [Platform] in
theorem mem_joined_prompt {tables : Tables} {prompt : Row PromptColumn} (inside : prompt ∈ tables.prompts.rows) :
    ∃ row ∈ joined tables, row.promptId = prompt.id ∧ row.name = prompt.cells .name := by
  cases kept : tables.versions.rows.filter fun row => row.cells .prompt_id = prompt.id ∧ row.cells .status ≠ "DRAFT" with
  | nil =>
    refine ⟨joinedRow prompt none, List.mem_flatMap.mpr ⟨prompt, inside, ?_⟩, rfl, rfl⟩
    rw [kept]
    exact List.mem_singleton_self _
  | cons row rows =>
    refine ⟨joinedRow prompt (some row), List.mem_flatMap.mpr ⟨prompt, inside, ?_⟩, rfl, rfl⟩
    rw [kept]
    exact List.mem_cons_self
omit [Platform] in
theorem prompt_of_joined {tables : Tables} {row : SpecificPrompt} (inside : row ∈ joined tables) :
    ∃ prompt ∈ tables.prompts.rows, row.promptId = prompt.id ∧ row.name = prompt.cells .name := by
  obtain ⟨prompt, isPrompt, inside⟩ := List.mem_flatMap.mp inside
  split at inside
  · obtain rfl := List.mem_singleton.mp inside
    exact ⟨prompt, isPrompt, rfl, rfl⟩
  · obtain ⟨version, -, rfl⟩ := List.mem_map.mp inside
    exact ⟨prompt, isPrompt, rfl, rfl⟩

theorem meets_name {name : String} (named : name ≠ "") (row : SpecificPrompt) :
    meets { name := some name } row = true ↔ valueOf (sanitizeValue name) = row.name := by
  simp [meets, present, Option.filter_some, named]

section
variable {tables : Tables} {name promptId : String}

/-- The query finds the prompts that are stored with what the sanitized name is read as. -/
theorem found_iff (named : name ≠ "") : Found tables name promptId ↔
    (∃ prompt ∈ tables.prompts.rows, prompt.cells .name = valueOf (sanitizeValue name)) ∧
      ∀ prompt ∈ tables.prompts.rows, prompt.cells .name = valueOf (sanitizeValue name) → prompt.id = promptId := by
  constructor
  · intro found
    obtain ⟨promptData, data⟩ := exists_specificData { name := some name } tables
    obtain ⟨nonempty, same⟩ := found promptData data
    have asked {row : SpecificPrompt} : row ∈ promptData ↔ row ∈ joined tables ∧ valueOf (sanitizeValue name) = row.name := by
      rw [data.1.mem_iff, List.mem_filter, meets_name named]
    constructor
    · obtain ⟨row, inside⟩ := List.exists_mem_of_ne_nil _ nonempty
      obtain ⟨isJoined, isName⟩ := asked.mp inside
      obtain ⟨prompt, isPrompt, -, rowName⟩ := prompt_of_joined isJoined
      exact ⟨prompt, isPrompt, (isName.trans rowName).symm⟩
    · intro prompt isPrompt isName
      obtain ⟨row, isJoined, isId, rowName⟩ := mem_joined_prompt isPrompt
      rw [← isId]
      exact same row (asked.mpr ⟨isJoined, by rw [rowName, isName]⟩)
  · rintro ⟨⟨prompt, isPrompt, isName⟩, same⟩ promptData data
    have asked {row : SpecificPrompt} : row ∈ promptData ↔ row ∈ joined tables ∧ valueOf (sanitizeValue name) = row.name := by
      rw [data.1.mem_iff, List.mem_filter, meets_name named]
    constructor
    · obtain ⟨row, isJoined, -, rowName⟩ := mem_joined_prompt isPrompt
      exact List.ne_nil_of_mem (asked.mpr ⟨isJoined, by rw [rowName, isName]⟩)
    · intro row inside
      obtain ⟨isJoined, named⟩ := asked.mp inside
      obtain ⟨other, isOther, isId, rowName⟩ := prompt_of_joined isJoined
      rw [isId]
      exact same other isOther (rowName.symm.trans named.symm)
/-- A name is taken by a prompt that is stored with its sanitized form, which the test reads back. -/
theorem taken_of_stored {prompt : Row PromptColumn} (isPrompt : prompt ∈ tables.prompts.rows) (stored : prompt.cells .name = sanitizeValue name)
    (read : literalText (sanitizeValue (sanitizeValue name)) = some (sanitizeValue name)) (named : name ≠ "") : Taken tables name := by
  rintro email params rfl prompted
  have verified : verifyPromptInput params.sanitizeObject = .ok () := by
    simp [verifyPromptInput, PromptInput.sanitizeObject, sanitizeValue_eq_empty, named, prompted, pure, Except.pure]
  have found : (getPromptByName params.sanitizeObject.name tables.prompts).isSome = true := by
    rw [getPromptByName, List.find?_isSome]
    exact ⟨prompt, isPrompt, decide_eq_true (by rw [stored]; exact read)⟩
  simp only [createPrompt, verified, if_pos found]
  rfl

end

/-- A prompt that is created is found by its name, and the name is taken, exactly if no escape of the name is read. -/
theorem created_name_iff {email promptId : String} {params : PromptInput} {tables next : Tables}
    (created : createPrompt (some email) params tables = (next, .ok promptId)) :
    (Found next params.name promptId ∧ Taken next params.name) ↔ ∀ c ∈ params.name.toList, Standing c := by
  obtain ⟨named, prompts, rfl, read, others⟩ := createPrompt_ok created
  have stored {prompt : Row PromptColumn} : prompt ∈ next.prompts.rows ↔ prompt ∈ tables.prompts.rows ∨
      prompt = ⟨generateUUIDv4 (tables.prompts.rows.map (·.id)), promptValues (sanitizeValue params.name) email⟩ := by
    rw [prompts, Table.insert, List.mem_append, List.mem_singleton]
  have taken : Taken next params.name := taken_of_stored (stored.mpr (.inr rfl)) rfl read named
  rw [and_iff_left taken, found_iff named]
  have standing : (∀ c ∈ params.name.toList, Standing c) ↔ valueOf (sanitizeValue params.name) = sanitizeValue params.name := by
    obtain ⟨text, decodes⟩ := decoded_escape params.name.toList
    rw [← decoded_escape_standing_iff, valueOf, literalText_sanitizeValue, decodes, Option.map_some, Option.getD_some,
      sanitizeValue_escape, Option.some.injEq, String.ofList_inj]
  rw [standing]
  constructor
  · rintro ⟨⟨prompt, isPrompt, isName⟩, same⟩
    rcases stored.mp isPrompt with old | rfl
    · have isNew := same prompt isPrompt isName
      exact absurd (List.mem_map.mpr ⟨prompt, old, isNew⟩) (generated_new _)
    · exact isName.symm
  · intro same
    rw [same]
    refine ⟨⟨_, stored.mpr (.inr rfl), rfl⟩, fun prompt isPrompt isName => ?_⟩
    rcases stored.mp isPrompt with old | rfl
    · exact absurd isName (others prompt old)
    · rfl

end

/-! ### A plain name, and one with a quote -/

section
attribute [local instance] sqlstringPlatform

def namedInput (name : String) : PromptInput :=
  { name, prompt := "Hello", version := "1.0.0", status := "PUBLISHED", tags := [], metaProperties := [] }
def afterCreation (name : String) : Tables := (createPrompt (some "admin@openlit.io") (namedInput name) PromptTexts.emptyTables).1

theorem created_greeting : (Found (afterCreation "greeting") "greeting" RuleLinkSync.sampleId ∧ Taken (afterCreation "greeting") "greeting") ↔
    ∀ c ∈ "greeting".toList, Standing c := by
  have done : (createPrompt (some "admin@openlit.io") (namedInput "greeting") PromptTexts.emptyTables).2 = .ok RuleLinkSync.sampleId := by
    decide +kernel
  exact @created_name_iff _ "admin@openlit.io" _ (namedInput "greeting") PromptTexts.emptyTables _ (Prod.ext rfl done)
/-- The prompt is stored with a backslash before the quote, and is asked for without one. -/
theorem quoted_name_not_found :
    createPrompt (some "admin@openlit.io") (namedInput "it's") PromptTexts.emptyTables = (afterCreation "it's", .ok RuleLinkSync.sampleId) ∧
      ¬(Found (afterCreation "it's") "it's" RuleLinkSync.sampleId ∧ Taken (afterCreation "it's") "it's") := by
  have done : (createPrompt (some "admin@openlit.io") (namedInput "it's") PromptTexts.emptyTables).2 = .ok RuleLinkSync.sampleId := by
    decide +kernel
  refine ⟨Prod.ext rfl done, ?_⟩
  rintro ⟨found, -⟩
  obtain ⟨⟨prompt, isPrompt, isName⟩, -⟩ := (found_iff (by decide)).mp found
  have others : ∀ prompt ∈ (afterCreation "it's").prompts.rows, prompt.cells .name ≠ valueOf (sanitizeValue "it's") := by decide +kernel
  exact others prompt isPrompt isName

end
end Openlit.PromptNames
