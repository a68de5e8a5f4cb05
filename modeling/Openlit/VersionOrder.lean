import Mathlib.Data.Set.Finite.Lemmas
import Mathlib.Data.Set.Finite.List
import Openlit.PromptNames
import Openlit.SeparatedWords

/-!
The version that is answered where none is named (`prompt/index.ts`,
`compiled.ts`). Versions are stored as texts in the format of `1.0.0`, and the
database orders the texts, so `1.9.0` comes after `1.10.0`.
-/
namespace Openlit.VersionOrder
open Openlit.RuleLinks Openlit.ClickHouse Openlit.Text Openlit.Prompts Openlit.PromptTexts Openlit.PromptNames
open Openlit.SeparatedWords
open Storage

/-! ### Versions and their texts -/

structure Version where
  major : Nat
  minor : Nat
  patch : Nat
  deriving DecidableEq, Repr

/-- The components, in the order in which they count. -/
def Version.numbers (v : Version) : List Nat := [v.major, v.minor, v.patch]
def Version.text (v : Version) : String := ".".intercalate (v.numbers.map Nat.repr)
def numeral (n : Nat) : List Char := Nat.toDigits 10 n
/-- In the first component in which they differ, the first version is lower, but where the two numerals differ first, as
texts, its numeral is greater. -/
def Overtakes (v w : Version) : Prop :=
  ∃ front x y rest rest', v.numbers = front ++ x :: rest ∧ w.numbers = front ++ y :: rest' ∧ x < y ∧ numeral y < numeral x

theorem Version.ext_numbers {v w : Version} (same : v.numbers = w.numbers) : v = w := by
  cases v
  cases w
  simpa [Version.numbers] using same
theorem Version.text_ne_empty (v : Version) : v.text ≠ "" := by
  intro empty
  have texts := congrArg String.toList empty
  simp [Version.text, Version.numbers] at texts
theorem numeral_injective {x y : Nat} (same : numeral x = numeral y) : x = y := by
  rw [← @Nat.ofDigitChars_ten_toDigits x, ← @Nat.ofDigitChars_ten_toDigits y]
  exact congrArg (Nat.ofDigitChars 10 · 0) same
/-- The full stop comes before the digits. -/
theorem separator_lt {n : Nat} : ∀ c ∈ numeral n, '.' < c := by
  intro c inside
  have digit := Nat.isDigit_of_mem_toDigits (by decide) (by decide) inside
  have least : '0' ≤ c := by
    simp only [Char.isDigit, Bool.and_eq_true, decide_eq_true_eq] at digit
    exact digit.1
  exact Nat.lt_of_lt_of_le (by decide : '.'.toNat < '0'.toNat) least

/-- Texts are in the order of the numerals. -/
theorem text_lt_iff (v w : Version) : v.text < w.text ↔ v.numbers.map numeral < w.numbers.map numeral := by
  have letters (v : Version) : v.text.toList = ['.'].intercalate (v.numbers.map numeral) := by
    simp only [Version.text, String.toList_intercalate, List.map_map]
    exact congrArg _ (List.map_congr_left fun _ _ => Nat.toList_repr)
  rw [String.lt_iff, letters, letters]
  refine intercalate_lt_iff rfl ?_ ?_
  · exact List.forall_mem_map.mpr fun _ _ => separator_lt
  · exact List.forall_mem_map.mpr fun _ _ => separator_lt
theorem text_injective {v w : Version} (same : v.text = w.text) : v = w := by
  have unordered : ¬ v.numbers.map numeral < w.numbers.map numeral ∧ ¬ w.numbers.map numeral < v.numbers.map numeral := by
    rw [← text_lt_iff, ← text_lt_iff, same]
    exact ⟨String.lt_irrefl _, String.lt_irrefl _⟩
  have words := List.le_antisymm (List.not_lt.mp unordered.2) (List.not_lt.mp unordered.1)
  exact Version.ext_numbers (List.map_injective_iff.mpr (fun _ _ => numeral_injective) words)
/-- One version overtakes another exactly if it is lower and its text is greater. -/
theorem overtakes_iff {v w : Version} : Overtakes v w ↔ v.numbers < w.numbers ∧ w.text < v.text := by
  have lengths : v.numbers.length = w.numbers.length := rfl
  have numerals {front rest rest' : List Nat} {x y : Nat} (differ : x < y) (isV : v.numbers = front ++ x :: rest)
      (isW : w.numbers = front ++ y :: rest') : w.text < v.text ↔ numeral y < numeral x := by
    rw [text_lt_iff, isV, isW, List.map_append, List.map_append, List.map_cons, List.map_cons]
    have other : numeral y ≠ numeral x := fun same => absurd (numeral_injective same) differ.ne'
    constructor
    · intro less
      have tails : numeral y :: rest'.map numeral < numeral x :: rest.map numeral := by
        by_contra notLess
        rcases List.le_iff_lt_or_eq.mp (List.not_lt.mp notLess) with greater | same
        · exact List.lt_asymm less (List.append_left_lt greater)
        · rw [same] at less
          exact List.lt_irrefl _ less
      exact (List.cons_lt_cons_iff.mp tails).resolve_right fun same => other same.1
    · exact fun less => List.append_left_lt (List.cons_lt_cons_iff.mpr (.inl less))
  constructor
  · rintro ⟨front, x, y, rest, rest', isV, isW, less, overtakes⟩
    exact ⟨(lt_iff_first lengths).mpr ⟨front, x, y, rest, rest', isV, isW, less⟩, (numerals less isV isW).mpr overtakes⟩
  · rintro ⟨lower, greater⟩
    obtain ⟨front, x, y, rest, rest', isV, isW, less⟩ := (lt_iff_first lengths).mp lower
    exact ⟨front, x, y, rest, rest', isV, isW, less, (numerals less isV isW).mp greater⟩

/-! ### What is published, and what is asked for -/

/-- The versions of a prompt that are no drafts. -/
def published (tables : Tables) (promptId : String) : List (Row VersionColumn) :=
  tables.versions.rows.filter fun row => row.cells .prompt_id = promptId ∧ row.cells .status ≠ "DRAFT"
def IsPublished (tables : Tables) (promptId : String) (v : Version) : Prop :=
  ∃ row ∈ published tables promptId, row.cells .version = v.text
/-- A published version that no other exceeds. -/
def Highest (tables : Tables) (promptId : String) (v : Version) : Prop :=
  IsPublished tables promptId v ∧ ∀ w, IsPublished tables promptId w → ¬ v.numbers < w.numbers

/-- One of some versions is exceeded by none. -/
theorem exists_greatest {rows : List (Row VersionColumn)} (nonempty : rows ≠ [])
    (numbered : ∀ row ∈ rows, ∃ v : Version, row.cells .version = v.text) :
    ∃ v : Version, (∃ row ∈ rows, row.cells .version = v.text) ∧
      ∀ w : Version, (∃ row ∈ rows, row.cells .version = w.text) → ¬ v.numbers < w.numbers := by
  -- The versions are those whose texts are in the rows, so they are no more than the rows.
  have finite : {v : Version | ∃ row ∈ rows, row.cells .version = v.text}.Finite := by
    refine ((List.finite_toSet (rows.map (·.cells .version))).preimage (f := Version.text) fun _ _ _ _ => text_injective).subset ?_
    rintro v ⟨row, listed, isText⟩
    exact List.mem_map.mpr ⟨row, listed, isText⟩
  have inhabited : {v : Version | ∃ row ∈ rows, row.cells .version = v.text}.Nonempty := by
    obtain ⟨row, listed⟩ := List.exists_mem_of_ne_nil rows nonempty
    obtain ⟨v, isText⟩ := numbered row listed
    exact ⟨v, row, listed, isText⟩
  obtain ⟨v, listed, greatest⟩ := Set.exists_max_image _ Version.numbers finite inhabited
  exact ⟨v, listed, fun w listed' => not_lt.mpr (greatest w listed')⟩

section
variable [Platform]

/-- A request with a known key that selects a prompt, by its id or its name, and names no version. -/
structure AsksFor (input : PromptCompiledInput) (apiKeys : List String) (tables : Tables) (prompt : Row PromptColumn) : Prop where
  valid : validatePromptCompiledInput input = .ok ()
  known : input.apiKey ∈ apiKeys
  readable : ∀ id ∈ present input.id, (toUUID id).isSome = true
  stored : prompt ∈ tables.prompts.rows
  identified : prompt.id ≠ ""
  selects : ∀ row ∈ joined tables, meets (specific input) row = true ↔ row.promptId = prompt.id
/-- Every answer to the request is the highest published version. -/
def AnswersHighest (input : PromptCompiledInput) (apiKeys : List String) (tables : Tables) (prompt : Row PromptColumn) : Prop :=
  ∀ promptData, SpecificData (specific input) tables promptData → ∃ response, getCompiledPrompt apiKeys promptData input = .ok response ∧
    response.promptId = prompt.id ∧ ∃ v, Highest tables prompt.id v ∧ response.version = v.text ∧
      ∃ row ∈ published tables prompt.id, row.id = response.versionId ∧ row.cells .version = v.text

variable {input : PromptCompiledInput} {apiKeys : List String} {tables : Tables} {prompt : Row PromptColumn}

omit [Platform] in
theorem joined_published (nonempty : published tables prompt.id ≠ []) {found : SpecificPrompt} (inside : found ∈ joined tables)
    (isPrompt : found.promptId = prompt.id) :
    ∃ row ∈ published tables prompt.id, found.versionId = row.id ∧ found.version = row.cells .version := by
  obtain ⟨other, -, inside⟩ := List.mem_flatMap.mp inside
  split at inside
  next none =>
    obtain rfl := List.mem_singleton.mp inside
    have same : other.id = prompt.id := isPrompt
    rw [same] at none
    exact absurd none nonempty
  next rows isRows =>
    obtain ⟨row, isRow, rfl⟩ := List.mem_map.mp inside
    have same : other.id = prompt.id := isPrompt
    rw [same] at isRow
    exact ⟨row, isRow, rfl, rfl⟩
omit [Platform] in
theorem mem_joined_published (stored : prompt ∈ tables.prompts.rows) {row : Row VersionColumn} (isRow : row ∈ published tables prompt.id) :
    joinedRow prompt (some row) ∈ joined tables := by
  refine List.mem_flatMap.mpr ⟨prompt, stored, ?_⟩
  split
  next none =>
    rw [published, none] at isRow
    exact nomatch isRow
  next rows isRows => exact List.mem_map.mpr ⟨row, isRow, rfl⟩

/-- The first row of an answer is of a published version with the greatest text. -/
theorem first_greatest (asks : AsksFor input apiKeys tables prompt) (nonempty : published tables prompt.id ≠ [])
    {promptData : List SpecificPrompt} (data : SpecificData (specific input) tables promptData) :
    ∃ first, promptData.head? = some first ∧ first.promptId = prompt.id ∧
      ∃ row ∈ published tables prompt.id, first.versionId = row.id ∧ first.version = row.cells .version ∧
        ∀ other ∈ published tables prompt.id, ¬ row.cells .version < other.cells .version := by
  have asked {found : SpecificPrompt} : found ∈ promptData ↔ found ∈ joined tables ∧ found.promptId = prompt.id := by
    rw [data.1.mem_iff, List.mem_filter]
    exact and_congr_right fun inside => asks.selects found inside
  have listed {row : Row VersionColumn} (isRow : row ∈ published tables prompt.id) : joinedRow prompt (some row) ∈ promptData :=
    asked.mpr ⟨mem_joined_published asks.stored isRow, rfl⟩
  cases promptData with
  | nil =>
    obtain ⟨row, isRow⟩ := List.exists_mem_of_ne_nil _ nonempty
    exact nomatch listed isRow
  | cons first rest =>
    obtain ⟨isJoined, isPrompt⟩ := asked.mp List.mem_cons_self
    obtain ⟨row, isRow, isId, isVersion⟩ := joined_published nonempty isJoined isPrompt
    refine ⟨first, rfl, isPrompt, row, isRow, isId, isVersion, fun other isOther greater => ?_⟩
    rw [← isVersion] at greater
    rcases List.mem_cons.mp (listed isOther) with same | later
    · rw [← same] at greater
      exact String.lt_irrefl _ greater
    · exact absurd greater (String.not_lt.mpr (List.rel_of_pairwise_cons data.2 later))
theorem answers_first (asks : AsksFor input apiKeys tables prompt) {promptData : List SpecificPrompt} {first : SpecificPrompt}
    (isFirst : promptData.head? = some first) (isPrompt : first.promptId = prompt.id) (numbered : first.version ≠ "") :
    getCompiledPrompt apiKeys promptData input = .ok (answer first input) :=
  getCompiledPrompt_eq_ok.mpr ⟨⟨(), asks.valid⟩, asks.known, asks.readable, first, isFirst, isPrompt ▸ asks.identified, numbered, rfl⟩

/-- The answer cannot be the highest version if another one overtakes it. -/
theorem not_overtaken (asks : AsksFor input apiKeys tables prompt)
    (numbered : ∀ row ∈ published tables prompt.id, ∃ v : Version, row.cells .version = v.text)
    (answers : AnswersHighest input apiKeys tables prompt) {v w : Version} (isPublished : IsPublished tables prompt.id v)
    (highest : Highest tables prompt.id w) : ¬ Overtakes v w := by
  intro overtakes
  obtain ⟨lower, greater⟩ := overtakes_iff.mp overtakes
  obtain ⟨other, isOther, isText'⟩ := isPublished
  obtain ⟨promptData, data⟩ := exists_specificData (specific input) tables
  obtain ⟨first, isFirst, isPrompt, row, isRow, -, isVersion, greatest⟩ := first_greatest asks (List.ne_nil_of_mem isOther) data
  obtain ⟨response, done, -, v', highest', isText, -⟩ := answers promptData data
  obtain ⟨top, isTop⟩ := numbered row isRow
  have named : first.version ≠ "" := by
    rw [isVersion, isTop]
    exact top.text_ne_empty
  rw [answers_first asks isFirst isPrompt named] at done
  obtain rfl := Except.ok.inj done
  -- The version that is answered is as high as the other, so it is the same, and its text is not the greatest.
  have same : v' = w := Version.ext_numbers
    (List.le_antisymm (List.not_lt.mp (highest.2 v' highest'.1)) (List.not_lt.mp (highest'.2 w highest.1)))
  have answered : first.version = w.text := same ▸ isText
  rw [← answered, ← isText', isVersion] at greater
  exact greatest other isOther greater

/-- The answer is the highest version in every case exactly if no published version overtakes it. -/
theorem highest_answered_iff (asks : AsksFor input apiKeys tables prompt) (nonempty : published tables prompt.id ≠ [])
    (numbered : ∀ row ∈ published tables prompt.id, ∃ v : Version, row.cells .version = v.text) :
    AnswersHighest input apiKeys tables prompt ↔
      ∀ v w, IsPublished tables prompt.id v → Highest tables prompt.id w → ¬ Overtakes v w := by
  constructor
  · exact fun answers v w isPublished highest => not_overtaken asks numbered answers isPublished highest
  · intro none promptData data
    obtain ⟨first, isFirst, isPrompt, row, isRow, isId, isVersion, greatest⟩ := first_greatest asks nonempty data
    obtain ⟨v, isText⟩ := numbered row isRow
    have named : first.version ≠ "" := by
      rw [isVersion, isText]
      exact v.text_ne_empty
    refine ⟨_, answers_first asks isFirst isPrompt named, isPrompt, v, ⟨⟨row, isRow, isText⟩, ?_⟩, isVersion.trans isText, row, isRow,
      isId.symm, isText⟩
    intro w isPublished lower
    obtain ⟨top, ⟨other, isOther, isText'⟩, greatest'⟩ := exists_greatest nonempty numbered
    have below : v.numbers < top.numbers := by
      rcases List.le_iff_lt_or_eq.mp (List.not_lt.mp (greatest' w isPublished)) with less | same
      · exact List.lt_trans lower less
      · exact same ▸ lower
    have notGreater := greatest other isOther
    rw [isText, isText'] at notGreater
    refine none v top ⟨row, isRow, isText⟩ ⟨⟨other, isOther, isText'⟩, greatest'⟩ (overtakes_iff.mpr ⟨below, ?_⟩)
    by_contra notLess
    rw [text_injective (String.le_antisymm (String.not_lt.mp notLess) (String.not_lt.mp notGreater))] at below
    exact List.lt_irrefl _ below

end

/-! ### Nine and ten -/

section
attribute [local instance] sqlstringPlatform

/-- A prompt whose first version is followed by another. -/
def afterVersions (first second : String) : Tables :=
  PromptTexts.next
    (PromptTexts.next emptyTables (.createPrompt
      { name := "greeting", prompt := "Hello", version := first, status := "PUBLISHED", tags := [], metaProperties := [] }))
    (.upsertPromptVersion { promptId := RuleLinkSync.sampleId, prompt := some "Hi", version := some second, status := some "PUBLISHED" })
def fetch : PromptCompiledInput := { name := some "greeting", apiKey := "openlit-key" }

/-- The stored prompt, for which the request asks. -/
theorem exists_asked {first second : String} (only : (afterVersions first second).prompts.rows ≠ [] ∧
      (∀ prompt ∈ (afterVersions first second).prompts.rows, prompt.id = RuleLinkSync.sampleId) ∧
      ∀ row ∈ joined (afterVersions first second), meets (specific fetch) row = true ∧ row.promptId = RuleLinkSync.sampleId) :
    ∃ prompt, prompt.id = RuleLinkSync.sampleId ∧ AsksFor fetch ["openlit-key"] (afterVersions first second) prompt := by
  obtain ⟨nonempty, identified, selects⟩ := only
  obtain ⟨prompt, stored⟩ := List.exists_mem_of_ne_nil _ nonempty
  have isId := identified prompt stored
  refine ⟨prompt, isId, ⟨rfl, List.mem_singleton_self _, nofun, stored, by rw [isId]; decide, fun row inside => ?_⟩⟩
  rw [isId]
  exact iff_of_true (selects row inside).1 (selects row inside).2

section
variable {tables : Tables} {promptId : String} {v w : Version}

theorem numbered_of_two (versions : ∀ row ∈ published tables promptId, row.cells .version = v.text ∨ row.cells .version = w.text) :
    ∀ row ∈ published tables promptId, ∃ u : Version, row.cells .version = u.text := by
  intro row isRow
  rcases versions row isRow with isV | isW
  · exact ⟨v, isV⟩
  · exact ⟨w, isW⟩
theorem isPublished_of_two (versions : ∀ row ∈ published tables promptId, row.cells .version = v.text ∨ row.cells .version = w.text)
    {u : Version} (isPublished : IsPublished tables promptId u) : u = v ∨ u = w := by
  obtain ⟨row, isRow, isU⟩ := isPublished
  rcases versions row isRow with isV | isW
  · exact .inl (text_injective (isU.symm.trans isV))
  · exact .inr (text_injective (isU.symm.trans isW))

end

/-- The numbers 8 and 9 have a digit each. -/
theorem highest_answered_nine : ∃ prompt, AnswersHighest fetch ["openlit-key"] (afterVersions "1.8.0" "1.9.0") prompt := by
  obtain ⟨prompt, isId, asks⟩ := @exists_asked "1.8.0" "1.9.0" (by decide +kernel)
  obtain ⟨versions, nonempty⟩ : (∀ row ∈ published (afterVersions "1.8.0" "1.9.0") RuleLinkSync.sampleId,
      row.cells .version = (⟨1, 8, 0⟩ : Version).text ∨ row.cells .version = (⟨1, 9, 0⟩ : Version).text) ∧
      published (afterVersions "1.8.0" "1.9.0") RuleLinkSync.sampleId ≠ [] := by decide +kernel
  refine ⟨prompt, (highest_answered_iff asks (isId ▸ nonempty) (isId ▸ numbered_of_two versions)).mpr fun v w isPublished highest => ?_⟩
  rw [isId] at isPublished highest
  rw [overtakes_iff]
  rcases isPublished_of_two versions isPublished with rfl | rfl <;> rcases isPublished_of_two versions highest.1 with rfl | rfl <;>
    decide +kernel

/-- The version 1.9.0 is answered, although 1.10.0 is published. -/
theorem ten_not_answered : ∃ prompt, AsksFor fetch ["openlit-key"] (afterVersions "1.9.0" "1.10.0") prompt ∧
    (∀ row ∈ published (afterVersions "1.9.0" "1.10.0") prompt.id, ∃ v : Version, row.cells .version = v.text) ∧
      ¬ AnswersHighest fetch ["openlit-key"] (afterVersions "1.9.0" "1.10.0") prompt := by
  obtain ⟨prompt, isId, asks⟩ := @exists_asked "1.9.0" "1.10.0" (by decide +kernel)
  have versions : ∀ row ∈ published (afterVersions "1.9.0" "1.10.0") RuleLinkSync.sampleId,
      row.cells .version = (⟨1, 9, 0⟩ : Version).text ∨ row.cells .version = (⟨1, 10, 0⟩ : Version).text := by decide +kernel
  obtain ⟨nine, ten⟩ : IsPublished (afterVersions "1.9.0" "1.10.0") RuleLinkSync.sampleId ⟨1, 9, 0⟩ ∧
      IsPublished (afterVersions "1.9.0" "1.10.0") RuleLinkSync.sampleId ⟨1, 10, 0⟩ := by
    unfold IsPublished
    decide +kernel
  have highest : Highest (afterVersions "1.9.0" "1.10.0") RuleLinkSync.sampleId ⟨1, 10, 0⟩ := by
    refine ⟨ten, fun u isPublished => ?_⟩
    rcases isPublished_of_two versions isPublished with rfl | rfl <;> decide
  have numbered : ∀ row ∈ published (afterVersions "1.9.0" "1.10.0") prompt.id, ∃ v : Version, row.cells .version = v.text :=
    isId ▸ numbered_of_two versions
  refine ⟨prompt, asks, numbered, fun answers => ?_⟩
  rw [← isId] at nine highest
  exact not_overtaken asks numbered answers nine highest ⟨[1], 9, 10, [0], [0], rfl, rfl, by decide, by decide⟩

end
end Openlit.VersionOrder
