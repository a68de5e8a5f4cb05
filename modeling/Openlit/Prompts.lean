import Mathlib.Data.List.ReduceOption
import Openlit.ClickHouse
import Openlit.Text

/-!
Prompts and their versions (`prompt/index.ts`, `version.ts`, `compiled.ts`,
`helpers/server/prompt.ts`, `utils/string.ts`) of one database. The user is the
email of the session, `none` without one. What is left out are the downloads that
reading a prompt records, and the tags and meta properties of what is read.
-/
namespace Openlit.Prompts
open Openlit.JsonText Openlit.Literals Openlit.RuleLinks Openlit.ClickHouse Openlit.Text
open Storage

/-! ### Tables -/

inductive PromptColumn
  | name | created_by
  deriving DecidableEq, Repr
inductive VersionColumn
  | prompt_id | updated_by | version | status | prompt | tags | meta_properties
  deriving DecidableEq, Repr

def VersionColumn.text : VersionColumn → List Char
  | .prompt_id => "prompt_id".toList
  | .updated_by => "updated_by".toList
  | .version => "version".toList
  | .status => "status".toList
  | .prompt => "prompt".toList
  | .tags => "tags".toList
  | .meta_properties => "meta_properties".toList
/-- The members of the `Enum` of statuses. -/
def isStatus (text : String) : Bool := text ∈ ["PUBLISHED", "DRAFT"]
/-- `OPENLIT_PROMPT_VERSIONS_TABLE_NAME`. -/
def versionSchema : Schema VersionColumn where
  table := "openlit_prompt_versions".toList
  key := "version_id".toList
  name := VersionColumn.text
  named name := [.prompt_id, .updated_by, .version, .status, .prompt, .tags, .meta_properties].find? (·.text = name)
  named_name column := by cases column <;> decide
  accepts column text := column ≠ .status || isStatus text
  times := ["updated_at".toList]

/-- The rows of `OPENLIT_PROMPTS_TABLE_NAME` and of the versions. -/
structure Tables where
  prompts : Table PromptColumn
  versions : Table VersionColumn

/-! ### Saving -/

/-- `Record<string, unknown>`. -/
abbrev Properties := List (String × Json)

structure PromptInput where
  name : String
  prompt : String
  version : String
  status : String
  tags : List String
  metaProperties : Properties
structure PromptUpdate where
  versionId : Option String := none
  promptId : String
  prompt : Option String := none
  version : Option String := none
  status : Option String := none
  tags : Option (List String) := none
  metaProperties : Option Properties := none

def jsonTags (tags : List String) : String := jsonStringify (.array (tags.map .string))
def jsonProperties (properties : Properties) : String := jsonStringify (.object properties)

def verifyPromptInput (input : PromptInput) : Except String Unit :=
  if input.name = "" then throw "Name should be present!"
  else if input.prompt = "" then throw "Prompt should be present!"
  else pure ()

section
variable [Platform]

def PromptInput.sanitizeObject (input : PromptInput) : PromptInput :=
  { name := sanitizeValue input.name
    prompt := sanitizeValue input.prompt
    version := sanitizeValue input.version
    status := sanitizeValue input.status
    tags := input.tags.map sanitizeValue
    metaProperties := sanitizeFields input.metaProperties }
def PromptUpdate.sanitizeObject (input : PromptUpdate) : PromptUpdate :=
  { versionId := input.versionId.map sanitizeValue
    promptId := sanitizeValue input.promptId
    prompt := input.prompt.map sanitizeValue
    version := input.version.map sanitizeValue
    status := input.status.map sanitizeValue
    tags := input.tags.map (·.map sanitizeValue)
    metaProperties := input.metaProperties.map sanitizeFields }

def getPromptByName (name : String) (prompts : Table PromptColumn) : Option (Row PromptColumn) :=
  prompts.rows.find? fun row => literalText (sanitizeValue name) = some (row.cells .name)
/-- An insert of a version, which is refused for a prompt that is no UUID and for an unknown status. -/
def insertVersion (promptId : String) (cells : VersionColumn → String) (versions : Table VersionColumn) :
    Except String (Table VersionColumn) :=
  match toUUID promptId with
  | none => throw (rejection promptId)
  | some id =>
    if isStatus (cells .status) then pure (versions.insert (Function.update cells .prompt_id id))
    else throw (rejection (cells .status))

def promptValues (name email : String) : PromptColumn → String
  | .name => name
  | .created_by => email
/-- The columns of the version that a prompt is created with. -/
def createdValues (promptId email : String) (input : PromptInput) : VersionColumn → String
  | .prompt_id => promptId
  | .updated_by => email
  | .version => input.version
  | .status => input.status
  | .prompt => input.prompt
  | .tags => jsonTags input.tags
  | .meta_properties => jsonProperties input.metaProperties
/-- The tables after a request with its result, which is the message of an error or the id of the
    prompt. A prompt whose version is refused stays. -/
def createPrompt (user : Option String) (params : PromptInput) (tables : Tables) : Tables × Except String String :=
  match user with
  | none => (tables, throw "Unauthorized user!")
  | some email =>
    let input := params.sanitizeObject
    match verifyPromptInput input with
    | .error err => (tables, throw err)
    | .ok _ =>
      if (getPromptByName input.name tables.prompts).isSome then (tables, throw "Prompt name is already taken!")
      else
        let prompts := tables.prompts.insert (promptValues input.name email)
        match getPromptByName input.name prompts with
        | none => ({ tables with prompts := prompts }, throw "Prompt cannot be created!")
        | some promptData =>
          match insertVersion promptData.id (createdValues promptData.id email input) tables.versions with
          | .error err => ({ tables with prompts := prompts }, throw err)
          | .ok versions => (⟨prompts, versions⟩, pure promptData.id)

/-- The texts of `updateValues` that are not falsy, by their columns. -/
def updateValues (email : String) (input : PromptUpdate) : List (VersionColumn × String) :=
  [some (.updated_by, email),
    (present input.version).map (.version, ·),
    (present input.status).map (.status, ·),
    (present input.prompt).map (.prompt, ·),
    input.tags.map (.tags, jsonTags ·),
    input.metaProperties.map (.meta_properties, jsonProperties ·)].reduceOption
def updateQuery (email : String) (input : PromptUpdate) : String :=
  "\n      ALTER TABLE openlit_prompt_versions\n      UPDATE \n        " ++
    " , ".intercalate ((updateValues email input).map (assignment versionSchema)) ++
    "\n      WHERE version_id = '" ++ input.versionId.getD "" ++ "'"
/-- The columns of an added version, with the defaults of the table. -/
def addedValues (email : String) (input : PromptUpdate) : VersionColumn → String
  | .prompt_id => input.promptId
  | .updated_by => email
  | .version => input.version.getD ""
  | .status => input.status.getD "PUBLISHED"
  | .prompt => input.prompt.getD ""
  | .tags => (input.tags.map jsonTags).getD "[]"
  | .meta_properties => (input.metaProperties.map jsonProperties).getD "\x7b\x7d"
def upsertPromptVersion (user : Option String) (params : PromptUpdate) (tables : Tables) : Except String Tables := do
  let some email := user | throw "Unauthorized user!"
  let input := params.sanitizeObject
  let versions ←
    if (present input.versionId).isSome then exec versionSchema (updateQuery email input) tables.versions
    else insertVersion input.promptId (addedValues email input) tables.versions
  pure { tables with versions := versions }

/-! ### Reading -/

structure SpecificPromptInput where
  id : Option String := none
  name : Option String := none
  version : Option String := none
/-- A row of `getSpecificPrompt`. -/
structure SpecificPrompt where
  promptId : String
  versionId : String
  name : String
  version : String
  prompt : String
  deriving DecidableEq

/-- A prompt with a version of it, or with the empty values that a join fills in. -/
def joinedRow (prompt : Row PromptColumn) : Option (Row VersionColumn) → SpecificPrompt
  | some row => ⟨prompt.id, row.id, prompt.cells .name, row.cells .version, row.cells .prompt⟩
  | none => ⟨prompt.id, "00000000-0000-0000-0000-000000000000", prompt.cells .name, "", ""⟩
/-- The prompts with their versions that are no drafts, as a left join has them. -/
def joined (tables : Tables) : List SpecificPrompt :=
  tables.prompts.rows.flatMap fun prompt =>
    match tables.versions.rows.filter fun row => row.cells .prompt_id = prompt.id ∧ row.cells .status ≠ "DRAFT" with
    | [] => [joinedRow prompt none]
    | rows => rows.map fun row => joinedRow prompt (some row)
/-- The conditions of `conditionClauses`, where a text that is given is not empty. -/
def meets (input : SpecificPromptInput) (row : SpecificPrompt) : Bool :=
  (present input.id).all (fun id => toUUID id = some row.promptId) &&
    (present input.name).all (fun name => valueOf (sanitizeValue name) = row.name) &&
    (present input.version).all fun version => valueOf (sanitizeValue version) = row.version
/-- Data that the query may return: the rows that are asked for, the highest version first. -/
def SpecificData (input : SpecificPromptInput) (tables : Tables) (promptData : List SpecificPrompt) : Prop :=
  promptData.Perm ((joined tables).filter (meets input)) ∧ promptData.Pairwise fun row next => next.version ≤ row.version

end

structure PromptCompiledInput where
  id : Option String := none
  name : Option String := none
  apiKey : String
  «variables» : List (String × String) := []
  version : Option String := none
  shouldCompile : Option Bool := none

def validatePromptCompiledInput (input : PromptCompiledInput) : Except String Unit :=
  if input.apiKey = "" then throw "API key should be present!"
  else if (present input.id).isNone && (present input.name).isNone then throw "Both Id and Name cannot be undefined!"
  else pure ()

/-- `str.replace(/\\n/g, "\n")`: every backslash before an `n` goes with it. -/
def unescaped : List Char → List Char
  | [] => []
  | '\\' :: 'n' :: rest => '\n' :: unescaped rest
  | c :: rest => c :: unescaped rest
def unescapeString (str : String) : String := String.ofList (unescaped str.toList)

/-- What a replacement stands for at an occurrence of a pattern: `$$`, `$&` and the text before and after it. -/
def expansion (pattern front back : List Char) : List Char → List Char
  | [] => []
  | '$' :: '$' :: rest => '$' :: expansion pattern front back rest
  | '$' :: '&' :: rest => pattern ++ expansion pattern front back rest
  | '$' :: '\x60' :: rest => front ++ expansion pattern front back rest
  | '$' :: '\'' :: rest => back ++ expansion pattern front back rest
  | c :: rest => c :: expansion pattern front back rest
/-- The rest of `replaceAll` on a text whose front is done, after some more characters of an occurrence. -/
def replaced (pattern replacement : List Char) : List Char → Nat → List Char → List Char
  | _, _, [] => []
  | front, skip + 1, c :: rest => replaced pattern replacement (front ++ [c]) skip rest
  | front, 0, c :: rest =>
    if pattern <+: c :: rest then
      expansion pattern front ((c :: rest).drop pattern.length) replacement ++
        replaced pattern replacement (front ++ [c]) (pattern.length - 1) rest
    else c :: replaced pattern replacement (front ++ [c]) 0 rest
def replaceAll (text pattern replacement : String) : String :=
  String.ofList (replaced pattern.toList replacement.toList [] 0 text.toList)
def compilePrompt (prompt : String) (variables' : List (String × String)) : String :=
  variables'.foldl (fun acc (key, value) => replaceAll acc ("\x7b\x7b" ++ key ++ "\x7d\x7d") value) prompt

structure CompiledPrompt where
  promptId : String
  versionId : String
  name : String
  version : String
  prompt : String
  compiledPrompt : String

def answer (row : SpecificPrompt) (input : PromptCompiledInput) : CompiledPrompt where
  promptId := row.promptId
  versionId := row.versionId
  name := row.name
  version := row.version
  prompt := unescapeString row.prompt
  compiledPrompt :=
    if input.shouldCompile = some false then unescapeString row.prompt
    else compilePrompt (unescapeString row.prompt) input.«variables»
/-- The answer to a request with the key of a database, from the data that the query for its prompt
    returns. A query for an id that is no UUID fails. -/
def getCompiledPrompt [Platform] (apiKeys : List String) (promptData : List SpecificPrompt) (input : PromptCompiledInput) :
    Except String CompiledPrompt :=
  match validatePromptCompiledInput input with
  | .error err => throw err
  | .ok _ =>
    if input.apiKey ∉ apiKeys then throw "No such apiKey exists!"
    else if (present input.id).any fun id => (toUUID id).isNone then throw (rejection (input.id.getD ""))
    else
      match promptData.head?.filter fun row => row.promptId ≠ "" ∧ row.version ≠ "" with
      | none => throw "No such prompt exists or isn't released yet!"
      | some row => pure (answer row input)

theorem getCompiledPrompt_eq_ok [Platform] {apiKeys : List String} {promptData : List SpecificPrompt}
    {input : PromptCompiledInput} {response : CompiledPrompt} :
    getCompiledPrompt apiKeys promptData input = .ok response ↔
      (∃ u, validatePromptCompiledInput input = .ok u) ∧ input.apiKey ∈ apiKeys ∧
        (∀ id ∈ present input.id, (toUUID id).isSome = true) ∧
        ∃ row, promptData.head? = some row ∧ row.promptId ≠ "" ∧ row.version ≠ "" ∧ answer row input = response := by
  rw [getCompiledPrompt]
  cases validatePromptCompiledInput input with
  | error err => simp [throw, throwThe, MonadExceptOf.throw]
  | ok u =>
    by_cases known : input.apiKey ∈ apiKeys
    · have readable : (∀ id ∈ present input.id, (toUUID id).isSome = true) ↔
          (present input.id).any (fun id => (toUUID id).isNone) = false := by
        cases present input.id with
        | none => simp
        | some id => cases found : toUUID id <;> simp [found]
      rw [readable]
      cases unread : (present input.id).any fun id => (toUUID id).isNone with
      | true => simp [known, throw, throwThe, MonadExceptOf.throw]
      | false =>
        cases promptData with
        | nil => simp [known, throw, throwThe, MonadExceptOf.throw]
        | cons row rows =>
          by_cases numbered : row.promptId ≠ "" ∧ row.version ≠ ""
          · simp [known, Option.filter_some, numbered, pure, Except.pure]
          · have dropped : ∀ answered : row.promptId ≠ "", row.version = "" := not_and_not_right.mp numbered
            simp only [known, List.head?_cons, Option.filter_some, numbered]
            simp +contextual [dropped, throw, throwThe, MonadExceptOf.throw]
    · simp [known, throw, throwThe, MonadExceptOf.throw]

/-! ### Saving, in one step each -/

def versionLayout : versionSchema.Layout where
  table := "openlit_prompt_versions".toList
  stamps := []
  header := "\n      ALTER TABLE openlit_prompt_versions\n      UPDATE \n        ".toList
  separator := " , ".toList
  footer := "\n      WHERE ".toList
  apart := by decide
  bare := by decide
  isTable := rfl
  timed := nofun
  named column := by cases column <;> exact ⟨by decide, by decide, by decide, by decide⟩
  keyed := ⟨by decide, by decide, by decide, by decide⟩

theorem versionHeader :
    versionLayout.header = "\n      ALTER TABLE openlit_prompt_versions\n      UPDATE \n        ".toList := rfl
theorem versionFooter : versionLayout.footer = "\n      WHERE ".toList := rfl

theorem updateQuery_eq (email : String) (input : PromptUpdate) :
    updateQuery email input = versionLayout.text (updateValues email input) (input.versionId.getD "") :=
  (versionLayout.text_eq versionHeader (rfl : _ = " , ".toList) versionFooter (rfl : _ = "version_id".toList) (by decide) _ _).symm

section
variable [Platform]

/-- The columns that an update of a version sets, with what their literals are read as. -/
def versionSettings (email : String) (params : PromptUpdate) : List (VersionColumn × String) :=
  (updateValues email params.sanitizeObject).map fun item => (item.1, valueOf item.2)
/-- The texts of an update that are not sanitized before they are quoted, or not as a whole. -/
structure Quotable (email : String) (params : PromptUpdate) : Prop where
  email : Closed email
  tags : ∀ tags ∈ params.tags, Closed (jsonTags (tags.map sanitizeValue))
  metaProperties : ∀ properties ∈ params.metaProperties, Closed (jsonProperties (sanitizeFields properties))

theorem prompt_set (row : Row VersionColumn) (email : String) (params : PromptUpdate) :
    (row.set (versionSettings email params)).cells .prompt =
      ((present params.prompt).map fun prompt => valueOf (sanitizeValue prompt)).getD (row.cells .prompt) := by
  refine Row.set_only (fun text => ?_) row
  simp [versionSettings, updateValues, PromptUpdate.sanitizeObject, present_sanitizeValue, List.reduceOption_mem_iff,
    @eq_comm _ (some _) (Option.map _ _)]

theorem closed_updateValues {email : String} {params : PromptUpdate} (quotable : Quotable email params) :
    ∀ item ∈ updateValues email params.sanitizeObject, Closed item.2 := by
  intro item inside
  simp only [updateValues, PromptUpdate.sanitizeObject, present_sanitizeValue, List.reduceOption_mem_iff, List.mem_cons,
    List.not_mem_nil, or_false, Option.some.injEq, Option.map_map] at inside
  rcases inside with rfl | isText | isText | isText | isTags | isProperties
  · exact quotable.email
  · obtain ⟨text, -, rfl⟩ := Option.map_eq_some_iff.mp isText.symm
    exact closed_sanitizeValue text
  · obtain ⟨text, -, rfl⟩ := Option.map_eq_some_iff.mp isText.symm
    exact closed_sanitizeValue text
  · obtain ⟨text, -, rfl⟩ := Option.map_eq_some_iff.mp isText.symm
    exact closed_sanitizeValue text
  · obtain ⟨tags, given, rfl⟩ := Option.map_eq_some_iff.mp isTags.symm
    exact quotable.tags tags given
  · obtain ⟨properties, given, rfl⟩ := Option.map_eq_some_iff.mp isProperties.symm
    exact quotable.metaProperties properties given

theorem insertVersion_ok {promptId : String} {cells : VersionColumn → String} {versions next : Table VersionColumn}
    (done : insertVersion promptId cells versions = .ok next) :
    ∃ id, toUUID promptId = some id ∧ next = versions.insert (Function.update cells .prompt_id id) := by
  simp only [insertVersion] at done
  split at done
  · exact nomatch done
  next id isId =>
    split at done
    · exact ⟨id, isId, (Except.ok.inj done).symm⟩
    · exact nomatch done
/-- A prompt that is created has a version with the sanitized text, and one that is refused has none. -/
theorem createPrompt_cases (email : String) (params : PromptInput) (tables : Tables) :
    (∃ err, (createPrompt (some email) params tables).2 = .error err ∧
      (createPrompt (some email) params tables).1.versions = tables.versions) ∨
    ∃ promptId cells, (createPrompt (some email) params tables).2 = .ok promptId ∧
      cells .prompt = sanitizeValue params.prompt ∧
      (createPrompt (some email) params tables).1.versions = tables.versions.insert cells := by
  simp only [createPrompt]
  split
  next err _ => exact .inl ⟨err, rfl, rfl⟩
  split
  · exact .inl ⟨_, rfl, rfl⟩
  split
  · exact .inl ⟨_, rfl, rfl⟩
  next promptData _ =>
    split
    next err _ => exact .inl ⟨err, rfl, rfl⟩
    next versions inserted =>
      obtain ⟨id, -, rfl⟩ := insertVersion_ok inserted
      exact .inr ⟨promptData.id, _, rfl, by simp [createdValues, PromptInput.sanitizeObject], rfl⟩

theorem upsertPromptVersion_add {email : String} {params : PromptUpdate} {tables next : Tables}
    (absent : present params.versionId = none) (done : upsertPromptVersion (some email) params tables = .ok next) :
    ∃ cells, cells .prompt = sanitizeValue (params.prompt.getD "") ∧ next.versions = tables.versions.insert cells := by
  have unidentified : (present params.sanitizeObject.versionId).isSome = false := by
    simp [PromptUpdate.sanitizeObject, present_sanitizeValue, absent]
  simp only [upsertPromptVersion, unidentified, Bool.false_eq_true, if_false] at done
  cases inserted : insertVersion params.sanitizeObject.promptId (addedValues email params.sanitizeObject) tables.versions with
  | error err =>
    rw [inserted] at done
    exact nomatch done
  | ok versions =>
    rw [inserted] at done
    obtain rfl := Except.ok.inj done
    obtain ⟨id, -, rfl⟩ := insertVersion_ok inserted
    refine ⟨_, ?_, rfl⟩
    cases text : params.prompt with
    | none => simp [addedValues, PromptUpdate.sanitizeObject, text, sanitizeValue_eq_empty.mpr rfl]
    | some prompt => simp [addedValues, PromptUpdate.sanitizeObject, text]
theorem upsertPromptVersion_update {email id : String} {params : PromptUpdate} {tables next : Tables}
    (given : present params.versionId = some id) (quotable : Quotable email params)
    (done : upsertPromptVersion (some email) params tables = .ok next) :
    ∃ named, toUUID id = some named ∧ next.versions = tables.versions.update named (versionSettings email params) := by
  have isId : params.versionId = some id := (Option.filter_eq_some_iff.mp given).1
  have identified : (present params.sanitizeObject.versionId).isSome = true := by
    simp [PromptUpdate.sanitizeObject, present_sanitizeValue, given]
  have isQuery : updateQuery email params.sanitizeObject =
      versionLayout.text (updateValues email params.sanitizeObject) (sanitizeValue id) := by
    rw [updateQuery_eq, PromptUpdate.sanitizeObject, isId]
    rfl
  simp only [upsertPromptVersion, identified, if_true, isQuery] at done
  cases query : exec versionSchema (versionLayout.text (updateValues email params.sanitizeObject) (sanitizeValue id))
      tables.versions with
  | error err =>
    rw [query] at done
    exact nomatch done
  | ok versions =>
    rw [query] at done
    obtain rfl := Except.ok.inj done
    exact exec_update_ok versionLayout (by simp [updateValues]) (closed_updateValues quotable) query

end
end Openlit.Prompts
