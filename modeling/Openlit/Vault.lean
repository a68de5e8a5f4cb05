import Mathlib.Data.List.ReduceOption
import Openlit.ClickHouse
import Openlit.Text

/-!
Secrets (`vault/index.ts`, `helpers/server/vault.ts`) and contexts
(`context/index.ts`, `helpers/server/context.ts`) of one database, with the
texts of their updates. The user is the email of the session, `none` without one.
-/
namespace Openlit.Vault
open Openlit.JsonText Openlit.Literals Openlit.RuleLinks Openlit.ClickHouse Openlit.Text
open Storage

/-! ### Secrets -/

inductive SecretColumn
  | key | value | created_by | updated_by | tags
  deriving DecidableEq, Repr

def SecretColumn.name : SecretColumn → List Char
  | .key => "key".toList
  | .value => "value".toList
  | .created_by => "created_by".toList
  | .updated_by => "updated_by".toList
  | .tags => "tags".toList
/-- `OPENLIT_VAULT_TABLE_NAME`. -/
def vaultSchema : Schema SecretColumn where
  table := "openlit_vault".toList
  key := "id".toList
  name := SecretColumn.name
  named name := [.key, .value, .created_by, .updated_by, .tags].find? (·.name = name)
  named_name column := by cases column <;> decide
  times := ["created_at".toList, "updated_at".toList]

/-- `Partial<SecretInput>`. -/
structure SecretInput where
  id : Option String := none
  key : Option String := none
  value : Option String := none
  tags : Option (List String) := none

section
variable [Platform]

def SecretInput.sanitizeObject (input : SecretInput) : SecretInput :=
  { id := input.id.map sanitizeValue
    key := input.key.map sanitizeValue
    value := input.value.map sanitizeValue
    tags := input.tags.map (·.map sanitizeValue) }

def verifySecretInput (input : SecretInput) : Except String Unit :=
  if input.key = some "" then throw "Key should be present!" else pure ()

/-- `checkNameValidity`, over what `getSecretByName` finds. -/
def checkNameValidity (vault : Table SecretColumn) (key : String) : Bool :=
  vault.rows.all fun row => literalText (sanitizeValue key) ≠ some (row.cells .key)

def jsonTags (tags : List String) : String := jsonStringify (.array (tags.map .string))

/-- The texts of `updateValues` that are not falsy, by their columns. -/
def updateValues (email : String) (input : SecretInput) : List (SecretColumn × String) :=
  [some (.updated_by, email),
    (present input.key).map (.key, ·),
    (present input.value).map (.value, ·),
    input.tags.map (.tags, jsonTags ·)].reduceOption
def updateQuery (email : String) (input : SecretInput) : String :=
  "\n      ALTER TABLE openlit_vault\n      UPDATE \n        " ++
    " , ".intercalate ((updateValues email input).map (assignment vaultSchema)) ++
    "\n      WHERE id = '" ++ input.id.getD "" ++ "'"

/-- The columns of an inserted secret, with the defaults of the table. -/
def insertValues (email : String) (input : SecretInput) : SecretColumn → String
  | .key => input.key.getD ""
  | .value => input.value.getD ""
  | .tags => (input.tags.map jsonTags).getD "[]"
  | .created_by => email
  | .updated_by => ""

def upsertSecret (user : Option String) (params : SecretInput) (vault : Table SecretColumn) :
    Except String (Table SecretColumn) := do
  let some email := user | throw "Unauthorized user!"
  let input := params.sanitizeObject
  verifySecretInput input
  if (present params.id).isSome then exec vaultSchema (updateQuery email input) vault
  else
    unless checkNameValidity vault (input.key.getD "") do throw "Secret name is taken!"
    pure (vault.insert (insertValues email input))

/-- `deleteSecret`, whose error is that of any failed query. -/
def deleteSecret (user : Option String) (id : String) (vault : Table SecretColumn) : Except String (Table SecretColumn) := do
  let some _ := user | throw "Unauthorized user!"
  match exec vaultSchema (deleteQuery vaultSchema (sanitizeValue id)) vault with
  | .ok vault => pure vault
  | .error _ => throw "Error deleting secret!"

/-! ### What is read of secrets -/

/-- A row of `SELECT * EXCEPT value` or of `SELECT *`. -/
structure Secret where
  id : String
  key : String
  value : Option String
  tags : String
def secretOf (excludeVaultValue : Bool) (row : Row SecretColumn) : Secret where
  id := row.id
  key := row.cells .key
  value := if excludeVaultValue then none else some (row.cells .value)
  tags := row.cells .tags

def getSecretById (id : String) (excludeVaultValue : Bool) (vault : Table SecretColumn) : List Secret :=
  (vault.rows.filter fun row => toUUID id = some row.id).map (secretOf excludeVaultValue)
/-- `normalizeSecretDataForSDK`: a later row of a key takes its place. -/
def normalizeSecretDataForSDK (secretData : List Secret) : String → Option String :=
  secretData.foldl (fun acc secret => Function.update acc secret.key secret.value) fun _ => none

end

/-! ### Contexts -/

inductive ContextColumn
  | name | content | description | tags | meta_properties | status | created_by
  deriving DecidableEq, Repr

def ContextColumn.text : ContextColumn → List Char
  | .name => "name".toList
  | .content => "content".toList
  | .description => "description".toList
  | .tags => "tags".toList
  | .meta_properties => "meta_properties".toList
  | .status => "status".toList
  | .created_by => "created_by".toList
/-- `OPENLIT_CONTEXTS_TABLE_NAME`. -/
def contextSchema : Schema ContextColumn where
  table := "openlit_contexts".toList
  key := "id".toList
  name := ContextColumn.text
  named name := [.name, .content, .description, .tags, .meta_properties, .status, .created_by].find? (·.text = name)
  named_name column := by cases column <;> decide
  times := ["created_at".toList, "updated_at".toList]

/-- `Partial<ContextInput>`. -/
structure ContextInput where
  name : Option String := none
  content : Option String := none
  description : Option String := none
  tags : Option String := none
  meta_properties : Option String := none
  status : Option String := none

def verifyContextInput (input : ContextInput) : Except String Unit :=
  if ((present input.name).filter (trim · ≠ "")).isNone then throw "Context name is required!"
  else if ((present input.content).filter (trim · ≠ "")).isNone then throw "Context content is required!"
  else if (present input.status).any (· ∉ ["ACTIVE", "INACTIVE"]) then throw "status must be ACTIVE or INACTIVE!"
  else pure ()

section
variable [Platform]

def ContextInput.sanitizeObject (input : ContextInput) : ContextInput :=
  { name := input.name.map sanitizeValue
    content := input.content.map sanitizeValue
    description := input.description.map sanitizeValue
    tags := input.tags.map sanitizeValue
    meta_properties := input.meta_properties.map sanitizeValue
    status := input.status.map sanitizeValue }

/-- The columns of an inserted context. -/
def contextValues (email : String) (input : ContextInput) : ContextColumn → String
  | .name => input.name.getD ""
  | .content => input.content.getD ""
  | .description => (present input.description).getD ""
  | .tags => (present input.tags).getD "[]"
  | .meta_properties => (present input.meta_properties).getD "\x7b\x7d"
  | .status => (present input.status).getD "ACTIVE"
  | .created_by => email
def createContext (user : Option String) (params : ContextInput) (contexts : Table ContextColumn) :
    Except String (Table ContextColumn) := do
  let some email := user | throw "Unauthorized user!"
  let input := params.sanitizeObject
  verifyContextInput input
  pure (contexts.insert (contextValues email input))

/-- The texts of `updateValues` after the first that are not dropped, by their columns. -/
def contextUpdates (input : ContextInput) : List (ContextColumn × String) :=
  [(present input.name).map (.name, ·),
    (present input.content).map (.content, ·),
    input.description.map (.description, ·),
    input.tags.map (.tags, ·),
    input.meta_properties.map (.meta_properties, ·),
    (present input.status).map (.status, ·)].reduceOption
def contextQuery (safeId : String) (input : ContextInput) : String :=
  "\n    ALTER TABLE openlit_contexts\n    UPDATE " ++
    ", ".intercalate ("updated_at = now()" :: (contextUpdates input).map (assignment contextSchema)) ++
    "\n    WHERE id = '" ++ safeId ++ "'"
def updateContext (user : Option String) (id : String) (params : ContextInput) (contexts : Table ContextColumn) :
    Except String (Table ContextColumn) := do
  let some _ := user | throw "Unauthorized user!"
  let input := params.sanitizeObject
  verifyContextInput input
  exec contextSchema (contextQuery (sanitizeValue id) input) contexts
/-- `deleteContext`, whose error is that of any failed query. -/
def deleteContext (user : Option String) (id : String) (contexts : Table ContextColumn) :
    Except String (Table ContextColumn) := do
  let some _ := user | throw "Unauthorized user!"
  match exec contextSchema (deleteQuery contextSchema (sanitizeValue id)) contexts with
  | .ok contexts => pure contexts
  | .error _ => throw "Error deleting context!"

structure Context where
  id : String
  name : String
  content : String
  description : String
  tags : String
  meta_properties : String
  status : String
def contextOf (row : Row ContextColumn) : Context where
  id := row.id
  name := row.cells .name
  content := row.cells .content
  description := row.cells .description
  tags := row.cells .tags
  meta_properties := row.cells .meta_properties
  status := row.cells .status
def getContextById (id : String) (contexts : Table ContextColumn) : List Context :=
  (contexts.rows.filter fun row => toUUID id = some row.id).map contextOf

end

/-! ### The queries are read as they are meant -/

def secretLayout : vaultSchema.Layout where
  table := "openlit_vault".toList
  stamps := []
  header := "\n      ALTER TABLE openlit_vault\n      UPDATE \n        ".toList
  separator := " , ".toList
  footer := "\n      WHERE ".toList
  apart := by decide
  bare := by decide
  isTable := rfl
  timed := nofun
  named column := by cases column <;> exact ⟨by decide, by decide, by decide, by decide⟩
  keyed := ⟨by decide, by decide, by decide, by decide⟩
def contextLayout : contextSchema.Layout where
  table := "openlit_contexts".toList
  stamps := ["updated_at".toList]
  header := "\n    ALTER TABLE openlit_contexts\n    UPDATE updated_at = now(), ".toList
  separator := ", ".toList
  footer := "\n    WHERE ".toList
  apart := by decide
  bare := by decide
  isTable := rfl
  timed := by decide
  named column := by cases column <;> exact ⟨by decide, by decide, by decide, by decide⟩
  keyed := ⟨by decide, by decide, by decide, by decide⟩

theorem vaultNamed : vaultSchema.Named := ⟨by decide, by decide, by decide⟩
theorem contextNamed : contextSchema.Named := ⟨by decide, by decide, by decide⟩

theorem secretHeader : secretLayout.header = "\n      ALTER TABLE openlit_vault\n      UPDATE \n        ".toList := rfl
theorem secretFooter : secretLayout.footer = "\n      WHERE ".toList := rfl
theorem contextHeader :
    contextLayout.header = "\n    ALTER TABLE openlit_contexts\n    UPDATE updated_at = now(), ".toList := rfl
theorem contextFooter : contextLayout.footer = "\n    WHERE ".toList := rfl

theorem updateQuery_eq (email : String) (input : SecretInput) :
    updateQuery email input = secretLayout.text (updateValues email input) (input.id.getD "") :=
  (secretLayout.text_eq secretHeader (rfl : _ = " , ".toList) secretFooter (rfl : _ = "id".toList) (by decide) _ _).symm
theorem contextQuery_eq (safeId : String) {input : ContextInput} (nonempty : contextUpdates input ≠ []) :
    contextQuery safeId input = contextLayout.text (contextUpdates input) safeId := by
  have first := @intercalate_first _ _ _ _
    (by decide : "\n    ALTER TABLE openlit_contexts\n    UPDATE updated_at = now(), " =
      "\n    ALTER TABLE openlit_contexts\n    UPDATE " ++ "updated_at = now()" ++ ", ")
    ((contextUpdates input).map (assignment contextSchema)) (by simpa using nonempty)
  refine (congrArg (· ++ "\n    WHERE id = '" ++ safeId ++ "'") first).trans ?_
  exact (contextLayout.text_eq contextHeader (rfl : _ = ", ".toList) contextFooter (rfl : _ = "id".toList) (by decide) _ _).symm

section
variable [Platform]

/-- The columns that an update of a secret sets, with what their literals are read as. -/
def secretSettings (email : String) (params : SecretInput) : List (SecretColumn × String) :=
  (updateValues email params.sanitizeObject).map fun item => (item.1, valueOf item.2)

/-- The value after an update is what the one that is given is read as. -/
theorem value_set (row : Row SecretColumn) (email : String) (params : SecretInput) :
    (row.set (secretSettings email params)).cells .value =
      ((present params.value).map fun value => valueOf (sanitizeValue value)).getD (row.cells .value) := by
  refine Row.set_only (fun text => ?_) row
  simp [secretSettings, updateValues, SecretInput.sanitizeObject, present_sanitizeValue, List.reduceOption_mem_iff,
    @eq_comm _ (some _) (Option.map _ _)]

/-- The texts of an update are literals when the email and the tags are. -/
theorem closed_updateValues {email : String} {params : SecretInput} (closedEmail : Closed email)
    (closedTags : ∀ tags ∈ params.tags, Closed (jsonTags (tags.map sanitizeValue))) :
    ∀ item ∈ updateValues email params.sanitizeObject, Closed item.2 := by
  intro item inside
  simp only [updateValues, SecretInput.sanitizeObject, present_sanitizeValue, List.reduceOption_mem_iff, List.mem_cons,
    List.not_mem_nil, or_false, Option.some.injEq, Option.map_map] at inside
  rcases inside with rfl | isKey | isValue | isTags
  · exact closedEmail
  · obtain ⟨key, -, rfl⟩ := Option.map_eq_some_iff.mp isKey.symm
    exact closed_sanitizeValue key
  · obtain ⟨value, -, rfl⟩ := Option.map_eq_some_iff.mp isValue.symm
    exact closed_sanitizeValue value
  · obtain ⟨tags, given, rfl⟩ := Option.map_eq_some_iff.mp isTags.symm
    exact closedTags tags given

omit [Platform] in
theorem ok_of_bind {α β : Type} {x : Except String α} {f : α → Except String β} {b : β} (done : x >>= f = .ok b) :
    ∃ a, x = .ok a ∧ f a = .ok b := by
  cases x with
  | error e => exact nomatch done
  | ok a => exact ⟨a, rfl, done⟩

theorem upsertSecret_update {email id : String} {params : SecretInput} {vault next : Table SecretColumn}
    (given : present params.id = some id) (closedEmail : Closed email)
    (closedTags : ∀ tags ∈ params.tags, Closed (jsonTags (tags.map sanitizeValue)))
    (done : upsertSecret (some email) params vault = .ok next) :
    ∃ named, toUUID id = some named ∧ next = vault.update named (secretSettings email params) := by
  have isId : params.id = some id := (Option.filter_eq_some_iff.mp given).1
  simp only [upsertSecret, given, Option.isSome_some, if_true] at done
  obtain ⟨_, -, done⟩ := ok_of_bind done
  have isQuery : updateQuery email params.sanitizeObject =
      secretLayout.text (updateValues email params.sanitizeObject) (sanitizeValue id) := by
    rw [updateQuery_eq, SecretInput.sanitizeObject, isId]
    rfl
  rw [isQuery] at done
  exact exec_update_ok secretLayout (by simp [updateValues]) (closed_updateValues closedEmail closedTags) done
theorem upsertSecret_insert {email : String} {params : SecretInput} {vault next : Table SecretColumn}
    (absent : present params.id = none) (done : upsertSecret (some email) params vault = .ok next) :
    next = vault.insert (insertValues email params.sanitizeObject) := by
  simp only [upsertSecret, absent] at done
  obtain ⟨_, -, done⟩ := ok_of_bind done
  cases valid : checkNameValidity vault (params.sanitizeObject.key.getD "") with
  | false =>
    rw [valid] at done
    exact nomatch done
  | true =>
    rw [valid] at done
    exact (Except.ok.inj done).symm

theorem deleteSecret_spec {email id : String} {vault next : Table SecretColumn}
    (done : deleteSecret (some email) id vault = .ok next) : ∃ named, toUUID id = some named ∧ next = vault.remove named := by
  unfold deleteSecret at done
  cases query : exec vaultSchema (deleteQuery vaultSchema (sanitizeValue id)) vault with
  | error e =>
    rw [query] at done
    exact nomatch done
  | ok removed =>
    rw [query] at done
    obtain rfl := Except.ok.inj done
    exact exec_deleteQuery_ok vaultNamed query

/-- The columns that an update of a context sets, with what their literals are read as. -/
def contextSettings (params : ContextInput) : List (ContextColumn × String) :=
  (contextUpdates params.sanitizeObject).map fun item => (item.1, valueOf item.2)

theorem content_set (row : Row ContextColumn) (params : ContextInput) :
    (row.set (contextSettings params)).cells .content =
      ((present params.content).map fun content => valueOf (sanitizeValue content)).getD (row.cells .content) := by
  refine Row.set_only (fun text => ?_) row
  simp [contextSettings, contextUpdates, ContextInput.sanitizeObject, present_sanitizeValue, List.reduceOption_mem_iff,
    @eq_comm _ (some _) (Option.map _ _)]

theorem closed_contextUpdates (params : ContextInput) : ∀ item ∈ contextUpdates params.sanitizeObject, Closed item.2 := by
  intro item inside
  simp only [contextUpdates, ContextInput.sanitizeObject, present_sanitizeValue, List.reduceOption_mem_iff, List.mem_cons,
    List.not_mem_nil, or_false, Option.map_map] at inside
  rcases inside with isText | isText | isText | isText | isText | isText <;>
  · obtain ⟨text, -, rfl⟩ := Option.map_eq_some_iff.mp isText.symm
    exact closed_sanitizeValue text

omit [Platform] in
/-- A context that is saved has a name and a content. -/
theorem verifyContextInput_ok {input : ContextInput} {u : Unit} (verified : verifyContextInput input = .ok u) :
    (present input.name).isSome = true ∧ (present input.content).isSome = true := by
  simp only [verifyContextInput] at verified
  split at verified
  · exact nomatch verified
  next named =>
    split at verified
    · exact nomatch verified
    next filled =>
      rw [Option.isNone_iff_eq_none] at named filled
      constructor
      · cases name : present input.name with
        | none => exact absurd (by rw [name]; rfl) named
        | some _ => rfl
      · cases content : present input.content with
        | none => exact absurd (by rw [content]; rfl) filled
        | some _ => rfl
theorem createContext_spec {email : String} {params : ContextInput} {contexts next : Table ContextColumn}
    (done : createContext (some email) params contexts = .ok next) :
    next = contexts.insert (contextValues email params.sanitizeObject) := by
  simp only [createContext] at done
  obtain ⟨_, -, done⟩ := ok_of_bind done
  exact (Except.ok.inj done).symm
theorem updateContext_spec {email id : String} {params : ContextInput} {contexts next : Table ContextColumn}
    (done : updateContext (some email) id params contexts = .ok next) :
    (present params.content).isSome = true ∧
      ∃ named, toUUID id = some named ∧ next = contexts.update named (contextSettings params) := by
  simp only [updateContext] at done
  obtain ⟨_, verified, done⟩ := ok_of_bind done
  obtain ⟨hasName, hasContent⟩ := verifyContextInput_ok verified
  have nonempty : contextUpdates params.sanitizeObject ≠ [] := by
    obtain ⟨name, isName⟩ := Option.isSome_iff_exists.mp hasName
    simp [contextUpdates, isName]
  rw [contextQuery_eq _ nonempty] at done
  exact ⟨by simpa [ContextInput.sanitizeObject, present_sanitizeValue] using hasContent,
    exec_update_ok contextLayout nonempty (closed_contextUpdates params) done⟩
theorem deleteContext_spec {email id : String} {contexts next : Table ContextColumn}
    (done : deleteContext (some email) id contexts = .ok next) :
    ∃ named, toUUID id = some named ∧ next = contexts.remove named := by
  unfold deleteContext at done
  cases query : exec contextSchema (deleteQuery contextSchema (sanitizeValue id)) contexts with
  | error e =>
    rw [query] at done
    exact nomatch done
  | ok removed =>
    rw [query] at done
    obtain rfl := Except.ok.inj done
    exact exec_deleteQuery_ok contextNamed query

end
end Openlit.Vault
