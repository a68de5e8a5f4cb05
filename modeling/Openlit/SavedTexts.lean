import Openlit.Vault

/-!
What is read of a secret's value and of a context's content, compared with the
text that was saved last, over runs of requests that create, change and remove
secrets and contexts.
-/
namespace Openlit.SavedTexts
open Openlit.JsonText Openlit.Literals Openlit.RuleLinks Openlit.ClickHouse Openlit.Text Openlit.Vault
open Storage Platform

structure State where
  vault : Table SecretColumn
  contexts : Table ContextColumn
/-- The value of each secret and the content of each context as they were given last, by their ids. -/
structure Saved where
  value : String → Option String
  content : String → Option String

def emptyState : State := ⟨emptyTable _, emptyTable _⟩
def nothing : Saved := ⟨fun _ => none, fun _ => none⟩

inductive Request
  | upsertSecret (input : SecretInput)
  | deleteSecret (id : String)
  | createContext (input : ContextInput)
  | updateContext (id : String) (input : ContextInput)
  | deleteContext (id : String)

section
variable [Platform]

def perform (user : Option String) (state : State) : Request → Except String State
  | .upsertSecret input => (upsertSecret user input state.vault).map ({ state with vault := · })
  | .deleteSecret id => (deleteSecret user id state.vault).map ({ state with vault := · })
  | .createContext input => (createContext user input state.contexts).map ({ state with contexts := · })
  | .updateContext id input => (updateContext user id input state.contexts).map ({ state with contexts := · })
  | .deleteContext id => (deleteContext user id state.contexts).map ({ state with contexts := · })

def Saved.after (saved : Saved) (state : State) : Request → Saved
  | .upsertSecret input =>
    match present input.id with
    | some id => { saved with value := changed id input.value saved.value }
    | none => { saved with value := created (state.vault.rows.map (·.id)) (input.value.getD "") saved.value }
  | .deleteSecret id => { saved with value := removed id saved.value }
  | .createContext input =>
    { saved with content := created (state.contexts.rows.map (·.id)) (input.content.getD "") saved.content }
  | .updateContext id input => { saved with content := changed id input.content saved.content }
  | .deleteContext id => { saved with content := removed id saved.content }

/-- The requests that store what they are given: a text that is inserted has no character that the
    sanitizer escapes, and one in an update none that its escape is not read as. An update of a secret
    is not emptying it, and the email and the tags in its query do not end their literals. -/
def Sound (email : String) (saved : Saved) : Request → Prop
  | .upsertSecret input =>
    match present input.id with
    | some id =>
      Closed email ∧ (∀ tags ∈ input.tags, Closed (jsonTags (tags.map sanitizeValue))) ∧
        ∀ value ∈ input.value, ReadBack value ∧
          (value = "" → ∀ named, toUUID id = some named → ∀ old ∈ saved.value named, old = "")
    | none => ∀ value ∈ input.value, Unescaped value
  | .createContext input => ∀ content ∈ input.content, Unescaped content
  | .updateContext _ input => ∀ content ∈ input.content, ReadBack content
  | .deleteSecret _ | .deleteContext _ => True

/-- Runs of requests of signed-in users that are not refused, each allowed where it is made. -/
inductive Run (allowed : String → Saved → Request → Prop) : State → Saved → Prop
  | start : Run allowed emptyState nothing
  | step {state next : State} {saved : Saved} {email : String} {request : Request} (run : Run allowed state saved)
    (isAllowed : allowed email saved request) (done : perform (some email) state request = .ok next) :
    Run allowed next (saved.after state request)

structure Agrees (state : State) (saved : Saved) : Prop where
  values : ∀ id, (state.vault.find id).map (·.cells .value) = saved.value id
  contents : ∀ id, (state.contexts.find id).map (·.cells .content) = saved.content id

/-! ### What one request does -/

omit [Platform] in
theorem ok_of_map {α β : Type} {f : α → β} {x : Except String α} {b : β} (done : x.map f = .ok b) :
    ∃ a, x = .ok a ∧ f a = b := by
  cases x with
  | error e => exact nomatch done
  | ok a => exact ⟨a, rfl, Except.ok.inj done⟩

theorem upsertSecret_agrees {email : String} {vault next : Table SecretColumn} {contexts : Table ContextColumn} {saved : Saved}
    {input : SecretInput} (agrees : Agrees ⟨vault, contexts⟩ saved) (sound : Sound email saved (.upsertSecret input))
    (done : upsertSecret (some email) input vault = .ok next) (id : String) :
    (next.find id).map (·.cells .value) = (saved.after ⟨vault, contexts⟩ (.upsertSecret input)).value id := by
  cases given : present input.id with
  | none =>
    simp only [Sound, given] at sound
    simp only [Saved.after, given]
    rw [upsertSecret_insert given done]
    refine insert_agrees (fun cells : SecretColumn → String => cells .value) agrees.values _ ?_ id
    cases value : input.value with
    | none => simp [insertValues, SecretInput.sanitizeObject, value]
    | some text =>
      have same : sanitizeValue text = text := sanitizeValue_eq_self_iff.mpr (sound text value)
      simp [insertValues, SecretInput.sanitizeObject, value, same]
  | some key =>
    simp only [Sound, given] at sound
    simp only [Saved.after, given]
    obtain ⟨closedEmail, closedTags, sound⟩ := sound
    obtain ⟨named, isNamed, rfl⟩ := upsertSecret_update given closedEmail closedTags done
    refine update_agrees (fun cells : SecretColumn → String => cells .value) agrees.values isNamed (fun row found => ?_) id
    rw [value_set]
    refine stored_text (fun text isText => (sound text isText).1) fun text isText empty => ?_
    refine (sound text isText).2 empty named isNamed _ ?_
    rw [← agrees.values, found]
    rfl
theorem createContext_agrees {email : String} {vault : Table SecretColumn} {contexts next : Table ContextColumn} {saved : Saved}
    {input : ContextInput} (agrees : Agrees ⟨vault, contexts⟩ saved) (sound : Sound email saved (.createContext input))
    (done : createContext (some email) input contexts = .ok next) (id : String) :
    (next.find id).map (·.cells .content) = (saved.after ⟨vault, contexts⟩ (.createContext input)).content id := by
  rw [createContext_spec done]
  refine insert_agrees (fun cells : ContextColumn → String => cells .content) agrees.contents _ ?_ id
  cases content : input.content with
  | none => simp [contextValues, ContextInput.sanitizeObject, content]
  | some text =>
    have same : sanitizeValue text = text := sanitizeValue_eq_self_iff.mpr (sound text content)
    simp [contextValues, ContextInput.sanitizeObject, content, same]
theorem updateContext_agrees {email key : String} {vault : Table SecretColumn} {contexts next : Table ContextColumn}
    {saved : Saved} {input : ContextInput} (agrees : Agrees ⟨vault, contexts⟩ saved)
    (sound : Sound email saved (.updateContext key input)) (done : updateContext (some email) key input contexts = .ok next)
    (id : String) :
    (next.find id).map (·.cells .content) = (saved.after ⟨vault, contexts⟩ (.updateContext key input)).content id := by
  obtain ⟨filled, named, isNamed, rfl⟩ := updateContext_spec done
  refine update_agrees (fun cells : ContextColumn → String => cells .content) agrees.contents isNamed (fun row found => ?_) id
  rw [content_set]
  refine stored_text sound fun text isText empty => ?_
  -- A context is never saved with an empty content.
  rw [isText, empty] at filled
  exact nomatch filled

/-- A request that is sound stores what it is given. -/
theorem perform_agrees {email : String} {state next : State} {saved : Saved} {request : Request} (agrees : Agrees state saved)
    (sound : Sound email saved request) (done : perform (some email) state request = .ok next) :
    Agrees next (saved.after state request) := by
  cases request with
  | upsertSecret input =>
    obtain ⟨vault, isDone, rfl⟩ := ok_of_map done
    refine ⟨upsertSecret_agrees agrees sound isDone, fun id => ?_⟩
    rw [agrees.contents, Saved.after]
    split <;> rfl
  | deleteSecret key =>
    obtain ⟨vault, isDone, rfl⟩ := ok_of_map done
    obtain ⟨named, isNamed, rfl⟩ := deleteSecret_spec isDone
    exact ⟨remove_agrees (fun cells : SecretColumn → String => cells .value) agrees.values isNamed, agrees.contents⟩
  | createContext input =>
    obtain ⟨contexts, isDone, rfl⟩ := ok_of_map done
    exact ⟨agrees.values, createContext_agrees agrees sound isDone⟩
  | updateContext key input =>
    obtain ⟨contexts, isDone, rfl⟩ := ok_of_map done
    exact ⟨agrees.values, updateContext_agrees agrees sound isDone⟩
  | deleteContext key =>
    obtain ⟨contexts, isDone, rfl⟩ := ok_of_map done
    obtain ⟨named, isNamed, rfl⟩ := deleteContext_spec isDone
    exact ⟨agrees.values, remove_agrees (fun cells : ContextColumn → String => cells .content) agrees.contents isNamed⟩

/-- In a run of sound requests the tables hold what was saved last. -/
theorem run_agrees {state : State} {saved : Saved} (run : Run Sound state saved) : Agrees state saved := by
  induction run with
  | start => exact ⟨fun _ => rfl, fun _ => rfl⟩
  | step _ sound done ih => exact perform_agrees ih sound done

/-! ### What is read back -/

/-- What is read of secrets and contexts is what was saved last. The secrets of the SDK come
    in any order. -/
structure ReadsBack (state : State) (saved : Saved) : Prop where
  secret : ∀ id, (getSecretById id false state.vault).map (·.value) = ((toUUID id).bind saved.value).toList.map some
  sdk : ∀ secretData : List Secret, (∀ secret ∈ secretData, ∃ row ∈ state.vault.rows, secret = secretOf false row) →
    ∀ key value, normalizeSecretDataForSDK secretData key = some value →
      ∃ secret ∈ secretData, secret.key = key ∧ saved.value secret.id = some value
  context : ∀ id, (getContextById id state.contexts).map (·.content) = ((toUUID id).bind saved.content).toList

theorem filter_toUUID {Column : Type} (table : Table Column) (id : String) :
    table.rows.filter (fun row => toUUID id = some row.id) = ((toUUID id).bind table.find).toList := by
  cases known : toUUID id with
  | none => simp
  | some named =>
    rw [Option.bind_some, ← table.filter_id]
    refine List.filter_congr fun row _ => ?_
    rw [decide_eq_decide, Option.some.injEq]
    exact eq_comm

omit [Platform] in
theorem normalizeSecretDataForSDK_some {secretData : List Secret} {key value : String}
    (found : normalizeSecretDataForSDK secretData key = some value) :
    ∃ secret ∈ secretData, secret.key = key ∧ secret.value = some value := by
  have fold : ∀ (secrets : List Secret) (acc : String → Option String),
      secrets.foldl (fun acc secret => Function.update acc secret.key secret.value) acc key = some value →
        acc key = some value ∨ ∃ secret ∈ secrets, secret.key = key ∧ secret.value = some value := by
    intro secrets
    induction secrets with
    | nil => exact fun _ found => .inl found
    | cons secret secrets ih =>
      intro acc found
      rcases ih _ found with before | ⟨other, inside, isOther⟩
      · change Function.update acc secret.key secret.value key = some value at before
        by_cases same : key = secret.key
        · subst same
          rw [Function.update_self] at before
          exact .inr ⟨secret, List.mem_cons_self, rfl, before⟩
        · rw [Function.update_of_ne same] at before
          exact .inl before
      · exact .inr ⟨other, List.mem_cons_of_mem _ inside, isOther⟩
  rcases fold secretData _ found with nothing | isSome
  · cases nothing
  · exact isSome

theorem readsBack_of_agrees {state : State} {saved : Saved} (agrees : Agrees state saved) : ReadsBack state saved := by
  constructor
  · intro id
    rw [getSecretById, filter_toUUID, List.map_map, ← funext agrees.values]
    cases toUUID id with
    | none => rfl
    | some named => cases found : state.vault.find named <;> simp [found, secretOf]
  · intro secretData rows key value found
    obtain ⟨secret, inside, isKey, isValue⟩ := normalizeSecretDataForSDK_some found
    obtain ⟨row, inTable, rfl⟩ := rows secret inside
    refine ⟨_, inside, isKey, ?_⟩
    have isFound := Table.find_of_mem inTable
    rw [← agrees.values]
    simpa [secretOf, isFound] using isValue
  · intro id
    rw [getContextById, filter_toUUID, List.map_map, ← funext agrees.contents]
    cases toUUID id with
    | none => rfl
    | some named => cases found : state.contexts.find named <;> simp [found, contextOf]

/-- What is read back is what was saved last, in every run of sound requests. -/
theorem saved_texts_read_back {state : State} {saved : Saved} (run : Run Sound state saved) : ReadsBack state saved :=
  readsBack_of_agrees (run_agrees run)

end

/-! ### A secret with a quote -/

section
attribute [local instance] sqlstringPlatform

def apiKey (id : Option String) (value : String) : Request :=
  .upsertSecret { id := id, key := some "API_KEY", value := some value, tags := some ["llm"] }
/-- The state after a request, and the one before where it is refused. -/
def after (state : State) (request : Request) : State := (perform (some "admin@openlit.io") state request).toOption.getD state
theorem perform_after {state : State} {request : Request}
    (done : (perform (some "admin@openlit.io") state request).toOption.isSome = true) :
    perform (some "admin@openlit.io") state request = .ok (after state request) := by
  rw [after]
  cases performed : perform (some "admin@openlit.io") state request with
  | error e =>
    rw [performed] at done
    exact nomatch done
  | ok next => rfl

def createdState : State := after emptyState (apiKey none "it works")
def updateRequest : Request := apiKey (some RuleLinkSync.sampleId) "it's \\n"
theorem saved_texts_read_back_updated :
    ReadsBack (after createdState updateRequest)
      ((nothing.after emptyState (apiKey none "it works")).after createdState updateRequest) := by
  have created : Run Sound createdState (nothing.after emptyState (apiKey none "it works")) := by
    refine .step .start ?_ (perform_after (by decide))
    rintro value ⟨⟩
    exact List.forall_iff_forall_mem.mp (by decide)
  refine saved_texts_read_back (.step created ?_ (perform_after (by decide +kernel)))
  refine ⟨by decide, ?_, ?_⟩
  · rintro tags ⟨⟩
    decide
  · rintro value ⟨⟩
    exact ⟨List.forall_iff_forall_mem.mp (by decide), fun empty => absurd empty (by decide)⟩

theorem quotedSecret_done : perform (some "admin@openlit.io") emptyState (apiKey none "it's") =
    .ok (after emptyState (apiKey none "it's")) :=
  perform_after (by decide)

end

/-- The value of a created secret is stored with the escape of its quote. -/
theorem quoted_secret_altered :
    ¬ ∀ [Platform] (state : State) (saved : Saved), Run (fun _ _ _ => True) state saved → ReadsBack state saved := by
  intro all
  let _ := sqlstringPlatform
  have reads := (all _ _ (.step .start trivial quotedSecret_done)).secret RuleLinkSync.sampleId
  exact absurd reads (by decide)

end Openlit.SavedTexts
