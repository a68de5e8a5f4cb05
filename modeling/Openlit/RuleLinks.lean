import Openlit.RuleEngine

/-!
Links between rules and evaluation types, which are kept twice: as rows of the
rule entities in ClickHouse and as the `rules` of the evaluation types in the
meta of the evaluation config. Here are the requests that change either side
(`rule-engine/entities/route.ts`, `evaluation/types/route.ts` and `[id]/route.ts`,
`deleteRule`) with what they do to the other (`sync-rule-entities.ts`).

The requests are of signed-in users with one current database config. The
literals of a query are taken to read as the texts that they are made from. In
the meta an absent list is empty, and `null` is absent.
-/
namespace Openlit.RuleLinks
open Openlit.Text Openlit.Relations Openlit.RuleEngine

/-- The letters, the digits and the hyphen, of which the text of a UUID is made. -/
def isPlain (c : Char) : Bool := c.isAlphanum || c = '-'

/-- The databases' handling of texts: the escapes of `sqlstring` without the
    quotes, which begin with a backslash, and ClickHouse's UUIDs with the text
    that they are read back as. A text that is no UUID is rejected with an error. -/
class Storage where
  sanitizeValue : String → String
  toUUID : String → Option String
  rejection : String → String
  generateUUIDv4 : List String → String
  sanitizeValue_plain : ∀ {s}, (∀ c ∈ s.toList, isPlain c = true) → sanitizeValue s = s
  sanitizeValue_escapes : ∀ {s}, '\\' ∉ (sanitizeValue s).toList → sanitizeValue s = s
  toUUID_stable : ∀ {s id}, toUUID s = some id → toUUID id = some id
  toUUID_plain : ∀ {s id}, toUUID s = some id → ∀ c ∈ id.toList, isPlain c = true
  generated_new : ∀ ids, generateUUIDv4 ids ∉ ids
  generated_read : ∀ ids, toUUID (generateUUIDv4 ids) = some (generateUUIDv4 ids)

section
variable [Storage]
open Storage

/-! ### The rule entities -/

/-- A value of a UUID column. -/
structure UUID where
  text : String
  read : toUUID text = some text
def readUUID (s : String) : Option UUID :=
  match parsed : toUUID s with
  | some text => some ⟨text, toUUID_stable parsed⟩
  | none => none

structure EntityTable where
  rows : List RuleEntity
  ids : (rows.map (·.id)).Nodup
  read : ∀ e ∈ rows, toUUID e.id = some e.id ∧ toUUID e.rule_id = some e.rule_id

def EntityTable.insert (table : EntityTable) (rule_id : UUID) (entity_type : RuleEntityType) (entity_id : String) :
    EntityTable where
  rows := table.rows ++ [⟨generateUUIDv4 (table.rows.map (·.id)), rule_id.text, entity_type, entity_id⟩]
  ids := by
    rw [List.map_append, List.nodup_append]
    refine ⟨table.ids, List.pairwise_singleton _ _, ?_⟩
    rintro id inside _ added rfl
    rw [List.map_singleton, List.mem_singleton] at added
    exact generated_new _ (added ▸ inside)
  read := by
    intro e inside
    rw [List.mem_append, List.mem_singleton] at inside
    rcases inside with old | rfl
    · exact table.read e old
    · exact ⟨generated_read _, rule_id.read⟩
def EntityTable.keep (table : EntityTable) (kept : RuleEntity → Bool) : EntityTable where
  rows := table.rows.filter kept
  ids := (List.filter_sublist.map _).nodup table.ids
  read e inside := table.read e (List.mem_filter.mp inside).1

/-- `Partial<RuleEntityInput>`. -/
structure RuleEntityInput where
  rule_id : Option String := none
  entity_type : Option String := none
  entity_id : Option String := none
def sanitizeObject (input : RuleEntityInput) : RuleEntityInput :=
  { rule_id := input.rule_id.map sanitizeValue
    entity_type := input.entity_type.map sanitizeValue
    entity_id := input.entity_id.map sanitizeValue }

end

/-- `VALID_ENTITY_TYPES`. -/
def entityType : String → Option RuleEntityType
  | "context" => some .context
  | "prompt" => some .prompt
  | "evaluation" => some .evaluation
  | _ => none
/-- `verifyEntityInput`, with the values that it finds. -/
def verifyEntityInput (input : RuleEntityInput) : Except String (String × RuleEntityType × String) :=
  match input.rule_id.filter (trim · ≠ "") with
  | none => throw "Rule ID is required!"
  | some rule_id =>
    match input.entity_type.bind entityType with
    | none => throw "Invalid entity type!"
    | some entity_type =>
      match input.entity_id.filter (trim · ≠ "") with
      | none => throw "Entity ID is required!"
      | some entity_id => pure (rule_id, entity_type, entity_id)

section
variable [Storage]
open Storage

/-- The columns that an input is inserted with. -/
def entityColumns (input : RuleEntityInput) : Except String (UUID × RuleEntityType × String) := do
  let (rule_id, entity_type, entity_id) ← verifyEntityInput (sanitizeObject input)
  match readUUID rule_id with
  | none => throw (rejection rule_id)
  | some id => pure (id, entity_type, entity_id)
def addRuleEntity (table : EntityTable) (input : RuleEntityInput) : Except String EntityTable := do
  let (rule_id, entity_type, entity_id) ← entityColumns input
  pure (table.insert rule_id entity_type entity_id)
/-- The error is that of `WHERE id = ..` on a text that is no UUID. -/
def deleteRuleEntity (table : EntityTable) (id : String) : Except String EntityTable :=
  match toUUID id with
  | none => throw "Error deleting rule entity association!"
  | some uuid => pure (table.keep (·.id ≠ uuid))

end

/-! ### The evaluation config -/

structure RuleWithPriority where
  ruleId : String
  priority : Int
  deriving DecidableEq, Repr
structure EvaluationTypeConfig where
  id : String
  enabled : Bool
  isCustom : Bool := false
  label : Option String := none
  description : Option String := none
  rules : List RuleWithPriority := []
  prompt : Option String := none
  deriving DecidableEq, Repr
structure Meta where
  evaluationTypes : List EvaluationTypeConfig
  deriving DecidableEq, Repr

/-- An entry of `rules` in a request, which may lack its rule id or its priority. -/
structure RuleInput where
  ruleId : Option String := none
  priority : Option Int := none
def RuleInput.normalized (r : RuleInput) : Option RuleWithPriority :=
  (present r.ruleId).map fun ruleId => { ruleId, priority := r.priority.getD 0 }
def normalizeRules (rules : List RuleInput) : List RuleWithPriority := rules.filterMap (·.normalized)

/-- An entry of `types` in a POST request. -/
structure TypeInput where
  id : String
  enabled : Bool := false
  isCustom : Bool := false
  label : Option String := none
  description : Option String := none
  rules : List RuleInput := []
  ruleId : Option String := none
  priority : Option Int := none
  prompt : Option String := none
def normalizeTypeConfig (t : TypeInput) : EvaluationTypeConfig :=
  { id := t.id
    enabled := t.enabled
    isCustom := t.isCustom
    label := if t.isCustom then (present t.label).map trim else none
    description := if t.isCustom then (present t.description).map trim else none
    rules := if t.rules = [] then normalizeRules [{ ruleId := t.ruleId, priority := t.priority }]
      else normalizeRules t.rules
    prompt := (present t.prompt).map trim }

/-- The body of a PATCH request. -/
structure TypePatch where
  enabled : Option Bool := none
  isCustom : Bool := false
  label : Option String := none
  description : Option String := none
  rules : Option (List RuleInput) := none
  prompt : Option (Option String) := none
/-- `updated` of the PATCH handler. -/
def TypePatch.updated (typeId : String) (body : TypePatch) (existing : EvaluationTypeConfig) : EvaluationTypeConfig :=
  let custom := body.isCustom || existing.isCustom
  { id := typeId
    enabled := body.enabled.getD existing.enabled
    isCustom := custom
    label := if custom then some ((body.label.or existing.label).getD typeId) else none
    description := if custom then some ((body.description.or existing.description).getD "") else none
    rules := (body.rules.map normalizeRules).getD existing.rules
    prompt := body.prompt.getD existing.prompt }
def patchTypes (typeId : String) (body : TypePatch) (types : List EvaluationTypeConfig) : List EvaluationTypeConfig :=
  if types.any (·.id = typeId) then updateFirst (·.id = typeId) (body.updated typeId) types
  else types ++ [body.updated typeId { id := typeId, enabled := false }]

/-! ### From one side to the other -/

/-- A rule id and the id of an evaluation type. -/
abbrev Link := String × String

/-- What fails within a request that succeeds all the same: the config is not
    read, the entities are not listed, those of a deleted rule stay, and single
    ones are not deleted or added. -/
structure Failures where
  config : Bool := false
  listing : Bool := false
  ofRule : Bool := false
  deletes : RuleEntity → Bool := fun _ => false
  inserts : Link → Bool := fun _ => false

def EvaluationTypeConfig.addRule (ruleId : String) (priority : Int) (t : EvaluationTypeConfig) : EvaluationTypeConfig :=
  if t.rules.any (·.ruleId = ruleId) then t else { t with rules := t.rules ++ [{ ruleId, priority }] }
def EvaluationTypeConfig.removeRule (ruleId : String) (t : EvaluationTypeConfig) : EvaluationTypeConfig :=
  { t with rules := t.rules.filter (·.ruleId ≠ ruleId) }
/-- The first entry of a type changed, if the config is read and has one. -/
def updateEvaluationType (failures : Failures) (config : Option Meta) (evalTypeId : String)
    (change : EvaluationTypeConfig → EvaluationTypeConfig) : Option Meta :=
  if failures.config then config
  else config.map fun found => { found with evaluationTypes := updateFirst (·.id = evalTypeId) change found.evaluationTypes }
def addRuleToEvaluationType (failures : Failures) (config : Option Meta) (ruleId evalTypeId : String) (priority : Int) :
    Option Meta :=
  updateEvaluationType failures config evalTypeId (·.addRule ruleId priority)
def removeRuleFromEvaluationType (failures : Failures) (config : Option Meta) (ruleId evalTypeId : String) :
    Option Meta :=
  updateEvaluationType failures config evalTypeId (·.removeRule ruleId)

/-- The links that the two loops over `t.rules` go through. -/
def configLinks (types : List EvaluationTypeConfig) : List Link :=
  types.flatMap fun t => (t.rules.filter (·.ruleId ≠ "")).map fun r => (r.ruleId, t.id)
def entityLink (e : RuleEntity) : Link := (e.rule_id, e.entity_id)
/-- The text that the entities and the config are compared by. -/
def linkKey (link : Link) : String := link.1 ++ ":" ++ link.2
def evaluationInput (link : Link) : RuleEntityInput :=
  { rule_id := some link.1, entity_type := some "evaluation", entity_id := some link.2 }

section
variable [Storage]
open Storage

/-- A deletion or an insertion whose error is dropped. -/
def bestEffort (failed : Bool) (table : EntityTable) (operation : Except String EntityTable) : EntityTable :=
  if failed then table else operation.toOption.getD table
def syncRuleEntitiesFromConfig (failures : Failures) (config : Option Meta) (table : EntityTable) : EntityTable :=
  match config with
  | none => table
  | some found =>
    if failures.config || failures.listing then table
    else
      let entities := table.rows.filter (·.entity_type = .evaluation)
      let links := configLinks found.evaluationTypes
      let remaining := entities.foldl (fun rest e =>
        if linkKey (entityLink e) ∈ links.map linkKey then rest
        else bestEffort (failures.deletes e) rest (deleteRuleEntity rest e.id)) table
      links.foldl (fun rest link =>
        if entities.any (entityLink · = link) then rest
        else bestEffort (failures.inserts link) rest (addRuleEntity rest (evaluationInput link))) remaining

/-! ### The requests -/

structure State where
  entities : EntityTable
  config : Option Meta

inductive Request
  | postEntity (input : RuleEntityInput)
  | deleteEntity (id : String)
  | patchType (typeId : String) (body : TypePatch)
  | postTypes (types : List TypeInput)
  | deleteType (typeId : String)
  | deleteRule (id : String)

def postEntity (failures : Failures) (st : State) (input : RuleEntityInput) : Except String State :=
  match addRuleEntity st.entities input with
  | .error err => throw ("Error: " ++ err)
  | .ok entities =>
    if input.entity_type = some "evaluation" then
      match present input.entity_id, present input.rule_id with
      | some entity_id, some rule_id =>
        pure { entities, config := addRuleToEvaluationType failures st.config rule_id entity_id 0 }
      | _, _ => pure { st with entities }
    else pure { st with entities }
/-- `getRuleEntities({ id })`, without the error that makes the entity `null`. -/
def entityById (failures : Failures) (table : EntityTable) (id : String) : Option RuleEntity :=
  if failures.listing then none else table.rows.find? (toUUID id = some ·.id)
def deleteEntity (failures : Failures) (st : State) (id : String) : Except String State :=
  if id = "" then throw "Entity id is required"
  else do
    let entity := entityById failures st.entities id
    let entities ← deleteRuleEntity st.entities id
    match entity with
    | none => pure { st with entities }
    | some e =>
      if e.entity_type = .evaluation ∧ e.entity_id ≠ "" ∧ e.rule_id ≠ "" then
        pure { entities, config := removeRuleFromEvaluationType failures st.config e.rule_id e.entity_id }
      else pure { st with entities }
/-- The write of the evaluation types and the synchronisation after it. -/
def saveTypes (failures : Failures) (st : State) (found : Meta) (types : List EvaluationTypeConfig) : State :=
  let config := some { found with evaluationTypes := types }
  { entities := syncRuleEntitiesFromConfig failures config st.entities, config }
def patchType (failures : Failures) (st : State) (typeId : String) (body : TypePatch) : Except String State :=
  match st.config with
  | none => throw "Evaluation config not found"
  | some found => pure (saveTypes failures st found (patchTypes typeId body found.evaluationTypes))
def postTypes (failures : Failures) (st : State) (types : List TypeInput) : Except String State :=
  match st.config with
  | none => throw "Evaluation config not found"
  | some found => pure (saveTypes failures st found (types.map normalizeTypeConfig))
def deleteType (failures : Failures) (st : State) (typeId : String) : Except String State :=
  match st.config with
  | none => throw "Evaluation config not found"
  | some found =>
    match found.evaluationTypes.find? (·.id = typeId) with
    | none => throw "Only custom evaluation types can be deleted"
    | some typeToDelete =>
      if typeToDelete.isCustom then
        pure (saveTypes failures st found (found.evaluationTypes.filter (·.id ≠ typeId)))
      else throw "Only custom evaluation types can be deleted"
/-- Of the four deletions only that of the rule is looked at; the entities may stay. -/
def deleteRule (failures : Failures) (st : State) (id : String) : Except String State :=
  match toUUID id with
  | none => throw "Error deleting rule!"
  | some uuid => pure { st with entities := if failures.ofRule then st.entities else st.entities.keep (·.rule_id ≠ uuid) }

/-- A request's new state, or the error of its response. -/
def apply (failures : Failures) (st : State) : Request → Except String State
  | .postEntity input => postEntity failures st input
  | .deleteEntity id => deleteEntity failures st id
  | .patchType typeId body => patchType failures st typeId body
  | .postTypes types => postTypes failures st types
  | .deleteType typeId => deleteType failures st typeId
  | .deleteRule id => deleteRule failures st id

end

end Openlit.RuleLinks
