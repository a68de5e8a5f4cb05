import Mathlib.Algebra.GroupWithZero.Nat
import Mathlib.Algebra.Order.BigOperators.Group.List
import Mathlib.Algebra.Order.Group.Nat
import Mathlib.Data.Set.Insert
import Mathlib.Logic.Relation
import Openlit.RuleLinks

/-!
The two sides of the rule links against what the user asked for. Both are right
after a request exactly where neither the update of the other side nor the
synchronisation is cut short, and what is written on one side can be written
alike on the other (`Covered`).
-/
namespace Openlit.RuleLinkSync
open Openlit.Text Openlit.Relations Openlit.RuleEngine Openlit.RuleLinks

/-! ### The recorded links -/

def HasRule (t : EvaluationTypeConfig) (ruleId : String) : Prop := ruleId ≠ "" ∧ ∃ r ∈ t.rules, r.ruleId = ruleId
def typesOf (config : Option Meta) : List EvaluationTypeConfig := (config.map (·.evaluationTypes)).getD []
def entriesOf (types : List EvaluationTypeConfig) (typeId : String) : List EvaluationTypeConfig :=
  types.filter (·.id = typeId)
/-- The pairs of rule id and evaluation type in the meta. -/
def Recorded (config : Option Meta) : Set Link := {link | link ∈ configLinks (typesOf config)}

theorem mem_configLinks (types : List EvaluationTypeConfig) (link : Link) :
    link ∈ configLinks types ↔ ∃ t ∈ types, t.id = link.2 ∧ HasRule t link.1 := by
  obtain ⟨ruleId, typeId⟩ := link
  simp only [configLinks, List.mem_flatMap, List.mem_map, List.mem_filter, HasRule, Prod.mk.injEq]
  constructor
  · rintro ⟨t, inside, r, ⟨listed, named⟩, rfl, rfl⟩
    exact ⟨t, inside, rfl, by simpa using named, r, listed, rfl⟩
  · rintro ⟨t, inside, rfl, named, r, listed, rfl⟩
    exact ⟨t, inside, r, ⟨listed, by simpa using named⟩, rfl, rfl⟩
theorem mem_configLinks_entries (types : List EvaluationTypeConfig) (link : Link) :
    link ∈ configLinks types ↔ ∃ t ∈ entriesOf types link.2, HasRule t link.1 := by
  rw [mem_configLinks]
  simp only [entriesOf, List.mem_filter, decide_eq_true_eq, and_assoc]
/-- A change of a type's first entry changes the links of that entry alone. -/
theorem mem_configLinks_updateFirst {types later : List EvaluationTypeConfig} {first : EvaluationTypeConfig}
    {typeId : String} {change : EvaluationTypeConfig → EvaluationTypeConfig} (keeps : (change first).id = typeId)
    (found : entriesOf types typeId = first :: later) (link : Link) :
    link ∈ configLinks (updateFirst (·.id = typeId) change types) ↔
      (link.2 ≠ typeId ∧ link ∈ configLinks types) ∨
        link.2 = typeId ∧ (HasRule (change first) link.1 ∨ ∃ t ∈ later, HasRule t link.1) := by
  have ofLater : ∀ t ∈ later, t.id = typeId := by
    intro t inside
    have entry : t ∈ entriesOf types typeId := by simp [found, inside]
    simpa using (List.mem_filter.mp entry).2
  rw [mem_configLinks, mem_configLinks]
  constructor
  · rintro ⟨t, inside, same, rule⟩
    rcases (mem_updateFirst change found t).mp inside with ⟨kept, other⟩ | rfl | next
    · exact .inl ⟨by simpa [← same] using other, t, kept, same, rule⟩
    · exact .inr ⟨same.symm.trans keeps, .inl rule⟩
    · exact .inr ⟨same.symm.trans (ofLater t next), .inr ⟨t, next, rule⟩⟩
  · rintro (⟨other, t, kept, same, rule⟩ | ⟨same, rule | ⟨t, next, rule⟩⟩)
    · exact ⟨t, (mem_updateFirst change found t).mpr (.inl ⟨kept, by simpa [same] using other⟩), same, rule⟩
    · exact ⟨_, (mem_updateFirst change found _).mpr (.inr (.inl rfl)), keeps.trans same.symm, rule⟩
    · exact ⟨t, (mem_updateFirst change found t).mpr (.inr (.inr next)), (ofLater t next).trans same.symm, rule⟩

theorem hasRule_addRule (ruleId added : String) (priority : Int) (t : EvaluationTypeConfig) (named : added ≠ "") :
    HasRule (t.addRule added priority) ruleId ↔ HasRule t ruleId ∨ ruleId = added := by
  rw [EvaluationTypeConfig.addRule]
  by_cases listed : t.rules.any (·.ruleId = added) = true
  · rw [if_pos listed]
    constructor
    · exact .inl
    · rintro (rule | rfl)
      · exact rule
      · exact ⟨named, by simpa using listed⟩
  · rw [if_neg listed]
    simp only [HasRule, List.mem_append, List.mem_singleton]
    constructor
    · rintro ⟨given, r, inside | rfl, rfl⟩
      · exact .inl ⟨given, r, inside, rfl⟩
      · exact .inr rfl
    · rintro (⟨given, r, inside, rfl⟩ | rfl)
      · exact ⟨given, r, .inl inside, rfl⟩
      · exact ⟨named, _, .inr rfl, rfl⟩
theorem hasRule_removeRule (ruleId removed : String) (t : EvaluationTypeConfig) :
    HasRule (t.removeRule removed) ruleId ↔ HasRule t ruleId ∧ ruleId ≠ removed := by
  simp only [HasRule, EvaluationTypeConfig.removeRule, List.mem_filter]
  constructor
  · rintro ⟨named, r, ⟨inside, other⟩, rfl⟩
    exact ⟨⟨named, r, inside, rfl⟩, by simpa using other⟩
  · rintro ⟨⟨named, r, inside, rfl⟩, other⟩
    exact ⟨named, r, ⟨inside, by simpa using other⟩, rfl⟩
theorem hasRule_normalized (rules : List RuleInput) (ruleId : String) :
    (∃ r ∈ normalizeRules rules, r.ruleId = ruleId) ↔ ruleId ≠ "" ∧ ∃ r ∈ rules, r.ruleId = some ruleId := by
  simp only [normalizeRules, List.mem_filterMap, RuleInput.normalized, present, Option.map_eq_some_iff,
    Option.filter_eq_some_iff]
  constructor
  · rintro ⟨_, ⟨given, inside, id, ⟨same, named⟩, rfl⟩, rfl⟩
    exact ⟨by simpa using named, given, inside, same⟩
  · rintro ⟨named, given, inside, same⟩
    exact ⟨_, ⟨given, inside, ruleId, ⟨same, by simpa using named⟩, rfl⟩, rfl⟩

theorem typesOf_updateEvaluationType (failures : Failures) (config : Option Meta) (typeId : String)
    (change : EvaluationTypeConfig → EvaluationTypeConfig) :
    typesOf (updateEvaluationType failures config typeId change) =
      if failures.config then typesOf config else updateFirst (·.id = typeId) change (typesOf config) := by
  cases failed : failures.config with
  | true => simp [updateEvaluationType, failed]
  | false => cases config <;> simp [updateEvaluationType, typesOf, failed, updateFirst]
theorem mem_recorded (config : Option Meta) (link : Link) :
    link ∈ Recorded config ↔ ∃ t ∈ entriesOf (typesOf config) link.2, HasRule t link.1 :=
  mem_configLinks_entries (typesOf config) link
theorem mem_recorded_update {failures : Failures} (reads : failures.config = false) {config : Option Meta} {typeId : String}
    {change : EvaluationTypeConfig → EvaluationTypeConfig} {first : EvaluationTypeConfig} {later : List EvaluationTypeConfig}
    (keeps : (change first).id = typeId) (found : entriesOf (typesOf config) typeId = first :: later) (link : Link) :
    link ∈ Recorded (updateEvaluationType failures config typeId change) ↔
      (link.2 ≠ typeId ∧ link ∈ Recorded config) ∨
        link.2 = typeId ∧ (HasRule (change first) link.1 ∨ ∃ t ∈ later, HasRule t link.1) := by
  show link ∈ configLinks (typesOf (updateEvaluationType failures config typeId change)) ↔ _
  rw [typesOf_updateEvaluationType, reads]
  exact mem_configLinks_updateFirst keeps found link
theorem id_of_entry {types later : List EvaluationTypeConfig} {first : EvaluationTypeConfig} {typeId : String}
    (found : entriesOf types typeId = first :: later) : first.id = typeId := by
  have entry : first ∈ entriesOf types typeId := by simp [found]
  simpa using (List.mem_filter.mp entry).2

/-- An addition records its link where the config is read and has an entry of the type. -/
theorem recorded_add {failures : Failures} {config : Option Meta} (link : Link) (named : link.1 ≠ "") (priority : Int)
    (reached : link ∈ Recorded config ∨ failures.config = false ∧ entriesOf (typesOf config) link.2 ≠ []) :
    Recorded (addRuleToEvaluationType failures config link.1 link.2 priority) = Recorded config ∪ {link} := by
  by_cases reads : failures.config = false
  · obtain ⟨first, later, found⟩ : ∃ first later, entriesOf (typesOf config) link.2 = first :: later := by
      apply List.exists_cons_of_ne_nil
      rcases reached with recorded | ⟨-, entry⟩
      · obtain ⟨t, inside, -⟩ := (mem_recorded config link).mp recorded
        exact List.ne_nil_of_mem inside
      · exact entry
    have keeps : (first.addRule link.1 priority).id = link.2 := by
      rw [← id_of_entry found, EvaluationTypeConfig.addRule]
      split <;> rfl
    ext other
    rw [addRuleToEvaluationType, mem_recorded_update reads keeps found, hasRule_addRule _ _ _ _ named, Set.mem_union,
      Set.mem_singleton_iff]
    by_cases same : other.2 = link.2
    · have entries : other ∈ Recorded config ↔ HasRule first other.1 ∨ ∃ t ∈ later, HasRule t other.1 := by
        rw [mem_recorded, same, found, List.exists_mem_cons_iff]
      simp only [same, ne_eq, not_true_eq_false, false_and, false_or, true_and, entries, Prod.ext_iff, and_true]
      exact or_right_comm
    · have distinct : other ≠ link := fun equal => same (congrArg Prod.snd equal)
      simp [same, distinct]
  · rcases reached with recorded | ⟨config, -⟩
    · have unread : failures.config = true := by simpa using reads
      rw [addRuleToEvaluationType, updateEvaluationType, if_pos unread]
      exact (Set.union_eq_self_of_subset_right (Set.singleton_subset_iff.mpr recorded)).symm
    · exact absurd config reads
/-- A removal takes out its link where the config is read and only the type's first entry has it. -/
theorem recorded_remove {failures : Failures} (reads : failures.config = false) {config : Option Meta} (link : Link)
    (single : ∀ t ∈ (entriesOf (typesOf config) link.2).tail, ¬ HasRule t link.1) :
    Recorded (removeRuleFromEvaluationType failures config link.1 link.2) = Recorded config \ {link} := by
  ext other
  rw [removeRuleFromEvaluationType, Set.mem_sdiff, Set.mem_singleton_iff]
  cases found : entriesOf (typesOf config) link.2 with
  | nil =>
    have unchanged : Recorded (updateEvaluationType failures config link.2 (·.removeRule link.1)) = Recorded config := by
      have absent : ∀ t ∈ typesOf config, decide (t.id = link.2) = false := by simpa [entriesOf] using found
      unfold Recorded
      rw [typesOf_updateEvaluationType, reads, if_neg Bool.false_ne_true, updateFirst_of_none _ absent]
    rw [unchanged, iff_self_and]
    rintro recorded rfl
    obtain ⟨t, inside, -⟩ := (mem_recorded config other).mp recorded
    rw [found] at inside
    cases inside
  | cons first later =>
    rw [found, List.tail_cons] at single
    have keeps : (first.removeRule link.1).id = link.2 := by
      show first.id = link.2
      exact id_of_entry found
    rw [mem_recorded_update reads keeps found, hasRule_removeRule]
    by_cases same : other.2 = link.2
    · have entries : other ∈ Recorded config ↔ HasRule first other.1 ∨ ∃ t ∈ later, HasRule t other.1 := by
        rw [mem_recorded, same, found, List.exists_mem_cons_iff]
      have absent : other.1 = link.1 → ¬ ∃ t ∈ later, HasRule t other.1 := by
        rintro equal ⟨t, inside, rule⟩
        exact single t inside (equal ▸ rule)
      simp only [same, ne_eq, not_true_eq_false, false_and, false_or, true_and, entries, Prod.ext_iff, and_true]
      constructor
      · rintro (⟨rule, different⟩ | next)
        · exact ⟨.inl rule, different⟩
        · exact ⟨.inr next, fun equal => absent equal next⟩
      · rintro ⟨rule | next, different⟩
        · exact .inl ⟨rule, different⟩
        · exact .inr next
    · have distinct : other ≠ link := fun equal => same (congrArg Prod.snd equal)
      simp [same, distinct]

section
variable [Storage]
open Storage

/-! ### The stored links -/

/-- The pairs of rule id and evaluation type in the evaluation entities. -/
def Stored (table : EntityTable) : Set Link :=
  {link | ∃ e ∈ table.rows, e.entity_type = .evaluation ∧ entityLink e = link}
/-- The link that an evaluation entity for a link is stored with. -/
def storedAs (link : Link) : Option Link :=
  (entityColumns (evaluationInput link)).toOption.map fun columns => (columns.1.text, columns.2.2)
/-- A link that is stored as it is written. -/
def Storable (link : Link) : Prop := storedAs link = some link

theorem readUUID_text {s : String} {id : UUID} (parsed : readUUID s = some id) : toUUID s = some id.text := by
  unfold readUUID at parsed
  split at parsed
  · rename_i text result
    obtain rfl := Option.some.inj parsed
    exact result
  · cases parsed
theorem sanitizeValue_eq_iff {s text : String} (plain : ∀ c ∈ text.toList, isPlain c = true) :
    sanitizeValue s = text ↔ s = text := by
  constructor
  · rintro rfl
    refine (sanitizeValue_escapes fun escaped => ?_).symm
    exact absurd (plain _ escaped) (by decide)
  · rintro rfl
    exact sanitizeValue_plain plain

/-- The texts that an input's columns come from. -/
structure Columns (input : RuleEntityInput) (columns : UUID × RuleEntityType × String) : Prop where
  rule_id : ∃ rule_id, input.rule_id = some rule_id ∧ trim (sanitizeValue rule_id) ≠ "" ∧
    toUUID (sanitizeValue rule_id) = some columns.1.text
  entity_type : ∃ entity_type, input.entity_type = some entity_type ∧ entityType (sanitizeValue entity_type) = some columns.2.1
  entity_id : ∃ entity_id, input.entity_id = some entity_id ∧ trim (sanitizeValue entity_id) ≠ "" ∧
    sanitizeValue entity_id = columns.2.2

omit [Storage] in
theorem verifyEntityInput_eq_ok_iff (input : RuleEntityInput) (rule_id entity_id : String) (entity_type : RuleEntityType) :
    verifyEntityInput input = .ok (rule_id, entity_type, entity_id) ↔
      input.rule_id.filter (trim · ≠ "") = some rule_id ∧ input.entity_type.bind entityType = some entity_type ∧
        input.entity_id.filter (trim · ≠ "") = some entity_id := by
  unfold verifyEntityInput
  cases input.rule_id.filter (trim · ≠ "") with
  | none => exact ⟨nofun, nofun⟩
  | some _ =>
    cases input.entity_type.bind entityType with
    | none => exact ⟨nofun, nofun⟩
    | some _ =>
      cases input.entity_id.filter (trim · ≠ "") with
      | none => exact ⟨nofun, nofun⟩
      | some _ => simp [pure, Except.pure]
theorem entityColumns_ok {input : RuleEntityInput} {columns : UUID × RuleEntityType × String}
    (accepted : entityColumns input = .ok columns) : Columns input columns := by
  unfold entityColumns at accepted
  cases verified : verifyEntityInput (sanitizeObject input) with
  | error err => simp [verified, bind, Except.bind] at accepted
  | ok values =>
    obtain ⟨rule_id, entity_type, entity_id⟩ := values
    cases parsed : readUUID rule_id with
    | none =>
      simp only [verified, bind, Except.bind, parsed] at accepted
      cases accepted
    | some id =>
      obtain rfl : (id, entity_type, entity_id) = columns := by
        simpa [verified, parsed, bind, Except.bind, pure, Except.pure] using accepted
      obtain ⟨rule, kind, target⟩ := (verifyEntityInput_eq_ok_iff _ _ _ _).mp verified
      obtain ⟨ruleGiven, ruleNamed⟩ := Option.filter_eq_some_iff.mp rule
      obtain ⟨kindText, kindGiven, kindIs⟩ := Option.bind_eq_some_iff.mp kind
      obtain ⟨idGiven, idNamed⟩ := Option.filter_eq_some_iff.mp target
      obtain ⟨ruleRaw, ruleIs, rfl⟩ := Option.map_eq_some_iff.mp ruleGiven
      obtain ⟨kindRaw, kindRawIs, rfl⟩ := Option.map_eq_some_iff.mp kindGiven
      obtain ⟨idRaw, idIs, rfl⟩ := Option.map_eq_some_iff.mp idGiven
      exact ⟨⟨ruleRaw, ruleIs, by simpa using ruleNamed, readUUID_text parsed⟩, ⟨kindRaw, kindRawIs, kindIs⟩,
        ⟨idRaw, idIs, by simpa using idNamed, rfl⟩⟩

omit [Storage] in
theorem entityType_eq_evaluation_iff (s : String) : entityType s = some .evaluation ↔ s = "evaluation" := by
  constructor
  · intro kind
    unfold entityType at kind
    split at kind <;> first | rfl | cases kind
  · rintro rfl
    rfl
/-- An entity is stored as an evaluation entity exactly if the request says so. -/
theorem columns_evaluation_iff {input : RuleEntityInput} {columns : UUID × RuleEntityType × String}
    (accepted : entityColumns input = .ok columns) :
    columns.2.1 = .evaluation ↔ input.entity_type = some "evaluation" := by
  obtain ⟨kind, given, known⟩ := (entityColumns_ok accepted).entity_type
  rw [given, Option.some.injEq, ← sanitizeValue_eq_iff (List.all_eq_true.mp (by decide)), ← entityType_eq_evaluation_iff, known,
    Option.some.injEq]

theorem addRuleEntity_eq (table : EntityTable) (input : RuleEntityInput) :
    addRuleEntity table input = (entityColumns input).map fun columns => table.insert columns.1 columns.2.1 columns.2.2 := by
  unfold addRuleEntity
  cases entityColumns input <;> rfl
theorem stored_insert (table : EntityTable) (rule_id : UUID) (entity_type : RuleEntityType) (entity_id : String) :
    Stored (table.insert rule_id entity_type entity_id) =
      Stored table ∪ {link | entity_type = .evaluation ∧ (rule_id.text, entity_id) = link} := by
  ext link
  simp [Stored, EntityTable.insert, entityLink, or_and_right, exists_or]
theorem mem_stored_add (failed : Bool) (table : EntityTable) (wanted link : Link) :
    link ∈ Stored (bestEffort failed table (addRuleEntity table (evaluationInput wanted))) ↔
      link ∈ Stored table ∨ failed = false ∧ storedAs wanted = some link := by
  rw [bestEffort, addRuleEntity_eq, storedAs]
  cases failed with
  | true => simp
  | false =>
    cases accepted : entityColumns (evaluationInput wanted) with
    | error err => simp [Except.map, Except.toOption]
    | ok columns =>
      have kind : columns.2.1 = .evaluation := (columns_evaluation_iff accepted).mpr rfl
      simp only [Except.map, Except.toOption, Bool.false_eq_true, if_false, Option.getD_some, stored_insert, kind,
        Set.mem_union, Set.mem_ofPred_eq, true_and, Option.map_some, Option.some.injEq]
theorem mem_stored_adds (failures : Failures) (skip : Link → Bool) (wanted : List Link) (table : EntityTable) (link : Link) :
    link ∈ Stored (wanted.foldl (fun rest w =>
        if skip w then rest else bestEffort (failures.inserts w) rest (addRuleEntity rest (evaluationInput w))) table) ↔
      link ∈ Stored table ∨ ∃ w ∈ wanted, skip w = false ∧ failures.inserts w = false ∧ storedAs w = some link := by
  induction wanted generalizing table with
  | nil => simp
  | cons w rest ih =>
    rw [List.foldl_cons, ih]
    cases skipped : skip w with
    | true => simp [skipped]
    | false => simp [skipped, mem_stored_add, or_assoc]
theorem deleteRuleEntity_read (table : EntityTable) {id uuid : String} (read : toUUID id = some uuid) :
    deleteRuleEntity table id = .ok (table.keep (·.id ≠ uuid)) := by
  rw [deleteRuleEntity, read]
  rfl
theorem mem_rows_deletes (failures : Failures) (skip : RuleEntity → Prop) [DecidablePred skip] {entities : List RuleEntity}
    (read : ∀ e ∈ entities, toUUID e.id = some e.id) (table : EntityTable) (row : RuleEntity) :
    row ∈ (entities.foldl (fun rest e =>
        if skip e then rest else bestEffort (failures.deletes e) rest (deleteRuleEntity rest e.id)) table).rows ↔
      row ∈ table.rows ∧ ∀ e ∈ entities, e.id = row.id → skip e ∨ failures.deletes e = true := by
  induction entities generalizing table with
  | nil => simp
  | cons e rest ih =>
    rw [List.forall_mem_cons] at read
    rw [List.foldl_cons, ih read.2, List.forall_mem_cons, ← and_assoc]
    refine and_congr_left fun _ => ?_
    by_cases skipped : skip e
    · simp [skipped]
    · cases failed : failures.deletes e with
      | true => simp [bestEffort]
      | false => simp [skipped, bestEffort, deleteRuleEntity_read table read.1, Except.toOption, EntityTable.keep, ne_comm]

/-! ### The synchronisation -/

/-- What a synchronisation needs: nothing to be done, or no failure on what is
    to be done and links that are stored as they are written. -/
def Synchronisable (failures : Failures) (table : EntityTable) (desired : Set Link) : Prop :=
  Stored table = desired ∨
    failures.config = false ∧ failures.listing = false ∧
      (∀ e ∈ table.rows, e.entity_type = .evaluation → entityLink e ∉ desired → failures.deletes e = false) ∧
      ∀ link ∈ desired, link ∉ Stored table → Storable link ∧ failures.inserts link = false

omit [Storage] in
theorem linkKey_inj {link other : Link} (plain : ∀ c ∈ link.1.toList, isPlain c = true)
    (alsoPlain : ∀ c ∈ other.1.toList, isPlain c = true) (same : linkKey link = linkKey other) : link = other := by
  have noColon {s : String} (letters : ∀ c ∈ s.toList, isPlain c = true) : ':' ∉ s.toList := fun inside =>
    absurd (letters _ inside) (by decide)
  have chars := congrArg String.toList same
  simp only [linkKey, String.toList_append, List.append_assoc] at chars
  obtain ⟨rules, types⟩ := append_separator_inj (noColon plain) (noColon alsoPlain) chars
  exact Prod.ext (String.toList_inj.mp rules) (String.toList_inj.mp types)
theorem plain_of_stored {table : EntityTable} {link : Link} (stored : link ∈ Stored table) :
    ∀ c ∈ link.1.toList, isPlain c = true := by
  obtain ⟨e, inside, -, rfl⟩ := stored
  exact toUUID_plain (table.read e inside).2
theorem plain_of_storable {link : Link} (storable : Storable link) : ∀ c ∈ link.1.toList, isPlain c = true := by
  obtain ⟨columns, -, same⟩ := Option.map_eq_some_iff.mp storable
  rw [← congrArg Prod.fst same]
  exact toUUID_plain columns.1.read

/-- The entities that stay are those with a wanted key and those that fail to be
    deleted; those that are added have a wanted link that was not stored. -/
theorem mem_stored_sync {failures : Failures} (config : failures.config = false) (listing : failures.listing = false)
    (found : Meta) (table : EntityTable) (link : Link) :
    link ∈ Stored (syncRuleEntitiesFromConfig failures (some found) table) ↔
      (∃ e ∈ table.rows, e.entity_type = .evaluation ∧ entityLink e = link ∧
        (linkKey link ∈ (configLinks found.evaluationTypes).map linkKey ∨ failures.deletes e = true)) ∨
      ∃ wanted ∈ configLinks found.evaluationTypes, wanted ∉ Stored table ∧ failures.inserts wanted = false ∧
        storedAs wanted = some link := by
  have read : ∀ e ∈ table.rows.filter (·.entity_type = .evaluation), toUUID e.id = some e.id := fun e inside =>
    (table.read e (List.mem_filter.mp inside).1).1
  have exists_iff (wanted : Link) : (table.rows.filter (·.entity_type = .evaluation)).any (entityLink · = wanted) = false ↔
      wanted ∉ Stored table := by
    simp [Stored]
  simp only [syncRuleEntitiesFromConfig, config, listing, Bool.or_self, Bool.false_eq_true, if_false]
  rw [mem_stored_adds failures (fun wanted => (table.rows.filter (·.entity_type = .evaluation)).any (entityLink · = wanted))]
  refine or_congr ?_ ?_
  · constructor
    · rintro ⟨e, inside, kind, rfl⟩
      have kept := (mem_rows_deletes failures _ read table e).mp inside
      exact ⟨e, kept.1, kind, rfl, kept.2 e (by simp [kept.1, kind]) rfl⟩
    · rintro ⟨e, inside, kind, rfl, stays⟩
      refine ⟨e, (mem_rows_deletes failures _ read table e).mpr ⟨inside, fun other member same => ?_⟩, kind, rfl⟩
      obtain rfl := List.inj_on_of_nodup_map table.ids (List.mem_filter.mp member).1 inside same
      exact stays
  · simp only [exists_iff]

/-- Where the links that are not stored are stored as they are written, an entity has the key of a
    recorded link only if it has that link. -/
theorem recorded_of_key {types : List EvaluationTypeConfig} {table : EntityTable}
    (storable : ∀ link ∈ configLinks types, link ∉ Stored table → Storable link) {link : Link} (stored : link ∈ Stored table)
    (keyed : linkKey link ∈ (configLinks types).map linkKey) : link ∈ configLinks types := by
  obtain ⟨other, member, same⟩ := List.mem_map.mp keyed
  have plain : ∀ c ∈ other.1.toList, isPlain c = true := by
    by_cases also : other ∈ Stored table
    · exact plain_of_stored also
    · exact plain_of_storable (storable other member also)
  exact linkKey_inj plain (plain_of_stored stored) same ▸ member

/-- A synchronisation that nothing cuts short stores the recorded links. -/
theorem stored_sync {failures : Failures} {found : Meta} {table : EntityTable} {desired : Set Link}
    (recorded : ∀ link, link ∈ configLinks found.evaluationTypes ↔ link ∈ desired)
    (sync : Synchronisable failures table desired) :
    Stored (syncRuleEntitiesFromConfig failures (some found) table) = desired := by
  have keyed {link : Link} (wanted : link ∈ desired) : linkKey link ∈ (configLinks found.evaluationTypes).map linkKey :=
    List.mem_map_of_mem ((recorded link).mpr wanted)
  rcases sync with rfl | ⟨config, listing, deletes, inserts⟩
  · by_cases reads : failures.config = false ∧ failures.listing = false
    · ext link
      rw [mem_stored_sync reads.1 reads.2]
      constructor
      · rintro (⟨e, inside, kind, rfl, -⟩ | ⟨wanted, member, absent, -⟩)
        · exact ⟨e, inside, kind, rfl⟩
        · exact absurd ((recorded wanted).mp member) absent
      · intro stored
        obtain ⟨e, inside, kind, same⟩ := stored
        exact .inl ⟨e, inside, kind, same, .inl (keyed ⟨e, inside, kind, same⟩)⟩
    · have unread : failures.config || failures.listing := by
        by_contra both
        exact reads (by simpa using both)
      simp [syncRuleEntitiesFromConfig, unread]
  · ext link
    rw [mem_stored_sync config listing]
    constructor
    · rintro (⟨e, inside, kind, rfl, wanted | failed⟩ | ⟨wanted, member, absent, -, stored⟩)
      · have storable (link : Link) (member : link ∈ configLinks found.evaluationTypes) (absent : link ∉ Stored table) :=
          (inserts link ((recorded link).mp member) absent).1
        exact (recorded _).mp (recorded_of_key storable ⟨e, inside, kind, rfl⟩ wanted)
      · by_contra undesired
        simp [deletes e inside kind undesired] at failed
      · obtain rfl : wanted = link :=
          Option.some.inj ((inserts wanted ((recorded wanted).mp member) absent).1.symm.trans stored)
        exact (recorded wanted).mp member
    · intro wanted
      by_cases stored : link ∈ Stored table
      · obtain ⟨e, inside, kind, same⟩ := stored
        exact .inl ⟨e, inside, kind, same, .inl (keyed wanted)⟩
      · obtain ⟨storable, succeeds⟩ := inserts link wanted stored
        exact .inr ⟨link, (recorded link).mpr wanted, stored, succeeds, storable⟩

/-! ### The links that the user asked for -/

/-- Both sides have the same links. -/
structure Agrees (st : State) (links : Set Link) : Prop where
  stored : Stored st.entities = links
  recorded : Recorded st.config = links

/-- A rule that a patched type has: one of the given rules, or, where none are given, one that it had. -/
def PatchedRule (body : TypePatch) (had : Prop) (ruleId : String) : Prop :=
  match body.rules with
  | none => had
  | some rules => ruleId ≠ "" ∧ ∃ r ∈ rules, r.ruleId = some ruleId
/-- What a request does to the links, as the user means it. -/
def effect (st : State) (req : Request) (links : Set Link) : Set Link :=
  match req with
  | .postEntity input =>
    links ∪ {link | input.entity_type = some "evaluation" ∧ input.rule_id = some link.1 ∧ input.entity_id = some link.2}
  | .deleteEntity id =>
    links \ {link | ∃ e ∈ st.entities.rows, toUUID id = some e.id ∧ e.entity_type = .evaluation ∧ entityLink e = link}
  | .patchType typeId body =>
    {link | (link.2 ≠ typeId ∧ link ∈ links) ∨ link.2 = typeId ∧ PatchedRule body (link ∈ links) link.1}
  | .postTypes types => {link | link ∈ configLinks (types.map normalizeTypeConfig)}
  | .deleteType typeId => {link | link ∈ links ∧ link.2 ≠ typeId}
  | .deleteRule id => {link | link ∈ links ∧ toUUID id ≠ some link.1}

/-- A request that leaves both sides with the links that the user asked for.
    * An added entity is stored as it is written, and the meta has an entry of
      its type to record it in, which is read.
    * Of a deleted entity, nothing but the row and the first entry of its type
      has the link, and both are read.
    * New rules of a type replace all that the meta has for it, and the
      synchronisation after a change of the types is not cut short.
    * A deleted rule is not recorded for any type. -/
def Covered (failures : Failures) (st : State) (req : Request) : Prop :=
  match req with
  | .postEntity input =>
    input.entity_type = some "evaluation" → ∀ link : Link, input.rule_id = some link.1 → input.entity_id = some link.2 →
      Storable link ∧
        (link ∈ Recorded st.config ∨ failures.config = false ∧ entriesOf (typesOf st.config) link.2 ≠ [])
  | .deleteEntity id =>
    ∀ e ∈ st.entities.rows, toUUID id = some e.id → e.entity_type = .evaluation →
      failures.config = false ∧ failures.listing = false ∧ e.entity_id ≠ "" ∧
        (∀ other ∈ st.entities.rows, other.entity_type = .evaluation → entityLink other = entityLink e → other.id = e.id) ∧
        ∀ entry ∈ (entriesOf (typesOf st.config) e.entity_id).tail, ¬ HasRule entry e.rule_id
  | .patchType typeId body =>
    (∀ rules, body.rules = some rules → ∀ entry ∈ (entriesOf (typesOf st.config) typeId).tail, ∀ ruleId,
      HasRule entry ruleId → ∃ r ∈ rules, r.ruleId = some ruleId) ∧
    Synchronisable failures st.entities (effect st req (Recorded st.config))
  | .postTypes _ | .deleteType _ => Synchronisable failures st.entities (effect st req (Recorded st.config))
  | .deleteRule id => ∀ link ∈ Recorded st.config, toUUID id ≠ some link.1

/-! ### One request -/

theorem nonempty_of_trim {s : String} (named : trim (sanitizeValue s) ≠ "") : s ≠ "" := by
  rintro rfl
  rw [sanitizeValue_plain (List.all_eq_true.mp (by decide))] at named
  exact named (by decide)
theorem present_of_trim {s : String} (named : trim (sanitizeValue s) ≠ "") : present (some s) = some s := by
  simp [present, nonempty_of_trim named]

theorem postEntity_agrees {failures : Failures} {st st' : State} {input : RuleEntityInput} {links : Set Link}
    (agrees : Agrees st links) (covered : Covered failures st (.postEntity input))
    (ran : postEntity failures st input = .ok st') : Agrees st' (effect st (.postEntity input) links) := by
  obtain ⟨stored, recorded⟩ := agrees
  rw [postEntity, addRuleEntity_eq] at ran
  cases accepted : entityColumns input with
  | error err =>
    rw [accepted] at ran
    cases ran
  | ok columns =>
    have kind := columns_evaluation_iff accepted
    obtain ⟨⟨rule_id, isRule, ruleNamed, -⟩, -, ⟨entity_id, isEntity, entityNamed, -⟩⟩ := entityColumns_ok accepted
    simp only [accepted, Except.map, isRule, isEntity, present_of_trim ruleNamed, present_of_trim entityNamed] at ran
    by_cases evaluation : input.entity_type = some "evaluation"
    · obtain ⟨storable, reached⟩ := covered evaluation (rule_id, entity_id) isRule isEntity
      have same : evaluationInput (rule_id, entity_id) = input := by
        rw [evaluationInput, ← evaluation, ← isRule, ← isEntity]
      have written : (columns.1.text, columns.2.2) = (rule_id, entity_id) := by
        simpa [Storable, storedAs, same, accepted, Except.toOption] using storable
      have wanted : effect st (.postEntity input) links = links ∪ {(rule_id, entity_id)} := by
        ext link
        simp only [effect, evaluation, isRule, isEntity, Option.some.injEq, true_and, Set.mem_union, Set.mem_ofPred_eq,
          Set.mem_singleton_iff]
        refine or_congr_right ⟨fun ⟨rule, entity⟩ => Prod.ext rule.symm entity.symm, ?_⟩
        rintro rfl
        exact ⟨rfl, rfl⟩
      rw [if_pos evaluation] at ran
      obtain rfl := Except.ok.inj ran
      rw [wanted]
      constructor
      · rw [stored_insert, stored, kind.mpr evaluation, written]
        simp
      · rw [recorded_add (rule_id, entity_id) (nonempty_of_trim ruleNamed) 0 reached, recorded]
    · have wanted : effect st (.postEntity input) links = links := by simp [effect, evaluation]
      rw [if_neg evaluation] at ran
      obtain rfl := Except.ok.inj ran
      rw [wanted]
      refine ⟨?_, recorded⟩
      rw [stored_insert, stored]
      simp [kind, evaluation]

theorem mem_stored_keep (table : EntityTable) (kept : RuleEntity → Bool) (link : Link) :
    link ∈ Stored (table.keep kept) ↔
      ∃ e ∈ table.rows, kept e = true ∧ e.entity_type = .evaluation ∧ entityLink e = link := by
  simp [Stored, EntityTable.keep, and_assoc]
theorem entityById_spec {failures : Failures} {table : EntityTable} {id : String} {e : RuleEntity}
    (found : entityById failures table id = some e) : e ∈ table.rows ∧ toUUID id = some e.id := by
  rw [entityById] at found
  split at found
  · cases found
  · exact ⟨List.mem_of_find?_eq_some found, by simpa using List.find?_some found⟩
theorem entityById_eq {failures : Failures} (listing : failures.listing = false) {table : EntityTable} {id : String}
    {e : RuleEntity} (inside : e ∈ table.rows) (read : toUUID id = some e.id) : entityById failures table id = some e := by
  cases found : entityById failures table id with
  | none =>
    rw [entityById, listing, if_neg Bool.false_ne_true, List.find?_eq_none] at found
    exact absurd (decide_eq_true read) (found e inside)
  | some other =>
    obtain ⟨member, same⟩ := entityById_spec found
    rw [List.inj_on_of_nodup_map table.ids member inside (Option.some.inj (same.symm.trans read))]

/-- A deletion in the table alone. -/
def withoutEntity (st : State) (uuid : String) : EntityTable := st.entities.keep (·.id ≠ uuid)

/-- An entity of another kind, or none, is deleted. -/
theorem deleteEntity_other {st : State} {id uuid : String} (read : toUUID id = some uuid)
    (other : ∀ e ∈ st.entities.rows, e.id = uuid → e.entity_type ≠ .evaluation) :
    Stored (withoutEntity st uuid) = Stored st.entities ∧
      effect st (.deleteEntity id) (Stored st.entities) = Stored st.entities := by
  constructor
  · ext link
    rw [withoutEntity, mem_stored_keep]
    constructor
    · rintro ⟨e, inside, -, kind, same⟩
      exact ⟨e, inside, kind, same⟩
    · rintro ⟨e, inside, kind, same⟩
      exact ⟨e, inside, by simpa using fun equal => other e inside equal kind, kind, same⟩
  · ext link
    rw [effect, Set.mem_sdiff, and_iff_left_iff_imp]
    rintro - ⟨e, inside, same, kind, -⟩
    exact other e inside (Option.some.inj (same.symm.trans read)) kind
/-- An evaluation entity is deleted that is the only one for its link. -/
theorem deleteEntity_evaluation {st : State} {id : String} {e : RuleEntity} (inside : e ∈ st.entities.rows)
    (read : toUUID id = some e.id) (kind : e.entity_type = .evaluation)
    (alone : ∀ other ∈ st.entities.rows, other.entity_type = .evaluation → entityLink other = entityLink e →
      other.id = e.id) :
    Stored (withoutEntity st e.id) = Stored st.entities \ {entityLink e} ∧
      effect st (.deleteEntity id) (Stored st.entities) = Stored st.entities \ {entityLink e} := by
  constructor
  · ext link
    rw [withoutEntity, mem_stored_keep, Set.mem_sdiff, Set.mem_singleton_iff]
    constructor
    · rintro ⟨other, member, kept, otherKind, rfl⟩
      refine ⟨⟨other, member, otherKind, rfl⟩, fun same => ?_⟩
      exact absurd (alone other member otherKind same) (by simpa using kept)
    · rintro ⟨⟨other, member, otherKind, rfl⟩, different⟩
      refine ⟨other, member, ?_, otherKind, rfl⟩
      have distinct : other.id ≠ e.id := fun equal =>
        different (congrArg entityLink (List.inj_on_of_nodup_map st.entities.ids member inside equal))
      simpa using distinct
  · rw [effect]
    congr 1
    ext link
    rw [Set.mem_singleton_iff]
    constructor
    · rintro ⟨other, member, same, otherKind, rfl⟩
      rw [List.inj_on_of_nodup_map st.entities.ids member inside (Option.some.inj (same.symm.trans read))]
    · rintro rfl
      exact ⟨e, inside, read, kind, rfl⟩

theorem deleteEntity_agrees {failures : Failures} {st st' : State} {id : String} {links : Set Link}
    (agrees : Agrees st links) (covered : Covered failures st (.deleteEntity id))
    (ran : deleteEntity failures st id = .ok st') : Agrees st' (effect st (.deleteEntity id) links) := by
  obtain ⟨rfl, recorded⟩ := agrees
  rw [deleteEntity] at ran
  split at ran
  · cases ran
  · cases read : toUUID id with
    | none =>
      rw [deleteRuleEntity, read] at ran
      cases ran
    | some uuid =>
      rw [deleteRuleEntity_read st.entities read] at ran
      simp only [bind, Except.bind] at ran
      by_cases linked : ∃ e ∈ st.entities.rows, e.id = uuid ∧ e.entity_type = .evaluation
      · obtain ⟨e, inside, rfl, kind⟩ := linked
        obtain ⟨reads, listing, target, alone, single⟩ := covered e inside read kind
        have stored : entityLink e ∈ Recorded st.config := recorded ▸ ⟨e, inside, kind, rfl⟩
        have named : e.rule_id ≠ "" := by
          obtain ⟨t, -, rule⟩ := (mem_recorded st.config (entityLink e)).mp stored
          exact rule.1
        rw [entityById_eq listing inside read] at ran
        simp only [kind, target, named, ne_eq, not_false_eq_true, and_self, if_true] at ran
        obtain rfl := Except.ok.inj ran
        obtain ⟨rows, wanted⟩ := deleteEntity_evaluation inside read kind alone
        rw [wanted]
        exact ⟨rows, by rw [← recorded]; exact recorded_remove reads (entityLink e) single⟩
      · have other : ∀ e ∈ st.entities.rows, e.id = uuid → e.entity_type ≠ .evaluation := fun e inside same kind =>
          linked ⟨e, inside, same, kind⟩
        have unchanged : st' = { st with entities := withoutEntity st uuid } := by
          cases found : entityById failures st.entities id with
          | none =>
            rw [found] at ran
            exact (Except.ok.inj ran).symm
          | some e =>
            obtain ⟨inside, same⟩ := entityById_spec found
            have kind := other e inside (Option.some.inj (same.symm.trans read))
            simp only [found, kind, false_and, if_false] at ran
            exact (Except.ok.inj ran).symm
        obtain ⟨rows, wanted⟩ := deleteEntity_other read other
        rw [unchanged, wanted]
        exact ⟨rows, recorded⟩

/-- The types of a patched config that is written and synchronised from. -/
theorem saveTypes_agrees {failures : Failures} {st : State} {found : Meta} {types : List EvaluationTypeConfig}
    {desired : Set Link} (recorded : ∀ link, link ∈ configLinks types ↔ link ∈ desired)
    (sync : Synchronisable failures st.entities desired) : Agrees (saveTypes failures st found types) desired :=
  ⟨stored_sync recorded sync, Set.ext recorded⟩

omit [Storage] in
theorem hasRule_updated (typeId ruleId : String) (body : TypePatch) (existing : EvaluationTypeConfig) :
    HasRule (body.updated typeId existing) ruleId ↔ PatchedRule body (HasRule existing ruleId) ruleId := by
  cases given : body.rules with
  | none => simp [HasRule, PatchedRule, TypePatch.updated, given]
  | some rules =>
    have listed := hasRule_normalized rules ruleId
    simp only [HasRule, PatchedRule, TypePatch.updated, given, Option.map_some, Option.getD_some, listed]
    exact and_self_left
omit [Storage] in
theorem mem_configLinks_append (types : List EvaluationTypeConfig) (t : EvaluationTypeConfig) (link : Link) :
    link ∈ configLinks (types ++ [t]) ↔ link ∈ configLinks types ∨ t.id = link.2 ∧ HasRule t link.1 := by
  simp only [mem_configLinks, List.mem_append, List.mem_singleton, or_and_right, exists_or, exists_eq_left]

theorem mem_configLinks_patch {failures : Failures} {st : State} {typeId : String} {body : TypePatch}
    (covered : Covered failures st (.patchType typeId body)) (link : Link) :
    link ∈ configLinks (patchTypes typeId body (typesOf st.config)) ↔
      link ∈ effect st (.patchType typeId body) (Recorded st.config) := by
  show _ ↔ (link.2 ≠ typeId ∧ link ∈ Recorded st.config) ∨
    link.2 = typeId ∧ PatchedRule body (link ∈ Recorded st.config) link.1
  rw [patchTypes]
  cases found : entriesOf (typesOf st.config) typeId with
  | nil =>
    have absent : ¬ (typesOf st.config).any (·.id = typeId) := by simpa [entriesOf] using found
    have unrecorded (same : link.2 = typeId) : link ∉ Recorded st.config := by
      rw [mem_recorded, same, found]
      simp
    have noRule : ¬ HasRule { id := typeId, enabled := false } link.1 := by simp [HasRule]
    rw [if_neg absent, mem_configLinks_append, hasRule_updated]
    show link ∈ Recorded st.config ∨ typeId = link.2 ∧ _ ↔ _
    by_cases same : link.2 = typeId
    · simp [same, unrecorded same, noRule]
    · simp [same, Ne.symm same]
  | cons first later =>
    have inside : (typesOf st.config).any (·.id = typeId) := by
      have entry : first ∈ entriesOf (typesOf st.config) typeId := by simp [found]
      exact List.any_eq_true.mpr ⟨first, (List.mem_filter.mp entry).1, (List.mem_filter.mp entry).2⟩
    have keeps : (body.updated typeId first).id = typeId := rfl
    rw [if_pos inside, mem_configLinks_updateFirst keeps found, hasRule_updated]
    refine or_congr Iff.rfl (and_congr_right fun same => ?_)
    have entries : link ∈ Recorded st.config ↔ HasRule first link.1 ∨ ∃ t ∈ later, HasRule t link.1 := by
      rw [mem_recorded, same, found, List.exists_mem_cons_iff]
    have replaced := covered.1
    rw [found, List.tail_cons] at replaced
    unfold PatchedRule
    cases given : body.rules with
    | none => exact entries.symm
    | some rules =>
      show _ ∨ _ ↔ _
      rw [or_iff_left_iff_imp]
      rintro ⟨t, member, rule⟩
      exact ⟨rule.1, replaced rules given t member link.1 rule⟩

theorem patchType_agrees {failures : Failures} {st st' : State} {typeId : String} {body : TypePatch} {links : Set Link}
    (agrees : Agrees st links) (covered : Covered failures st (.patchType typeId body))
    (ran : patchType failures st typeId body = .ok st') : Agrees st' (effect st (.patchType typeId body) links) := by
  have recorded := mem_configLinks_patch covered
  rw [agrees.recorded] at recorded
  have sync := covered.2
  rw [agrees.recorded] at sync
  rw [patchType] at ran
  cases known : st.config with
  | none =>
    rw [known] at ran
    cases ran
  | some found =>
    rw [known] at ran recorded
    obtain rfl := Except.ok.inj ran
    exact saveTypes_agrees recorded sync
theorem postTypes_agrees {failures : Failures} {st st' : State} {types : List TypeInput} {links : Set Link}
    (covered : Covered failures st (.postTypes types))
    (ran : postTypes failures st types = .ok st') : Agrees st' (effect st (.postTypes types) links) := by
  rw [postTypes] at ran
  cases known : st.config with
  | none =>
    rw [known] at ran
    cases ran
  | some found =>
    rw [known] at ran
    obtain rfl := Except.ok.inj ran
    exact saveTypes_agrees (fun _ => Iff.rfl) covered
theorem deleteType_agrees {failures : Failures} {st st' : State} {typeId : String} {links : Set Link}
    (agrees : Agrees st links) (covered : Covered failures st (.deleteType typeId))
    (ran : deleteType failures st typeId = .ok st') : Agrees st' (effect st (.deleteType typeId) links) := by
  have sync : Synchronisable failures st.entities (effect st (.deleteType typeId) links) := by
    rw [← agrees.recorded]
    exact covered
  rw [deleteType] at ran
  cases known : st.config with
  | none =>
    rw [known] at ran
    cases ran
  | some found =>
    simp only [known] at ran
    split at ran
    · cases ran
    · split at ran
      · obtain rfl := Except.ok.inj ran
        refine saveTypes_agrees (fun link => ?_) sync
        rw [← agrees.recorded, known]
        show _ ↔ link ∈ configLinks found.evaluationTypes ∧ link.2 ≠ typeId
        simp only [mem_configLinks, List.mem_filter, decide_eq_true_eq]
        constructor
        · rintro ⟨t, ⟨inside, other⟩, same, rule⟩
          exact ⟨⟨t, inside, same, rule⟩, same ▸ other⟩
        · rintro ⟨⟨t, inside, same, rule⟩, other⟩
          exact ⟨t, ⟨inside, same ▸ other⟩, same, rule⟩
      · cases ran
theorem deleteRule_agrees {failures : Failures} {st st' : State} {id : String} {links : Set Link}
    (agrees : Agrees st links) (covered : Covered failures st (.deleteRule id))
    (ran : deleteRule failures st id = .ok st') : Agrees st' (effect st (.deleteRule id) links) := by
  obtain ⟨stored, rfl⟩ := agrees
  have wanted : effect st (.deleteRule id) (Recorded st.config) = Recorded st.config := by
    ext link
    exact and_iff_left_of_imp (covered link)
  rw [deleteRule] at ran
  cases read : toUUID id with
  | none =>
    rw [read] at ran
    cases ran
  | some uuid =>
    rw [read] at ran
    obtain rfl := Except.ok.inj ran
    rw [wanted]
    refine ⟨?_, rfl⟩
    show Stored (if failures.ofRule then st.entities else st.entities.keep (·.rule_id ≠ uuid)) = _
    cases failures.ofRule with
    | true => exact stored
    | false =>
      ext link
      rw [if_neg Bool.false_ne_true, mem_stored_keep]
      constructor
      · rintro ⟨e, inside, -, kind, same⟩
        exact stored ▸ ⟨e, inside, kind, same⟩
      · intro recorded
        obtain ⟨e, inside, kind, rfl⟩ := stored.symm ▸ recorded
        have other : uuid ≠ e.rule_id := fun equal =>
          covered _ recorded (read.trans (congrArg some equal))
        exact ⟨e, inside, by simpa using other.symm, kind, rfl⟩

/-! ### Runs -/

theorem apply_agrees {failures : Failures} {st st' : State} {req : Request} {links : Set Link} (agrees : Agrees st links)
    (covered : Covered failures st req) (ran : apply failures st req = .ok st') : Agrees st' (effect st req links) := by
  cases req with
  | postEntity input => exact postEntity_agrees agrees covered ran
  | deleteEntity id => exact deleteEntity_agrees agrees covered ran
  | patchType typeId body => exact patchType_agrees agrees covered ran
  | postTypes types => exact postTypes_agrees covered ran
  | deleteType typeId => exact deleteType_agrees agrees covered ran
  | deleteRule id => exact deleteRule_agrees agrees covered ran

/-- A successful request that meets a condition, with the links that the user asked for. -/
inductive Step (condition : Failures → State → Request → Prop) : State × Set Link → State × Set Link → Prop
  | request {failures : Failures} {st st' : State} {req : Request} {links : Set Link} (meets : condition failures st req)
      (ran : apply failures st req = .ok st') : Step condition (st, links) (st', effect st req links)

/-- In every run of covered requests both sides have the links that the user asked for. -/
theorem links_stay_in_sync {before after : State × Set Link} (agrees : Agrees before.1 before.2)
    (run : Relation.ReflTransGen (Step Covered) before after) : Agrees after.1 after.2 := by
  induction run with
  | refl => exact agrees
  | tail _ step ih =>
    cases step with
    | request covered ran => exact apply_agrees ih covered ran

end

/-! ### A link to a type that has no entry -/

def sampleId : String := "6f9619ff-8b86-4d01-b42d-00c04fc964ff"
/-- Texts without escapes, where the ids after the first are longer than all before. -/
@[reducible] def plainStorage : Storage where
  sanitizeValue s := s
  toUUID s := if s.toList.all isPlain then some s else none
  rejection s := "Cannot parse UUID from String: " ++ s
  generateUUIDv4 ids := String.ofList (sampleId.toList ++ List.replicate (ids.map String.length).sum '0')
  sanitizeValue_plain _ := rfl
  sanitizeValue_escapes _ := rfl
  toUUID_stable {s id} parsed := by
    split at parsed
    · rename_i plain
      obtain rfl := Option.some.inj parsed
      exact if_pos plain
    · cases parsed
  toUUID_plain {s id} parsed := by
    split at parsed
    · rename_i plain
      obtain rfl := Option.some.inj parsed
      exact List.all_eq_true.mp plain
    · cases parsed
  generated_new ids inside := by
    have short : _ ≤ (ids.map String.length).sum := List.le_sum_of_mem (List.mem_map_of_mem inside)
    rw [String.length_ofList, List.length_append, List.length_replicate] at short
    have long : 0 < sampleId.toList.length := by decide
    omega
  generated_read ids := by
    refine if_pos (List.all_eq_true.mpr fun c inside => ?_)
    rw [String.toList_ofList, List.mem_append, List.mem_replicate] at inside
    rcases inside with fixed | ⟨-, rfl⟩
    · exact List.all_eq_true.mp (by decide : sampleId.toList.all isPlain = true) c fixed
    · rfl

section
attribute [local instance] plainStorage

/-- No entity, and a config whose meta has the given types. -/
def sampleState (types : List EvaluationTypeConfig) : State :=
  { entities := { rows := [], ids := List.nodup_nil, read := nofun }, config := some { evaluationTypes := types } }
/-- The state after a request without failures. -/
def after (st : State) (req : Request) : State := (apply {} st req).toOption.getD st
theorem apply_after {st : State} {req : Request} (ran : ∃ st', apply {} st req = .ok st') :
    apply {} st req = .ok (after st req) := by
  obtain ⟨st', success⟩ := ran
  rw [after, success]
  rfl
theorem sampleState_agrees {types : List EvaluationTypeConfig} (empty : configLinks types = []) :
    Agrees (sampleState types) ∅ := by
  constructor
  · exact Set.eq_empty_of_forall_notMem fun link ⟨e, inside, _⟩ => nomatch inside
  · refine Set.eq_empty_of_forall_notMem fun link inside => ?_
    change link ∈ configLinks types at inside
    rw [empty] at inside
    cases inside

def sampleLink : Link := ("3f2504e0-4f89-41d3-9a0c-0305e82c3301", "hallucination")
def postSample : Request := .postEntity (evaluationInput sampleLink)
def hallucinationEntry : EvaluationTypeConfig := { id := "hallucination", enabled := true }
theorem links_stay_in_sync_post :
    Agrees (after (sampleState [hallucinationEntry]) postSample) (effect (sampleState [hallucinationEntry]) postSample ∅) := by
  have covered : Covered {} (sampleState [hallucinationEntry]) postSample := by
    rintro - link rule entity
    obtain rfl : sampleLink = link := Prod.ext (Option.some.inj rule) (Option.some.inj entity)
    exact ⟨by unfold Storable; decide, .inr ⟨rfl, by decide⟩⟩
  have step : Step Covered (sampleState [hallucinationEntry], ∅) (after _ postSample, effect _ postSample ∅) :=
    .request covered (apply_after ⟨_, rfl⟩)
  exact @links_stay_in_sync _ (_, _) (_, _) (sampleState_agrees rfl) (.single step)

end

def patchBias : Request := .patchType "bias" { enabled := some true }
/-- A rule is linked to a type that the user never configured, so that the meta
    has no entry to record it in; the next change of any type deletes the link. -/
theorem added_link_is_lost :
    ¬ ∀ [Storage] (before final : State × Set Link), Agrees before.1 before.2 →
        Relation.ReflTransGen (Step fun _ _ _ => True) before final → Agrees final.1 final.2 := by
  intro all
  let _ := plainStorage
  let posted := after (sampleState []) postSample
  have post := apply_after (⟨_, rfl⟩ : ∃ st, apply {} (sampleState []) postSample = .ok st)
  have patch := apply_after (⟨_, rfl⟩ : ∃ st, apply {} posted patchBias = .ok st)
  have agrees := all _ _ (sampleState_agrees rfl)
    ((Relation.ReflTransGen.single (.request trivial post)).tail (.request trivial patch))
  have wanted : sampleLink ∈ effect posted patchBias (effect (sampleState []) postSample ∅) :=
    .inl ⟨by decide, .inr ⟨rfl, rfl, rfl⟩⟩
  obtain ⟨e, inside, -⟩ := agrees.stored.symm.subset wanted
  have emptied : (after posted patchBias).entities.rows = [] := by decide
  rw [emptied] at inside
  cases inside

end Openlit.RuleLinkSync
