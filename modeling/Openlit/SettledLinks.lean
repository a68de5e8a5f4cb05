import Openlit.ClickHouse
import Openlit.RuleLinkSync

/-!
The synchronisation of the rule entities that is done twice
(`sync-rule-entities.ts`). It compares the ids of the config with those of the
entities, which `addRuleEntity` has escaped and ClickHouse has read as UUIDs.
An id that comes back as another text is deleted and added again each time
(`settled_iff`).
-/
namespace Openlit.SettledLinks
open Openlit.Text Openlit.Relations Openlit.Literals Openlit.RuleEngine Openlit.RuleLinks Openlit.RuleLinkSync Openlit.ClickHouse

section
variable [Storage]
open Storage

/-! ### What a synchronisation does -/

/-- The entities that it deletes. -/
def deletedEntities (types : List EvaluationTypeConfig) (table : EntityTable) : List RuleEntity :=
  (table.rows.filter (·.entity_type = .evaluation)).filter fun e => linkKey (entityLink e) ∉ (configLinks types).map linkKey
/-- The links that it adds entities for. -/
def addedLinks (types : List EvaluationTypeConfig) (table : EntityTable) : List Link :=
  (configLinks types).filter fun link => !(table.rows.filter (·.entity_type = .evaluation)).any (entityLink · = link)

/-- Once both reads succeed it deletes the one and adds the other. -/
theorem syncRuleEntitiesFromConfig_eq {failures : Failures} (config : failures.config = false) (listing : failures.listing = false)
    (found : Meta) (table : EntityTable) :
    syncRuleEntitiesFromConfig failures (some found) table =
      (addedLinks found.evaluationTypes table).foldl (fun rest link =>
          bestEffort (failures.inserts link) rest (addRuleEntity rest (evaluationInput link)))
        ((deletedEntities found.evaluationTypes table).foldl (fun rest e =>
          bestEffort (failures.deletes e) rest (deleteRuleEntity rest e.id)) table) := by
  simp only [syncRuleEntitiesFromConfig, config, listing, Bool.or_self, Bool.false_eq_true, if_false, addedLinks, deletedEntities,
    List.foldl_filter, decide_eq_true_eq, Bool.not_eq_true', ite_not]
  congr 1
  funext rest link
  by_cases stored : (table.rows.filter (·.entity_type = .evaluation)).any (entityLink · = link) <;> simp [stored]

theorem mem_addedLinks {types : List EvaluationTypeConfig} {table : EntityTable} {link : Link} :
    link ∈ addedLinks types table ↔ link ∈ configLinks types ∧ link ∉ Stored table := by
  simp [addedLinks, Stored]
theorem mem_deletedEntities {types : List EvaluationTypeConfig} {table : EntityTable} {e : RuleEntity} :
    e ∈ deletedEntities types table ↔
      e ∈ table.rows ∧ e.entity_type = .evaluation ∧ linkKey (entityLink e) ∉ (configLinks types).map linkKey := by
  simp only [deletedEntities, List.mem_filter, decide_eq_true_eq, and_assoc]

/-- Nothing that it does fails. -/
structure ErrorFree (failures : Failures) (types : List EvaluationTypeConfig) (table : EntityTable) : Prop where
  config : failures.config = false
  listing : failures.listing = false
  deletes : ∀ e ∈ deletedEntities types table, failures.deletes e = false
  inserts : ∀ link ∈ addedLinks types table, failures.inserts link = false ∧ (storedAs link).isSome

/-- The entities are those of the config, and the next synchronisation has nothing to do. -/
structure Settled (types : List EvaluationTypeConfig) (table : EntityTable) : Prop where
  stored : Stored table = {link | link ∈ configLinks types}
  undeleted : deletedEntities types table = []
  unadded : addedLinks types table = []

theorem Settled.again {found : Meta} {table : EntityTable} (settled : Settled found.evaluationTypes table) (failures : Failures) :
    syncRuleEntitiesFromConfig failures (some found) table = table := by
  by_cases unread : failures.config = true ∨ failures.listing = true
  · simp [syncRuleEntitiesFromConfig, unread]
  · rw [not_or, Bool.not_eq_true, Bool.not_eq_true] at unread
    rw [syncRuleEntitiesFromConfig_eq unread.1 unread.2, settled.undeleted, settled.unadded]
    rfl
theorem settled_of_stored {types : List EvaluationTypeConfig} {table : EntityTable}
    (stored : Stored table = {link | link ∈ configLinks types}) : Settled types table := by
  refine ⟨stored, ?_, ?_⟩
  · rw [List.eq_nil_iff_forall_not_mem]
    intro e deleted
    obtain ⟨inside, kind, unwanted⟩ := mem_deletedEntities.mp deleted
    have wanted : entityLink e ∈ configLinks types := stored.subset ⟨e, inside, kind, rfl⟩
    exact unwanted (List.mem_map_of_mem wanted)
  · rw [List.eq_nil_iff_forall_not_mem]
    intro link added
    obtain ⟨wanted, absent⟩ := mem_addedLinks.mp added
    exact absent (stored.superset wanted)

end

section
variable [ClickHouse.Platform]
open Storage ClickHouse.Platform

/-! ### Links that come back as they are -/

theorem length_sanitizeValue (s : String) : sanitizeValue s = s ∨ s.length < (sanitizeValue s).length := by
  rw [or_iff_not_imp_left]
  intro altered
  rw [sanitizeValue_escape, String.length_ofList, ← String.length_toList]
  apply length_lt_escape
  intro same
  exact altered (by rw [sanitizeValue_escape, same, String.ofList_toList])

theorem columns_of_toOption {input : RuleEntityInput} {columns : UUID × RuleEntityType × String}
    (accepted : (entityColumns input).toOption = some columns) : Columns input columns := by
  cases result : entityColumns input with
  | error err => simp [result, Except.toOption] at accepted
  | ok found =>
    rw [result] at accepted
    exact entityColumns_ok (result.trans (congrArg Except.ok (Option.some.inj accepted)))
/-- The rule id is read as a UUID, and the type is escaped. -/
theorem storedAs_texts {link stored : Link} (kept : storedAs link = some stored) :
    toUUID (sanitizeValue link.1) = some stored.1 ∧ sanitizeValue link.2 = stored.2 := by
  obtain ⟨columns, accepted, rfl⟩ := Option.map_eq_some_iff.mp kept
  have texts := columns_of_toOption accepted
  obtain ⟨_, ⟨⟩, -, rule⟩ := texts.rule_id
  obtain ⟨_, ⟨⟩, -, type⟩ := texts.entity_id
  exact ⟨rule, type⟩

/-- A link comes back as it is if its rule id is the text of a UUID and nothing in its type is escaped. -/
theorem storable_iff (link : Link) :
    Storable link ↔ toUUID link.1 = some link.1 ∧ trim link.1 ≠ "" ∧ sanitizeValue link.2 = link.2 ∧ trim link.2 ≠ "" := by
  constructor
  · intro storable
    obtain ⟨rule, type⟩ := storedAs_texts storable
    obtain ⟨columns, accepted, -⟩ := Option.map_eq_some_iff.mp storable
    obtain ⟨_, ⟨⟩, named, -⟩ := (columns_of_toOption accepted).rule_id
    obtain ⟨_, ⟨⟩, typed, -⟩ := (columns_of_toOption accepted).entity_id
    rw [sanitizeValue_plain (toUUID_plain rule)] at rule named
    rw [type] at typed
    exact ⟨rule, named, type, typed⟩
  · rintro ⟨rule, named, type, typed⟩
    have kind : sanitizeValue "evaluation" = "evaluation" := sanitizeValue_plain (List.all_eq_true.mp (by decide))
    have verified : verifyEntityInput (sanitizeObject (evaluationInput link)) = .ok (link.1, .evaluation, link.2) := by
      rw [verifyEntityInput_eq_ok_iff]
      simp [sanitizeObject, evaluationInput, sanitizeValue_plain (toUUID_plain rule), type, named, typed, kind, entityType]
    obtain ⟨id, parsed⟩ : ∃ id, readUUID link.1 = some id := by
      unfold readUUID
      split
      · exact ⟨_, rfl⟩
      · next unread => exact absurd (unread.symm.trans rule) (by simp)
    have text : id.text = link.1 := Option.some.inj ((readUUID_text parsed).symm.trans rule)
    simp [Storable, storedAs, entityColumns, verified, parsed, text, bind, Except.bind, pure, Except.pure, Except.toOption]

/-- What a link is stored as comes back as it is, unless its type got longer. -/
theorem storable_of_length {link stored again : Link} (kept : storedAs link = some stored) (keptAgain : storedAs stored = some again)
    (short : stored.2.length ≤ link.2.length) : Storable stored := by
  obtain ⟨rule, type⟩ := storedAs_texts kept
  obtain ⟨ruleAgain, typeAgain⟩ := storedAs_texts keptAgain
  have sameRule : again.1 = stored.1 := by
    rw [sanitizeValue_plain (toUUID_plain rule), toUUID_stable rule] at ruleAgain
    exact (Option.some.inj ruleAgain).symm
  have sameType : again.2 = stored.2 := by
    rcases length_sanitizeValue link.2 with same | longer
    · rw [← typeAgain, ← type, same, same]
    · rw [type] at longer
      omega
  rw [Storable, keptAgain, Prod.ext sameRule sameType]

/-- After a synchronisation without errors the entities are those of the config, and another one
    does nothing, exactly if each link that was added comes back as it is. -/
theorem settled_iff {failures : Failures} {found : Meta} {table : EntityTable}
    (errorFree : ErrorFree failures found.evaluationTypes table) :
    Settled found.evaluationTypes (syncRuleEntitiesFromConfig failures (some found) table) ↔
      ∀ link ∈ configLinks found.evaluationTypes, link ∉ Stored table → Storable link := by
  constructor
  · intro settled link wanted absent
    -- On the length of the type: each added link is what a shorter one is stored as.
    induction short : link.2.length using Nat.strong_induction_on generalizing link with
    | _ length ih =>
      obtain ⟨again, keptAgain⟩ := Option.isSome_iff_exists.mp (errorFree.inserts link (mem_addedLinks.mpr ⟨wanted, absent⟩)).2
      have there : link ∈ Stored (syncRuleEntitiesFromConfig failures (some found) table) := settled.stored.superset wanted
      rw [mem_stored_sync errorFree.config errorFree.listing] at there
      rcases there with ⟨e, inside, kind, same, -⟩ | ⟨other, otherWanted, otherAbsent, -, kept⟩
      · exact absurd ⟨e, inside, kind, same⟩ absent
      · by_cases longer : other.2.length < link.2.length
        · have same := ih other.2.length (short ▸ longer) other otherWanted otherAbsent rfl
          rw [Storable, kept, Option.some.injEq] at same
          rw [same] at longer
          exact absurd longer (Nat.lt_irrefl _)
        · exact storable_of_length kept keptAgain (by omega)
  · intro storable
    apply settled_of_stored
    apply stored_sync (fun link => Iff.rfl)
    refine .inr ⟨errorFree.config, errorFree.listing, ?_, ?_⟩
    · intro e inside kind undesired
      apply errorFree.deletes
      rw [mem_deletedEntities]
      exact ⟨inside, kind, fun keyed => undesired (recorded_of_key storable ⟨e, inside, kind, rfl⟩ keyed)⟩
    · intro link wanted absent
      exact ⟨storable link wanted absent, (errorFree.inserts link (mem_addedLinks.mpr ⟨wanted, absent⟩)).1⟩

end

section
attribute [local instance] sqlstringPlatform

/-- One type with one rule, which is not stored yet. -/
def ruledType (typeId : String) : Meta :=
  { evaluationTypes := [{ id := typeId, enabled := true, rules := [{ ruleId := sampleLink.1, priority := 0 }] }] }
def noEntities : EntityTable := { rows := [], ids := List.nodup_nil, read := nofun }
theorem errorFree_ruledType {typeId : String} (kept : (storedAs (sampleLink.1, typeId)).isSome = true) :
    ErrorFree {} (ruledType typeId).evaluationTypes noEntities := by
  refine ⟨rfl, rfl, fun _ _ => rfl, fun link added => ⟨rfl, ?_⟩⟩
  have only : link ∈ configLinks (ruledType typeId).evaluationTypes := (mem_addedLinks.mp added).1
  have single : configLinks (ruledType typeId).evaluationTypes = [(sampleLink.1, typeId)] := by rfl
  rw [single, List.mem_singleton] at only
  exact only ▸ kept

theorem settled_hallucination :
    Settled (ruledType "hallucination").evaluationTypes
        (syncRuleEntitiesFromConfig {} (some (ruledType "hallucination")) noEntities) ↔
      ∀ link ∈ configLinks (ruledType "hallucination").evaluationTypes, link ∉ Stored noEntities → Storable link :=
  settled_iff (errorFree_ruledType (by decide))
/-- The type of an entity has a backslash that the config has not. -/
theorem quoted_type_unsettled :
    ErrorFree {} (ruledType "it's").evaluationTypes noEntities ∧
      ¬Settled (ruledType "it's").evaluationTypes (syncRuleEntitiesFromConfig {} (some (ruledType "it's")) noEntities) := by
  refine ⟨errorFree_ruledType (by decide), fun settled => ?_⟩
  have deleted := settled.undeleted
  revert deleted
  decide

end

end Openlit.SettledLinks
