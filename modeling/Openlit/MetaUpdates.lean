import Openlit.Registers
import Openlit.RuleLinks

/-!
The meta of the evaluation config is one JSON column. Whoever updates it reads
the whole of it, changes a part, and writes the whole of it back
(`sync-rule-entities.ts`, `evaluation/types/route.ts` and `[id]/route.ts`,
`setEvaluationConfig` of `evaluation/config.ts`). The config exists, and is
found by every read. Besides the evaluation types the meta has the id of the
cron job.
-/
namespace Openlit.MetaUpdates
open Openlit.Text Openlit.Relations Openlit.RuleLinks Openlit.Interleavings Openlit.Registers

structure StoredMeta extends Meta where
  cronJobId : Option String := none
  deriving DecidableEq

/-! ### What each update writes for the meta that it has read -/

def addRuleToEvaluationType (ruleId evalTypeId : String) (priority : Int) (found : StoredMeta) : Option StoredMeta :=
  match found.evaluationTypes.find? (·.id = evalTypeId) with
  | none => none
  | some typeConfig =>
    if typeConfig.rules.any (·.ruleId = ruleId) then none
    else some { found with
      evaluationTypes := updateFirst (·.id = evalTypeId) (·.addRule ruleId priority) found.evaluationTypes }
def removeRuleFromEvaluationType (ruleId evalTypeId : String) (found : StoredMeta) : Option StoredMeta :=
  match found.evaluationTypes.find? (·.id = evalTypeId) with
  | none => none
  | some _ => some { found with evaluationTypes := updateFirst (·.id = evalTypeId) (·.removeRule ruleId) found.evaluationTypes }
def patchType (typeId : String) (body : TypePatch) (found : StoredMeta) : Option StoredMeta :=
  some { found with evaluationTypes := patchTypes typeId body found.evaluationTypes }
/-- A type that is not a custom one is refused. -/
def deleteType (typeId : String) (found : StoredMeta) : Option StoredMeta :=
  match found.evaluationTypes.find? (·.id = typeId) with
  | none => none
  | some typeToDelete =>
    if typeToDelete.isCustom then some { found with evaluationTypes := found.evaluationTypes.filter (·.id ≠ typeId) }
    else none
def postTypes (types : List TypeInput) (found : StoredMeta) : Option StoredMeta :=
  some { found with evaluationTypes := types.map normalizeTypeConfig }
/-- The meta of the request is dropped for the one that was read. -/
def setEvaluationConfig (randomUUID : String) (found : StoredMeta) : Option StoredMeta :=
  some { found with cronJobId := some ((present found.cronJobId).getD randomUUID) }

/-- An update of one type. -/
inductive TypeChange
  | addRule (ruleId : String) (priority : Int)
  | removeRule (ruleId : String)
  | patch (body : TypePatch)
  | delete
inductive Update
  | onType (typeId : String) (change : TypeChange)
  | post (types : List TypeInput)
  | setConfig (randomUUID : String)
def Update.written : Update → StoredMeta → Option StoredMeta
  | .onType typeId (.addRule ruleId priority) => addRuleToEvaluationType ruleId typeId priority
  | .onType typeId (.removeRule ruleId) => removeRuleFromEvaluationType ruleId typeId
  | .onType typeId (.patch body) => patchType typeId body
  | .onType typeId .delete => deleteType typeId
  | .post types => postTypes types
  | .setConfig randomUUID => setEvaluationConfig randomUUID

/-! ### The parts of the meta -/

/-- What an update is about: one link of a rule and a type, one type, all types, or the cron job. -/
inductive Part
  | link (ruleId typeId : String)
  | type (typeId : String)
  | types
  | cronJob
def Update.part : Update → Part
  | .onType typeId (.addRule ruleId _) => .link ruleId typeId
  | .onType typeId (.removeRule ruleId) => .link ruleId typeId
  | .onType typeId (.patch _) => .type typeId
  | .onType typeId .delete => .type typeId
  | .post _ => .types
  | .setConfig _ => .cronJob
/-- Neither part is in the other. -/
def Different : Part → Part → Prop
  | .link ruleId typeId, .link other otherType => (ruleId, typeId) ≠ (other, otherType)
  | .link _ typeId, .type other => typeId ≠ other
  | .type typeId, .link _ other => typeId ≠ other
  | .type typeId, .type other => typeId ≠ other
  | .cronJob, .cronJob => False
  | .cronJob, _ => True
  | _, .cronJob => True
  | _, _ => False

def entries (typeId : String) (found : StoredMeta) : List EvaluationTypeConfig :=
  found.evaluationTypes.filter (·.id = typeId)
/-- The entries of a type for a rule, if there is such a type. -/
def linked (ruleId typeId : String) (found : StoredMeta) : Option (List RuleWithPriority) :=
  (found.evaluationTypes.find? (·.id = typeId)).map fun typeConfig => typeConfig.rules.filter (·.ruleId = ruleId)
def SameAt : Part → StoredMeta → StoredMeta → Prop
  | .link ruleId typeId, first, second => linked ruleId typeId first = linked ruleId typeId second
  | .type typeId, first, second => entries typeId first = entries typeId second
  | .types, first, second => first.evaluationTypes = second.evaluationTypes
  | .cronJob, first, second => first.cronJobId = second.cronJobId

theorem sameAt_equivalence (part : Part) : Equivalence (SameAt part) := by
  cases part with
  | link ruleId typeId => exact ⟨fun _ => rfl, Eq.symm, Eq.trans⟩
  | type typeId => exact ⟨fun _ => rfl, Eq.symm, Eq.trans⟩
  | types => exact ⟨fun _ => rfl, Eq.symm, Eq.trans⟩
  | cronJob => exact ⟨fun _ => rfl, Eq.symm, Eq.trans⟩
theorem Different.symm {first second : Part} (different : Different first second) : Different second first := by
  cases first <;> cases second <;> first | exact Ne.symm different | exact different

theorem head_entries (typeId : String) (found : StoredMeta) :
    (entries typeId found).head? = found.evaluationTypes.find? (·.id = typeId) := by
  rw [entries, List.head?_filter]
theorem linked_eq (ruleId typeId : String) (found : StoredMeta) :
    linked ruleId typeId found = (entries typeId found).head?.map fun typeConfig => typeConfig.rules.filter (·.ruleId = ruleId) := by
  rw [linked, head_entries]

/-- What an update of a type makes of the type's entries. -/
def TypeChange.changed (typeId : String) (listed : List EvaluationTypeConfig) : TypeChange → List EvaluationTypeConfig
  | .addRule ruleId priority => listed.modifyHead (·.addRule ruleId priority)
  | .removeRule ruleId => listed.modifyHead (·.removeRule ruleId)
  | .patch body =>
    if listed = [] then [body.updated typeId { id := typeId, enabled := false }] else listed.modifyHead (body.updated typeId)
  | .delete => if listed.head?.any (·.isCustom) then [] else listed

/-- Only the first entry of the type is changed. -/
theorem entries_updateFirst {typeId : String} {change : EvaluationTypeConfig → EvaluationTypeConfig}
    (keeps : ∀ t, t.id = typeId → (change t).id = typeId) (types : List EvaluationTypeConfig) :
    (updateFirst (·.id = typeId) change types).filter (·.id = typeId) = (types.filter (·.id = typeId)).modifyHead change ∧
      ∀ other ≠ typeId, (updateFirst (·.id = typeId) change types).filter (·.id = other) = types.filter (·.id = other) := by
  refine ⟨filter_updateFirst fun t isFirst => ?_, fun other differ => filter_updateFirst_other (fun t named => ?_) types⟩
  · have named := List.find?_some isFirst
    exact decide_eq_true (keeps t (of_decide_eq_true named))
  · have named : t.id = typeId := of_decide_eq_true named
    exact ⟨by simp [named, differ.symm], by simp [keeps t named, differ.symm]⟩

/-- An update that does not write leaves what it would have written. -/
theorem effect_addRule (ruleId typeId : String) (priority : Int) (found : StoredMeta) :
    (addRuleToEvaluationType ruleId typeId priority found).getD found =
      { found with evaluationTypes := updateFirst (·.id = typeId) (·.addRule ruleId priority) found.evaluationTypes } := by
  rw [addRuleToEvaluationType]
  cases first : found.evaluationTypes.find? (·.id = typeId) with
  | none =>
    have same : updateFirst (·.id = typeId) (·.addRule ruleId priority) found.evaluationTypes = found.evaluationTypes :=
      updateFirst_self fun t isFirst => nomatch first.symm.trans isFirst
    simp only [Option.getD_none, same]
  | some typeConfig =>
    by_cases there : typeConfig.rules.any (·.ruleId = ruleId)
    · have same : updateFirst (·.id = typeId) (·.addRule ruleId priority) found.evaluationTypes = found.evaluationTypes := by
        refine updateFirst_self fun t isFirst => ?_
        obtain rfl := Option.some.inj (first.symm.trans isFirst)
        rw [EvaluationTypeConfig.addRule, if_pos there]
      simp only [if_pos there, Option.getD_none, same]
    · simp only [if_neg there, Option.getD_some]
theorem effect_removeRule (ruleId typeId : String) (found : StoredMeta) :
    (removeRuleFromEvaluationType ruleId typeId found).getD found =
      { found with evaluationTypes := updateFirst (·.id = typeId) (·.removeRule ruleId) found.evaluationTypes } := by
  rw [removeRuleFromEvaluationType]
  cases first : found.evaluationTypes.find? (·.id = typeId) with
  | none =>
    have same : updateFirst (·.id = typeId) (·.removeRule ruleId) found.evaluationTypes = found.evaluationTypes :=
      updateFirst_self fun t isFirst => nomatch first.symm.trans isFirst
    simp only [Option.getD_none, same]
  | some typeConfig => rfl

def Update.effect (update : Update) (found : StoredMeta) : StoredMeta := (update.written found).getD found

theorem addRule_id (ruleId : String) (priority : Int) (t : EvaluationTypeConfig) : (t.addRule ruleId priority).id = t.id := by
  unfold EvaluationTypeConfig.addRule
  split <;> rfl
/-- An update of a type changes the entries of the type, and nothing else. -/
theorem entries_onType (typeId : String) (change : TypeChange) (found : StoredMeta) :
    entries typeId ((Update.onType typeId change).effect found) = change.changed typeId (entries typeId found) ∧
      (∀ other ≠ typeId, entries other ((Update.onType typeId change).effect found) = entries other found) ∧
      ((Update.onType typeId change).effect found).cronJobId = found.cronJobId := by
  cases change with
  | addRule ruleId priority =>
    have keeps : ∀ t : EvaluationTypeConfig, t.id = typeId → (t.addRule ruleId priority).id = typeId :=
      fun t named => (addRule_id ruleId priority t).trans named
    rw [Update.effect, Update.written, effect_addRule]
    exact ⟨(entries_updateFirst keeps _).1, (entries_updateFirst keeps _).2, rfl⟩
  | removeRule ruleId =>
    have keeps : ∀ t : EvaluationTypeConfig, t.id = typeId → (t.removeRule ruleId).id = typeId := fun t named => named
    rw [Update.effect, Update.written, effect_removeRule]
    exact ⟨(entries_updateFirst keeps _).1, (entries_updateFirst keeps _).2, rfl⟩
  | patch body =>
    have keeps : ∀ t : EvaluationTypeConfig, t.id = typeId → (body.updated typeId t).id = typeId := fun t named => rfl
    rw [Update.effect, Update.written, patchType, Option.getD_some]
    unfold patchTypes
    by_cases there : found.evaluationTypes.any (·.id = typeId)
    · have some : entries typeId found ≠ [] := by
        simpa [entries] using there
      rw [if_pos there, TypeChange.changed, if_neg some]
      exact ⟨(entries_updateFirst keeps _).1, (entries_updateFirst keeps _).2, rfl⟩
    · have none : entries typeId found = [] := by
        simpa [entries] using there
      rw [if_neg there, TypeChange.changed, if_pos none]
      refine ⟨?_, fun other differ => ?_, rfl⟩
      · rw [entries, List.filter_append, ← entries, none]
        simp [TypePatch.updated]
      · rw [entries, List.filter_append, ← entries]
        simp [TypePatch.updated, Ne.symm differ]
  | delete =>
    rw [Update.effect, Update.written, deleteType, TypeChange.changed, head_entries]
    cases first : found.evaluationTypes.find? (·.id = typeId) with
    | none => exact ⟨rfl, fun other _ => rfl, rfl⟩
    | some typeToDelete =>
      by_cases custom : typeToDelete.isCustom
      · simp only [if_pos custom, Option.getD_some, Option.any_some]
        refine ⟨?_, fun other differ => ?_, trivial⟩
        · simp [entries]
        · rw [entries, List.filter_filter]
          refine List.filter_congr fun t _ => ?_
          by_cases named : t.id = other
          · simp [named, differ]
          · simp [named]
      · simp [custom]
/-- What an update of a link makes of the link. -/
theorem linked_addRule (ruleId typeId : String) (priority : Int) (found : StoredMeta) :
    linked ruleId typeId ((Update.onType typeId (.addRule ruleId priority)).effect found) =
      (linked ruleId typeId found).map fun rules => if rules = [] then [{ ruleId, priority }] else rules := by
  rw [linked_eq, (entries_onType typeId (.addRule ruleId priority) found).1, linked_eq, TypeChange.changed]
  cases entries typeId found with
  | nil => rfl
  | cons first later =>
    simp only [List.modifyHead, List.head?_cons, Option.map_some, EvaluationTypeConfig.addRule]
    by_cases there : first.rules.any (·.ruleId = ruleId)
    · have some : first.rules.filter (·.ruleId = ruleId) ≠ [] := by simpa using there
      rw [if_pos there, if_neg some]
    · have none : first.rules.filter (·.ruleId = ruleId) = [] := by simpa using there
      rw [if_neg there, if_pos none, List.filter_append, none]
      simp
theorem linked_removeRule (ruleId typeId : String) (found : StoredMeta) :
    linked ruleId typeId ((Update.onType typeId (.removeRule ruleId)).effect found) =
      (linked ruleId typeId found).map fun _ => [] := by
  rw [linked_eq, (entries_onType typeId (.removeRule ruleId) found).1, linked_eq, TypeChange.changed]
  cases entries typeId found with
  | nil => rfl
  | cons first later => simp [EvaluationTypeConfig.removeRule]
/-- Another rule's links of the type stay. -/
theorem linked_other {ruleId other : String} (differ : other ≠ ruleId) (typeId : String) (found : StoredMeta) (priority : Int) :
    linked other typeId ((Update.onType typeId (.addRule ruleId priority)).effect found) = linked other typeId found ∧
      linked other typeId ((Update.onType typeId (.removeRule ruleId)).effect found) = linked other typeId found := by
  rw [linked_eq, (entries_onType typeId (.addRule ruleId priority) found).1, linked_eq, linked_eq,
    (entries_onType typeId (.removeRule ruleId) found).1, TypeChange.changed, TypeChange.changed]
  cases entries typeId found with
  | nil => exact ⟨rfl, rfl⟩
  | cons first later =>
    simp only [List.modifyHead, List.head?_cons, Option.map_some, Option.some.injEq]
    constructor
    · unfold EvaluationTypeConfig.addRule
      split
      · rfl
      · simp [List.filter_append, Ne.symm differ]
    · rw [EvaluationTypeConfig.removeRule, List.filter_filter]
      refine List.filter_congr fun r _ => ?_
      by_cases named : r.ruleId = other
      · simp [named, differ]
      · simp [named]

/-- An update leaves the other parts as it has read them. -/
theorem effect_frame {update : Update} {part : Part} (different : Different part update.part) (found : StoredMeta) :
    SameAt part found (update.effect found) := by
  cases update with
  | post types =>
    cases part with
    | cronJob => rfl
    | link | type | types => exact different.elim
  | setConfig randomUUID =>
    cases part with
    | cronJob => exact different.elim
    | link | type | types => rfl
  | onType typeId change =>
    obtain ⟨-, others, cronJobId⟩ := entries_onType typeId change found
    cases part with
    | cronJob => exact cronJobId.symm
    | types => cases change <;> exact different.elim
    | type other =>
      have differ : other ≠ typeId := by cases change <;> exact different
      exact (others other differ).symm
    | link ruleId other =>
      by_cases same : other = typeId
      · subst same
        cases change with
        | addRule named priority =>
          have differ : ruleId ≠ named := fun same => different (by rw [same])
          exact (linked_other differ other found priority).1.symm
        | removeRule named =>
          have differ : ruleId ≠ named := fun same => different (by rw [same])
          exact (linked_other differ other found 0).2.symm
        | patch body => exact absurd rfl different
        | delete => exact absurd rfl different
      · show linked ruleId other found = linked ruleId other _
        rw [linked_eq, linked_eq, others other same]
/-- What an update makes of its part depends on the part alone. -/
theorem effect_own {update : Update} {first second : StoredMeta} (same : SameAt update.part first second) :
    SameAt update.part (update.effect first) (update.effect second) := by
  cases update with
  | post types => rfl
  | setConfig randomUUID => exact congrArg (fun cronJobId => some ((present cronJobId).getD randomUUID)) same
  | onType typeId change =>
    cases change with
    | addRule ruleId priority =>
      show linked ruleId typeId _ = linked ruleId typeId _
      rw [linked_addRule, linked_addRule, show linked ruleId typeId first = linked ruleId typeId second from same]
    | removeRule ruleId =>
      show linked ruleId typeId _ = linked ruleId typeId _
      rw [linked_removeRule, linked_removeRule, show linked ruleId typeId first = linked ruleId typeId second from same]
    | patch body =>
      show entries typeId _ = entries typeId _
      rw [(entries_onType typeId (.patch body) first).1, (entries_onType typeId (.patch body) second).1,
        show entries typeId first = entries typeId second from same]
    | delete =>
      show entries typeId _ = entries typeId _
      rw [(entries_onType typeId .delete first).1, (entries_onType typeId .delete second).1,
        show entries typeId first = entries typeId second from same]

/-! ### Two updates at once -/

theorem updates_separate {updates : Bool → Update} (different : Different (updates true).part (updates false).part) :
    Separate (fun who => (updates who).written) fun who => SameAt (updates who).part where
  equivalence who := sameAt_equivalence (updates who).part
  frame who found := by
    cases who with
    | true => exact effect_frame different found
    | false => exact effect_frame different.symm found
  own who first second same := effect_own same

/-- After two updates of different parts the stored meta has the effect of both
    exactly if one has read after the other's write, or if the one that wrote
    first is followed by no write or would have changed nothing of its part. -/
theorem both_updates_stored_iff (updates : Bool → Update) (different : Different (updates true).part (updates false).part)
    (found : StoredMeta) (events : List (Bool × Access)) (interleaved : Interleaved events) :
    (∀ who, SameAt (updates who).part ((updates who).effect found)
      (result (fun who => (updates who).written) events found)) ↔
      (∃ first, Earlier events (first, .write) (!first, .read)) ∨
        ∀ first, Earlier events (first, .write) (!first, .write) →
          (updates !first).written found = none ∨
            SameAt (updates first).part found ((updates first).effect found) :=
  both_effects_iff (updates_separate different) interleaved found

def sampleMeta : StoredMeta :=
  { evaluationTypes := [{ id := "hallucination", enabled := true }, { id := "bias", enabled := false }] }
/-- A rule is linked to a type while another type is enabled. -/
def sampleUpdates : Bool → Update
  | true => .onType "hallucination" (.addRule "r1" 0)
  | false => .onType "bias" (.patch { enabled := some true })
theorem sampleUpdates_different : Different (sampleUpdates true).part (sampleUpdates false).part := by
  show "hallucination" ≠ "bias"
  decide

theorem both_updates_stored_ordered :
    Interleaved (oneAfterOther true) ∧
      ∀ who, SameAt (sampleUpdates who).part ((sampleUpdates who).effect sampleMeta)
        (result (fun who => (sampleUpdates who).written) (oneAfterOther true) sampleMeta) := by
  have interleaved : Interleaved (oneAfterOther true) := by unfold Interleaved; decide
  exact ⟨interleaved, (both_updates_stored_iff sampleUpdates sampleUpdates_different sampleMeta (oneAfterOther true) interleaved).mpr
    (.inl ⟨true, earlier_oneAfterOther true⟩)⟩
/-- Both read, then the link is written, and then the type without the link. -/
theorem link_overwritten :
    Interleaved (overlapping true true) ∧ Different (sampleUpdates true).part (sampleUpdates false).part ∧
      ¬∀ who, SameAt (sampleUpdates who).part ((sampleUpdates who).effect sampleMeta)
        (result (fun who => (sampleUpdates who).written) (overlapping true true) sampleMeta) := by
  refine ⟨by unfold Interleaved; decide, sampleUpdates_different, fun both => ?_⟩
  have kept : linked "r1" "hallucination" ((sampleUpdates true).effect sampleMeta) =
    linked "r1" "hallucination" (result (fun who => (sampleUpdates who).written) (overlapping true true) sampleMeta) := both true
  exact absurd kept (by decide +kernel)

end Openlit.MetaUpdates
