import Openlit.RuleLinkSync

/-!
The evaluation types that a config shows: the built-in ones with what the meta
stores for them, and the custom ones of the meta
(`buildEvaluationTypesWithPrompts` of `lib/platform/evaluation/config.ts`). A
change of a type edits its first entry. For a custom type that is the one which
is shown, while of the entries for a built-in type the last one is.
-/
namespace Openlit.EvaluationTypes
open Openlit.Text Openlit.Relations Openlit.RuleLinks Openlit.RuleLinkSync

/-! ### The merged list -/

structure BuiltInType where
  id : String
  label : String
  description : String
  enabledByDefault : Bool
def EVALUATION_TYPES : List BuiltInType :=
  [⟨"hallucination", "Hallucination", "Detects factual inaccuracies, contradictions, and nonsensical responses.", true⟩,
   ⟨"bias", "Bias", "Detects prejudiced or biased language across categories like gender, ethnicity, age.", true⟩,
   ⟨"toxicity", "Toxicity", "Detects harmful, offensive, or toxic language including threats and hate speech.", true⟩,
   ⟨"relevance", "Relevance", "Evaluates how well the response addresses the prompt.", false⟩,
   ⟨"coherence", "Coherence", "Assesses logical flow and consistency of the response.", false⟩,
   ⟨"faithfulness", "Faithfulness", "Measures alignment with provided context or source material.", false⟩,
   ⟨"safety", "Safety", "Detects jailbreak attempts, unsafe instructions, and harmful content generation.", false⟩,
   ⟨"instruction_following", "Instruction Following",
     "Evaluates whether the response follows the user's instructions and constraints precisely.", false⟩,
   ⟨"completeness", "Completeness", "Assesses whether the response fully addresses all parts of the query.", false⟩,
   ⟨"conciseness", "Conciseness",
     "Evaluates whether the response is appropriately concise without unnecessary filler or repetition.", false⟩,
   ⟨"sensitivity", "Sensitivity", "Detects PII leakage, confidential data exposure, and privacy-related concerns.", false⟩]
def builtInIds : List String := EVALUATION_TYPES.map (·.id)

structure EvaluationTypeWithPrompt where
  id : String
  label : String
  description : String
  enabledByDefault : Bool
  enabled : Bool
  isCustom : Bool
  rules : List RuleWithPriority
  prompt : Option String
  defaultPrompt : String

/-- `overrideMap.get`: a `Map` keeps the last of the entries with an id. -/
def overrideMap (userOverrides : List EvaluationTypeConfig) (id : String) : Option EvaluationTypeConfig :=
  (entriesOf (userOverrides.filter (·.id ≠ "")) id).getLast?
def shownRules (rules : List RuleWithPriority) : List RuleWithPriority := rules.filter (·.ruleId ≠ "")
/-- A built-in type with its override. -/
def builtInType (defaultPrompts : String → Option String) (userOverrides : List EvaluationTypeConfig) (et : BuiltInType) :
    EvaluationTypeWithPrompt :=
  let override := overrideMap userOverrides et.id
  { id := et.id
    label := et.label
    description := et.description
    enabledByDefault := et.enabledByDefault
    enabled := (override.map (·.enabled)).getD et.enabledByDefault
    isCustom := false
    rules := (override.map fun t => shownRules t.rules).getD []
    prompt := override.bind (·.prompt)
    defaultPrompt := (defaultPrompts et.id).getD "" }
def customType (t : EvaluationTypeConfig) : EvaluationTypeWithPrompt :=
  { id := t.id
    label := (present t.label).getD t.id
    description := (present t.description).getD "Custom evaluation type"
    enabledByDefault := false
    enabled := t.enabled
    isCustom := true
    rules := shownRules t.rules
    prompt := t.prompt
    defaultPrompt := "" }
def isCustomEntry (t : EvaluationTypeConfig) : Bool := t.id ≠ "" ∧ t.id ∉ builtInIds
def buildEvaluationTypesWithPrompts (defaultPrompts : String → Option String) (userOverrides : List EvaluationTypeConfig) :
    List EvaluationTypeWithPrompt :=
  EVALUATION_TYPES.map (builtInType defaultPrompts userOverrides) ++ (userOverrides.filter isCustomEntry).map customType

/-- The type that a GET request for an id answers with. -/
def getType (defaultPrompts : String → Option String) (config : Option Meta) (typeId : String) : Except String EvaluationTypeWithPrompt :=
  match config with
  | none => throw "Evaluation config not found"
  | some found =>
    match (buildEvaluationTypesWithPrompts defaultPrompts found.evaluationTypes).find? (·.id = typeId) with
    | none => throw "Evaluation type not found"
    | some typeConfig => pure typeConfig

/-! ### Ids -/

variable (defaultPrompts : String → Option String)

def customIds (types : List EvaluationTypeConfig) : List String := (types.map (·.id)).filter fun id => id ≠ "" ∧ id ∉ builtInIds

theorem nodup_builtInIds : builtInIds.Nodup := by decide
theorem ids_merged (types : List EvaluationTypeConfig) :
    (buildEvaluationTypesWithPrompts defaultPrompts types).map (·.id) = builtInIds ++ customIds types := by
  rw [buildEvaluationTypesWithPrompts, List.map_append, List.map_map, List.map_map, customIds, List.filter_map]
  rfl

/-- Different ids, and each built-in type once. -/
structure WellMerged (types : List EvaluationTypeWithPrompt) : Prop where
  distinct : (types.map (·.id)).Nodup
  builtIn : ∀ et ∈ EVALUATION_TYPES, types.countP (·.id = et.id) = 1

theorem wellMerged_iff (types : List EvaluationTypeConfig) :
    WellMerged (buildEvaluationTypesWithPrompts defaultPrompts types) ↔ (customIds types).Nodup := by
  have apart : ∀ id ∈ builtInIds, ∀ other ∈ customIds types, id ≠ other := by
    rintro id builtIn other custom rfl
    simp [customIds, builtIn] at custom
  constructor
  · intro merged
    have distinct := merged.distinct
    rw [ids_merged, List.nodup_append] at distinct
    exact distinct.2.1
  · intro distinct
    have nodup : ((buildEvaluationTypesWithPrompts defaultPrompts types).map (·.id)).Nodup := by
      rw [ids_merged, List.nodup_append]
      exact ⟨nodup_builtInIds, distinct, apart⟩
    refine ⟨nodup, fun et inside => ?_⟩
    have listed : et.id ∈ (buildEvaluationTypesWithPrompts defaultPrompts types).map (·.id) := by
      rw [ids_merged]
      exact List.mem_append_left _ (List.mem_map_of_mem inside)
    have single := List.count_eq_one_of_mem nodup listed
    rw [List.count, List.countP_map] at single
    exact single

/-! ### Edits -/

/-- The segment of a path, which is not empty. -/
structure TypeId where
  text : String
  named : text ≠ ""
inductive Edit
  | post (types : List TypeInput)
  | patch (typeId : TypeId) (body : TypePatch)
def Edit.request : Edit → Request
  | .post types => .postTypes types
  | .patch typeId body => .patchType typeId.text body
/-- The entries after an edit. -/
def Edit.types (before : List EvaluationTypeConfig) : Edit → List EvaluationTypeConfig
  | .post types => types.map normalizeTypeConfig
  | .patch typeId body => patchTypes typeId.text body before

theorem apply_edit [Storage] {failures : Failures} {st st' : State} {edit : Edit} (ran : apply failures st edit.request = .ok st') :
    typesOf st'.config = edit.types (typesOf st.config) ∧ st'.config.isSome = true := by
  cases edit with
  | post types =>
    simp only [Edit.request, apply, postTypes] at ran
    cases known : st.config with
    | none => simp [known] at ran
    | some found =>
      rw [known] at ran
      obtain rfl := Except.ok.inj ran
      exact ⟨rfl, rfl⟩
  | patch typeId body =>
    simp only [Edit.request, apply, patchType] at ran
    cases known : st.config with
    | none => simp [known] at ran
    | some found =>
      rw [known] at ran
      obtain rfl := Except.ok.inj ran
      exact ⟨rfl, rfl⟩

theorem id_updated (typeId : String) (body : TypePatch) (existing : EvaluationTypeConfig) : (body.updated typeId existing).id = typeId :=
  rfl
/-- An edited type has one entry more at most, and its first entry is the edited one. -/
theorem entriesOf_patch (typeId : String) (body : TypePatch) (types : List EvaluationTypeConfig) :
    ∃ existing, entriesOf (patchTypes typeId body types) typeId =
      body.updated typeId existing :: (entriesOf types typeId).tail := by
  cases found : entriesOf types typeId with
  | nil =>
    have absent : ¬types.any (·.id = typeId) = true := by
      simpa [entriesOf, List.filter_eq_nil_iff] using found
    refine ⟨{ id := typeId, enabled := false }, ?_⟩
    rw [patchTypes, if_neg absent, entriesOf, List.filter_append, ← entriesOf, found]
    simp [id_updated]
  | cons first later =>
    have present : types.any (·.id = typeId) = true := by
      have inside : first ∈ entriesOf types typeId := by simp [found]
      obtain ⟨listed, same⟩ := List.mem_filter.mp inside
      exact List.any_eq_true.mpr ⟨first, listed, same⟩
    refine ⟨first, ?_⟩
    rw [patchTypes, if_pos present, entriesOf, filter_updateFirst fun t _ => by simp [id_updated], ← entriesOf, found]
    rfl
/-- The ids stay as they are, or the edited one is added where it was not there. -/
theorem customIds_patch (typeId : String) (body : TypePatch) (types : List EvaluationTypeConfig) (distinct : (customIds types).Nodup) :
    (customIds (patchTypes typeId body types)).Nodup := by
  by_cases present : types.any (·.id = typeId) = true
  · have same : (patchTypes typeId body types).map (·.id) = types.map (·.id) := by
      rw [patchTypes, if_pos present]
      apply map_updateFirst
      intro t matching
      exact (of_decide_eq_true matching).symm
    rwa [customIds, same]
  · rw [patchTypes, if_neg present, customIds, List.map_append, List.filter_append]
    have absent : typeId ∉ types.map (·.id) := by simpa using present
    refine List.nodup_append.mpr ⟨distinct, ((List.nodup_singleton _).filter _), ?_⟩
    rintro id inside other added rfl
    obtain rfl : id = typeId := by simpa [id_updated] using (List.mem_filter.mp added).1
    exact absent (List.mem_filter.mp inside).1

/-- The fields that a body gives, as they are shown. -/
structure Shows (body : TypePatch) (enabled : Bool) (rules : List RuleWithPriority) (prompt : Option String) : Prop where
  enabled : ∀ given, body.enabled = some given → enabled = given
  rules : ∀ given, body.rules = some given → rules = normalizeRules given
  prompt : ∀ given, body.prompt = some given → prompt = given

theorem shownRules_normalizeRules (rules : List RuleInput) : shownRules (normalizeRules rules) = normalizeRules rules := by
  rw [shownRules, List.filter_eq_self]
  intro r inside
  have named := ((hasRule_normalized rules r.ruleId).mp ⟨r, inside, rfl⟩).1
  simpa using named
theorem shows_updated (typeId : String) (body : TypePatch) (existing : EvaluationTypeConfig) :
    Shows body (body.updated typeId existing).enabled (shownRules (body.updated typeId existing).rules)
      (body.updated typeId existing).prompt := by
  constructor
  · intro given same
    simp [TypePatch.updated, same]
  · intro given same
    simp [TypePatch.updated, same, shownRules_normalizeRules]
  · intro given same
    simp [TypePatch.updated, same]

/-! ### What a GET request shows after an edit -/

/-- The type that is shown for an id: for a built-in type with its last entry, else its first entry. -/
theorem overrideMap_eq {id : String} (named : id ≠ "") (types : List EvaluationTypeConfig) :
    overrideMap types id = (entriesOf types id).getLast? := by
  rw [overrideMap, entriesOf, List.filter_filter, entriesOf]
  congr 1
  apply List.filter_congr
  intro t _
  by_cases same : t.id = id
  · simp [same, named]
  · simp [same]
theorem getType_builtIn {config : Option Meta} (isSome : config.isSome = true) {typeId : TypeId} (builtIn : typeId.text ∈ builtInIds) :
    ∃ et : BuiltInType, et.id = typeId.text ∧
      getType defaultPrompts config typeId.text = .ok (builtInType defaultPrompts (typesOf config) et) := by
  obtain ⟨found, rfl⟩ := Option.isSome_iff_exists.mp isSome
  obtain ⟨et, first⟩ : ∃ et, EVALUATION_TYPES.find? (·.id = typeId.text) = some et := by
    obtain ⟨et, inside, same⟩ := List.mem_map.mp builtIn
    exact Option.isSome_iff_exists.mp (List.find?_isSome.mpr ⟨et, inside, by simpa using same⟩)
  have shown : (EVALUATION_TYPES.map (builtInType defaultPrompts found.evaluationTypes)).find? (·.id = typeId.text) =
      some (builtInType defaultPrompts found.evaluationTypes et) := by
    rw [List.find?_map]
    exact congrArg (Option.map _) first
  refine ⟨et, by simpa using List.find?_some first, ?_⟩
  simp only [getType, buildEvaluationTypesWithPrompts, List.find?_append, shown]
  rfl
theorem getType_custom {config : Option Meta} (isSome : config.isSome = true) {typeId : TypeId} (custom : typeId.text ∉ builtInIds)
    {first : EvaluationTypeConfig} {later : List EvaluationTypeConfig} (entries : entriesOf (typesOf config) typeId.text = first :: later) :
    getType defaultPrompts config typeId.text = .ok (customType first) := by
  obtain ⟨found, rfl⟩ := Option.isSome_iff_exists.mp isSome
  have absent : (EVALUATION_TYPES.map (builtInType defaultPrompts found.evaluationTypes)).find? (·.id = typeId.text) = none := by
    rw [List.find?_eq_none]
    intro t inside same
    obtain ⟨et, listed, rfl⟩ := List.mem_map.mp inside
    exact custom (List.mem_map.mpr ⟨et, listed, of_decide_eq_true same⟩)
  have shown : ((found.evaluationTypes.filter isCustomEntry).map customType).find? (·.id = typeId.text) = some (customType first) := by
    have all : (found.evaluationTypes.filter isCustomEntry).filter (·.id = typeId.text) = first :: later := by
      rw [List.filter_filter, ← entries]
      apply List.filter_congr
      intro t _
      by_cases same : t.id = typeId.text
      · simp [same, isCustomEntry, typeId.named, custom]
      · simp [same]
    have head : (found.evaluationTypes.filter isCustomEntry).find? (·.id = typeId.text) = some first := by
      rw [← List.head?_filter, all]
      rfl
    rw [List.find?_map]
    exact congrArg (Option.map customType) head
  simp only [getType, buildEvaluationTypesWithPrompts, List.find?_append, absent, shown]
  rfl

/-- The type is found and has the fields that the body gives. -/
def Returned (config : Option Meta) (typeId : TypeId) (body : TypePatch) : Prop :=
  ∃ t, getType defaultPrompts config typeId.text = .ok t ∧ Shows body t.enabled t.rules t.prompt
/-- A built-in type has no second entry, or the last of its entries already has the fields that the body gives. -/
def LastAgrees (types : List EvaluationTypeConfig) (typeId : TypeId) (body : TypePatch) : Prop :=
  typeId.text ∈ builtInIds → ∀ first between last, entriesOf types typeId.text = first :: between ++ [last] →
    Shows body last.enabled (shownRules last.rules) last.prompt

/-- The last of a list whose first element is replaced is the new one, unless another follows. -/
theorem forall_last_replaced_iff {α : Type} {p : α → Prop} {new : α} (holds : p new) (entries : List α) :
    (∀ last, (new :: entries.tail).getLast? = some last → p last) ↔
      ∀ first between last, entries = first :: between ++ [last] → p last := by
  have ends (first last : α) (between : List α) : (first :: (between ++ [last])).getLast? = some last := by
    rw [← List.cons_append]
    exact List.getLast?_concat
  constructor
  · rintro each first between last rfl
    apply each
    rw [List.cons_append, List.tail_cons, ends]
  · intro fits last isLast
    cases entries with
    | nil =>
      obtain rfl : new = last := by simpa using isLast
      exact holds
    | cons first later =>
      rw [List.tail_cons] at isLast
      cases later using List.reverseRecOn with
      | nil =>
        obtain rfl : new = last := by simpa using isLast
        exact holds
      | append_singleton between other =>
        obtain rfl : other = last := Option.some.inj ((ends ..).symm.trans isLast)
        exact fits first between other rfl
theorem returned_iff {config : Option Meta} (isSome : config.isSome = true) {before : List EvaluationTypeConfig} {typeId : TypeId}
    {body : TypePatch} (patched : typesOf config = patchTypes typeId.text body before) :
    Returned defaultPrompts config typeId body ↔ LastAgrees before typeId body := by
  obtain ⟨existing, entries⟩ := entriesOf_patch typeId.text body before
  rw [← patched] at entries
  have updated := shows_updated typeId.text body existing
  by_cases builtIn : typeId.text ∈ builtInIds
  · obtain ⟨et, same, shown⟩ := getType_builtIn defaultPrompts isSome builtIn
    have override : overrideMap (typesOf config) et.id =
        (body.updated typeId.text existing :: (entriesOf before typeId.text).tail).getLast? := by
      rw [same, overrideMap_eq typeId.named, entries]
    have shows : Returned defaultPrompts config typeId body ↔
        ∀ last, (body.updated typeId.text existing :: (entriesOf before typeId.text).tail).getLast? = some last →
          Shows body last.enabled (shownRules last.rules) last.prompt := by
      obtain ⟨last, isLast⟩ : ∃ last, (body.updated typeId.text existing :: (entriesOf before typeId.text).tail).getLast? = some last :=
        ⟨_, List.getLast?_eq_some_getLast (List.cons_ne_nil _ _)⟩
      simp only [Returned, shown, Except.ok.injEq, exists_eq_left', builtInType, override, isLast, Option.some.injEq, forall_eq']
      rfl
    have agrees := @forall_last_replaced_iff EvaluationTypeConfig (fun last => Shows body last.enabled (shownRules last.rules) last.prompt)
      _ updated (entriesOf before typeId.text)
    rw [shows, agrees, LastAgrees, forall_prop_of_true builtIn]
  · have fits : LastAgrees before typeId body := fun isBuiltIn => absurd isBuiltIn builtIn
    exact iff_of_true ⟨_, getType_custom defaultPrompts isSome builtIn entries, updated⟩ fits

/-! ### Sequences of edits -/

section
variable [Storage]

/-- In each state the merged list is in order, and after each edit of a type the type is shown as it was edited. -/
def Good (st : State) : List (Failures × Edit) → Prop
  | [] => WellMerged (buildEvaluationTypesWithPrompts defaultPrompts (typesOf st.config))
  | (failures, edit) :: rest =>
    WellMerged (buildEvaluationTypesWithPrompts defaultPrompts (typesOf st.config)) ∧
      ∀ st', apply failures st edit.request = .ok st' →
        (∀ typeId body, edit = .patch typeId body → Returned defaultPrompts st'.config typeId body) ∧ Good st' rest
/-- No custom id is posted twice, and no built-in type that is edited has a later entry with other fields. -/
def Edit.Fits (before : List EvaluationTypeConfig) : Edit → Prop
  | .post types => (customIds (types.map normalizeTypeConfig)).Nodup
  | .patch typeId body => LastAgrees before typeId body
def Meets (st : State) : List (Failures × Edit) → Prop
  | [] => True
  | (failures, edit) :: rest =>
    ∀ st', apply failures st edit.request = .ok st' → edit.Fits (typesOf st.config) ∧ Meets st' rest

/-- Whatever is posted and edited in any order: the lists are in order and the edits are shown exactly if
    no custom id is stored twice at the start, and each edit fits. -/
theorem good_iff (st : State) (edits : List (Failures × Edit)) :
    Good defaultPrompts st edits ↔ (customIds (typesOf st.config)).Nodup ∧ Meets st edits := by
  induction edits generalizing st with
  | nil => simp [Good, Meets, wellMerged_iff]
  | cons first rest ih =>
    obtain ⟨failures, edit⟩ := first
    rw [Good, Meets, wellMerged_iff]
    refine and_congr_right fun distinct => forall₂_congr fun st' ran => ?_
    obtain ⟨types, isSome⟩ := apply_edit ran
    rw [ih st']
    cases edit with
    | post posted =>
      have ids : customIds (typesOf st'.config) = customIds (posted.map normalizeTypeConfig) := congrArg customIds types
      simp [ids, Edit.Fits]
    | patch typeId body =>
      have still : (customIds (typesOf st'.config)).Nodup := types ▸ customIds_patch typeId.text body _ distinct
      have shown : (∀ typeId' body', Edit.patch typeId body = .patch typeId' body' → Returned defaultPrompts st'.config typeId' body') ↔
          LastAgrees (typesOf st.config) typeId body := by
        rw [← returned_iff defaultPrompts isSome types]
        constructor
        · intro all
          exact all typeId body rfl
        · rintro returned _ _ ⟨⟩
          exact returned
      rw [shown, and_iff_right still, Edit.Fits]

end

/-- A built-in type that is posted twice, and then edited. -/
def postTwice : Edit := .post [{ id := "bias", enabled := true }, { id := "bias", enabled := false }]
def enableBias : Edit := .patch ⟨"bias", by decide⟩ { enabled := some true }
theorem enabled_type_shown_disabled :
    ¬∀ [Storage] (defaultPrompts : String → Option String) (st : State) (edits : List (Failures × Edit)), Good defaultPrompts st edits := by
  intro all
  let _ := plainStorage
  let posted := after (sampleState []) postTwice.request
  let patched := after posted enableBias.request
  have good := all (fun _ => none) (sampleState []) [({}, postTwice), ({}, enableBias)]
  have first := good.2 posted (apply_after ⟨_, rfl⟩)
  have second := first.2.2 patched (apply_after ⟨_, rfl⟩)
  obtain ⟨t, shown, shows⟩ := second.1 _ _ rfl
  have disabled : (getType (fun _ => none) patched.config "bias").map (·.enabled) = .ok false := by rfl
  rw [shown] at disabled
  have enabled : t.enabled = true := shows.enabled true rfl
  rw [Except.map, enabled] at disabled
  cases disabled

end Openlit.EvaluationTypes
