import Openlit.RuleSemantics

/-!
What a rule's match depends on. The joins and the groupings keep the rules
apart, so a rule matches on its own rows and on the fields that its conditions
name (`ownMatch_congr`). All rules share one query, though: a condition of any
rule, active or not, that cannot be evaluated rejects the query for all of them
(`returned_isolated_iff`). The preview of a rule takes such a condition for one
that fails.
-/
namespace Openlit.RuleIsolation
open Openlit.RuleEngine Openlit.RuleSemantics

/-- Two stores with the same rows for a rule. -/
structure SameRule (id : String) (first second : RuleStore) : Prop where
  row : ∀ r : Rule, r.id = id → (r ∈ first.rules ↔ r ∈ second.rules)
  groups : ∀ g : RuleConditionGroup, g.rule_id = id → (g ∈ first.groups ↔ g ∈ second.groups)
  conditions : ∀ c : RuleCondition, c.rule_id = id → (c ∈ first.conditions ↔ c ∈ second.conditions)
  entities : ∀ e : RuleEntity, e.rule_id = id → (e ∈ first.entities ↔ e ∈ second.entities)

theorem SameRule.symm {id : String} {first second : RuleStore} (same : SameRule id first second) :
    SameRule id second first :=
  ⟨fun r own => (same.row r own).symm, fun g own => (same.groups g own).symm,
    fun c own => (same.conditions c own).symm, fun e own => (same.entities e own).symm⟩

theorem inRule_congr {id : String} {first second : RuleStore} (same : SameRule id first second) {r : Rule}
    (own : r.id = id) (g : RuleConditionGroup) : InRule first r g ↔ InRule second r g := by
  constructor
  · rintro ⟨stored, rule⟩
    exact ⟨(same.groups g (rule.trans own)).mp stored, rule⟩
  · rintro ⟨stored, rule⟩
    exact ⟨(same.groups g (rule.trans own)).mpr stored, rule⟩
/-- The conditions of a group are the rule's, whose rows are the same. -/
theorem inGroup_congr {id : String} {first second : RuleStore} (same : SameRule id first second) {r : Rule}
    (own : r.id = id) {g : RuleConditionGroup} (inside : InRule first r g) (c : RuleCondition) :
    InGroup first g c ↔ InGroup second g c := by
  obtain ⟨stored, rule⟩ := inside
  have stored' := (same.groups g (rule.trans own)).mp stored
  constructor
  · rintro ⟨condition, group⟩
    have mine := (first.owned c condition g stored group.symm).symm.trans (rule.trans own)
    exact ⟨(same.conditions c mine).mp condition, group⟩
  · rintro ⟨condition, group⟩
    have mine := (second.owned c condition g stored' group.symm).symm.trans (rule.trans own)
    exact ⟨(same.conditions c mine).mpr condition, group⟩

section
variable [Platform]

/-- Two inputs with the same values for the fields that the rule's conditions name. -/
def SameInput (id : String) (store : RuleStore) (fields others : InputFields) : Prop :=
  ∀ c ∈ store.conditions, c.rule_id = id →
    ∀ value, (c.field, value) ∈ inputValues fields ↔ (c.field, value) ∈ inputValues others
def Returned (store : RuleStore) (fields : InputFields) (entity_type : RuleEntityType) (id : String) : Prop :=
  ∃ result, evaluateRules store fields entity_type = some result ∧ id ∈ result.matchingRuleIds
/-- The rule matches as far as its own rows go. -/
def OwnMatch (store : RuleStore) (fields : InputFields) (entity_type : RuleEntityType) (id : String) : Prop :=
  ∃ r ∈ store.rules, r.id = id ∧ r.status = .active ∧ HasEntity store entity_type r ∧
    QueryHolds store (inputValues fields) r

/-- A rule is returned exactly if it matches and no condition rejects the query. -/
theorem returned_iff (store : RuleStore) (fields : InputFields) (entity_type : RuleEntityType) (id : String) :
    Returned store fields entity_type id ↔
      Evaluable store (inputValues fields) ∧ OwnMatch store fields entity_type id := by
  rcases evaluateRules_cases store fields entity_type with ⟨rejected, never⟩ | ⟨evaluable, result, ran, returned⟩
  · constructor
    · rintro ⟨result, ran, -⟩
      cases rejected.symm.trans ran
    · rintro ⟨evaluable, -⟩
      exact absurd evaluable never
  · constructor
    · rintro ⟨result', ran', member⟩
      obtain rfl := Option.some.inj (ran.symm.trans ran')
      exact ⟨evaluable, (returned id).mp member⟩
    · rintro ⟨-, own⟩
      exact ⟨result, ran, (returned id).mpr own⟩

omit [Platform] in
theorem combined_congr {α : Type} {operator : RuleGroupOperator} {items others holds passes : α → Prop}
    (same : ∀ a, items a ↔ others a) (alike : ∀ a, items a → (holds a ↔ passes a)) :
    Combined operator items holds ↔ Combined operator others passes :=
  combined_iff (fun a item => ⟨a, (same a).mp item, alike a item⟩)
    fun a other => ⟨a, (same a).mpr other, alike a ((same a).mpr other)⟩

section
variable {id : String} {first second : RuleStore} {fields others : InputFields} (same : SameRule id first second)
  (input : SameInput id first fields others) {r : Rule} (own : r.id = id)
include same input own

omit same in
/-- A condition of the rule reads the same field on both sides. -/
theorem reads_congr {g : RuleConditionGroup} (inside : InRule first r g) {c : RuleCondition}
    (member : InGroup first g c) (value : String) :
    (c.field, value) ∈ inputValues fields ↔ (c.field, value) ∈ inputValues others := by
  have mine := (first.owned c member.1 g inside.1 member.2.symm).symm.trans (inside.2.trans own)
  exact input c member.1 mine value
omit same in
theorem present_congr {g : RuleConditionGroup} (inside : InRule first r g) {c : RuleCondition}
    (member : InGroup first g c) : Present (inputValues fields) c ↔ Present (inputValues others) c :=
  exists_congr fun value => reads_congr input own inside member value
omit same in
theorem satisfied_congr {g : RuleConditionGroup} (inside : InRule first r g) {c : RuleCondition}
    (member : InGroup first g c) : Satisfied (inputValues fields) c ↔ Satisfied (inputValues others) c :=
  exists_congr fun value => and_congr_left' (reads_congr input own inside member value)

theorem liveInRule_congr (g : RuleConditionGroup) :
    LiveInRule first (inputValues fields) r g ↔ LiveInRule second (inputValues others) r g := by
  have live (inside : InRule first r g) : Live first (inputValues fields) g ↔ Live second (inputValues others) g := by
    constructor
    · rintro ⟨c, member, there⟩
      exact ⟨c, (inGroup_congr same own inside c).mp member, (present_congr input own inside member).mp there⟩
    · rintro ⟨c, member, there⟩
      have member' := (inGroup_congr same own inside c).mpr member
      exact ⟨c, member', (present_congr input own inside member').mpr there⟩
  constructor
  · rintro ⟨inside, lives⟩
    exact ⟨(inRule_congr same own g).mp inside, (live inside).mp lives⟩
  · rintro ⟨inside, lives⟩
    have inside' := (inRule_congr same own g).mpr inside
    exact ⟨inside', (live inside').mpr lives⟩
theorem passes_congr {g : RuleConditionGroup} (inside : InRule first r g) :
    Passes first (inputValues fields) g ↔ Passes second (inputValues others) g := by
  apply combined_congr
  · intro c
    constructor
    · rintro ⟨member, there⟩
      exact ⟨(inGroup_congr same own inside c).mp member, (present_congr input own inside member).mp there⟩
    · rintro ⟨member, there⟩
      have member' := (inGroup_congr same own inside c).mpr member
      exact ⟨member', (present_congr input own inside member').mpr there⟩
  · rintro c ⟨member, -⟩
    exact satisfied_congr input own inside member

theorem queryHolds_congr :
    QueryHolds first (inputValues fields) r ↔ QueryHolds second (inputValues others) r := by
  apply and_congr
  · exact exists_congr fun g => liveInRule_congr same input own g
  · apply combined_congr
    · exact liveInRule_congr same input own
    · rintro g ⟨inside, -⟩
      exact passes_congr same input own inside

end

/-- The match of a rule depends on its own rows and on the fields that its conditions name. -/
theorem ownMatch_congr {id : String} {first second : RuleStore} {fields others : InputFields}
    (same : SameRule id first second) (input : SameInput id first fields others) (entity_type : RuleEntityType) :
    OwnMatch first fields entity_type id ↔ OwnMatch second others entity_type id := by
  have entity {r : Rule} (own : r.id = id) : HasEntity first entity_type r ↔ HasEntity second entity_type r := by
    constructor
    · rintro ⟨e, stored, rule, type⟩
      exact ⟨e, (same.entities e (rule.trans own)).mp stored, rule, type⟩
    · rintro ⟨e, stored, rule, type⟩
      exact ⟨e, (same.entities e (rule.trans own)).mpr stored, rule, type⟩
  constructor
  · rintro ⟨r, stored, own, active, linked, holds⟩
    exact ⟨r, (same.row r own).mp stored, own, active, (entity own).mp linked, (queryHolds_congr same input own).mp holds⟩
  · rintro ⟨r, stored, own, active, linked, holds⟩
    exact ⟨r, (same.row r own).mpr stored, own, active, (entity own).mpr linked,
      (queryHolds_congr same input own).mpr holds⟩

/-- Between stores and inputs that differ in other rules and in other fields
    only, a rule is returned from both or from neither, exactly if both queries
    can be evaluated or neither can, or the rule does not match anyway. -/
theorem returned_isolated_iff {id : String} {first second : RuleStore} {fields others : InputFields}
    (same : SameRule id first second) (input : SameInput id first fields others) (entity_type : RuleEntityType) :
    (Returned first fields entity_type id ↔ Returned second others entity_type id) ↔
      ((Evaluable first (inputValues fields) ↔ Evaluable second (inputValues others)) ∨
        ¬ OwnMatch first fields entity_type id) := by
  rw [returned_iff, returned_iff, ← ownMatch_congr same input entity_type]
  by_cases matched : OwnMatch first fields entity_type id
  · simp only [matched, and_true, not_true_eq_false, or_false]
  · simp only [matched, and_false, not_false_eq_true, or_true]

end

/-! ### A broken rule that is switched off -/

/-- Numbers as natural ones, and regular expressions of which one does not compile. -/
@[reducible] def regexPlatform : Platform :=
  { plainPlatform with regexMatch := fun value pattern => if pattern = "(" then none else some (value = pattern) }

def brokenRule : Rule := { id := "s", group_operator := .and, status := .inactive }
def brokenGroup : RuleConditionGroup := { id := "h", rule_id := "s", condition_operator := .and }
def brokenCondition : RuleCondition :=
  { rule_id := "s", group_id := "h", field := "model", operator := .regex, value := "(", data_type := .string }
/-- The rule for premium users beside an inactive rule with an unbalanced regular expression. -/
def brokenStore : RuleStore where
  rules := premiumStore.rules ++ [brokenRule]
  groups := premiumStore.groups ++ [brokenGroup]
  conditions := premiumStore.conditions ++ [brokenCondition]
  entities := premiumStore.entities
  ruleIds := by decide
  groupIds := by decide
  owned := by decide

theorem broken_same : SameRule "r" premiumStore brokenStore where
  row r own := by
    have other : r ≠ brokenRule := by
      rintro rfl
      revert own
      decide
    simp [brokenStore, other]
  groups g own := by
    have other : g ≠ brokenGroup := by
      rintro rfl
      revert own
      decide
    simp [brokenStore, other]
  conditions c own := by
    have other : c ≠ brokenCondition := by
      rintro rfl
      revert own
      decide
    simp [brokenStore, other]
  entities e _ := Iff.rfl

theorem returned_isolated_broken :
    @SameInput regexPlatform "r" premiumStore (@modelOnly regexPlatform) (@modelOnly regexPlatform) ∧
      ((@Returned regexPlatform premiumStore (@modelOnly regexPlatform) .context "r" ↔
          @Returned regexPlatform brokenStore (@modelOnly regexPlatform) .context "r") ↔
        ((@Evaluable regexPlatform premiumStore (@inputValues regexPlatform (@modelOnly regexPlatform)) ↔
            @Evaluable regexPlatform brokenStore (@inputValues regexPlatform (@modelOnly regexPlatform))) ∨
          ¬ @OwnMatch regexPlatform premiumStore (@modelOnly regexPlatform) .context "r")) :=
  ⟨fun _ _ _ _ => Iff.rfl, @returned_isolated_iff regexPlatform "r" premiumStore brokenStore _ _ broken_same
    (fun _ _ _ _ => Iff.rfl) .context⟩

/-- The inactive rule takes the other one out of every evaluation of an input with a model. -/
theorem broken_rule_spreads :
    ¬ ∀ [Platform] (id : String) (first second : RuleStore) (fields others : InputFields) (entity_type : RuleEntityType),
        SameRule id first second → SameInput id first fields others →
          (Returned first fields entity_type id ↔ Returned second others entity_type id) := by
  intro all
  let _ := regexPlatform
  have alone : (evaluateRules premiumStore modelOnly .context).map (·.matchingRuleIds) = some ["r"] := by decide
  have beside : (evaluateRules brokenStore modelOnly .context).map (·.matchingRuleIds) = none := by decide
  obtain ⟨result, ran, ids⟩ := Option.map_eq_some_iff.mp alone
  obtain ⟨other, ran', -⟩ := (all "r" premiumStore brokenStore modelOnly modelOnly .context broken_same
    fun _ _ _ _ => Iff.rfl).mp ⟨result, ran, by simp [ids]⟩
  rw [ran'] at beside
  cases beside

end Openlit.RuleIsolation
