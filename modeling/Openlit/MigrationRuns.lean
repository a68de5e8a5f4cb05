import Openlit.Migrations

/-!
What runs of the migrations keep. A record stands for queries that have all
succeeded, in every run. The insertions, the copy and the dashboards are applied
at most once in every run where no check passes while one of them is applied or
is still before another call, and no board table is found empty while another
call is importing (`migrations_apply_once`).
-/
namespace Openlit.Migrations
open Openlit.Runs

section
variable {Call : Type} {of : Call → Migration}

/-! ### The records -/

/-- All queries of a migration have succeeded. -/
def Done (applied : Effect → Nat) (m : Migration) : Prop := ∀ i < (queries m).length, applied (.query m i) ≠ 0
/-- What the stage of a call says of the queries of its migration. -/
def Behind (applied : Effect → Nat) (m : Migration) : Stage → Prop
  | .queries pending false => ∀ i < (queries m).length, i ∉ pending → applied (.query m i) ≠ 0
  | .record => Done applied m
  | _ => True
structure Recorded (of : Call → Migration) (w : World Call) : Prop where
  records : ∀ m, clickhouseMigrationId m ∈ w.recorded → Done w.applied m
  stages : ∀ call, Behind w.applied (of call) (w.stage call)

section
variable {applied applied' : Effect → Nat} {m : Migration}

theorem behind_mono (more : ∀ x, applied x ≠ 0 → applied' x ≠ 0) {stage : Stage} (behind : Behind applied m stage) :
    Behind applied' m stage := by
  unfold Behind at behind ⊢
  split
  · exact fun i inside answered => more _ (behind i inside answered)
  · exact fun i inside => more _ (behind i inside)
  · trivial
theorem behind_afterRecord (recorded : Bool) : Behind applied m (afterRecord m recorded) := by
  cases m <;> cases recorded <;> trivial
theorem behind_afterQueries {pending : List Nat} {failed : Bool} (behind : Behind applied m (.queries pending failed)) :
    Behind applied m (afterQueries m pending failed) := by
  unfold afterQueries
  by_cases answered : pending = []
  · subst answered
    cases failed with
    | true => exact behind_afterRecord false
    | false => exact fun i inside => behind i inside List.not_mem_nil
  · rw [if_neg answered]
    exact behind
theorem more_applied (applied : Effect → Nat) (x y : Effect) (before : applied y ≠ 0) :
    Function.update applied x (applied x + 1) y ≠ 0 := by
  by_cases same : y = x
  · simp [same]
  · simpa [same] using before
theorem behind_answered {pending : List Nat} {failed : Bool} (behind : Behind applied m (.queries pending failed)) (i : Nat) :
    Behind (Function.update applied (.query m i) (applied (.query m i) + 1)) m (.queries (pending.filter (· ≠ i)) failed) := by
  cases failed with
  | true => trivial
  | false =>
    intro j inside answered
    by_cases same : j = i
    · simp [same]
    · refine more_applied applied _ _ (behind j inside fun stored => answered ?_)
      exact List.mem_filter.mpr ⟨stored, decide_eq_true same⟩

end

variable [DecidableEq Call] {w : World Call}

/-- Effects that are added do not take back what a record stands for. -/
theorem Recorded.at (recorded : Recorded of w) (w' : World Call) (more : ∀ x, w.applied x ≠ 0 → w'.applied x ≠ 0)
    (records : w'.recorded = w.recorded) (stages : w'.stage = w.stage) {call : Call} {stage : Stage}
    (behind : Behind w'.applied (of call) stage) : Recorded of (w'.at call stage) := by
  constructor
  · intro m isRecorded i inside
    exact more _ (recorded.records m (records ▸ isRecorded) i inside)
  · intro other
    by_cases same : other = call
    · subst same
      simpa [World.at] using behind
    · have old := behind_mono more (recorded.stages other)
      simpa [World.at, same, stages] using old

theorem step_recorded (w : World Call) (e : Event Call) (recorded : Recorded of w) : Recorded of (step of w e) := by
  have here := recorded.stages e.call
  unfold step advance
  cases stage : w.stage e.call with
  | check =>
    rw [stage] at here
    dsimp only
    split
    · refine recorded.at w (fun _ => id) rfl rfl (behind_afterQueries fun i inside answered => ?_)
      exact absurd (List.mem_range.mpr inside) answered
    · exact recorded.at w (fun _ => id) rfl rfl trivial
  | queries pending failed =>
    rw [stage] at here
    dsimp only
    split
    · split
      · exact recorded.at w (fun _ => id) rfl rfl (behind_afterQueries trivial)
      · exact recorded.at (w.apply (.query (of e.call) e.query)) (more_applied w.applied _) rfl rfl
          (behind_afterQueries (behind_answered here e.query))
    · exact recorded
  | record =>
    rw [stage] at here
    dsimp only
    split
    · exact recorded.at w (fun _ => id) rfl rfl (behind_afterRecord _)
    · refine ⟨fun m isRecorded => ?_, (recorded.at w (fun _ => id) rfl rfl (behind_afterRecord _)).stages⟩
      rcases List.mem_append.mp isRecorded with old | new
      · exact recorded.records m old
      · rw [clickhouseMigrationId_injective (List.mem_singleton.mp new)]
        exact here
  | copy =>
    dsimp only
    split
    · exact recorded.at w (fun _ => id) rfl rfl trivial
    · exact recorded.at (w.apply .copy) (more_applied w.applied _) rfl rfl trivial
  | isBoardTableEmpty =>
    dsimp only
    split <;> exact recorded.at w (fun _ => id) rfl rfl trivial
  | importing position =>
    dsimp only
    have next {applied : Effect → Nat} : Behind applied (of e.call)
        (if e.stops || position + 1 = seedDashboards.length then .ended else .importing (position + 1)) := by
      split <;> trivial
    split
    · exact recorded.at w (fun _ => id) rfl rfl next
    · exact recorded.at { w.apply (.seed position) with boards := w.boards + 1 } (more_applied w.applied _) rfl rfl next
  | ended => exact recorded
theorem recorded_done (boards : Nat) (events : List (Event Call)) : Recorded of (run (step of) (start boards) events) := by
  refine run_keeps ⟨fun m isRecorded => ?_, fun call => trivial⟩ step_recorded events
  cases isRecorded

end

/-! ### What is still before a call -/

/-- An effect that has been applied once and is before nobody, or has not been
    applied and is before one party at most. -/
def Single {Party : Type} (applied : Nat) (owing : Set Party) : Prop :=
  (applied = 0 ∧ owing.Subsingleton) ∨ (applied = 1 ∧ owing = ∅)

section
variable {Party : Type} {applied : Nat} {owing owing' : Set Party} {party : Party}

theorem Single.le_one (single : Single applied owing) : applied ≤ 1 := by
  rcases single with ⟨none, -⟩ | ⟨once, -⟩ <;> omega
theorem Single.shrink (single : Single applied owing) (fewer : owing' ⊆ owing) : Single applied owing' := by
  rcases single with ⟨none, one⟩ | ⟨once, nobody⟩
  · exact .inl ⟨none, one.anti fewer⟩
  · exact .inr ⟨once, Set.subset_eq_empty fewer nobody⟩
theorem Single.apply (single : Single applied owing) (mine : party ∈ owing) (rest : ∀ other ∈ owing', other ∈ owing ∧ other ≠ party) :
    Single (applied + 1) owing' := by
  rcases single with ⟨none, one⟩ | ⟨-, nobody⟩
  · refine .inr ⟨by omega, Set.eq_empty_of_forall_notMem fun other inside => ?_⟩
    obtain ⟨old, different⟩ := rest other inside
    exact different (one old mine)
  · rw [nobody] at mine
    cases mine
theorem Single.take (none : applied = 0) (only : ∀ other ∈ owing, other = party) : Single applied owing :=
  .inl ⟨none, fun a inside b inside' => (only a inside).trans (only b inside').symm⟩

end

/-- The effects that a call at a stage may still apply. -/
def Owed (m : Migration) : Stage → Effect → Prop
  | .queries pending _, .query m' i => m' = m ∧ i ∈ pending
  | .queries _ false, .copy | .record, .copy => m = .openground
  | .copy, .copy => True
  | .importing position, .seed p => position ≤ p
  | _, _ => False
/-- The insertions, the copy and the dashboards; a `CREATE TABLE IF NOT EXISTS` may be repeated. -/
def Counted : Effect → Prop
  | .query m i => ∃ table, (queries m)[i]? = some (.insert table)
  | .copy | .seed _ => True

theorem owed_afterRecord {m : Migration} {recorded : Bool} {x : Effect} (owed : Owed m (afterRecord m recorded) x) :
    recorded = true ∧ Owed m .record x := by
  unfold afterRecord at owed
  split at owed
  · cases x <;> cases owed
  · split at owed
    · rename_i isRecorded
      cases x with
      | copy => exact ⟨isRecorded, rfl⟩
      | query _ _ | seed _ => cases owed
    · cases x <;> cases owed
  · cases x <;> cases owed
theorem owed_afterQueries {m : Migration} {pending : List Nat} {failed : Bool} {x : Effect}
    (owed : Owed m (afterQueries m pending failed) x) : Owed m (.queries pending failed) x := by
  unfold afterQueries at owed
  split at owed
  · cases failed with
    | true => cases (owed_afterRecord owed).1
    | false =>
      cases x with
      | copy => exact owed
      | query _ _ | seed _ => cases owed
  · exact owed
theorem owed_afterImport {m : Migration} {position : Nat} {stops : Bool} {x : Effect}
    (owed : Owed m (if stops || position + 1 = seedDashboards.length then .ended else .importing (position + 1)) x) :
    Owed m (.importing position) x ∧ x ≠ .seed position := by
  split at owed
  · cases x <;> cases owed
  · cases x with
    | query _ _ | copy => cases owed
    | seed p =>
      change position + 1 ≤ p at owed
      refine ⟨(by omega : position ≤ p), ?_⟩
      intro same
      cases same
      omega
/-- What is before a call after an answer, which may be a failure. -/
theorem owed_answered {m : Migration} {pending : List Nat} {failed : Bool} {i : Nat} {x : Effect} (failure : Bool)
    (owed : Owed m (afterQueries m (pending.filter (· ≠ i)) (failure || failed)) x) :
    Owed m (.queries pending failed) x ∧ x ≠ .query m i := by
  have rest := owed_afterQueries owed
  cases x with
  | seed _ => cases rest
  | copy =>
    cases failure <;> cases failed
    · exact ⟨rest, nofun⟩
    all_goals cases rest
  | query m' j =>
    obtain ⟨same, inside⟩ := rest
    obtain ⟨stored, different⟩ := List.mem_filter.mp inside
    refine ⟨⟨same, stored⟩, fun equal => ?_⟩
    cases equal
    exact of_decide_eq_true different rfl

section
variable {Call : Type} {of : Call → Migration}

def owing (of : Call → Migration) (w : World Call) (x : Effect) : Set Call := { call | Owed (of call) (w.stage call) x }
structure Calm (of : Call → Migration) (w : World Call) : Prop where
  single : ∀ x, Counted x → Single (w.applied x) (owing of w x)
  seeded : ∀ p, w.applied (.seed p) ≠ 0 → w.boards ≠ 0

variable [DecidableEq Call] {w : World Call}

theorem mem_owing_at {w' : World Call} (stages : w'.stage = w.stage) {call : Call} {stage : Stage} {x : Effect} {other : Call}
    (inside : other ∈ owing of (w'.at call stage) x) :
    (other = call ∧ Owed (of call) stage x) ∨ (other ≠ call ∧ other ∈ owing of w x) := by
  change Owed (of other) (Function.update w'.stage call stage other) x at inside
  by_cases same : other = call
  · subst same
    rw [Function.update_self] at inside
    exact .inl ⟨rfl, inside⟩
  · rw [Function.update_of_ne same, stages] at inside
    exact .inr ⟨same, inside⟩
/-- A step without an effect, after which nothing more is before the call. -/
theorem Calm.keep (calm : Calm of w) (w' : World Call) (applied : w'.applied = w.applied) (boards : w'.boards = w.boards)
    (stages : w'.stage = w.stage) {call : Call} {stage : Stage}
    (fewer : ∀ x, Owed (of call) stage x → Owed (of call) (w.stage call) x) : Calm of (w'.at call stage) := by
  constructor
  · intro x counted
    change Single (w'.applied x) _
    rw [applied]
    refine (calm.single x counted).shrink fun other inside => ?_
    rcases mem_owing_at stages inside with ⟨rfl, owed⟩ | ⟨-, old⟩
    · exact fewer x owed
    · exact old
  · intro p isSeeded
    change w'.boards ≠ 0
    rw [boards]
    exact calm.seeded p (applied ▸ isSeeded)
/-- A step that applies an effect that was before the call. -/
theorem Calm.did (calm : Calm of w) (w' : World Call) {y : Effect}
    (applied : w'.applied = Function.update w.applied y (w.applied y + 1))
    (boards : ∀ p, w'.applied (.seed p) ≠ 0 → w'.boards ≠ 0) (stages : w'.stage = w.stage) {call : Call} {stage : Stage}
    (mine : Owed (of call) (w.stage call) y)
    (rest : ∀ x, Owed (of call) stage x → Owed (of call) (w.stage call) x ∧ x ≠ y) : Calm of (w'.at call stage) := by
  refine ⟨fun x counted => ?_, boards⟩
  change Single (w'.applied x) _
  have fewer (other : Call) (inside : other ∈ owing of (w'.at call stage) x) : other ∈ owing of w x ∧ (x = y → other ≠ call) := by
    rcases mem_owing_at stages inside with ⟨rfl, owed⟩ | ⟨different, old⟩
    · exact ⟨(rest x owed).1, fun same => absurd same (rest x owed).2⟩
    · exact ⟨old, fun _ => different⟩
  rw [applied]
  by_cases same : x = y
  · subst same
    rw [Function.update_self]
    exact (calm.single x counted).apply mine fun other inside => ⟨(fewer other inside).1, (fewer other inside).2 rfl⟩
  · rw [Function.update_of_ne same]
    exact (calm.single x counted).shrink fun other inside => (fewer other inside).1
/-- A step that takes on effects that have not been applied and are before nobody. -/
theorem Calm.take (calm : Calm of w) {call : Call} {stage : Stage}
    (free : ∀ x, Counted x → Owed (of call) stage x → w.applied x = 0 ∧ ∀ other, ¬Owed (of other) (w.stage other) x) :
    Calm of (w.at call stage) := by
  refine ⟨fun x counted => ?_, calm.seeded⟩
  change Single (w.applied x) _
  by_cases owed : Owed (of call) stage x
  · obtain ⟨none, nobody⟩ := free x counted owed
    refine Single.take none (fun other inside => ?_ : ∀ other ∈ owing of (w.at call stage) x, other = call)
    rcases mem_owing_at rfl inside with ⟨same, -⟩ | ⟨-, old⟩
    · exact same
    · exact absurd old (nobody other)
  · refine (calm.single x counted).shrink fun other inside => ?_
    rcases mem_owing_at rfl inside with ⟨-, owed'⟩ | ⟨-, old⟩
    · exact absurd owed' owed
    · exact old

/-! ### The runs -/

/-- A check that passes meets no insertion and no copy of its migration that is
    applied or still before a call, and a board table that is found empty meets
    no call that is importing. -/
def Meets (of : Call → Migration) (w : World Call) (e : Event Call) : Prop :=
  match w.stage e.call with
  | .check => passes w (of e.call) e.failed = true → ∀ x, Counted x → Owed (of e.call) (sent (of e.call)) x →
      w.applied x = 0 ∧ ∀ other, ¬Owed (of other) (w.stage other) x
  | .isBoardTableEmpty => empty w e.failed = true → ∀ other position, w.stage other ≠ .importing position
  | _ => True

omit [DecidableEq Call] in
/-- An empty board table that no call is importing into has no dashboard before it. -/
theorem Calm.unseeded (calm : Calm of w) (none : w.boards = 0) (alone : ∀ other position, w.stage other ≠ .importing position)
    (p : Nat) : w.applied (.seed p) = 0 ∧ ∀ other, ¬Owed (of other) (w.stage other) (.seed p) := by
  constructor
  · by_contra isSeeded
    exact calm.seeded p isSeeded none
  · intro other isImporting
    have importing := alone other
    generalize w.stage other = stage at isImporting importing
    cases stage with
    | importing position => exact importing position rfl
    | _ => cases isImporting
theorem step_calm (w : World Call) (e : Event Call) (calm : Calm of w) (met : Meets of w e) : Calm of (step of w e) := by
  have keep {stage : Stage} (fewer : ∀ x, Owed (of e.call) stage x → Owed (of e.call) (w.stage e.call) x) :
      Calm of (w.at e.call stage) := calm.keep w rfl rfl rfl fewer
  have ending : Calm of (w.at e.call .ended) := keep fun x owed => by cases x <;> cases owed
  unfold step advance
  unfold Meets at met
  cases here : w.stage e.call with
  | check =>
    rw [here] at met
    dsimp only at met ⊢
    split
    · rename_i passed
      exact calm.take (met passed)
    · exact ending
  | queries pending failed =>
    dsimp only
    split
    · rename_i inside
      split
      · exact keep fun x owed => here ▸ (owed_answered true owed).1
      · refine calm.did (w.apply (.query (of e.call) e.query)) rfl ?_ rfl (here ▸ ⟨rfl, inside⟩) fun x owed =>
          here ▸ owed_answered false owed
        intro p isSeeded
        exact calm.seeded p (by simpa [World.apply] using isSeeded)
    · exact calm
  | record =>
    dsimp only
    split
    · exact keep fun x owed => here ▸ (owed_afterRecord owed).2
    · exact calm.keep { w with recorded := w.recorded ++ [clickhouseMigrationId (of e.call)] } rfl rfl rfl fun x owed =>
        here ▸ (owed_afterRecord owed).2
  | copy =>
    dsimp only
    split
    · exact ending
    · refine calm.did (w.apply .copy) rfl ?_ rfl (here ▸ trivial) fun x owed => by cases x <;> cases owed
      intro p isSeeded
      exact calm.seeded p (by simpa [World.apply] using isSeeded)
  | isBoardTableEmpty =>
    rw [here] at met
    dsimp only at met ⊢
    split
    · rename_i isEmpty
      have none : w.boards = 0 := by simpa [empty] using (Bool.and_eq_true_iff.mp isEmpty).2
      refine calm.take fun x _ owed => ?_
      cases x with
      | query _ _ | copy => cases owed
      | seed p => exact calm.unseeded none (met isEmpty) p
    · exact ending
  | importing position =>
    dsimp only
    split
    · exact keep fun x owed => here ▸ (owed_afterImport owed).1
    · exact calm.did { w.apply (.seed position) with boards := w.boards + 1 } rfl (fun _ _ => Nat.succ_ne_zero _) rfl
        (here ▸ Nat.le_refl position) fun x owed => here ▸ owed_afterImport owed
  | ended => exact calm

/-- The insertions, the copy and the dashboards are applied once at most, and a
    record stands for queries that have all succeeded. -/
structure Right (w : World Call) : Prop where
  once : ∀ x, Counted x → w.applied x ≤ 1
  records : ∀ m, clickhouseMigrationId m ∈ w.recorded → Done w.applied m
theorem migrations_apply_once (of : Call → Migration) (boards : Nat) (events : List (Event Call))
    (met : ∀ before e, before ++ [e] <+: events → Meets of (run (step of) (start boards) before) e) :
    ∀ before, before <+: events → Right (run (step of) (start boards) before) := by
  have starts : Calm of (start boards) := by
    refine ⟨fun x _ => .inl ⟨rfl, fun call owed => ?_⟩, fun p isSeeded => absurd rfl isSeeded⟩
    cases x <;> cases owed
  intro before early
  have calm := run_good starts (fun w e calm met => step_calm w e calm met) met before early
  exact ⟨fun x counted => (calm.single x counted).le_one, (recorded_done boards before).records⟩

end

/-! ### One call, and two at once -/

def next {Call : Type} (call : Call) (query : Nat) : Event Call := ⟨call, false, query, false⟩
/-- The default rows of the evaluation types are inserted and recorded. -/
theorem migrations_apply_once_defaults :
    Right (run (step fun _ => .evaluationTypeDefaults) (start 0) [next () 0, next () 1, next () 0, next () 0]) := by
  refine migrations_apply_once _ 0 _ (forall_steps_cons ?_ ?_) _ (List.prefix_refl _)
  · exact fun _ x _ _ => ⟨rfl, fun _ owed => by cases x <;> cases owed⟩
  · exact forall_steps_cons trivial (forall_steps_cons trivial (forall_steps_cons trivial forall_steps_nil))

/-- Both calls check before one records, and both find the board table empty before one imports. -/
def bothSeed : List (Event Bool) :=
  [next true 0, next false 0] ++ (List.range 4).flatMap (fun i => [next true i, next false i]) ++
    (List.range 3).flatMap fun _ => [next true 0, next false 0]
theorem dashboards_seeded_twice :
    ¬ ∀ (Call : Type) [DecidableEq Call] (of : Call → Migration) (boards : Nat) (events : List (Event Call)),
        Right (run (step of) (start boards) events) := by
  intro all
  have right := all Bool (fun _ => .customDashboards) 0 bothSeed
  have twice : (run (step fun _ => .customDashboards) (start 0) bothSeed).applied (.seed 0) = 2 := rfl
  have once := right.once (.seed 0) trivial
  omega

end Openlit.Migrations
