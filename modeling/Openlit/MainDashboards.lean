import Mathlib.Data.List.Pairwise
import Openlit.DashboardCalls
import Openlit.RuleLinkSync

/-!
The mark of the main dashboard. A call of `setMainDashboard` takes the mark from
every board before it gives it to one, without looking whether that has worked
and whether there is such a board, and `createBoard` marks a new board whenever
it is told to. In a run at most one board is marked in each database, and no
call that fails or finds no board takes a mark, exactly as long as every
statement meets its condition (`one_main_dashboard_iff`).
-/
namespace Openlit.MainDashboards
open Openlit.DashboardCalls Openlit.Runs
open Openlit.RuleLinks (Storage)
open Openlit.RuleLinkSync (plainStorage)
open Openlit.RuleLinks.Storage

section
variable {Call Db Columns : Type}

/-- No two boards are marked. -/
def AtMostOne (boards : BoardTable Call Columns) : Prop :=
  boards.rows.Pairwise fun a b => ¬(a.is_main_dashboard = true ∧ b.is_main_dashboard = true)
/-- A call of `setMainDashboard` that has failed or has found no board has taken no mark. -/
def Harmless : Stage Call Db Columns → Prop
  | .ended (.notUpdated unmarked) | .ended (.updated false unmarked) => unmarked = false
  | _ => True
structure Kept (w : World Call Db Columns) : Prop where
  one : ∀ d, AtMostOne (w.boards d)
  harmless : ∀ call, Harmless (w.stage call)

theorem atMostOne_unset (boards : BoardTable Call Columns) : AtMostOne (unsetQuery boards) := by
  unfold AtMostOne unsetQuery
  rw [List.pairwise_map]
  exact List.pairwise_of_forall fun a b => by simp [unsetRow]
theorem atMostOne_set_iff {boards : BoardTable Call Columns} (one : AtMostOne boards) (uuid : String) :
    AtMostOne (setQuery uuid boards) ↔
      (uuid ∈ boards.rows.map (·.id) → ∀ b ∈ boards.rows, b.is_main_dashboard = true → b.id = uuid) := by
  unfold AtMostOne setQuery
  simp only [List.pairwise_map, setRow_marked]
  constructor
  · intro single stored b inside isMarked
    obtain ⟨c, there, rfl⟩ := List.mem_map.mp stored
    by_contra other
    have different : b ≠ c := fun same => other (congrArg (·.id) same)
    have symmetric : Std.Symm fun a b : Board Call Columns =>
        ¬((a.is_main_dashboard = true ∨ a.id = c.id) ∧ (b.is_main_dashboard = true ∨ b.id = c.id)) :=
      ⟨fun _ _ apart both => apart both.symm⟩
    exact single.forall inside there different ⟨.inl isMarked, .inr rfl⟩
  · intro alone
    have distinct : boards.rows.Pairwise fun a b => a.id ≠ b.id := List.pairwise_map.mp boards.ids
    refine (one.and distinct).imp_of_mem ?_
    rintro a b inside inside' ⟨unmarked, different⟩ ⟨isMarked | isBoard, isMarked' | isBoard'⟩
    · exact unmarked ⟨isMarked, isMarked'⟩
    · exact different ((alone (isBoard' ▸ List.mem_map_of_mem inside') a inside isMarked).trans isBoard'.symm)
    · exact different (isBoard.trans (alone (isBoard ▸ List.mem_map_of_mem inside) b inside' isMarked').symm)
    · exact different (isBoard.trans isBoard'.symm)

section
variable [DecidableEq Call] {w : World Call Db Columns}

theorem kept_at_iff (kept : Kept w) (call : Call) (stage : Stage Call Db Columns) :
    Kept (w.at call stage) ↔ Harmless stage := by
  constructor
  · intro kept'
    simpa [World.at] using kept'.harmless call
  · intro harmless
    refine ⟨kept.one, fun other => ?_⟩
    by_cases same : other = call
    · simpa [World.at, same] using harmless
    · simpa [World.at, same] using kept.harmless other
theorem kept_setBoards_iff [DecidableEq Db] (kept : Kept w) (d : Db) (call : Call) (stage : Stage Call Db Columns)
    (boards : BoardTable Call Columns) :
    Kept ((w.at call stage).setBoards d boards) ↔ AtMostOne boards ∧ Harmless stage := by
  constructor
  · intro kept'
    have one := kept'.one d
    have harmless := kept'.harmless call
    simp only [World.setBoards, World.at, Function.update_self] at one harmless
    exact ⟨one, harmless⟩
  · rintro ⟨one, harmless⟩
    refine ⟨fun other => ?_, ((kept_at_iff kept call stage).mpr harmless).harmless⟩
    by_cases same : other = d
    · simpa [World.setBoards, same] using one
    · simpa [World.setBoards, World.at, same] using kept.one other
theorem unsetMain_kept [DecidableEq Db] (kept : Kept w) (e : Event Call Db) (boardId : String) : Kept (unsetMain w e boardId) := by
  unfold unsetMain
  split
  · exact (kept_at_iff kept ..).mpr trivial
  · exact (kept_setBoards_iff kept ..).mpr ⟨atMostOne_unset _, trivial⟩
theorem readMain_kept (kept : Kept w) (e : Event Call Db) (data : BoardInput Columns) (databaseConfigId : Option Db) :
    Kept (readMain w e data databaseConfigId) := (kept_at_iff kept ..).mpr trivial
theorem readBoard_kept (kept : Kept w) (e : Event Call Db) : Kept (readBoard w e) := by
  unfold readBoard
  split <;> exact (kept_at_iff kept ..).mpr trivial
theorem readWidget_kept (kept : Kept w) (e : Event Call Db) (databaseConfigId : Option Db) :
    Kept (readWidget w e databaseConfigId) := by
  unfold readWidget
  split <;> exact (kept_at_iff kept ..).mpr trivial
theorem widget_kept (kept : Kept w) {w' : World Call Db Columns} (boards : w'.boards = w.boards) {call : Call}
    {stage : Stage Call Db Columns} (stages : w'.stage = Function.update w.stage call stage) (harmless : Harmless stage) :
    Kept w' := by
  have kept' := (kept_at_iff kept call stage).mpr harmless
  exact ⟨fun d => boards ▸ kept.one d, fun other => stages ▸ kept'.harmless other⟩

end

section
variable [Storage]

theorem atMostOne_insert_iff {boards : BoardTable Call Columns} (one : AtMostOne boards) (call : Call) (now : Nat)
    (board : BoardInput Columns) :
    AtMostOne (boards.insert call now board) ↔ (board.isMainDashboard = true → boards.marked = false) := by
  have new : (newBoard call now board boards).is_main_dashboard = board.isMainDashboard := rfl
  unfold AtMostOne BoardTable.insert BoardTable.marked
  rw [List.pairwise_append, List.any_eq_false]
  simp only [List.pairwise_singleton, true_and, List.mem_singleton, forall_eq, new]
  constructor
  · rintro ⟨-, apart⟩ isMarked b inside marked
    exact apart b inside ⟨marked, isMarked⟩
  · intro none
    exact ⟨one, fun b inside both => none both.2 b inside both.1⟩

variable [DecidableEq Call] [DecidableEq Db] {w : World Call Db Columns}

/-! ### The condition of each statement -/

/-- A board is given the mark only where no other has it, by an insertion or by
    `set`, and a `set` that fails or finds no board is not of a call that has
    taken one. -/
def Meets (w : World Call Db Columns) (e : Event Call Db) : Prop :=
  match w.stage e.call with
  | .set boardId unmarked =>
    match addressed e boardId with
    | none => unmarked = false
    | some uuid =>
      if uuid ∈ (w.boards e.current).rows.map (·.id) then
        ∀ b ∈ (w.boards e.current).rows, b.is_main_dashboard = true → b.id = uuid
      else unmarked = false
  | .insertBoard board databaseConfigId =>
    e.failed = false → board.isMainDashboard = true → (w.boards (databaseConfigId.getD e.current)).marked = false
  | _ => True

theorem setMain_kept_iff (kept : Kept w) (e : Event Call Db) {boardId : String} {unmarked : Bool}
    (here : w.stage e.call = .set boardId unmarked) : Kept (setMain w e boardId unmarked) ↔ Meets w e := by
  unfold setMain Meets
  rw [here]
  dsimp only
  cases addressed e boardId with
  | none => exact kept_at_iff kept ..
  | some uuid =>
    dsimp only
    rw [kept_setBoards_iff kept, atMostOne_set_iff (kept.one _)]
    by_cases stored : uuid ∈ (w.boards e.current).rows.map (·.id)
    · have found : (w.boards e.current).rows.any (·.id = uuid) = true := by
        obtain ⟨b, inside, isId⟩ := List.mem_map.mp stored
        exact List.any_eq_true.mpr ⟨b, inside, decide_eq_true isId⟩
      rw [if_pos stored, found]
      exact (and_iff_left trivial).trans (forall_prop_of_true stored)
    · have missing : (w.boards e.current).rows.any (·.id = uuid) = false := by
        rw [List.any_eq_false]
        intro b inside isId
        exact stored (List.mem_map.mpr ⟨b, inside, of_decide_eq_true isId⟩)
      rw [if_neg stored, missing]
      exact and_iff_right fun there => absurd there stored
theorem insertBoard_kept_iff (kept : Kept w) (e : Event Call Db) {board : BoardInput Columns} {databaseConfigId : Option Db}
    (here : w.stage e.call = .insertBoard board databaseConfigId) :
    Kept (insertBoard w e board databaseConfigId) ↔ Meets w e := by
  unfold insertBoard Meets
  rw [here]
  by_cases failed : e.failed
  · rw [if_pos failed, kept_at_iff kept]
    simp [failed, Harmless]
  · rw [if_neg failed, kept_setBoards_iff kept, atMostOne_insert_iff (kept.one _)]
    simp [failed, Harmless]
theorem insertWidget_kept (kept : Kept w) (e : Event Call Db) (widget : WidgetInput Columns) (databaseConfigId : Option Db) :
    Kept (insertWidget w e widget databaseConfigId) := by
  unfold insertWidget
  dsimp only
  split
  · exact (kept_at_iff kept ..).mpr trivial
  · exact widget_kept kept rfl rfl trivial
theorem step_kept_iff (kept : Kept w) (e : Event Call Db) : Kept (step w e) ↔ Meets w e := by
  have always {w' : World Call Db Columns} (kept' : Kept w') (met : Meets w e) : Kept w' ↔ Meets w e := iff_of_true kept' met
  unfold step
  cases here : w.stage e.call with
  | set boardId unmarked => exact setMain_kept_iff kept e here
  | insertBoard board databaseConfigId => exact insertBoard_kept_iff kept e here
  | unset boardId => exact always (unsetMain_kept kept e boardId) (by simp [Meets, here])
  | readMain data databaseConfigId => exact always (readMain_kept kept e data databaseConfigId) (by simp [Meets, here])
  | readBoard => exact always (readBoard_kept kept e) (by simp [Meets, here])
  | insertWidget widget databaseConfigId => exact always (insertWidget_kept kept e widget databaseConfigId) (by simp [Meets, here])
  | readWidget databaseConfigId => exact always (readWidget_kept kept e databaseConfigId) (by simp [Meets, here])
  | ended answer => exact always kept (by simp [Meets, here])

/-- Throughout a run at most one board of each database is marked, and calls that
    come to nothing have taken no mark, exactly if all statements meet their
    conditions. -/
theorem one_main_dashboard_iff (requests : Call → Request Db Columns) (events : List (Event Call Db)) :
    (∀ before, before <+: events → Kept (run step (start requests) before)) ↔
      ∀ before e, before ++ [e] <+: events → Meets (run step (start requests) before) e := by
  have starts : Kept (start requests) := by
    refine ⟨fun d => List.Pairwise.nil, fun call => ?_⟩
    change Harmless (requests call).first
    cases requests call <;> trivial
  exact always_iff starts (fun w e kept => step_kept_iff kept e) events

end

end

/-! ### A board that does not exist -/

attribute [local instance] plainStorage
/-- A main dashboard is created, and then a board that is not there is made the main one. -/
def sampleRequests : Bool → DashboardCalls.Request Unit Unit
  | false => .createBoard ⟨true, ()⟩ none
  | true => .setMainDashboard "ffffffff-ffff-ffff-ffff-ffffffffffff"
def statementOf (call : Bool) : Event Bool Unit := ⟨call, (), 0, false, 0⟩
theorem missing_board_unmarks :
    ¬ ∀ [Storage] (Call Db Columns : Type) [DecidableEq Call] [DecidableEq Db] (requests : Call → DashboardCalls.Request Db Columns)
        (events : List (Event Call Db)), Kept (run step (start requests) events) := by
  intro all
  have kept := @all plainStorage Bool Unit Unit _ _ sampleRequests [statementOf false, statementOf true, statementOf true]
  cases kept.harmless true

end Openlit.MainDashboards
