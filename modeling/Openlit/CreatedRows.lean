import Mathlib.Data.Finset.Max
import Openlit.DashboardCalls
import Openlit.RuleLinkSync

/-!
What `createBoard` and `createWidget` answer with: not the row that they have
inserted but a newest row of the table, which `createBoard` reads in the user's
current database, whatever database it has inserted into. Creation times are
whole seconds. Whichever newest row each read of a run takes, all answers are the
calls' own rows exactly if every read finds its own row later than all others
(`created_rows_iff`).
-/
namespace Openlit.CreatedRows
open Openlit.DashboardCalls Openlit.Runs
open Openlit.RuleLinks (Storage)
open Openlit.RuleLinkSync (plainStorage)
open Openlit.RuleLinks.Storage

/-! ### Newest rows -/

section
variable {Row : Type} {created_at : Row → Nat} {rows : List Row}

theorem mem_newest {row : Row} : row ∈ newest created_at rows ↔ row ∈ rows ∧ ∀ other ∈ rows, created_at other ≤ created_at row := by
  simp [newest]
theorem newest_nonempty (created_at : Row → Nat) (nonempty : rows ≠ []) : newest created_at rows ≠ [] := by
  have some : (rows : Multiset Row) ≠ 0 := fun none => nonempty (Multiset.coe_eq_zero rows |>.mp none)
  obtain ⟨top, inside, above⟩ := Multiset.exists_max_image created_at some
  exact List.ne_nil_of_mem (mem_newest.mpr ⟨inside, above⟩)
theorem latest_mem {pick : Nat} {row : Row} (found : latest created_at pick rows = some row) : row ∈ newest created_at rows := by
  rcases Option.or_eq_some_iff.mp found with picked | ⟨-, first⟩
  · exact List.mem_of_getElem? picked
  · exact List.mem_of_head? first
theorem exists_latest {row : Row} (inside : row ∈ newest created_at rows) : ∃ pick, latest created_at pick rows = some row := by
  obtain ⟨pick, found⟩ := List.mem_iff_getElem?.mp inside
  exact ⟨pick, Option.or_eq_some_iff.mpr (.inl found)⟩
theorem latest_eq_none {pick : Nat} (missing : latest created_at pick rows = none) : rows = [] := by
  by_contra nonempty
  exact newest_nonempty created_at nonempty (List.head?_eq_none_iff.mp (Option.or_eq_none_iff.mp missing).2)

/-- A row of the call that is later than all rows of others. -/
def OwnLatest {Call : Type} (created_at : Row → Nat) (origin : Row → Call) (call : Call) (rows : List Row) : Prop :=
  ∃ own ∈ rows, origin own = call ∧ ∀ other ∈ rows, origin other ≠ call → created_at other < created_at own

variable {Call : Type} {origin : Row → Call} {call : Call}

theorem newest_own (latest : OwnLatest created_at origin call rows) {row : Row} (inside : row ∈ newest created_at rows) :
    origin row = call := by
  obtain ⟨own, there, -, earlier⟩ := latest
  obtain ⟨stored, above⟩ := mem_newest.mp inside
  by_contra other
  exact absurd (earlier row stored other) (Nat.not_lt.mpr (above own there))
theorem ownLatest_of_newest (nonempty : rows ≠ []) (own : ∀ row ∈ newest created_at rows, origin row = call) :
    OwnLatest created_at origin call rows := by
  obtain ⟨top, isTop⟩ := List.exists_mem_of_ne_nil _ (newest_nonempty created_at nonempty)
  obtain ⟨inside, above⟩ := mem_newest.mp isTop
  refine ⟨top, inside, own top isTop, fun other there notOwn => ?_⟩
  by_contra notEarlier
  have same : created_at top ≤ created_at other := Nat.le_of_not_lt notEarlier
  exact notOwn (own other (mem_newest.mpr ⟨there, fun row stored => (above row stored).trans same⟩))

/-- Whichever newest row is taken, there is one and it is the call's own. -/
theorem board_own_iff : (∀ pick, ∃ row, latest created_at pick rows = some row ∧ origin row = call) ↔
    OwnLatest created_at origin call rows := by
  constructor
  · intro all
    have nonempty : rows ≠ [] := by
      rintro rfl
      obtain ⟨_, found, -⟩ := all 0
      cases found
    refine ownLatest_of_newest nonempty fun row isNewest => ?_
    obtain ⟨pick, found⟩ := exists_latest isNewest
    obtain ⟨row', found', own⟩ := all pick
    exact (Option.some.inj (found.symm.trans found')).symm ▸ own
  · intro own pick
    cases found : latest created_at pick rows with
    | none =>
      obtain ⟨_, inside, -⟩ := own
      rw [latest_eq_none found] at inside
      cases inside
    | some row => exact ⟨row, rfl, newest_own own (latest_mem found)⟩
/-- Where rows are taken at all, they are the call's own. -/
theorem widget_own_iff : (∀ pick row, latest created_at pick rows = some row → origin row = call) ↔
    rows = [] ∨ OwnLatest created_at origin call rows := by
  constructor
  · intro all
    by_cases empty : rows = []
    · exact .inl empty
    · refine .inr (ownLatest_of_newest empty fun row isNewest => ?_)
      obtain ⟨pick, found⟩ := exists_latest isNewest
      exact all pick row found
  · rintro (rfl | own) pick row found
    · cases found
    · exact newest_own own (latest_mem found)

end

/-! ### The rows of a call -/

section
variable {Call Db Columns : Type}

/-- Each call is listed once at most, in all databases together. -/
structure Once (origins : Db → List Call) : Prop where
  distinct : ∀ d, (origins d).Nodup
  apart : ∀ {d other call}, call ∈ origins d → call ∈ origins other → d = other

theorem Once.insert [DecidableEq Db] {origins : Db → List Call} (once : Once origins) {call : Call}
    (new : ∀ d, call ∉ origins d) (d : Db) :
    Once (Function.update origins d (origins d ++ [call])) where
  distinct other := by
    by_cases same : other = d
    · subst same
      rw [Function.update_self, List.nodup_append]
      refine ⟨once.distinct other, List.nodup_singleton call, ?_⟩
      intro a old b added equal
      rw [List.mem_singleton] at added
      exact new other (added ▸ equal ▸ old)
    · rw [Function.update_of_ne same]
      exact once.distinct other
  apart {a b c} first second := by
    by_cases here : a = d <;> by_cases there : b = d
    · exact here.trans there.symm
    · rw [here, Function.update_self, List.mem_append, List.mem_singleton] at first
      rw [Function.update_of_ne there] at second
      rcases first with old | rfl
      · exact here.trans (once.apart old second)
      · exact absurd second (new b)
    · rw [there, Function.update_self, List.mem_append, List.mem_singleton] at second
      rw [Function.update_of_ne here] at first
      rcases second with old | rfl
      · exact (once.apart first old).trans there.symm
      · exact absurd first (new a)
    · rw [Function.update_of_ne here] at first
      rw [Function.update_of_ne there] at second
      exact once.apart first second

theorem notMem_update [DecidableEq Db] {origins : Db → List Call} {call other : Call} (different : other ≠ call)
    (absent : ∀ d, other ∉ origins d) (d d' : Db) : other ∉ Function.update origins d (origins d ++ [call]) d' := by
  by_cases same : d' = d
  · subst same
    simp [absent, different]
  · simp [same, absent]

def boardOrigins (w : World Call Db Columns) (d : Db) : List Call := (w.boards d).rows.map (·.origin)
def widgetOrigins (w : World Call Db Columns) (d : Db) : List Call := (w.widgets d).map (·.origin)
/-- The call has not inserted yet. -/
def Before : Stage Call Db Columns → Prop
  | .readBoard | .readWidget _ | .ended _ => False
  | _ => True
structure Traced (w : World Call Db Columns) : Prop where
  boards : Once (boardOrigins w)
  widgets : Once (widgetOrigins w)
  new : ∀ {call}, Before (w.stage call) → ∀ d, call ∉ boardOrigins w d ∧ call ∉ widgetOrigins w d

section
variable {w w' : World Call Db Columns}

/-- A statement that inserts nothing. -/
theorem Traced.same (traced : Traced w) (boards : boardOrigins w' = boardOrigins w) (widgets : widgetOrigins w' = widgetOrigins w)
    (stages : ∀ call, Before (w'.stage call) → Before (w.stage call)) : Traced w' where
  boards := boards ▸ traced.boards
  widgets := widgets ▸ traced.widgets
  new before := boards ▸ widgets ▸ traced.new (stages _ before)
theorem Traced.setBoards [DecidableEq Db] (traced : Traced w) (d : Db) {boards : BoardTable Call Columns}
    (same : boards.rows.map (·.origin) = (w.boards d).rows.map (·.origin)) : Traced (w.setBoards d boards) := by
  refine traced.same ?_ rfl fun _ => id
  funext other
  by_cases here : other = d
  · subst here
    simpa [boardOrigins, World.setBoards] using same
  · simp [boardOrigins, World.setBoards, here]
theorem unsetQuery_origins (boards : BoardTable Call Columns) :
    (unsetQuery boards).rows.map (·.origin) = boards.rows.map (·.origin) := by
  simp [unsetQuery, unsetRow, Function.comp_def]
theorem setRow_origin (uuid : String) (b : Board Call Columns) : (setRow uuid b).origin = b.origin := by
  by_cases same : b.id = uuid <;> simp [setRow, same]
theorem setQuery_origins (uuid : String) (boards : BoardTable Call Columns) :
    (setQuery uuid boards).rows.map (·.origin) = boards.rows.map (·.origin) := by
  simp [setQuery, setRow_origin, Function.comp_def]

variable [DecidableEq Call]

theorem Traced.at (traced : Traced w) {call : Call} {stage : Stage Call Db Columns} (before : Before stage → Before (w.stage call)) :
    Traced (w.at call stage) := by
  refine traced.same rfl rfl fun other => ?_
  by_cases same : other = call
  · subst same
    simpa [World.at] using before
  · simp [World.at, same]
theorem not_before_of_at {call other : Call} {stage : Stage Call Db Columns} (inserted : ¬Before stage)
    (before : Before ((w.at call stage).stage other)) : other ≠ call ∧ Before (w.stage other) := by
  by_cases same : other = call
  · subst same
    simp only [World.at, Function.update_self] at before
    exact absurd before inserted
  · simp only [World.at, Function.update_of_ne same] at before
    exact ⟨same, before⟩
variable [DecidableEq Db]

theorem Traced.insertWidget (traced : Traced w) {call : Call} (before : Before (w.stage call)) (d : Db) {cfg : Option Db}
    {row : Widget Call Columns} (mine : row.origin = call) :
    Traced ((w.at call (.readWidget cfg)).setWidgets d (w.widgets d ++ [row])) := by
  have origins : widgetOrigins ((w.at call (.readWidget cfg)).setWidgets d (w.widgets d ++ [row])) =
      Function.update (widgetOrigins w) d (widgetOrigins w d ++ [call]) := by
    funext other
    by_cases same : other = d
    · subst same
      simp [widgetOrigins, World.setWidgets, mine]
    · simp [widgetOrigins, World.setWidgets, World.at, same]
  refine ⟨traced.boards, ?_, fun {other} later d' => ?_⟩
  · rw [origins]
    exact traced.widgets.insert (fun d => (traced.new before d).2) d
  · obtain ⟨different, earlier⟩ := not_before_of_at id later
    rw [origins]
    exact ⟨(traced.new earlier d').1, notMem_update different (fun d => (traced.new earlier d).2) d d'⟩

variable [Storage]

theorem Traced.insertBoard (traced : Traced w) {call : Call} (before : Before (w.stage call)) (d : Db) (now : Nat)
    (board : BoardInput Columns) : Traced ((w.at call .readBoard).setBoards d ((w.boards d).insert call now board)) := by
  have origins : boardOrigins ((w.at call .readBoard).setBoards d ((w.boards d).insert call now board)) =
      Function.update (boardOrigins w) d (boardOrigins w d ++ [call]) := by
    funext other
    by_cases same : other = d
    · subst same
      simp [boardOrigins, World.setBoards, BoardTable.insert, newBoard]
    · simp [boardOrigins, World.setBoards, World.at, same]
  refine ⟨?_, traced.widgets, fun {other} later d' => ?_⟩
  · rw [origins]
    exact traced.boards.insert (fun d => (traced.new before d).1) d
  · obtain ⟨different, earlier⟩ := not_before_of_at id later
    rw [origins]
    exact ⟨notMem_update different (fun d => (traced.new earlier d).1) d d', (traced.new earlier d').2⟩
theorem step_traced (w : World Call Db Columns) (e : Event Call Db) (traced : Traced w) : Traced (step w e) := by
  unfold step
  split
  · rename_i boardId here
    unfold unsetMain
    have before {unmarked : Bool} (_ : Before (.set boardId unmarked : Stage Call Db Columns)) : Before (w.stage e.call) :=
      here ▸ trivial
    split
    · exact traced.at before
    · exact (traced.at before).setBoards e.current (unsetQuery_origins (w.boards e.current))
  · unfold setMain
    split
    · exact traced.at False.elim
    · rename_i uuid _
      exact (traced.at False.elim).setBoards e.current (setQuery_origins uuid (w.boards e.current))
  · rename_i here
    exact traced.at fun _ => here ▸ trivial
  · rename_i here
    unfold DashboardCalls.insertBoard
    split
    · exact traced.at False.elim
    · exact traced.insertBoard (here ▸ trivial) _ _ _
  · unfold readBoard
    split <;> exact traced.at False.elim
  · rename_i here
    unfold DashboardCalls.insertWidget
    dsimp only
    split
    · exact traced.at False.elim
    · rename_i row created
      refine traced.insertWidget (here ▸ trivial) _ ?_
      split at created
      · cases created
      · obtain ⟨id, -, rfl⟩ := Option.map_eq_some_iff.mp created
        rfl
  · unfold readWidget
    split <;> exact traced.at False.elim
  · exact traced
/-- The rows of a call: one board at most and one widget at most, in all databases together. -/
theorem inserted_once (requests : Call → DashboardCalls.Request Db Columns) (events : List (Event Call Db)) :
    Once (boardOrigins (run step (start requests) events)) ∧ Once (widgetOrigins (run step (start requests) events)) := by
  have none : Once fun _ : Db => ([] : List Call) := ⟨fun _ => List.nodup_nil, fun inside => by cases inside⟩
  have starts : Traced (start requests) := ⟨none, none, fun _ _ => ⟨List.not_mem_nil, List.not_mem_nil⟩⟩
  have traced := run_keeps starts step_traced events
  exact ⟨traced.boards, traced.widgets⟩

end

end

/-! ### The answers -/

section
variable {Call Db Columns : Type}

/-- A call that has answered with a row has answered with the one that it has inserted. -/
def Own (call : Call) : Stage Call Db Columns → Prop
  | .ended (.board row) => ∃ b, row = some b ∧ b.origin = call
  | .ended (.widget row) => row.origin = call
  | _ => True
def Right (w : World Call Db Columns) : Prop := ∀ call, Own call (w.stage call)

/-- A read meets a table where the row of its call is later than all others. It
    is that of the user's current database for a board; for a widget, whose
    table may also be empty, it is that of its config if it has one. -/
def Meets (w : World Call Db Columns) (e : Event Call Db) : Prop :=
  match w.stage e.call with
  | .readBoard => e.failed = false → OwnLatest (·.created_at) (·.origin) e.call (w.boards e.current).rows
  | .readWidget databaseConfigId =>
    e.failed = false →
      w.widgets (databaseConfigId.getD e.current) = [] ∨
        OwnLatest (·.created_at) (·.origin) e.call (w.widgets (databaseConfigId.getD e.current))
  | _ => True

section
variable [DecidableEq Call] {w : World Call Db Columns}

theorem right_at_iff (right : Right w) (call : Call) (stage : Stage Call Db Columns) :
    Right (w.at call stage) ↔ Own call stage := by
  constructor
  · intro right'
    simpa [World.at] using right' call
  · intro own other
    by_cases same : other = call
    · simpa [World.at, same] using own
    · simpa [World.at, same] using right other
theorem right_at (right : Right w) (call : Call) {stage : Stage Call Db Columns} (own : Own call stage) :
    Right (w.at call stage) := (right_at_iff right call stage).mpr own
theorem readBoard_right_iff (right : Right w) (e : Event Call Db) :
    (∀ pick, Right (readBoard w { e with pick })) ↔
      (e.failed = false → OwnLatest (·.created_at) (·.origin) e.call (w.boards e.current).rows) := by
  unfold readBoard
  by_cases failed : e.failed
  · simp only [failed, if_true]
    exact iff_of_true (fun pick => right_at right e.call trivial) fun succeeded => by cases succeeded
  · simp only [failed, Bool.false_eq_true, if_false, forall_const]
    rw [← board_own_iff]
    exact forall_congr' fun pick => right_at_iff right e.call _
theorem readWidget_right_iff (right : Right w) (e : Event Call Db) (databaseConfigId : Option Db) :
    (∀ pick, Right (readWidget w { e with pick } databaseConfigId)) ↔
      (e.failed = false → w.widgets (databaseConfigId.getD e.current) = [] ∨
        OwnLatest (·.created_at) (·.origin) e.call (w.widgets (databaseConfigId.getD e.current))) := by
  unfold readWidget
  by_cases failed : e.failed
  · simp only [failed, if_true]
    exact iff_of_true (fun pick => right_at right e.call trivial) fun succeeded => by cases succeeded
  · simp only [failed, Bool.false_eq_true, if_false, forall_const]
    rw [← widget_own_iff]
    refine forall_congr' fun pick => ?_
    cases latest (·.created_at) pick (w.widgets (databaseConfigId.getD e.current)) with
    | none => exact iff_of_true (right_at right e.call trivial) fun row found => by cases found
    | some row =>
      refine (right_at_iff right e.call _).trans ⟨?_, fun own => own row rfl⟩
      rintro own _ ⟨⟩
      exact own

variable [DecidableEq Db]

theorem unsetMain_right (right : Right w) (e : Event Call Db) (boardId : String) : Right (unsetMain w e boardId) := by
  unfold unsetMain
  split <;> exact right_at right e.call trivial

variable [Storage]

theorem setMain_right (right : Right w) (e : Event Call Db) (boardId : String) (unmarked : Bool) :
    Right (setMain w e boardId unmarked) := by
  unfold setMain
  split <;> exact right_at right e.call trivial
theorem insertBoard_right (right : Right w) (e : Event Call Db) (board : BoardInput Columns) (databaseConfigId : Option Db) :
    Right (insertBoard w e board databaseConfigId) := by
  unfold insertBoard
  split <;> exact right_at right e.call trivial
theorem insertWidget_right (right : Right w) (e : Event Call Db) (widget : WidgetInput Columns) (databaseConfigId : Option Db) :
    Right (insertWidget w e widget databaseConfigId) := by
  unfold insertWidget
  dsimp only
  split <;> exact right_at right e.call trivial
theorem step_right_iff (right : Right w) (e : Event Call Db) : (∀ pick, Right (step w { e with pick })) ↔ Meets w e := by
  have always {p : Nat → Prop} (right' : ∀ pick, p pick) : (∀ pick, p pick) ↔ True := iff_of_true right' trivial
  unfold step Meets
  dsimp only
  cases w.stage e.call with
  | readBoard => exact readBoard_right_iff right e
  | readWidget databaseConfigId => exact readWidget_right_iff right e databaseConfigId
  | unset boardId => exact always fun _ => unsetMain_right right _ boardId
  | set boardId unmarked => exact always fun _ => setMain_right right _ boardId unmarked
  | readMain data databaseConfigId => exact always fun _ => right_at right e.call trivial
  | insertBoard board databaseConfigId => exact always fun _ => insertBoard_right right _ board databaseConfigId
  | insertWidget widget databaseConfigId => exact always fun _ => insertWidget_right right _ widget databaseConfigId
  | ended answer => exact always fun _ => right

/-- In a run, whichever newest row each read takes, every call that answers with a
    row answers with its own, exactly if every read meets its condition. -/
theorem created_rows_iff (requests : Call → DashboardCalls.Request Db Columns) (events : List (Event Call Db)) :
    (∀ before e, before ++ [e] <+: events → ∀ pick, Right (step (run step (start requests) before) { e with pick })) ↔
      ∀ before e, before ++ [e] <+: events → Meets (run step (start requests) before) e := by
  have starts : Right (start requests) := by
    intro call
    change Own call (requests call).first
    cases requests call <;> trivial
  exact each_good_iff starts (fun w e _ good => good e.pick) (fun w e right => step_right_iff right e) events

end

end

/-! ### A board in another database -/

attribute [local instance] plainStorage
/-- A board is created in a database that is not the user's current one, where there is none yet. -/
def elsewhere : Unit → DashboardCalls.Request Bool Unit := fun _ => .createBoard ⟨false, ()⟩ (some true)
theorem created_elsewhere :
    ¬ ∀ [Storage] (Call Db Columns : Type) [DecidableEq Call] [DecidableEq Db] (requests : Call → DashboardCalls.Request Db Columns)
        (events : List (Event Call Db)), Right (run step (start requests) events) := by
  intro all
  have right := @all plainStorage Unit Bool Unit _ _ elsewhere [⟨(), false, 0, false, 0⟩, ⟨(), false, 0, false, 0⟩]
  obtain ⟨_, answered, -⟩ := right ()
  cases answered

end Openlit.CreatedRows
