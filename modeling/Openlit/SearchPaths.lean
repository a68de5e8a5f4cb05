import Openlit.InstrumentCli
import Openlit.Runs

/-!
The search path of an instrumented program (`cli/main.py`,
`cli/bootstrap/sitecustomize.py`). The command puts the directory of the bootstrap
first into `PYTHONPATH`, and an interpreter that finds it there takes it out again
for what it starts itself. Commands and interpreters may start each other in any
order (`search_path_kept`).
-/
namespace Openlit.SearchPaths
open Openlit.InstrumentCli (Environ)
open Openlit.Text Openlit.Runs

/-! ### The variable -/

/-- An absolute path that can be an entry of `PYTHONPATH`. -/
structure Directory where
  path : String
  plain : ':' ∉ path.toList
  nonempty : path ≠ ""
  deriving DecidableEq

def joinPaths (paths : List String) : String := String.ofList ([':'].intercalate (paths.map String.toList))
/-- The entries of `PYTHONPATH`, where an empty path has none. -/
def pythonPath (environ : Environ) : List String :=
  match present (environ "PYTHONPATH") with
  | none => []
  | some path => split path ':'
def setupPythonPath (bootstrap cwd : Directory) (environ : Environ) : Environ :=
  let paths := pythonPath environ
  let paths := if cwd.path ∈ paths then paths else cwd.path :: paths
  Function.update environ "PYTHONPATH" (some (joinPaths (bootstrap.path :: paths.filter (· ≠ bootstrap.path))))
/-- The beginning of `initialize`, which keeps subprocesses from being instrumented. -/
def removeCurrentDir (currentDir : Directory) (environ : Environ) : Environ :=
  match environ "PYTHONPATH" with
  | none => environ
  | some path => Function.update environ "PYTHONPATH" (some (joinPaths ((split path ':').filter (· ≠ currentDir.path))))

/-- A process that is started: the command, in a directory, or an interpreter that it instruments. -/
inductive Started where
  | command (cwd : Directory)
  | python
  deriving DecidableEq
def start (bootstrap : Directory) (environ : Environ) : Started → Environ
  | .command cwd => setupPythonPath bootstrap cwd environ
  | .python => removeCurrentDir bootstrap environ

/-- An entry that is not the bootstrap's, and not empty. -/
def isUsers (bootstrap : Directory) (path : String) : Bool := path ≠ bootstrap.path && path ≠ ""
def userPaths (bootstrap : Directory) (environ : Environ) : List String := (pythonPath environ).filter (isUsers bootstrap)

/-! ### Entries -/

theorem plain_pythonPath (environ : Environ) : ∀ path ∈ pythonPath environ, ':' ∉ path.toList := by
  unfold pythonPath
  split
  · simp
  · exact fun _ => notMem_split
theorem pythonPath_join (environ : Environ) {paths : List String} (plain : ∀ path ∈ paths, ':' ∉ path.toList) :
    pythonPath (Function.update environ "PYTHONPATH" (some (joinPaths paths))) = if paths = [""] then [] else paths := by
  have self : Function.update environ "PYTHONPATH" (some (joinPaths paths)) "PYTHONPATH" = some (joinPaths paths) :=
    Function.update_self ..
  rw [pythonPath, self]
  by_cases nonempty : paths = []
  · subst nonempty
    rfl
  · have back : split (joinPaths paths) ':' = paths := split_joined nonempty plain
    by_cases empty : paths = [""]
    · subst empty
      rfl
    · have written : joinPaths paths ≠ "" := by
        intro none
        rw [none] at back
        exact empty back.symm
      simp [present, Option.filter, written, back, empty]
theorem userPaths_join (bootstrap : Directory) (environ : Environ) {paths : List String} (plain : ∀ path ∈ paths, ':' ∉ path.toList) :
    userPaths bootstrap (Function.update environ "PYTHONPATH" (some (joinPaths paths))) =
      paths.filter (isUsers bootstrap) := by
  rw [userPaths, pythonPath_join environ plain]
  split
  · rename_i empty
    rw [empty]
    simp [isUsers]
  · rfl
theorem filter_isUsers (bootstrap : Directory) (paths : List String) :
    (paths.filter (· ≠ bootstrap.path)).filter (isUsers bootstrap) = paths.filter (isUsers bootstrap) := by
  rw [List.filter_filter]
  refine List.filter_congr fun path _ => ?_
  cases same : decide (path ≠ bootstrap.path) <;> simp_all [isUsers]

/-! ### One start, and any number -/

variable (bootstrap : Directory) (environ : Environ)

theorem plain_setup (cwd : Directory) :
    ∀ path ∈ bootstrap.path :: (if cwd.path ∈ pythonPath environ then pythonPath environ else cwd.path :: pythonPath environ).filter
      (· ≠ bootstrap.path), ':' ∉ path.toList := by
  intro path inside
  rcases List.mem_cons.mp inside with rfl | later
  · exact bootstrap.plain
  · have listed := (List.mem_filter.mp later).1
    split at listed
    · exact plain_pythonPath environ path listed
    · rcases List.mem_cons.mp listed with rfl | listed
      · exact cwd.plain
      · exact plain_pythonPath environ path listed
/-- The command puts its directory before the user's entries, unless it is there. -/
theorem userPaths_command (cwd : Directory) :
    ∃ added, userPaths bootstrap (setupPythonPath bootstrap cwd environ) = added ++ userPaths bootstrap environ ∧
      ∀ path ∈ added, path = cwd.path := by
  have paths := userPaths_join bootstrap environ (plain_setup bootstrap environ cwd)
  rw [List.filter_cons_of_neg (by simp [isUsers]), filter_isUsers] at paths
  rw [setupPythonPath, paths]
  by_cases known : cwd.path ∈ pythonPath environ
  · exact ⟨[], by rw [if_pos known]; rfl, by simp⟩
  · rw [if_neg known]
    cases users : isUsers bootstrap cwd.path with
    | true => exact ⟨[cwd.path], List.filter_cons_of_pos users, by simp⟩
    | false => exact ⟨[], List.filter_cons_of_neg (by simp [users]), by simp⟩
theorem userPaths_python : userPaths bootstrap (removeCurrentDir bootstrap environ) = userPaths bootstrap environ := by
  cases set : environ "PYTHONPATH" with
  | none => rw [removeCurrentDir, set]
  | some path =>
    have plain : ∀ piece ∈ (split path ':').filter (· ≠ bootstrap.path), ':' ∉ piece.toList :=
      fun piece inside => notMem_split (List.mem_filter.mp inside).1
    rw [removeCurrentDir, set]
    simp only
    rw [userPaths_join bootstrap environ plain, filter_isUsers, userPaths, pythonPath, set]
    by_cases empty : path = ""
    · subst empty
      simp [split, present, Option.filter, isUsers]
    · simp [present, Option.filter, empty]
/-- The bootstrap comes first in what the command starts, and is gone in what an interpreter starts. -/
theorem pythonPath_command (cwd : Directory) :
    ∃ rest, pythonPath (setupPythonPath bootstrap cwd environ) = bootstrap.path :: rest ∧ bootstrap.path ∉ rest := by
  rw [setupPythonPath, pythonPath_join environ (plain_setup bootstrap environ cwd), if_neg (by simp [bootstrap.nonempty])]
  exact ⟨_, rfl, by simp⟩
theorem pythonPath_python : bootstrap.path ∉ pythonPath (removeCurrentDir bootstrap environ) := by
  cases set : environ "PYTHONPATH" with
  | none => simp [removeCurrentDir, pythonPath, set, present]
  | some path =>
    have plain : ∀ piece ∈ (split path ':').filter (· ≠ bootstrap.path), ':' ∉ piece.toList :=
      fun piece inside => notMem_split (List.mem_filter.mp inside).1
    rw [removeCurrentDir, set]
    simp only
    rw [pythonPath_join environ plain]
    split <;> simp

/-- In whatever order commands and interpreters start each other: the user's entries stay, behind directories of the commands,
    and the bootstrap is among the entries exactly of what a command has started last. -/
theorem search_path_kept (started : List Started) :
    (∃ added, userPaths bootstrap (run (start bootstrap) environ started) = added ++ userPaths bootstrap environ ∧
      ∀ path ∈ added, ∃ cwd, .command cwd ∈ started ∧ path = cwd.path) ∧
    ∀ last ∈ started.getLast?,
      bootstrap.path ∈ pythonPath (run (start bootstrap) environ started) ↔ ∃ cwd, last = .command cwd := by
  induction started using List.reverseRecOn with
  | nil => exact ⟨⟨[], rfl, by simp⟩, by simp⟩
  | append_singleton started last ih =>
    obtain ⟨⟨added, kept, theirs⟩, -⟩ := ih
    rw [run_concat]
    generalize run (start bootstrap) environ started = reached at kept ⊢
    constructor
    · cases last with
      | command cwd =>
        obtain ⟨more, now, own⟩ := userPaths_command bootstrap reached cwd
        refine ⟨more ++ added, by rw [start, now, kept, List.append_assoc], fun path inside => ?_⟩
        rcases List.mem_append.mp inside with new | old
        · exact ⟨cwd, by simp, own path new⟩
        · obtain ⟨earlier, listed, same⟩ := theirs path old
          exact ⟨earlier, List.mem_append_left _ listed, same⟩
      | python =>
        refine ⟨added, by rw [start, userPaths_python, kept], fun path inside => ?_⟩
        obtain ⟨earlier, listed, same⟩ := theirs path inside
        exact ⟨earlier, List.mem_append_left _ listed, same⟩
    · intro final isLast
      obtain rfl : last = final := by simpa using isLast
      cases last with
      | command cwd =>
        obtain ⟨rest, paths, -⟩ := pythonPath_command bootstrap reached cwd
        rw [start, paths]
        simp
      | python =>
        have gone := pythonPath_python bootstrap reached
        rw [start]
        simp [gone]

end Openlit.SearchPaths
