import Mathlib.Data.List.Forall2
import Openlit.DoubleQuotes
import Openlit.FileLines
import Openlit.Text

/-!
The jobs of the server in its user's crontab (`helpers/server/cron.ts`). They
stand in a section between two markers, and an edit passes the whole file
through the shell. An edit keeps every other line as long as the shell leaves
the lines as they are, the section is found, and a new section needs no
trimming of the file (`Orderly`).
-/
namespace Openlit.Crontabs
open Openlit.DoubleQuotes Openlit.FileLines Openlit.Text

/-! ### The file -/

structure Job where
  cronId : List Char
  cronSchedule : List Char
  cronEnvVars : List (List Char × List Char)
  cronScriptPath : List Char
  cronLogPath : List Char
  deriving DecidableEq

/-- `cron-validator`. -/
class CronValidator where
  isValidCron : List Char → Bool

def startMarker : Line := "# Do not modify this section it is being used by OpenLIT ::: Start".toList
def endMarker : Line := "# Do not modify this section it is being used by OpenLIT ::: End".toList

/-- The lines of the markers, where there are both and in order. -/
def markers (ls : List Line) : Option (Nat × Nat) :=
  match ls.idxOf? startMarker, ls.idxOf? endMarker with
  | some startIdx, some endIdx => if startIdx < endIdx then some (startIdx, endIdx) else none
  | _, _ => none
/-- `line.includes(..)`. -/
def mentions (cronId : List Char) (line : Line) : Bool := decide ("CRON_ID=".toList ++ cronId <:+: line)
/-- `currentCrontab.trim()`. -/
def trimmed (text : List Char) : List Char := (text.dropWhile isJsSpace).rdropWhile isJsSpace

/-- The line of a job, by the path of the interpreter. -/
def entry (node : List Char) (job : Job) : Line :=
  job.cronSchedule ++ " ".toList ++ "CRON_ID=".toList ++ job.cronId ++ " ".toList ++
    " ".toList.intercalate (job.cronEnvVars.map fun var => var.1 ++ "=".toList ++ var.2) ++ " ".toList ++ node ++ " ".toList ++
    job.cronScriptPath ++ " >> ".toList ++ job.cronLogPath ++ " 2>&1".toList
def newEntry (job : Job) : Line := entry "$(which node)".toList job

section
variable [Shell]

/-- The line of a job as it is installed. -/
def installed (job : Job) : Line := entry (Shell.command "which node".toList) job
/-- The crontab once a new one is echoed into it; a command that fails leaves it as it is. -/
def install (crontab newCrontab : List Char) : List Char := (echo newCrontab).getD crontab

def updateCrontab [CronValidator] (crontab : List Char) (job : Job) : List Char :=
  if CronValidator.isValidCron job.cronSchedule = false then crontab
  else
    let ls := lines crontab
    match markers ls with
    | none => install crontab (joined ([trimmed crontab, startMarker, newEntry job, endMarker].filter (· ≠ [])))
    | some (startIdx, endIdx) =>
      let managedSection := ((ls.take endIdx).drop (startIdx + 1)).filter fun line => !mentions job.cronId line
      install crontab (joined (ls.take (startIdx + 1) ++ (managedSection ++ [newEntry job]) ++ ls.drop endIdx))
def deleteCronJob (crontab : List Char) (cronId : List Char) : List Char :=
  let ls := lines crontab
  match markers ls with
  | none => crontab
  | some (startIdx, endIdx) =>
    let updatedSection := ((ls.take endIdx).drop (startIdx + 1)).filter fun line => !mentions cronId line
    install crontab (joined (ls.take (startIdx + 1) ++ updatedSection ++ ls.drop endIdx))

end

inductive Call
  | update (job : Job)
  | delete (cronId : List Char)

def call [Shell] [CronValidator] (crontab : List Char) : Call → List Char
  | .update job => updateCrontab crontab job
  | .delete cronId => deleteCronJob crontab cronId

/-! ### What a crontab should have -/

/-- The lines of a section that were there, and the jobs, the one that was updated last at the end. -/
structure Section where
  kept : List Line := []
  live : List Job := []
/-- The lines before and after the section, which stay as they are. -/
structure Spec where
  before : List Line
  managed : Option Section
  after : List Line

/-- The section without a job. -/
def Section.without (s : Section) (cronId : List Char) : Section where
  kept := s.kept.filter fun line => !mentions cronId line
  live := s.live.filter fun job => job.cronId ≠ cronId
/-- A crontab as it is found. -/
def Spec.initial (crontab : List Char) : Spec :=
  let ls := fileLines crontab
  match markers ls with
  | none => { before := ls, managed := none, after := [] }
  | some (startIdx, endIdx) =>
    { before := ls.take startIdx
      managed := some { kept := (ls.take endIdx).drop (startIdx + 1) }
      after := ls.drop (endIdx + 1) }
def Spec.call [CronValidator] (spec : Spec) : Call → Spec
  | .update job =>
    if CronValidator.isValidCron job.cronSchedule = false then spec
    else
      let others := (spec.managed.getD {}).without job.cronId
      { spec with managed := some { others with live := others.live ++ [job] } }
  | .delete cronId => { spec with managed := spec.managed.map (·.without cronId) }

section
variable [Shell]

def Section.lines (s : Section) : List Line := s.kept ++ s.live.map installed
def Spec.lines (spec : Spec) : List Line :=
  match spec.managed with
  | none => spec.before ++ spec.after
  | some s => spec.before ++ startMarker :: s.lines ++ endMarker :: spec.after
/-- A crontab has the lines that it should have, and each job is there once. Every edit of a section adds an empty line
    at the end. -/
structure Represents (crontab : List Char) (spec : Spec) : Prop where
  lines : ∃ blanks, fileLines crontab = spec.lines ++ List.replicate blanks []
  once : ∀ s, spec.managed = some s → (s.live.map (·.cronId)).Nodup

/-! ### Calls that go well -/

/-- A section is found, no line that stays is taken for one of the job, and the shell leaves these lines as they are. -/
structure Editable (spec : Spec) (s : Section) (cronId : List Char) : Prop where
  found : endMarker ∉ spec.before
  unmentioned : ∀ line ∈ spec.before.dropWhile (· ≠ startMarker), mentions cronId line = false
  others : ∀ job ∈ s.live, job.cronId ≠ cronId → mentions cronId (installed job) = false
  unchanged : ∀ line ∈ spec.before ++ (s.without cronId).lines ++ spec.after, expand line = some line
/-- A call that goes well. -/
def Orderly [CronValidator] (crontab : List Char) (spec : Spec) : Call → Prop
  | .update job => CronValidator.isValidCron job.cronSchedule = true →
      (expand (newEntry job) = some (installed job) ∧ '\n' ∉ installed job) ∧
        match spec.managed with
        | none => fileLines (trimmed crontab) = fileLines crontab ∧ ∀ line ∈ spec.before, expand line = some line
        | some s => Editable spec s job.cronId
  | .delete cronId =>
      match spec.managed with
      | none => True
      | some s => Editable spec s cronId ∨ (endMarker ∈ spec.before ∧ ∀ line ∈ s.lines, mentions cronId line = false)

end

/-! ### Sections -/

/-- The markers have no character that is special to the shell, ends a line, or occurs in an entry only. -/
theorem marker_chars : (∀ c ∈ startMarker ++ endMarker, c ∉ special ∧ c ≠ '\n' ∧ c ≠ '=') ∧
    startMarker.length = 66 ∧ endMarker.length = 64 := by
  have chars : (startMarker ++ endMarker).all (fun c => !special.contains c && c != '\n' && c != '=') = true := by decide +kernel
  refine ⟨?_, by decide +kernel, by decide +kernel⟩
  intro c member
  have signs := List.all_eq_true.mp chars c member
  simpa [and_assoc] using signs
theorem marker_ne_nil : startMarker ≠ [] ∧ endMarker ≠ [] := by
  have starts := marker_chars.2.1
  have ends := marker_chars.2.2
  exact ⟨List.ne_nil_of_length_pos (by omega), List.ne_nil_of_length_pos (by omega)⟩
theorem markers_differ : startMarker ≠ endMarker := by
  intro same
  have lengths := congrArg List.length same
  have starts := marker_chars.2.1
  have ends := marker_chars.2.2
  omega
theorem idxOf?_append {α : Type} [BEq α] (a : α) (front back : List α) :
    (front ++ back).idxOf? a = (front.idxOf? a).or ((back.idxOf? a).map (· + front.length)) := by
  simp [List.idxOf?, List.findIdx?_append]
theorem idxOf?_first {α : Type} [BEq α] [LawfulBEq α] {a : α} {front : List α} (absent : a ∉ front) (back : List α) :
    (front ++ a :: back).idxOf? a = some front.length := by
  rw [idxOf?_append, List.idxOf?_eq_none_iff.mpr absent, List.idxOf?_cons]
  simp
theorem markers_blank (ls : List Line) : markers (ls ++ [[]]) = markers ls := by
  have same (marker : Line) (nonempty : marker ≠ []) : (ls ++ [[]]).idxOf? marker = ls.idxOf? marker := by
    rw [idxOf?_append]
    simp [nonempty]
  rw [markers, markers, same startMarker marker_ne_nil.1, same endMarker marker_ne_nil.2]
theorem markers_lines (crontab : List Char) : markers (lines crontab) = markers (fileLines crontab) := by
  rcases lines_eq crontab with ended | same
  · rw [ended, markers_blank]
  · rw [same]

/-- What the markers enclose. -/
theorem markers_some {ls : List Line} {startIdx endIdx : Nat} (found : markers ls = some (startIdx, endIdx)) :
    ls = ls.take startIdx ++ startMarker :: (ls.take endIdx).drop (startIdx + 1) ++ endMarker :: ls.drop (endIdx + 1) ∧
      startMarker ∉ ls.take startIdx ∧ endMarker ∉ ls.take endIdx := by
  rw [markers] at found
  cases begins : ls.idxOf? startMarker with
  | none => simp [begins] at found
  | some i =>
    cases ends : ls.idxOf? endMarker with
    | none => simp [begins, ends] at found
    | some j =>
      by_cases ordered : i < j
      · simp only [begins, ends, if_pos ordered, Option.some.injEq, Prod.mk.injEq] at found
        obtain ⟨rfl, rfl⟩ := found
        obtain ⟨beginsIn, isStart, noStart⟩ := List.idxOf?_eq_some_iff.mp begins
        obtain ⟨endsIn, isEnd, noEnd⟩ := List.idxOf?_eq_some_iff.mp ends
        refine ⟨?_, ?_, ?_⟩
        · have front : ls.take j = ls.take i ++ startMarker :: (ls.take j).drop (i + 1) := by
            have inside : i < (ls.take j).length := by simp; omega
            calc ls.take j = (ls.take j).take i ++ (ls.take j).drop i := (List.take_append_drop i _).symm
              _ = ls.take i ++ startMarker :: (ls.take j).drop (i + 1) := by
                rw [List.take_take, Nat.min_eq_left (Nat.le_of_lt ordered), List.drop_eq_getElem_cons inside, List.getElem_take, isStart]
          calc ls = ls.take j ++ ls.drop j := (List.take_append_drop j ls).symm
            _ = ls.take i ++ startMarker :: (ls.take j).drop (i + 1) ++ endMarker :: ls.drop (j + 1) := by
              rw [List.drop_eq_getElem_cons endsIn, isEnd, ← front]
        · intro member
          obtain ⟨k, bound, same⟩ := List.mem_iff_getElem.mp member
          rw [List.getElem_take] at same
          exact noStart k (by simp at bound; omega) same
        · intro member
          obtain ⟨k, bound, same⟩ := List.mem_iff_getElem.mp member
          rw [List.getElem_take] at same
          exact noEnd k (by simp at bound; omega) same
      · simp [begins, ends, ordered] at found

/-- An end marker that stands alone before the section hides it. -/
theorem markers_hidden {before : List Line} (apart : markers before = none) (hidden : endMarker ∈ before) (more : List Line) :
    markers (before ++ more) = none := by
  obtain ⟨j, ends⟩ := Option.isSome_iff_exists.mp (List.isSome_idxOf?.mpr hidden)
  obtain ⟨bound, -⟩ := List.idxOf?_eq_some_iff.mp ends
  rw [markers, idxOf?_append, idxOf?_append, ends]
  cases begins : before.idxOf? startMarker with
  | none =>
    cases later : more.idxOf? startMarker with
    | none => simp
    | some i => simp; omega
  | some i =>
    rw [markers, begins, ends] at apart
    simpa using apart

/-- The lines from the first marker to the section begin with a marker. -/
theorem section_begins (before managed : List Line) :
    ∃ rest, before.dropWhile (· ≠ startMarker) ++ startMarker :: managed = startMarker :: rest := by
  induction before with
  | nil => exact ⟨managed, rfl⟩
  | cons line before ih =>
    by_cases isStart : line = startMarker
    · exact ⟨before ++ startMarker :: managed, by simp [isStart]⟩
    · simpa [isStart] using ih
/-- A section that is found is edited where it is, whatever precedes it. -/
theorem section_edited {before managed after : List Line} (found : endMarker ∉ before) (ended : endMarker ∉ managed)
    {stays : Line → Bool} (marker : stays startMarker = true)
    (outside : ∀ line ∈ before.dropWhile (· ≠ startMarker), stays line = true) :
    ∃ startIdx endIdx, markers (before ++ startMarker :: managed ++ endMarker :: after) = some (startIdx, endIdx) ∧
      (before ++ startMarker :: managed ++ endMarker :: after).drop endIdx = endMarker :: after ∧
      (before ++ startMarker :: managed ++ endMarker :: after).take (startIdx + 1) ++
          (((before ++ startMarker :: managed ++ endMarker :: after).take endIdx).drop (startIdx + 1)).filter stays =
        before ++ startMarker :: managed.filter stays := by
  let front := before.takeWhile (· ≠ startMarker)
  let back := before.dropWhile (· ≠ startMarker)
  have parts : before = front ++ back := (List.takeWhile_append_dropWhile).symm
  have absent : startMarker ∉ front := by
    intro member
    simpa using List.mem_takeWhile_imp member
  obtain ⟨rest, shape⟩ := section_begins before managed
  have enclosed : before ++ startMarker :: managed = front ++ startMarker :: rest := by
    rw [parts, List.append_assoc, shape]
  have unended : endMarker ∉ before ++ startMarker :: managed := by
    simp [found, ended, markers_differ.symm]
  have begins : (before ++ startMarker :: managed ++ endMarker :: after).idxOf? startMarker = some front.length := by
    rw [enclosed, List.append_assoc, List.cons_append, idxOf?_first absent]
  have ends := idxOf?_first unended after
  have ordered : front.length < (before ++ startMarker :: managed).length := by
    rw [enclosed]
    simp
  refine ⟨front.length, (before ++ startMarker :: managed).length, ?_, List.drop_left, ?_⟩
  · rw [markers, begins, ends]
    simp only [if_pos ordered]
  · have kept : (back ++ startMarker :: managed).filter stays = back ++ startMarker :: managed.filter stays := by
      rw [List.filter_append, List.filter_eq_self.mpr outside, List.filter_cons_of_pos marker]
    rw [shape, List.filter_cons_of_pos marker] at kept
    rw [List.take_left, enclosed, List.append_assoc, List.take_append, List.drop_append]
    simp [parts, ← kept, List.take_of_length_le (Nat.le_succ front.length), List.drop_of_length_le (Nat.le_succ front.length)]

/-! ### Entries -/

theorem mentions_entry (node : List Char) (job : Job) : mentions job.cronId (entry node job) = true := by
  have inside : "CRON_ID=".toList ++ job.cronId <:+: entry node job := by
    refine ⟨job.cronSchedule ++ " ".toList, ?_⟩
    simp only [entry, List.append_assoc, List.append_cancel_left_eq]
    exact ⟨_, rfl⟩
  exact decide_eq_true inside
/-- An entry has a sign that the markers do not have. -/
theorem entry_ne_marker (node : List Char) (job : Job) : entry node job ≠ startMarker ∧ entry node job ≠ endMarker := by
  have sign : '=' ∈ entry node job := by
    simp [entry]
  constructor
  · intro same
    exact (marker_chars.1 '=' (List.mem_append_left _ (same ▸ sign))).2.2 rfl
  · intro same
    exact (marker_chars.1 '=' (List.mem_append_right _ (same ▸ sign))).2.2 rfl
theorem newline_not_mem_markers : '\n' ∉ startMarker ∧ '\n' ∉ endMarker := by
  constructor
  · exact fun member => (marker_chars.1 '\n' (List.mem_append_left _ member)).2.1 rfl
  · exact fun member => (marker_chars.1 '\n' (List.mem_append_right _ member)).2.1 rfl
theorem mentions_startMarker (cronId : List Char) : mentions cronId startMarker = false := by
  refine decide_eq_false fun inside => ?_
  have sign : '=' ∈ startMarker := inside.subset (List.mem_append_left _ (by decide))
  exact (marker_chars.1 '=' (List.mem_append_left _ sign)).2.2 rfl

section
variable [Shell]

theorem plain_markers : expand startMarker = some startMarker ∧ expand endMarker = some endMarker := by
  constructor
  · exact expand_plain fun c member => (marker_chars.1 c (List.mem_append_left _ member)).1
  · exact expand_plain fun c member => (marker_chars.1 c (List.mem_append_right _ member)).1

/-- What the line of a job has around the interpreter. -/
def beforeNode (job : Job) : Line :=
  job.cronSchedule ++ " ".toList ++ "CRON_ID=".toList ++ job.cronId ++ " ".toList ++
    " ".toList.intercalate (job.cronEnvVars.map fun var => var.1 ++ "=".toList ++ var.2) ++ " ".toList
def afterNode (job : Job) : Line := " ".toList ++ job.cronScriptPath ++ " >> ".toList ++ job.cronLogPath ++ " 2>&1".toList
omit [Shell] in
theorem entry_eq (node : List Char) (job : Job) : entry node job = beforeNode job ++ (node ++ afterNode job) := by
  simp only [entry, beforeNode, afterNode, List.append_assoc]
/-- A job with nothing but plain text is accepted by the shell. -/
theorem newEntry_expands {job : Job} (before : Plain (beforeNode job)) (after : Plain (afterNode job)) :
    expand (newEntry job) = some (installed job) := by
  have command : "$(which node)".toList = '$' :: '(' :: ("which node".toList ++ [')']) := by decide
  have simple : ∀ c ∈ "which node".toList, isCommandChar c = true := List.all_eq_true.mp (by decide +kernel)
  have expanded := expand_command before simple after
  rw [newEntry, installed, entry_eq, entry_eq, command]
  simpa using expanded

/-- A crontab whose lines the shell accepts has these lines once it is installed. -/
theorem install_lines (crontab : List Char) {ls written : List Line}
    (expanded : List.Forall₂ (fun line out => expand line = some out) ls written) (plain : ∀ line ∈ written, '\n' ∉ line)
    (nonempty : written ≠ []) :
    lines (install crontab (joined ls)) = written ++ [[]] ∧ fileLines (install crontab (joined ls)) = written := by
  rw [install, echo, show expand (joined ls) = some (joined written) from expand_joined expanded]
  exact fileLines_ended plain nonempty

/-! ### Calls -/

/-- A crontab as the calls find it: there is a section in it, or none that could be taken for one. -/
structure Managed (crontab : List Char) (spec : Spec) : Prop where
  represents : Represents crontab spec
  apart : markers spec.before = none
  unmanaged : spec.managed = none → spec.after = [] ∧ fileLines crontab = spec.before
  ended : ∀ s, spec.managed = some s → endMarker ∉ s.kept

omit [Shell] in
theorem markers_initial {ls : List Line} {startIdx endIdx : Nat} (found : markers ls = some (startIdx, endIdx)) :
    markers (ls.take startIdx) = none := by
  have absent := (markers_some found).2.1
  rw [markers, List.idxOf?_eq_none_iff.mpr absent]
theorem managed_initial (crontab : List Char) : Managed crontab (.initial crontab) := by
  cases found : markers (fileLines crontab) with
  | none =>
    have shape : Spec.initial crontab = { before := fileLines crontab, managed := none, after := [] } := by
      simp only [Spec.initial, found]
    rw [shape]
    refine ⟨⟨⟨0, ?_⟩, ?_⟩, found, fun _ => ⟨rfl, rfl⟩, ?_⟩
    · simp [Spec.lines]
    · rintro s ⟨⟩
    · rintro s ⟨⟩
  | some indices =>
    obtain ⟨i, j⟩ := indices
    obtain ⟨parts, -, unended⟩ := markers_some found
    have shape : Spec.initial crontab =
        { before := (fileLines crontab).take i, managed := some { kept := ((fileLines crontab).take j).drop (i + 1) }
          after := (fileLines crontab).drop (j + 1) } := by
      simp only [Spec.initial, found]
    rw [shape]
    refine ⟨⟨⟨0, ?_⟩, ?_⟩, markers_initial found, ?_, ?_⟩
    · simpa [Spec.lines, Section.lines] using parts
    · rintro s ⟨⟩
      exact List.nodup_nil
    · rintro ⟨⟩
    · rintro s ⟨⟩
      exact fun member => unended (List.mem_of_mem_drop member)

/-- What an edit of a section finds in the file. -/
theorem lines_managed {crontab : List Char} {spec : Spec} (inv : Managed crontab spec) {s : Section} (managed : spec.managed = some s) :
    ∃ blanks, lines crontab = spec.before ++ startMarker :: s.lines ++ endMarker :: (spec.after ++ List.replicate blanks []) := by
  obtain ⟨blanks, shape⟩ := inv.represents.lines
  simp only [Spec.lines, managed] at shape
  rcases lines_eq crontab with ended | same
  · refine ⟨blanks + 1, ?_⟩
    rw [ended, shape, List.replicate_succ']
    simp
  · refine ⟨blanks, ?_⟩
    rw [same, shape]
    simp
theorem endMarker_not_mem_lines {s : Section} (ended : endMarker ∉ s.kept) : endMarker ∉ s.lines := by
  rw [Section.lines, List.mem_append, not_or]
  refine ⟨ended, ?_⟩
  intro member
  obtain ⟨job, -, same⟩ := List.mem_map.mp member
  exact (entry_ne_marker _ job).2 same

/-- Without the lines that mention a job, a section is the section without the job. -/
theorem lines_without {s : Section} {cronId : List Char}
    (others : ∀ job ∈ s.live, job.cronId ≠ cronId → mentions cronId (installed job) = false) :
    s.lines.filter (fun line => !mentions cronId line) = (s.without cronId).lines := by
  rw [Section.lines, Section.lines, List.filter_append, List.filter_map, Section.without]
  refine congrArg _ (congrArg (List.map installed) ?_)
  refine List.filter_congr fun job member => ?_
  by_cases same : job.cronId = cronId
  · have own : mentions cronId (installed job) = true := same ▸ mentions_entry _ job
    simp [same, own]
  · simp [same, others job member same]

/-- An edit of a section, which may add an entry, leaves the other lines. -/
theorem section_installed {crontab : List Char} {spec : Spec} (inv : Managed crontab spec) {s : Section}
    (managed : spec.managed = some s) {cronId : List Char} (editable : Editable spec s cronId) (new written : List Line)
    (expanded : List.Forall₂ (fun line out => expand line = some out) new written) (plain : ∀ line ∈ written, '\n' ∉ line) :
    ∃ startIdx endIdx, markers (lines crontab) = some (startIdx, endIdx) ∧ ∃ blanks,
      fileLines (install crontab (joined ((lines crontab).take (startIdx + 1) ++
        ((((lines crontab).take endIdx).drop (startIdx + 1)).filter (fun line => !mentions cronId line) ++ new) ++
          (lines crontab).drop endIdx))) =
        spec.before ++ startMarker :: (s.without cronId).lines ++ written ++ endMarker :: (spec.after ++ List.replicate blanks []) := by
  obtain ⟨blanks, shape⟩ := lines_managed inv managed
  have stay := @section_edited spec.before s.lines (spec.after ++ List.replicate blanks []) editable.found
    (endMarker_not_mem_lines (inv.ended s managed)) (fun line => !mentions cronId line) (by simp [mentions_startMarker])
    (fun line member => by simp [editable.unmentioned line member])
  rw [← shape, lines_without editable.others] at stay
  obtain ⟨startIdx, endIdx, found, tail, front⟩ := stay
  refine ⟨startIdx, endIdx, found, blanks, ?_⟩
  rw [← List.append_assoc, front, tail]
  have unchanged (ls : List Line) (inside : ∀ line ∈ ls, line ∈ spec.before ++ (s.without cronId).lines ++ spec.after) :
      List.Forall₂ (fun line out => expand line = some out) ls ls :=
    List.forall₂_same.mpr fun line member => editable.unchanged line (inside line member)
  have empty : List.Forall₂ (fun line out => expand line = some out) (List.replicate blanks []) (List.replicate blanks []) :=
    List.forall₂_same.mpr fun line member => by rw [List.eq_of_mem_replicate member]; rfl
  have front := unchanged spec.before fun line member => by simp [member]
  have inside := unchanged (s.without cronId).lines fun line member => by simp [member]
  have back := unchanged spec.after fun line member => by simp [member]
  have all := List.rel_append (List.rel_append (List.rel_append front (.cons plain_markers.1 inside)) expanded)
    (.cons plain_markers.2 (List.rel_append back empty))
  refine (install_lines crontab all ?_ (by simp)).2
  have pieces := newline_not_mem_lines crontab
  rw [shape] at pieces
  intro line member
  simp only [List.mem_append, List.mem_cons] at member pieces
  rcases member with ((outside | starts | inside) | added) | ends | outside
  · exact pieces line (.inl (.inl outside))
  · exact starts ▸ newline_not_mem_markers.1
  · rw [← lines_without editable.others] at inside
    exact pieces line (.inl (.inr (.inr (List.mem_of_mem_filter inside))))
  · exact plain line added
  · exact ends ▸ newline_not_mem_markers.2
  · exact pieces line (.inr (.inr outside))

omit [Shell] in
theorem nodup_without {s : Section} (once : (s.live.map (·.cronId)).Nodup) (cronId : List Char) :
    ((s.without cronId).live.map (·.cronId)).Nodup ∧ cronId ∉ (s.without cronId).live.map (·.cronId) := by
  refine ⟨once.sublist (List.filter_sublist.map _), ?_⟩
  intro member
  obtain ⟨job, inside, same⟩ := List.mem_map.mp member
  have other := List.of_mem_filter inside
  simp [same] at other
omit [Shell] in
theorem endMarker_without {s : Section} (ended : endMarker ∉ s.kept) (cronId : List Char) : endMarker ∉ (s.without cronId).kept :=
  fun member => ended (List.mem_of_mem_filter member)

/-- A file that is not trimmed gets a new section at its end. -/
theorem section_created {crontab : List Char} {spec : Spec} (inv : Managed crontab spec) (managed : spec.managed = none)
    {job : Job} (accepted : expand (newEntry job) = some (installed job)) (single : '\n' ∉ installed job)
    (untrimmed : fileLines (trimmed crontab) = fileLines crontab) {written : List Line}
    (expanded : List.Forall₂ (fun line out => expand line = some out) spec.before written) (plain : ∀ line ∈ written, '\n' ∉ line) :
    fileLines (install crontab (joined ([trimmed crontab, startMarker, newEntry job, endMarker].filter (· ≠ [])))) =
      written ++ [startMarker, installed job, endMarker] := by
  have same : fileLines (trimmed crontab) = spec.before := untrimmed.trans (inv.unmanaged managed).2
  have nonempty : startMarker ≠ [] ∧ newEntry job ≠ [] ∧ endMarker ≠ [] := by
    refine ⟨marker_ne_nil.1, ?_, marker_ne_nil.2⟩
    intro empty
    have mentioned := mentions_entry "$(which node)".toList job
    rw [show entry "$(which node)".toList job = [] from empty] at mentioned
    have inside := of_decide_eq_true mentioned
    simp at inside
  have text : joined ([trimmed crontab, startMarker, newEntry job, endMarker].filter (· ≠ [])) =
      joined (spec.before ++ [startMarker, newEntry job, endMarker]) := by
    by_cases empty : trimmed crontab = []
    · have none : spec.before = [] := by
        rw [← same, empty]
        rfl
      simp [empty, none, nonempty]
    · have last : (trimmed crontab).getLast? ≠ some '\n' := by
        rw [List.getLast?_eq_getLast_of_ne_nil empty]
        intro newline
        have stops : ¬ isJsSpace ((trimmed crontab).getLast empty) = true := List.rdropWhile_last_not _ _ empty
        rw [Option.some.inj newline] at stops
        exact absurd rfl stops
      have pieces : lines (trimmed crontab) = spec.before := (fileLines_unended empty last).trans same
      have whole : joined spec.before = trimmed crontab := by rw [← pieces, joined_lines]
      have nonblank : spec.before ≠ [] := by
        rw [← pieces]
        exact List.splitOn_ne_nil _ _
      have kept : [trimmed crontab, startMarker, newEntry job, endMarker].filter (· ≠ []) =
          [trimmed crontab, startMarker, newEntry job, endMarker] := by simp [empty, nonempty]
      rw [kept, show spec.before ++ [startMarker, newEntry job, endMarker] =
        ((spec.before ++ [startMarker]) ++ [newEntry job]) ++ [endMarker] by simp, joined_concat (by simp), joined_concat (by simp),
        joined_concat nonblank, whole]
      simp [joined, List.intercalate_cons_cons]
  rw [text]
  refine (install_lines crontab (List.rel_append expanded (.cons plain_markers.1 (.cons accepted (.cons plain_markers.2 .nil)))) ?_
    (by simp)).2
  intro line member
  simp only [List.mem_append, List.mem_cons, List.not_mem_nil, or_false] at member
  rcases member with outside | starts | job | ends
  · exact plain line outside
  · exact starts ▸ newline_not_mem_markers.1
  · exact job ▸ single
  · exact ends ▸ newline_not_mem_markers.2

section
variable [CronValidator]

/-- The first job that is installed gets a section at the end of the file. -/
theorem updateCrontab_unmarked {crontab : List Char} {job : Job} (valid : CronValidator.isValidCron job.cronSchedule = true)
    (unmarked : markers (lines crontab) = none) :
    updateCrontab crontab job = install crontab (joined ([trimmed crontab, startMarker, newEntry job, endMarker].filter (· ≠ []))) := by
  rw [updateCrontab, if_neg (by simp [valid])]
  simp only [unmarked]
theorem managed_update {crontab : List Char} {spec : Spec} (inv : Managed crontab spec) {job : Job}
    (orderly : Orderly crontab spec (.update job)) : Managed (updateCrontab crontab job) (spec.call (.update job)) := by
  cases valid : CronValidator.isValidCron job.cronSchedule with
  | false => simpa only [updateCrontab, Spec.call, valid, if_true] using inv
  | true =>
    obtain ⟨⟨accepted, single⟩, well⟩ := orderly valid
    cases managed : spec.managed with
    | none =>
      simp only [managed] at well
      have last := (inv.unmanaged managed).1
      have found : markers (lines crontab) = none := by
        rw [markers_lines, (inv.unmanaged managed).2]
        exact inv.apart
      have after : spec.call (.update job) = { before := spec.before, managed := some { live := [job] }, after := [] } := by
        simp [Spec.call, valid, managed, Section.without, last]
      rw [after]
      refine ⟨⟨⟨0, ?_⟩, ?_⟩, inv.apart, ?_, ?_⟩
      · have plain := newline_not_mem_fileLines crontab
        rw [(inv.unmanaged managed).2] at plain
        rw [updateCrontab_unmarked valid found, section_created inv managed accepted single well.1 (List.forall₂_same.mpr well.2) plain]
        simp [Spec.lines, Section.lines]
      · rintro s ⟨⟩
        exact List.pairwise_singleton _ _
      · rintro ⟨⟩
      · rintro s ⟨⟩
        exact List.not_mem_nil
    | some s =>
      simp only [managed] at well
      obtain ⟨startIdx, endIdx, found, blanks, shape⟩ := section_installed inv managed well [newEntry job] [installed job]
        (.cons accepted .nil) (by simpa using single)
      have after : spec.call (.update job) =
          { spec with managed := some { s.without job.cronId with live := (s.without job.cronId).live ++ [job] } } := by
        simp [Spec.call, valid, managed]
      rw [after]
      refine ⟨⟨⟨blanks, ?_⟩, ?_⟩, inv.apart, ?_, ?_⟩
      · simp only [updateCrontab, valid, Bool.true_eq_false, if_false, found]
        rw [shape]
        simp [Spec.lines, Section.lines]
      · rintro _ ⟨⟩
        obtain ⟨once, fresh⟩ := nodup_without (inv.represents.once s managed) job.cronId
        simp only [List.map_append, List.map_cons, List.map_nil]
        refine List.nodup_append.mpr ⟨once, List.pairwise_singleton _ _, ?_⟩
        intro id member other last same
        rw [same, List.mem_singleton.mp last] at member
        exact fresh member
      · rintro ⟨⟩
      · rintro _ ⟨⟩
        exact endMarker_without (inv.ended s managed) job.cronId

omit [CronValidator] in
/-- A section that is hidden stays as it is, and so it should if no line of it is one of the job. -/
theorem without_unmentioned {s : Section} {cronId : List Char} (unmentioned : ∀ line ∈ s.lines, mentions cronId line = false) :
    s.without cronId = s := by
  have kept : s.kept.filter (fun line => !mentions cronId line) = s.kept :=
    List.filter_eq_self.mpr fun line member => by simp [unmentioned line (List.mem_append_left _ member)]
  have live : s.live.filter (fun job => decide (job.cronId ≠ cronId)) = s.live := by
    refine List.filter_eq_self.mpr fun job member => decide_eq_true ?_
    rintro rfl
    have mentioned := unmentioned (installed job) (List.mem_append_right _ (List.mem_map_of_mem member))
    rw [installed, mentions_entry] at mentioned
    cases mentioned
  rw [Section.without, kept, live]

theorem managed_delete {crontab : List Char} {spec : Spec} (inv : Managed crontab spec) {cronId : List Char}
    (orderly : Orderly crontab spec (.delete cronId)) : Managed (deleteCronJob crontab cronId) (spec.call (.delete cronId)) := by
  cases managed : spec.managed with
  | none =>
    have found : markers (lines crontab) = none := by
      rw [markers_lines, (inv.unmanaged managed).2]
      exact inv.apart
    have after : spec.call (.delete cronId) = spec := by
      cases spec
      simp_all [Spec.call]
    rw [after]
    simpa only [deleteCronJob, found] using inv
  | some s =>
    simp only [Orderly, managed] at orderly
    have after : spec.call (.delete cronId) = { spec with managed := some (s.without cronId) } := by
      simp [Spec.call, managed]
    rcases orderly with editable | ⟨hidden, unmentioned⟩
    · obtain ⟨startIdx, endIdx, found, blanks, shape⟩ := section_installed inv managed editable [] [] .nil (by simp)
      rw [after]
      refine ⟨⟨⟨blanks, ?_⟩, ?_⟩, inv.apart, ?_, ?_⟩
      · simp only [List.append_nil] at shape
        simp only [deleteCronJob, found]
        rw [shape]
        simp [Spec.lines]
      · rintro _ ⟨⟩
        exact (nodup_without (inv.represents.once s managed) cronId).1
      · rintro ⟨⟩
      · rintro _ ⟨⟩
        exact endMarker_without (inv.ended s managed) cronId
    · obtain ⟨blanks, shape⟩ := lines_managed inv managed
      have found : markers (lines crontab) = none := by
        rw [shape, List.append_assoc]
        exact markers_hidden inv.apart hidden _
      have same : spec.call (.delete cronId) = spec := by
        rw [after, without_unmentioned unmentioned]
        cases spec
        simp_all
      rw [same]
      simpa only [deleteCronJob, found] using inv

theorem managed_call {crontab : List Char} {spec : Spec} (inv : Managed crontab spec) {c : Call} (orderly : Orderly crontab spec c) :
    Managed (call crontab c) (spec.call c) := by
  cases c with
  | update job => exact managed_update inv orderly
  | delete cronId => exact managed_delete inv orderly

/-! ### Runs -/

def run (crontab : List Char) (calls : List Call) : List Char := calls.foldl call crontab
omit [Shell] in
/-- What the crontab should have after some calls. -/
def Spec.run (spec : Spec) (calls : List Call) : Spec := calls.foldl Spec.call spec
/-- Every call of a run goes well. -/
def OrderlyRun (crontab : List Char) (spec : Spec) : List Call → Prop
  | [] => True
  | c :: rest => Orderly crontab spec c ∧ OrderlyRun (call crontab c) (spec.call c) rest

theorem managed_run {crontab : List Char} {spec : Spec} (inv : Managed crontab spec) {calls rest : List Call}
    (orderly : OrderlyRun crontab spec (calls ++ rest)) : Managed (run crontab calls) (spec.run calls) := by
  induction calls generalizing crontab spec with
  | nil => exact inv
  | cons c calls ih => exact ih (managed_call inv orderly.1) orderly.2

/-- Where every call goes well, the lines outside the section stay as they are, and the section has one line for each job that
    was updated and not deleted since, with what it was updated to last. -/
theorem crontab_kept (crontab : List Char) (calls : List Call) (orderly : OrderlyRun crontab (.initial crontab) calls)
    (reached : List Call) (part : reached <+: calls) : Represents (run crontab reached) ((Spec.initial crontab).run reached) := by
  obtain ⟨rest, rfl⟩ := part
  exact (managed_run (managed_initial crontab) orderly).represents

end

end

/-! ### A crontab and its shell -/

section
@[reducible] def homeShell : Shell where
  parameter name := if name = "HOME".toList then "/root".toList else []
  command _ := "/usr/bin/node".toList
  other _ := none
local instance : Shell := homeShell
local instance : CronValidator := ⟨fun _ => true⟩

def sampleJob : Job where
  cronId := "2f6b5a0e-6f0c-4b8e-9a53-0d1c7f6a1b11".toList
  cronSchedule := "*/5 * * * *".toList
  cronEnvVars := [("API_URL".toList, "http://localhost:3000".toList)]
  cronScriptPath := "/app/auto.js".toList
  cronLogPath := "/app/auto.log".toList
theorem sampleJob_accepted : expand (newEntry sampleJob) = some (installed sampleJob) ∧ '\n' ∉ installed sampleJob := by
  have chars : (beforeNode sampleJob ++ afterNode sampleJob).all (fun c => !special.contains c) = true := by decide +kernel
  have plain : Plain (beforeNode sampleJob ++ afterNode sampleJob) := fun c member => by
    simpa using List.all_eq_true.mp chars c member
  refine ⟨newEntry_expands ?_ ?_, by decide +kernel⟩
  · exact fun c member => plain c (List.mem_append_left _ member)
  · exact fun c member => plain c (List.mem_append_right _ member)
def sampleCalls : List Call := [.update sampleJob, .delete sampleJob.cronId]

theorem sampleCalls_orderly : OrderlyRun [] (.initial []) sampleCalls := by
  refine ⟨?_, ?_, trivial⟩
  · exact fun _ => ⟨sampleJob_accepted, rfl, fun line member => absurd member List.not_mem_nil⟩
  · refine .inl ⟨List.not_mem_nil, fun line member => absurd member List.not_mem_nil, ?_, ?_⟩
    · intro job member other
      exact absurd (congrArg Job.cronId (List.mem_singleton.mp member)) other
    · intro line member
      have gone : (Section.without { live := [sampleJob] } sampleJob.cronId).lines = [] := by simp [Section.without, Section.lines]
      have inside : line ∈ (Section.without { live := [sampleJob] } sampleJob.cronId).lines ++ [] := member
      rw [gone] at inside
      cases inside
theorem jobs_kept : Represents (run [] sampleCalls) ((Spec.initial []).run sampleCalls) :=
  crontab_kept [] sampleCalls sampleCalls_orderly sampleCalls List.prefix_rfl

/-- A line of the user, and what the shell makes of it. -/
def backup : Line := "@daily tar cf b.tar $HOME".toList
def changedBackup : Line := "@daily tar cf b.tar /root".toList

/-- The shell puts the value of a parameter into a line of the user. -/
theorem line_changed : ¬ ∀ [Shell] [CronValidator] (crontab : List Char) (calls : List Call),
    Represents (run crontab calls) ((Spec.initial crontab).run calls) := by
  intro all
  have unbroken : '\n' ∉ backup := by decide +kernel
  have single : fileLines (backup ++ ['\n']) = [backup] := by
    simpa [joined] using (fileLines_ended (List.forall_mem_singleton.mpr unbroken) (by simp)).2
  have untrimmed : fileLines (trimmed (backup ++ ['\n'])) = fileLines (backup ++ ['\n']) := by decide +kernel
  have unmarked : markers [backup] = none := by decide +kernel
  have initial : Spec.initial (backup ++ ['\n']) = { before := [backup], managed := none, after := [] } := by
    simp only [Spec.initial, single, unmarked]
  have inv := managed_initial (backup ++ ['\n'])
  have found : markers (lines (backup ++ ['\n'])) = none := by rw [markers_lines, single, unmarked]
  have expanded : expand backup = some changedBackup := by decide +kernel
  obtain ⟨blanks, shape⟩ := (all (backup ++ ['\n']) [.update sampleJob]).lines
  rw [initial] at inv shape
  have created := section_created inv rfl sampleJob_accepted.1 sampleJob_accepted.2 untrimmed (.cons expanded .nil)
    (by decide +kernel)
  have valid : CronValidator.isValidCron sampleJob.cronSchedule = true := rfl
  rw [run, List.foldl_cons, List.foldl_nil, call, updateCrontab_unmarked valid found, created] at shape
  simp only [Spec.run, List.foldl_cons, List.foldl_nil, Spec.call, valid, Bool.true_eq_false, if_false, Spec.lines, List.cons_append,
    List.nil_append, List.cons.injEq] at shape
  have first := shape.1
  exact absurd first (by decide +kernel)

end

end Openlit.Crontabs
