import Mathlib.Algebra.Ring.Int.Defs
import Mathlib.Tactic.Ring

/-!
The window that a dashboard compares with the current one
(`getFilterPreviousParams` of `helpers/server/platform.ts`). Both ends of the
current window go back by some days of the calendar. What comes out is as long
as the current window where both ends go back by the same time, and it does not
reach into the current window where that time is no shorter than the window.
The range `7D` moves its two ends by different times.
-/
namespace Openlit.PreviousWindows

/-! ### The calendar -/

/-- Instants are milliseconds, as those of `Date`. -/
def day : Int := 86400000

structure CalendarDate where
  year : Int
  month : Int
  date : Int
  deriving DecidableEq, Repr

/-- The date of a day that is counted from 1970-01-01, in eras of 400 years that start in March. -/
def calendarDate (days : Int) : CalendarDate :=
  let era := (days + 719468) / 146097
  let dayOfEra := (days + 719468) % 146097
  let yearOfEra := (dayOfEra - dayOfEra / 1460 + dayOfEra / 36524 - dayOfEra / 146096) / 365
  let dayOfYear := dayOfEra - (365 * yearOfEra + yearOfEra / 4 - yearOfEra / 100)
  let monthFromMarch := (5 * dayOfYear + 2) / 153
  let month := if monthFromMarch < 10 then monthFromMarch + 3 else monthFromMarch - 9
  { year := yearOfEra + era * 400 + if month ≤ 2 then 1 else 0
    month
    date := dayOfYear - (153 * monthFromMarch + 2) / 5 + 1 }

example : (calendarDate 19782, calendarDate 19783) = (⟨2024, 2, 29⟩, ⟨2024, 3, 1⟩) := by decide

def isLeapYear (year : Int) : Bool := (year % 4 = 0 && year % 100 ≠ 0) || year % 400 = 0
def daysInMonth (year month : Int) : Int :=
  if month = 2 then if isLeapYear year then 29 else 28
  else if month = 4 ∨ month = 6 ∨ month = 9 ∨ month = 11 then 30 else 31
/-- The month before that of a date. -/
def previousMonth (date : CalendarDate) : CalendarDate :=
  if date.month = 1 then { date with year := date.year - 1, month := 12 } else { date with month := date.month - 1 }
/-- How many days a date lies after the same date some months earlier, or after the last day
    of that month where it is shorter. -/
def daysBack : Nat → CalendarDate → Int
  | 0, _ => 0
  | 1, date => max (daysInMonth (previousMonth date).year (previousMonth date).month) date.date
  | months + 2, date =>
    daysInMonth (previousMonth date).year (previousMonth date).month + daysBack (months + 1) (previousMonth date)

/-- `date-fns`, in the time zone of the process: the local time of an instant, the instant that
    has a local time, and the functions that keep the local time of the day. -/
structure DateFns where
  toLocal : Int → Int
  toInstant : Int → Int
  addDays : Int → Int → Int
  addMonths : Int → Int → Int
  differenceInDays : Int → Int → Int
  toLocal_near : ∀ time, time - day ≤ toLocal time ∧ toLocal time ≤ time + day
  toInstant_near : ∀ localTime, localTime - day ≤ toInstant localTime ∧ toInstant localTime ≤ localTime + day
  addDays_eq : ∀ time amount, addDays time amount = if amount = 0 then time else toInstant (toLocal time + amount * day)
  addMonths_eq : ∀ time (months : Nat), 0 < months →
    addMonths time (-months) = toInstant (toLocal time - daysBack months (calendarDate (toLocal time / day)) * day)
  differenceInDays_eq : ∀ left right, differenceInDays left right = (toLocal left - toLocal right).tdiv day

/-- Where the local time is that of Greenwich. -/
def utc : DateFns where
  toLocal time := time
  toInstant localTime := localTime
  addDays time amount := time + amount * day
  addMonths time months := time - daysBack months.natAbs (calendarDate (time / day)) * day
  differenceInDays left right := (left - right).tdiv day
  toLocal_near := by simp [day]
  toInstant_near := by simp [day]
  addDays_eq time amount := by
    by_cases zero : amount = 0
    · simp [zero]
    · simp [zero]
  addMonths_eq time months _ := by simp
  differenceInDays_eq _ _ := rfl

/-! ### The filter -/

inductive TIME_RANGES
  | H24
  | D7
  | M1
  | M3
  | CUSTOM
  deriving DecidableEq

/-- Instants that are missing or that are no date are `none`, as is any other type. -/
structure TimeLimit where
  start : Option Int
  finish : Option Int
  type : Option TIME_RANGES
  deriving DecidableEq
/-- `MetricParams`; its other fields are copied. -/
structure MetricParams (Others : Type) where
  timeLimit : TimeLimit
  others : Others

/-- The instants that a `Date` can have. -/
def Valid (time : Int) : Prop := -8640000000000000 ≤ time ∧ time ≤ 8640000000000000
instance (time : Int) : Decidable (Valid time) := inferInstanceAs (Decidable (_ ∧ _))

/-- The text of an instant, which is read back as that instant; it throws where there is none. -/
def toISOString (date : Option Int) : Option Int := date.filter fun time => decide (Valid time)

variable {Others : Type}

/-- The copy of the filter with other ends. -/
def withEnds (filter : MetricParams Others) (start finish : Option Int) : Option (MetricParams Others) := do
  let start ← toISOString start
  let finish ← toISOString finish
  some { filter with timeLimit := { filter.timeLimit with start := some start, finish := some finish } }

/-- The filter for the window before, where nothing throws. -/
def previousParams (dates : DateFns) (filter : MetricParams Others) : Option (MetricParams Others) :=
  let { start, finish, type } := filter.timeLimit
  match type with
  | some .H24 => withEnds filter (start.map (dates.addDays · (-1))) (finish.map (dates.addDays · (-1)))
  | some .D7 => withEnds filter (start.map (dates.addDays · (-7))) (finish.map (dates.addDays · (-1)))
  | some .M1 => withEnds filter (start.map (dates.addMonths · (-1))) (finish.map (dates.addMonths · (-1)))
  | some .M3 => withEnds filter (start.map (dates.addMonths · (-3))) (finish.map (dates.addMonths · (-3)))
  | some .CUSTOM => do
    let differenceDays := dates.differenceInDays (← finish) (← start)
    withEnds filter (start.map (dates.addDays · (-differenceDays))) (finish.map (dates.addDays · (-differenceDays)))
  | none => some filter
/-- What is caught leaves the filter as it is. -/
def getFilterPreviousParams (dates : DateFns) (filter : MetricParams Others) : MetricParams Others :=
  (previousParams dates filter).getD filter

/-- A window as long as the current one, which ends when the current one starts or before. -/
def Precedes (previous current : TimeLimit) : Prop :=
  ∃ start finish start' finish', current.start = some start ∧ current.finish = some finish ∧
    previous.start = some start' ∧ previous.finish = some finish' ∧ finish' - start' = finish - start ∧ finish' ≤ start

/-! ### How far the ends go back -/

namespace DateFns
variable (dates : DateFns)

/-- What the clocks add to the time since the same local time some days before. -/
def clockChange (time days : Int) : Int :=
  if days = 0 then 0
  else (dates.toLocal time - days * day - dates.toInstant (dates.toLocal time - days * day)) - (dates.toLocal time - time)
/-- The time since the same local time some days before. -/
def timeBack (time days : Int) : Int := days * day + dates.clockChange time days

theorem addDays_back (time days : Int) : dates.addDays time (-days) = time - dates.timeBack time days := by
  rw [dates.addDays_eq, timeBack, clockChange]
  by_cases zero : days = 0
  · simp [zero]
  · rw [if_neg (by simpa using zero), if_neg zero, Int.neg_mul, ← Int.sub_eq_add_neg]
    ring
/-- The date of an instant. -/
def dateOf (time : Int) : CalendarDate := calendarDate (dates.toLocal time / day)

end DateFns

theorem daysInMonth_pos (year month : Int) : 0 < daysInMonth year month := by
  unfold daysInMonth
  split_ifs <;> decide
theorem daysBack_pos (months : Nat) (date : CalendarDate) : 0 < daysBack (months + 1) date := by
  induction months generalizing date with
  | zero => exact lt_max_of_lt_left (daysInMonth_pos ..)
  | succ months ih => exact Int.add_pos (daysInMonth_pos ..) (ih _)

theorem addMonths_back (dates : DateFns) (time : Int) (months : Nat) :
    dates.addMonths time (-(months + 1)) = time - dates.timeBack time (daysBack (months + 1) (dates.dateOf time)) := by
  have nonzero := (daysBack_pos months (dates.dateOf time)).ne'
  have back := dates.addMonths_eq time (months + 1) (by omega)
  rw [Int.natCast_add, Int.natCast_one] at back
  rw [back, ← dates.addDays_back, dates.addDays_eq, if_neg (by omega), Int.neg_mul, ← Int.sub_eq_add_neg]
  rfl

/-- By how many days of the calendar the ends of a window go back. -/
def daysOf (dates : DateFns) (start finish : Int) : TIME_RANGES → Int × Int
  | .H24 => (1, 1)
  | .D7 => (7, 1)
  | .M1 => (daysBack 1 (dates.dateOf start), daysBack 1 (dates.dateOf finish))
  | .M3 => (daysBack 3 (dates.dateOf start), daysBack 3 (dates.dateOf finish))
  | .CUSTOM => ((dates.toLocal finish - dates.toLocal start).tdiv day, (dates.toLocal finish - dates.toLocal start).tdiv day)

/-- The ends that go back, as one case for all ranges. -/
theorem previousParams_eq (dates : DateFns) (start finish : Int) (type : TIME_RANGES) (others : Others) :
    previousParams dates { timeLimit := { start := some start, finish := some finish, type := some type }, others } =
      withEnds { timeLimit := { start := some start, finish := some finish, type := some type }, others }
        (some (start - dates.timeBack start (daysOf dates start finish type).1))
        (some (finish - dates.timeBack finish (daysOf dates start finish type).2)) := by
  cases type with
  | H24 | D7 => simp [previousParams, daysOf, dates.addDays_back]
  | M1 => simp [previousParams, daysOf, show (-1 : Int) = -((0 : Nat) + 1) from rfl, addMonths_back]
  | M3 => simp [previousParams, daysOf, show (-3 : Int) = -((2 : Nat) + 1) from rfl, addMonths_back]
  | CUSTOM => simp [previousParams, daysOf, dates.addDays_back, dates.differenceInDays_eq]

/-! ### When the windows can be compared -/

/-- Both ends go back by the same time, and the window is no longer than that. For `24H` that is
    a day, for `CUSTOM` as many full days as the window has, and for `7D` the times are never the
    same. The clocks may have been changed in between. -/
def Comparable (dates : DateFns) (start finish : Int) (type : TIME_RANGES) : Prop :=
  match type with
  | .H24 => dates.clockChange start 1 = dates.clockChange finish 1 ∧ finish - start ≤ day + dates.clockChange finish 1
  | .D7 => False
  | .M1 =>
    dates.timeBack start (daysBack 1 (dates.dateOf start)) = dates.timeBack finish (daysBack 1 (dates.dateOf finish)) ∧
      finish - start ≤ dates.timeBack finish (daysBack 1 (dates.dateOf finish))
  | .M3 =>
    dates.timeBack start (daysBack 3 (dates.dateOf start)) = dates.timeBack finish (daysBack 3 (dates.dateOf finish)) ∧
      finish - start ≤ dates.timeBack finish (daysBack 3 (dates.dateOf finish))
  | .CUSTOM =>
    let fullDays := (dates.toLocal finish - dates.toLocal start).tdiv day
    dates.clockChange start fullDays = dates.clockChange finish fullDays ∧
      finish - start ≤ fullDays * day + dates.clockChange finish fullDays
/-- Ends that no date has leave the filter as it is, which only an empty window precedes. -/
def HoldsWhen (dates : DateFns) (start finish : Int) (type : TIME_RANGES) : Prop :=
  if Valid (start - dates.timeBack start (daysOf dates start finish type).1) ∧
      Valid (finish - dates.timeBack finish (daysOf dates start finish type).2) then
    Comparable dates start finish type
  else finish ≤ start

theorem clockChange_near (dates : DateFns) (time days : Int) :
    -(2 * day) ≤ dates.clockChange time days ∧ dates.clockChange time days ≤ 2 * day := by
  have atTime := dates.toLocal_near time
  have atDate := dates.toInstant_near (dates.toLocal time - days * day)
  rw [DateFns.clockChange]
  by_cases zero : days = 0
  · simp [zero, day]
  · rw [if_neg zero]
    omega
/-- No clock makes up for the days between the two ends that `7D` takes. -/
theorem timeBack_week_ne (dates : DateFns) (start finish : Int) : dates.timeBack start 7 ≠ dates.timeBack finish 1 := by
  have atStart := clockChange_near dates start 7
  have atFinish := clockChange_near dates finish 1
  simp only [DateFns.timeBack, day] at *
  omega

theorem comparable_iff (dates : DateFns) (start finish : Int) (type : TIME_RANGES) :
    Comparable dates start finish type ↔
      dates.timeBack start (daysOf dates start finish type).1 = dates.timeBack finish (daysOf dates start finish type).2 ∧
        finish - start ≤ dates.timeBack finish (daysOf dates start finish type).2 := by
  cases type with
  | H24 | CUSTOM =>
    simp only [Comparable, daysOf, DateFns.timeBack]
    omega
  | D7 => simpa [Comparable, daysOf] using fun same => absurd same (timeBack_week_ne dates start finish)
  | M1 | M3 => rfl

/-- The window before is as long as the current one and does not reach into it under exactly this condition. -/
theorem precedes_iff (dates : DateFns) (start finish : Int) (type : TIME_RANGES) (others : Others) :
    Precedes
        (getFilterPreviousParams dates
          { timeLimit := { start := some start, finish := some finish, type := some type }, others }).timeLimit
        { start := some start, finish := some finish, type := some type } ↔
      HoldsWhen dates start finish type := by
  rw [getFilterPreviousParams, previousParams_eq, HoldsWhen, comparable_iff]
  by_cases validStart : Valid (start - dates.timeBack start (daysOf dates start finish type).1)
  · by_cases validFinish : Valid (finish - dates.timeBack finish (daysOf dates start finish type).2)
    · simp only [withEnds, toISOString, Option.filter, validStart, validFinish, decide_true]
      simp [Precedes]
      omega
    · simp [withEnds, toISOString, Option.filter, validStart, validFinish, Precedes]
  · simp [withEnds, toISOString, Option.filter, validStart, Precedes]

/-! ### The windows of the filter store -/

namespace DateFns
/-- A week is seven days. -/
def addWeeks (dates : DateFns) (time amount : Int) : Int := dates.addDays time (amount * 7)
end DateFns

/-- `getTimeLimitObject` of `store/filter.ts`; a window of one's own has the ends that are given. -/
def getTimeLimitObject (dates : DateFns) (currentDate : Int) : TIME_RANGES → Option (Int × Int)
  | .H24 => some (dates.addDays currentDate (-1), currentDate)
  | .D7 => some (dates.addWeeks currentDate (-1), currentDate)
  | .M1 => some (dates.addMonths currentDate (-1), currentDate)
  | .M3 => some (dates.addMonths currentDate (-3), currentDate)
  | .CUSTOM => none

/-- The windows that the page offers are as long as their ends go back, apart from the week. -/
theorem stored_comparable_iff (dates : DateFns) {currentDate start finish : Int} {type : TIME_RANGES}
    (stored : getTimeLimitObject dates currentDate type = some (start, finish)) :
    Comparable dates start finish type ↔
      dates.timeBack start (daysOf dates start finish type).1 = dates.timeBack finish (daysOf dates start finish type).2 := by
  rw [comparable_iff, and_iff_left_iff_imp]
  intro same
  cases type with
  | H24 =>
    obtain ⟨rfl, rfl⟩ := Prod.mk.inj (Option.some.inj stored)
    simp [daysOf, dates.addDays_back]
  | D7 => exact absurd same (timeBack_week_ne dates start finish)
  | M1 =>
    obtain ⟨rfl, rfl⟩ := Prod.mk.inj (Option.some.inj stored)
    simp [daysOf, show (-1 : Int) = -((0 : Nat) + 1) from rfl, addMonths_back]
  | M3 =>
    obtain ⟨rfl, rfl⟩ := Prod.mk.inj (Option.some.inj stored)
    simp [daysOf, show (-3 : Int) = -((2 : Nat) + 1) from rfl, addMonths_back]
  | CUSTOM => cases stored

/-! ### Without clock changes -/

/-- The clocks are never changed. -/
def Steady (dates : DateFns) : Prop := ∃ offset, ∀ time, dates.toLocal time = time + offset ∧ dates.toInstant (time + offset) = time

theorem clockChange_of_steady {dates : DateFns} (steady : Steady dates) (time days : Int) : dates.clockChange time days = 0 := by
  obtain ⟨offset, same⟩ := steady
  have before := (same (time - days * day)).2
  rw [DateFns.clockChange, (same time).1, show time + offset - days * day = time - days * day + offset by ring, before]
  split_ifs
  · rfl
  · ring

/-- A day has 24 hours then: a `24H` window is compared if it has no more, and a `CUSTOM` window if it has full days only. -/
theorem comparable_of_steady {dates : DateFns} (steady : Steady dates) (start finish : Int) (type : TIME_RANGES) :
    Comparable dates start finish type ↔ match type with
      | .H24 => finish - start ≤ day
      | .D7 => False
      | .M1 => daysBack 1 (dates.dateOf start) = daysBack 1 (dates.dateOf finish) ∧
          finish - start ≤ daysBack 1 (dates.dateOf finish) * day
      | .M3 => daysBack 3 (dates.dateOf start) = daysBack 3 (dates.dateOf finish) ∧
          finish - start ≤ daysBack 3 (dates.dateOf finish) * day
      | .CUSTOM => finish < start ∨ day ∣ finish - start := by
  cases type with
  | H24 => simp [Comparable, clockChange_of_steady steady]
  | D7 => rfl
  | M1 | M3 =>
    simp only [Comparable, DateFns.timeBack, clockChange_of_steady steady, day]
    omega
  | CUSTOM =>
    obtain ⟨offset, same⟩ := id steady
    simp only [Comparable, clockChange_of_steady steady, (same _).1, true_and]
    rw [show finish + offset - (start + offset) = finish - start by ring]
    have positive : day.sign = 1 := rfl
    rw [Int.tdiv_eq_ediv, positive]
    simp only [day]
    split_ifs with full <;> omega

/-- A week is compared with the thirteen days before its last day. -/
def sampleWeek : MetricParams Unit :=
  { timeLimit := { start := some 0, finish := some (7 * day), type := some .D7 }, others := () }
theorem week_not_preceded : ¬Precedes (getFilterPreviousParams utc sampleWeek).timeLimit sampleWeek.timeLimit := by
  have ends : (getFilterPreviousParams utc sampleWeek).timeLimit =
      { start := some (-(7 * day)), finish := some (6 * day), type := some .D7 } := by decide
  rw [ends]
  simp [Precedes, sampleWeek, day]

end Openlit.PreviousWindows
