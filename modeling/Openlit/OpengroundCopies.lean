import Mathlib.Data.List.Perm.Subperm
import Openlit.RuleLinkSync
import Openlit.Runs

/-!
The copy of the Openground records from Prisma to ClickHouse
(`openground-clickhouse/migrate-data.ts`). Every run copies every record, whatever
the runs before it have done; the id of an inserted row is looked up by its user
and its second; and an error of a provider's row is only logged. All records are
of one database config, and so are the rows. Every row has the record that it has
been inserted for, which no statement reads.
-/
namespace Openlit.OpengroundCopies
open Openlit.RuleLinks (Storage)
open Openlit.RuleLinkSync (plainStorage)
open Openlit.RuleLinks.Storage
open Openlit.Runs

/-! ### The tables -/

section
variable {Columns : Type}

/-- A record of Prisma with what its texts are parsed to: the columns of its row
    and of each provider's row, or the message of the exception. -/
structure Record (Columns : Type) where
  id : String
  createdByUserId : String
  /-- In milliseconds. -/
  createdAt : Nat
  parsed : Except String (Columns × List (Except String Columns))
/-- The second that both queries of a record are about. -/
def Record.second (r : Record Columns) : Nat := r.createdAt / 1000
structure Source (Columns : Type) where
  records : List (Record Columns)
  ids : (records.map (·.id)).Nodup

structure Row (Columns : Type) where
  id : String
  created_by_user_id : String
  created_at : Nat
  columns : Columns
  origin : String
structure ProviderRow (Columns : Type) where
  openground_id : String
  columns : Columns
structure Tables (Columns : Type) where
  rows : List (Row Columns)
  providers : List (ProviderRow Columns)

def noRows : Tables Columns := ⟨[], []⟩

end

/-- What ClickHouse makes of the literals of an insertion, and the time that it
    reads a text without a zone as. -/
class Reader (Columns : Type) extends Storage where
  read : Columns → Columns
  zone : Nat → Nat

/-! ### A run -/

/-- The statements of a record that fail, with their messages, and the row that `LIMIT 1` takes. -/
structure Attempt where
  main : Option String := none
  fetch : Option String := none
  pick : Nat := 0
  provider : Nat → Bool := fun _ => false
/-- A run: the message of the exception if the records cannot be read, and what happens to each. -/
structure Run where
  listing : Option String := none
  attempt : String → Attempt := fun _ => {}

/-- What the function returns. -/
inductive Outcome
  | noRecords
  | done (total success : Nat) (errorDetails : List String)
  | err (message details : String)
/-- A run that reports no error. -/
def Outcome.clean : Outcome → Prop
  | .noRecords => True
  | .done _ _ errorDetails => errorDetails = []
  | .err _ _ => False

section
variable {Columns : Type} [Reader Columns]
open Reader

def newRow (r : Record Columns) (columns : Columns) (t : Tables Columns) : Row Columns :=
  { id := generateUUIDv4 (t.rows.map (·.id) ++ t.providers.map (·.openground_id))
    created_by_user_id := r.createdByUserId
    created_at := zone Columns r.second
    columns := read columns
    origin := r.id }
/-- The id of a row of the user and the second. -/
def fetchedId (r : Record Columns) (pick : Nat) (t : Tables Columns) : Option String :=
  let rows := t.rows.filter fun row => row.created_by_user_id = r.createdByUserId ∧ row.created_at = r.second
  (rows[pick]?.or rows.head?).map (·.id)
/-- The loop over the providers from a position on, which an exception ends. -/
def insertProviders (insertedId : String) (failed : Nat → Bool) :
    Nat → List (Except String Columns) → Tables Columns → Tables Columns × Option String
  | _, [], t => (t, none)
  | _, .error message :: _, t => (t, some message)
  | index, .ok columns :: providers, t =>
    insertProviders insertedId failed (index + 1) providers
      (if failed index then t else { t with providers := t.providers ++ [⟨insertedId, read columns⟩] })
/-- One turn of the loop over the records, with the error of the record. -/
def migrateRecord (attempt : Attempt) (r : Record Columns) (t : Tables Columns) : Tables Columns × Option String :=
  match r.parsed, attempt.main with
  | .error message, _ => (t, some message)
  | .ok _, some message => (t, some message)
  | .ok (columns, providers), none =>
    let inserted := { t with rows := t.rows ++ [newRow r columns t] }
    match if attempt.fetch.isSome then none else fetchedId r attempt.pick inserted with
    | none => (inserted, some "Could not fetch inserted ID")
    | some insertedId => insertProviders insertedId attempt.provider 0 providers inserted
/-- The tables and the error details after a record. -/
def migrateNext (attempt : String → Attempt) (state : Tables Columns × List String) (r : Record Columns) :
    Tables Columns × List String :=
  let (t, error) := migrateRecord (attempt r.id) r state.1
  (t, state.2 ++ (error.map fun message => "Record " ++ r.id ++ ": " ++ message).toList)
def migrateOpengroundDataToClickhouse (source : Source Columns) (t : Tables Columns) (run : Run) : Tables Columns × Outcome :=
  match run.listing with
  | some message => (t, .err "Failed to migrate Openground data from Prisma to ClickHouse!" message)
  | none =>
    if source.records = [] then (t, .noRecords)
    else
      let (t, errorDetails) := source.records.foldl (migrateNext run.attempt) (t, [])
      (t, .done source.records.length (source.records.length - errorDetails.length) errorDetails)
/-- A failed count of Prisma is an exception, and one of ClickHouse counts as none. -/
def checkMigrationNeeded (source : Source Columns) (t : Tables Columns) (prismaFails clickhouseFails : Bool) : Bool :=
  if prismaFails then false
  else if source.records.length = 0 then false
  else source.records.length > (if clickhouseFails then 0 else t.rows.length)

end

/-! ### Complete copies -/

section
variable {Columns : Type}

/-- A record with exactly one row and exactly one row of each of its providers. -/
def Appears (r : Record Columns) (t : Tables Columns) : Prop :=
  ∃ columns providers row, r.parsed = .ok (columns, providers) ∧ t.rows.filter (·.origin = r.id) = [row] ∧
    row.columns = columns ∧ row.created_by_user_id = r.createdByUserId ∧ row.created_at = r.second ∧
    ((t.providers.filter (·.openground_id = row.id)).map fun p => (.ok p.columns : Except String Columns)).Perm providers
def Migrated (source : Source Columns) (t : Tables Columns) : Prop := ∀ r ∈ source.records, Appears r t
def Inserted (run : Run) (r : Record Columns) : Prop := (∃ x, r.parsed = .ok x) ∧ (run.attempt r.id).main = none

/-- Rows of records only, each of which appears. -/
structure Copied (source : Source Columns) (t : Tables Columns) : Prop where
  rows : ∀ row ∈ t.rows, ∃ r ∈ source.records, row.origin = r.id ∧ Appears r t
  once : (t.rows.map (·.origin)).Nodup

/-- The tables hold as many rows as there are records exactly if all are copied. -/
theorem Copied.length_le_iff {source : Source Columns} {t : Tables Columns} (copied : Copied source t) :
    source.records.length ≤ t.rows.length ↔ Migrated source t := by
  have within : t.rows.map (·.origin) ⊆ source.records.map (·.id) := by
    intro origin inside
    obtain ⟨row, stored, rfl⟩ := List.mem_map.mp inside
    obtain ⟨r, isRecord, same, -⟩ := copied.rows row stored
    exact same ▸ List.mem_map_of_mem isRecord
  have fits := List.subperm_of_subset copied.once within
  constructor
  · intro enough r isRecord
    have all := fits.perm_of_length_le (by simpa using enough)
    obtain ⟨row, stored, same⟩ := List.mem_map.mp (all.mem_iff.mpr (List.mem_map_of_mem isRecord))
    obtain ⟨r', isRecord', origin, appears⟩ := copied.rows row stored
    rwa [List.inj_on_of_nodup_map source.ids isRecord isRecord' (same.symm.trans origin)]
  · intro migrated
    have covers : source.records.map (·.id) ⊆ t.rows.map (·.origin) := by
      intro id inside
      obtain ⟨r, isRecord, rfl⟩ := List.mem_map.mp inside
      obtain ⟨_, _, row, -, one, -⟩ := migrated r isRecord
      obtain ⟨stored, same⟩ := List.mem_filter.mp (one ▸ List.mem_singleton_self row)
      exact List.mem_map.mpr ⟨row, stored, of_decide_eq_true same⟩
    simpa using (List.subperm_of_subset source.ids covers).length_le
theorem checked_iff {source : Source Columns} {t : Tables Columns} (copied : Copied source t) {prismaFails clickhouseFails : Bool}
    (counts : source.records ≠ [] → prismaFails = false ∧ clickhouseFails = false) :
    checkMigrationNeeded source t prismaFails clickhouseFails = false ↔ Migrated source t := by
  rw [← copied.length_le_iff]
  unfold checkMigrationNeeded
  by_cases none : source.records = []
  · simp [none]
  · obtain ⟨rfl, rfl⟩ := counts none
    simp [none]

/-- The tables and the errors after the first records of a run that has begun with none. -/
structure Loop (run : Run) (done : List (Record Columns)) (state : Tables Columns × List String) : Prop where
  rows : ∀ row ∈ state.1.rows, ∃ r ∈ done, Inserted run r ∧ row.origin = r.id ∧
    row.created_by_user_id = r.createdByUserId ∧ row.created_at = r.second
  once : (state.1.rows.map (·.origin)).Nodup
  appear : ∀ r ∈ done, Inserted run r → Appears r state.1
  clean : state.2 = [] → ∀ r ∈ done, Inserted run r
theorem copied_of_loop {source : Source Columns} {run : Run} {state : Tables Columns × List String}
    (loop : Loop run source.records state) : Copied source state.1 := by
  refine ⟨fun row inside => ?_, loop.once⟩
  obtain ⟨r, isRecord, inserted, origin, -⟩ := loop.rows row inside
  exact ⟨r, isRecord, origin, loop.appear r isRecord inserted⟩

end

section
variable {Columns : Type} [Reader Columns]
open Reader

/-- A run and the check after it. -/
structure Action where
  run : Run
  prismaFails : Bool := false
  clickhouseFails : Bool := false
def after (source : Source Columns) (t : Tables Columns) (a : Action) : Tables Columns :=
  (migrateOpengroundDataToClickhouse source t a.run).1
/-- A run without an error has copied all records, and the check after it tells if they are copied. -/
structure Right (source : Source Columns) (t : Tables Columns) (a : Action) : Prop where
  copied : (migrateOpengroundDataToClickhouse source t a.run).2.clean → Migrated source (after source t a)
  checked : checkMigrationNeeded source (after source t a) a.prismaFails a.clickhouseFails = false ↔
    Migrated source (after source t a)

/-- What has to hold for a record whose row is inserted: its texts and its time
    are read as they are, the query of the id and the insertions of its providers
    succeed, and no record of its user and its second has been inserted before it
    (unless it has no providers). -/
structure Whole (source : Source Columns) (run : Run) (r : Record Columns) (columns : Columns) (providers : List Columns) :
    Prop where
  parsed : r.parsed = .ok (columns, providers.map .ok)
  readColumns : read columns = columns
  readProviders : ∀ c ∈ providers, read c = c
  timed : zone Columns r.second = r.second
  fetched : (run.attempt r.id).fetch = none
  stored : ∀ i < providers.length, (run.attempt r.id).provider i = false
  alone : providers ≠ [] → ∀ before later, source.records = before ++ r :: later → ∀ other ∈ before, Inserted run other →
    other.createdByUserId = r.createdByUserId → other.second ≠ r.second
/-- A run inserts whole records only, and only into an empty table; and the check after it can count. -/
structure Meets (source : Source Columns) (t : Tables Columns) (a : Action) : Prop where
  whole : a.run.listing = none → ∀ r ∈ source.records, Inserted a.run r →
    t.rows = [] ∧ ∃ columns providers, Whole source a.run r columns providers
  counts : source.records ≠ [] → a.prismaFails = false ∧ a.clickhouseFails = false

/-! ### One record -/

theorem insertProviders_eq (insertedId : String) (failed : Nat → Bool) (providers : List Columns) (index : Nat) (t : Tables Columns)
    (stored : ∀ i < providers.length, failed (index + i) = false) :
    insertProviders insertedId failed index (providers.map .ok) t =
      ({ t with providers := t.providers ++ providers.map fun c => ⟨insertedId, read c⟩ }, none) := by
  induction providers generalizing index t with
  | nil => simp [insertProviders]
  | cons c providers ih =>
    have first : failed index = false := stored 0 (by simp)
    have rest : ∀ i < providers.length, failed (index + 1 + i) = false := by
      intro i inside
      rw [show index + 1 + i = index + (i + 1) by omega]
      exact stored (i + 1) (by simpa using inside)
    rw [List.map_cons, insertProviders, first, ih (index + 1) _ rest]
    simp
/-- A record that is not inserted leaves the tables, and its error is reported. -/
theorem migrateRecord_of_not_inserted {run : Run} {r : Record Columns} (missing : ¬Inserted run r) (t : Tables Columns) :
    ∃ message, migrateRecord (run.attempt r.id) r t = (t, some message) := by
  unfold migrateRecord
  cases parsed : r.parsed with
  | error message => exact ⟨message, rfl⟩
  | ok x =>
    cases main : (run.attempt r.id).main with
    | none => exact absurd ⟨⟨x, parsed⟩, main⟩ missing
    | some message => exact ⟨message, rfl⟩

/-- The tables after a whole record. -/
def withRecord (r : Record Columns) (columns : Columns) (providers : List Columns) (t : Tables Columns) : Tables Columns :=
  { rows := t.rows ++ [newRow r columns t]
    providers := t.providers ++ providers.map fun c => ⟨(newRow r columns t).id, c⟩ }

section
variable {source : Source Columns} {run : Run} {r : Record Columns} {columns : Columns} {providers : List Columns} {t : Tables Columns}

theorem newRow_id_new (r : Record Columns) (columns : Columns) (t : Tables Columns) :
    (newRow r columns t).id ∉ t.rows.map (·.id) ∧ (newRow r columns t).id ∉ t.providers.map (·.openground_id) := by
  have fresh : (newRow r columns t).id ∉ t.rows.map (·.id) ++ t.providers.map (·.openground_id) := generated_new _
  rwa [List.mem_append, not_or] at fresh
/-- Where no other row is of the user and the second, the row itself is found. -/
theorem fetchedId_own (timed : zone Columns r.second = r.second) (pick : Nat)
    (others : ∀ row ∈ t.rows, row.created_by_user_id = r.createdByUserId → row.created_at ≠ r.second) :
    fetchedId r pick { t with rows := t.rows ++ [newRow r columns t] } = some (newRow r columns t).id := by
  have none : t.rows.filter (fun row => row.created_by_user_id = r.createdByUserId ∧ row.created_at = r.second) = [] := by
    rw [List.filter_eq_nil_iff]
    intro row inside same
    have both := of_decide_eq_true same
    exact others row inside both.1 both.2
  unfold fetchedId
  rw [List.filter_append, none]
  cases pick <;> simp [newRow, timed]
theorem fetchedId_isSome (timed : zone Columns r.second = r.second) (pick : Nat) :
    (fetchedId r pick { t with rows := t.rows ++ [newRow r columns t] }).isSome = true := by
  unfold fetchedId
  rw [List.filter_append]
  simp [newRow, timed]
theorem migrateRecord_whole (whole : Whole source run r columns providers) (main : (run.attempt r.id).main = none)
    (others : providers ≠ [] → ∀ row ∈ t.rows, row.created_by_user_id = r.createdByUserId → row.created_at ≠ r.second) :
    migrateRecord (run.attempt r.id) r t = (withRecord r columns providers t, none) := by
  obtain ⟨id, found⟩ : ∃ id, fetchedId r (run.attempt r.id).pick { t with rows := t.rows ++ [newRow r columns t] } = some id :=
    Option.isSome_iff_exists.mp (fetchedId_isSome whole.timed _)
  have own : providers ≠ [] → id = (newRow r columns t).id := fun some =>
    Option.some.inj (found.symm.trans (fetchedId_own whole.timed _ (others some)))
  unfold migrateRecord
  rw [whole.parsed, main]
  dsimp only
  rw [whole.fetched, found]
  simp only [Option.isSome_none, Bool.false_eq_true, if_false]
  rw [insertProviders_eq id _ providers 0 _ (by simpa using whole.stored)]
  simp only [withRecord, Prod.mk.injEq, and_true, Tables.mk.injEq, true_and, List.append_cancel_left_eq]
  refine List.map_congr_left fun c inside => ?_
  rw [own (List.ne_nil_of_mem inside), whole.readProviders c inside]

theorem appears_other {other : Record Columns} (appears : Appears other t) (different : other.id ≠ r.id) :
    Appears other (withRecord r columns providers t) := by
  obtain ⟨columns', providers', row, parsed, one, rest⟩ := appears
  refine ⟨columns', providers', row, parsed, ?_, ?_⟩
  · have unlike : r.id ≠ other.id := fun same => different same.symm
    simp [withRecord, newRow, List.filter_append, one, unlike]
  · have inside : row ∈ t.rows := (List.mem_filter.mp (one ▸ List.mem_singleton_self row)).1
    have unlike : (newRow r columns t).id ≠ row.id := fun same =>
      (newRow_id_new r columns t).1 (same ▸ List.mem_map_of_mem inside)
    have added : (providers.map fun c => (⟨(newRow r columns t).id, c⟩ : ProviderRow Columns)).filter
        (·.openground_id = row.id) = [] := by
      rw [List.filter_eq_nil_iff]
      intro p isNew same
      obtain ⟨c, -, rfl⟩ := List.mem_map.mp isNew
      exact unlike (of_decide_eq_true same)
    simpa only [withRecord, List.filter_append, added, List.append_nil] using rest
theorem appears_own (whole : Whole source run r columns providers) (new : ∀ row ∈ t.rows, row.origin ≠ r.id) :
    Appears r (withRecord r columns providers t) := by
  refine ⟨columns, providers.map .ok, newRow r columns t, whole.parsed, ?_, whole.readColumns, rfl, whole.timed, ?_⟩
  · have none : t.rows.filter (·.origin = r.id) = [] := by
      rw [List.filter_eq_nil_iff]
      exact fun row inside same => new row inside (of_decide_eq_true same)
    rw [withRecord, List.filter_append, none]
    simp [newRow]
  · have none : t.providers.filter (·.openground_id = (newRow r columns t).id) = [] := by
      rw [List.filter_eq_nil_iff]
      exact fun p inside same => (newRow_id_new r columns t).2 (of_decide_eq_true same ▸ List.mem_map_of_mem inside)
    rw [withRecord, List.filter_append, none]
    simp [List.filter_map, Function.comp_def]

end

/-! ### The loop over the records -/

section
variable {source : Source Columns} {run : Run}

theorem migrateNext_loop {before later : List (Record Columns)} {r : Record Columns} {state : Tables Columns × List String}
    (here : source.records = before ++ r :: later)
    (whole : Inserted run r → ∃ columns providers, Whole source run r columns providers) (loop : Loop run before state) :
    Loop run (before ++ [r]) (migrateNext run.attempt state r) := by
  have different : ∀ other ∈ before, other.id ≠ r.id := by
    have ids := source.ids
    rw [here, List.map_append, List.map_cons, List.nodup_append] at ids
    exact fun other inside same => ids.2.2 _ (List.mem_map_of_mem inside) _ List.mem_cons_self same
  have new : ∀ row ∈ state.1.rows, row.origin ≠ r.id := by
    intro row inside same
    obtain ⟨other, done, -, origin, -⟩ := loop.rows row inside
    exact different other done (origin.symm.trans same)
  by_cases inserted : Inserted run r
  · obtain ⟨columns, providers, whole⟩ := whole inserted
    have others (some : providers ≠ []) (row : Row Columns) (inside : row ∈ state.1.rows)
        (user : row.created_by_user_id = r.createdByUserId) : row.created_at ≠ r.second := by
      obtain ⟨other, done, isInserted, -, user', second⟩ := loop.rows row inside
      rw [second]
      exact whole.alone some before later here other done isInserted (user'.symm.trans user)
    have next : migrateNext run.attempt state r = (withRecord r columns providers state.1, state.2) := by
      rw [migrateNext, migrateRecord_whole whole inserted.2 others]
      simp
    rw [next]
    refine ⟨fun row inside => ?_, ?_, fun other done isInserted => ?_, fun clean other done => ?_⟩
    · rcases List.mem_append.mp inside with old | added
      · obtain ⟨other, done, rest⟩ := loop.rows row old
        exact ⟨other, List.mem_append_left _ done, rest⟩
      · rw [List.mem_singleton.mp added]
        exact ⟨r, by simp, inserted, rfl, rfl, whole.timed⟩
    · rw [withRecord, List.map_append, List.nodup_append]
      refine ⟨loop.once, List.nodup_singleton _, ?_⟩
      intro origin old _ added same
      obtain ⟨row, inside, rfl⟩ := List.mem_map.mp old
      rw [List.map_singleton, List.mem_singleton] at added
      exact new row inside (same.trans added)
    · rcases List.mem_append.mp done with old | isNew
      · exact appears_other (loop.appear other old isInserted) (different other old)
      · rw [List.mem_singleton.mp isNew]
        exact appears_own whole new
    · rcases List.mem_append.mp done with old | isNew
      · exact loop.clean clean other old
      · rw [List.mem_singleton.mp isNew]
        exact inserted
  · obtain ⟨message, unmoved⟩ := migrateRecord_of_not_inserted inserted state.1
    have next : migrateNext run.attempt state r = (state.1, state.2 ++ ["Record " ++ r.id ++ ": " ++ message]) := by
      rw [migrateNext, unmoved]
      rfl
    rw [next]
    refine ⟨fun row inside => ?_, loop.once, fun other done isInserted => ?_, fun clean => by simp at clean⟩
    · obtain ⟨other, done, rest⟩ := loop.rows row inside
      exact ⟨other, List.mem_append_left _ done, rest⟩
    · rcases List.mem_append.mp done with old | isNew
      · exact loop.appear other old isInserted
      · exact absurd (List.mem_singleton.mp isNew ▸ isInserted) inserted
theorem foldl_loop (before rest : List (Record Columns)) (here : source.records = before ++ rest)
    (whole : ∀ r ∈ rest, Inserted run r → ∃ columns providers, Whole source run r columns providers)
    {state : Tables Columns × List String} (loop : Loop run before state) :
    Loop run source.records (rest.foldl (migrateNext run.attempt) state) := by
  induction rest generalizing before state with
  | nil =>
    rw [here, List.append_nil]
    exact loop
  | cons r rest ih =>
    have next := migrateNext_loop here (whole r List.mem_cons_self) loop
    exact ih (before ++ [r]) (by simp [here]) (fun other inside => whole other (List.mem_cons_of_mem _ inside)) next
/-- A run that inserts no record leaves the tables, and has an error for each record. -/
theorem foldl_of_not_inserted (records : List (Record Columns)) (missing : ∀ r ∈ records, ¬Inserted run r)
    (state : Tables Columns × List String) :
    (records.foldl (migrateNext run.attempt) state).1 = state.1 ∧
      (records.foldl (migrateNext run.attempt) state).2.length = state.2.length + records.length := by
  induction records generalizing state with
  | nil => exact ⟨rfl, rfl⟩
  | cons r records ih =>
    obtain ⟨message, unmoved⟩ := migrateRecord_of_not_inserted (missing r List.mem_cons_self) state.1
    have next : migrateNext run.attempt state r = (state.1, state.2 ++ ["Record " ++ r.id ++ ": " ++ message]) := by
      rw [migrateNext, unmoved]
      rfl
    obtain ⟨tables, errors⟩ := ih (fun other inside => missing other (List.mem_cons_of_mem _ inside)) (migrateNext run.attempt state r)
    rw [List.foldl_cons, tables, errors, next]
    refine ⟨rfl, ?_⟩
    simp only [List.length_append, List.length_cons, List.length_nil]
    omega

/-! ### The runs -/

/-- What a run does that meets its condition. -/
theorem migrate_copied {t : Tables Columns} {a : Action} (copied : Copied source t) (met : Meets source t a) :
    Copied source (after source t a) ∧
      ((migrateOpengroundDataToClickhouse source t a.run).2.clean → Migrated source (after source t a)) := by
  unfold after migrateOpengroundDataToClickhouse
  cases listing : a.run.listing with
  | some message => exact ⟨copied, False.elim⟩
  | none =>
    by_cases none : source.records = []
    · rw [if_pos none]
      refine ⟨copied, fun _ r isRecord => ?_⟩
      rw [none] at isRecord
      cases isRecord
    · rw [if_neg none]
      by_cases inserts : ∃ r ∈ source.records, Inserted a.run r
      · obtain ⟨r, isRecord, inserted⟩ := inserts
        have noRow := (met.whole listing r isRecord inserted).1
        have begun : Loop a.run [] (t, []) := by
          refine ⟨fun row inside => ?_, by simp [noRow], fun _ inside => ?_, fun _ _ inside => ?_⟩
          · rw [noRow] at inside
            cases inside
          all_goals cases inside
        have loop := foldl_loop [] source.records rfl (fun r inside inserted => (met.whole listing r inside inserted).2) begun
        refine ⟨copied_of_loop loop, fun clean r isRecord => ?_⟩
        exact loop.appear r isRecord (loop.clean clean r isRecord)
      · have missing : ∀ r ∈ source.records, ¬Inserted a.run r := fun r isRecord inserted => inserts ⟨r, isRecord, inserted⟩
        obtain ⟨tables, errors⟩ := foldl_of_not_inserted source.records missing (t, [])
        constructor
        · change Copied source (source.records.foldl (migrateNext a.run.attempt) (t, [])).1
          rw [tables]
          exact copied
        · intro clean
          change (source.records.foldl (migrateNext a.run.attempt) (t, [])).2 = [] at clean
          rw [clean] at errors
          exact absurd (List.eq_nil_of_length_eq_zero (by simpa using errors.symm)) none
/-- In every sequence of runs that meet their conditions, from empty tables, each
    run without an error has copied every record, and each check is right. -/
theorem records_copied (source : Source Columns) (actions : List Action)
    (met : ∀ before a, before ++ [a] <+: actions → Meets source (Runs.run (after source) noRows before) a) :
    ∀ before a, before ++ [a] <+: actions → Right source (Runs.run (after source) noRows before) a := by
  intro before a early
  have start : Copied source (noRows : Tables Columns) := ⟨fun row inside => (by cases inside), List.nodup_nil⟩
  have copied := run_good start (fun t a copied met => (migrate_copied copied met).1) met before
    ((List.prefix_append before [a]).trans early)
  obtain ⟨copied', complete⟩ := migrate_copied copied (met before a early)
  exact ⟨complete, checked_iff copied' (met before a early).counts⟩

end

end

/-! ### One run, and a second one -/

@[reducible] def plainReader : Reader Unit := { plainStorage with read := id, zone := id }
attribute [local instance] plainReader

/-- A record with one provider. -/
def sampleSource : Source Unit := ⟨[⟨"clx1", "user", 0, .ok ((), [.ok ()])⟩], List.nodup_singleton _⟩
theorem records_copied_once : Right sampleSource noRows { run := {} } := by
  refine records_copied sampleSource [{ run := {} }] (forall_steps_cons ⟨fun _ r isRecord _ => ⟨rfl, (), [()], ?_⟩, fun _ => ⟨rfl, rfl⟩⟩
    forall_steps_nil) [] _ (List.prefix_refl _)
  obtain rfl := List.mem_singleton.mp isRecord
  refine ⟨rfl, rfl, fun _ _ => rfl, rfl, rfl, fun _ _ => rfl, fun _ before later here other done => ?_⟩
  cases before with
  | nil => cases done
  | cons _ before => simp [sampleSource] at here
/-- The second run copies the record again. -/
theorem second_run_duplicates :
    ¬ ∀ (Columns : Type) [Reader Columns] (source : Source Columns) (actions : List Action) (before : List Action) (a : Action),
        before ++ [a] <+: actions → Right source (Runs.run (after source) noRows before) a := by
  intro all
  have right := all Unit sampleSource [{ run := {} }, { run := {} }] [{ run := {} }] _ (List.prefix_refl _)
  obtain ⟨_, _, row, -, one, -⟩ := right.copied rfl _ List.mem_cons_self
  have twice := congrArg List.length one
  cases twice

end Openlit.OpengroundCopies
