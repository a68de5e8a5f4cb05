import Mathlib.Algebra.GroupWithZero.Nat
import Mathlib.Algebra.Order.BigOperators.Group.List
import Mathlib.Algebra.Order.Group.Nat
import Openlit.Programs
import Openlit.Text

/-!
The relational database behind the client (`prisma/schema.prisma`) as far as
users, organisations and database configs go. A statement is atomic; one that
would break a unique index or a foreign key is rejected and changes nothing.
Rows stand in the order of their creation, and a `findFirst` without an order
takes the first. Times, names, passwords and avatars of users are left out.
-/
namespace Openlit.Accounts
open Openlit.Programs Openlit.Programs.Program Openlit.Text

structure Permissions where
  canEdit : Bool := false
  canDelete : Bool := false
  canShare : Bool := false
  deriving DecidableEq, Repr

structure User where
  id : String
  email : String
  hasCompletedOnboarding : Bool := false
  deriving DecidableEq, Repr
structure Organisation where
  id : String
  name : String
  slug : String
  createdByUserId : String
  deriving DecidableEq, Repr
structure OrganisationUser where
  organisationId : String
  userId : String
  role : String := "member"
  isCurrent : Bool := false
  deriving DecidableEq, Repr
structure OrganisationInvitedUser where
  id : String
  organisationId : String
  email : String
  invitedByUserId : String
  deriving DecidableEq, Repr
structure DatabaseConfig where
  id : String
  name : String
  environment : String := "production"
  username : String := "admin"
  password : Option String := none
  host : String := "127.0.0.1"
  port : String := "8123"
  database : String := "openlit"
  query : Option String := none
  createdByUserId : String
  organisationId : Option String := none
  deriving DecidableEq, Repr
structure DatabaseConfigUser where
  databaseConfigId : String
  userId : String
  isCurrent : Bool := false
  permissions : Permissions := {}
  deriving DecidableEq, Repr
structure DatabaseConfigInvitedUser where
  databaseConfigId : String
  email : String
  permissions : Permissions := {}
  deriving DecidableEq, Repr

structure Tables where
  users : List User := []
  organisations : List Organisation := []
  organisationUsers : List OrganisationUser := []
  organisationInvitedUsers : List OrganisationInvitedUser := []
  databaseConfigs : List DatabaseConfig := []
  databaseConfigUsers : List DatabaseConfigUser := []
  databaseConfigInvitedUsers : List DatabaseConfigInvitedUser := []
  deriving DecidableEq, Repr

/-! ### Constraints -/

/-- The unique indexes. A name is unique within an organisation; configs without one may share it. -/
structure Tables.Unique (t : Tables) : Prop where
  userId : (t.users.map (·.id)).Nodup
  userEmail : (t.users.map (·.email)).Nodup
  organisationId : (t.organisations.map (·.id)).Nodup
  organisationSlug : (t.organisations.map (·.slug)).Nodup
  organisationUser : (t.organisationUsers.map fun m => (m.organisationId, m.userId)).Nodup
  invitationId : (t.organisationInvitedUsers.map (·.id)).Nodup
  invitation : (t.organisationInvitedUsers.map fun i => (i.organisationId, i.email)).Nodup
  configId : (t.databaseConfigs.map (·.id)).Nodup
  configName : (t.databaseConfigs.filterMap fun c => c.organisationId.map fun o => (c.name, o)).Nodup
  link : (t.databaseConfigUsers.map fun l => (l.databaseConfigId, l.userId)).Nodup
  invite : (t.databaseConfigInvitedUsers.map fun i => (i.databaseConfigId, i.email)).Nodup
/-- The foreign keys. -/
structure Tables.References (t : Tables) : Prop where
  member : ∀ m ∈ t.organisationUsers, (∃ o ∈ t.organisations, o.id = m.organisationId) ∧ ∃ u ∈ t.users, u.id = m.userId
  invitation : ∀ i ∈ t.organisationInvitedUsers, ∃ o ∈ t.organisations, o.id = i.organisationId
  config : ∀ c ∈ t.databaseConfigs, (∀ o ∈ c.organisationId, ∃ org ∈ t.organisations, org.id = o) ∧
    ∃ u ∈ t.users, u.id = c.createdByUserId
  link : ∀ l ∈ t.databaseConfigUsers, (∃ c ∈ t.databaseConfigs, c.id = l.databaseConfigId) ∧ ∃ u ∈ t.users, u.id = l.userId
  invite : ∀ i ∈ t.databaseConfigInvitedUsers, ∃ c ∈ t.databaseConfigs, c.id = i.databaseConfigId

instance (t : Tables) : Decidable t.Unique :=
  decidable_of_iff
    ((t.users.map (·.id)).Nodup ∧ (t.users.map (·.email)).Nodup ∧ (t.organisations.map (·.id)).Nodup ∧
      (t.organisations.map (·.slug)).Nodup ∧ (t.organisationUsers.map fun m => (m.organisationId, m.userId)).Nodup ∧
      (t.organisationInvitedUsers.map (·.id)).Nodup ∧
      (t.organisationInvitedUsers.map fun i => (i.organisationId, i.email)).Nodup ∧
      (t.databaseConfigs.map (·.id)).Nodup ∧
      (t.databaseConfigs.filterMap fun c => c.organisationId.map fun o => (c.name, o)).Nodup ∧
      (t.databaseConfigUsers.map fun l => (l.databaseConfigId, l.userId)).Nodup ∧
      (t.databaseConfigInvitedUsers.map fun i => (i.databaseConfigId, i.email)).Nodup)
    ⟨fun ⟨a, b, c, d, e, f, g, h, i, j, k⟩ => ⟨a, b, c, d, e, f, g, h, i, j, k⟩,
      fun ⟨a, b, c, d, e, f, g, h, i, j, k⟩ => ⟨a, b, c, d, e, f, g, h, i, j, k⟩⟩
instance (t : Tables) : Decidable t.References :=
  decidable_of_iff
    ((∀ m ∈ t.organisationUsers, (∃ o ∈ t.organisations, o.id = m.organisationId) ∧ ∃ u ∈ t.users, u.id = m.userId) ∧
      (∀ i ∈ t.organisationInvitedUsers, ∃ o ∈ t.organisations, o.id = i.organisationId) ∧
      (∀ c ∈ t.databaseConfigs, (∀ o ∈ c.organisationId, ∃ org ∈ t.organisations, org.id = o) ∧
        ∃ u ∈ t.users, u.id = c.createdByUserId) ∧
      (∀ l ∈ t.databaseConfigUsers, (∃ c ∈ t.databaseConfigs, c.id = l.databaseConfigId) ∧
        ∃ u ∈ t.users, u.id = l.userId) ∧
      ∀ i ∈ t.databaseConfigInvitedUsers, ∃ c ∈ t.databaseConfigs, c.id = i.databaseConfigId)
    ⟨fun ⟨a, b, c, d, e⟩ => ⟨a, b, c, d, e⟩, fun ⟨a, b, c, d, e⟩ => ⟨a, b, c, d, e⟩⟩

structure Database extends Tables where
  unique : toTables.Unique
  references : toTables.References

def emptyDatabase : Database where
  toTables := {}
  unique := by decide
  references := by decide

/-! ### Statements -/

abbrev Op := Program Database String

def uniqueViolation : String := "Unique constraint failed"
def foreignKeyViolation : String := "Foreign key constraint violated"
def recordNotFound : String :=
  "An operation failed because it depends on one or more records that were required but not found."

def Tables.commit (t : Tables) : Except String Database :=
  if unique : t.Unique then
    if references : t.References then .ok { toTables := t, unique, references } else .error foreignKeyViolation
  else .error uniqueViolation
def read {α : Type} (select : Tables → α) : Op α := statement fun db => .ok (select db.toTables, db)
/-- A change of the tables, with what a statement returns of it. -/
def carryOut {α : Type} (change : Tables → Except String (α × Tables)) (db : Database) : Except String (α × Database) :=
  match change db.toTables with
  | .error e => .error e
  | .ok (a, t) =>
    match t.commit with
    | .error e => .error e
    | .ok db' => .ok (a, db')
def insert {α : Type} (change : Tables → Except String (α × Tables)) : Op α := statement (carryOut change)
def write (change : Tables → Except String Tables) : Op Unit := insert fun t => (change t).map fun t' => ((), t')
def throwIfError (condition : Bool) (message : String) : Op Unit := if condition then fail message else pure ()

/-- An id that `cuid()` or `uuid()` makes, which is never empty and which no row has yet. -/
class Ids where
  newId : List String → String
  newId_new : ∀ ids, newId ids ∉ ids
  newId_ne_empty : ∀ ids, newId ids ≠ ""

/-- A new id that is longer than all others. -/
@[reducible] def plainIds : Ids where
  newId ids := String.ofList (List.replicate ((ids.map String.length).sum + 1) 'x')
  newId_new ids taken := by
    have shorter : _ ≤ (ids.map String.length).sum := List.le_sum_of_mem (List.mem_map_of_mem taken)
    rw [String.length_ofList, List.length_replicate] at shorter
    omega
  newId_ne_empty ids empty := by
    have length := congrArg String.length empty
    rw [String.length_ofList, List.length_replicate] at length
    cases length

def Tables.user (t : Tables) (id : String) : Option User := t.users.find? (·.id = id)
def Tables.config (t : Tables) (id : String) : Option DatabaseConfig := t.databaseConfigs.find? (·.id = id)
def Tables.link (t : Tables) (databaseConfigId userId : String) : Option DatabaseConfigUser :=
  t.databaseConfigUsers.find? fun l => l.databaseConfigId = databaseConfigId ∧ l.userId = userId
def Tables.membership (t : Tables) (organisationId userId : String) : Option OrganisationUser :=
  t.organisationUsers.find? fun m => m.organisationId = organisationId ∧ m.userId = userId
/-- `databaseConfig: { organisationId }` of a link. -/
def Tables.inOrganisation (t : Tables) (l : DatabaseConfigUser) (organisationId : Option String) : Bool :=
  t.databaseConfigs.any fun c => c.id = l.databaseConfigId ∧ c.organisationId = organisationId

def createLink (link : DatabaseConfigUser) : Op Unit :=
  write fun t => .ok { t with databaseConfigUsers := t.databaseConfigUsers ++ [link] }
def updateLink (databaseConfigId userId : String) (isCurrent : Bool) : Op Unit :=
  write fun t =>
    match t.link databaseConfigId userId with
    | none => .error recordNotFound
    | some _ => .ok { t with databaseConfigUsers := t.databaseConfigUsers.map fun l =>
        if l.databaseConfigId = databaseConfigId ∧ l.userId = userId then { l with isCurrent } else l }
def createMember (member : OrganisationUser) : Op Unit :=
  write fun t => .ok { t with organisationUsers := t.organisationUsers ++ [member] }

theorem commit_eq_ok {t : Tables} {db : Database} (committed : t.commit = .ok db) : db.toTables = t := by
  unfold Tables.commit at committed
  split at committed
  · split at committed
    · obtain rfl := Except.ok.inj committed
      rfl
    · cases committed
  · cases committed
theorem commit_valid {t : Tables} (unique : t.Unique) (references : t.References) :
    t.commit = .ok { toTables := t, unique, references } := by
  rw [Tables.commit, dif_pos unique, dif_pos references]

section
variable {α β : Type} {rely guarantee : Database → Database → Prop} {post : Except String β → Database → Prop}

@[simp] theorem run_read_bind (select : Tables → α) (next : α → Op β) (db : Database) :
    (read select >>= next).run db = (next (select db.toTables)).run db := rfl
theorem ensures_read [Std.Refl guarantee] {select : Tables → α} {next : α → Op β} {db : Database}
    (after : ∀ db', rely db db' → (next (select db'.toTables)).Ensures rely guarantee post db') :
    (read select >>= next).Ensures rely guarantee post db :=
  fun db' moved => ⟨Std.Refl.refl db', after db' moved⟩
theorem ends_read {select : Tables → α} {next : α → Op β} {db : Database}
    (after : (next (select db.toTables)).Ends post db) : (read select >>= next).Ends post db := after
theorem ends_select {select : Tables → α} {post : Except String α → Database → Prop} {db : Database}
    (right : post (.ok (select db.toTables)) db) : (read select).Ends post db := right

/-- A link of a user to a config, where there is none yet, can be stored. -/
theorem newLink_valid {t : Tables} {link : DatabaseConfigUser} (unique : t.Unique) (references : t.References)
    (config : ∃ c ∈ t.databaseConfigs, c.id = link.databaseConfigId) (user : ∃ u ∈ t.users, u.id = link.userId)
    (absent : t.link link.databaseConfigId link.userId = none) :
    ({ t with databaseConfigUsers := t.databaseConfigUsers ++ [link] } : Tables).Unique ∧
      ({ t with databaseConfigUsers := t.databaseConfigUsers ++ [link] } : Tables).References := by
  refine ⟨{ unique with link := ?_ }, { references with link := ?_ }⟩
  · rw [List.map_append, List.nodup_append]
    refine ⟨unique.link, by simp, ?_⟩
    rintro _ old _ new rfl
    obtain ⟨l, inside, isKey⟩ := List.mem_map.mp old
    rw [List.map_singleton, List.mem_singleton] at new
    rw [new, Prod.mk.injEq] at isKey
    exact absurd isKey (by simpa using List.find?_eq_none.mp absent l inside)
  · intro l inside
    rcases List.mem_append.mp inside with old | new
    · exact references.link l old
    · rw [List.mem_singleton.mp new]
      exact ⟨config, user⟩

/-- A change is carried out in a database that it leaves valid, or fails. -/
theorem carryOut_cases (change : Tables → Except String (α × Tables)) (db : Database) :
    (∃ a db', change db.toTables = .ok (a, db'.toTables) ∧ carryOut change db = .ok (a, db')) ∨
      ∃ e, carryOut change db = .error e := by
  unfold carryOut
  cases changed : change db.toTables with
  | error e => exact .inr ⟨e, rfl⟩
  | ok result =>
    cases committed : result.2.commit with
    | error e => exact .inr ⟨e, by simp [committed]⟩
    | ok db' => exact .inl ⟨result.1, db', by rw [commit_eq_ok committed], by simp [committed]⟩
theorem ends_insert {change : Tables → Except String (α × Tables)} {post : Except String α → Database → Prop}
    {db : Database} (done : ∀ a db', change db.toTables = .ok (a, db'.toTables) → post (.ok a) db')
    (failed : ∀ e, post (.error e) db) : (insert change).Ends post db := by
  rw [Ends, insert, run_statement]
  rcases carryOut_cases change db with ⟨a, db', changed, returned⟩ | ⟨e, returned⟩
  · rw [returned]
    exact done a db' changed
  · rw [returned]
    exact failed e
theorem ends_write {change : Tables → Tables} {post : Except String Unit → Database → Prop} {db : Database}
    (done : ∀ db', db'.toTables = change db.toTables → post (.ok ()) db') (failed : ∀ e, post (.error e) db) :
    (write fun t => .ok (change t)).Ends post db :=
  ends_insert (fun _ db' changed => done db' (Prod.mk.inj (Except.ok.inj changed)).2.symm) failed
/-- A change that is not refused and leaves valid tables is carried out. -/
theorem ends_inserted {change : Tables → Except String (α × Tables)} {a : α} {t : Tables} {post : Except String α → Database → Prop}
    {db : Database} (accepted : change db.toTables = .ok (a, t)) (unique : t.Unique) (references : t.References)
    (done : ∀ db', db'.toTables = t → post (.ok a) db') : (insert change).Ends post db := by
  have carried : carryOut change db = .ok (a, { toTables := t, unique, references }) := by
    simp only [carryOut, accepted, commit_valid unique references]
  rw [Ends, insert, run_statement, carried]
  exact done _ rfl
theorem ends_accepted {change : Tables → Except String Tables} {t : Tables} {post : Except String Unit → Database → Prop}
    {db : Database} (accepted : change db.toTables = .ok t) (unique : t.Unique) (references : t.References)
    (done : ∀ db', db'.toTables = t → post (.ok ()) db') : (write change).Ends post db :=
  ends_inserted (by simp only [accepted, Except.map]) unique references done
/-- A change to valid tables is carried out. -/
theorem ends_valid {change : Tables → Tables} {post : Except String Unit → Database → Prop} {db : Database}
    (unique : (change db.toTables).Unique) (references : (change db.toTables).References)
    (done : ∀ db', db'.toTables = change db.toTables → post (.ok ()) db') : (write fun t => .ok (change t)).Ends post db :=
  ends_accepted rfl unique references done
/-- The same for a change that may be refused, whether it is carried out or not. -/
theorem ends_refusable {change : Tables → Except String Tables} {post : Except String Unit → Database → Prop} {db : Database}
    (done : ∀ db', change db.toTables = .ok db'.toTables → post (.ok ()) db') (failed : ∀ e, post (.error e) db) :
    (write change).Ends post db := by
  refine ends_insert (fun _ db' changed => done db' ?_) failed
  cases returned : change db.toTables with
  | error e =>
    rw [returned] at changed
    cases changed
  | ok t =>
    rw [returned] at changed
    rw [(Prod.mk.inj (Except.ok.inj changed)).2]
theorem ends_throwIfError {condition : Bool} {message : String} {next : Unit → Op β} {db : Database}
    (raised : condition = true → post (.error message) db) (passed : condition = false → (next ()).Ends post db) :
    (throwIfError condition message >>= next).Ends post db := by
  cases condition with
  | true => exact raised rfl
  | false => exact passed rfl

/-- The same for the last statement of a program. -/
theorem ends_lastThrowIfError {condition : Bool} {message : String} {post : Except String Unit → Database → Prop}
    {db : Database} (raised : condition = true → post (.error message) db) (passed : condition = false → post (.ok ()) db) :
    (throwIfError condition message).Ends post db := by
  cases condition with
  | true => exact raised rfl
  | false => exact passed rfl

theorem ensures_insert [Std.Refl guarantee] [IsTrans Database rely] {change : Tables → Except String (α × Tables)}
    {post : Except String α → Database → Prop} {db : Database}
    (done : ∀ db' a db'', rely db db' → change db'.toTables = .ok (a, db''.toTables) →
      guarantee db' db'' ∧ ∀ later, rely db'' later → post (.ok a) later)
    (failed : ∀ e later, rely db later → post (.error e) later) : (insert change).Ensures rely guarantee post db := by
  refine ensures_statement (fun db' a after moved returned => ?_) fun db' e moved _ later further =>
    failed e later (IsTrans.trans _ _ _ moved further)
  rcases carryOut_cases change db' with ⟨b, db'', changed, carried⟩ | ⟨e, carried⟩
  · rw [carried] at returned
    cases returned
    exact done db' a after moved changed
  · rw [carried] at returned
    cases returned
theorem ensures_write [Std.Refl guarantee] [IsTrans Database rely] {change : Tables → Tables}
    {post : Except String Unit → Database → Prop} {db : Database}
    (done : ∀ db' db'', rely db db' → db''.toTables = change db'.toTables →
      guarantee db' db'' ∧ ∀ later, rely db'' later → post (.ok ()) later)
    (failed : ∀ e later, rely db later → post (.error e) later) :
    (write fun t => .ok (change t)).Ensures rely guarantee post db :=
  ensures_insert (fun db' _ db'' moved changed => done db' db'' moved (Prod.mk.inj (Except.ok.inj changed)).2.symm) failed
theorem ensures_throwIfError {condition : Bool} {message : String} {next : Unit → Op β} {db : Database}
    (raised : ∀ later, rely db later → post (.error message) later)
    (passed : condition = false → (next ()).Ensures rely guarantee post db) :
    (throwIfError condition message >>= next).Ensures rely guarantee post db := by
  cases condition with
  | true => exact raised
  | false => exact passed rfl

end

section
variable {α : Type} {r : Database → Database → Prop} [Std.Refl r]

theorem within_read (select : Tables → α) : (read select).Within r := fun db => Std.Refl.refl db
theorem within_throwIfError (condition : Bool) (message : String) : (throwIfError condition message).Within r := by
  cases condition with
  | true => exact within_fail message
  | false => exact within_pure ()
theorem within_insert {change : Tables → Except String (α × Tables)}
    (kept : ∀ (db db' : Database) (a : α), change db.toTables = .ok (a, db'.toTables) → r db db') : (insert change).Within r :=
  fun db => ends_insert (fun a db' changed => kept db db' a changed) fun _ => Std.Refl.refl db
theorem within_write {change : Tables → Except String Tables}
    (kept : ∀ db db' : Database, change db.toTables = .ok db'.toTables → r db db') : (write change).Within r :=
  fun db => ends_refusable (fun db' changed => kept db db' changed) fun _ => Std.Refl.refl db

end

/-- The errors of the database itself. -/
def DatabaseError (e : String) : Prop := e = uniqueViolation ∨ e = foreignKeyViolation ∨ e = recordNotFound

theorem commit_error {t : Tables} {e : String} (rejected : t.commit = .error e) : DatabaseError e := by
  unfold Tables.commit at rejected
  split at rejected
  · split at rejected
    · cases rejected
    · exact .inr (.inl (Except.error.inj rejected).symm)
  · exact .inl (Except.error.inj rejected).symm
theorem throwsOnly_insert {α : Type} {change : Tables → Except String (α × Tables)}
    (refused : ∀ t e, change t = .error e → DatabaseError e) : (insert change).ThrowsOnly DatabaseError := by
  intro db e thrown
  rw [insert, run_statement, carryOut] at thrown
  cases changed : change db.toTables with
  | error e' =>
    simp only [changed] at thrown
    exact Except.error.inj thrown ▸ refused _ _ changed
  | ok result =>
    cases committed : result.2.commit with
    | error e' =>
      simp only [changed, committed] at thrown
      exact Except.error.inj thrown ▸ commit_error committed
    | ok db' =>
      simp only [changed, committed] at thrown
      cases thrown
theorem throwsOnly_write {change : Tables → Except String Tables} (refused : ∀ t e, change t = .error e → DatabaseError e) :
    (write change).ThrowsOnly DatabaseError := by
  refine throwsOnly_insert fun t e thrown => refused t e ?_
  cases changed : change t with
  | error e' =>
    rw [changed] at thrown
    rw [Except.error.inj thrown]
  | ok t' =>
    rw [changed] at thrown
    cases thrown
theorem throwsOnly_plainWrite (change : Tables → Tables) : (write fun t => .ok (change t)).ThrowsOnly DatabaseError :=
  throwsOnly_write fun t e thrown => by cases thrown
theorem throwsOnly_read {α : Type} (select : Tables → α) {kind : String → Prop} : (read select).ThrowsOnly kind := by
  intro db e thrown
  cases thrown

/-! ### The session -/

/-- `getCurrentUser`, for the user id in the session. -/
def getCurrentUser (session : Option String) : Op (Option User) := read fun t => session.bind t.user
def unauthorizedUser : String := "Unauthorized user!"
/-- The user of the session, or the error that all operations throw without one. -/
def currentUser (session : Option String) : Op User := do
  match ← getCurrentUser session with
  | none => fail unauthorizedUser
  | some user => pure user

theorem currentUser_run (session : Option String) (db : Database) :
    (currentUser session).run db =
      (match session.bind db.user with | none => .error unauthorizedUser | some user => .ok user, db) := by
  rw [currentUser, getCurrentUser, run_read_bind]
  cases session.bind db.user <;> rfl

theorem ends_currentUser {β : Type} {session : Option String} {next : User → Op β} {post : Except String β → Database → Prop}
    {db : Database} (known : ∀ user, session.bind db.user = some user → (next user).Ends post db)
    (unknown : post (.error unauthorizedUser) db) : (currentUser session >>= next).Ends post db := by
  refine ends_bind ?_
  rw [Ends, currentUser_run]
  cases found : session.bind db.user with
  | none => exact unknown
  | some user => exact known user found
theorem ends_knownUser {β : Type} {session : Option String} {user : User} {next : User → Op β}
    {post : Except String β → Database → Prop} {db : Database} (known : session.bind db.user = some user)
    (after : (next user).Ends post db) : (currentUser session >>= next).Ends post db := by
  rw [Ends, run_bind, currentUser_run, known]
  exact after
theorem ensures_currentUser {β : Type} {session : Option String} {next : User → Op β} {rely guarantee : Database → Database → Prop}
    [Std.Refl rely] [IsTrans Database rely] [Std.Refl guarantee] {post : Except String β → Database → Prop} {db : Database}
    (known : ∀ user db', rely db db' → session.bind db'.user = some user → (next user).Ensures rely guarantee post db')
    (unknown : ∀ later, rely db later → post (.error unauthorizedUser) later) :
    (currentUser session >>= next).Ensures rely guarantee post db := by
  refine ensures_bind (ensures_read fun db' moved => ?_)
  cases found : session.bind db'.user with
  | none =>
    intro s further later last
    exact unknown later (IsTrans.trans _ _ _ (IsTrans.trans _ _ _ moved further) last)
  | some user =>
    intro s further
    exact (known user db' moved found).moved further

theorem within_currentUser {r : Database → Database → Prop} [Std.Refl r] (session : Option String) :
    (currentUser session).Within r := by
  intro db
  rw [Ends, currentUser_run]
  exact Std.Refl.refl db

/-- An email as it is stored and looked up. -/
def normalizeEmail [CaseFolding] (email : String) : String := trim (CaseFolding.toLower email)

theorem normalizeEmail_normalizeEmail [CaseFolding] (email : String) :
    normalizeEmail (normalizeEmail email) = normalizeEmail email := by
  have lower := CaseFolding.toLower_part email _ (stripped_part isJsSpace (CaseFolding.toLower email))
  rw [String.ofList_toList] at lower
  show trim (CaseFolding.toLower (trim (CaseFolding.toLower email))) = trim (CaseFolding.toLower email)
  unfold trim
  rw [lower, stripped_stripped]

end Openlit.Accounts
