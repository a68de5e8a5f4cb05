import Openlit.Organisations

/-!
Database configs and the links of users to them (`lib/db-config.ts`), with the
sign-up that turns invites into links (`lib/user.ts`, `app/auth.ts`).
-/
namespace Openlit.DbConfigs
open Openlit.Programs Openlit.Programs.Program Openlit.Text Openlit.Accounts Openlit.Organisations

/-! ### Permissions and links -/

inductive ActionType
  | delete
  | share
  | edit
  deriving DecidableEq, Repr
/-- The switch of the source has the label `EDIT` a second time where the test
    of `canShare` stands, so `SHARE` takes the default. -/
def permissionError (permissions : Permissions) : ActionType → Option String
  | .delete =>
    if permissions.canDelete then none else some "User doesn't have permission to delete the database config"
  | .edit => if permissions.canEdit then none else some "User doesn't have permission to edit the database config"
  | .share => none
def checkPermissionForDbAction (userId databaseConfigId : String) (actionType : ActionType) : Op DatabaseConfigUser := do
  let dbUserConfig ← read (·.link databaseConfigId userId)
  match dbUserConfig with
  | none => fail "Database config doesn't exist"
  | some link =>
    match permissionError link.permissions actionType with
    | some message => fail message
    | none => pure link
def addDatabaseConfigUserEntry (userId databaseConfigId : String) (permissions : Permissions) : Op Unit := do
  let dbConfig ← read (·.config databaseConfigId)
  let existingCurrentConfigInOrg ← read (currentLink · userId (dbConfig.bind (·.organisationId)))
  createLink { databaseConfigId, userId, isCurrent := existingCurrentConfigInOrg.isNone, permissions }

/-! ### The configs of a user -/

/-- The user and the current organisation, into which the user's configs without one are moved. -/
def userAndOrganisation (session : Option String) : Op (User × Option CurrentOrganisation) := do
  let user ← currentUser session
  let currentOrg ← getCurrentOrganisation session
  match currentOrg with
  | none => pure ()
  | some org => do
    let configIds ← read (orphanedConfigIds · user.id)
    if configIds = [] then pure () else moveConfigs configIds org.id
  pure (user, currentOrg)
/-- `getDBConfigByUser(true)`. -/
def getCurrentDBConfigByUser (session : Option String) : Op (Option DatabaseConfig) := do
  let (user, currentOrg) ← userAndOrganisation session
  read fun t => (currentLink t user.id (currentOrg.map (·.id))).bind fun l => t.config l.databaseConfigId

structure ListedConfig where
  config : DatabaseConfig
  permissions : Permissions
  isCurrent : Bool
  deriving DecidableEq, Repr
/-- The listing, in the order of the configs' creation; only the first current link is shown as current. -/
def listConfigs (t : Tables) (userId : String) (organisationId : Option String) : List ListedConfig :=
  let dbUserConfigs := (t.databaseConfigs.filter (·.organisationId = organisationId)).filterMap fun c =>
    (t.link c.id userId).map fun l => (c, l)
  let currentConfig := dbUserConfigs.find? (·.2.isCurrent)
  dbUserConfigs.map fun row =>
    { config := row.1, permissions := row.2.permissions, isCurrent := currentConfig.any (·.1.id = row.1.id) }
def getDBConfigByUser (session : Option String) : Op (List ListedConfig) := do
  let (user, currentOrg) ← userAndOrganisation session
  read (listConfigs · user.id (currentOrg.map (·.id)))

def setCurrentDBConfig (session : Option String) (id : String) : Op Unit := do
  let user ← currentUser session
  let currentConfig ← getCurrentDBConfigByUser session
  match currentConfig with
  | none => pure ()
  | some config => updateLink config.id user.id false
  updateLink id user.id true

/-- The caller's link goes first, so a config that others have links or invites to keeps all but that. -/
def deleteDBConfig (session : Option String) (id : String) : Op Unit := do
  let user ← currentUser session
  let _ ← checkPermissionForDbAction user.id id .delete
  write fun t =>
    match t.link id user.id with
    | none => .error recordNotFound
    | some _ => .ok { t with databaseConfigUsers := t.databaseConfigUsers.filter fun l =>
        ¬(l.databaseConfigId = id ∧ l.userId = user.id) }
  write fun t =>
    match t.config id with
    | none => .error recordNotFound
    | some _ => .ok { t with databaseConfigs := t.databaseConfigs.filter (·.id ≠ id) }

/-- `Partial<DatabaseConfig>`, with the fields that the route passes on. -/
structure ConfigInput where
  name : Option String := none
  environment : Option String := none
  username : Option String := none
  password : Option String := none
  host : Option String := none
  port : Option String := none
  database : Option String := none
  query : Option String := none
  deriving DecidableEq, Repr
def ConfigInput.verify (input : ConfigInput) : Except String Unit :=
  if (present input.name).isNone then .error "No name provided"
  else if (present input.username).isNone then .error "No username provided"
  else if (present input.host).isNone then .error "No host provided"
  else if (present input.port).isNone then .error "No port provided"
  else if (present input.database).isNone then .error "No database provided"
  else .ok ()
/-- The fields that are given, over those that are there. -/
def ConfigInput.applyTo (input : ConfigInput) (c : DatabaseConfig) : DatabaseConfig :=
  { c with
    name := input.name.getD c.name
    environment := input.environment.getD c.environment
    username := input.username.getD c.username
    password := input.password.or c.password
    host := input.host.getD c.host
    port := input.port.getD c.port
    database := input.database.getD c.database
    query := input.query.or c.query }

section
variable [CaseFolding] [Ids]
open Ids

/-- The rows with the config of an id changed. -/
def withConfig (configs : List DatabaseConfig) (id : String) (input : ConfigInput) : List DatabaseConfig :=
  configs.map fun c => if c.id = id then input.applyTo c else c
def createConfig (input : ConfigInput) (userId : String) (organisationId : Option String) : Op String :=
  insert fun t =>
    let id := newId (t.databaseConfigs.map (·.id))
    .ok (id, { t with databaseConfigs := t.databaseConfigs ++
      [input.applyTo { id, name := "", createdByUserId := userId, organisationId }] })
def updateConfig (id : String) (input : ConfigInput) : Op String :=
  insert fun t =>
    match t.config id with
    | none => .error recordNotFound
    | some _ => .ok (id, { t with databaseConfigs := withConfig t.databaseConfigs id input })
/-- One statement that updates the config that matches a unique key, or creates one. -/
def upsertConfig (matching : DatabaseConfig → Bool) (input : ConfigInput) (userId : String) (organisationId : Option String) :
    Op String :=
  insert fun t =>
    match t.databaseConfigs.find? matching with
    | some existing => .ok (existing.id, { t with databaseConfigs := withConfig t.databaseConfigs existing.id input })
    | none =>
      let id := newId (t.databaseConfigs.map (·.id))
      .ok (id, { t with databaseConfigs := t.databaseConfigs ++
        [input.applyTo { id, name := "", createdByUserId := userId, organisationId }] })
def sameName (input : ConfigInput) (organisationId : Option String) (c : DatabaseConfig) : Bool :=
  some c.name = input.name ∧ c.organisationId = organisationId
omit [CaseFolding] [Ids] in
theorem sameName_iff {input : ConfigInput} {organisationId : Option String} {c : DatabaseConfig} :
    sameName input organisationId c = true ↔ some c.name = input.name ∧ c.organisationId = organisationId := by
  simp [sameName]
/-- The config of a new name, by the unique key where there is an organisation. -/
def createByName (input : ConfigInput) (userId : String) (organisationId : Option String) : Op String :=
  match organisationId with
  | some _ => upsertConfig (sameName input organisationId) input userId organisationId
  | none => do
    let existing ← read fun t => t.databaseConfigs.find? (sameName input none)
    match existing with
    | some found => updateConfig found.id input
    | none => createConfig input userId none
def upsertDBConfig (session : Option String) (dbConfig : ConfigInput) (id : Option String) : Op String := do
  match dbConfig.verify with
  | .error message => fail message
  | .ok _ => pure ()
  let user ← currentUser session
  let currentOrg ← getCurrentOrganisation session
  let organisationId := currentOrg.map (·.id)
  let existingDBName ← read fun t => t.databaseConfigs.find? fun c => sameName dbConfig organisationId c ∧ some c.id ≠ id
  throwIfError existingDBName.isSome "DB config Name already exists"
  match present id with
  | some configId => do
    let _ ← checkPermissionForDbAction user.id configId .edit
    let _ ← upsertConfig (·.id = configId) dbConfig user.id organisationId
    pure "Updated db details successfully"
  | none => do
    let created ← createByName dbConfig user.id organisationId
    addDatabaseConfigUserEntry user.id created { canEdit := true, canDelete := true, canShare := true }
    pure "Added db details successfully"

end

/-! ### Sharing -/

structure ShareEntry where
  email : String
  permissions : Option Permissions := none
  deriving DecidableEq, Repr
def ShareEntry.requested (entry : ShareEntry) : Permissions := entry.permissions.getD {}
/-- The permissions that both sides have. -/
def Permissions.and (p q : Permissions) : Permissions :=
  { canEdit := p.canEdit && q.canEdit, canDelete := p.canDelete && q.canDelete, canShare := p.canShare && q.canShare }
structure ShareResult where
  err : Option String
  success : Bool
  deriving DecidableEq, Repr

section
variable [CaseFolding]

def createInvite (invite : DatabaseConfigInvitedUser) : Op Unit :=
  write fun t => .ok { t with databaseConfigInvitedUsers := t.databaseConfigInvitedUsers ++ [invite] }
/-- One recipient. Only an invite is masked by what the caller holds. -/
def shareWith (id : String) (held : Permissions) (entry : ShareEntry) : Op ShareResult := do
  let normalizedEmail := normalizeEmail entry.email
  let user ← read fun t => t.users.find? (·.email = normalizedEmail)
  match user with
  | some recipient => do
    let dbConfigUser ← read (·.link id recipient.id)
    match dbConfigUser with
    | none => do
      addDatabaseConfigUserEntry recipient.id id entry.requested
      pure { err := none, success := true }
    | some _ => pure { err := some ("Already shared to " ++ normalizedEmail), success := false }
  | none => do
    let created ← attempt (createInvite { databaseConfigId := id, email := normalizedEmail
                                          permissions := Permissions.and held entry.requested })
    match created with
    | .error createErr => pure { err := some createErr, success := false }
    | .ok () => pure { err := none, success := true }
/-- The recipients are served at once; the schedule is the order of their statements. -/
def shareDBConfig (session : Option String) (schedule : List Nat) (id : String) (shareArray : List ShareEntry) :
    Op (List ShareResult) :=
  if id = "" ∨ shareArray = [] then fail "No user to share!"
  else do
    let user ← currentUser session
    let dbUserConfig ← checkPermissionForDbAction user.id id .share
    promiseAll schedule (shareArray.map (shareWith id dbUserConfig.permissions))

/-! ### Sign-up -/

def createLinks (links : List DatabaseConfigUser) : Op Unit :=
  write fun t => .ok { t with databaseConfigUsers := t.databaseConfigUsers ++ links }
def moveSharedDBConfigToDBUser (email userId : String) : Op Unit := do
  let sharedConfig ← read fun t => t.databaseConfigInvitedUsers.filter (·.email = email)
  if sharedConfig = [] then pure ()
  else
    let _ ← attempt (createLinks (sharedConfig.map fun invite =>
      { databaseConfigId := invite.databaseConfigId, userId, permissions := invite.permissions }))
    let ifNoCurrentDbConfig ← read fun t => (t.databaseConfigUsers.filter fun l => l.userId = userId ∧ l.isCurrent).length
    if ifNoCurrentDbConfig ≠ 0 then pure ()
    else
      let firstDbConfig ← read fun t => t.databaseConfigUsers.find? (·.userId = userId)
      match firstDbConfig with
      | none => pure ()
      | some first => updateLink first.databaseConfigId userId true

variable [Ids]
open Ids

def createUser (email : String) : Op User :=
  insert fun t =>
    let user : User := { id := newId (t.users.map (·.id)), email }
    .ok (user, { t with users := t.users ++ [user] })
/-- What every sign-up does for its new user. -/
def moveToNewUser (normalizedEmail userId : String) : Op Unit := do
  moveSharedDBConfigToDBUser normalizedEmail userId
  moveInvitationsToMembership normalizedEmail userId
def createNewUser (email : String) : Op User := do
  let normalizedEmail := normalizeEmail email
  let existingUser ← read fun t => t.users.find? fun u => normalizedEmail ≠ "" ∧ u.email = normalizeEmail normalizedEmail
  throwIfError existingUser.isSome "User already exists! Please signin!"
  let createdUser ← createUser normalizedEmail
  moveToNewUser normalizedEmail createdUser.id
  pure createdUser
/-- `events.createUser`, which only logs what is thrown. -/
def createUserEvent (user : User) : Op Unit :=
  if user.email = "" ∨ user.id = "" then pure ()
  else do
    let _ ← attempt (moveToNewUser (normalizeEmail user.email) user.id)
    pure ()
/-- A first sign-in with a provider, which is refused without an email. The adapter normalises it for the new user. -/
def signInByProvider (email : String) : Op User := do
  throwIfError (email = "") "AccessDenied"
  let createdUser ← createUser (normalizeEmail email)
  createUserEvent createdUser
  pure createdUser

end

end Openlit.DbConfigs
