import Openlit.Sharing

/-!
Who gets which permissions by a share, at once or at a later sign-up. An invite
is masked by the caller's own permissions and a sign-up passes an invite on as
it is, but a registered recipient gets what the caller asks for, and the test
of `canShare` is never made.
-/
namespace Openlit.SharePermissions
open Openlit.Programs Openlit.Programs.Program Openlit.Text Openlit.Accounts Openlit.Organisations Openlit.DbConfigs
  Openlit.Sharing

/-- Every permission of one side is one of the other. -/
structure Within (p held : Permissions) : Prop where
  canEdit : p.canEdit = true → held.canEdit = true
  canDelete : p.canDelete = true → held.canDelete = true
  canShare : p.canShare = true → held.canShare = true

/-- The permissions of a link that only lets its user see the config. -/
def viewOnly : Permissions := {}

theorem viewOnly_within (held : Permissions) : Within viewOnly held := ⟨nofun, nofun, nofun⟩
theorem and_within (held requested : Permissions) : Within (Permissions.and held requested) held := by
  constructor <;> simp +contextual [Permissions.and]

/-! ### Sign-up -/

section
variable {kept : List DatabaseConfigUser → Prop}

theorem shareOrganisationDatabaseConfigs_keeps (views : ∀ links l, kept links → l.permissions = viewOnly → kept (links ++ [l]))
    (organisationId userId : String) {db : Database} (start : kept db.databaseConfigUsers) :
    (shareOrganisationDatabaseConfigs organisationId userId).Ends (fun _ s => kept s.databaseConfigUsers) db := by
  refine ends_read (ends_read (ends_bind ?_))
  refine ends_foldEach (fun _ s => kept s.databaseConfigUsers) ?_ (fun _ _ holds => holds) start
  intro config _ assigned s holds
  refine ends_read ?_
  cases s.link config.id userId with
  | some _ => exact holds
  | none =>
    refine ends_bind (ends_write (fun s' created => ?_) fun _ => holds)
    show kept s'.databaseConfigUsers
    rw [created]
    exact views _ _ holds rfl

theorem moveInvitationsToMembership_keeps [CaseFolding]
    (views : ∀ links l, kept links → l.permissions = viewOnly → kept (links ++ [l]))
    (email userId : String) {db : Database} (start : kept db.databaseConfigUsers) :
    (moveInvitationsToMembership email userId).Ends (fun _ s => kept s.databaseConfigUsers) db := by
  refine ends_read ?_
  refine ends_foldEach (fun _ s => kept s.databaseConfigUsers) ?_ (fun _ _ holds => holds) start
  intro invitation _ _ s holds
  refine ends_bind (ends_write (fun s' joined => ?_) fun _ => holds)
  have holds' : kept s'.databaseConfigUsers := by rwa [joined]
  refine ends_bind ((shareOrganisationDatabaseConfigs_keeps views _ _ holds').mono fun result s'' shared => ?_)
  cases result with
  | error _ => exact shared
  | ok _ =>
    refine ends_refusable (fun s3 deleted => ?_) fun _ => shared
    show kept s3.databaseConfigUsers
    split at deleted
    · rwa [← Except.ok.inj deleted]
    · cases deleted

/-- What the links of a user to a config permit. -/
def LinksWithin (held : Permissions) (databaseConfigId userId : String) (links : List DatabaseConfigUser) : Prop :=
  ∀ l ∈ links, l.userId = userId → l.databaseConfigId = databaseConfigId → Within l.permissions held

theorem linksWithin_append {held : Permissions} {databaseConfigId userId : String} {links added : List DatabaseConfigUser}
    (old : LinksWithin held databaseConfigId userId links)
    (new : LinksWithin held databaseConfigId userId added) : LinksWithin held databaseConfigId userId (links ++ added) := by
  intro l inside
  rcases List.mem_append.mp inside with before | after
  · exact old l before
  · exact new l after

theorem moveSharedDBConfigToDBUser_within {held : Permissions} {databaseConfigId email userId : String} {db : Database}
    (start : LinksWithin held databaseConfigId userId db.databaseConfigUsers)
    (invites : ∀ i ∈ db.databaseConfigInvitedUsers, i.email = email → i.databaseConfigId = databaseConfigId →
      Within i.permissions held) :
    (moveSharedDBConfigToDBUser email userId).Ends
      (fun _ s => LinksWithin held databaseConfigId userId s.databaseConfigUsers) db := by
  refine ends_read ?_
  split
  · exact start
  have copied : (createLinks ((db.databaseConfigInvitedUsers.filter (·.email = email)).map fun invite =>
      { databaseConfigId := invite.databaseConfigId, userId, permissions := invite.permissions })).Ends
        (fun _ s => LinksWithin held databaseConfigId userId s.databaseConfigUsers) db := by
    refine ends_write (fun s created => ?_) fun _ => start
    rw [created]
    refine linksWithin_append start fun l added _ sameConfig => ?_
    obtain ⟨invite, matching, rfl⟩ := List.mem_map.mp added
    obtain ⟨member, isEmail⟩ := List.mem_filter.mp matching
    exact invites invite member (by simpa using isEmail) sameConfig
  refine ends_bind (ends_attempt (copied.mono fun _ s holds => ends_read ?_))
  split
  · exact holds
  refine ends_read ?_
  cases s.databaseConfigUsers.find? (·.userId = userId) with
  | none => exact holds
  | some first =>
    refine ends_refusable (fun s' updated => ?_) fun _ => holds
    split at updated
    · cases updated
    · rw [← Except.ok.inj updated]
      intro l inside sameUser sameConfig
      obtain ⟨old, member, rfl⟩ := List.mem_map.mp inside
      by_cases chosen : old.databaseConfigId = first.databaseConfigId ∧ old.userId = userId
      · rw [if_pos chosen] at sameUser sameConfig ⊢
        exact holds old member sameUser sameConfig
      · rw [if_neg chosen] at sameUser sameConfig ⊢
        exact holds old member sameUser sameConfig

variable [Ids]

/-- The id that a sign-up gives to its user. -/
def signUpId (t : Tables) : String := Ids.newId (t.users.map (·.id))

theorem linksWithin_signUpId (held : Permissions) (databaseConfigId : String) (db : Database) :
    LinksWithin held databaseConfigId (signUpId db.toTables) db.databaseConfigUsers := by
  intro l inside sameUser
  obtain ⟨owner, known, isOwner⟩ := (db.references.link l inside).2
  have listed : owner.id ∈ db.users.map (·.id) := List.mem_map_of_mem known
  rw [isOwner, sameUser] at listed
  exact absurd listed (Ids.newId_new _)

variable [CaseFolding]

omit [Ids] in
/-- A new user gets no more by an invite for the stored email than the invite permits. -/
theorem moveToNewUser_within {held : Permissions} {databaseConfigId email userId : String} {db : Database}
    (start : LinksWithin held databaseConfigId userId db.databaseConfigUsers)
    (invites : ∀ i ∈ db.databaseConfigInvitedUsers, i.email = email → i.databaseConfigId = databaseConfigId →
      Within i.permissions held) :
    (moveToNewUser email userId).Ends (fun _ s => LinksWithin held databaseConfigId userId s.databaseConfigUsers) db := by
  refine ends_bind ((moveSharedDBConfigToDBUser_within start invites).mono fun result s holds => ?_)
  cases result with
  | error _ => exact holds
  | ok _ =>
    refine moveInvitationsToMembership_keeps (fun links l old view => ?_) _ _ holds
    refine linksWithin_append old fun l' inside _ _ => ?_
    rw [List.mem_singleton.mp inside, view]
    exact viewOnly_within held

/-- What the invite of an email lets a sign-up with this email grant. -/
def SignUpWithin (held : Permissions) (invite : DatabaseConfigInvitedUser) (signUp : Op User) (db : Database) : Prop :=
  signUp.Ends (fun _ s => LinksWithin held invite.databaseConfigId (signUpId db.toTables) s.databaseConfigUsers) db

omit [CaseFolding] in
/-- A created user has no links, and the invite is the only one for its email and config. -/
theorem createUser_within {held : Permissions} {invite : DatabaseConfigInvitedUser} {email : String} {db : Database}
    {next : User → Op User} (pending : invite ∈ db.databaseConfigInvitedUsers) (within : Within invite.permissions held)
    (continued : ∀ user : User, ∀ s : Database, user.email = email → user.id = signUpId db.toTables →
      LinksWithin held invite.databaseConfigId user.id s.databaseConfigUsers →
      (∀ i ∈ s.databaseConfigInvitedUsers, i.email = invite.email → i.databaseConfigId = invite.databaseConfigId →
        Within i.permissions held) →
      (next user).Ends (fun _ s' => LinksWithin held invite.databaseConfigId user.id s'.databaseConfigUsers) s) :
    SignUpWithin held invite (createUser email >>= next) db := by
  have fresh := linksWithin_signUpId held invite.databaseConfigId db
  refine ends_bind (ends_insert (fun user s created => ?_) fun _ => fresh)
  obtain ⟨rfl, tables⟩ := Prod.mk.inj (Except.ok.inj created)
  refine continued _ s rfl rfl (by rwa [← tables]) fun i inside isEmail sameConfig => ?_
  rw [← tables] at inside
  obtain rfl := List.inj_on_of_nodup_map db.unique.invite inside pending (by rw [sameConfig, isEmail])
  exact within
theorem createNewUser_within {held : Permissions} {invite : DatabaseConfigInvitedUser} {email : String} {db : Database}
    (pending : invite ∈ db.databaseConfigInvitedUsers) (invited : normalizeEmail email = invite.email)
    (within : Within invite.permissions held) : SignUpWithin held invite (createNewUser email) db := by
  refine ends_read (ends_throwIfError (fun _ => linksWithin_signUpId held _ db) fun _ => ?_)
  refine createUser_within pending within fun user s _ _ unlinked invites => ?_
  refine ends_bind ((moveToNewUser_within unlinked (invited ▸ invites)).mono fun result s' holds => ?_)
  cases result with
  | error _ => exact holds
  | ok _ => exact holds
theorem signInByProvider_within {held : Permissions} {invite : DatabaseConfigInvitedUser} {email : String} {db : Database}
    (pending : invite ∈ db.databaseConfigInvitedUsers) (invited : normalizeEmail email = invite.email)
    (within : Within invite.permissions held) : SignUpWithin held invite (signInByProvider email) db := by
  refine ends_throwIfError (fun _ => linksWithin_signUpId held _ db) fun _ => ?_
  refine createUser_within pending within fun user s isEmail _ unlinked invites => ends_bind ?_
  unfold createUserEvent
  split
  · exact unlinked
  · rw [isEmail, normalizeEmail_normalizeEmail]
    exact ends_bind (ends_attempt ((moveToNewUser_within unlinked (invited ▸ invites)).mono fun _ s' holds => holds))

end

/-! ### One recipient alone -/

theorem createLink_run {link : DatabaseConfigUser} {db : Database} (config : ∃ c ∈ db.databaseConfigs, c.id = link.databaseConfigId)
    (user : ∃ u ∈ db.users, u.id = link.userId) (absent : db.link link.databaseConfigId link.userId = none) :
    ∃ db', (createLink link).run db = (.ok (), db') ∧
      db'.toTables = { db.toTables with databaseConfigUsers := db.databaseConfigUsers ++ [link] } := by
  obtain ⟨unique, references⟩ := newLink_valid db.unique db.references config user absent
  refine ⟨⟨_, unique, references⟩, ?_, rfl⟩
  rw [createLink, write, Openlit.Accounts.insert, run_statement, carryOut]
  simp only [Except.map, commit_valid unique references]

section
variable [CaseFolding] {id : String} {held : Permissions} {entry : ShareEntry} {db : Database}

theorem shareWith_run {recipient : User} (config : ∃ c ∈ db.databaseConfigs, c.id = id)
    (known : db.users.find? (·.email = normalizeEmail entry.email) = some recipient)
    (absent : db.link id recipient.id = none) :
    ∃ db', (shareWith id held entry).run db = (.ok { err := none, success := true }, db') ∧
      ∃ l ∈ db'.databaseConfigUsers, l.databaseConfigId = id ∧ l.userId = recipient.id ∧ l.permissions = entry.requested := by
  obtain ⟨db', created, tables⟩ := @createLink_run
    { databaseConfigId := id, userId := recipient.id, permissions := entry.requested,
      isCurrent := (currentLink db.toTables recipient.id ((db.config id).bind (·.organisationId))).isNone } db config
    ⟨recipient, List.mem_of_find?_eq_some known, rfl⟩ absent
  refine ⟨db', ?_, ?_⟩
  · rw [shareWith, run_read_bind, known]
    simp only [run_read_bind, absent]
    rw [run_bind, addDatabaseConfigUserEntry, run_read_bind, run_read_bind, created]
    rfl
  · rw [tables]
    exact ⟨_, List.mem_append_right _ (List.mem_singleton.mpr rfl), rfl, rfl, rfl⟩

/-- No recipient throws where the config is there, so a share alone succeeds. -/
theorem shareWith_succeeds (config : ∃ c ∈ db.databaseConfigs, c.id = id) :
    ∃ result, ((shareWith id held entry).run db).1 = .ok result := by
  cases known : db.users.find? (·.email = normalizeEmail entry.email) with
  | some recipient =>
    cases linked : db.link id recipient.id with
    | some l =>
      rw [shareWith, run_read_bind, known]
      simp only [run_read_bind, linked]
      exact ⟨_, rfl⟩
    | none =>
      obtain ⟨db', ran, -⟩ := @shareWith_run _ id held entry db recipient config known linked
      exact ⟨_, by rw [ran]⟩
  | none =>
    rw [shareWith, run_read_bind, known]
    simp only [run_bind, run_attempt]
    split
    · exact ⟨_, rfl⟩
    · exact ⟨_, rfl⟩

end

/-! ### The whole share -/

/-- The permissions of the caller's link to the config, none where there is no link. -/
def callerPermissions (t : Tables) (session : Option String) (id : String) : Permissions :=
  (((session.bind t.user).bind fun user => t.link id user.id).map (·.permissions)).getD viewOnly

section
variable [CaseFolding]

omit [CaseFolding] in
theorem checkPermissionForDbAction_run (userId id : String) (actionType : ActionType) (db : Database) :
    (checkPermissionForDbAction userId id actionType).run db =
      (match db.link id userId with
      | none => .error "Database config doesn't exist"
      | some link =>
        match permissionError link.permissions actionType with
        | some message => .error message
        | none => .ok link, db) := by
  rw [checkPermissionForDbAction, run_read_bind]
  cases db.link id userId with
  | none => rfl
  | some link =>
    cases allowed : permissionError link.permissions actionType with
    | none => simp only [allowed, run_pure]
    | some message => simp only [allowed, run_fail]
/-- The test of the share passes with any link to the config. -/
theorem shareDBConfig_run {session : Option String} {id : String} {entries : List ShareEntry} {db : Database} {user : User}
    {link : DatabaseConfigUser} (hasId : id ≠ "") (hasEntries : entries ≠ []) (known : session.bind db.user = some user)
    (linked : db.link id user.id = some link) (schedule : List Nat) :
    (shareDBConfig session schedule id entries).run db =
      (promiseAll schedule (entries.map (shareWith id link.permissions))).run db := by
  rw [shareDBConfig, if_neg (not_or.mpr ⟨hasId, hasEntries⟩), run_bind, currentUser_run, known]
  simp only
  rw [run_bind, checkPermissionForDbAction_run, linked]
  rfl
/-- A share throws and changes nothing, or serves its recipients. -/
theorem shareDBConfig_cases (session : Option String) (schedule : List Nat) (id : String) (entries : List ShareEntry)
    (db : Database) :
    (∃ e, (shareDBConfig session schedule id entries).run db = (.error e, db)) ∨
    ∃ user link, id ≠ "" ∧ entries ≠ [] ∧ session.bind db.user = some user ∧ db.link id user.id = some link := by
  by_cases given : id = "" ∨ entries = []
  · rw [shareDBConfig, if_pos given]
    exact .inl ⟨_, rfl⟩
  rw [shareDBConfig, if_neg given, run_bind, currentUser_run]
  cases session.bind db.user with
  | none => exact .inl ⟨unauthorizedUser, rfl⟩
  | some user =>
    simp only
    rw [run_bind, checkPermissionForDbAction_run]
    cases linked : db.link id user.id with
    | none => exact .inl ⟨_, rfl⟩
    | some link => exact .inr ⟨user, link, (not_or.mp given).1, (not_or.mp given).2, rfl, linked⟩

variable [Ids]

/-- What a share may do: succeed for a caller who may share, and grant what the
    caller has, to users by new links and to others by what a sign-up with the
    email of a new invite makes of it in any later state. -/
structure ShareSound (session : Option String) (id : String) (db : Database) (result : Except String (List ShareResult))
    (db' : Database) : Prop where
  permitted : ∀ results, result = .ok results → (callerPermissions db.toTables session id).canShare = true
  links : ∀ l ∈ db'.databaseConfigUsers,
    l ∈ db.databaseConfigUsers ∨ Within l.permissions (callerPermissions db.toTables session id)
  invites : ∀ invite ∈ db'.databaseConfigInvitedUsers, invite ∈ db.databaseConfigInvitedUsers ∨
    ∀ (later : Database) (email : String), invite ∈ later.databaseConfigInvitedUsers → normalizeEmail email = invite.email →
      SignUpWithin (callerPermissions db.toTables session id) invite (createNewUser email) later ∧
        SignUpWithin (callerPermissions db.toTables session id) invite (signInByProvider email) later

/-- The caller may share, and asks for no more than the caller has for anyone
    who is registered and has no link to the config yet. -/
def AsksOwn (session : Option String) (id : String) (entries : List ShareEntry) (t : Tables) : Prop :=
  ∀ user link, session.bind t.user = some user → t.link id user.id = some link → link.permissions.canShare = true ∧
    ∀ entry ∈ entries, ∀ recipient ∈ t.users, recipient.email = normalizeEmail entry.email →
      t.link id recipient.id = none → Within entry.requested link.permissions

omit [CaseFolding] [Ids] in
theorem callerPermissions_eq {t : Tables} {session : Option String} {id : String} {user : User} {link : DatabaseConfigUser}
    (known : session.bind t.user = some user) (linked : t.link id user.id = some link) :
    callerPermissions t session id = link.permissions := by
  rw [callerPermissions, known, Option.bind_some, linked]
  rfl

omit [Ids] in
/-- A recipient served alone succeeds where the config is there, and leaves it there. -/
theorem shareWith_ends {id : String} {held : Permissions} {entries : List ShareEntry} {p : Op ShareResult} {db : Database}
    (member : p ∈ entries.map (shareWith id held)) (config : ∃ c ∈ db.databaseConfigs, c.id = id) :
    p.Ends (fun result s => (∃ a, result = .ok a) ∧ ∃ c ∈ s.databaseConfigs, c.id = id) db := by
  obtain ⟨entry, -, rfl⟩ := List.mem_map.mp member
  refine ⟨shareWith_succeeds config, ?_⟩
  have moved := (@shareWith_shares id (fun _ => True) _ held entry db (fun _ _ _ _ => trivial) trivial).run.1
  rwa [moved.grows.configs]
/-- What holds of a share that asks for no more than its caller has. -/
theorem shareDBConfig_sound {session : Option String} {id : String} {entries : List ShareEntry} {db : Database}
    (asked : id ≠ "" → entries ≠ [] → AsksOwn session id entries db.toTables) (schedule : List Nat) :
    ShareSound session id db ((shareDBConfig session schedule id entries).run db).1
      ((shareDBConfig session schedule id entries).run db).2 := by
  rcases shareDBConfig_cases session schedule id entries db with ⟨e, ran⟩ | ⟨user, link, hasId, hasEntries, known, linked⟩
  · rw [ran]
    exact ⟨nofun, fun _ => .inl, fun _ => .inl⟩
  · obtain ⟨mayShare, own⟩ := asked hasId hasEntries user link known linked
    have held := callerPermissions_eq known linked
    obtain ⟨-, -, -, newLinks, newInvites⟩ := (@shareAll_shares id (Within · link.permissions) _ link.permissions entries db
      schedule own fun entry _ => and_within link.permissions entry.requested).grows
    rw [shareDBConfig_run hasId hasEntries known linked]
    refine ⟨fun _ _ => held ▸ mayShare, ?_, ?_⟩
    · intro l inside
      rw [held]
      rcases newLinks l inside with old | ⟨-, within⟩
      · exact .inl old
      · exact .inr within
    · intro invite inside
      rw [held]
      rcases newInvites invite inside with old | within
      · exact .inl old
      · exact .inr fun later email pending invited =>
          ⟨createNewUser_within pending invited within, signInByProvider_within pending invited within⟩

omit [Ids] in
/-- Some order of the statements serves a given recipient before the others. -/
theorem shareAll_grants {id : String} {held : Permissions} {entries : List ShareEntry} {entry : ShareEntry} {recipient : User}
    {db : Database} (config : ∃ c ∈ db.databaseConfigs, c.id = id) (member : entry ∈ entries) (known : recipient ∈ db.users)
    (isEmail : recipient.email = normalizeEmail entry.email) (absent : db.link id recipient.id = none) :
    ∃ schedule, ∃ l ∈ ((promiseAll schedule (entries.map (shareWith id held))).run db).2.databaseConfigUsers,
      l ∉ db.databaseConfigUsers ∧ l.permissions = entry.requested := by
  have found : db.users.find? (·.email = normalizeEmail entry.email) = some recipient := by
    cases search : db.users.find? (·.email = normalizeEmail entry.email) with
    | none => exact absurd isEmail (by simpa using List.find?_eq_none.mp search recipient known)
    | some first =>
      have same : first.email = normalizeEmail entry.email := by simpa using List.find?_some search
      rw [List.inj_on_of_nodup_map db.unique.userEmail (List.mem_of_find?_eq_some search) known (same.trans isEmail.symm)]
  obtain ⟨i, inside, here⟩ := List.getElem_of_mem (List.mem_map_of_mem member : shareWith id held entry ∈ entries.map (shareWith id held))
  obtain ⟨db', ran, l, new, sameConfig, sameUser, asked⟩ := @shareWith_run _ id held entry db recipient config found absent
  obtain ⟨schedule, same⟩ := run_interleave_first (shareWith id held entry)
    (List.getElem?_eq_some_iff.mpr ⟨inside, here⟩) db
  refine ⟨schedule, l, ?_, ?_, asked⟩
  · have others : ∀ p ∈ (entries.map (shareWith id held)).set i (done ((shareWith id held entry).run db).1),
        p.Ensures (Shares id fun _ => True) (Shares id fun _ => True) (fun _ _ => True) db' := by
      intro p inside'
      rcases List.mem_or_eq_of_mem_set inside' with old | rfl
      · obtain ⟨_, -, rfl⟩ := List.mem_map.mp old
        exact shareWith_shares (fun _ _ _ _ => trivial) trivial
      · exact fun _ _ => trivial
    rw [run_promiseAll, same, ran]
    rw [ran] at others
    exact (ensures_inOrder others).run.1.grows.links l new
  · intro old
    exact List.find?_eq_none.mp absent l old (by simp [sameConfig, sameUser])

end

/-- Two users, and a config that the first may only see. -/
def sampleDatabase : Database where
  toTables := { users := [{ id := "ann", email := "ann@example.com" }, { id := "bob", email := "bob@example.com" }]
                databaseConfigs := [{ id := "prod", name := "prod", createdByUserId := "ann" }]
                databaseConfigUsers := [{ databaseConfigId := "prod", userId := "ann", isCurrent := true }] }
  unique := by decide
  references := by decide

section
attribute [local instance] asciiFolding plainIds

end

end Openlit.SharePermissions
