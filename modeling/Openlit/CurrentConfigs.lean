import Mathlib.Logic.Relation
import Openlit.CurrentLinks
import Openlit.SharePermissions

/-!
Runs of requests. A user has one current link at most in each organisation as
long as no config is moved into an organisation where a user who has a current
link to it has another, and nobody sets a config of an organisation other than
the own current one where another is set.
-/
namespace Openlit.CurrentConfigs
open Openlit.Programs Openlit.Programs.Program Openlit.Text Openlit.Accounts Openlit.Organisations Openlit.DbConfigs
  Openlit.Sharing Openlit.SharePermissions Openlit.CurrentLinks

/-! ### Organisations and sign-up -/

theorem setCurrentOrganisation_keeps (session : Option String) (organisationId : String) :
    KeepsSingle (setCurrentOrganisation session organisationId) := by
  refine keeps_bind (keeps_currentUser session) fun user => keeps_bind (keeps_read _) fun membership => ?_
  refine keeps_bind (keeps_throwIfError _ _) fun _ => keeps_other fun t t' changed => ?_
  cases changed
  exact ⟨rfl, rfl⟩

/-- A first link is set for a user who has no current one anywhere. -/
theorem moveSharedDBConfigToDBUser_keeps (email userId : String) : KeepsSingle (moveSharedDBConfigToDBUser email userId) := by
  refine keeps_bind (keeps_read _) fun sharedConfig => ?_
  split
  · exact keeps_pure ()
  have copied : KeepsSingle (createLinks (sharedConfig.map fun invite =>
      { databaseConfigId := invite.databaseConfigId, userId, permissions := invite.permissions })) := by
    refine keeps_write fun db db' changed single => ?_
    have tables := (Except.ok.inj changed).symm
    refine singleCurrent_of_current single (by rw [tables]) fun l inside current => ?_
    rw [tables] at inside
    rcases List.mem_append.mp inside with old | added
    · exact old
    · obtain ⟨invite, -, rfl⟩ := List.mem_map.mp added
      cases current
  refine keeps_bind (keeps_attempt copied) fun _ db single => ends_read ?_
  split
  · exact single
  rename_i none
  rw [ne_eq, not_not, List.length_eq_zero_iff] at none
  have noCurrent : ∀ l ∈ db.databaseConfigUsers, l.userId = userId → l.isCurrent = true → False := by
    intro l inside ofUser current
    have listed : l ∈ db.databaseConfigUsers.filter fun l => l.userId = userId ∧ l.isCurrent :=
      List.mem_filter.mpr ⟨inside, by simp [ofUser, current]⟩
    rw [none] at listed
    cases listed
  refine ends_read ?_
  cases db.databaseConfigUsers.find? (·.userId = userId) with
  | none => exact single
  | some first => exact setLink_ends single fun _ _ _ _ l inside ofUser current _ _ _ => (noCurrent l inside ofUser current).elim

theorem joinByInvitation_keeps (invitation : OrganisationInvitedUser) (userId : String) :
    KeepsSingle (joinByInvitation invitation userId) := by
  refine keeps_bind (createMember_keeps _) fun _ => keeps_bind (shareOrganisationDatabaseConfigs_keeps _ _) fun _ => ?_
  refine keeps_other fun t t' changed => ?_
  split at changed
  · cases changed
    exact ⟨rfl, rfl⟩
  · cases changed
theorem createUser_keeps [Ids] (email : String) : KeepsSingle (createUser email) := by
  refine keeps_insert fun db db' user changed single => ?_
  have tables := (Prod.mk.inj (Except.ok.inj changed)).2.symm
  exact singleCurrent_of_current single (by rw [tables]) fun l inside _ => by rwa [tables] at inside

section
variable [CaseFolding]

theorem acceptInvitation_keeps (session : Option String) (invitationId : String) :
    KeepsSingle (acceptInvitation session invitationId) := by
  refine keeps_bind (keeps_currentUser session) fun user => keeps_bind (keeps_read _) fun invitation => ?_
  cases invitation with
  | none => exact keeps_fail _
  | some found => exact keeps_bind (keeps_throwIfError _ _) fun _ => joinByInvitation_keeps found user.id
theorem moveToNewUser_keeps (email userId : String) : KeepsSingle (moveToNewUser email userId) := by
  refine keeps_bind (moveSharedDBConfigToDBUser_keeps email userId) fun _ => keeps_bind (keeps_read _) fun invitations => ?_
  exact keeps_foldEach (fun _ invitation => joinByInvitation_keeps invitation userId) invitations ()

theorem shareDBConfig_keeps (session : Option String) (schedule : List Nat) (id : String) (entries : List ShareEntry) :
    KeepsSingle (shareDBConfig session schedule id entries) := by
  intro db single
  rcases shareDBConfig_cases session schedule id entries db with ⟨e, ran⟩ | ⟨user, link, hasId, hasEntries, known, linked⟩
  · rw [Ends, ran]
    exact single
  · rw [Ends, shareDBConfig_run hasId hasEntries known linked]
    exact (@shareAll_shares id (fun _ => True) _ link.permissions entries db schedule (fun _ _ _ _ _ _ => trivial)
      fun _ _ => trivial).single single

variable [Ids]

theorem createNewUser_keeps (email : String) : KeepsSingle (createNewUser email) := by
  refine keeps_bind (keeps_read _) fun existingUser => keeps_bind (keeps_throwIfError _ _) fun _ => ?_
  refine keeps_bind (createUser_keeps _) fun createdUser => ?_
  exact keeps_bind (moveToNewUser_keeps _ createdUser.id) fun _ => keeps_pure createdUser
theorem signInByProvider_keeps (email : String) : KeepsSingle (signInByProvider email) := by
  refine keeps_bind (keeps_throwIfError _ _) fun _ => ?_
  refine keeps_bind (createUser_keeps _) fun createdUser => keeps_bind ?_ fun _ => keeps_pure createdUser
  unfold createUserEvent
  split
  · exact keeps_pure ()
  · exact keeps_bind (keeps_attempt (moveToNewUser_keeps _ createdUser.id)) fun _ => keeps_pure ()
theorem inviteUserToOrganisation_keeps (session : Option String) (organisationId email : String) :
    KeepsSingle (inviteUserToOrganisation session organisationId email) := by
  refine keeps_bind (keeps_currentUser session) fun user => ?_
  refine keeps_bind (keeps_bind (keeps_read _) fun _ => keeps_pure _) fun hasPermission => ?_
  refine keeps_bind (keeps_throwIfError _ _) fun _ => keeps_bind (keeps_throwIfError _ _) fun _ => ?_
  refine keeps_bind (keeps_throwIfError _ _) fun _ => keeps_bind (keeps_read _) fun existingUser => ?_
  cases existingUser with
  | some existing =>
    refine keeps_bind (keeps_read _) fun _ => keeps_bind (keeps_throwIfError _ _) fun _ => ?_
    refine keeps_bind (createMember_keeps _) fun _ => ?_
    exact keeps_bind (shareOrganisationDatabaseConfigs_keeps organisationId existing.id) fun _ => keeps_pure _
  | none =>
    refine keeps_bind (keeps_read _) fun _ => keeps_bind (keeps_throwIfError _ _) fun _ => keeps_bind ?_ fun _ => keeps_pure _
    exact keeps_other fun t t' changed => by cases changed; exact ⟨rfl, rfl⟩

end

/-! ### Migration -/

section
variable {db : Database} {userId organisationId : String}

theorem moveConfigs_ends {post : Except String Unit → Database → Prop}
    (moved : ∀ s : Database, s.databaseConfigUsers = db.databaseConfigUsers →
      s.databaseConfigs = movedTo db.databaseConfigs (orphanedConfigIds db.toTables userId) organisationId → post (.ok ()) s)
    (failed : ∀ e, post (.error e) db) :
    (moveConfigs (orphanedConfigIds db.toTables userId) organisationId).Ends post db := by
  refine ends_write (fun s changed => moved s ?_ ?_) failed
  · rw [changed]
  · rw [changed]
    rfl
/-- An organisation that no stored one has the id of has no configs. -/
theorem migrationSafe_of_new {t : Tables} (configs : t.databaseConfigs = db.databaseConfigs)
    (fresh : organisationId ∉ db.organisations.map (·.id)) : MigrationSafe t userId organisationId := by
  intro l _ _ _ _ _ _ inOrg
  obtain ⟨c, member, -, isOrg⟩ := (inOrganisation_iff _ _ _).mp inOrg
  rw [configs] at member
  obtain ⟨organisation, known, isOrganisation⟩ := (db.references.config c member).1 organisationId isOrg
  exact absurd (isOrganisation ▸ List.mem_map_of_mem known) fresh
theorem migrateSharedUser_keeps (organisationId sharedUserId : String) :
    KeepsSingle (migrateSharedUser organisationId sharedUserId) := by
  refine keeps_bind (keeps_read _) fun existingMembership => keeps_bind (keeps_read _) fun hasCurrentOrg => ?_
  have shared : KeepsSingle (do
      shareOrganisationDatabaseConfigs organisationId sharedUserId
      completeOnboarding sharedUserId) :=
    keeps_bind (shareOrganisationDatabaseConfigs_keeps _ _) fun _ => completeOnboarding_keeps sharedUserId
  split
  · exact keeps_bind (createMember_keeps _) fun _ => shared
  split
  · exact keeps_bind (setCurrentMembership_keeps _ _) fun _ => shared
  · exact shared
theorem migrateUserConfigsToOrganisation_ends (single : SingleCurrent db.toTables)
    (safe : MigrationSafe db.toTables userId organisationId) :
    (migrateUserConfigsToOrganisation organisationId userId).Ends (fun _ s => SingleCurrent s.toTables) db := by
  refine ends_read ?_
  split
  · exact single
  refine ends_bind (moveConfigs_ends (fun s links configs => ends_read ?_) fun _ => single)
  exact keeps_foldEach (fun _ sharedUserId => migrateSharedUser_keeps organisationId sharedUserId) _ () s
    ((singleCurrent_movedTo_iff single links configs db.unique).mpr safe)

variable [CaseFolding]

/-- A new organisation has no configs yet. -/
theorem createOrganisation_keeps [Ids] (session : Option String) (name : String) (randomSuffixes : List String) :
    KeepsSingle (createOrganisation session name randomSuffixes) := by
  refine keeps_bind (keeps_currentUser session) fun user db single => ends_bind ?_
  refine (generateUniqueOrganisationSlug_ends name _).mono ?_
  rintro slug start rfl
  cases slug with
  | error _ => exact single
  | ok slug =>
    refine ends_bind (ends_insert (fun id s created => ?_) fun _ => single)
    obtain ⟨isId, tables⟩ := Prod.mk.inj (Except.ok.inj created)
    have kept : SingleCurrent s.toTables :=
      singleCurrent_of_current single (by rw [← tables]) fun l inside _ => by rwa [← tables] at inside
    refine ends_bind (ends_write (fun s' joined => ?_) fun _ => kept)
    have single' : SingleCurrent s'.toTables :=
      singleCurrent_of_current kept (by rw [joined]) fun l inside _ => by rwa [joined] at inside
    have safe : MigrationSafe s'.toTables user.id id :=
      @migrationSafe_of_new start user.id id _ (by rw [joined, ← tables]) (isId ▸ Ids.newId_new _)
    refine ends_bind ((migrateUserConfigsToOrganisation_ends single' safe).mono fun result s'' ended => ?_)
    cases result with
    | error _ => exact ended
    | ok _ => exact ended

end

/-! ### The configs of the caller -/

/-- The tables once the caller's configs without an organisation are in the current one, if there is one. -/
structure Migrated (t t' : Tables) (userId : String) (currentOrg : Option CurrentOrganisation) : Prop where
  links : t'.databaseConfigUsers = t.databaseConfigUsers
  configs : t'.databaseConfigs = match currentOrg with
    | none => t.databaseConfigs
    | some org => movedTo t.databaseConfigs (orphanedConfigIds t userId) org.id
/-- If the names let the configs of the caller move into the current organisation, no current links meet there. -/
def CallerSafe (t : Tables) (session : Option String) : Prop :=
  ∀ user org, session.bind t.user = some user → currentOrganisation t user.id = some org → NamesFit t user.id org.id →
    MigrationSafe t user.id org.id

section
variable {session : Option String} {db : Database}

theorem movedTo_nil (configs : List DatabaseConfig) (organisationId : String) : movedTo configs [] organisationId = configs := by
  simp [movedTo]
theorem ends_getCurrentOrganisation {β : Type} {user : User} {next : Option CurrentOrganisation → Op β}
    {post : Except String β → Database → Prop} (known : session.bind db.user = some user)
    (after : (next (currentOrganisation db.toTables user.id)).Ends post db) :
    (getCurrentOrganisation session >>= next).Ends post db := by
  rw [Ends, run_bind, getCurrentOrganisation, run_bind, currentUser_run, known]
  exact after
theorem userAndOrganisation_ends {post : Except String (User × Option CurrentOrganisation) → Database → Prop}
    (failed : ∀ e, post (.error e) db)
    (done : ∀ user s, session.bind db.user = some user →
      Migrated db.toTables s.toTables user.id (currentOrganisation db.toTables user.id) →
        post (.ok (user, currentOrganisation db.toTables user.id)) s) : (userAndOrganisation session).Ends post db := by
  refine ends_currentUser (fun user known => ends_getCurrentOrganisation known ?_) (failed _)
  have finish := done user
  revert finish
  cases currentOrganisation db.toTables user.id with
  | none => exact fun finish => finish db known ⟨rfl, rfl⟩
  | some org =>
    refine fun finish => ends_read ?_
    split
    · rename_i none
      exact finish db known ⟨rfl, by simp only [none, movedTo_nil]⟩
    · exact ends_bind (moveConfigs_ends (fun s links configs => finish s known ⟨links, configs⟩) failed)
/-- A move that a database has made fits. -/
theorem namesFit_of_migrated {user : User} {s : Database} {org : CurrentOrganisation}
    (current : currentOrganisation db.toTables user.id = some org)
    (migrated : Migrated db.toTables s.toTables user.id (currentOrganisation db.toTables user.id)) :
    NamesFit db.toTables user.id org.id := by
  have configs := migrated.configs
  rw [current] at configs
  have fit := s.unique.configName
  rwa [configs] at fit
/-- The move keeps at most one current link of each user in an organisation, if it is safe. -/
theorem singleCurrent_of_migrated {user : User} {s : Database} (single : SingleCurrent db.toTables)
    (safe : CallerSafe db.toTables session) (known : session.bind db.user = some user)
    (migrated : Migrated db.toTables s.toTables user.id (currentOrganisation db.toTables user.id)) :
    SingleCurrent s.toTables := by
  obtain ⟨links, configs⟩ := id migrated
  cases current : currentOrganisation db.toTables user.id with
  | none =>
    rw [current] at configs
    exact singleCurrent_of_current single configs fun l inside _ => links ▸ inside
  | some org =>
    have fit := namesFit_of_migrated current migrated
    rw [current] at configs
    exact (singleCurrent_movedTo_iff single links configs db.unique).mpr (safe user org known current fit)
theorem getDBConfigByUser_ends (single : SingleCurrent db.toTables) (safe : CallerSafe db.toTables session) :
    (getDBConfigByUser session).Ends (fun _ s => SingleCurrent s.toTables) db :=
  ends_bind (userAndOrganisation_ends (fun _ => single) fun _ _ known migrated =>
    singleCurrent_of_migrated single safe known migrated)
theorem getCurrentDBConfigByUser_ends (single : SingleCurrent db.toTables) (safe : CallerSafe db.toTables session) :
    (getCurrentDBConfigByUser session).Ends (fun _ s => SingleCurrent s.toTables) db :=
  ends_bind (userAndOrganisation_ends (fun _ => single) fun _ _ known migrated =>
    singleCurrent_of_migrated single safe known migrated)

/-- No other current link of the caller is in the organisation of the config, unless that one is current. -/
def SwitchSafe (t : Tables) (session : Option String) (id : String) : Prop :=
  ∀ user, session.bind t.user = some user → (∀ org, currentOrganisation t user.id = some org → NamesFit t user.id org.id) →
    ∀ link ∈ t.databaseConfigUsers, link.databaseConfigId = id → link.userId = user.id →
    ∀ l ∈ t.databaseConfigUsers, l.userId = user.id → l.isCurrent = true → l.databaseConfigId ≠ id →
      ∀ organisationId, some organisationId ≠ (currentOrganisation t user.id).map (·.id) →
        t.inOrganisation l (some organisationId) = true → t.inOrganisation link (some organisationId) = false

/-- After the move a link outside the current organisation is in one where it was before. -/
theorem inOrganisation_before {user : User} {s : Tables} {l : DatabaseConfigUser} {o : Option String}
    (migrated : Migrated db.toTables s user.id (currentOrganisation db.toTables user.id)) (member : l ∈ db.databaseConfigUsers)
    (ofUser : l.userId = user.id) (inOrg : s.inOrganisation l o = true)
    (outside : o ≠ (currentOrganisation db.toTables user.id).map (·.id)) :
    db.inOrganisation l o = true ∧ ∃ organisationId, o = some organisationId := by
  have configs := migrated.configs
  cases current : currentOrganisation db.toTables user.id with
  | none =>
    rw [current] at configs outside
    rw [Tables.inOrganisation, configs] at inOrg
    exact ⟨inOrg, Option.ne_none_iff_exists'.mp outside⟩
  | some org =>
    rw [current] at configs outside
    by_cases moved : l.databaseConfigId ∈ orphanedConfigIds db.toTables user.id
    · exact absurd (inOrganisation_moved configs moved inOrg) outside
    · rw [inOrganisation_kept configs moved] at inOrg
      refine ⟨inOrg, Option.ne_none_iff_exists'.mp ?_⟩
      rintro rfl
      exact moved ((mem_orphanedConfigIds _ _ _).mpr ⟨l, member, ofUser, inOrg, rfl⟩)

theorem apart_outside {user : User} {s : Database} {id : String} (switch : SwitchSafe db.toTables session id)
    (known : session.bind db.user = some user)
    (migrated : Migrated db.toTables s.toTables user.id (currentOrganisation db.toTables user.id)) {link l : DatabaseConfigUser}
    (linked : link ∈ s.databaseConfigUsers) (isId : link.databaseConfigId = id) (isUser : link.userId = user.id)
    (member : l ∈ s.databaseConfigUsers) (ofUser : l.userId = user.id)
    (current : l.isCurrent = true) (other : l.databaseConfigId ≠ id) {o : Option String} (inOrg : s.inOrganisation l o = true)
    (outside : o ≠ (currentOrganisation db.toTables user.id).map (·.id)) : s.inOrganisation link o = false := by
  rw [migrated.links] at member linked
  obtain ⟨before, organisationId, rfl⟩ := inOrganisation_before migrated member ofUser inOrg outside
  rw [Bool.eq_false_iff]
  intro inside
  have there := (inOrganisation_before migrated linked isUser inside outside).1
  have fit (org : CurrentOrganisation) (current : currentOrganisation db.toTables user.id = some org) :
      NamesFit db.toTables user.id org.id := namesFit_of_migrated current migrated
  rw [switch user known fit link linked isId isUser l member ofUser current other organisationId outside before] at there
  cases there
/-- The only current link of a user in an organisation is the one that is looked up there. -/
theorem current_in_scope {s : Database} {userId : String} {scope : Option String} {l : DatabaseConfigUser}
    (single : SingleCurrent s.toTables) (member : l ∈ s.databaseConfigUsers) (ofUser : l.userId = userId)
    (current : l.isCurrent = true) (inOrg : s.inOrganisation l scope = true) :
    ∃ c, ((currentLink s.toTables userId scope).bind fun found => s.config found.databaseConfigId) = some c ∧
      c.id = l.databaseConfigId := by
  cases search : currentLink s.toTables userId scope with
  | none =>
    rw [(currentLink_eq_none_iff _ _ _).mp search l member ofUser current] at inOrg
    cases inOrg
  | some found =>
    have isFound : found.userId = userId ∧ found.isCurrent = true ∧ s.inOrganisation found scope = true := by
      simpa using List.find?_some search
    obtain rfl := single found (List.mem_of_find?_eq_some search) l member (isFound.1.trans ofUser.symm) isFound.2.1 current
      scope isFound.2.2 inOrg
    obtain ⟨c, stored, isId⟩ := (s.references.link found member).1
    cases lookup : s.config found.databaseConfigId with
    | none => exact absurd isId (by simpa using List.find?_eq_none.mp lookup c stored)
    | some c' => exact ⟨c', lookup, by simpa using List.find?_some lookup⟩

theorem setCurrentDBConfig_ends {id : String} (single : SingleCurrent db.toTables) (safe : CallerSafe db.toTables session)
    (switch : SwitchSafe db.toTables session id) :
    (setCurrentDBConfig session id).Ends (fun _ s => SingleCurrent s.toTables) db := by
  refine ends_currentUser (fun user known => ends_bind (ends_bind ?_)) single
  refine userAndOrganisation_ends (fun _ => single) fun caller s known' migrated => ?_
  cases known.symm.trans known'
  have kept := singleCurrent_of_migrated single safe known migrated
  refine ends_select ?_
  cases search : (currentLink s.toTables user.id ((currentOrganisation db.toTables user.id).map (·.id))).bind
      fun l => s.config l.databaseConfigId with
  | none =>
    refine setLink_ends kept fun link linked isId isUser l member ofUser current other o inOrg => ?_
    by_cases scope : o = (currentOrganisation db.toTables user.id).map (·.id)
    · obtain ⟨c, found, -⟩ := current_in_scope kept member ofUser current (scope ▸ inOrg)
      rw [search] at found
      cases found
    · exact apart_outside switch known migrated linked isId isUser member ofUser current other inOrg scope
  | some config =>
    refine ends_bind (updateLink_ends (fun _ s' _ configs links => ?_) fun _ => kept)
    have cleared : SingleCurrent s'.toTables :=
      singleCurrent_of_current kept configs fun l inside current => (current_of_cleared links inside current).1
    have scopes (l : DatabaseConfigUser) (o : Option String) : s'.inOrganisation l o = s.inOrganisation l o := by
      rw [Tables.inOrganisation, configs, Tables.inOrganisation]
    refine setLink_ends cleared fun link linked isId isUser l inside ofUser current other o inOrg => ?_
    obtain ⟨member, unchosen⟩ := current_of_cleared links inside current
    rw [scopes] at inOrg ⊢
    by_cases scope : o = (currentOrganisation db.toTables user.id).map (·.id)
    · obtain ⟨c, found, isConfig⟩ := current_in_scope kept member ofUser current (scope ▸ inOrg)
      cases search.symm.trans found
      exact absurd ⟨isConfig.symm, ofUser⟩ unchosen
    · obtain ⟨before, linked', sameConfig, sameUser⟩ := key_of_cleared links linked
      have outside := apart_outside switch known migrated linked' (sameConfig.trans isId) (sameUser.trans isUser) member ofUser
        current other inOrg scope
      rwa [Tables.inOrganisation, sameConfig] at outside

end

/-! ### Runs -/

/-- What users ask for. Joining an organisation shares its configs, and creating one moves configs into it. -/
inductive Request
  | getDBConfigByUser (session : Option String)
  | getCurrentDBConfigByUser (session : Option String)
  | setCurrentDBConfig (session : Option String) (id : String)
  | upsertDBConfig (session : Option String) (dbConfig : ConfigInput) (id : Option String)
  | shareDBConfig (session : Option String) (schedule : List Nat) (id : String) (shareArray : List ShareEntry)
  | createNewUser (email : String)
  | signInByProvider (email : String)
  | createOrganisation (session : Option String) (name : String) (randomSuffixes : List String)
  | setCurrentOrganisation (session : Option String) (organisationId : String)
  | inviteUserToOrganisation (session : Option String) (organisationId email : String)
  | acceptInvitation (session : Option String) (invitationId : String)

/-- What keeps a request from making a second current link. -/
def Covered (t : Tables) : Request → Prop
  | .getDBConfigByUser session => CallerSafe t session
  | .getCurrentDBConfigByUser session => CallerSafe t session
  | .setCurrentDBConfig session id => CallerSafe t session ∧ SwitchSafe t session id
  | _ => True

section
variable [CaseFolding] [Ids]

/-- The database after a request, whether it succeeds or not. -/
def serve (db : Database) : Request → Database
  | .getDBConfigByUser session => ((DbConfigs.getDBConfigByUser session).run db).2
  | .getCurrentDBConfigByUser session => ((DbConfigs.getCurrentDBConfigByUser session).run db).2
  | .setCurrentDBConfig session id => ((DbConfigs.setCurrentDBConfig session id).run db).2
  | .upsertDBConfig session dbConfig id => ((DbConfigs.upsertDBConfig session dbConfig id).run db).2
  | .shareDBConfig session schedule id shareArray => ((DbConfigs.shareDBConfig session schedule id shareArray).run db).2
  | .createNewUser email => ((DbConfigs.createNewUser email).run db).2
  | .signInByProvider email => ((DbConfigs.signInByProvider email).run db).2
  | .createOrganisation session name randomSuffixes =>
    ((Organisations.createOrganisation session name randomSuffixes).run db).2
  | .setCurrentOrganisation session organisationId => ((Organisations.setCurrentOrganisation session organisationId).run db).2
  | .inviteUserToOrganisation session organisationId email =>
    ((Organisations.inviteUserToOrganisation session organisationId email).run db).2
  | .acceptInvitation session invitationId => ((Organisations.acceptInvitation session invitationId).run db).2

inductive Step (allowed : Tables → Request → Prop) : Database → Database → Prop
  | request {db : Database} {req : Request} : allowed db.toTables req → Step allowed db (serve db req)

theorem serve_single {db : Database} {req : Request} (single : SingleCurrent db.toTables) (covered : Covered db.toTables req) :
    SingleCurrent (serve db req).toTables := by
  cases req with
  | getDBConfigByUser session => exact getDBConfigByUser_ends single covered
  | getCurrentDBConfigByUser session => exact getCurrentDBConfigByUser_ends single covered
  | setCurrentDBConfig session id => exact setCurrentDBConfig_ends single covered.1 covered.2
  | upsertDBConfig session dbConfig id => exact upsertDBConfig_keeps session dbConfig id db single
  | shareDBConfig session schedule id shareArray => exact shareDBConfig_keeps session schedule id shareArray db single
  | createNewUser email => exact createNewUser_keeps email db single
  | signInByProvider email => exact signInByProvider_keeps email db single
  | createOrganisation session name randomSuffixes => exact createOrganisation_keeps session name randomSuffixes db single
  | setCurrentOrganisation session organisationId => exact setCurrentOrganisation_keeps session organisationId db single
  | inviteUserToOrganisation session organisationId email =>
    exact inviteUserToOrganisation_keeps session organisationId email db single
  | acceptInvitation session invitationId => exact acceptInvitation_keeps session invitationId db single

end

theorem emptyDatabase_single : SingleCurrent emptyDatabase.toTables := nofun

section
attribute [local instance] asciiFolding plainIds

def sampleInput (name : String) : ConfigInput :=
  { name := some name, username := some "admin", host := some "127.0.0.1", port := some "8123", database := some "openlit" }
/-- Ann has a config in her organisation, and Bob shares one without an organisation with her. -/
def sharedOrphan : List Request :=
  [.createNewUser "ann@example.com", .createOrganisation (some "x") "Acme" ["a1"], .setCurrentOrganisation (some "x") "x",
    .upsertDBConfig (some "x") (sampleInput "main") none, .createNewUser "bob@example.com",
    .upsertDBConfig (some "xx") (sampleInput "staging") none, .shareDBConfig (some "xx") [] "xx" [{ email := "ann@example.com" }],
    .getDBConfigByUser (some "x")]

theorem run_of_requests (requests : List Request) (db : Database) :
    Relation.ReflTransGen (Step fun _ _ => True) db (requests.foldl serve db) := by
  induction requests generalizing db with
  | nil => exact .refl
  | cons req rest ih => exact .head (.request trivial) (ih (serve db req))
end

end Openlit.CurrentConfigs
