import Openlit.OrganisationLinks
import Openlit.Runs

/-!
Runs of requests that create, share and move database configs. Joining an
organisation and the migration that comes with a new one make the users of its
configs members; the share with a registered user, the sign-up of an invited one
and the migration of the listing do not look. A run in which these concern
members only leaves no link to a config of an organisation without a membership.
-/
namespace Openlit.LinkedRuns
open Openlit.Programs Openlit.Programs.Program Openlit.Text Openlit.Accounts Openlit.Organisations Openlit.DbConfigs
  Openlit.Memberships Openlit.OrganisationRoles Openlit.Sharing Openlit.CurrentLinks Openlit.Invitations Openlit.OrganisationLinks

/-! ### Sharing -/

/-- The tables while a config is shared: links to it are added, of some users. -/
structure Offers (id : String) (recipient : String → Prop) (db db' : Database) : Prop where
  users : db'.users = db.users
  configs : db'.databaseConfigs = db.databaseConfigs
  members : db'.organisationUsers = db.organisationUsers
  newLinks : ∀ l ∈ db'.databaseConfigUsers, l ∈ db.databaseConfigUsers ∨ l.databaseConfigId = id ∧ recipient l.userId

instance (id : String) (recipient : String → Prop) : IsPreorder Database (Offers id recipient) where
  refl _ := ⟨rfl, rfl, rfl, fun _ => .inl⟩
  trans a b c ab bc := by
    refine ⟨bc.users.trans ab.users, bc.configs.trans ab.configs, bc.members.trans ab.members, fun l inside => ?_⟩
    rcases bc.newLinks l inside with middle | new
    · exact ab.newLinks l middle
    · exact .inr new

section
variable {id : String} {recipient : String → Prop}

theorem addDatabaseConfigUserEntry_offers {userId : String} (invited : recipient userId) (permissions : Permissions) (db : Database) :
    (addDatabaseConfigUserEntry userId id permissions).Ensures (Offers id recipient) (Offers id recipient) (fun _ _ => True) db := by
  refine ensures_read fun _ _ => ensures_read fun _ _ => ensures_write (fun s s' _ created => ⟨?_, fun _ _ => trivial⟩)
    fun _ _ _ => trivial
  refine ⟨by rw [created], by rw [created], by rw [created], fun l inside => ?_⟩
  rw [created, List.mem_append, List.mem_singleton] at inside
  rcases inside with old | rfl
  · exact .inl old
  · exact .inr ⟨rfl, invited⟩

variable [CaseFolding]

theorem shareWith_offers {held : Permissions} {entry : ShareEntry} {db : Database}
    (invited : ∀ user ∈ db.users, user.email = normalizeEmail entry.email → recipient user.id) :
    (shareWith id held entry).Ensures (Offers id recipient) (Offers id recipient) (fun _ _ => True) db := by
  refine ensures_read fun s moved => ?_
  rw [moved.users]
  cases known : db.users.find? (·.email = normalizeEmail entry.email) with
  | some user =>
    have isEmail : user.email = normalizeEmail entry.email := by simpa using List.find?_some known
    refine ensures_read fun s' _ => ?_
    cases s'.link id user.id with
    | some l => exact ensures_pure fun _ _ => trivial
    | none =>
      have offered : (addDatabaseConfigUserEntry user.id id entry.requested).Ensures (Offers id recipient) (Offers id recipient)
          (fun _ _ => True) s' :=
        addDatabaseConfigUserEntry_offers (invited user (List.mem_of_find?_eq_some known) isEmail) entry.requested s'
      refine ensures_bind (offered.consequence (fun _ _ same => same) ?_)
      rintro (_ | _) _ -
      · exact fun _ _ => trivial
      · exact ensures_pure fun _ _ => trivial
  | none =>
    have created : (createInvite { databaseConfigId := id, email := normalizeEmail entry.email
                                   permissions := Permissions.and held entry.requested }).Ensures
        (Offers id recipient) (Offers id recipient) (fun _ _ => True) s := by
      refine ensures_write (fun s s' _ written => ⟨?_, fun _ _ => trivial⟩) fun _ _ _ => trivial
      refine ⟨by rw [written], by rw [written], by rw [written], fun l inside => ?_⟩
      rw [written] at inside
      exact .inl inside
    refine ensures_bind (ensures_attempt (created.consequence (fun _ _ same => same) ?_))
    rintro (_ | _) _ -
    · exact ensures_pure fun _ _ => trivial
    · exact ensures_pure fun _ _ => trivial

/-- The user is a member of the organisation that the config is in, if it is in one. -/
def MayLink (t : Tables) (id userId : String) : Prop :=
  ∀ c ∈ t.databaseConfigs, c.id = id → ∀ o, c.organisationId = some o → Member t o userId
/-- A share of a config of an organisation, if it comes to that, is with members of it. -/
def SharesWithMembers (t : Tables) (session : Option String) (id : String) (shareArray : List ShareEntry) : Prop :=
  ∀ user, session.bind t.user = some user → (t.link id user.id).isSome = true → id ≠ "" →
    ∀ entry ∈ shareArray, ∀ recipient ∈ t.users, recipient.email = normalizeEmail entry.email → MayLink t id recipient.id

theorem shareDBConfig_linked {db : Database} (linked : Linked db.toTables) {session : Option String} (schedule : List Nat)
    {shareArray : List ShareEntry} (members : SharesWithMembers db.toTables session id shareArray) :
    (shareDBConfig session schedule id shareArray).Ends (fun _ s => Linked s.toTables) db := by
  rcases SharePermissions.shareDBConfig_cases session schedule id shareArray db with
    ⟨e, ran⟩ | ⟨user, link, hasId, hasEntries, known, found⟩
  · rw [Ends, ran]
    exact linked
  rw [Ends, SharePermissions.shareDBConfig_run hasId hasEntries known found, run_promiseAll]
  have each : ∀ p ∈ shareArray.map (shareWith id link.permissions),
      p.Ensures (Offers id (MayLink db.toTables id)) (Offers id (MayLink db.toTables id)) (fun _ _ => True) db := by
    intro p inside
    obtain ⟨entry, listed, rfl⟩ := List.mem_map.mp inside
    exact shareWith_offers (members user known (by rw [found]; rfl) hasId entry listed)
  obtain ⟨offers, -⟩ := (ensures_interleave schedule each).run
  rintro o u ⟨l, inside, rfl, inOrg⟩
  rw [Tables.inOrganisation, offers.configs] at inOrg
  rw [Member, offers.members]
  rcases offers.newLinks l inside with old | ⟨isId, allowed⟩
  · exact linked o l.userId ⟨l, old, rfl, inOrg⟩
  · obtain ⟨c, stored, isConfig, isOrg⟩ := (inOrganisation_iff _ _ _).mp inOrg
    exact allowed c stored (isConfig.trans isId) o isOrg
end

/-! ### Listing -/

section
variable {db : Database}

/-- Those who have links to the configs that a listing moves, if it comes to that, are members of the organisation. -/
def MovesAmongMembers (t : Tables) (session : Option String) : Prop :=
  ∀ user org, session.bind t.user = some user → currentOrganisation t user.id = some org → NamesFit t user.id org.id →
    ∀ l ∈ t.databaseConfigUsers, l.databaseConfigId ∈ orphanedConfigIds t user.id → Member t org.id l.userId

theorem userAndOrganisation_rolls (session : Option String) :
    (userAndOrganisation session).Within CurrentOrganisations.SameRolls := by
  refine within_bind (within_currentUser session) fun user => ?_
  refine within_bind (within_bind (within_currentUser session) fun _ => within_read _) fun currentOrg => ?_
  cases currentOrg with
  | none => exact within_pure _
  | some org =>
    refine within_bind (within_read _) fun configIds => ?_
    split
    · exact within_pure _
    · exact within_bind (CurrentOrganisations.moveConfigs_rolls configIds org.id) fun _ => within_pure _
theorem linked_of_migrated {session : Option String} {user : User} {s : Database} (linked : Linked db.toTables)
    (moves : MovesAmongMembers db.toTables session) (known : session.bind db.user = some user)
    (migrated : CurrentConfigs.Migrated db.toTables s.toTables user.id (currentOrganisation db.toTables user.id))
    (members : s.organisationUsers = db.organisationUsers) : Linked s.toTables := by
  rintro o u ⟨l, inside, rfl, inOrg⟩
  rw [migrated.links] at inside
  rw [Member, members]
  have configs := migrated.configs
  cases current : currentOrganisation db.toTables user.id with
  | none =>
    rw [current] at configs
    rw [Tables.inOrganisation, configs] at inOrg
    exact linked o l.userId ⟨l, inside, rfl, inOrg⟩
  | some org =>
    have fit := CurrentConfigs.namesFit_of_migrated current migrated
    rw [current] at configs
    by_cases moved : l.databaseConfigId ∈ orphanedConfigIds db.toTables user.id
    · obtain rfl := Option.some.inj (inOrganisation_moved configs moved inOrg)
      exact moves user org known current fit l inside moved
    · rw [inOrganisation_kept configs moved] at inOrg
      exact linked o l.userId ⟨l, inside, rfl, inOrg⟩
theorem userAndOrganisation_linked {session : Option String} (linked : Linked db.toTables)
    (moves : MovesAmongMembers db.toTables session) :
    (userAndOrganisation session).Ends (fun _ s => Linked s.toTables) db := by
  have rolls := userAndOrganisation_rolls session db
  have ended : (userAndOrganisation session).Ends
      (fun _ s => s.organisationUsers = db.organisationUsers → Linked s.toTables) db :=
    CurrentConfigs.userAndOrganisation_ends (fun _ _ => linked) fun _ _ known migrated members =>
      linked_of_migrated linked moves known migrated members
  exact (rolls.and ended).mono fun _ _ both => both.2 both.1.members
/-- After the listing nothing moves. -/
theorem listing_linked {α : Type} {session : Option String} {next : User × Option CurrentOrganisation → Op α}
    (linked : Linked db.toTables) (moves : MovesAmongMembers db.toTables session) (rest : ∀ caller, (next caller).Within Steady) :
    (userAndOrganisation session >>= next).Ends (fun _ s => Linked s.toTables) db := by
  refine ends_bind ((userAndOrganisation_linked linked moves).mono ?_)
  rintro (_ | caller) s ended
  · exact ended
  · exact ends_linked ended (rest caller)
theorem setCurrentDBConfig_linked {session : Option String} (id : String) (linked : Linked db.toTables)
    (moves : MovesAmongMembers db.toTables session) : (setCurrentDBConfig session id).Ends (fun _ s => Linked s.toTables) db := by
  refine ends_currentUser (fun user _ => ends_bind (Ends.mono (listing_linked linked moves fun _ => within_read _) ?_)) linked
  rintro (_ | currentConfig) s ended
  · exact ended
  refine ends_linked ended ?_
  cases currentConfig with
  | none => exact updateLink_steady id user.id true
  | some config => exact within_bind (updateLink_steady config.id user.id false) fun _ => updateLink_steady id user.id true
end

/-! ### Sign-up -/

section
variable {s : Database} {owed : String → String → Prop}

/-- The links that a new user gets by invites may owe memberships. -/
theorem moveSharedDBConfigToDBUser_linked {email userId : String} (linked : LinkedBut owed s.toTables)
    (owes : ∀ invite ∈ s.databaseConfigInvitedUsers, invite.email = email → ∀ c ∈ s.databaseConfigs,
      c.id = invite.databaseConfigId → ∀ o, c.organisationId = some o → owed o userId) :
    (moveSharedDBConfigToDBUser email userId).Ends (fun _ s' => LinkedBut owed s'.toTables) s := by
  refine ends_read ?_
  split
  · exact linked
  refine ends_bind (ends_attempt ?_)
  have copied : (createLinks ((s.databaseConfigInvitedUsers.filter (·.email = email)).map fun invite =>
      { databaseConfigId := invite.databaseConfigId, userId, permissions := invite.permissions })).Ends
      (fun _ s' => LinkedBut owed s'.toTables) s := by
    refine ends_write (fun s' tables => ?_) fun _ => linked
    rintro o u ⟨l, inside, rfl, inOrg⟩
    rw [tables] at inside inOrg
    rw [tables]
    rcases List.mem_append.mp inside with old | added
    · exact linked o l.userId ⟨l, old, rfl, inOrg⟩
    · obtain ⟨invite, invited, rfl⟩ := List.mem_map.mp added
      obtain ⟨stored, isEmail⟩ : invite ∈ s.databaseConfigInvitedUsers ∧ invite.email = email := by simpa using invited
      obtain ⟨c, known, isId, isOrg⟩ := (inOrganisation_iff _ _ _).mp inOrg
      exact .inr (owes invite stored isEmail c known isId o isOrg)
  refine copied.mono fun _ s₁ linked₁ => ends_read ?_
  split
  · exact linked₁
  refine ends_read ?_
  cases s₁.databaseConfigUsers.find? (·.userId = userId) with
  | none => exact linked₁
  | some first => exact Ends.mono (updateLink_steady first.databaseConfigId userId true s₁) fun _ _ moved => linked₁.steady moved

variable [CaseFolding]

theorem moveToNewUser_owing {email userId : String} (linked : LinkedBut owed s.toTables)
    (owes : ∀ invite ∈ s.databaseConfigInvitedUsers, invite.email = email → ∀ c ∈ s.databaseConfigs,
      c.id = invite.databaseConfigId → ∀ o, c.organisationId = some o → owed o userId) :
    (moveToNewUser email userId).Ends (fun _ s' => LinkedBut owed s'.toTables) s := by
  refine ends_bind ((moveSharedDBConfigToDBUser_linked linked owes).mono ?_)
  rintro (_ | _) s₁ linked₁
  · exact linked₁
  refine ends_read (ends_foldEach (fun _ s' => LinkedBut owed s'.toTables) (fun invitation _ _ start right => ?_)
    (fun _ _ right => right) linked₁)
  refine Ends.mono (join_linked { organisationId := invitation.organisationId, userId } right fun _ =>
    deleteInvitation_steady invitation.id) ?_
  rintro (_ | _) s₂ right₂
  · exact right₂
  · exact right₂

/-- Who is invited to a config of an organisation by an email is invited to the organisation by it. -/
def InvitedWith (t : Tables) (email : String) : Prop :=
  ∀ invite ∈ t.databaseConfigInvitedUsers, invite.email = email → ∀ c ∈ t.databaseConfigs, c.id = invite.databaseConfigId →
    ∀ o, c.organisationId = some o → ∃ i ∈ t.organisationInvitedUsers, i.email = email ∧ i.organisationId = o
theorem moveToNewUser_linked {email userId : String} (normal : normalizeEmail email = email) (linked : Linked s.toTables)
    (user : ∃ u ∈ s.users, u.id = userId) (absent : ∀ m ∈ s.organisationUsers, m.userId ≠ userId)
    (invited : InvitedWith s.toTables email) : (moveToNewUser email userId).Ends (fun _ s' => Linked s'.toTables) s := by
  have owing := moveToNewUser_owing
    (linkedBut_of_linked linked fun o u => u = userId ∧ ∃ i ∈ s.organisationInvitedUsers, i.email = email ∧ i.organisationId = o)
    fun invite stored isEmail c known isId o isOrg => ⟨rfl, invited invite stored isEmail c known isId o isOrg⟩
  refine (owing.and (moveToNewUser_succeeds normal user absent)).mono fun _ s' ⟨right, _, _, _, joined⟩ => ?_
  refine linked_of_linkedBut right ?_
  rintro o _ ⟨rfl, i, pending, isEmail, rfl⟩
  exact joined i pending isEmail

/-- The sign-up is by an email that is registered, or whose invites to configs of organisations come with invitations. -/
def SignsUpInvited (t : Tables) (email : String) : Prop :=
  (∀ u ∈ t.users, u.email ≠ normalizeEmail email) → InvitedWith t (normalizeEmail email)

variable [Ids] {db : Database}

theorem createUser_linked {email : String} {post : Except String User → Database → Prop} (linked : Linked db.toTables)
    (created : ∀ (user : User) (s : Database), user.email = normalizeEmail email → user.id ≠ "" → Linked s.toTables →
      (∃ u ∈ s.users, u.id = user.id) → (∀ m ∈ s.organisationUsers, m.userId ≠ user.id) →
      (SignsUpInvited db.toTables email → InvitedWith s.toTables (normalizeEmail email)) → post (.ok user) s)
    (failed : ∀ e, post (.error e) db) : (createUser (normalizeEmail email)).Ends post db := by
  refine createUser_ends (fun user s isEmail named member absent tables => ?_) failed
  have unknown : ∀ u ∈ db.users, u.email ≠ normalizeEmail email := by
    intro u known same
    have distinct := s.unique.userEmail
    rw [tables, List.map_append, List.nodup_append] at distinct
    exact distinct.2.2 _ (List.mem_map_of_mem known) user.email (by simp) (same.trans isEmail.symm)
  refine created user s isEmail named ?_ ⟨user, member, rfl⟩ absent fun invited => ?_
  · rw [tables]
    exact linked
  · rw [tables]
    exact invited unknown
theorem createNewUser_linked {email : String} (linked : Linked db.toTables) (invited : SignsUpInvited db.toTables email) :
    (createNewUser email).Ends (fun _ s => Linked s.toTables) db := by
  refine ends_read (ends_throwIfError (fun _ => linked) fun _ => ends_bind (createUser_linked linked ?_ fun _ => linked))
  intro user s _ _ linked' member absent invited'
  have normal := normalizeEmail_normalizeEmail email
  refine ends_bind ((moveToNewUser_linked normal linked' member absent (invited' invited)).mono ?_)
  rintro (_ | _) s' right
  · exact right
  · exact right
theorem signInByProvider_linked {email : String} (linked : Linked db.toTables)
    (invited : normalizeEmail email ≠ "" → SignsUpInvited db.toTables email) :
    (signInByProvider email).Ends (fun _ s => Linked s.toTables) db := by
  refine ends_throwIfError (fun _ => linked) fun _ => ends_bind (createUser_linked linked ?_ fun _ => linked)
  intro user s isEmail named linked' member absent invited'
  refine ends_bind ?_
  unfold createUserEvent
  rw [isEmail, normalizeEmail_normalizeEmail]
  split
  · exact linked'
  · rename_i signedUp
    have normal := normalizeEmail_normalizeEmail email
    exact ends_bind (ends_attempt ((moveToNewUser_linked normal linked' member absent
      (invited' (invited (not_or.mp signedUp).1))).mono fun _ _ right => right))
end

/-! ### Migration -/

section
variable {s : Database} {owed : String → String → Prop} {organisationId userId : String}

theorem member_of_keeps {db db' : Database} (keeps : Keeps db db') {o u : String} (member : Member db.toTables o u) :
    Member db'.toTables o u := by
  obtain ⟨m, inside, isOrganisation, isUser⟩ := member
  obtain ⟨m', inside', sameOrganisation, sameUser, -⟩ := keeps m inside
  exact ⟨m', inside', sameOrganisation.trans isOrganisation, sameUser.trans isUser⟩
theorem organisation_of_member {o u : String} (member : Member s.toTables o u) : ∃ organisation ∈ s.organisations, organisation.id = o := by
  obtain ⟨m, inside, rfl, -⟩ := member
  exact (s.references.member m inside).1

/-- The onboarding of users is no part of a key. -/
theorem setUsers_valid {t : Tables} {f : User → User} (same : ∀ u, (f u).id = u.id ∧ (f u).email = u.email) (unique : t.Unique)
    (references : t.References) :
    ({ t with users := t.users.map f } : Tables).Unique ∧ ({ t with users := t.users.map f } : Tables).References := by
  have kept {id : String} (known : ∃ u ∈ t.users, u.id = id) : ∃ u ∈ t.users.map f, u.id = id := by
    obtain ⟨u, inside, isUser⟩ := known
    exact ⟨f u, List.mem_map_of_mem inside, (same u).1.trans isUser⟩
  have ids : (t.users.map f).map (·.id) = t.users.map (·.id) := by
    rw [List.map_map]
    exact List.map_congr_left fun u _ => (same u).1
  have emails : (t.users.map f).map (·.email) = t.users.map (·.email) := by
    rw [List.map_map]
    exact List.map_congr_left fun u _ => (same u).2
  refine ⟨{ unique with userId := ?_, userEmail := ?_ }, { references with member := ?_, config := ?_, link := ?_ }⟩
  · rw [ids]
    exact unique.userId
  · rw [emails]
    exact unique.userEmail
  · exact fun m inside => ⟨(references.member m inside).1, kept (references.member m inside).2⟩
  · exact fun c inside => ⟨(references.config c inside).1, kept (references.config c inside).2⟩
  · exact fun l inside => ⟨(references.link l inside).1, kept (references.link l inside).2⟩
theorem completeOnboarding_succeeds (user : ∃ u ∈ s.users, u.id = userId) :
    (completeOnboarding userId).Ends (fun result _ => result = .ok ()) s := by
  obtain ⟨found, looked⟩ : ∃ u, s.user userId = some u := by
    obtain ⟨u, known, isUser⟩ := user
    exact Option.isSome_iff_exists.mp (List.find?_isSome.mpr ⟨u, known, by simp [isUser]⟩)
  have same (u : User) : (if u.id = userId then { u with hasCompletedOnboarding := true } else u).id = u.id ∧
      (if u.id = userId then { u with hasCompletedOnboarding := true } else u).email = u.email := by
    split
    · exact ⟨rfl, rfl⟩
    · exact ⟨rfl, rfl⟩
  obtain ⟨unique, references⟩ := setUsers_valid same s.unique s.references
  exact ends_accepted (by simp only [looked]) unique references fun _ _ => rfl
theorem setCurrentMembership_succeeds (member : Member s.toTables organisationId userId) :
    (setCurrentMembership organisationId userId).Ends (fun result _ => result = .ok ()) s := by
  obtain ⟨found, looked⟩ : ∃ m, s.membership organisationId userId = some m := by
    obtain ⟨m, inside, same⟩ := member
    exact Option.isSome_iff_exists.mp (List.find?_isSome.mpr ⟨m, inside, by simp [same]⟩)
  have same (m : OrganisationUser) :
      (if m.organisationId = organisationId ∧ m.userId = userId then { m with isCurrent := true } else m).organisationId =
          m.organisationId ∧
        (if m.organisationId = organisationId ∧ m.userId = userId then { m with isCurrent := true } else m).userId = m.userId := by
    split
    · exact ⟨rfl, rfl⟩
    · exact ⟨rfl, rfl⟩
  obtain ⟨unique, references⟩ := CurrentOrganisations.setFlags_valid same s.unique s.references
  exact ends_accepted (by simp only [looked]) unique references fun _ _ => rfl
/-- A user who shares a moved config joins without fail. -/
theorem migrateSharedUser_succeeds (user : ∃ u ∈ s.users, u.id = userId) (organisation : ∃ o ∈ s.organisations, o.id = organisationId) :
    (migrateSharedUser organisationId userId).Ends (fun result s' => result = .ok () ∧ Member s'.toTables organisationId userId) s := by
  have shared {s : Database} (user : ∃ u ∈ s.users, u.id = userId) (member : Member s.toTables organisationId userId) : (do
      shareOrganisationDatabaseConfigs organisationId userId
      completeOnboarding userId : Op Unit).Ends (fun result s' => result = .ok () ∧ Member s'.toTables organisationId userId) s := by
    have given := (@shareOrganisationDatabaseConfigs_succeeds s organisationId userId user).and
      (CurrentOrganisations.shareOrganisationDatabaseConfigs_rolls organisationId userId s)
    refine ends_bind (given.mono ?_)
    rintro _ s' ⟨rfl, same⟩
    have user' := (calm_of_rolls same).user_kept user
    refine ((completeOnboarding_succeeds user').and (completeOnboarding_steady userId s')).mono fun _ s'' ended => ⟨ended.1, ?_⟩
    refine ended.2.members _ _ ?_
    rwa [Member, same.members]
  refine ends_read (ends_read ?_)
  cases existing : s.membership organisationId userId with
  | none =>
    have absent : ∀ m ∈ s.organisationUsers, ¬(m.organisationId = organisationId ∧ m.userId = userId) := by
      simpa [Tables.membership] using existing
    refine ends_bind ((createMember_succeeds organisation user absent).mono ?_)
    rintro _ s' ⟨rfl, tables⟩
    refine shared (by rwa [tables]) ?_
    rw [Member, tables]
    exact ⟨_, List.mem_append_right _ (List.mem_singleton_self _), rfl, rfl⟩
  | some m =>
    obtain ⟨inside, same⟩ := CurrentOrganisations.membership_mem existing
    have member : Member s.toTables organisationId userId := ⟨m, inside, same⟩
    rw [if_neg (by simp)]
    split
    · refine ends_bind (((setCurrentMembership_succeeds member).and (setCurrentMembership_steady organisationId userId s)).and
        (setCurrentMembership_calm organisationId userId s) |>.mono ?_)
      rintro _ s' ⟨⟨rfl, steady⟩, calm⟩
      exact shared (calm.user_kept user) (steady.members _ _ member)
    · exact shared user member
theorem migrateSharedUser_linked (linked : LinkedBut owed s.toTables) :
    (migrateSharedUser organisationId userId).Ends (fun _ s' => LinkedBut owed s'.toTables) s := by
  have shared {s : Database} (linked : LinkedBut owed s.toTables) (member : Member s.toTables organisationId userId) : (do
      shareOrganisationDatabaseConfigs organisationId userId
      completeOnboarding userId : Op Unit).Ends (fun _ s' => LinkedBut owed s'.toTables) s := by
    refine ends_bind ((shareOrganisationDatabaseConfigs_linked linked member).mono ?_)
    rintro (_ | _) s' ⟨linked', -⟩
    · exact linked'
    · exact Ends.mono (completeOnboarding_steady userId s') fun _ _ moved => linked'.steady moved
  refine ends_read (ends_read ?_)
  cases existing : s.membership organisationId userId with
  | none => exact join_linked { organisationId, userId, isCurrent := _ } linked fun _ => completeOnboarding_steady userId
  | some m =>
    obtain ⟨inside, same⟩ := CurrentOrganisations.membership_mem existing
    have member : Member s.toTables organisationId userId := ⟨m, inside, same⟩
    rw [if_neg (by simp)]
    split
    · refine ends_bind (Ends.mono (setCurrentMembership_steady organisationId userId s) ?_)
      rintro (_ | _) s' steady
      · exact linked.steady steady
      · exact shared (linked.steady steady) (steady.members _ _ member)
    · exact shared linked member
/-- One after the other, those who are still owed a membership get it. -/
theorem migrateAll_linked {sharedUserIds : List String}
    (linked : LinkedBut (fun o u => o = organisationId ∧ u ∈ sharedUserIds) s.toTables)
    (users : ∀ id ∈ sharedUserIds, ∃ u ∈ s.users, u.id = id) (member : Member s.toTables organisationId userId) :
    (foldEach (fun _ sharedUserId => migrateSharedUser organisationId sharedUserId) sharedUserIds ()).Ends
      (fun _ s' => Linked s'.toTables) s := by
  induction sharedUserIds generalizing s with
  | nil => exact linked_of_linkedBut linked fun o u due => by cases due.2
  | cons id rest ih =>
    rw [List.forall_mem_cons] at users
    have moved := ((migrateSharedUser_succeeds users.1 (organisation_of_member member)).and (migrateSharedUser_linked linked)).and
      ((Ends.and (calm_permits.migrate organisationId id s) ((migrateSharedUser_writes organisationId id).joins s)))
    refine ends_bind (moved.mono ?_)
    rintro _ s' ⟨⟨⟨rfl, joined⟩, right⟩, calm, joins⟩
    refine ih (right.paid ?_) (fun other inside => calm.user_kept (users.2 other inside)) (member_of_keeps joins.kept member)
    rintro o u ⟨rfl, due⟩
    rcases List.mem_cons.mp due with rfl | later
    · exact .inl joined
    · exact .inr ⟨rfl, later⟩
theorem migrateUserConfigsToOrganisation_linked (linked : Linked s.toTables) (member : Member s.toTables organisationId userId) :
    (migrateUserConfigsToOrganisation organisationId userId).Ends (fun _ s' => Linked s'.toTables) s := by
  refine ends_read ?_
  split
  · exact linked
  have made : (moveConfigs (orphanedConfigIds s.toTables userId) organisationId).Ends (fun result s' =>
      ((∃ e, result = .error e) → Linked s'.toTables) ∧
        (result = .ok () → s'.databaseConfigUsers = s.databaseConfigUsers ∧
          s'.databaseConfigs = movedTo s.databaseConfigs (orphanedConfigIds s.toTables userId) organisationId)) s :=
    CurrentConfigs.moveConfigs_ends (fun _ links configs => ⟨by simp, fun _ => ⟨links, configs⟩⟩) fun _ => ⟨fun _ => linked, by simp⟩
  refine ends_bind ((made.and (CurrentOrganisations.moveConfigs_rolls _ organisationId s)).mono ?_)
  rintro (_ | _) s₁ ⟨⟨failed, ended⟩, rolls⟩
  · exact failed ⟨_, rfl⟩
  obtain ⟨links, configs⟩ := ended rfl
  have member₁ : Member s₁.toTables organisationId userId := by rwa [Member, rolls.members]
  refine ends_read (migrateAll_linked ?_ (fun id inside => ?_) member₁)
  · rintro o u ⟨l, inside, rfl, inOrg⟩
    by_cases moved : l.databaseConfigId ∈ orphanedConfigIds s.toTables userId
    · obtain rfl := Option.some.inj (inOrganisation_moved configs moved inOrg)
      by_cases own : l.userId = userId
      · exact .inl (own ▸ member₁)
      · refine .inr ⟨rfl, List.mem_eraseDups.mpr (List.mem_map.mpr ⟨l, List.mem_filter.mpr ⟨inside, ?_⟩, rfl⟩)⟩
        simpa [own] using moved
    · rw [inOrganisation_kept configs moved] at inOrg
      rw [links] at inside
      rw [Member, rolls.members]
      exact .inl (linked o l.userId ⟨l, inside, rfl, inOrg⟩)
  · obtain ⟨l, listed, rfl⟩ := List.mem_map.mp (List.mem_eraseDups.mp inside)
    exact (s₁.references.link l (List.mem_of_mem_filter listed)).2

variable [CaseFolding] [Ids] {db : Database}

theorem createOrganisation_linked (linked : Linked db.toTables) (session : Option String) (name : String)
    (randomSuffixes : List String) : (createOrganisation session name randomSuffixes).Ends (fun _ s => Linked s.toTables) db := by
  refine ends_currentUser (fun user _ => ends_bind ((generateUniqueOrganisationSlug_ends name _).mono ?_)) linked
  rintro slug _ rfl
  cases slug with
  | error _ => exact linked
  | ok slug =>
    refine ends_bind (ends_insert (fun id s created => ?_) fun _ => linked)
    obtain ⟨-, tables⟩ := Prod.mk.inj (Except.ok.inj created)
    have linked₁ : Linked s.toTables := by
      rw [← tables]
      exact linked
    refine ends_bind (ends_write (fun s' joined => ?_) fun _ => linked₁)
    have linked₂ : Linked s'.toTables := by
      intro o u has
      rw [joined] at has ⊢
      obtain ⟨m, inside, same⟩ := linked₁ o u has
      exact ⟨m, List.mem_append_left _ inside, same⟩
    have member : Member s'.toTables id user.id := by
      rw [Member, joined]
      exact ⟨_, List.mem_append_right _ (List.mem_singleton_self _), rfl, rfl⟩
    refine ends_bind ((migrateUserConfigsToOrganisation_linked linked₂ member).mono ?_)
    rintro (_ | _) s'' ended
    · exact ended
    · exact ended
end

/-! ### Runs -/

/-- What users ask for: of the organisations, sign-up among it, and of the database configs. -/
inductive Request
  | organisations (request : OrganisationRuns.Request)
  | getDBConfigByUser (session : Option String)
  | getCurrentDBConfigByUser (session : Option String)
  | setCurrentDBConfig (session : Option String) (id : String)
  | upsertDBConfig (session : Option String) (dbConfig : ConfigInput) (id : Option String)
  | deleteDBConfig (session : Option String) (id : String)
  | shareDBConfig (session : Option String) (schedule : List Nat) (id : String) (shareArray : List ShareEntry)

section
variable [CaseFolding]

/-- What keeps a request from giving a link in an organisation to someone who is no member. -/
def Covered (t : Tables) : Request → Prop
  | .organisations (.createNewUser email) => SignsUpInvited t email
  | .organisations (.signInByProvider email) => normalizeEmail email ≠ "" → SignsUpInvited t email
  | .getDBConfigByUser session => MovesAmongMembers t session
  | .getCurrentDBConfigByUser session => MovesAmongMembers t session
  | .setCurrentDBConfig session _ => MovesAmongMembers t session
  | .shareDBConfig session _ id shareArray => SharesWithMembers t session id shareArray
  | _ => True

variable [Ids]

/-- The database after a request, whether it succeeds or not. -/
def serve (db : Database) : Request → Database
  | .organisations request => ((OrganisationRuns.perform request).run db).2
  | .getDBConfigByUser session => ((DbConfigs.getDBConfigByUser session).run db).2
  | .getCurrentDBConfigByUser session => ((DbConfigs.getCurrentDBConfigByUser session).run db).2
  | .setCurrentDBConfig session id => ((DbConfigs.setCurrentDBConfig session id).run db).2
  | .upsertDBConfig session dbConfig id => ((DbConfigs.upsertDBConfig session dbConfig id).run db).2
  | .deleteDBConfig session id => ((DbConfigs.deleteDBConfig session id).run db).2
  | .shareDBConfig session schedule id shareArray => ((DbConfigs.shareDBConfig session schedule id shareArray).run db).2

theorem perform_linked {db : Database} (linked : Linked db.toTables) {request : OrganisationRuns.Request}
    (covered : Covered db.toTables (.organisations request)) :
    (OrganisationRuns.perform request).Ends (fun _ s => Linked s.toTables) db := by
  cases request with
  | createOrganisation session name randomSuffixes =>
    exact OrganisationRuns.ends_discard (createOrganisation_linked linked session name randomSuffixes)
  | setCurrentOrganisation session organisationId => exact ends_linked linked (setCurrentOrganisation_steady session organisationId)
  | updateOrganisation session id name =>
    exact ends_linked linked (CurrentOrganisations.updateOrganisation_within renameOrganisation_steady session id name)
  | deleteOrganisation session id => exact deleteOrganisation_linked linked session id
  | inviteUserToOrganisation session organisationId email =>
    exact OrganisationRuns.ends_discard (inviteUserToOrganisation_linked linked session organisationId email)
  | acceptInvitation session invitationId => exact acceptInvitation_linked linked session invitationId
  | declineInvitation session invitationId =>
    exact ends_linked linked (CurrentOrganisations.declineInvitation_within deleteInvitation_steady session invitationId)
  | cancelInvitation session invitationId =>
    exact ends_linked linked (CurrentOrganisations.cancelInvitation_within deleteInvitation_steady session invitationId)
  | removeUserFromOrganisation session organisationId userId =>
    exact removeUserFromOrganisation_linked linked session organisationId userId
  | updateMemberRole session organisationId userId role =>
    exact ends_linked linked (updateMemberRole_steady session organisationId userId role)
  | createNewUser email => exact OrganisationRuns.ends_discard (createNewUser_linked linked covered)
  | signInByProvider email => exact OrganisationRuns.ends_discard (signInByProvider_linked linked covered)
theorem serve_linked {db : Database} {request : Request} (linked : Linked db.toTables) (covered : Covered db.toTables request) :
    Linked (serve db request).toTables := by
  cases request with
  | organisations request => exact perform_linked linked covered
  | getDBConfigByUser session => exact listing_linked linked covered fun _ => within_read _
  | getCurrentDBConfigByUser session => exact listing_linked linked covered fun _ => within_read _
  | setCurrentDBConfig session id => exact setCurrentDBConfig_linked id linked covered
  | upsertDBConfig session dbConfig id => exact upsertDBConfig_linked linked session dbConfig id
  | deleteDBConfig session id => exact ends_linked linked (deleteDBConfig_steady session id)
  | shareDBConfig session schedule id shareArray => exact shareDBConfig_linked linked schedule covered

end

theorem emptyDatabase_linked : Linked emptyDatabase.toTables := by
  rintro o u ⟨l, inside, -⟩
  cases inside

section
attribute [local instance] asciiFolding plainIds

/-- Ann shares the config of her organisation with Bob, who is not in it. -/
def sharedOutside : List Request :=
  [.organisations (.createNewUser "ann@example.com"), .organisations (.createOrganisation (some "x") "Acme" ["a1"]),
    .organisations (.setCurrentOrganisation (some "x") "x"), .upsertDBConfig (some "x") (CurrentConfigs.sampleInput "main") none,
    .organisations (.createNewUser "bob@example.com"), .shareDBConfig (some "x") [] "x" [{ email := "bob@example.com" }]]

end

end Openlit.LinkedRuns
