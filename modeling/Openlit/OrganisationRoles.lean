import Mathlib.Data.List.Nodup
import Openlit.Memberships

/-!
Who owns an organisation and who may end or change the membership of another.
The creator of an organisation is its one owner (`OwnedByCreator`) whatever the
users do, because nobody becomes an owner but by creating an organisation and
no check lets the creator's membership end or change. From that follows who may
act on whom (`members_governed`).
-/
namespace Openlit.OrganisationRoles
open Openlit.Programs Openlit.Programs.Program Openlit.Text Openlit.Accounts Openlit.Organisations Openlit.DbConfigs
  Openlit.Memberships

/-! ### Changes of the members -/

/-- The same membership with the same role; the current flag may differ. -/
def SameRole (m m' : OrganisationUser) : Prop :=
  m'.organisationId = m.organisationId ∧ m'.userId = m.userId ∧ m'.role = m.role

/-- Every membership is still there with its role. -/
def Keeps (db db' : Database) : Prop := ∀ m ∈ db.organisationUsers, ∃ m' ∈ db'.organisationUsers, SameRole m m'
/-- No organisation is new, and none has another creator. -/
def NoNewOrganisation (db db' : Database) : Prop :=
  ∀ o' ∈ db'.organisations, ∃ o ∈ db.organisations, o.id = o'.id ∧ o.createdByUserId = o'.createdByUserId
/-- Users join organisations as plain members. -/
structure Joins (db db' : Database) : Prop where
  organisations : NoNewOrganisation db db'
  joined : ∀ m' ∈ db'.organisationUsers, m'.role = "member" ∨ ∃ m ∈ db.organisationUsers, SameRole m m'
  kept : Keeps db db'
/-- Only one membership ends or changes, if any, to one of some roles. -/
structure Touches (organisationId userId : String) (roles : List String) (db db' : Database) : Prop where
  organisations : NoNewOrganisation db db'
  members : ∀ m' ∈ db'.organisationUsers, (∃ m ∈ db.organisationUsers, SameRole m m') ∨
    m'.organisationId = organisationId ∧ m'.userId = userId ∧ m'.role ∈ roles
  kept : ∀ m ∈ db.organisationUsers, ¬(m.organisationId = organisationId ∧ m.userId = userId) →
    ∃ m' ∈ db'.organisationUsers, SameRole m m'
/-- Only flags of memberships change. -/
structure Flags (db db' : Database) : Prop where
  organisations : db'.organisations = db.organisations
  members : ∀ m' ∈ db'.organisationUsers, ∃ m ∈ db.organisationUsers, SameRole m m'
  kept : Keeps db db'

theorem SameRole.refl (m : OrganisationUser) : SameRole m m := ⟨rfl, rfl, rfl⟩
theorem SameRole.trans {a b c : OrganisationUser} (first : SameRole a b) (second : SameRole b c) : SameRole a c :=
  ⟨second.1.trans first.1, second.2.1.trans first.2.1, second.2.2.trans first.2.2⟩

theorem keeps_refl (db : Database) : Keeps db db := fun m member => ⟨m, member, SameRole.refl m⟩
theorem Keeps.trans {a b c : Database} (first : Keeps a b) (second : Keeps b c) : Keeps a c := by
  intro m member
  obtain ⟨m', member', same⟩ := first m member
  obtain ⟨m'', member'', same'⟩ := second m' member'
  exact ⟨m'', member'', same.trans same'⟩
theorem NoNewOrganisation.trans {a b c : Database} (first : NoNewOrganisation a b) (second : NoNewOrganisation b c) :
    NoNewOrganisation a c := by
  intro o member
  obtain ⟨o', member', sameId, sameCreator⟩ := second o member
  obtain ⟨o'', member'', sameId', sameCreator'⟩ := first o' member'
  exact ⟨o'', member'', sameId'.trans sameId, sameCreator'.trans sameCreator⟩
theorem noNewOrganisation_of_eq {db db' : Database} (same : db'.organisations = db.organisations) : NoNewOrganisation db db' :=
  fun o member => ⟨o, same ▸ member, rfl, rfl⟩

theorem flags_of_eq {db db' : Database} (organisations : db'.organisations = db.organisations)
    (members : db'.organisationUsers = db.organisationUsers) : Flags db db' :=
  ⟨organisations, fun m member => ⟨m, members ▸ member, SameRole.refl m⟩, fun m member => ⟨m, members ▸ member, SameRole.refl m⟩⟩
theorem flags_of_map {db db' : Database} {f : OrganisationUser → OrganisationUser}
    (organisations : db'.organisations = db.organisations) (members : db'.organisationUsers = db.organisationUsers.map f)
    (same : ∀ m, SameRole m (f m)) : Flags db db' := by
  refine ⟨organisations, fun m' member => ?_, fun m member => ?_⟩
  · rw [members] at member
    obtain ⟨m, inside, rfl⟩ := List.mem_map.mp member
    exact ⟨m, inside, same m⟩
  · exact ⟨f m, members ▸ List.mem_map_of_mem member, same m⟩

instance : Std.Refl Flags := ⟨fun _ => flags_of_eq rfl rfl⟩
instance : IsTrans Database Flags := by
  refine ⟨fun a b c first second => ⟨second.organisations.trans first.organisations, fun m'' member => ?_,
    first.kept.trans second.kept⟩⟩
  obtain ⟨m', member', same'⟩ := second.members m'' member
  obtain ⟨m, inside, same⟩ := first.members m' member'
  exact ⟨m, inside, same.trans same'⟩
instance : Std.Refl Joins :=
  ⟨fun db => ⟨noNewOrganisation_of_eq rfl, fun m member => .inr ⟨m, member, SameRole.refl m⟩, keeps_refl db⟩⟩
instance : IsTrans Database Joins := by
  refine ⟨fun a b c first second => ⟨first.organisations.trans second.organisations, fun m'' member => ?_,
    first.kept.trans second.kept⟩⟩
  rcases second.joined m'' member with plain | ⟨m', member', same'⟩
  · exact .inl plain
  · rcases first.joined m' member' with plain | ⟨m, inside, same⟩
    · exact .inl (same'.2.2.trans plain)
    · exact .inr ⟨m, inside, same.trans same'⟩
instance (organisationId userId : String) (roles : List String) : Std.Refl (Touches organisationId userId roles) :=
  ⟨fun _ => ⟨noNewOrganisation_of_eq rfl, fun m member => .inl ⟨m, member, SameRole.refl m⟩,
    fun m member _ => ⟨m, member, SameRole.refl m⟩⟩⟩
instance (organisationId userId : String) (roles : List String) :
    IsTrans Database (Touches organisationId userId roles) := by
  refine ⟨fun a b c first second => ⟨first.organisations.trans second.organisations, fun m'' member => ?_,
    fun m member other => ?_⟩⟩
  · rcases second.members m'' member with ⟨m', member', same'⟩ | touched
    · rcases first.members m' member' with ⟨m, inside, same⟩ | ⟨isOrganisation, isUser, isRole⟩
      · exact .inl ⟨m, inside, same.trans same'⟩
      · exact .inr ⟨same'.1.trans isOrganisation, same'.2.1.trans isUser, same'.2.2 ▸ isRole⟩
    · exact .inr touched
  · obtain ⟨m', member', same⟩ := first.kept m member other
    obtain ⟨m'', member'', same'⟩ := second.kept m' member' (by rwa [same.1, same.2.1])
    exact ⟨m'', member'', same.trans same'⟩

theorem Flags.joins {db db' : Database} (flags : Flags db db') : Joins db db' :=
  ⟨noNewOrganisation_of_eq flags.organisations, fun m' member => .inr (flags.members m' member), flags.kept⟩
theorem Flags.touches {db db' : Database} (flags : Flags db db') (organisationId userId : String) (roles : List String) :
    Touches organisationId userId roles db db' :=
  ⟨noNewOrganisation_of_eq flags.organisations, fun m' member => .inl (flags.members m' member), fun m member _ => flags.kept m member⟩

/-! ### Owners -/

/-- The creator of an organisation is its owner, nobody else is, and there are three roles. -/
structure OwnedByCreator (t : Tables) : Prop where
  owner : ∀ o ∈ t.organisations, ∃ m ∈ t.organisationUsers,
    m.organisationId = o.id ∧ m.userId = o.createdByUserId ∧ m.role = "owner"
  only : ∀ m ∈ t.organisationUsers, m.role = "owner" → ∀ o ∈ t.organisations, o.id = m.organisationId →
    m.userId = o.createdByUserId
  roles : ∀ m ∈ t.organisationUsers, m.role ∈ ["owner", "admin", "member"]

theorem organisation_unique {t : Tables} (unique : t.Unique) {o o' : Organisation} (member : o ∈ t.organisations)
    (member' : o' ∈ t.organisations) (same : o.id = o'.id) : o = o' :=
  List.inj_on_of_nodup_map unique.organisationId member member' same

theorem ownedByCreator_of_joins {db db' : Database} (owned : OwnedByCreator db.toTables) (joins : Joins db db') :
    OwnedByCreator db'.toTables := by
  refine ⟨fun o' member' => ?_, fun m' member' isOwner o' organisation' sameId' => ?_, fun m' member' => ?_⟩
  · obtain ⟨o, member, sameId, sameCreator⟩ := joins.organisations o' member'
    obtain ⟨m, inside, isOrganisation, isCreator, isOwner⟩ := owned.owner o member
    obtain ⟨m', inside', same⟩ := joins.kept m inside
    exact ⟨m', inside', same.1.trans (isOrganisation.trans sameId), same.2.1.trans (isCreator.trans sameCreator),
      same.2.2.trans isOwner⟩
  · rcases joins.joined m' member' with plain | ⟨m, inside, same⟩
    · rw [plain] at isOwner
      exact absurd isOwner (by decide)
    · obtain ⟨o, organisation, sameId, sameCreator⟩ := joins.organisations o' organisation'
      rw [same.2.1, ← sameCreator]
      exact owned.only m inside (same.2.2.symm.trans isOwner) o organisation (sameId.trans (sameId'.trans same.1))
  · rcases joins.joined m' member' with plain | ⟨m, inside, same⟩
    · simp [plain]
    · rw [same.2.2]
      exact owned.roles m inside
/-- A membership that is not the creator's can end, or change to a role that is not the owner's. -/
theorem ownedByCreator_of_touches {db db' : Database} {o : Organisation} {userId : String} {roles : List String}
    (owned : OwnedByCreator db.toTables) (touches : Touches o.id userId roles db db') (member : o ∈ db.organisations)
    (other : userId ≠ o.createdByUserId) (plain : ∀ role ∈ roles, role = "member" ∨ role = "admin") :
    OwnedByCreator db'.toTables := by
  refine ⟨fun o' member' => ?_, fun m' member' isOwner o' organisation' sameId' => ?_, fun m' member' => ?_⟩
  · obtain ⟨before, organisation, sameId, sameCreator⟩ := touches.organisations o' member'
    obtain ⟨m, inside, isOrganisation, isCreator, isOwner⟩ := owned.owner before organisation
    have untouched : ¬(m.organisationId = o.id ∧ m.userId = userId) := by
      rintro ⟨here, isUser⟩
      have same := organisation_unique db.unique organisation member (isOrganisation.symm.trans here)
      exact other (isUser.symm.trans (same ▸ isCreator))
    obtain ⟨m', inside', same⟩ := touches.kept m inside untouched
    exact ⟨m', inside', same.1.trans (isOrganisation.trans sameId), same.2.1.trans (isCreator.trans sameCreator),
      same.2.2.trans isOwner⟩
  · rcases touches.members m' member' with ⟨m, inside, same⟩ | ⟨_, _, isRole⟩
    · obtain ⟨before, organisation, sameId, sameCreator⟩ := touches.organisations o' organisation'
      rw [same.2.1, ← sameCreator]
      exact owned.only m inside (same.2.2.symm.trans isOwner) before organisation (sameId.trans (sameId'.trans same.1))
    · rcases plain _ isRole with isMember | isAdmin
      · rw [isMember] at isOwner
        exact absurd isOwner (by decide)
      · rw [isAdmin] at isOwner
        exact absurd isOwner (by decide)
  · rcases touches.members m' member' with ⟨m, inside, same⟩ | ⟨_, _, isRole⟩
    · rw [same.2.2]
      exact owned.roles m inside
    · rcases plain _ isRole with isMember | isAdmin
      · simp [isMember]
      · simp [isAdmin]

/-! ### What the operations write -/

/-- A program that lets users join at most, and throws only what the database throws. -/
structure Writes {α : Type} (p : Op α) : Prop where
  joins : p.Within Joins
  throws : p.ThrowsOnly DatabaseError
/-- The same for a program that has its own checks, before it writes. -/
structure Orderly {α : Type} (p : Op α) : Prop where
  joins : p.Within Joins
  checks : p.ChecksFirst DatabaseError

section
variable {α β : Type}

theorem within_joins {p : Op α} (reads : p.Within Eq) : p.Within Joins :=
  reads.mono fun db _ same => same ▸ Std.Refl.refl db
theorem within_flags_joins {p : Op α} (flags : p.Within Flags) : p.Within Joins := flags.mono fun _ _ moved => moved.joins

theorem writes_pure (a : α) : Writes (pure a) := ⟨within_pure a, throwsOnly_pure a⟩
theorem writes_read (select : Tables → α) : Writes (read select) := ⟨within_read select, throwsOnly_read select⟩
theorem writes_bind {p : Op α} {next : α → Op β} (first : Writes p) (rest : ∀ a, Writes (next a)) : Writes (p >>= next) :=
  ⟨within_bind first.joins fun a => (rest a).joins, throwsOnly_bind first.throws fun a => (rest a).throws⟩
theorem writes_foldEach {body : β → α → Op β} (each : ∀ b a, Writes (body b a)) (items : List α) (b : β) :
    Writes (foldEach body items b) :=
  ⟨within_foldEach (fun b a => (each b a).joins) items b, throwsOnly_foldEach (fun b a => (each b a).throws) items b⟩
theorem writes_attempt {p : Op α} (joins : p.Within Joins) : Writes (attempt p) :=
  ⟨within_attempt joins, throwsOnly_attempt p⟩
/-- A statement that leaves the organisations as they are and changes flags at most. -/
theorem writes_flags {change : Tables → Except String Tables} (refused : ∀ t e, change t = .error e → DatabaseError e)
    (flags : ∀ db db' : Database, change db.toTables = .ok db'.toTables → Flags db db') : Writes (write change) :=
  ⟨within_flags_joins (within_write flags), throwsOnly_write refused⟩
/-- A statement on other tables. -/
theorem writes_elsewhere {change : Tables → Tables} (organisations : ∀ t, (change t).organisations = t.organisations)
    (members : ∀ t, (change t).organisationUsers = t.organisationUsers) : Writes (write fun t => .ok (change t)) := by
  refine writes_flags (fun t e thrown => by cases thrown) fun db db' changed => ?_
  have tables := Except.ok.inj changed
  exact flags_of_eq (tables ▸ organisations db.toTables) (tables ▸ members db.toTables)

theorem Writes.orderly {p : Op α} (writes : Writes p) : Orderly p := ⟨writes.joins, writes.throws.checksFirst⟩
theorem orderly_fail (message : String) : Orderly (fail message : Op α) := ⟨within_fail message, checksFirst_fail message⟩
theorem orderly_bind {p : Op α} {next : α → Op β} (reads : p.Within Eq) (rest : ∀ a, Orderly (next a)) : Orderly (p >>= next) :=
  ⟨within_bind (within_joins reads) fun a => (rest a).joins, checksFirst_bind reads fun a => (rest a).checks⟩

end

/-- A statement that refuses nothing but that a row is not there. -/
theorem refuses_missing {change : Tables → Except String Tables}
    (either : ∀ t, change t = .error recordNotFound ∨ ∃ t', change t = .ok t') (t : Tables) (e : String)
    (thrown : change t = .error e) : DatabaseError e := by
  rcases either t with missing | ⟨t', changed⟩
  · rw [missing] at thrown
    exact .inr (.inr (Except.error.inj thrown).symm)
  · rw [changed] at thrown
    cases thrown

theorem createMember_writes {member : OrganisationUser} (plain : member.role = "member") : Writes (createMember member) := by
  refine ⟨within_write fun db db' changed => ?_, throwsOnly_plainWrite _⟩
  have tables := Except.ok.inj changed
  refine ⟨noNewOrganisation_of_eq (by rw [← tables]), fun m' inside => ?_, fun m inside => ⟨m, ?_, SameRole.refl m⟩⟩
  · rw [← tables] at inside
    rcases List.mem_append.mp inside with old | new
    · exact .inr ⟨m', old, SameRole.refl m'⟩
    · rw [List.mem_singleton.mp new]
      exact .inl plain
  · rw [← tables]
    exact List.mem_append_left _ inside
theorem setCurrentMembership_flags (organisationId userId : String) : (setCurrentMembership organisationId userId).Within Flags := by
  refine within_write fun db db' changed => ?_
  split at changed
  · cases changed
  · have tables := Except.ok.inj changed
    refine flags_of_map (by rw [← tables]) (by rw [← tables]) fun m => ?_
    split
    · exact ⟨rfl, rfl, rfl⟩
    · exact SameRole.refl m
theorem setCurrentMembership_writes (organisationId userId : String) : Writes (setCurrentMembership organisationId userId) := by
  refine ⟨within_flags_joins (setCurrentMembership_flags organisationId userId), throwsOnly_write (refuses_missing fun t => ?_)⟩
  split
  · exact .inl rfl
  · exact .inr ⟨_, rfl⟩
theorem completeOnboarding_writes (userId : String) : Writes (completeOnboarding userId) := by
  refine writes_flags (refuses_missing fun t => ?_) fun db db' changed => ?_
  · split
    · exact .inl rfl
    · exact .inr ⟨_, rfl⟩
  split at changed
  · cases changed
  · have tables := Except.ok.inj changed
    exact flags_of_eq (by rw [← tables]) (by rw [← tables])
theorem createLink_writes (link : DatabaseConfigUser) : Writes (createLink link) :=
  writes_elsewhere (fun _ => rfl) fun _ => rfl
theorem moveConfigs_writes (configIds : List String) (organisationId : String) : Writes (moveConfigs configIds organisationId) :=
  writes_elsewhere (fun _ => rfl) fun _ => rfl
theorem shareOrganisationDatabaseConfigs_writes (organisationId userId : String) :
    Writes (shareOrganisationDatabaseConfigs organisationId userId) := by
  have each (existing : Option DatabaseConfigUser) (assigned : Bool) (config : DatabaseConfig) :
      Writes (shareConfig userId existing assigned config) := by
    refine writes_bind (writes_read _) fun existingAccess => ?_
    cases existingAccess with
    | some _ => exact writes_pure _
    | none => exact writes_bind (createLink_writes _) fun _ => writes_pure _
  refine writes_bind (writes_read _) fun databaseConfigs => writes_bind (writes_read _) fun existing => ?_
  exact writes_bind (writes_foldEach (each existing) databaseConfigs false) fun _ => writes_pure _
theorem migrateSharedUser_writes (organisationId sharedUserId : String) :
    Writes (migrateSharedUser organisationId sharedUserId) := by
  have shared : Writes (do
      shareOrganisationDatabaseConfigs organisationId sharedUserId
      completeOnboarding sharedUserId) :=
    writes_bind (shareOrganisationDatabaseConfigs_writes _ _) fun _ => completeOnboarding_writes sharedUserId
  refine writes_bind (writes_read _) fun existingMembership => writes_bind (writes_read _) fun hasCurrentOrg => ?_
  split
  · exact writes_bind (createMember_writes rfl) fun _ => shared
  split
  · exact writes_bind (setCurrentMembership_writes _ _) fun _ => shared
  · exact shared
theorem migrateUserConfigsToOrganisation_writes (organisationId userId : String) :
    Writes (migrateUserConfigsToOrganisation organisationId userId) := by
  refine writes_bind (writes_read _) fun configIds => ?_
  split
  · exact writes_pure ()
  · refine writes_bind (moveConfigs_writes configIds organisationId) fun _ => writes_bind (writes_read _) fun sharedUserIds => ?_
    exact writes_foldEach (fun _ sharedUserId => migrateSharedUser_writes organisationId sharedUserId) sharedUserIds ()
theorem deleteInvitation_writes (invitationId : String) : Writes (deleteInvitation invitationId) := by
  refine writes_flags (refuses_missing fun t => ?_) fun db db' changed => ?_
  · split
    · exact .inr ⟨_, rfl⟩
    · exact .inl rfl
  · split at changed
    · have tables := Except.ok.inj changed
      exact flags_of_eq (by rw [← tables]) (by rw [← tables])
    · cases changed
theorem joinByInvitation_writes (invitation : OrganisationInvitedUser) (userId : String) :
    Writes (joinByInvitation invitation userId) :=
  writes_bind (createMember_writes rfl) fun _ =>
    writes_bind (shareOrganisationDatabaseConfigs_writes _ _) fun _ => deleteInvitation_writes invitation.id
theorem setOldestCurrent_flags (userId : String) : (setOldestCurrent userId).Within Flags := by
  refine within_bind (within_read _) fun remainingOrgs => ?_
  cases remainingOrgs with
  | none => exact within_pure ()
  | some oldest => exact setCurrentMembership_flags oldest.organisationId userId
theorem setOldestCurrent_throws (userId : String) : (setOldestCurrent userId).ThrowsOnly DatabaseError := by
  refine throwsOnly_bind (throwsOnly_read _) fun remainingOrgs => ?_
  cases remainingOrgs with
  | none => exact throwsOnly_pure ()
  | some oldest => exact (setCurrentMembership_writes oldest.organisationId userId).throws

/-! ### Sign-up -/

theorem updateLink_writes (databaseConfigId userId : String) (isCurrent : Bool) :
    Writes (updateLink databaseConfigId userId isCurrent) := by
  refine writes_flags (refuses_missing fun t => ?_) fun db db' changed => ?_
  · split
    · exact .inl rfl
    · exact .inr ⟨_, rfl⟩
  split at changed
  · cases changed
  · have tables := Except.ok.inj changed
    exact flags_of_eq (by rw [← tables]) (by rw [← tables])
theorem moveSharedDBConfigToDBUser_writes (email userId : String) : Writes (moveSharedDBConfigToDBUser email userId) := by
  refine writes_bind (writes_read _) fun sharedConfig => ?_
  split
  · exact writes_pure ()
  have copied (links : List DatabaseConfigUser) : Writes (createLinks links) :=
    writes_elsewhere (fun _ => rfl) fun _ => rfl
  refine writes_bind (writes_attempt (copied _).joins) fun _ => writes_bind (writes_read _) fun current => ?_
  split
  · exact writes_pure ()
  refine writes_bind (writes_read _) fun firstDbConfig => ?_
  cases firstDbConfig with
  | none => exact writes_pure ()
  | some first => exact updateLink_writes first.databaseConfigId userId true

theorem createUser_writes [Ids] (email : String) : Writes (createUser email) := by
  refine ⟨within_insert fun db db' user changed => ?_, throwsOnly_insert fun t e thrown => by cases thrown⟩
  have tables := (Prod.mk.inj (Except.ok.inj changed)).2
  exact (flags_of_eq (by rw [← tables]) (by rw [← tables])).joins
theorem hasAdminOrOwnerRole_reads (organisationId userId : String) : (hasAdminOrOwnerRole organisationId userId).Within Eq :=
  within_bind (within_read _) fun _ => within_pure _

section
variable [CaseFolding]

theorem moveToNewUser_writes (email userId : String) : Writes (moveToNewUser email userId) := by
  refine writes_bind (moveSharedDBConfigToDBUser_writes email userId) fun _ => writes_bind (writes_read _) fun invitations => ?_
  exact writes_foldEach (fun _ invitation => joinByInvitation_writes invitation userId) invitations ()

variable [Ids]

theorem createNewUser_orderly (email : String) : Orderly (createNewUser email) := by
  refine orderly_bind (within_read _) fun existingUser => orderly_bind (within_throwIfError _ _) fun _ => Writes.orderly ?_
  exact writes_bind (createUser_writes _) fun createdUser =>
    writes_bind (moveToNewUser_writes _ createdUser.id) fun _ => writes_pure createdUser
theorem signInByProvider_orderly (email : String) : Orderly (signInByProvider email) := by
  refine orderly_bind (within_throwIfError _ _) fun _ => Writes.orderly ?_
  refine writes_bind (createUser_writes _) fun createdUser => writes_bind ?_ fun _ => writes_pure createdUser
  unfold createUserEvent
  split
  · exact writes_pure ()
  · exact writes_bind (writes_attempt (moveToNewUser_writes _ createdUser.id).joins) fun _ => writes_pure ()

/-! ### Members who join -/

theorem inviteUserToOrganisation_orderly (session : Option String) (organisationId email : String) :
    Orderly (inviteUserToOrganisation session organisationId email) := by
  refine orderly_bind (within_currentUser session) fun user => orderly_bind (hasAdminOrOwnerRole_reads _ _) fun hasPermission => ?_
  refine orderly_bind (within_throwIfError _ _) fun _ => orderly_bind (within_throwIfError _ _) fun _ => ?_
  refine orderly_bind (within_throwIfError _ _) fun _ => orderly_bind (within_read _) fun existingUser => ?_
  cases existingUser with
  | some existing =>
    refine orderly_bind (within_read _) fun _ => orderly_bind (within_throwIfError _ _) fun _ => Writes.orderly ?_
    exact writes_bind (createMember_writes rfl) fun _ =>
      writes_bind (shareOrganisationDatabaseConfigs_writes _ _) fun _ => writes_pure _
  | none =>
    refine orderly_bind (within_read _) fun _ => orderly_bind (within_throwIfError _ _) fun _ => Writes.orderly ?_
    exact writes_bind (writes_elsewhere (fun _ => rfl) fun _ => rfl) fun _ => writes_pure _

omit [Ids]

theorem acceptInvitation_orderly (session : Option String) (invitationId : String) :
    Orderly (acceptInvitation session invitationId) := by
  refine orderly_bind (within_currentUser session) fun user => orderly_bind (within_read _) fun invitation => ?_
  cases invitation with
  | none => exact orderly_fail _
  | some found => exact orderly_bind (within_throwIfError _ _) fun _ => (joinByInvitation_writes found user.id).orderly
theorem declineInvitation_orderly (session : Option String) (invitationId : String) :
    Orderly (declineInvitation session invitationId) := by
  refine orderly_bind (within_currentUser session) fun user => orderly_bind (within_read _) fun invitation => ?_
  cases invitation with
  | none => exact orderly_fail _
  | some found => exact orderly_bind (within_throwIfError _ _) fun _ => (deleteInvitation_writes invitationId).orderly

end

theorem cancelInvitation_orderly (session : Option String) (invitationId : String) :
    Orderly (cancelInvitation session invitationId) := by
  refine orderly_bind (within_currentUser session) fun user => orderly_bind (within_read _) fun invitation => ?_
  cases invitation with
  | none => exact orderly_fail _
  | some found =>
    refine orderly_bind (hasAdminOrOwnerRole_reads _ _) fun hasPermission => ?_
    exact orderly_bind (within_throwIfError _ _) fun _ => (deleteInvitation_writes invitationId).orderly
theorem setCurrentOrganisation_orderly (session : Option String) (organisationId : String) :
    Orderly (setCurrentOrganisation session organisationId) := by
  refine orderly_bind (within_currentUser session) fun user => orderly_bind (within_read _) fun membership => ?_
  refine orderly_bind (within_throwIfError _ _) fun _ => Writes.orderly (writes_flags (fun t e thrown => by cases thrown) ?_)
  intro db db' changed
  have tables := Except.ok.inj changed
  refine flags_of_map (by rw [← tables]) (by rw [← tables]) fun m => ?_
  split
  · exact ⟨rfl, rfl, rfl⟩
  · exact SameRole.refl m
theorem renameOrganisation_writes (id name : String) : Writes (renameOrganisation id name) := by
  refine ⟨within_write fun db db' changed => ?_, throwsOnly_write (refuses_missing fun t => ?_)⟩
  · split at changed
    · cases changed
    · have tables := Except.ok.inj changed
      refine ⟨fun o' member => ?_, fun m member => .inr ⟨m, by rwa [← tables] at member, SameRole.refl m⟩,
        fun m member => ⟨m, by rwa [← tables], SameRole.refl m⟩⟩
      rw [← tables] at member
      obtain ⟨o, inside, rfl⟩ := List.mem_map.mp member
      refine ⟨o, inside, ?_⟩
      split
      · exact ⟨rfl, rfl⟩
      · exact ⟨rfl, rfl⟩
  · split
    · exact .inl rfl
    · exact .inr ⟨_, rfl⟩
theorem updateOrganisation_orderly (session : Option String) (id : String) (name : Option String) :
    Orderly (updateOrganisation session id name) := by
  refine orderly_bind (within_currentUser session) fun user => orderly_bind (hasAdminOrOwnerRole_reads _ _) fun hasPermission => ?_
  refine orderly_bind (within_throwIfError _ _) fun _ => ?_
  cases name.filter (· ≠ "") with
  | none => exact orderly_fail _
  | some name => exact (renameOrganisation_writes id name).orderly

end Openlit.OrganisationRoles
