import Openlit.OrganisationRuns

/-!
The current organisation of a user (`lib/organisation.ts`). The flag stands on
the memberships, and no request ever sets it for a user who has it elsewhere:
setting a current organisation clears the others in the same transaction, the
migration of configs looks for a current one first, and a membership that ends
while it is current leaves none behind when the oldest other one takes its
place. So a user never has two (`currents_right`).
-/
namespace Openlit.CurrentOrganisations
open Openlit.Programs Openlit.Programs.Program Openlit.Text Openlit.Accounts Openlit.Organisations Openlit.DbConfigs
  Openlit.Memberships Openlit.OrganisationRoles Openlit.OrganisationRuns

/-! ### What only concerns other tables -/

/-- The users with their emails, the memberships and the invitations are as they were. -/
structure SameRolls (db db' : Database) : Prop where
  users : db'.users.map (fun u => (u.id, u.email)) = db.users.map fun u => (u.id, u.email)
  members : db'.organisationUsers = db.organisationUsers
  invitations : db'.organisationInvitedUsers = db.organisationInvitedUsers

instance : Std.Refl SameRolls := ⟨fun _ => ⟨rfl, rfl, rfl⟩⟩
instance : IsTrans Database SameRolls :=
  ⟨fun _ _ _ first second => ⟨second.users.trans first.users, second.members.trans first.members,
    second.invitations.trans first.invitations⟩⟩

theorem sameRolls_of_configs {db db' : Database} (users : db'.users = db.users)
    (members : db'.organisationUsers = db.organisationUsers)
    (invitations : db'.organisationInvitedUsers = db.organisationInvitedUsers) : SameRolls db db' :=
  ⟨by rw [users], members, invitations⟩
theorem within_reads {α : Type} {r : Database → Database → Prop} [Std.Refl r] {p : Op α} (reads : p.Within Eq) : p.Within r :=
  reads.mono fun db _ same => same ▸ Std.Refl.refl db

theorem createLink_rolls (link : DatabaseConfigUser) : (createLink link).Within SameRolls := by
  refine within_write fun db db' changed => ?_
  have tables := Except.ok.inj changed
  exact sameRolls_of_configs (by rw [← tables]) (by rw [← tables]) (by rw [← tables])
theorem moveConfigs_rolls (configIds : List String) (organisationId : String) :
    (moveConfigs configIds organisationId).Within SameRolls := by
  refine within_write fun db db' changed => ?_
  have tables := Except.ok.inj changed
  exact sameRolls_of_configs (by rw [← tables]) (by rw [← tables]) (by rw [← tables])
theorem completeOnboarding_rolls (userId : String) : (completeOnboarding userId).Within SameRolls := by
  refine within_write fun db db' changed => ?_
  split at changed
  · cases changed
  · have tables := Except.ok.inj changed
    refine ⟨?_, by rw [← tables], by rw [← tables]⟩
    rw [← tables, List.map_map]
    refine List.map_congr_left fun u _ => ?_
    show ((if u.id = userId then { u with hasCompletedOnboarding := true } else u).id,
      (if u.id = userId then { u with hasCompletedOnboarding := true } else u).email) = (u.id, u.email)
    split
    · rfl
    · rfl
theorem updateLink_rolls (databaseConfigId userId : String) (isCurrent : Bool) :
    (updateLink databaseConfigId userId isCurrent).Within SameRolls := by
  refine within_write fun db db' changed => ?_
  split at changed
  · cases changed
  · have tables := Except.ok.inj changed
    exact sameRolls_of_configs (by rw [← tables]) (by rw [← tables]) (by rw [← tables])
theorem shareOrganisationDatabaseConfigs_rolls (organisationId userId : String) :
    (shareOrganisationDatabaseConfigs organisationId userId).Within SameRolls := by
  have each (existing : Option DatabaseConfigUser) (assigned : Bool) (config : DatabaseConfig) :
      (shareConfig userId existing assigned config).Within SameRolls := by
    refine within_bind (within_read _) fun existingAccess => ?_
    cases existingAccess with
    | some _ => exact within_pure _
    | none => exact within_bind (createLink_rolls _) fun _ => within_pure _
  refine within_bind (within_read _) fun databaseConfigs => within_bind (within_read _) fun existing => ?_
  exact within_bind (within_foldEach (each existing) databaseConfigs false) fun _ => within_pure _
theorem moveSharedDBConfigToDBUser_rolls (email userId : String) :
    (moveSharedDBConfigToDBUser email userId).Within SameRolls := by
  have copied (links : List DatabaseConfigUser) : (createLinks links).Within SameRolls := by
    refine within_write fun db db' changed => ?_
    have tables := Except.ok.inj changed
    exact sameRolls_of_configs (by rw [← tables]) (by rw [← tables]) (by rw [← tables])
  refine within_bind (within_read _) fun sharedConfig => ?_
  split
  · exact within_pure ()
  refine within_bind (within_attempt (copied _)) fun _ => within_bind (within_read _) fun current => ?_
  split
  · exact within_pure ()
  refine within_bind (within_read _) fun firstDbConfig => ?_
  cases firstDbConfig with
  | none => exact within_pure ()
  | some first => exact updateLink_rolls first.databaseConfigId userId true
theorem renameOrganisation_rolls (id name : String) : (renameOrganisation id name).Within SameRolls := by
  refine within_write fun db db' changed => ?_
  split at changed
  · cases changed
  · have tables := Except.ok.inj changed
    exact sameRolls_of_configs (by rw [← tables]) (by rw [← tables]) (by rw [← tables])
theorem slug_reads [CaseFolding] (name : String) (randomSuffixes : List String) :
    (generateUniqueOrganisationSlug name randomSuffixes).Within Eq :=
  fun _ => (generateUniqueOrganisationSlug_ends name randomSuffixes).mono fun _ _ same => same.symm

section
variable {r : Database → Database → Prop} [Std.Refl r] [IsTrans Database r]

theorem cancelInvitation_within (forget : ∀ invitationId, (deleteInvitation invitationId).Within r) (session : Option String)
    (invitationId : String) :
    (cancelInvitation session invitationId).Within r := by
  refine within_bind (within_currentUser session) fun user => within_bind (within_read _) fun invitation => ?_
  cases invitation with
  | none => exact within_fail _
  | some found =>
    refine within_bind (within_reads (hasAdminOrOwnerRole_reads _ _)) fun hasPermission => ?_
    exact within_bind (within_throwIfError _ _) fun _ => forget invitationId
theorem declineInvitation_within [CaseFolding] (forget : ∀ invitationId, (deleteInvitation invitationId).Within r)
    (session : Option String) (invitationId : String) :
    (declineInvitation session invitationId).Within r := by
  refine within_bind (within_currentUser session) fun user => within_bind (within_read _) fun invitation => ?_
  cases invitation with
  | none => exact within_fail _
  | some found => exact within_bind (within_throwIfError _ _) fun _ => forget invitationId
theorem updateOrganisation_within (rename : ∀ id name, (renameOrganisation id name).Within r) (session : Option String)
    (id : String) (name : Option String) :
    (updateOrganisation session id name).Within r := by
  refine within_bind (within_currentUser session) fun user => ?_
  refine within_bind (within_reads (hasAdminOrOwnerRole_reads _ _)) fun hasPermission => ?_
  refine within_bind (within_throwIfError _ _) fun _ => ?_
  cases name.filter (· ≠ "") with
  | none => exact within_fail _
  | some name => exact rename id name

end

/-- A relation that allows what most requests do: to change other tables, to let
    a user join without a current flag, to drop an invitation, and to let the
    users of moved configs join. -/
structure Permits (r : Database → Database → Prop) : Prop where
  elsewhere : ∀ db db', SameRolls db db' → r db db'
  join : ∀ member : OrganisationUser, member.isCurrent = false → (createMember member).Within r
  forget : ∀ invitationId, (deleteInvitation invitationId).Within r
  migrate : ∀ organisationId sharedUserId, (migrateSharedUser organisationId sharedUserId).Within r

section
variable {r : Database → Database → Prop} [Std.Refl r] [IsTrans Database r] (permits : Permits r)
include permits

omit [Std.Refl r] [IsTrans Database r] in
theorem Permits.rolls {α : Type} {p : Op α} (same : p.Within SameRolls) : p.Within r := same.mono permits.elsewhere
omit [Std.Refl r] [IsTrans Database r] in
theorem Permits.rename (id name : String) : (renameOrganisation id name).Within r := permits.rolls (renameOrganisation_rolls id name)
omit [Std.Refl r] in
theorem joinByInvitation_within (invitation : OrganisationInvitedUser) (userId : String) :
    (joinByInvitation invitation userId).Within r :=
  within_bind (permits.join _ rfl) fun _ =>
    within_bind (permits.rolls (shareOrganisationDatabaseConfigs_rolls _ _)) fun _ => permits.forget invitation.id
theorem migrateUserConfigsToOrganisation_within (organisationId userId : String) :
    (migrateUserConfigsToOrganisation organisationId userId).Within r := by
  refine within_bind (within_read _) fun configIds => ?_
  split
  · exact within_pure ()
  · refine within_bind (permits.rolls (moveConfigs_rolls configIds organisationId)) fun _ => ?_
    refine within_bind (within_read _) fun sharedUserIds => ?_
    exact within_foldEach (fun _ sharedUserId => permits.migrate organisationId sharedUserId) sharedUserIds ()
variable [CaseFolding]

theorem moveToNewUser_within (email userId : String) : (moveToNewUser email userId).Within r := by
  refine within_bind (permits.rolls (moveSharedDBConfigToDBUser_rolls email userId)) fun _ => ?_
  refine within_bind (within_read _) fun invitations => ?_
  exact within_foldEach (fun _ invitation => joinByInvitation_within permits invitation userId) invitations ()
theorem acceptInvitation_within (session : Option String) (invitationId : String) :
    (acceptInvitation session invitationId).Within r := by
  refine within_bind (within_currentUser session) fun user => within_bind (within_read _) fun invitation => ?_
  cases invitation with
  | none => exact within_fail _
  | some found => exact within_bind (within_throwIfError _ _) fun _ => joinByInvitation_within permits found user.id
theorem createOrganisation_within [Ids] (session : Option String) (name : String) (randomSuffixes : List String) :
    (createOrganisation session name randomSuffixes).Within r := by
  refine within_bind (within_currentUser session) fun user => within_bind (within_reads (slug_reads name _)) fun slug => ?_
  refine within_bind (within_insert fun db db' id changed => ?_) fun id => ?_
  · have tables := (Prod.mk.inj (Except.ok.inj changed)).2
    exact permits.elsewhere db db' (sameRolls_of_configs (by rw [← tables]) (by rw [← tables]) (by rw [← tables]))
  · refine within_bind (permits.join _ rfl) fun _ => ?_
    exact within_bind (migrateUserConfigsToOrganisation_within permits id user.id) fun _ => within_pure id

end

/-! ### One current membership -/

/-- No user has two current memberships. -/
def SingleCurrent (t : Tables) : Prop :=
  ∀ m ∈ t.organisationUsers, ∀ m' ∈ t.organisationUsers, m.userId = m'.userId → m.isCurrent → m'.isCurrent → m = m'
def HasCurrent (t : Tables) (userId : String) : Prop := ∃ m ∈ t.organisationUsers, m.userId = userId ∧ m.isCurrent

/-- What leaves single current memberships single. -/
def Singly (db db' : Database) : Prop := SingleCurrent db.toTables → SingleCurrent db'.toTables

instance : Std.Refl Singly := ⟨fun _ single => single⟩
instance : IsTrans Database Singly := ⟨fun _ _ _ first second single => second (first single)⟩

theorem SameRolls.singly {db db' : Database} (same : SameRolls db db') : Singly db db' := by
  intro single
  unfold SingleCurrent
  rwa [same.members]
theorem within_singly {α : Type} {p : Op α} (rolls : p.Within SameRolls) : p.Within Singly :=
  rolls.mono fun _ _ same => same.singly

/-- The memberships after a change of some of them that leaves the flags of the others. -/
theorem singleCurrent_of_subset {t t' : Tables} (single : SingleCurrent t)
    (subset : ∀ m' ∈ t'.organisationUsers, m'.isCurrent → m' ∈ t.organisationUsers) : SingleCurrent t' :=
  fun m member m' member' same current current' =>
    single m (subset m member current) m' (subset m' member' current') same current current'
/-- Where a user has no current membership, one may become current. -/
theorem singleCurrent_of_new {t t' : Tables} {new : OrganisationUser} (single : SingleCurrent t) (free : ¬ HasCurrent t new.userId)
    (others : ∀ m' ∈ t'.organisationUsers, m'.isCurrent → m' = new ∨ m' ∈ t.organisationUsers) : SingleCurrent t' := by
  intro m member m' member' same current current'
  rcases others m member current with rfl | old
  · rcases others m' member' current' with rfl | old'
    · rfl
    · exact absurd ⟨m', old', same.symm, current'⟩ free
  · rcases others m' member' current' with rfl | old'
    · exact absurd ⟨m, old, same, current⟩ free
    · exact single m old m' old' same current current'

section
variable {s : Database}

theorem createMember_singly {member : OrganisationUser} (free : member.isCurrent → ¬ HasCurrent s.toTables member.userId) :
    (createMember member).Ends (fun _ s' => Singly s s') s := by
  refine ends_write (fun s' tables single => ?_) fun _ single => single
  have either (m' : OrganisationUser) (inside : m' ∈ s'.organisationUsers) : m' ∈ s.organisationUsers ∨ m' = member := by
    rw [tables] at inside
    simpa using inside
  by_cases current : member.isCurrent
  · exact singleCurrent_of_new single (free current) fun m' inside _ => (either m' inside).symm
  · refine singleCurrent_of_subset single fun m' inside current' => ?_
    rcases either m' inside with old | rfl
    · exact old
    · exact absurd current' current
theorem createMember_plain {member : OrganisationUser} (plain : member.isCurrent = false) : (createMember member).Within Singly :=
  fun _ => createMember_singly fun current => absurd (plain.symm.trans current) (by decide)
theorem setCurrentMembership_singly {organisationId userId : String} (free : ¬ HasCurrent s.toTables userId) :
    (setCurrentMembership organisationId userId).Ends (fun _ s' => Singly s s') s := by
  refine ends_refusable (fun s' changed single => ?_) fun _ single => single
  cases found : s.membership organisationId userId with
  | none =>
    simp only [found] at changed
    cases changed
  | some m =>
    simp only [found] at changed
    have tables := Except.ok.inj changed
    have isMember : m.organisationId = organisationId ∧ m.userId = userId := by simpa using List.find?_some found
    refine @singleCurrent_of_new _ _ { m with isCurrent := true } single (by rwa [isMember.2]) fun m' inside current => ?_
    rw [← tables] at inside
    obtain ⟨old, member, rfl⟩ := List.mem_map.mp inside
    by_cases target : old.organisationId = organisationId ∧ old.userId = userId
    · have same : old = m :=
        List.inj_on_of_nodup_map s.unique.organisationUser member (List.mem_of_find?_eq_some found) (by simp [isMember, target])
      rw [if_pos target, same]
      exact .inl rfl
    · rw [if_neg target]
      exact .inr member

theorem migrateSharedUser_singly (organisationId sharedUserId : String) :
    (migrateSharedUser organisationId sharedUserId).Within Singly := by
  have shared : (do
      shareOrganisationDatabaseConfigs organisationId sharedUserId
      completeOnboarding sharedUserId).Within Singly :=
    within_singly (within_bind (shareOrganisationDatabaseConfigs_rolls _ _) fun _ => completeOnboarding_rolls sharedUserId)
  intro s
  refine ends_read (ends_read ?_)
  have looked : (s.organisationUsers.find? fun m => m.userId = sharedUserId ∧ m.isCurrent).isNone →
      ¬ HasCurrent s.toTables sharedUserId := by
    rintro none ⟨m, member, isUser, current⟩
    have missed := List.find?_eq_none.mp (Option.isNone_iff_eq_none.mp none) m member
    simp [isUser, current] at missed
  split
  · exact ends_bind_within (createMember_singly looked) fun _ => shared
  split
  · rename_i none
    exact ends_bind_within (setCurrentMembership_singly (looked none)) fun _ => shared
  · exact shared s
theorem deleteInvitation_singly (invitationId : String) : (deleteInvitation invitationId).Within Singly := by
  refine within_write fun db db' changed => ?_
  split at changed
  · have tables := Except.ok.inj changed
    exact fun single => by rwa [← tables]
  · cases changed
theorem singly_permits : Permits Singly where
  elsewhere _ _ same := same.singly
  join _ plain := createMember_plain plain
  forget := deleteInvitation_singly
  migrate := migrateSharedUser_singly

/-! ### The requests under which no membership ends -/

section
variable [CaseFolding]

variable [Ids]

omit [CaseFolding] in
theorem createUser_singly (email : String) : (createUser email).Within Singly := by
  refine within_insert fun db db' user changed => ?_
  have tables := (Prod.mk.inj (Except.ok.inj changed)).2
  exact fun single => by rwa [← tables]
theorem createNewUser_singly (email : String) : (createNewUser email).Within Singly := by
  refine within_bind (within_read _) fun existingUser => within_bind (within_throwIfError _ _) fun _ => ?_
  refine within_bind (createUser_singly _) fun createdUser => ?_
  exact within_bind (moveToNewUser_within singly_permits _ createdUser.id) fun _ => within_pure createdUser
theorem signInByProvider_singly (email : String) : (signInByProvider email).Within Singly := by
  refine within_bind (within_throwIfError _ _) fun _ => within_bind (createUser_singly _) fun createdUser => ?_
  refine within_bind ?_ fun _ => within_pure createdUser
  unfold createUserEvent
  split
  · exact within_pure ()
  · exact within_bind (within_attempt (moveToNewUser_within singly_permits _ createdUser.id)) fun _ => within_pure ()
theorem inviteUserToOrganisation_singly (session : Option String) (organisationId email : String) :
    (inviteUserToOrganisation session organisationId email).Within Singly := by
  refine within_bind (within_currentUser session) fun user => ?_
  refine within_bind (within_reads (hasAdminOrOwnerRole_reads _ _)) fun hasPermission => ?_
  refine within_bind (within_throwIfError _ _) fun _ => within_bind (within_throwIfError _ _) fun _ => ?_
  refine within_bind (within_throwIfError _ _) fun _ => within_bind (within_read _) fun existingUser => ?_
  cases existingUser with
  | some existing =>
    refine within_bind (within_read _) fun _ => within_bind (within_throwIfError _ _) fun _ => ?_
    refine within_bind (createMember_plain rfl) fun _ => ?_
    exact within_bind (within_singly (shareOrganisationDatabaseConfigs_rolls _ _)) fun _ => within_pure _
  | none =>
    refine within_bind (within_read _) fun _ => within_bind (within_throwIfError _ _) fun _ => ?_
    refine within_bind (within_write fun db db' changed => ?_) fun _ => within_pure _
    have tables := Except.ok.inj changed
    exact fun single => by rwa [← tables]

end

/-- The transaction clears every other flag of the user. -/
theorem setCurrentOrganisation_singly (session : Option String) (organisationId : String) :
    (setCurrentOrganisation session organisationId).Within Singly := by
  refine within_bind (within_currentUser session) fun user => within_bind (within_read _) fun membership => ?_
  refine within_bind (within_throwIfError _ _) fun _ => within_write fun db db' changed single => ?_
  have tables := Except.ok.inj changed
  intro m member m' member' same current current'
  rw [← tables] at member member'
  obtain ⟨old, inside, rfl⟩ := List.mem_map.mp member
  obtain ⟨old', inside', rfl⟩ := List.mem_map.mp member'
  by_cases first : old.userId = user.id
  · by_cases second : old'.userId = user.id
    · rw [if_pos first] at current
      rw [if_pos second] at current'
      have equal : old = old' := by
        refine List.inj_on_of_nodup_map db.unique.organisationUser inside inside' ?_
        have here : old.organisationId = organisationId := of_decide_eq_true current
        have here' : old'.organisationId = organisationId := of_decide_eq_true current'
        rw [here, here', first, second]
      rw [equal]
    · rw [if_pos first, if_neg second] at same
      exact absurd (same.symm.trans first) second
  · by_cases second : old'.userId = user.id
    · rw [if_neg first, if_pos second] at same
      exact absurd (same.trans second) first
    · rw [if_neg first, if_neg second] at same ⊢
      rw [if_neg first] at current
      rw [if_neg second] at current'
      exact single old inside old' inside' same current current'

/-- The same members with the same flags; roles may differ. -/
structure SameFlags (db db' : Database) : Prop where
  flags : ∀ m' ∈ db'.organisationUsers, ∃ m ∈ db.organisationUsers,
    m.organisationId = m'.organisationId ∧ m.userId = m'.userId ∧ m.isCurrent = m'.isCurrent
  kept : ∀ m ∈ db.organisationUsers, ∃ m' ∈ db'.organisationUsers, m'.organisationId = m.organisationId ∧ m'.userId = m.userId

instance : Std.Refl SameFlags :=
  ⟨fun _ => ⟨fun m member => ⟨m, member, rfl, rfl, rfl⟩, fun m member => ⟨m, member, rfl, rfl⟩⟩⟩

theorem SameFlags.singly {db db' : Database} (same : SameFlags db db') : Singly db db' := by
  intro single m member m' member' sameUser current current'
  obtain ⟨old, inside, sameOrganisation, isUser, isCurrent⟩ := same.flags m member
  obtain ⟨old', inside', sameOrganisation', isUser', isCurrent'⟩ := same.flags m' member'
  have equal := single old inside old' inside' (isUser.trans (sameUser.trans isUser'.symm)) (isCurrent ▸ current)
    (isCurrent' ▸ current')
  refine List.inj_on_of_nodup_map db'.unique.organisationUser member member' ?_
  rw [← sameOrganisation, ← sameOrganisation', ← isUser, ← isUser', equal]
theorem setRole_flags (organisationId userId role : String) : (setRole organisationId userId role).Within SameFlags := by
  refine within_write fun db db' changed => ?_
  split at changed
  · cases changed
  · have tables := Except.ok.inj changed
    have same (m : OrganisationUser) :
        (if m.organisationId = organisationId ∧ m.userId = userId then { m with role } else m).organisationId = m.organisationId ∧
          (if m.organisationId = organisationId ∧ m.userId = userId then { m with role } else m).userId = m.userId ∧
          (if m.organisationId = organisationId ∧ m.userId = userId then { m with role } else m).isCurrent = m.isCurrent := by
      split
      · exact ⟨rfl, rfl, rfl⟩
      · exact ⟨rfl, rfl, rfl⟩
    refine ⟨fun m' member => ?_, fun m member => ⟨_, by rw [← tables]; exact List.mem_map_of_mem member, (same m).1, (same m).2.1⟩⟩
    rw [← tables] at member
    obtain ⟨m, inside, rfl⟩ := List.mem_map.mp member
    exact ⟨m, inside, (same m).1.symm, (same m).2.1.symm, (same m).2.2.symm⟩

/-! ### Memberships that end -/

/-- The flags of memberships are no part of a key. -/
theorem setFlags_valid {t : Tables} {f : OrganisationUser → OrganisationUser}
    (same : ∀ m, (f m).organisationId = m.organisationId ∧ (f m).userId = m.userId) (unique : t.Unique) (references : t.References) :
    ({ t with organisationUsers := t.organisationUsers.map f } : Tables).Unique ∧
      ({ t with organisationUsers := t.organisationUsers.map f } : Tables).References := by
  refine ⟨{ unique with organisationUser := ?_ }, { references with member := fun m' member => ?_ }⟩
  · have keys : (t.organisationUsers.map f).map (fun m => (m.organisationId, m.userId)) =
        t.organisationUsers.map fun m => (m.organisationId, m.userId) := by
      rw [List.map_map]
      refine List.map_congr_left fun m _ => ?_
      rw [Function.comp_apply, (same m).1, (same m).2]
    rw [keys]
    exact unique.organisationUser
  · obtain ⟨m, inside, rfl⟩ := List.mem_map.mp member
    rw [(same m).1, (same m).2]
    exact references.member m inside
/-- A user who has a membership gets a current one. -/
theorem setOldestCurrent_ends {userId : String} (free : ¬ HasCurrent s.toTables userId) :
    (setOldestCurrent userId).Ends
      (fun _ s' => Singly s s' ∧ ((∃ m ∈ s.organisationUsers, m.userId = userId) → HasCurrent s'.toTables userId)) s := by
  refine ends_read ?_
  cases found : s.organisationUsers.find? (·.userId = userId) with
  | none =>
    refine ⟨fun single => single, ?_⟩
    rintro ⟨m, member, isUser⟩
    have missed := List.find?_eq_none.mp found m member
    simp [isUser] at missed
  | some oldest =>
    have isUser : oldest.userId = userId := by simpa using List.find?_some found
    have member := List.mem_of_find?_eq_some found
    obtain ⟨m, looked⟩ : ∃ m, s.membership oldest.organisationId userId = some m :=
      Option.isSome_iff_exists.mp (List.find?_isSome.mpr ⟨oldest, member, by simp [isUser]⟩)
    have flagged (m : OrganisationUser) :
        (if m.organisationId = oldest.organisationId ∧ m.userId = userId then { m with isCurrent := true } else m).organisationId =
            m.organisationId ∧
          (if m.organisationId = oldest.organisationId ∧ m.userId = userId then { m with isCurrent := true } else m).userId =
            m.userId := by
      split
      · exact ⟨rfl, rfl⟩
      · exact ⟨rfl, rfl⟩
    obtain ⟨unique, references⟩ := setFlags_valid flagged s.unique s.references
    have current : (setCurrentMembership oldest.organisationId userId).Ends (fun _ s' => HasCurrent s'.toTables userId) s := by
      refine ends_accepted (by simp only [looked]) unique references fun s' tables => ?_
      refine ⟨{ oldest with isCurrent := true }, ?_, isUser, rfl⟩
      rw [tables]
      exact List.mem_map.mpr ⟨oldest, member, if_pos ⟨rfl, isUser⟩⟩
    exact ⟨setCurrentMembership_singly free, fun _ => current⟩

/-- A user whose current membership is gone has a current one again, if any. -/
def CurrentAgain (db db' : Database) : Prop :=
  ∀ m ∈ db.organisationUsers, m.isCurrent →
    (∀ m' ∈ db'.organisationUsers, ¬(m'.organisationId = m.organisationId ∧ m'.userId = m.userId)) →
    (∃ m' ∈ db'.organisationUsers, m'.userId = m.userId) → HasCurrent db'.toTables m.userId

theorem currentAgain_of_kept {db db' : Database}
    (kept : ∀ m ∈ db.organisationUsers, ∃ m' ∈ db'.organisationUsers, m'.organisationId = m.organisationId ∧ m'.userId = m.userId) :
    CurrentAgain db db' := by
  intro m member _ gone _
  obtain ⟨m', inside, same⟩ := kept m member
  exact absurd same (gone m' inside)
theorem currentAgain_of_keeps {db db' : Database} (keeps : Keeps db db') : CurrentAgain db db' := by
  refine currentAgain_of_kept fun m member => ?_
  obtain ⟨m', inside, sameOrganisation, sameUser, -⟩ := keeps m member
  exact ⟨m', inside, sameOrganisation, sameUser⟩

/-- The last statement of a request that has ended memberships, of which only
    the user's can have been current, and was if the request says so. -/
theorem ends_current {db : Database} {userId : String} {wasCurrent : Bool} (single : SingleCurrent db.toTables)
    {keep : OrganisationUser → Bool} (members : s.organisationUsers = db.organisationUsers.filter keep)
    (ended : ∀ m ∈ db.organisationUsers, keep m = false → m.isCurrent → m.userId = userId ∧ wasCurrent = true)
    (was : wasCurrent = true → ∃ m ∈ db.organisationUsers, keep m = false ∧ m.userId = userId ∧ m.isCurrent) :
    (if wasCurrent then setOldestCurrent userId else pure ()).Ends
      (fun _ s' => SingleCurrent s'.toTables ∧ CurrentAgain db s') s := by
  have remains (m : OrganisationUser) : m ∈ s.organisationUsers ↔ m ∈ db.organisationUsers ∧ keep m = true := by
    rw [members, List.mem_filter]
  have single' : SingleCurrent s.toTables :=
    singleCurrent_of_subset single fun m inside _ => ((remains m).mp inside).1
  by_cases current : wasCurrent = true
  · rw [if_pos current]
    have free : ¬ HasCurrent s.toTables userId := by
      rintro ⟨m', inside, isUser', current'⟩
      obtain ⟨m, member, gone, isUser, isCurrent⟩ := was current
      obtain ⟨member', kept⟩ := (remains m').mp inside
      obtain rfl := single m member m' member' (isUser.trans isUser'.symm) isCurrent current'
      rw [gone] at kept
      cases kept
    obtain ⟨singly, again⟩ := setOldestCurrent_ends free
    have flags := setOldestCurrent_flags userId s
    refine ⟨singly single', fun m member isCurrent gone others => ?_⟩
    have left : keep m = false := by
      by_contra kept
      obtain ⟨m', inside', same⟩ := flags.kept m ((remains m).mpr ⟨member, by simpa using kept⟩)
      exact gone m' inside' ⟨same.1, same.2.1⟩
    obtain ⟨rfl, -⟩ := ended m member left isCurrent
    obtain ⟨m', inside', isUser'⟩ := others
    obtain ⟨before, inside, same⟩ := flags.members m' inside'
    exact again ⟨before, inside, same.2.1.symm.trans isUser'⟩
  · rw [if_neg current]
    refine ⟨single', fun m member isCurrent gone _ => ?_⟩
    by_cases kept : keep m = true
    · exact absurd ⟨rfl, rfl⟩ (gone m ((remains m).mpr ⟨member, kept⟩))
    · exact absurd (ended m member (by simpa using kept) isCurrent).2 current

end

section
variable {db : Database}

theorem membership_mem {t : Tables} {organisationId userId : String} {m : OrganisationUser}
    (found : t.membership organisationId userId = some m) :
    m ∈ t.organisationUsers ∧ m.organisationId = organisationId ∧ m.userId = userId :=
  ⟨List.mem_of_find?_eq_some found, by simpa using List.find?_some found⟩
theorem membership_of_mem {t : Tables} (unique : t.Unique) {m : OrganisationUser} (member : m ∈ t.organisationUsers) :
    t.membership m.organisationId m.userId = some m := by
  obtain ⟨m', found⟩ : ∃ m', t.membership m.organisationId m.userId = some m' :=
    Option.isSome_iff_exists.mp (List.find?_isSome.mpr ⟨m, member, by simp⟩)
  obtain ⟨inside, isOrganisation, isUser⟩ := membership_mem found
  rw [found, List.inj_on_of_nodup_map unique.organisationUser inside member (by rw [isOrganisation, isUser])]
/-- The request was about a current membership, or not. -/
theorem wasCurrent_iff {t : Tables} (unique : t.Unique) {organisationId userId : String} :
    (t.membership organisationId userId).any (·.isCurrent) = true ↔
      ∃ m ∈ t.organisationUsers, m.organisationId = organisationId ∧ m.userId = userId ∧ m.isCurrent := by
  constructor
  · intro was
    obtain ⟨m, found, current⟩ := (Option.any_eq_true _ _).mp was
    obtain ⟨member, isOrganisation, isUser⟩ := membership_mem found
    exact ⟨m, member, isOrganisation, isUser, current⟩
  · rintro ⟨m, member, rfl, rfl, current⟩
    rw [membership_of_mem unique member]
    exact current

theorem endMembership_right (single : SingleCurrent db.toTables) (organisationId userId : String) :
    (endMembership organisationId userId).Ends (fun _ s => SingleCurrent s.toTables ∧ CurrentAgain db s) db := by
  refine ends_read (ends_bind (ends_write (fun s tables => ?_) fun _ => ⟨single, currentAgain_of_keeps (keeps_refl db)⟩))
  have same : s.organisationUsers = db.organisationUsers := by rw [tables]
  have unchanged : SingleCurrent s.toTables ∧ CurrentAgain db s := by
    refine ⟨?_, currentAgain_of_kept fun m member => ⟨m, same ▸ member, rfl, rfl⟩⟩
    unfold SingleCurrent
    rwa [same]
  refine ends_bind (ends_refusable (fun s' changed => ?_) fun _ => unchanged)
  split at changed
  · cases changed
  · have left := Except.ok.inj changed
    have members : s'.organisationUsers =
        db.organisationUsers.filter fun m => ¬(m.organisationId = organisationId ∧ m.userId = userId) := by
      rw [← left, ← same]
    have here (m : OrganisationUser) (gone : decide (¬(m.organisationId = organisationId ∧ m.userId = userId)) = false) :
        m.organisationId = organisationId ∧ m.userId = userId := by simpa using gone
    refine ends_current single members (fun m member gone current => ?_) fun was => ?_
    · obtain ⟨isOrganisation, isUser⟩ := here m gone
      exact ⟨isUser, (wasCurrent_iff db.unique).mpr ⟨m, member, isOrganisation, isUser, current⟩⟩
    · obtain ⟨m, member, isOrganisation, isUser, current⟩ := (wasCurrent_iff db.unique).mp was
      exact ⟨m, member, by simp [isOrganisation, isUser], isUser, current⟩
theorem removeUserFromOrganisation_single (single : SingleCurrent db.toTables) (session : Option String)
    (organisationId userId : String) :
    (removeUserFromOrganisation session organisationId userId).Ends
      (fun _ s => SingleCurrent s.toTables ∧ CurrentAgain db s) db := by
  have unchanged := And.intro single (currentAgain_of_keeps (keeps_refl db))
  refine ends_currentUser (fun user _ => ends_read ?_) unchanged
  cases findOrganisation db.toTables organisationId with
  | none => exact unchanged
  | some o =>
    refine ends_bind (Ends.mono (checkRemoval_reads o user.id userId db) ?_)
    rintro result s rfl
    cases result with
    | error _ => exact unchanged
    | ok _ => exact endMembership_right single organisationId userId
/-- The members of a deleted organisation are its creator alone, who is the caller. -/
theorem deleteOrganisation_single (owned : OwnedByCreator db.toTables) (single : SingleCurrent db.toTables)
    (session : Option String) (id : String) :
    (deleteOrganisation session id).Ends (fun _ s => SingleCurrent s.toTables ∧ CurrentAgain db s) db := by
  have unchanged := And.intro single (currentAgain_of_keeps (keeps_refl db))
  refine ends_currentUser (fun user _ => ends_read ?_) unchanged
  cases found : findOrganisation db.toTables id with
  | none => exact unchanged
  | some o =>
    refine ends_throwIfError (fun _ => unchanged) fun created => ends_throwIfError (fun _ => unchanged) fun sole => ends_read ?_
    obtain ⟨member, isId⟩ := organisation_of_find found
    have creator : o.createdByUserId = user.id := by simpa using created
    have few : memberCount db.toTables o.id ≤ 1 := by simpa [isId] using sole
    refine ends_bind (removeOrganisation_ends (fun s _ members => ?_) fun _ => unchanged)
    refine ends_current single members (fun m inside gone current => ?_) fun was => ?_
    · have here : m.organisationId = id := by simpa using gone
      have isUser : m.userId = user.id := (sole_member owned member few inside (here.trans isId.symm)).trans creator
      exact ⟨isUser, (wasCurrent_iff db.unique).mpr ⟨m, inside, here, isUser, current⟩⟩
    · obtain ⟨m, inside, here, isUser, current⟩ := (wasCurrent_iff db.unique).mp was
      exact ⟨m, inside, by simp [here], isUser, current⟩

/-! ### Runs -/

theorem ends_single {α : Type} {p : Op α} (single : SingleCurrent db.toTables) (singly : p.Within Singly)
    (keeps : p.Ends (fun _ s => Keeps db s) db) : p.Ends (fun _ s => SingleCurrent s.toTables ∧ CurrentAgain db s) db :=
  ⟨singly db single, currentAgain_of_keeps keeps⟩

variable [CaseFolding] [Ids]

theorem perform_single (owned : OwnedByCreator db.toTables) (single : SingleCurrent db.toTables) (request : Request) :
    (perform request).Ends (fun _ s => SingleCurrent s.toTables ∧ CurrentAgain db s) db := by
  cases request with
  | createOrganisation session name randomSuffixes =>
    have keeps := (createOrganisation_right owned session name randomSuffixes).mono fun _ _ ended => ended.2
    exact ends_discard (ends_single single (createOrganisation_within singly_permits session name randomSuffixes) keeps)
  | setCurrentOrganisation session organisationId =>
    exact ends_single single (setCurrentOrganisation_singly session organisationId)
      ((setCurrentOrganisation_orderly session organisationId).joins db).kept
  | updateOrganisation session id name =>
    exact ends_single single (updateOrganisation_within singly_permits.rename session id name)
      ((updateOrganisation_orderly session id name).joins db).kept
  | deleteOrganisation session id => exact deleteOrganisation_single owned single session id
  | inviteUserToOrganisation session organisationId email =>
    exact ends_discard (ends_single single (inviteUserToOrganisation_singly session organisationId email)
      ((inviteUserToOrganisation_orderly session organisationId email).joins db).kept)
  | acceptInvitation session invitationId =>
    exact ends_single single (acceptInvitation_within singly_permits session invitationId)
      ((acceptInvitation_orderly session invitationId).joins db).kept
  | declineInvitation session invitationId =>
    exact ends_single single (declineInvitation_within singly_permits.forget session invitationId)
      ((declineInvitation_orderly session invitationId).joins db).kept
  | cancelInvitation session invitationId =>
    exact ends_single single (cancelInvitation_within singly_permits.forget session invitationId)
      ((cancelInvitation_orderly session invitationId).joins db).kept
  | removeUserFromOrganisation session organisationId userId =>
    exact removeUserFromOrganisation_single single session organisationId userId
  | updateMemberRole session organisationId userId role =>
    have flags : (Memberships.updateMemberRole session organisationId userId role).Ends (fun _ s => SameFlags db s) db := by
      refine ends_currentUser (fun user _ => ends_read ?_) (Std.Refl.refl db)
      cases findOrganisation db.toTables organisationId with
      | none => exact Std.Refl.refl db
      | some o =>
        refine ends_bind (Ends.mono (checkRoleChange_reads o user.id userId role db) ?_)
        rintro result s rfl
        cases result with
        | error _ => exact Std.Refl.refl db
        | ok _ => exact setRole_flags organisationId userId role db
    exact flags.mono fun _ s same => ⟨same.singly single, currentAgain_of_kept same.kept⟩
  | createNewUser email =>
    exact ends_discard (ends_single single (createNewUser_singly email) ((createNewUser_orderly email).joins db).kept)
  | signInByProvider email =>
    exact ends_discard (ends_single single (signInByProvider_singly email) ((signInByProvider_orderly email).joins db).kept)

theorem singleCurrent_run (events : List Event) : SingleCurrent (OrganisationRuns.run events).toTables := by
  induction events using List.reverseRecOn with
  | nil => exact nofun
  | append_singleton events event ih =>
    rw [OrganisationRuns.run, List.foldl_append]
    cases event with
    | request request => exact (perform_single (ownedByCreator_run events) ih request).1
    | elsewhere next =>
      show SingleCurrent (if _ then next else OrganisationRuns.run events).toTables
      split
      · rename_i same
        unfold SingleCurrent
        rwa [same.2]
      · exact ih

/-- The current memberships of a user. -/
def currents (t : Tables) (userId : String) : List OrganisationUser :=
  t.organisationUsers.filter fun m => m.userId = userId ∧ m.isCurrent

omit [CaseFolding] [Ids] in
theorem currents_length_le {t : Tables} (unique : t.Unique) (single : SingleCurrent t) (userId : String) :
    (currents t userId).length ≤ 1 := by
  have distinct : (currents t userId).Nodup := (List.Nodup.of_map _ unique.organisationUser).filter _
  have same : ∀ m ∈ currents t userId, ∀ m' ∈ currents t userId, m = m' := by
    intro m member m' member'
    obtain ⟨inside, isCurrent⟩ := List.mem_filter.mp member
    obtain ⟨inside', isCurrent'⟩ := List.mem_filter.mp member'
    obtain ⟨isUser, current⟩ := of_decide_eq_true isCurrent
    obtain ⟨isUser', current'⟩ := of_decide_eq_true isCurrent'
    exact single m inside m' inside' (isUser.trans isUser'.symm) current current'
  cases listed : currents t userId with
  | nil => exact Nat.zero_le 1
  | cons m rest =>
    cases rest with
    | nil => exact Nat.le_refl 1
    | cons m' rest =>
      rw [listed] at distinct same
      have equal := same m List.mem_cons_self m' (by simp)
      rw [equal] at distinct
      exact absurd (by simp) (List.nodup_cons.mp distinct).1

/-- After any run, a user has at most one current membership; and if a request
    ends the current one of a user who has others left, exactly one. -/
theorem currents_right (events : List Event) :
    (∀ userId, (currents (OrganisationRuns.run events).toTables userId).length ≤ 1) ∧
      ∀ request, ∀ m ∈ (OrganisationRuns.run events).organisationUsers, m.isCurrent →
        (∀ m' ∈ (step (OrganisationRuns.run events) (.request request)).organisationUsers,
          ¬(m'.organisationId = m.organisationId ∧ m'.userId = m.userId)) →
        (∃ m' ∈ (step (OrganisationRuns.run events) (.request request)).organisationUsers, m'.userId = m.userId) →
        (currents (step (OrganisationRuns.run events) (.request request)).toTables m.userId).length = 1 := by
  have single := singleCurrent_run events
  refine ⟨currents_length_le (OrganisationRuns.run events).unique single, fun request m member current gone others => ?_⟩
  obtain ⟨single', again⟩ := perform_single (ownedByCreator_run events) single request
  obtain ⟨m', inside, isUser, current'⟩ := again m member current gone others
  have listed : m' ∈ currents (step (OrganisationRuns.run events) (.request request)).toTables m.userId :=
    List.mem_filter.mpr ⟨inside, decide_eq_true ⟨isUser, current'⟩⟩
  have few := currents_length_le (step (OrganisationRuns.run events) (.request request)).unique single' m.userId
  have some := List.length_pos_of_mem listed
  omega

end

end Openlit.CurrentOrganisations
