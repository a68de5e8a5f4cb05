import Openlit.CurrentOrganisations

/-!
Pending invitations to organisations. Invitations are kept by email and
memberships by user; the two meet when someone is invited, where a registered
user joins at once, and when someone signs up, where every invitation for the
email becomes a membership. Both sides store emails normalised, and neither
sign-up can fail between the new user and the last of the invitations, so no
registered user ever has one pending (`invitations_right`).
-/
namespace Openlit.Invitations
open Openlit.Programs Openlit.Programs.Program Openlit.Text Openlit.Accounts Openlit.Organisations Openlit.DbConfigs
  Openlit.Memberships Openlit.OrganisationRoles Openlit.OrganisationRuns Openlit.CurrentOrganisations

/-! ### Statements that cannot fail -/

section
variable {s : Database}

/-- A user who is not a member of an organisation can become one. -/
theorem createMember_succeeds {member : OrganisationUser} (organisation : ∃ o ∈ s.organisations, o.id = member.organisationId)
    (user : ∃ u ∈ s.users, u.id = member.userId)
    (absent : ∀ m ∈ s.organisationUsers, ¬(m.organisationId = member.organisationId ∧ m.userId = member.userId)) :
    (createMember member).Ends (fun result s' => result = .ok () ∧
      s'.toTables = { s.toTables with organisationUsers := s.organisationUsers ++ [member] }) s := by
  refine ends_valid { s.unique with organisationUser := ?_ } { s.references with member := fun m inside => ?_ } fun s' tables =>
    ⟨rfl, tables⟩
  · rw [List.map_append, List.nodup_append]
    refine ⟨s.unique.organisationUser, by simp, ?_⟩
    rintro _ old _ new rfl
    obtain ⟨m, inside, isKey⟩ := List.mem_map.mp old
    rw [List.map_singleton, List.mem_singleton] at new
    rw [new, Prod.mk.injEq] at isKey
    exact absent m inside isKey
  · rcases List.mem_append.mp inside with old | new
    · exact s.references.member m old
    · rw [List.mem_singleton.mp new]
      exact ⟨organisation, user⟩
theorem createLink_succeeds {link : DatabaseConfigUser} (config : ∃ c ∈ s.databaseConfigs, c.id = link.databaseConfigId)
    (user : ∃ u ∈ s.users, u.id = link.userId) (absent : s.link link.databaseConfigId link.userId = none) :
    (createLink link).Ends (fun result s' => result = .ok () ∧
      s'.toTables = { s.toTables with databaseConfigUsers := s.databaseConfigUsers ++ [link] }) s := by
  obtain ⟨unique, references⟩ := newLink_valid s.unique s.references config user absent
  exact ends_valid unique references fun s' tables => ⟨rfl, tables⟩
theorem deleteInvitation_succeeds {invitation : OrganisationInvitedUser} (pending : invitation ∈ s.organisationInvitedUsers) :
    (deleteInvitation invitation.id).Ends (fun result s' => result = .ok () ∧
      s'.toTables = { s.toTables with
        organisationInvitedUsers := s.organisationInvitedUsers.filter (·.id ≠ invitation.id) }) s := by
  have found : s.organisationInvitedUsers.any (·.id = invitation.id) = true :=
    List.any_eq_true.mpr ⟨invitation, pending, by simp⟩
  have kept := List.filter_sublist (l := s.organisationInvitedUsers) (p := fun i => decide (i.id ≠ invitation.id))
  refine ends_accepted (if_pos found) { s.unique with invitationId := ?_, invitation := ?_ }
    { s.references with invitation := fun i inside => s.references.invitation i (List.mem_of_mem_filter inside) } fun s' tables =>
    ⟨rfl, tables⟩
  · exact s.unique.invitationId.sublist (kept.map _)
  · exact s.unique.invitation.sublist (kept.map _)
/-- The flags of links are no part of a key. -/
theorem setLinks_valid {t : Tables} {f : DatabaseConfigUser → DatabaseConfigUser}
    (same : ∀ l, (f l).databaseConfigId = l.databaseConfigId ∧ (f l).userId = l.userId) (unique : t.Unique)
    (references : t.References) :
    ({ t with databaseConfigUsers := t.databaseConfigUsers.map f } : Tables).Unique ∧
      ({ t with databaseConfigUsers := t.databaseConfigUsers.map f } : Tables).References := by
  refine ⟨{ unique with link := ?_ }, { references with link := fun l' inside => ?_ }⟩
  · have keys : (t.databaseConfigUsers.map f).map (fun l => (l.databaseConfigId, l.userId)) =
        t.databaseConfigUsers.map fun l => (l.databaseConfigId, l.userId) := by
      rw [List.map_map]
      refine List.map_congr_left fun l _ => ?_
      rw [Function.comp_apply, (same l).1, (same l).2]
    rw [keys]
    exact unique.link
  · obtain ⟨l, member, rfl⟩ := List.mem_map.mp inside
    rw [(same l).1, (same l).2]
    exact references.link l member
theorem flagged_key (databaseConfigId userId : String) (isCurrent : Bool) (l : DatabaseConfigUser) :
    (if l.databaseConfigId = databaseConfigId ∧ l.userId = userId then { l with isCurrent } else l).databaseConfigId =
        l.databaseConfigId ∧
      (if l.databaseConfigId = databaseConfigId ∧ l.userId = userId then { l with isCurrent } else l).userId = l.userId := by
  split
  · exact ⟨rfl, rfl⟩
  · exact ⟨rfl, rfl⟩
theorem updateLink_succeeds {link : DatabaseConfigUser} (stored : link ∈ s.databaseConfigUsers) (isCurrent : Bool) :
    (updateLink link.databaseConfigId link.userId isCurrent).Ends (fun result s' => result = .ok () ∧
      s'.toTables = { s.toTables with
        databaseConfigUsers := s.databaseConfigUsers.map fun l =>
          if l.databaseConfigId = link.databaseConfigId ∧ l.userId = link.userId then { l with isCurrent } else l }) s := by
  obtain ⟨found, looked⟩ : ∃ l, s.link link.databaseConfigId link.userId = some l :=
    Option.isSome_iff_exists.mp (List.find?_isSome.mpr ⟨link, stored, by simp⟩)
  obtain ⟨unique, references⟩ := setLinks_valid (flagged_key link.databaseConfigId link.userId isCurrent) s.unique s.references
  exact ends_accepted (by simp only [looked]) unique references fun _ tables => ⟨rfl, tables⟩

/-! ### A new user joins -/

theorem shareOrganisationDatabaseConfigs_succeeds {organisationId userId : String} (user : ∃ u ∈ s.users, u.id = userId) :
    (shareOrganisationDatabaseConfigs organisationId userId).Ends (fun result _ => result = .ok ()) s := by
  have each (existing : Option DatabaseConfigUser) (config : DatabaseConfig) (assigned : Bool) (start : Database)
      (right : (∃ c ∈ start.databaseConfigs, c.id = config.id) ∧ ∃ u ∈ start.users, u.id = userId) :
      (shareConfig userId existing assigned config).Ends (fun result s' => (∃ b, result = .ok b) ∧
        s'.databaseConfigs = start.databaseConfigs ∧ s'.users = start.users) start := by
    refine ends_read ?_
    cases absent : start.link config.id userId with
    | some _ => exact ⟨⟨_, rfl⟩, rfl, rfl⟩
    | none =>
      have linked := @createLink_succeeds start ⟨config.id, userId, existing.isNone && !assigned, {}⟩ right.1 right.2 absent
      refine ends_bind (linked.mono ?_)
      rintro _ s' ⟨rfl, tables⟩
      refine ends_pure ⟨⟨_, rfl⟩, ?_, ?_⟩
      · rw [tables]
      · rw [tables]
  refine ends_read (ends_read (ends_bind ?_))
  refine ends_foldEach (fun _ s' => s'.databaseConfigs = s.databaseConfigs ∧ s'.users = s.users)
    (fun config member assigned start same => ?_) (fun _ _ _ => rfl) ⟨rfl, rfl⟩
  have stored : config ∈ s.databaseConfigs := List.mem_of_mem_filter member
  refine (each _ config assigned start ⟨⟨config, same.1 ▸ stored, rfl⟩, same.2 ▸ user⟩).mono ?_
  rintro _ s' ⟨⟨b, rfl⟩, configs, users⟩
  exact ⟨configs.trans same.1, users.trans same.2⟩
theorem moveSharedDBConfigToDBUser_succeeds (email userId : String) :
    (moveSharedDBConfigToDBUser email userId).Ends (fun result _ => result = .ok ()) s := by
  refine ends_read ?_
  split
  · rfl
  have attempted (links : List DatabaseConfigUser) : (createLinks links).Ends (fun _ _ => True) s := trivial
  refine ends_bind (ends_attempt ((attempted _).mono fun _ start _ => ends_read ?_))
  split
  · rfl
  refine ends_read ?_
  cases found : start.databaseConfigUsers.find? (·.userId = userId) with
  | none => rfl
  | some first =>
    have isUser : first.userId = userId := by simpa using List.find?_some found
    have ended := (updateLink_succeeds (List.mem_of_find?_eq_some found) true).mono fun _ _ done => done.1
    rwa [isUser] at ended

/-- No user is new and no invitation is. -/
structure Calm (db db' : Database) : Prop where
  users : db'.users.map (fun u => (u.id, u.email)) = db.users.map fun u => (u.id, u.email)
  invitations : ∀ i ∈ db'.organisationInvitedUsers, i ∈ db.organisationInvitedUsers

instance : Std.Refl Calm := ⟨fun _ => ⟨rfl, fun _ member => member⟩⟩
instance : IsTrans Database Calm :=
  ⟨fun _ _ _ first second => ⟨second.users.trans first.users, fun i member => first.invitations i (second.invitations i member)⟩⟩

theorem calm_of_rolls {db db' : Database} (same : SameRolls db db') : Calm db db' :=
  ⟨same.users, fun _ member => same.invitations ▸ member⟩
theorem Calm.user_mem {db db' : Database} (calm : Calm db db') {u' : User} (member : u' ∈ db'.users) :
    ∃ u ∈ db.users, u.id = u'.id ∧ u.email = u'.email := by
  have listed : (u'.id, u'.email) ∈ db.users.map fun u => (u.id, u.email) := calm.users ▸ List.mem_map_of_mem member
  obtain ⟨u, inside, same⟩ := List.mem_map.mp listed
  exact ⟨u, inside, (Prod.mk.inj same).1, (Prod.mk.inj same).2⟩
theorem Calm.user_kept {db db' : Database} (calm : Calm db db') {userId : String} (user : ∃ u ∈ db.users, u.id = userId) :
    ∃ u ∈ db'.users, u.id = userId := by
  obtain ⟨u, member, isUser⟩ := user
  have listed : (u.id, u.email) ∈ db'.users.map fun u => (u.id, u.email) := calm.users ▸ List.mem_map_of_mem member
  obtain ⟨u', inside, same⟩ := List.mem_map.mp listed
  exact ⟨u', inside, (Prod.mk.inj same).1.trans isUser⟩

theorem joinByInvitation_succeeds {invitation : OrganisationInvitedUser} {userId : String}
    (pending : invitation ∈ s.organisationInvitedUsers) (user : ∃ u ∈ s.users, u.id = userId)
    (absent : ∀ m ∈ s.organisationUsers, ¬(m.organisationId = invitation.organisationId ∧ m.userId = userId)) :
    (joinByInvitation invitation userId).Ends (fun result s' => result = .ok () ∧ Calm s s' ∧
      s'.organisationUsers = s.organisationUsers ++ [{ organisationId := invitation.organisationId, userId }] ∧
      s'.organisationInvitedUsers = s.organisationInvitedUsers.filter (·.id ≠ invitation.id)) s := by
  have created := @createMember_succeeds s { organisationId := invitation.organisationId, userId }
    (s.references.invitation invitation pending) user absent
  refine ends_bind (created.mono ?_)
  rintro _ s₁ ⟨rfl, tables⟩
  have user₁ : ∃ u ∈ s₁.users, u.id = userId := by rwa [tables]
  have shared := (@shareOrganisationDatabaseConfigs_succeeds s₁ invitation.organisationId userId user₁).and
    (shareOrganisationDatabaseConfigs_rolls invitation.organisationId userId s₁)
  refine ends_bind (shared.mono ?_)
  rintro _ s₂ ⟨rfl, same⟩
  have pending₂ : invitation ∈ s₂.organisationInvitedUsers := by rwa [same.invitations, tables]
  refine (deleteInvitation_succeeds pending₂).mono ?_
  rintro _ s₃ ⟨rfl, left⟩
  refine ⟨rfl, ⟨?_, fun i member => ?_⟩, ?_, ?_⟩
  · rw [left, same.users, tables]
  · rw [left] at member
    have inside : i ∈ s₂.organisationInvitedUsers := List.mem_of_mem_filter member
    rwa [same.invitations, tables] at inside
  · rw [left, same.members, tables]
  · rw [left, same.invitations, tables]
/-- The invitations of a new user become memberships one after the other, and no membership ends. -/
theorem joinAll_succeeds {email userId : String} {rest : List OrganisationInvitedUser} (user : ∃ u ∈ s.users, u.id = userId)
    (pending : s.organisationInvitedUsers.filter (·.email = email) = rest)
    (absent : ∀ i ∈ rest, ∀ m ∈ s.organisationUsers, ¬(m.organisationId = i.organisationId ∧ m.userId = userId)) :
    (foldEach (fun _ invitation => joinByInvitation invitation userId) rest ()).Ends
      (fun result s' => result = .ok () ∧ Calm s s' ∧ (∀ i ∈ s'.organisationInvitedUsers, i.email ≠ email) ∧
        (∀ m ∈ s.organisationUsers, m ∈ s'.organisationUsers) ∧
        ∀ i ∈ rest, { organisationId := i.organisationId, userId } ∈ s'.organisationUsers) s := by
  induction rest generalizing s with
  | nil =>
    refine ⟨rfl, Std.Refl.refl s, fun i member isEmail => ?_, fun m member => member, fun i none => by cases none⟩
    have listed : i ∈ s.organisationInvitedUsers.filter (·.email = email) := List.mem_filter.mpr ⟨member, decide_eq_true isEmail⟩
    rw [pending] at listed
    cases listed
  | cons invitation rest ih =>
    have listed (i : OrganisationInvitedUser) (member : i ∈ invitation :: rest) :
        i ∈ s.organisationInvitedUsers ∧ i.email = email := by
      rw [← pending] at member
      simpa using member
    obtain ⟨stored, isEmail⟩ := listed invitation List.mem_cons_self
    have distinct : ((invitation :: rest).map (·.id)).Nodup := by
      rw [← pending]
      exact s.unique.invitationId.sublist (List.filter_sublist.map _)
    refine ends_bind ((joinByInvitation_succeeds stored user (absent invitation List.mem_cons_self)).mono ?_)
    rintro _ s' ⟨rfl, calm, members, invitations⟩
    have remaining : s'.organisationInvitedUsers.filter (·.email = email) = rest := by
      rw [invitations, List.filter_comm, pending, List.filter_cons_of_neg (by simp)]
      refine List.filter_eq_self.mpr fun i member => ?_
      have other : i.id ≠ invitation.id := by
        intro same
        exact (List.nodup_cons.mp distinct).1 (List.mem_map.mpr ⟨i, member, same⟩)
      simpa using other
    refine (ih (calm.user_kept user) remaining fun i member m inside => ?_).mono ?_
    · rw [members] at inside
      rcases List.mem_append.mp inside with old | new
      · exact absent i (List.mem_cons_of_mem _ member) m old
      · rw [List.mem_singleton.mp new]
        rintro ⟨sameOrganisation, -⟩
        obtain ⟨stored', isEmail'⟩ := listed i (List.mem_cons_of_mem _ member)
        have same : i = invitation := List.inj_on_of_nodup_map s.unique.invitation stored' stored
          (by rw [← sameOrganisation, isEmail, isEmail'])
        exact (List.nodup_cons.mp distinct).1 (same ▸ List.mem_map_of_mem member)
    · rintro _ s'' ⟨rfl, calm', gone, kept, joined⟩
      have left (m : OrganisationUser) (member : m ∈ s'.organisationUsers) : m ∈ s''.organisationUsers := kept m member
      rw [members] at left
      refine ⟨rfl, IsTrans.trans _ _ _ calm calm', gone, fun m member => left m (List.mem_append_left _ member), ?_⟩
      rw [List.forall_mem_cons]
      exact ⟨left _ (List.mem_append_right _ (List.mem_singleton_self _)), joined⟩
/-- A sign-up leaves no invitation for the email of its new user, who was no member yet, but memberships. -/
theorem moveToNewUser_succeeds [CaseFolding] {email userId : String} (normal : normalizeEmail email = email)
    (user : ∃ u ∈ s.users, u.id = userId) (absent : ∀ m ∈ s.organisationUsers, m.userId ≠ userId) :
    (moveToNewUser email userId).Ends
      (fun result s' => result = .ok () ∧ Calm s s' ∧ (∀ i ∈ s'.organisationInvitedUsers, i.email ≠ email) ∧
        ∀ i ∈ s.organisationInvitedUsers, i.email = email →
          ∃ m ∈ s'.organisationUsers, m.organisationId = i.organisationId ∧ m.userId = userId) s := by
  have moved := (@moveSharedDBConfigToDBUser_succeeds s email userId).and (moveSharedDBConfigToDBUser_rolls email userId s)
  refine ends_bind (moved.mono ?_)
  rintro _ s' ⟨rfl, same⟩
  have calm := calm_of_rolls same
  refine ends_read ((joinAll_succeeds (calm.user_kept user) (by rw [normal]) fun i _ m member here => ?_).mono ?_)
  · rw [same.members] at member
    exact absent m member here.2
  · rintro _ s'' ⟨rfl, calm', gone, -, joined⟩
    refine ⟨rfl, IsTrans.trans _ _ _ calm calm', gone, fun i pending isEmail => ⟨_, joined i ?_, rfl, rfl⟩⟩
    rw [normal]
    exact List.mem_filter.mpr ⟨same.invitations ▸ pending, decide_eq_true isEmail⟩

end

/-! ### Requests without a new user or invitation -/

theorem within_calm {change : Tables → Except String Tables}
    (kept : ∀ t t', change t = .ok t' → t'.users = t.users ∧ ∀ i ∈ t'.organisationInvitedUsers, i ∈ t.organisationInvitedUsers) :
    (write change).Within Calm := by
  refine within_write fun db db' changed => ?_
  obtain ⟨users, invitations⟩ := kept db.toTables db'.toTables changed
  exact ⟨by rw [users], invitations⟩
theorem createMember_calm (member : OrganisationUser) : (createMember member).Within Calm :=
  within_calm fun t t' changed => by
    rw [← Except.ok.inj changed]
    exact ⟨rfl, fun _ inside => inside⟩
theorem setCurrentMembership_calm (organisationId userId : String) : (setCurrentMembership organisationId userId).Within Calm := by
  refine within_calm fun t t' changed => ?_
  split at changed
  · cases changed
  · rw [← Except.ok.inj changed]
    exact ⟨rfl, fun _ inside => inside⟩
theorem setOldestCurrent_calm (userId : String) : (setOldestCurrent userId).Within Calm := by
  refine within_bind (within_read _) fun remainingOrgs => ?_
  cases remainingOrgs with
  | none => exact within_pure ()
  | some oldest => exact setCurrentMembership_calm oldest.organisationId userId
theorem calm_permits : Permits Calm where
  elsewhere _ _ same := calm_of_rolls same
  join member _ := createMember_calm member
  forget invitationId := by
    refine within_calm fun t t' changed => ?_
    split at changed
    · rw [← Except.ok.inj changed]
      exact ⟨rfl, fun _ inside => List.mem_of_mem_filter inside⟩
    · cases changed
  migrate organisationId sharedUserId := by
    have shared : (do
        shareOrganisationDatabaseConfigs organisationId sharedUserId
        completeOnboarding sharedUserId).Within Calm :=
      (within_bind (shareOrganisationDatabaseConfigs_rolls _ _) fun _ => completeOnboarding_rolls sharedUserId).mono
        fun _ _ same => calm_of_rolls same
    refine within_bind (within_read _) fun existingMembership => within_bind (within_read _) fun hasCurrentOrg => ?_
    split
    · exact within_bind (createMember_calm _) fun _ => shared
    split
    · exact within_bind (setCurrentMembership_calm _ _) fun _ => shared
    · exact shared
theorem setCurrentOrganisation_calm (session : Option String) (organisationId : String) :
    (setCurrentOrganisation session organisationId).Within Calm := by
  refine within_bind (within_currentUser session) fun user => within_bind (within_read _) fun membership => ?_
  refine within_bind (within_throwIfError _ _) fun _ => within_calm fun t t' changed => ?_
  rw [← Except.ok.inj changed]
  exact ⟨rfl, fun _ inside => inside⟩
theorem deleteOrganisation_calm (session : Option String) (id : String) : (deleteOrganisation session id).Within Calm := by
  refine within_bind (within_currentUser session) fun user => within_bind (within_read _) fun found => ?_
  cases found with
  | none => exact within_fail _
  | some found =>
    refine within_bind (within_throwIfError _ _) fun _ => within_bind (within_throwIfError _ _) fun _ => ?_
    refine within_bind (within_read _) fun membership => within_bind (within_calm fun t t' changed => ?_) fun _ => ?_
    · split at changed
      · cases changed
      · rw [← Except.ok.inj changed]
        exact ⟨rfl, fun _ inside => List.mem_of_mem_filter inside⟩
    · split
      · exact setOldestCurrent_calm user.id
      · exact within_pure ()
theorem removeUserFromOrganisation_calm (session : Option String) (organisationId userId : String) :
    (removeUserFromOrganisation session organisationId userId).Within Calm := by
  refine within_bind (within_currentUser session) fun user => within_bind (within_read _) fun organisation => ?_
  cases organisation with
  | none => exact within_fail _
  | some o =>
    refine within_bind (within_reads (checkRemoval_reads o user.id userId)) fun _ => within_bind (within_read _) fun membership => ?_
    refine within_bind (within_calm fun t t' changed => ?_) fun _ => within_bind (within_calm fun t t' changed => ?_) fun _ => ?_
    · rw [← Except.ok.inj changed]
      exact ⟨rfl, fun _ inside => inside⟩
    · split at changed
      · cases changed
      · rw [← Except.ok.inj changed]
        exact ⟨rfl, fun _ inside => inside⟩
    · split
      · exact setOldestCurrent_calm userId
      · exact within_pure ()
theorem updateMemberRole_calm (session : Option String) (organisationId userId role : String) :
    (updateMemberRole session organisationId userId role).Within Calm := by
  refine within_bind (within_currentUser session) fun user => within_bind (within_read _) fun organisation => ?_
  cases organisation with
  | none => exact within_fail _
  | some o =>
    refine within_bind (within_reads (checkRoleChange_reads o user.id userId role)) fun _ => within_calm fun t t' changed => ?_
    split at changed
    · cases changed
    · rw [← Except.ok.inj changed]
      exact ⟨rfl, fun _ inside => inside⟩

/-! ### No invitation of a registered user -/

section
variable [CaseFolding]

/-- Emails are stored normalised, and those of the invitations are apart from those of the users. -/
structure Settled (t : Tables) : Prop where
  users : ∀ u ∈ t.users, normalizeEmail u.email = u.email
  invitations : ∀ i ∈ t.organisationInvitedUsers, normalizeEmail i.email = i.email ∧ i.email ≠ ""
  apart : ∀ i ∈ t.organisationInvitedUsers, ∀ u ∈ t.users, i.email ≠ u.email

theorem settled_of_calm {db db' : Database} (settled : Settled db.toTables) (calm : Calm db db') : Settled db'.toTables := by
  refine ⟨fun u' member => ?_, fun i member => settled.invitations i (calm.invitations i member), fun i inside u' member => ?_⟩
  · obtain ⟨u, old, -, isEmail⟩ := calm.user_mem member
    exact isEmail ▸ settled.users u old
  · obtain ⟨u, old, -, isEmail⟩ := calm.user_mem member
    exact isEmail ▸ settled.apart i (calm.invitations i inside) u old
theorem settled_of_signUp {db s s' : Database} {user : User} (settled : Settled db.toTables)
    (normal : normalizeEmail user.email = user.email) (users : s.users = db.users ++ [user])
    (invitations : s.organisationInvitedUsers = db.organisationInvitedUsers) (calm : Calm s s')
    (gone : ∀ i ∈ s'.organisationInvitedUsers, i.email ≠ user.email) : Settled s'.toTables := by
  have known (u' : User) (member : u' ∈ s'.users) : (∃ u ∈ db.users, u.email = u'.email) ∨ u'.email = user.email := by
    obtain ⟨u, inside, -, isEmail⟩ := calm.user_mem member
    rw [users] at inside
    rcases List.mem_append.mp inside with old | new
    · exact .inl ⟨u, old, isEmail⟩
    · exact .inr (by rw [← isEmail, List.mem_singleton.mp new])
  have pending (i : OrganisationInvitedUser) (member : i ∈ s'.organisationInvitedUsers) : i ∈ db.organisationInvitedUsers :=
    invitations ▸ calm.invitations i member
  refine ⟨fun u' member => ?_, fun i member => settled.invitations i (pending i member), fun i inside u' member => ?_⟩
  · rcases known u' member with ⟨u, old, isEmail⟩ | isNew
    · exact isEmail ▸ settled.users u old
    · rw [isNew, normal]
  · rcases known u' member with ⟨u, old, isEmail⟩ | isNew
    · exact isEmail ▸ settled.apart i (pending i inside) u old
    · exact isNew ▸ gone i inside

section
variable [Ids] {db : Database}

omit [CaseFolding] in
/-- A new user is a member of nothing. -/
theorem createUser_ends {email : String} {post : Except String User → Database → Prop}
    (created : ∀ (user : User) (s : Database), user.email = email → user.id ≠ "" → user ∈ s.users →
      (∀ m ∈ s.organisationUsers, m.userId ≠ user.id) → s.toTables = { db.toTables with users := db.users ++ [user] } →
      post (.ok user) s)
    (failed : ∀ e, post (.error e) db) : (createUser email).Ends post db := by
  refine ends_insert (fun user s changed => ?_) failed
  obtain ⟨rfl, tables⟩ := Prod.mk.inj (Except.ok.inj changed)
  have users : s.users = db.users ++ [{ id := Ids.newId (db.users.map (·.id)), email }] := by rw [← tables]
  refine created _ s rfl (Ids.newId_ne_empty _) (users ▸ List.mem_append_right _ (List.mem_singleton_self _))
    (fun m member isUser => ?_) tables.symm
  rw [← tables] at member
  obtain ⟨u, known, isUser'⟩ := (db.references.member m member).2
  exact Ids.newId_new (db.users.map (·.id)) (List.mem_map.mpr ⟨u, known, isUser'.trans isUser⟩)
theorem createNewUser_settled (settled : Settled db.toTables) (email : String) :
    (createNewUser email).Ends (fun _ s => Settled s.toTables) db := by
  refine ends_read (ends_throwIfError (fun _ => settled) fun _ => ends_bind (createUser_ends ?_ fun _ => settled))
  intro user s isEmail _ member absent tables
  have normal : normalizeEmail user.email = user.email := by rw [isEmail, normalizeEmail_normalizeEmail]
  rw [← isEmail]
  refine ends_bind ((moveToNewUser_succeeds normal ⟨user, member, rfl⟩ absent).mono ?_)
  rintro _ s' ⟨rfl, calm, gone, -⟩
  exact settled_of_signUp settled normal (by rw [tables]) (by rw [tables]) calm gone
theorem signInByProvider_settled (settled : Settled db.toTables) (email : String) :
    (signInByProvider email).Ends (fun _ s => Settled s.toTables) db := by
  refine ends_throwIfError (fun _ => settled) fun _ => ends_bind (createUser_ends ?_ fun _ => settled)
  intro user s isEmail named member absent tables
  have users : s.users = db.users ++ [user] := by rw [tables]
  have invitations : s.organisationInvitedUsers = db.organisationInvitedUsers := by rw [tables]
  have normal : normalizeEmail user.email = user.email := by rw [isEmail, normalizeEmail_normalizeEmail]
  refine ends_bind ?_
  unfold createUserEvent
  split
  · rename_i skipped
    -- nobody is invited by an empty email
    have unnamed : user.email = "" := skipped.resolve_right named
    have gone (i : OrganisationInvitedUser) (pending : i ∈ s.organisationInvitedUsers) : i.email ≠ user.email := by
      rw [invitations] at pending
      rw [unnamed]
      exact (settled.invitations i pending).2
    exact settled_of_signUp settled normal users invitations (Std.Refl.refl s) gone
  · rw [normal]
    refine ends_bind (ends_attempt ((moveToNewUser_succeeds normal ⟨user, member, rfl⟩ absent).mono ?_))
    rintro _ s' ⟨-, calm, gone, -⟩
    exact settled_of_signUp settled normal users invitations calm gone
theorem inviteUserToOrganisation_settled (settled : Settled db.toTables) (session : Option String)
    (organisationId email : String) :
    (inviteUserToOrganisation session organisationId email).Ends (fun _ s => Settled s.toTables) db := by
  refine ends_currentUser (fun user _ => ends_bind ((hasAdminOrOwnerRole_reads organisationId user.id db).mono ?_)) settled
  rintro (_ | hasPermission) _ rfl
  · exact settled
  refine ends_throwIfError (fun _ => settled) fun _ => ends_throwIfError (fun _ => settled) fun named => ?_
  refine ends_throwIfError (fun _ => settled) fun _ => ends_read ?_
  cases known : db.users.find? (·.email = normalizeEmail email) with
  | some existing =>
    refine ends_read (ends_throwIfError (fun _ => settled) fun _ => ?_)
    have joined := within_bind (createMember_calm { organisationId, userId := existing.id }) fun _ =>
      within_bind ((shareOrganisationDatabaseConfigs_rolls organisationId existing.id).mono fun _ _ same => calm_of_rolls same)
        fun _ => within_pure (r := Calm) ({ added := true, invited := false } : InviteResult)
    exact Ends.mono (joined db) fun _ s calm => settled_of_calm settled calm
  | none =>
    refine ends_read (ends_throwIfError (fun _ => settled) fun _ => ends_bind (ends_write (fun s tables => ?_) fun _ => settled))
    have either (i : OrganisationInvitedUser) (member : i ∈ s.organisationInvitedUsers) :
        i ∈ db.organisationInvitedUsers ∨ i.email = normalizeEmail email := by
      rw [tables] at member
      rcases List.mem_append.mp member with old | new
      · exact .inl old
      · exact .inr (by rw [List.mem_singleton.mp new])
    have users : s.users = db.users := by rw [tables]
    refine ends_pure ⟨users ▸ settled.users, fun i member => ?_, fun i member u inside => ?_⟩
    · rcases either i member with old | isNew
      · exact settled.invitations i old
      · rw [isNew, normalizeEmail_normalizeEmail]
        exact ⟨rfl, by simpa using named⟩
    · rw [users] at inside
      rcases either i member with old | isNew
      · exact settled.apart i old u inside
      · rw [isNew]
        have missed := List.find?_eq_none.mp known u inside
        exact fun same => missed (decide_eq_true same.symm)

/-! ### Runs -/

theorem perform_settled (settled : Settled db.toTables) (request : Request) :
    (perform request).Ends (fun _ s => Settled s.toTables) db := by
  have calmly {p : Op Unit} (calm : p.Within Calm) : p.Ends (fun _ s => Settled s.toTables) db :=
    Ends.mono (calm db) fun _ s moved => settled_of_calm settled moved
  cases request with
  | createOrganisation session name randomSuffixes =>
    exact calmly (within_bind (createOrganisation_within calm_permits session name randomSuffixes) fun _ => within_pure ())
  | setCurrentOrganisation session organisationId => exact calmly (setCurrentOrganisation_calm session organisationId)
  | updateOrganisation session id name => exact calmly (updateOrganisation_within calm_permits.rename session id name)
  | deleteOrganisation session id => exact calmly (deleteOrganisation_calm session id)
  | inviteUserToOrganisation session organisationId email =>
    exact ends_discard (inviteUserToOrganisation_settled settled session organisationId email)
  | acceptInvitation session invitationId => exact calmly (acceptInvitation_within calm_permits session invitationId)
  | declineInvitation session invitationId => exact calmly (declineInvitation_within calm_permits.forget session invitationId)
  | cancelInvitation session invitationId => exact calmly (cancelInvitation_within calm_permits.forget session invitationId)
  | removeUserFromOrganisation session organisationId userId =>
    exact calmly (removeUserFromOrganisation_calm session organisationId userId)
  | updateMemberRole session organisationId userId role => exact calmly (updateMemberRole_calm session organisationId userId role)
  | createNewUser email => exact ends_discard (createNewUser_settled settled email)
  | signInByProvider email => exact ends_discard (signInByProvider_settled settled email)

/-- Between requests anything may happen that leaves the users with their emails,
    the memberships and the invitations as they are. -/
def stepAmong (db : Database) : Event → Database
  | .request request => step db (.request request)
  | .elsewhere next =>
    if next.users.map (fun u => (u.id, u.email)) = db.users.map (fun u => (u.id, u.email)) ∧
      next.organisationUsers = db.organisationUsers ∧ next.organisationInvitedUsers = db.organisationInvitedUsers then next
    else db
def runAmong (events : List Event) : Database := events.foldl stepAmong emptyDatabase

theorem settled_run (events : List Event) : Settled (runAmong events).toTables := by
  induction events using List.reverseRecOn with
  | nil => exact ⟨nofun, nofun, nofun⟩
  | append_singleton events event ih =>
    rw [runAmong, List.foldl_append]
    cases event with
    | request request => exact perform_settled ih request
    | elsewhere next =>
      show Settled (if _ then next else runAmong events).toTables
      split
      · rename_i same
        exact settled_of_calm ih ⟨same.1, fun i member => same.2.2 ▸ member⟩
      · exact ih

/-- After any run, no invitation is pending for a registered user, so no member
    of an organisation has one to it, and an organisation has no two invitations
    for emails that are the same but for letter case and spaces around them. -/
theorem invitations_right (events : List Event) :
    (∀ i ∈ (runAmong events).organisationInvitedUsers, ∀ u ∈ (runAmong events).users,
        normalizeEmail i.email ≠ normalizeEmail u.email) ∧
      (∀ m ∈ (runAmong events).organisationUsers, ∀ u ∈ (runAmong events).users, u.id = m.userId →
        ∀ i ∈ (runAmong events).organisationInvitedUsers, i.organisationId = m.organisationId →
          normalizeEmail i.email ≠ normalizeEmail u.email) ∧
      ∀ i ∈ (runAmong events).organisationInvitedUsers, ∀ j ∈ (runAmong events).organisationInvitedUsers,
        i.organisationId = j.organisationId → normalizeEmail i.email = normalizeEmail j.email → i = j := by
  have settled := settled_run events
  have apart (i : OrganisationInvitedUser) (pending : i ∈ (runAmong events).organisationInvitedUsers) (u : User)
      (known : u ∈ (runAmong events).users) : normalizeEmail i.email ≠ normalizeEmail u.email := by
    rw [(settled.invitations i pending).1, settled.users u known]
    exact settled.apart i pending u known
  refine ⟨apart, fun _ _ u known _ i pending _ => apart i pending u known, fun i pending j pending' sameOrganisation sameEmail => ?_⟩
  rw [(settled.invitations i pending).1, (settled.invitations j pending').1] at sameEmail
  exact List.inj_on_of_nodup_map (runAmong events).unique.invitation pending pending' (by rw [sameOrganisation, sameEmail])

end
end

end Openlit.Invitations
