import Openlit.OrganisationRoles

/-!
Runs of requests to the organisations, by any users and one at a time. The
creator of an organisation stays its one owner (`owners_right`); whoever ends or
changes the membership of another is an admin or the owner of the organisation,
and the owner if the other is an admin; and a request that fails one of its own
checks has changed nothing (`members_governed`).
-/
namespace Openlit.OrganisationRuns
open Openlit.Programs Openlit.Programs.Program Openlit.Text Openlit.Accounts Openlit.Organisations Openlit.DbConfigs
  Openlit.Memberships Openlit.OrganisationRoles

/-- The caller is an admin or the owner of the membership's organisation, and the owner if the member is one of these. -/
def Governs (db : Database) (caller : Option String) (m : OrganisationUser) : Prop :=
  ∃ c ∈ db.organisationUsers, caller = some c.userId ∧ c.organisationId = m.organisationId ∧
    (c.role = "owner" ∨ c.role = "admin") ∧ (m.role = "admin" ∨ m.role = "owner" → c.role = "owner")
/-- Every membership that is not the caller's own is still there with its role, or the caller may end or change it. -/
def Authorised (caller : Option String) (db db' : Database) : Prop :=
  ∀ m ∈ db.organisationUsers, caller ≠ some m.userId → (¬ ∃ m' ∈ db'.organisationUsers, SameRole m m') → Governs db caller m

theorem authorised_of_keeps {caller : Option String} {db db' : Database} (keeps : Keeps db db') : Authorised caller db db' :=
  fun m member _ gone => absurd (keeps m member) gone

section
variable {db : Database}

theorem user_of_session {session : Option String} {t : Tables} {user : User} (known : session.bind t.user = some user) :
    user ∈ t.users ∧ session = some user.id := by
  obtain ⟨id, rfl, found⟩ := Option.bind_eq_some_iff.mp known
  have same : user.id = id := by simpa using List.find?_some found
  exact ⟨List.mem_of_find?_eq_some found, by rw [same]⟩
theorem organisation_of_find {t : Tables} {id : String} {o : Organisation} (found : findOrganisation t id = some o) :
    o ∈ t.organisations ∧ o.id = id :=
  ⟨List.mem_of_find?_eq_some found, by simpa using List.find?_some found⟩

/-! ### Roles that are looked up -/

/-- What `getUserRoleInOrganisation` returns. -/
def userRole (t : Tables) (organisationId userId : String) : Option String :=
  ((t.membership organisationId userId).map (·.role)).filter (· ≠ "")

theorem ends_userRole {β : Type} {organisationId userId : String} {next : Option String → Op β}
    {post : Except String β → Database → Prop} (after : (next (userRole db.toTables organisationId userId)).Ends post db) :
    (getUserRoleInOrganisation organisationId userId >>= next).Ends post db := after
theorem member_of_userRole {t : Tables} {organisationId userId role : String}
    (found : userRole t organisationId userId = some role) :
    ∃ m ∈ t.organisationUsers, m.organisationId = organisationId ∧ m.userId = userId ∧ m.role = role := by
  obtain ⟨looked, -⟩ := Option.filter_eq_some_iff.mp found
  obtain ⟨m, member, rfl⟩ := Option.map_eq_some_iff.mp looked
  have isMember : m.organisationId = organisationId ∧ m.userId = userId := by simpa using List.find?_some member
  exact ⟨m, List.mem_of_find?_eq_some member, isMember.1, isMember.2, rfl⟩
theorem userRole_of_member {t : Tables} (unique : t.Unique) {m : OrganisationUser} (member : m ∈ t.organisationUsers)
    (named : m.role ≠ "") : userRole t m.organisationId m.userId = some m.role := by
  obtain ⟨m', found⟩ : ∃ m', t.membership m.organisationId m.userId = some m' := by
    refine Option.isSome_iff_exists.mp (List.find?_isSome.mpr ⟨m, member, by simp⟩)
  have isMember : m'.organisationId = m.organisationId ∧ m'.userId = m.userId := by simpa using List.find?_some found
  have same : m' = m :=
    List.inj_on_of_nodup_map unique.organisationUser (List.mem_of_find?_eq_some found) member (by simp [isMember])
  rw [userRole, found, same]
  simp [Option.filter, named]
/-- A caller with the role of an admin or the owner who passes the check for the target governs it. -/
theorem governs_of_roles {caller organisationId : String} {role : String} {m : OrganisationUser} (member : m ∈ db.organisationUsers)
    (isOrganisation : m.organisationId = organisationId) (held : userRole db.toTables organisationId caller = some role)
    (high : role = "owner" ∨ role = "admin")
    (higher : userRole db.toTables organisationId m.userId = some "admin" ∨
      userRole db.toTables organisationId m.userId = some "owner" → role = "owner") : Governs db (some caller) m := by
  obtain ⟨c, inside, isOrganisation', isUser, rfl⟩ := member_of_userRole held
  refine ⟨c, inside, by rw [isUser], isOrganisation'.trans isOrganisation.symm, high, fun target => higher ?_⟩
  have looked : userRole db.toTables m.organisationId m.userId = some m.role := by
    refine userRole_of_member db.unique member ?_
    rcases target with isAdmin | isOwner
    · rw [isAdmin]
      decide
    · rw [isOwner]
      decide
  rw [isOrganisation] at looked
  rw [looked]
  simpa using target

/-! ### A new organisation -/

/-- The creator of a new organisation becomes a member of it, whatever else is in the database. -/
theorem createMember_of_new {s : Database} {user : User} {id : String} {organisation : Organisation}
    {post : Except String Unit → Database → Prop} (isId : organisation.id = id) (fresh : id ∉ db.organisations.map (·.id))
    (known : user ∈ db.users) (tables : s.toTables = { db.toTables with organisations := db.organisations ++ [organisation] })
    (done : ∀ s' : Database, s'.organisations = db.organisations ++ [organisation] →
      s'.organisationUsers = db.organisationUsers ++ [{ organisationId := id, userId := user.id, role := "owner" }] →
      post (.ok ()) s') :
    (createMember { organisationId := id, userId := user.id, role := "owner" }).Ends post s := by
  have members : s.organisationUsers = db.organisationUsers := by rw [tables]
  have organisations : s.organisations = db.organisations ++ [organisation] := by rw [tables]
  have unique := s.unique
  have references := s.references
  refine ends_valid { unique with organisationUser := ?_ } { references with member := ?_ } fun s' changed =>
    done s' (by rw [changed, ← organisations]) (by rw [changed, ← members])
  · rw [List.map_append, List.nodup_append]
    refine ⟨unique.organisationUser, by simp, ?_⟩
    intro existing listed new isNew same
    rw [List.map_singleton, List.mem_singleton] at isNew
    obtain ⟨m, inside, rfl⟩ := List.mem_map.mp listed
    rw [members] at inside
    obtain ⟨o, organisation', isOrganisation⟩ := (db.references.member m inside).1
    have here : m.organisationId = id := congrArg Prod.fst (same.trans isNew)
    exact fresh (here ▸ isOrganisation ▸ List.mem_map_of_mem organisation')
  · intro m inside
    rcases List.mem_append.mp inside with old | new
    · exact references.member m old
    · rw [List.mem_singleton.mp new]
      refine ⟨⟨organisation, ?_, isId⟩, user, ?_, rfl⟩
      · show organisation ∈ s.organisations
        rw [organisations]
        exact List.mem_append_right _ (List.mem_singleton_self _)
      · show user ∈ s.users
        rw [tables]
        exact known
theorem ownedByCreator_of_new {s : Database} {userId : String} {organisation : Organisation}
    (owned : OwnedByCreator db.toTables) (fresh : organisation.id ∉ db.organisations.map (·.id))
    (creator : organisation.createdByUserId = userId) (organisations : s.organisations = db.organisations ++ [organisation])
    (members : s.organisationUsers =
      db.organisationUsers ++ [{ organisationId := organisation.id, userId := userId, role := "owner" }]) :
    OwnedByCreator s.toTables := by
  have elsewhere (m : OrganisationUser) (inside : m ∈ db.organisationUsers) : m.organisationId ≠ organisation.id := by
    intro same
    obtain ⟨o, member, isOrganisation⟩ := (db.references.member m inside).1
    exact fresh (same ▸ isOrganisation ▸ List.mem_map_of_mem member)
  refine ⟨fun o member => ?_, fun m member isOwner o organisation' isOrganisation => ?_, fun m member => ?_⟩
  · rw [organisations] at member
    rw [members]
    rcases List.mem_append.mp member with old | new
    · obtain ⟨m, inside, right⟩ := owned.owner o old
      exact ⟨m, List.mem_append_left _ inside, right⟩
    · rw [List.mem_singleton.mp new]
      exact ⟨_, List.mem_append_right _ (List.mem_singleton_self _), rfl, creator.symm, rfl⟩
  · rw [organisations] at organisation'
    rw [members] at member
    rcases List.mem_append.mp member with inside | new <;> rcases List.mem_append.mp organisation' with old | created
    · exact owned.only m inside isOwner o old isOrganisation
    · rw [List.mem_singleton.mp created] at isOrganisation
      exact absurd isOrganisation.symm (elsewhere m inside)
    · rw [List.mem_singleton.mp new] at isOrganisation
      exact absurd (List.mem_map.mpr ⟨o, old, isOrganisation⟩) fresh
    · rw [List.mem_singleton.mp created, List.mem_singleton.mp new]
      exact creator.symm
  · rw [members] at member
    rcases List.mem_append.mp member with inside | new
    · exact owned.roles m inside
    · rw [List.mem_singleton.mp new]
      exact List.mem_cons_self

theorem createOrganisation_right [CaseFolding] [Ids] (owned : OwnedByCreator db.toTables) (session : Option String) (name : String)
    (randomSuffixes : List String) :
    (createOrganisation session name randomSuffixes).Ends (fun _ s => OwnedByCreator s.toTables ∧ Keeps db s) db := by
  have unchanged := And.intro owned (keeps_refl db)
  refine ends_currentUser (fun user known => ends_bind ((generateUniqueOrganisationSlug_ends name _).mono ?_)) unchanged
  rintro slug start rfl
  cases slug with
  | error _ => exact unchanged
  | ok slug =>
    refine ends_bind (ends_insert (fun id s created => ?_) fun _ => unchanged)
    obtain ⟨isId, tables⟩ := Prod.mk.inj (Except.ok.inj created)
    have fresh : id ∉ start.organisations.map (·.id) := isId ▸ Ids.newId_new _
    refine ends_bind (createMember_of_new isId fresh (user_of_session known).1 tables.symm fun s' organisations members => ?_)
    rw [← isId] at members fresh
    have right := ownedByCreator_of_new owned fresh rfl organisations members
    have kept : Keeps start s' := fun m member => ⟨m, members ▸ List.mem_append_left _ member, SameRole.refl m⟩
    refine ends_bind (Ends.mono ((migrateUserConfigsToOrganisation_writes id user.id).joins s') ?_)
    intro result s'' joins
    have ended := And.intro (ownedByCreator_of_joins right joins) (kept.trans joins.kept)
    cases result with
    | error _ => exact ended
    | ok _ => exact ended

/-! ### An organisation that is deleted -/

theorem removeOrganisation_ends {id : String} {post : Except String Unit → Database → Prop}
    (removed : ∀ s : Database, s.organisations = db.organisations.filter (·.id ≠ id) →
      s.organisationUsers = db.organisationUsers.filter (·.organisationId ≠ id) → post (.ok ()) s)
    (failed : ∀ e, post (.error e) db) : (removeOrganisation id).Ends post db := by
  refine ends_refusable (fun s changed => ?_) failed
  split at changed
  · cases changed
  · have tables := Except.ok.inj changed
    exact removed s (by rw [← tables]) (by rw [← tables])
theorem ownedByCreator_of_removed {s : Database} {id : String} (owned : OwnedByCreator db.toTables)
    (organisations : s.organisations = db.organisations.filter (·.id ≠ id))
    (members : s.organisationUsers = db.organisationUsers.filter (·.organisationId ≠ id)) : OwnedByCreator s.toTables := by
  refine ⟨fun o member => ?_, fun m member isOwner o organisation' isOrganisation => ?_, fun m member => ?_⟩
  · rw [organisations, List.mem_filter] at member
    obtain ⟨m, inside, isOrganisation, right⟩ := owned.owner o member.1
    refine ⟨m, ?_, isOrganisation, right⟩
    rw [members, List.mem_filter, isOrganisation]
    exact ⟨inside, member.2⟩
  · rw [organisations, List.mem_filter] at organisation'
    rw [members, List.mem_filter] at member
    exact owned.only m member.1 isOwner o organisation'.1 isOrganisation
  · rw [members, List.mem_filter] at member
    exact owned.roles m member.1
/-- The only member of an organisation is its creator. -/
theorem sole_member {o : Organisation} {m : OrganisationUser} (owned : OwnedByCreator db.toTables) (member : o ∈ db.organisations)
    (sole : memberCount db.toTables o.id ≤ 1) (inside : m ∈ db.organisationUsers) (isOrganisation : m.organisationId = o.id) :
    m.userId = o.createdByUserId := by
  obtain ⟨owner, inside', isOrganisation', isCreator, -⟩ := owned.owner o member
  have both (x : OrganisationUser) (listed : x ∈ db.organisationUsers) (here : x.organisationId = o.id) :
      x ∈ db.organisationUsers.filter (·.organisationId = o.id) := List.mem_filter.mpr ⟨listed, by simp [here]⟩
  have same : m = owner := by
    have first := both m inside isOrganisation
    have second := both owner inside' isOrganisation'
    unfold memberCount at sole
    cases members : db.organisationUsers.filter (·.organisationId = o.id) with
    | nil => simp [members] at first
    | cons x rest =>
      have alone : rest = [] := by
        rw [members, List.length_cons] at sole
        exact List.length_eq_zero_iff.mp (by omega)
      rw [members, alone, List.mem_singleton] at first second
      rw [first, second]
  rw [same, isCreator]

theorem deleteOrganisation_right (owned : OwnedByCreator db.toTables) (session : Option String) (id : String) :
    (deleteOrganisation session id).Ends (fun _ s => OwnedByCreator s.toTables ∧ Authorised session db s) db := by
  have unchanged := And.intro owned (@authorised_of_keeps session db db (keeps_refl db))
  refine ends_currentUser (fun user known => ends_read ?_) unchanged
  cases found : findOrganisation db.toTables id with
  | none => exact unchanged
  | some o =>
    refine ends_throwIfError (fun _ => unchanged) fun created => ends_throwIfError (fun _ => unchanged) fun sole => ends_read ?_
    obtain ⟨member, isId⟩ := organisation_of_find found
    have creator : o.createdByUserId = user.id := by simpa using created
    have few : memberCount db.toTables o.id ≤ 1 := by simpa [isId] using sole
    refine ends_bind (removeOrganisation_ends (fun s organisations members => ?_) fun _ => unchanged)
    have right := ownedByCreator_of_removed owned organisations members
    have authorised (s' : Database) (kept : Keeps s s') : Authorised session db s' := by
      intro m inside other gone
      by_cases here : m.organisationId = id
      · have isCreator := sole_member owned member few inside (here.trans isId.symm)
        exact absurd ((user_of_session known).2.trans (by rw [isCreator, creator])) other
      · exact absurd (kept m (by rw [members, List.mem_filter]; exact ⟨inside, by simp [here]⟩)) gone
    have last : (if (db.membership id user.id).any (·.isCurrent) then setOldestCurrent user.id else pure ()).Within Flags := by
      split
      · exact setOldestCurrent_flags user.id
      · exact within_pure ()
    exact Ends.mono (last s) fun _ s' flags => ⟨ownedByCreator_of_joins right flags.joins, authorised s' flags.kept⟩

/-! ### Members who leave or get another role -/

/-- What the checks of a removal ensure. -/
def MayRemove (t : Tables) (o : Organisation) (currentUserId userId : String) : Prop :=
  userId ≠ o.createdByUserId ∧ (userId ≠ currentUserId → ∃ role, userRole t o.id currentUserId = some role ∧
    (role = "owner" ∨ role = "admin") ∧
    (userRole t o.id userId = some "admin" ∨ userRole t o.id userId = some "owner" → role = "owner"))
/-- What the checks of a change of roles ensure. -/
def MayChangeRole (t : Tables) (o : Organisation) (currentUserId userId role : String) : Prop :=
  userId ≠ o.createdByUserId ∧ (role = "member" ∨ role = "admin") ∧ ∃ held, userRole t o.id currentUserId = some held ∧
    (held = "owner" ∨ held = "admin") ∧ (userRole t o.id userId = some "admin" → held = "owner")

theorem checkRemoval_ends (o : Organisation) (currentUserId userId : String) :
    (checkRemoval o currentUserId userId).Ends
      (fun result s => s = db ∧ (result = .ok () → MayRemove db.toTables o currentUserId userId)) db := by
  have stopped (message : String) : db = db ∧ ((.error message : Except String Unit) = .ok () →
      MayRemove db.toTables o currentUserId userId) := ⟨rfl, nofun⟩
  unfold checkRemoval
  by_cases self : userId = currentUserId
  · rw [if_pos self]
    by_cases creator : userId = o.createdByUserId
    · rw [if_pos creator]
      refine ends_read ?_
      split
      · exact stopped _
      · exact stopped _
    · rw [if_neg creator]
      exact ⟨rfl, fun _ => ⟨creator, fun other => absurd self other⟩⟩
  · rw [if_neg self]
    refine ends_userRole (ends_throwIfError (fun _ => stopped _) fun known => ends_userRole ?_)
    refine ends_throwIfError (fun _ => stopped _) fun permitted => ends_throwIfError (fun _ => stopped _) fun above => ?_
    obtain ⟨role, held⟩ := Option.isSome_iff_exists.mp (by simpa using known)
    refine ends_lastThrowIfError (fun _ => stopped _) fun creator => ⟨rfl, fun _ => ⟨by simpa using creator, fun _ => ?_⟩⟩
    exact ⟨role, held, Decidable.or_iff_not_imp_left.mpr (by simpa [held] using permitted), by simpa [held] using above⟩
theorem checkRoleChange_ends (o : Organisation) (currentUserId userId role : String) :
    (checkRoleChange o currentUserId userId role).Ends
      (fun result s => s = db ∧ (result = .ok () → MayChangeRole db.toTables o currentUserId userId role)) db := by
  have stopped (message : String) : db = db ∧ ((.error message : Except String Unit) = .ok () →
      MayChangeRole db.toTables o currentUserId userId role) := ⟨rfl, nofun⟩
  refine ends_throwIfError (fun _ => stopped _) fun valid => ends_throwIfError (fun _ => stopped _) fun creator => ?_
  refine ends_userRole (ends_throwIfError (fun _ => stopped _) fun known => ends_userRole ?_)
  refine ends_throwIfError (fun _ => stopped _) fun _ => ends_throwIfError (fun _ => stopped _) fun permitted => ?_
  obtain ⟨held, looked⟩ := Option.isSome_iff_exists.mp (by simpa using known)
  refine ends_lastThrowIfError (fun _ => stopped _) fun above => ⟨rfl, fun _ => ⟨by simpa using creator, ?_, held, looked, ?_, ?_⟩⟩
  · exact Decidable.or_iff_not_imp_left.mpr (by simpa using valid)
  · exact Decidable.or_iff_not_imp_left.mpr (by simpa [looked] using permitted)
  · simpa [looked] using above

theorem deleteMember_touches (organisationId userId : String) :
    (deleteMember organisationId userId).Within (Touches organisationId userId []) := by
  refine within_write fun db db' changed => ?_
  split at changed
  · cases changed
  · have tables := Except.ok.inj changed
    refine ⟨noNewOrganisation_of_eq (by rw [← tables]), fun m inside => .inl ⟨m, ?_, SameRole.refl m⟩,
      fun m inside other => ⟨m, ?_, SameRole.refl m⟩⟩
    · rw [← tables] at inside
      exact List.mem_of_mem_filter inside
    · rw [← tables]
      exact List.mem_filter.mpr ⟨inside, decide_eq_true other⟩
theorem endMembership_touches (organisationId userId : String) :
    (endMembership organisationId userId).Within (Touches organisationId userId []) := by
  refine within_bind (within_read _) fun membership => within_bind (within_write fun db db' changed => ?_) fun _ => ?_
  · have tables := Except.ok.inj changed
    exact (flags_of_eq (by rw [← tables]) (by rw [← tables])).touches organisationId userId []
  · refine within_bind (deleteMember_touches organisationId userId) fun _ => ?_
    split
    · exact (setOldestCurrent_flags userId).mono fun _ _ flags => flags.touches organisationId userId []
    · exact within_pure ()
theorem setRole_touches (organisationId userId role : String) :
    (setRole organisationId userId role).Within (Touches organisationId userId [role]) := by
  refine within_write fun db db' changed => ?_
  split at changed
  · cases changed
  · have tables := Except.ok.inj changed
    refine ⟨noNewOrganisation_of_eq (by rw [← tables]), fun m' inside => ?_, fun m inside other => ⟨m, ?_, SameRole.refl m⟩⟩
    · rw [← tables] at inside
      obtain ⟨m, member, rfl⟩ := List.mem_map.mp inside
      by_cases target : m.organisationId = organisationId ∧ m.userId = userId
      · rw [if_pos target]
        exact .inr ⟨target.1, target.2, List.mem_singleton_self _⟩
      · rw [if_neg target]
        exact .inl ⟨m, member, SameRole.refl m⟩
    · rw [← tables]
      exact List.mem_map.mpr ⟨m, inside, if_neg other⟩

/-- Only the touched membership can be another's that is not as it was. -/
theorem authorised_of_touches {s : Database} {caller : Option String} {organisationId userId : String} {roles : List String}
    (touches : Touches organisationId userId roles db s)
    (governs : ∀ m ∈ db.organisationUsers, m.organisationId = organisationId → m.userId = userId →
      caller ≠ some m.userId → Governs db caller m) : Authorised caller db s := by
  intro m member other gone
  by_cases target : m.organisationId = organisationId ∧ m.userId = userId
  · exact governs m member target.1 target.2 other
  · exact absurd (touches.kept m member target) gone

theorem removeUserFromOrganisation_right (owned : OwnedByCreator db.toTables) (session : Option String)
    (organisationId userId : String) :
    (removeUserFromOrganisation session organisationId userId).Ends
      (fun _ s => OwnedByCreator s.toTables ∧ Authorised session db s) db := by
  have unchanged := And.intro owned (@authorised_of_keeps session db db (keeps_refl db))
  refine ends_currentUser (fun user known => ends_read ?_) unchanged
  cases found : findOrganisation db.toTables organisationId with
  | none => exact unchanged
  | some o =>
    obtain ⟨member, rfl⟩ := organisation_of_find found
    refine ends_bind ((checkRemoval_ends o user.id userId).mono ?_)
    rintro result start ⟨rfl, checked⟩
    cases result with
    | error _ => exact unchanged
    | ok _ =>
      obtain ⟨notCreator, permitted⟩ := checked rfl
      refine Ends.mono (endMembership_touches o.id userId start) fun _ s touches => ?_
      refine ⟨ownedByCreator_of_touches owned touches member notCreator nofun, authorised_of_touches touches ?_⟩
      rintro m inside isOrganisation rfl other
      obtain ⟨-, isUser⟩ := user_of_session known
      obtain ⟨role, held, high, higher⟩ := permitted fun same => other (by rw [isUser, same])
      rw [isUser]
      exact governs_of_roles inside isOrganisation held high higher
theorem updateMemberRole_right (owned : OwnedByCreator db.toTables) (session : Option String)
    (organisationId userId role : String) :
    (updateMemberRole session organisationId userId role).Ends
      (fun _ s => OwnedByCreator s.toTables ∧ Authorised session db s) db := by
  have unchanged := And.intro owned (@authorised_of_keeps session db db (keeps_refl db))
  refine ends_currentUser (fun user known => ends_read ?_) unchanged
  cases found : findOrganisation db.toTables organisationId with
  | none => exact unchanged
  | some o =>
    obtain ⟨member, rfl⟩ := organisation_of_find found
    refine ends_bind ((checkRoleChange_ends o user.id userId role).mono ?_)
    rintro result start ⟨rfl, checked⟩
    cases result with
    | error _ => exact unchanged
    | ok _ =>
      obtain ⟨notCreator, plain, held, looked, high, higher⟩ := checked rfl
      refine Ends.mono (setRole_touches o.id userId role start) fun _ s touches => ?_
      refine ⟨ownedByCreator_of_touches owned touches member notCreator (by simpa using plain), authorised_of_touches touches ?_⟩
      rintro m inside isOrganisation rfl _
      rw [(user_of_session known).2]
      refine governs_of_roles inside isOrganisation looked high ?_
      rintro (isAdmin | isOwner)
      · exact higher isAdmin
      · -- the owner is the creator, whose role does not change
        obtain ⟨m', inside', isOrganisation', isUser', isRole⟩ := member_of_userRole isOwner
        exact absurd (isUser' ▸ owned.only m' inside' isRole o member isOrganisation'.symm) notCreator

end

/-! ### Checks before writes -/

theorem checkRemoval_reads (o : Organisation) (currentUserId userId : String) : (checkRemoval o currentUserId userId).Within Eq :=
  fun _ => (checkRemoval_ends o currentUserId userId).mono fun _ _ ended => ended.1.symm
theorem checkRoleChange_reads (o : Organisation) (currentUserId userId role : String) :
    (checkRoleChange o currentUserId userId role).Within Eq :=
  fun _ => (checkRoleChange_ends o currentUserId userId role).mono fun _ _ ended => ended.1.symm

theorem endMembership_throws (organisationId userId : String) : (endMembership organisationId userId).ThrowsOnly DatabaseError := by
  refine throwsOnly_bind (throwsOnly_read _) fun membership => throwsOnly_bind (throwsOnly_plainWrite _) fun _ => ?_
  refine throwsOnly_bind (throwsOnly_write (refuses_missing fun t => ?_)) fun _ => ?_
  · split
    · exact .inl rfl
    · exact .inr ⟨_, rfl⟩
  · split
    · exact setOldestCurrent_throws userId
    · exact throwsOnly_pure ()
theorem removeUserFromOrganisation_checks (session : Option String) (organisationId userId : String) :
    (removeUserFromOrganisation session organisationId userId).ChecksFirst DatabaseError := by
  refine checksFirst_bind (within_currentUser session) fun user => checksFirst_bind (within_read _) fun organisation => ?_
  cases organisation with
  | none => exact checksFirst_fail _
  | some o => exact checksFirst_bind (checkRemoval_reads o user.id userId) fun _ => (endMembership_throws organisationId userId).checksFirst
theorem updateMemberRole_checks (session : Option String) (organisationId userId role : String) :
    (updateMemberRole session organisationId userId role).ChecksFirst DatabaseError := by
  refine checksFirst_bind (within_currentUser session) fun user => checksFirst_bind (within_read _) fun organisation => ?_
  cases organisation with
  | none => exact checksFirst_fail _
  | some o =>
    refine checksFirst_bind (checkRoleChange_reads o user.id userId role) fun _ => ThrowsOnly.checksFirst ?_
    refine throwsOnly_write (refuses_missing fun t => ?_)
    split
    · exact .inl rfl
    · exact .inr ⟨_, rfl⟩
theorem deleteOrganisation_checks (session : Option String) (id : String) :
    (deleteOrganisation session id).ChecksFirst DatabaseError := by
  refine checksFirst_bind (within_currentUser session) fun user => checksFirst_bind (within_read _) fun found => ?_
  cases found with
  | none => exact checksFirst_fail _
  | some found =>
    refine checksFirst_bind (within_throwIfError _ _) fun _ => checksFirst_bind (within_throwIfError _ _) fun _ => ?_
    refine checksFirst_bind (within_read _) fun membership => ThrowsOnly.checksFirst (throwsOnly_bind ?_ fun _ => ?_)
    · refine throwsOnly_write (refuses_missing fun t => ?_)
      split
      · exact .inl rfl
      · exact .inr ⟨_, rfl⟩
    · split
      · exact setOldestCurrent_throws user.id
      · exact throwsOnly_pure ()
theorem createOrganisation_checks [CaseFolding] [Ids] (session : Option String) (name : String) (randomSuffixes : List String) :
    (createOrganisation session name randomSuffixes).ChecksFirst DatabaseError := by
  have slugged : (generateUniqueOrganisationSlug name (randomSuffixes.take 10)).Within Eq :=
    fun db => (generateUniqueOrganisationSlug_ends name _).mono fun _ _ same => same.symm
  refine checksFirst_bind (within_currentUser session) fun user => checksFirst_bind slugged fun slug => ThrowsOnly.checksFirst ?_
  refine throwsOnly_bind (throwsOnly_insert fun t e thrown => by cases thrown) fun id => ?_
  refine throwsOnly_bind (throwsOnly_plainWrite _) fun _ => ?_
  exact throwsOnly_bind (migrateUserConfigsToOrganisation_writes id user.id).throws fun _ => throwsOnly_pure id

/-! ### Requests -/

inductive Request
  | createOrganisation (session : Option String) (name : String) (randomSuffixes : List String)
  | setCurrentOrganisation (session : Option String) (organisationId : String)
  | updateOrganisation (session : Option String) (id : String) (name : Option String)
  | deleteOrganisation (session : Option String) (id : String)
  | inviteUserToOrganisation (session : Option String) (organisationId email : String)
  | acceptInvitation (session : Option String) (invitationId : String)
  | declineInvitation (session : Option String) (invitationId : String)
  | cancelInvitation (session : Option String) (invitationId : String)
  | removeUserFromOrganisation (session : Option String) (organisationId userId : String)
  | updateMemberRole (session : Option String) (organisationId userId role : String)
  | createNewUser (email : String)
  | signInByProvider (email : String)
/-- The user id in the session of a request. -/
def Request.caller : Request → Option String
  | .createOrganisation session _ _ | .setCurrentOrganisation session _ | .updateOrganisation session _ _
  | .deleteOrganisation session _ | .inviteUserToOrganisation session _ _ | .acceptInvitation session _
  | .declineInvitation session _ | .cancelInvitation session _ | .removeUserFromOrganisation session _ _
  | .updateMemberRole session _ _ _ => session
  | .createNewUser _ | .signInByProvider _ => none

/-- Runs of requests, between which anything may happen in the database that
    leaves the organisations and the memberships as they are. -/
inductive Event
  | request (request : Request)
  | elsewhere (next : Database)

section
variable [CaseFolding] [Ids]

/-- A request, whose result is only looked at for its error. -/
def perform : Request → Op Unit
  | .createOrganisation session name randomSuffixes => do
    let _ ← Organisations.createOrganisation session name randomSuffixes
    pure ()
  | .setCurrentOrganisation session organisationId => Organisations.setCurrentOrganisation session organisationId
  | .updateOrganisation session id name => Memberships.updateOrganisation session id name
  | .deleteOrganisation session id => Memberships.deleteOrganisation session id
  | .inviteUserToOrganisation session organisationId email => do
    let _ ← Organisations.inviteUserToOrganisation session organisationId email
    pure ()
  | .acceptInvitation session invitationId => Organisations.acceptInvitation session invitationId
  | .declineInvitation session invitationId => Memberships.declineInvitation session invitationId
  | .cancelInvitation session invitationId => Memberships.cancelInvitation session invitationId
  | .removeUserFromOrganisation session organisationId userId =>
    Memberships.removeUserFromOrganisation session organisationId userId
  | .updateMemberRole session organisationId userId role => Memberships.updateMemberRole session organisationId userId role
  | .createNewUser email => do
    let _ ← DbConfigs.createNewUser email
    pure ()
  | .signInByProvider email => do
    let _ ← DbConfigs.signInByProvider email
    pure ()
def step (db : Database) : Event → Database
  | .request request => ((perform request).run db).2
  | .elsewhere next =>
    if next.organisations = db.organisations ∧ next.organisationUsers = db.organisationUsers then next else db
def run (events : List Event) : Database := events.foldl step emptyDatabase

omit [CaseFolding] [Ids] in
theorem orderly_right {α : Type} {p : Op α} (orderly : Orderly p) {db : Database} (owned : OwnedByCreator db.toTables)
    (caller : Option String) : p.Ends (fun _ s => OwnedByCreator s.toTables ∧ Authorised caller db s) db :=
  Ends.mono (orderly.joins db) fun _ _ joins => ⟨ownedByCreator_of_joins owned joins, authorised_of_keeps joins.kept⟩
omit [CaseFolding] [Ids] in
/-- What is said of the states after a program is said of those after the program without its result. -/
theorem ends_discard {α : Type} {p : Op α} {db : Database} {post : Database → Prop} (ended : p.Ends (fun _ s => post s) db) :
    (p >>= fun _ => (pure () : Op Unit)).Ends (fun _ s => post s) db := by
  refine ends_bind (ended.mono fun result s right => ?_)
  cases result with
  | error _ => exact right
  | ok _ => exact right
omit [CaseFolding] [Ids] in
theorem checksFirst_discard {α : Type} {p : Op α} (checks : p.ChecksFirst DatabaseError) :
    (p >>= fun _ => (pure () : Op Unit)).ChecksFirst DatabaseError := by
  refine fun db => ends_bind (Ends.mono (checks db) fun result s right => ?_)
  cases result with
  | error e =>
    intro e' same
    cases same
    exact right e rfl
  | ok _ =>
    intro e same
    cases same

theorem perform_right {db : Database} (owned : OwnedByCreator db.toTables) (request : Request) :
    (perform request).Ends (fun _ s => OwnedByCreator s.toTables ∧ Authorised request.caller db s) db := by
  cases request with
  | createOrganisation session name randomSuffixes =>
    refine ends_discard ((createOrganisation_right owned session name randomSuffixes).mono fun _ _ ended => ?_)
    exact ⟨ended.1, authorised_of_keeps ended.2⟩
  | setCurrentOrganisation session organisationId => exact orderly_right (setCurrentOrganisation_orderly session organisationId) owned _
  | updateOrganisation session id name => exact orderly_right (updateOrganisation_orderly session id name) owned _
  | deleteOrganisation session id => exact deleteOrganisation_right owned session id
  | inviteUserToOrganisation session organisationId email =>
    exact ends_discard (orderly_right (inviteUserToOrganisation_orderly session organisationId email) owned _)
  | acceptInvitation session invitationId => exact orderly_right (acceptInvitation_orderly session invitationId) owned _
  | declineInvitation session invitationId => exact orderly_right (declineInvitation_orderly session invitationId) owned _
  | cancelInvitation session invitationId => exact orderly_right (cancelInvitation_orderly session invitationId) owned _
  | removeUserFromOrganisation session organisationId userId =>
    exact removeUserFromOrganisation_right owned session organisationId userId
  | updateMemberRole session organisationId userId role => exact updateMemberRole_right owned session organisationId userId role
  | createNewUser email => exact ends_discard (orderly_right (createNewUser_orderly email) owned _)
  | signInByProvider email => exact ends_discard (orderly_right (signInByProvider_orderly email) owned _)
theorem perform_checks (request : Request) : (perform request).ChecksFirst DatabaseError := by
  cases request with
  | createOrganisation session name randomSuffixes => exact checksFirst_discard (createOrganisation_checks session name randomSuffixes)
  | setCurrentOrganisation session organisationId => exact (setCurrentOrganisation_orderly session organisationId).checks
  | updateOrganisation session id name => exact (updateOrganisation_orderly session id name).checks
  | deleteOrganisation session id => exact deleteOrganisation_checks session id
  | inviteUserToOrganisation session organisationId email =>
    exact checksFirst_discard (inviteUserToOrganisation_orderly session organisationId email).checks
  | acceptInvitation session invitationId => exact (acceptInvitation_orderly session invitationId).checks
  | declineInvitation session invitationId => exact (declineInvitation_orderly session invitationId).checks
  | cancelInvitation session invitationId => exact (cancelInvitation_orderly session invitationId).checks
  | removeUserFromOrganisation session organisationId userId => exact removeUserFromOrganisation_checks session organisationId userId
  | updateMemberRole session organisationId userId role => exact updateMemberRole_checks session organisationId userId role
  | createNewUser email => exact checksFirst_discard (createNewUser_orderly email).checks
  | signInByProvider email => exact checksFirst_discard (signInByProvider_orderly email).checks

theorem ownedByCreator_run (events : List Event) : OwnedByCreator (run events).toTables := by
  induction events using List.reverseRecOn with
  | nil => exact ⟨nofun, nofun, nofun⟩
  | append_singleton events event ih =>
    rw [run, List.foldl_append]
    cases event with
    | request request => exact (perform_right ih request).1
    | elsewhere next =>
      show OwnedByCreator (if _ then next else run events).toTables
      split
      · rename_i same
        exact ownedByCreator_of_joins ih (flags_of_eq same.1 same.2).joins
      · exact ih

/-- After any run, the creator of each organisation is its one owner and every role is one of three. -/
theorem owners_right (events : List Event) :
    (∀ o ∈ (run events).organisations, ∃ m ∈ (run events).organisationUsers,
        m.organisationId = o.id ∧ m.userId = o.createdByUserId ∧ m.role = "owner") ∧
      (∀ o ∈ (run events).organisations, ∀ m ∈ (run events).organisationUsers, m.organisationId = o.id →
        m.role = "owner" → m.userId = o.createdByUserId) ∧
      ∀ m ∈ (run events).organisationUsers, m.role = "owner" ∨ m.role = "admin" ∨ m.role = "member" := by
  obtain ⟨owner, only, roles⟩ := ownedByCreator_run events
  refine ⟨owner, fun o organisation m member isOrganisation isOwner => only m member isOwner o organisation isOrganisation.symm, ?_⟩
  intro m member
  simpa using roles m member

/-- After any run, a request by which the membership of someone other than the
    caller ends or changes its role is made by an admin or the owner of the
    organisation, and by the owner if the member was one of these; and a request
    that fails, but for an error of the database, has changed nothing. -/
theorem members_governed (events : List Event) (request : Request) :
    (∀ m ∈ (run events).organisationUsers, request.caller ≠ some m.userId →
        (¬ ∃ m' ∈ (step (run events) (.request request)).organisationUsers, SameRole m m') →
        ∃ c ∈ (run events).organisationUsers, request.caller = some c.userId ∧ c.organisationId = m.organisationId ∧
          (c.role = "owner" ∨ c.role = "admin") ∧ (m.role = "admin" ∨ m.role = "owner" → c.role = "owner")) ∧
      ∀ e, ((perform request).run (run events)).1 = .error e → ¬ DatabaseError e →
        step (run events) (.request request) = run events := by
  obtain ⟨_, authorised⟩ := perform_right (ownedByCreator_run events) request
  refine ⟨authorised, fun e thrown own => ?_⟩
  exact (perform_checks request (run events) e thrown).resolve_left own

end

end Openlit.OrganisationRuns
