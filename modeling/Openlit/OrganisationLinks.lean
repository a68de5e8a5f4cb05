import Openlit.CurrentConfigs
import Openlit.Invitations

/-!
Links to the database configs of organisations, and memberships of them
(`Linked`). Members get links when they join and when they create a config; a
link ends with its membership, and with the organisation all its configs go.
-/
namespace Openlit.OrganisationLinks
open Openlit.Programs Openlit.Programs.Program Openlit.Text Openlit.Accounts Openlit.Organisations Openlit.DbConfigs
  Openlit.Memberships Openlit.OrganisationRoles Openlit.Sharing Openlit.CurrentLinks Openlit.Invitations

/-! ### Links and memberships -/

def Member (t : Tables) (organisationId userId : String) : Prop :=
  ∃ m ∈ t.organisationUsers, m.organisationId = organisationId ∧ m.userId = userId
/-- The user has a link to a config of the organisation. -/
def HasLink (t : Tables) (organisationId userId : String) : Prop :=
  ∃ l ∈ t.databaseConfigUsers, l.userId = userId ∧ t.inOrganisation l (some organisationId) = true
/-- Whoever has a link to a config of an organisation is a member of it. -/
def Linked (t : Tables) : Prop := ∀ organisationId userId, HasLink t organisationId userId → Member t organisationId userId
/-- The same but for memberships that are still to come. -/
def LinkedBut (owed : String → String → Prop) (t : Tables) : Prop :=
  ∀ organisationId userId, HasLink t organisationId userId → Member t organisationId userId ∨ owed organisationId userId

theorem linkedBut_of_linked {t : Tables} (linked : Linked t) (owed : String → String → Prop) : LinkedBut owed t :=
  fun organisationId userId has => .inl (linked organisationId userId has)
/-- What is owed to members is owed no more. -/
theorem LinkedBut.paid {owed left : String → String → Prop} {t : Tables} (linked : LinkedBut owed t)
    (paid : ∀ organisationId userId, owed organisationId userId → Member t organisationId userId ∨ left organisationId userId) :
    LinkedBut left t := by
  intro organisationId userId has
  rcases linked organisationId userId has with member | due
  · exact .inl member
  · exact paid organisationId userId due
theorem linked_of_linkedBut {owed : String → String → Prop} {t : Tables} (linked : LinkedBut owed t)
    (paid : ∀ organisationId userId, owed organisationId userId → Member t organisationId userId) : Linked t := by
  intro organisationId userId has
  exact (linked organisationId userId has).elim id (paid organisationId userId)

/-- Nobody has a link in an organisation where there was none, and no membership has ended. -/
structure Steady (db db' : Database) : Prop where
  links : ∀ organisationId userId, HasLink db'.toTables organisationId userId → HasLink db.toTables organisationId userId
  members : ∀ organisationId userId, Member db.toTables organisationId userId → Member db'.toTables organisationId userId

instance : Std.Refl Steady := ⟨fun _ => ⟨fun _ _ has => has, fun _ _ member => member⟩⟩
instance : IsTrans Database Steady :=
  ⟨fun _ _ _ first second => ⟨fun o u has => first.links o u (second.links o u has),
    fun o u member => second.members o u (first.members o u member)⟩⟩

theorem LinkedBut.steady {owed : String → String → Prop} {db db' : Database} (linked : LinkedBut owed db.toTables)
    (steady : Steady db db') : LinkedBut owed db'.toTables := by
  intro organisationId userId has
  exact (linked organisationId userId (steady.links _ _ has)).imp_left (steady.members organisationId userId)
theorem Linked.steady {db db' : Database} (linked : Linked db.toTables) (steady : Steady db db') : Linked db'.toTables := by
  intro organisationId userId has
  exact steady.members _ _ (linked organisationId userId (steady.links _ _ has))

/-- Links that were there with the same keys, and configs that stay. -/
theorem steady_of_keys {db db' : Database} (members : db'.organisationUsers = db.organisationUsers)
    (configs : db'.databaseConfigs = db.databaseConfigs)
    (keys : ∀ l' ∈ db'.databaseConfigUsers, ∃ l ∈ db.databaseConfigUsers, l.databaseConfigId = l'.databaseConfigId ∧ l.userId = l'.userId) :
    Steady db db' := by
  refine ⟨?_, fun o u => ?_⟩
  · rintro o u ⟨l', inside, rfl, inOrg⟩
    obtain ⟨l, member, sameConfig, sameUser⟩ := keys l' inside
    refine ⟨l, member, sameUser, ?_⟩
    rwa [Tables.inOrganisation, sameConfig, ← configs]
  · rw [Member, Member, members]
    exact id
theorem steady_of_members {db db' : Database} (links : db'.databaseConfigUsers = db.databaseConfigUsers)
    (configs : db'.databaseConfigs = db.databaseConfigs)
    (members : ∀ o u, Member db.toTables o u → Member db'.toTables o u) : Steady db db' := by
  refine ⟨?_, members⟩
  rintro o u ⟨l, inside, isUser, inOrg⟩
  refine ⟨l, links ▸ inside, isUser, ?_⟩
  rwa [Tables.inOrganisation, configs] at inOrg
theorem member_map {t t' : Tables} {f : OrganisationUser → OrganisationUser}
    (same : ∀ m, (f m).organisationId = m.organisationId ∧ (f m).userId = m.userId)
    (members : t'.organisationUsers = t.organisationUsers.map f) {o u : String} (member : Member t o u) : Member t' o u := by
  obtain ⟨m, inside, isOrganisation, isUser⟩ := member
  refine ⟨f m, ?_, (same m).1.trans isOrganisation, (same m).2.trans isUser⟩
  rw [members]
  exact List.mem_map_of_mem inside

/-! ### Statements -/

section
variable {change : Tables → Except String Tables}

theorem within_steady (kept : ∀ t t', change t = .ok t' → t'.databaseConfigUsers = t.databaseConfigUsers ∧
      t'.databaseConfigs = t.databaseConfigs ∧ ∀ o u, Member t o u → Member t' o u) : (write change).Within Steady := by
  refine within_write fun db db' changed => ?_
  obtain ⟨links, configs, members⟩ := kept db.toTables db'.toTables changed
  exact steady_of_members links configs members
/-- A statement on other tables. -/
theorem within_other (kept : ∀ t t', change t = .ok t' → t'.databaseConfigUsers = t.databaseConfigUsers ∧
      t'.databaseConfigs = t.databaseConfigs ∧ t'.organisationUsers = t.organisationUsers) : (write change).Within Steady := by
  refine within_steady fun t t' changed => ?_
  obtain ⟨links, configs, members⟩ := kept t t' changed
  refine ⟨links, configs, fun o u => ?_⟩
  rw [Member, Member, members]
  exact id
end

theorem setCurrentMembership_steady (organisationId userId : String) :
    (setCurrentMembership organisationId userId).Within Steady := by
  refine within_steady fun t t' changed => ?_
  split at changed
  · cases changed
  rw [← Except.ok.inj changed]
  refine ⟨rfl, rfl, fun o u => member_map (fun m => ?_) rfl⟩
  split
  · exact ⟨rfl, rfl⟩
  · exact ⟨rfl, rfl⟩
theorem setOldestCurrent_steady (userId : String) : (setOldestCurrent userId).Within Steady := by
  refine within_bind (within_read _) fun remainingOrgs => ?_
  cases remainingOrgs with
  | none => exact within_pure ()
  | some oldest => exact setCurrentMembership_steady oldest.organisationId userId
/-- What follows the end of a membership that was current, or was not. -/
theorem currentAgain_steady (userId : String) (wasCurrent : Bool) :
    (if wasCurrent then setOldestCurrent userId else pure ()).Within Steady := by
  cases wasCurrent with
  | false => exact within_pure ()
  | true => exact setOldestCurrent_steady userId
theorem completeOnboarding_steady (userId : String) : (completeOnboarding userId).Within Steady := by
  refine within_other fun t t' changed => ?_
  split at changed
  · cases changed
  · rw [← Except.ok.inj changed]
    exact ⟨rfl, rfl, rfl⟩
theorem deleteInvitation_steady (invitationId : String) : (deleteInvitation invitationId).Within Steady := by
  refine within_other fun t t' changed => ?_
  split at changed
  · rw [← Except.ok.inj changed]
    exact ⟨rfl, rfl, rfl⟩
  · cases changed
theorem renameOrganisation_steady (id name : String) : (renameOrganisation id name).Within Steady := by
  refine within_other fun t t' changed => ?_
  split at changed
  · cases changed
  · rw [← Except.ok.inj changed]
    exact ⟨rfl, rfl, rfl⟩
theorem setRole_steady (organisationId userId role : String) : (setRole organisationId userId role).Within Steady := by
  refine within_steady fun t t' changed => ?_
  split at changed
  · cases changed
  rw [← Except.ok.inj changed]
  refine ⟨rfl, rfl, fun o u => member_map (fun m => ?_) rfl⟩
  split
  · exact ⟨rfl, rfl⟩
  · exact ⟨rfl, rfl⟩
theorem updateLink_steady (databaseConfigId userId : String) (isCurrent : Bool) :
    (updateLink databaseConfigId userId isCurrent).Within Steady := by
  refine within_write fun db db' changed => ?_
  split at changed
  · cases changed
  have tables := Except.ok.inj changed
  refine steady_of_keys (by rw [← tables]) (by rw [← tables]) fun l' inside => ?_
  rw [← tables] at inside
  obtain ⟨l, member, rfl⟩ := List.mem_map.mp inside
  refine ⟨l, member, ?_⟩
  split
  · exact ⟨rfl, rfl⟩
  · exact ⟨rfl, rfl⟩

/-! ### Links of members -/

section
variable {s : Database} {owed : String → String → Prop}

/-- A link can be added that is in no organisation, or in one whose member its user is. -/
theorem linkedBut_append {t t' : Tables} {link : DatabaseConfigUser} (linked : LinkedBut owed t)
    (configs : t'.databaseConfigs = t.databaseConfigs) (members : t'.organisationUsers = t.organisationUsers)
    (links : ∀ l ∈ t'.databaseConfigUsers, l ∈ t.databaseConfigUsers ∨ l = link)
    (allowed : ∀ o : String, t.inOrganisation link (some o) = true → Member t o link.userId ∨ owed o link.userId) :
    LinkedBut owed t' := by
  rintro o u ⟨l, inside, rfl, inOrg⟩
  rw [Tables.inOrganisation, configs] at inOrg
  rw [Member, members]
  rcases links l inside with old | rfl
  · exact linked o l.userId ⟨l, old, rfl, inOrg⟩
  · exact allowed o inOrg
theorem createLink_linked {link : DatabaseConfigUser} (linked : LinkedBut owed s.toTables)
    (allowed : ∀ o : String, s.inOrganisation link (some o) = true → Member s.toTables o link.userId ∨ owed o link.userId) :
    (createLink link).Ends (fun _ s' => LinkedBut owed s'.toTables ∧ s'.databaseConfigs = s.databaseConfigs ∧
      s'.organisationUsers = s.organisationUsers) s := by
  refine ends_write (fun s' tables => ?_) fun _ => ⟨linked, rfl, rfl⟩
  have configs : s'.databaseConfigs = s.databaseConfigs := by rw [tables]
  have members : s'.organisationUsers = s.organisationUsers := by rw [tables]
  refine ⟨linkedBut_append linked configs members (fun l inside => ?_) allowed, configs, members⟩
  rw [tables] at inside
  rcases List.mem_append.mp inside with old | new
  · exact .inl old
  · exact .inr (List.mem_singleton.mp new)
/-- The configs of an organisation are shared with a member of it. -/
theorem shareOrganisationDatabaseConfigs_linked {organisationId userId : String} (linked : LinkedBut owed s.toTables)
    (member : Member s.toTables organisationId userId) :
    (shareOrganisationDatabaseConfigs organisationId userId).Ends
      (fun _ s' => LinkedBut owed s'.toTables ∧ s'.organisationUsers = s.organisationUsers) s := by
  have kept : (shareOrganisationDatabaseConfigs organisationId userId).Ends
      (fun _ s' => LinkedBut owed s'.toTables ∧ s'.databaseConfigs = s.databaseConfigs ∧
        s'.organisationUsers = s.organisationUsers) s := by
    refine ends_read (ends_read (ends_bind ?_))
    refine ends_foldEach (fun _ s' => LinkedBut owed s'.toTables ∧ s'.databaseConfigs = s.databaseConfigs ∧
      s'.organisationUsers = s.organisationUsers) (fun config listed assigned start ⟨right, configs, members⟩ => ?_)
      (fun _ _ same => same) ⟨linked, rfl, rfl⟩
    obtain ⟨stored, ofOrganisation⟩ : config ∈ s.databaseConfigs ∧ config.organisationId = some organisationId := by
      simpa using listed
    refine ends_read ?_
    cases start.link config.id userId with
    | some _ => exact ⟨right, configs, members⟩
    | none =>
      refine ends_bind ((createLink_linked right fun o inOrg => ?_).mono ?_)
      · -- the one config of this id is the one that was listed
        obtain ⟨c, inside, isId, isOrg⟩ := (inOrganisation_iff _ _ _).mp inOrg
        rw [configs] at inside
        obtain rfl := List.inj_on_of_nodup_map s.unique.configId inside stored isId
        obtain rfl := Option.some.inj (isOrg.symm.trans ofOrganisation)
        rw [Member, members]
        exact .inl member
      · rintro (_ | _) s' ⟨right', configs', members'⟩
        · exact ⟨right', configs'.trans configs, members'.trans members⟩
        · exact ⟨right', configs'.trans configs, members'.trans members⟩
  exact kept.mono fun _ _ ended => ⟨ended.1, ended.2.2⟩
/-- A user becomes a member, and then gets the configs. -/
theorem join_linked {β : Type} (member : OrganisationUser) {next : Unit → Op β} (linked : LinkedBut owed s.toTables)
    (rest : ∀ a, (next a).Within Steady) :
    (createMember member >>= fun _ => shareOrganisationDatabaseConfigs member.organisationId member.userId >>= next).Ends
      (fun _ s' => LinkedBut owed s'.toTables) s := by
  refine ends_bind (ends_write (fun s₁ tables => ?_) fun _ => linked)
  have linked₁ : LinkedBut owed s₁.toTables := by
    refine linked.steady (steady_of_members (by rw [tables]) (by rw [tables]) ?_)
    rintro o u ⟨m, inside, same⟩
    exact ⟨m, by rw [tables]; exact List.mem_append_left _ inside, same⟩
  have joined : Member s₁.toTables member.organisationId member.userId :=
    ⟨member, by rw [tables]; exact List.mem_append_right _ (List.mem_singleton_self _), rfl, rfl⟩
  refine ends_bind ((shareOrganisationDatabaseConfigs_linked linked₁ joined).mono ?_)
  rintro (_ | _) s₂ ⟨linked₂, -⟩
  · exact linked₂
  · exact linked₂.steady (rest _ s₂)
end

/-! ### Requests that change no links but to end them -/

section
variable {db : Database}

theorem ends_linked {α : Type} {p : Op α} (linked : Linked db.toTables) (steady : p.Within Steady) :
    p.Ends (fun _ s => Linked s.toTables) db := Ends.mono (steady db) fun _ _ moved => linked.steady moved
theorem setCurrentOrganisation_steady (session : Option String) (organisationId : String) :
    (setCurrentOrganisation session organisationId).Within Steady := by
  refine within_bind (within_currentUser session) fun user => within_bind (within_read _) fun membership => ?_
  refine within_bind (within_throwIfError _ _) fun _ => within_steady fun t t' changed => ?_
  rw [← Except.ok.inj changed]
  refine ⟨rfl, rfl, fun o u => member_map (fun m => ?_) rfl⟩
  split
  · exact ⟨rfl, rfl⟩
  · exact ⟨rfl, rfl⟩
theorem updateMemberRole_steady (session : Option String) (organisationId userId role : String) :
    (updateMemberRole session organisationId userId role).Within Steady := by
  refine within_bind (within_currentUser session) fun user => within_bind (within_read _) fun organisation => ?_
  cases organisation with
  | none => exact within_fail _
  | some o =>
    refine within_bind (CurrentOrganisations.within_reads (OrganisationRuns.checkRoleChange_reads o user.id userId role)) fun _ => ?_
    exact setRole_steady organisationId userId role
theorem deleteOrganisation_linked (linked : Linked db.toTables) (session : Option String) (id : String) :
    (deleteOrganisation session id).Ends (fun _ s => Linked s.toTables) db := by
  refine ends_currentUser (fun user _ => ends_read ?_) linked
  cases findOrganisation db.toTables id with
  | none => exact linked
  | some o =>
    refine ends_throwIfError (fun _ => linked) fun _ => ends_throwIfError (fun _ => linked) fun _ => ends_read ?_
    refine ends_bind (ends_refusable (fun s changed => ?_) fun _ => linked)
    split at changed
    · cases changed
    have tables := Except.ok.inj changed
    have left : Linked s.toTables := by
      rintro o u ⟨l, inside, rfl, inOrg⟩
      obtain ⟨c, stored, isId, isOrg⟩ := (inOrganisation_iff _ _ _).mp inOrg
      rw [← tables] at stored inside
      obtain ⟨before, old, rfl⟩ := List.mem_map.mp stored
      by_cases freed : before.organisationId = some id
      · rw [if_pos freed] at isOrg
        cases isOrg
      · rw [if_neg freed] at isId isOrg
        have before' := (inOrganisation_iff db.toTables l (some o)).mpr ⟨before, old, isId, isOrg⟩
        obtain ⟨m, member, rfl, isUser⟩ := linked o l.userId ⟨l, inside, rfl, before'⟩
        refine ⟨m, ?_, rfl, isUser⟩
        rw [← tables]
        refine List.mem_filter.mpr ⟨member, decide_eq_true fun same => freed ?_⟩
        rw [isOrg, same]
    exact ends_linked left (currentAgain_steady user.id _)
/-- The links go before the membership. -/
theorem endMembership_linked (linked : Linked db.toTables) (organisationId userId : String) :
    (endMembership organisationId userId).Ends (fun _ s => Linked s.toTables) db := by
  refine ends_read (ends_bind (ends_write (fun s tables => ?_) fun _ => linked))
  have remains (o u : String) (has : HasLink s.toTables o u) : HasLink db.toTables o u ∧ ¬(u = userId ∧ o = organisationId) := by
    obtain ⟨l, inside, rfl, inOrg⟩ := has
    have before : db.inOrganisation l (some o) = true := by rwa [tables] at inOrg
    rw [tables] at inside
    obtain ⟨old, kept⟩ := List.mem_filter.mp inside
    refine ⟨⟨l, old, rfl, before⟩, ?_⟩
    rintro ⟨isUser, rfl⟩
    simp [isUser, before] at kept
  have members : s.organisationUsers = db.organisationUsers := by rw [tables]
  have left : Linked s.toTables := by
    intro o u has
    rw [Member, members]
    exact linked o u (remains o u has).1
  refine ends_bind (ends_refusable (fun s' changed => ?_) fun _ => left)
  split at changed
  · cases changed
  have tables' := Except.ok.inj changed
  have left' : Linked s'.toTables := by
    intro o u has
    rw [← tables'] at has ⊢
    have has : HasLink s.toTables o u := has
    obtain ⟨m, member, isOrganisation, isUser⟩ := left o u has
    refine ⟨m, List.mem_filter.mpr ⟨member, decide_eq_true ?_⟩, isOrganisation, isUser⟩
    rintro ⟨here, ofUser⟩
    exact (remains o u has).2 ⟨isUser.symm.trans ofUser, isOrganisation.symm.trans here⟩
  exact ends_linked left' (currentAgain_steady userId _)
theorem removeUserFromOrganisation_linked (linked : Linked db.toTables) (session : Option String) (organisationId userId : String) :
    (removeUserFromOrganisation session organisationId userId).Ends (fun _ s => Linked s.toTables) db := by
  refine ends_currentUser (fun user _ => ends_read ?_) linked
  cases findOrganisation db.toTables organisationId with
  | none => exact linked
  | some o =>
    refine ends_bind (Ends.mono (OrganisationRuns.checkRemoval_reads o user.id userId db) ?_)
    rintro (_ | _) s rfl
    · exact linked
    · exact endMembership_linked linked organisationId userId
theorem join_keeps {β : Type} (member : OrganisationUser) {next : Unit → Op β} (linked : Linked db.toTables)
    (rest : ∀ a, (next a).Within Steady) :
    (createMember member >>= fun _ => shareOrganisationDatabaseConfigs member.organisationId member.userId >>= next).Ends
      (fun _ s => Linked s.toTables) db :=
  (join_linked member (linkedBut_of_linked linked fun _ _ => False) rest).mono fun _ _ ended => linked_of_linkedBut ended fun _ _ => False.elim

variable [CaseFolding]

theorem acceptInvitation_linked (linked : Linked db.toTables) (session : Option String) (invitationId : String) :
    (acceptInvitation session invitationId).Ends (fun _ s => Linked s.toTables) db := by
  refine ends_currentUser (fun user _ => ends_read ?_) linked
  cases db.organisationInvitedUsers.find? (·.id = invitationId) with
  | none => exact linked
  | some found =>
    refine ends_throwIfError (fun _ => linked) fun _ => ?_
    exact join_keeps { organisationId := found.organisationId, userId := user.id } linked fun _ => deleteInvitation_steady found.id
theorem inviteUserToOrganisation_linked [Ids] (linked : Linked db.toTables) (session : Option String) (organisationId email : String) :
    (inviteUserToOrganisation session organisationId email).Ends (fun _ s => Linked s.toTables) db := by
  refine ends_currentUser (fun user _ => ends_bind ((hasAdminOrOwnerRole_reads organisationId user.id db).mono ?_)) linked
  rintro (_ | hasPermission) _ rfl
  · exact linked
  refine ends_throwIfError (fun _ => linked) fun _ => ends_throwIfError (fun _ => linked) fun named => ?_
  refine ends_throwIfError (fun _ => linked) fun _ => ends_read ?_
  cases db.users.find? (·.email = normalizeEmail email) with
  | some existing =>
    refine ends_read (ends_throwIfError (fun _ => linked) fun _ => ?_)
    exact join_keeps { organisationId, userId := existing.id } linked fun _ => within_pure _
  | none =>
    refine ends_read (ends_throwIfError (fun _ => linked) fun _ => ends_linked linked ?_)
    refine within_bind (within_other fun t t' changed => ?_) fun _ => within_pure _
    rw [← Except.ok.inj changed]
    exact ⟨rfl, rfl, rfl⟩
end

/-! ### Configs -/

section
variable {db : Database}

theorem member_of_currentOrganisation {t : Tables} {userId : String} {org : CurrentOrganisation}
    (current : currentOrganisation t userId = some org) : Member t org.id userId := by
  obtain ⟨m, found, rest⟩ := Option.bind_eq_some_iff.mp current
  obtain ⟨organisation, looked, made⟩ := Option.bind_eq_some_iff.mp rest
  obtain rfl := Option.some.inj made
  have isUser : m.userId = userId ∧ m.isCurrent = true := by simpa using List.find?_some found
  have isOrganisation : organisation.id = m.organisationId := by simpa using List.find?_some looked
  exact ⟨m, List.mem_of_find?_eq_some found, isOrganisation.symm, isUser.1⟩

/-- Fewer links and fewer configs. -/
theorem steady_of_subset {s s' : Database} (members : s'.organisationUsers = s.organisationUsers)
    (links : ∀ l ∈ s'.databaseConfigUsers, l ∈ s.databaseConfigUsers) (configs : ∀ c ∈ s'.databaseConfigs, c ∈ s.databaseConfigs) :
    Steady s s' := by
  refine ⟨?_, fun o u => ?_⟩
  · rintro o u ⟨l, inside, isUser, inOrg⟩
    obtain ⟨c, stored, same⟩ := (inOrganisation_iff _ _ _).mp inOrg
    exact ⟨l, links l inside, isUser, (inOrganisation_iff _ _ _).mpr ⟨c, configs c stored, same⟩⟩
  · rw [Member, Member, members]
    exact id
/-- The same links, of which none gets into an organisation. -/
theorem steady_of_scopes {s s' : Database} (members : s'.organisationUsers = s.organisationUsers)
    (links : s'.databaseConfigUsers = s.databaseConfigUsers)
    (scopes : ∀ l ∈ s.databaseConfigUsers, ∀ o : String, s'.inOrganisation l (some o) = true → s.inOrganisation l (some o) = true) :
    Steady s s' := by
  refine ⟨?_, fun o u => ?_⟩
  · rintro o u ⟨l, inside, isUser, inOrg⟩
    rw [links] at inside
    exact ⟨l, inside, isUser, scopes l inside o inOrg⟩
  · rw [Member, Member, members]
    exact id

theorem checkPermissionForDbAction_reads (userId id : String) (actionType : ActionType) :
    (checkPermissionForDbAction userId id actionType).Within Eq := by
  intro s
  rw [Ends, SharePermissions.checkPermissionForDbAction_run]
theorem deleteDBConfig_steady (session : Option String) (id : String) : (deleteDBConfig session id).Within Steady := by
  refine within_bind (within_currentUser session) fun user => ?_
  refine within_bind (CurrentOrganisations.within_reads (checkPermissionForDbAction_reads user.id id .delete)) fun _ => ?_
  refine within_bind (within_write fun s s' changed => ?_) fun _ => within_write fun s s' changed => ?_
  · split at changed
    · cases changed
    · have tables := Except.ok.inj changed
      exact steady_of_subset (by rw [← tables]) (fun l inside => by rw [← tables] at inside; exact List.mem_of_mem_filter inside)
        fun c stored => by rwa [← tables] at stored
  · split at changed
    · cases changed
    · have tables := Except.ok.inj changed
      exact steady_of_subset (by rw [← tables]) (fun l inside => by rwa [← tables] at inside)
        fun c stored => by rw [← tables] at stored; exact List.mem_of_mem_filter stored

variable [Ids]

theorem upsertConfig_steady (matching : DatabaseConfig → Bool) (input : ConfigInput) (userId : String)
    (organisationId : Option String) : (upsertConfig matching input userId organisationId).Within Steady := by
  refine within_insert fun s s' id changed => ?_
  split at changed
  · obtain ⟨-, tables⟩ := Prod.mk.inj (Except.ok.inj changed)
    exact steady_of_scopes (by rw [← tables]) (by rw [← tables]) fun _ _ _ => inOrganisation_of_withConfig (by rw [← tables])
  · obtain ⟨-, tables⟩ := Prod.mk.inj (Except.ok.inj changed)
    exact steady_of_scopes (by rw [← tables]) (by rw [← tables]) fun _ inside _ =>
      inOrganisation_of_newConfig (by rw [← tables]) (Ids.newId_new _) inside
omit [Ids] in
theorem updateConfig_steady (id : String) (input : ConfigInput) : (updateConfig id input).Within Steady := by
  refine within_insert fun s s' _ changed => ?_
  split at changed
  · cases changed
  · obtain ⟨-, tables⟩ := Prod.mk.inj (Except.ok.inj changed)
    exact steady_of_scopes (by rw [← tables]) (by rw [← tables]) fun _ _ _ => inOrganisation_of_withConfig (by rw [← tables])
theorem createConfig_steady (input : ConfigInput) (userId : String) (organisationId : Option String) :
    (createConfig input userId organisationId).Within Steady := by
  refine within_insert fun s s' _ changed => ?_
  obtain ⟨-, tables⟩ := Prod.mk.inj (Except.ok.inj changed)
  exact steady_of_scopes (by rw [← tables]) (by rw [← tables]) fun _ inside _ =>
    inOrganisation_of_newConfig (by rw [← tables]) (Ids.newId_new _) inside
theorem createByName_steady (input : ConfigInput) (userId : String) (organisationId : Option String) :
    (createByName input userId organisationId).Within Steady := by
  cases organisationId with
  | some _ => exact upsertConfig_steady _ input userId _
  | none =>
    refine within_bind (within_read _) fun existing => ?_
    cases existing with
    | some found => exact updateConfig_steady found.id input
    | none => exact createConfig_steady input userId none

/-- What the creation of a config stores. -/
def newConfig (t : Tables) (input : ConfigInput) (userId : String) (organisationId : Option String) : DatabaseConfig :=
  input.applyTo { id := Ids.newId (t.databaseConfigs.map (·.id)), name := "", createdByUserId := userId, organisationId }
/-- The config of an id is in no organisation but this, if it is in one. -/
def InOnly (t : Tables) (id : String) (organisationId : Option String) : Prop :=
  ∀ c ∈ t.databaseConfigs, c.id = id → c.organisationId = organisationId

omit [Ids] in
theorem inOnly_of_withConfig {s : Database} {t' : Tables} {c : DatabaseConfig} {input : ConfigInput} (stored : c ∈ s.databaseConfigs)
    (configs : t'.databaseConfigs = withConfig s.databaseConfigs c.id input) : InOnly t' c.id c.organisationId := by
  intro c' inside isId
  rw [configs] at inside
  obtain ⟨before, old, rfl⟩ := List.mem_map.mp inside
  have same : before = c := by
    refine List.inj_on_of_nodup_map s.unique.configId old stored ?_
    by_cases chosen : before.id = c.id
    · exact chosen
    · rwa [if_neg chosen] at isId
  rw [same, if_pos rfl]
  rfl
omit [Ids] in
theorem inOnly_of_newConfig {s : Database} {t' : Tables} {config : DatabaseConfig}
    (configs : t'.databaseConfigs = s.databaseConfigs ++ [config]) (fresh : config.id ∉ s.databaseConfigs.map (·.id)) :
    InOnly t' config.id config.organisationId := by
  intro c' inside isId
  rw [configs, List.mem_append, List.mem_singleton] at inside
  rcases inside with old | rfl
  · exact absurd (isId ▸ List.mem_map_of_mem old) fresh
  · rfl
theorem createByName_ends {s : Database} (input : ConfigInput) (userId : String) (organisationId : Option String) :
    (createByName input userId organisationId).Ends
      (fun result s' => ∀ created, result = .ok created → InOnly s'.toTables created organisationId) s := by
  have failed {e : String} {t : Tables} : ∀ created, (.error e : Except String String) = .ok created → InOnly t created organisationId := by
    intro created same
    cases same
  have named {c : DatabaseConfig} (found : s.databaseConfigs.find? (sameName input organisationId) = some c) :
      c ∈ s.databaseConfigs ∧ c.organisationId = organisationId :=
    ⟨List.mem_of_find?_eq_some found, (sameName_iff.mp (List.find?_some found)).2⟩
  cases organisationId with
  | some organisationId =>
    refine ends_insert (fun id s' changed => ?_) fun _ => failed
    rintro _ ⟨rfl⟩
    split at changed
    · rename_i found
      obtain ⟨rfl, tables⟩ := Prod.mk.inj (Except.ok.inj changed)
      obtain ⟨stored, inOrg⟩ := named found
      rw [← inOrg]
      exact inOnly_of_withConfig stored (by rw [← tables])
    · obtain ⟨rfl, tables⟩ := Prod.mk.inj (Except.ok.inj changed)
      have configs : s'.databaseConfigs = s.databaseConfigs ++ [newConfig s.toTables input userId (some organisationId)] := by
        rw [← tables]
        rfl
      exact inOnly_of_newConfig configs (Ids.newId_new _)
  | none =>
    refine ends_read ?_
    cases found : s.databaseConfigs.find? (sameName input none) with
    | some existing =>
      refine ends_insert (fun id s' changed => ?_) fun _ => failed
      rintro _ ⟨rfl⟩
      split at changed
      · cases changed
      · obtain ⟨rfl, tables⟩ := Prod.mk.inj (Except.ok.inj changed)
        obtain ⟨stored, inOrg⟩ := named found
        rw [← inOrg]
        exact inOnly_of_withConfig stored (by rw [← tables])
    | none =>
      refine ends_insert (fun id s' changed => ?_) fun _ => failed
      rintro _ ⟨rfl⟩
      obtain ⟨rfl, tables⟩ := Prod.mk.inj (Except.ok.inj changed)
      have configs : s'.databaseConfigs = s.databaseConfigs ++ [newConfig s.toTables input userId none] := by
        rw [← tables]
        rfl
      exact inOnly_of_newConfig configs (Ids.newId_new _)
omit [Ids] in
/-- A user who creates a config in an organisation is a member of it. -/
theorem addDatabaseConfigUserEntry_linked {s : Database} (linked : Linked s.toTables) {userId id : String}
    {organisationId : Option String} (inOnly : InOnly s.toTables id organisationId)
    (member : ∀ o, organisationId = some o → Member s.toTables o userId) (permissions : Permissions) :
    (addDatabaseConfigUserEntry userId id permissions).Ends (fun _ s' => Linked s'.toTables) s := by
  refine ends_read (ends_read ?_)
  refine (createLink_linked (linkedBut_of_linked linked fun _ _ => False) fun o inOrg => ?_).mono fun _ _ ended =>
    linked_of_linkedBut ended.1 fun _ _ => False.elim
  obtain ⟨c, stored, isId, isOrg⟩ := (inOrganisation_iff _ _ _).mp inOrg
  exact .inl (member o ((inOnly c stored isId).symm.trans isOrg))
theorem upsertDBConfig_linked (linked : Linked db.toTables) (session : Option String) (dbConfig : ConfigInput) (id : Option String) :
    (upsertDBConfig session dbConfig id).Ends (fun _ s => Linked s.toTables) db := by
  unfold upsertDBConfig
  cases dbConfig.verify with
  | error message => exact linked
  | ok _ =>
    refine ends_currentUser (fun user known => CurrentConfigs.ends_getCurrentOrganisation known ?_) linked
    refine ends_read (ends_throwIfError (fun _ => linked) fun _ => ?_)
    cases present id with
    | some configId =>
      refine ends_linked linked ?_
      refine within_bind (CurrentOrganisations.within_reads (checkPermissionForDbAction_reads user.id configId .edit)) fun _ => ?_
      exact within_bind (upsertConfig_steady _ dbConfig user.id _) fun _ => within_pure _
    | none =>
      have created := (createByName_ends (s := db) dbConfig user.id ((currentOrganisation db.toTables user.id).map (·.id))).and
        (createByName_steady dbConfig user.id ((currentOrganisation db.toTables user.id).map (·.id)) db)
      refine ends_bind (created.mono ?_)
      rintro (e | id) s ⟨inOnly, steady⟩
      · exact linked.steady steady
      refine ends_bind ((addDatabaseConfigUserEntry_linked (linked.steady steady) (inOnly id rfl) (fun o current => ?_) _).mono ?_)
      · obtain ⟨org, isCurrent, rfl⟩ := Option.map_eq_some_iff.mp current
        exact steady.members _ _ (member_of_currentOrganisation isCurrent)
      · rintro (_ | _) s' ended
        · exact ended
        · exact ended
end

end Openlit.OrganisationLinks
