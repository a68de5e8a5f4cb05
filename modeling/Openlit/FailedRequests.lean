import Openlit.OrganisationLinks

/-!
Requests on database configs that stop half-way (`lib/db-config.ts`). A switch
of the current config clears the old link before it looks for the new one, and a
deletion removes the caller's link before the config, which other rows may still
refer to. Neither is a transaction, so what is done before an error stays done
(`failed_switch_keeps_links_iff`, `deletion_all_or_nothing_iff`).
-/
namespace Openlit.FailedRequests
open Openlit.Programs Openlit.Programs.Program Openlit.Text Openlit.Accounts Openlit.Organisations Openlit.DbConfigs
  Openlit.Sharing Openlit.SharePermissions Openlit.CurrentLinks Openlit.CurrentConfigs

/-! ### Switching the current config -/

/-- The links of a user, with which of them is current. -/
def linksOf (t : Tables) (userId : String) : List DatabaseConfigUser := t.databaseConfigUsers.filter (·.userId = userId)
/-- After an error the caller's links are as they were. -/
def KeepsLinks (session : Option String) (db : Database) (result : Except String Unit) (s : Database) : Prop :=
  ∀ e, result = .error e → ∀ user, session.bind db.user = some user → linksOf s.toTables user.id = linksOf db.toTables user.id

/-- A current link of the user to a config in the current organisation, or in none, from where it is moved there. -/
def InReach (t : Tables) (userId : String) (l : DatabaseConfigUser) : Prop :=
  l.userId = userId ∧ l.isCurrent = true ∧
    (t.inOrganisation l none = true ∨ t.inOrganisation l ((currentOrganisation t userId).map (·.id)) = true)
/-- The caller has a link to the config, or the configs cannot be moved, or there is no link to clear. -/
def SwitchWhole (t : Tables) (session : Option String) (id : String) : Prop :=
  ∀ user, session.bind t.user = some user →
    (t.link id user.id).isSome ∨ (∃ org, currentOrganisation t user.id = some org ∧ ¬ NamesFit t user.id org.id) ∨
      ∀ l ∈ t.databaseConfigUsers, ¬ InReach t user.id l

section
variable {session : Option String} {id : String} {db s : Database} {user : User}

theorem currentOrganisation_stored {t : Tables} {userId : String} {org : CurrentOrganisation}
    (current : currentOrganisation t userId = some org) : ∃ o ∈ t.organisations, o.id = org.id := by
  simp only [currentOrganisation, Option.bind_eq_bind, Option.bind_eq_some_iff] at current
  obtain ⟨member, -, organisation, found, made⟩ := current
  refine ⟨organisation, List.mem_of_find?_eq_some found, ?_⟩
  rw [← Option.some.inj made]
/-- The move of the caller's configs fails only where names meet. -/
theorem moveConfigs_succeeds {userId organisationId : String} (fit : NamesFit db.toTables userId organisationId)
    (stored : ∃ o ∈ db.organisations, o.id = organisationId) :
    (moveConfigs (orphanedConfigIds db.toTables userId) organisationId).Ends (fun result _ => result = .ok ()) db := by
  have ids : (movedTo db.databaseConfigs (orphanedConfigIds db.toTables userId) organisationId).map (·.id) =
      db.databaseConfigs.map (·.id) := by
    rw [movedTo, List.map_map]
    refine List.map_congr_left fun c _ => ?_
    rw [Function.comp_apply]
    split
    · rfl
    · rfl
  have kept {configId : String} (there : ∃ c ∈ db.databaseConfigs, c.id = configId) :
      ∃ c ∈ movedTo db.databaseConfigs (orphanedConfigIds db.toTables userId) organisationId, c.id = configId := by
    rw [← List.mem_map, ids]
    exact List.mem_map.mpr there
  refine ends_valid { db.unique with configId := ?_, configName := fit }
    { db.references with config := fun c inside => ?_, link := fun l inside => ?_, invite := fun i inside => ?_ } fun _ _ => rfl
  · exact ids ▸ db.unique.configId
  · obtain ⟨before, member, rfl⟩ := List.mem_map.mp inside
    have refers := db.references.config before member
    split
    · refine ⟨fun o isOrg => ?_, refers.2⟩
      cases isOrg
      exact stored
    · exact refers
  · exact ⟨kept (db.references.link l inside).1, (db.references.link l inside).2⟩
  · exact kept (db.references.invite i inside)

theorem userAndOrganisation_succeeds (known : session.bind db.user = some user)
    (fit : ∀ org, currentOrganisation db.toTables user.id = some org → NamesFit db.toTables user.id org.id) :
    (userAndOrganisation session).Ends (fun result _ => ∃ found, result = .ok found) db := by
  have finish (current : Option CurrentOrganisation) (s : Database) :
      (pure (user, current) : Op (User × Option CurrentOrganisation)).Ends (fun result _ => ∃ found, result = .ok found) s := ⟨_, rfl⟩
  refine ends_knownUser known (ends_getCurrentOrganisation known ?_)
  cases current : currentOrganisation db.toTables user.id with
  | none => exact finish none db
  | some org =>
    refine ends_read ?_
    split
    · exact finish (some org) db
    · refine ends_bind ((moveConfigs_succeeds (fit org current) (currentOrganisation_stored current)).mono ?_)
      rintro _ s rfl
      exact finish (some org) s
/-- After the move, a current link is found exactly where one was in reach before. -/
theorem found_iff_inReach (migrated : Migrated db.toTables s.toTables user.id (currentOrganisation db.toTables user.id))
    {l : DatabaseConfigUser} (stored : l ∈ db.databaseConfigUsers) (ofUser : l.userId = user.id) (isCurrent : l.isCurrent = true) :
    s.inOrganisation l ((currentOrganisation db.toTables user.id).map (·.id)) = true ↔ InReach db.toTables user.id l := by
  have configs := migrated.configs
  rw [InReach, eq_true ofUser, eq_true isCurrent, true_and, true_and]
  cases current : currentOrganisation db.toTables user.id with
  | none =>
    rw [current] at configs
    rw [Tables.inOrganisation, configs]
    simp [Tables.inOrganisation]
  | some org =>
    rw [current] at configs
    by_cases moved : l.databaseConfigId ∈ orphanedConfigIds db.toTables user.id
    · obtain ⟨other, -, -, before, same⟩ := (mem_orphanedConfigIds _ _ _).mp moved
      have orphaned : db.inOrganisation l none = true := by rwa [Tables.inOrganisation, ← same]
      exact iff_of_true (inOrganisation_movedTo configs orphaned moved) (.inl orphaned)
    · have placed : ¬ db.inOrganisation l none = true := by
        intro orphaned
        exact moved ((mem_orphanedConfigIds _ _ _).mpr ⟨l, stored, ofUser, orphaned, rfl⟩)
      rw [inOrganisation_kept configs moved, or_iff_right placed]
/-- The look for the current config does nothing to the links, and finds the config of a link in reach. -/
structure Looked (db : Database) (user : User) (found : Option DatabaseConfig) (s : Database) : Prop where
  links : s.databaseConfigUsers = db.databaseConfigUsers
  absent : found = none → ∀ l ∈ db.databaseConfigUsers, ¬ InReach db.toTables user.id l
  present : ∀ config, found = some config → ∃ l ∈ db.databaseConfigUsers, InReach db.toTables user.id l ∧ l.databaseConfigId = config.id

theorem getCurrentDBConfigByUser_looks (known : session.bind db.user = some user)
    (fit : ∀ org, currentOrganisation db.toTables user.id = some org → NamesFit db.toTables user.id org.id) :
    (getCurrentDBConfigByUser session).Ends (fun result s => ∃ found, result = .ok found ∧ Looked db user found s) db := by
  have reached : (userAndOrganisation session).Ends (fun result s => ∀ caller, result = .ok caller →
      caller = (user, currentOrganisation db.toTables user.id) ∧
        Migrated db.toTables s.toTables user.id (currentOrganisation db.toTables user.id)) db := by
    refine userAndOrganisation_ends (by simp) fun other s known' migrated => ?_
    cases known.symm.trans known'
    rintro _ ⟨⟩
    exact ⟨rfl, migrated⟩
  refine ends_bind (((userAndOrganisation_succeeds known fit).and reached).mono ?_)
  rintro _ s ⟨⟨caller, rfl⟩, ended⟩
  obtain ⟨rfl, migrated⟩ := ended caller rfl
  refine ends_select ⟨_, rfl, migrated.links, ?_, ?_⟩
  · intro absent l member inReach
    have inside := (found_iff_inReach migrated member inReach.1 inReach.2.1).mpr inReach
    cases search : currentLink s.toTables user.id ((currentOrganisation db.toTables user.id).map (·.id)) with
    | none =>
      have outside := (currentLink_eq_none_iff _ _ _).mp search l (migrated.links ▸ member) inReach.1 inReach.2.1
      rw [inside] at outside
      cases outside
    | some link =>
      obtain ⟨c, stored, isId⟩ := (s.references.link link (List.mem_of_find?_eq_some search)).1
      simp only [search, Option.bind_some] at absent
      exact absurd isId (by simpa using List.find?_eq_none.mp absent c stored)
  · intro config present
    obtain ⟨link, search, found⟩ := Option.bind_eq_some_iff.mp present
    have isLink : link.userId = user.id ∧ link.isCurrent = true ∧
        s.inOrganisation link ((currentOrganisation db.toTables user.id).map (·.id)) = true := by
      simpa using List.find?_some search
    have member : link ∈ db.databaseConfigUsers := migrated.links ▸ List.mem_of_find?_eq_some search
    have isConfig : config.id = link.databaseConfigId := by simpa using List.find?_some found
    exact ⟨link, member, (found_iff_inReach migrated member isLink.1 isLink.2.1).mp isLink.2.2, isConfig.symm⟩

/-- An update of a link that is not there is refused. -/
theorem updateLink_refused {userId : String} {isCurrent : Bool} (absent : s.link id userId = none) :
    (updateLink id userId isCurrent).run s = (.error recordNotFound, s) := by
  rw [updateLink, write, Accounts.insert, run_statement]
  simp only [carryOut, absent, Except.map]
/-- The links of a user are not as before once a current one is cleared. -/
theorem linksOf_cleared {l : DatabaseConfigUser} {t t' : Tables} (stored : l ∈ t.databaseConfigUsers) (isCurrent : l.isCurrent = true)
    (links : t'.databaseConfigUsers = t.databaseConfigUsers.map fun other =>
      if other.databaseConfigId = l.databaseConfigId ∧ other.userId = l.userId then { other with isCurrent := false } else other) :
    linksOf t' l.userId ≠ linksOf t l.userId := by
  intro same
  have listed : l ∈ linksOf t l.userId := List.mem_filter.mpr ⟨stored, by simp⟩
  rw [← same] at listed
  exact (current_of_cleared links (List.mem_of_mem_filter listed) isCurrent).2 ⟨rfl, rfl⟩
theorem link_of_cleared {t t' : Tables} {databaseConfigId userId : String} {isCurrent : Bool}
    (links : t'.databaseConfigUsers = t.databaseConfigUsers.map fun l =>
      if l.databaseConfigId = databaseConfigId ∧ l.userId = userId then { l with isCurrent } else l) (id userId' : String) :
    (t'.link id userId').isSome = (t.link id userId').isSome := by
  rw [Bool.eq_iff_iff, Tables.link, Tables.link, List.find?_isSome, List.find?_isSome, links]
  simp [Invitations.flagged_key]
theorem updateLink_carried {l : DatabaseConfigUser} (stored : l ∈ s.databaseConfigUsers) (isCurrent : Bool) :
    (updateLink l.databaseConfigId l.userId isCurrent).Ends (fun result s' => result = .ok () ∧
      s'.databaseConfigUsers = s.databaseConfigUsers.map fun other =>
        if other.databaseConfigId = l.databaseConfigId ∧ other.userId = l.userId then { other with isCurrent } else other) s := by
  refine (Invitations.updateLink_succeeds stored isCurrent).mono ?_
  rintro _ s' ⟨rfl, tables⟩
  exact ⟨rfl, by rw [tables]⟩

theorem keepsLinks_of_links {e : String} (links : s.databaseConfigUsers = db.databaseConfigUsers) :
    KeepsLinks session db (.error e) s := by
  intro _ _ user _
  rw [linksOf, linksOf, links]
theorem keepsLinks_ok : KeepsLinks session db (.ok ()) s := by
  intro e thrown
  cases thrown
theorem switchWhole_iff (known : session.bind db.user = some user) :
    SwitchWhole db.toTables session id ↔
      (db.link id user.id).isSome ∨ (∃ org, currentOrganisation db.toTables user.id = some org ∧ ¬ NamesFit db.toTables user.id org.id) ∨
        ∀ l ∈ db.databaseConfigUsers, ¬ InReach db.toTables user.id l := by
  constructor
  · intro whole
    exact whole user known
  · intro holds user' known'
    cases known.symm.trans known'
    exact holds
/-- Once a link is cleared, the rest of the switch leaves the caller's links as they were only where it does not throw. -/
theorem rest_of_switch_iff (known : session.bind db.user = some user) {l : DatabaseConfigUser} (stored : l ∈ db.databaseConfigUsers)
    (inReach : InReach db.toTables user.id l)
    (cleared : s.databaseConfigUsers = db.databaseConfigUsers.map fun other =>
      if other.databaseConfigId = l.databaseConfigId ∧ other.userId = l.userId then { other with isCurrent := false } else other) :
    (updateLink id user.id true).Ends (fun result s' => KeepsLinks session db result s' ↔ (db.link id user.id).isSome) s := by
  have linked := link_of_cleared cleared id user.id
  cases found : s.link id user.id with
  | some link =>
    have isLink : link.databaseConfigId = id ∧ link.userId = user.id := by simpa using List.find?_some found
    have ended := Invitations.updateLink_succeeds (List.mem_of_find?_eq_some found) true
    rw [isLink.1, isLink.2] at ended
    refine ended.mono ?_
    rintro _ s' ⟨rfl, -⟩
    rw [found] at linked
    exact iff_of_true keepsLinks_ok linked.symm
  | none =>
    rw [Ends, updateLink_refused found]
    rw [found] at linked
    refine iff_of_false ?_ (by simp [← linked])
    intro kept
    have same := kept _ rfl user known
    rw [← inReach.1] at same
    exact linksOf_cleared stored inReach.2.1 cleared same

end

/-- Where a switch throws, the caller's links are as they were if and only if the caller has a link
    to the config, or none was there to clear. -/
theorem failed_switch_keeps_links_iff (session : Option String) (id : String) (db : Database) :
    (setCurrentDBConfig session id).Ends (KeepsLinks session db) db ↔ SwitchWhole db.toTables session id := by
  suffices decided : (setCurrentDBConfig session id).Ends
      (fun result s => KeepsLinks session db result s ↔ SwitchWhole db.toTables session id) db from decided
  cases known : session.bind db.user with
  | none =>
    have stopped : (setCurrentDBConfig session id).run db = (.error unauthorizedUser, db) := by
      rw [setCurrentDBConfig, run_bind, currentUser_run, known]
    rw [Ends, stopped]
    refine iff_of_true (keepsLinks_of_links rfl) ?_
    intro user known'
    rw [known] at known'
    cases known'
  | some user =>
    refine ends_knownUser known ?_
    rw [switchWhole_iff known]
    by_cases fit : ∀ org, currentOrganisation db.toTables user.id = some org → NamesFit db.toTables user.id org.id
    · refine ends_bind ((getCurrentDBConfigByUser_looks known fit).mono ?_)
      rintro _ s ⟨found, rfl, looked⟩
      cases found with
      | none =>
        have kept : (updateLink id user.id true).Ends (KeepsLinks session db) s :=
          updateLink_ends (fun _ _ _ _ _ => keepsLinks_ok) fun _ => keepsLinks_of_links looked.links
        exact kept.mono fun _ _ right => iff_of_true right (.inr (.inr (looked.absent rfl)))
      | some config =>
        obtain ⟨l, stored, inReach, isConfig⟩ := looked.present config rfl
        have clearing := updateLink_carried (looked.links ▸ stored) false
        rw [isConfig, inReach.1] at clearing
        refine ends_bind (clearing.mono ?_)
        rintro _ s' ⟨rfl, cleared⟩
        rw [looked.links, ← isConfig, ← inReach.1] at cleared
        refine (rest_of_switch_iff known stored inReach cleared).mono fun _ _ decided => decided.trans ?_
        constructor
        · exact .inl
        · rintro (linked | ⟨org, current, meet⟩ | unreached)
          · exact linked
          · exact absurd (fit org current) meet
          · exact absurd inReach (unreached l stored)
    · refine ends_bind (ends_bind (userAndOrganisation_ends ?_ ?_))
      · intro e
        simp only [not_forall] at fit
        obtain ⟨org, current, meet⟩ := fit
        exact iff_of_true (keepsLinks_of_links rfl) (.inr (.inl ⟨org, current, meet⟩))
      · intro user' s known' migrated
        cases known.symm.trans known'
        exact absurd (fun org current => namesFit_of_migrated current migrated) fit

/-- The current config is no longer current after a switch to a config that is not there. -/
theorem failed_switch_clears_current :
    ¬ (setCurrentDBConfig (some "ann") "staging").Ends (KeepsLinks (some "ann") sampleDatabase) sampleDatabase := by
  intro kept
  exact absurd (kept recordNotFound rfl { id := "ann", email := "ann@example.com" } rfl) (by decide)

/-! ### Deleting a config -/

/-- The configs that the rows of further tables refer to. A deleted API key keeps its row. -/
structure Holders where
  apiKeys : List String := []
  opengrounds : List String := []
  deriving DecidableEq, Repr
def Holders.hold (holders : Holders) (id : String) : Bool := id ∈ holders.apiKeys ∨ id ∈ holders.opengrounds

def dropLink (id userId : String) : Op Unit :=
  write fun t =>
    match t.link id userId with
    | none => .error recordNotFound
    | some _ => .ok { t with databaseConfigUsers := t.databaseConfigUsers.filter fun l => ¬(l.databaseConfigId = id ∧ l.userId = userId) }
def dropConfig (holders : Holders) (id : String) : Op Unit :=
  write fun t =>
    match t.config id with
    | none => .error recordNotFound
    | some _ =>
      if holders.hold id then .error foreignKeyViolation
      else .ok { t with databaseConfigs := t.databaseConfigs.filter (·.id ≠ id) }
/-- The deletion, where API keys and opengrounds may refer to configs as well. -/
def deleteDBConfig (holders : Holders) (session : Option String) (id : String) : Op Unit := do
  let user ← currentUser session
  let _ ← checkPermissionForDbAction user.id id .delete
  dropLink id user.id
  dropConfig holders id

theorem deleteDBConfig_unheld (session : Option String) (id : String) :
    deleteDBConfig {} session id = DbConfigs.deleteDBConfig session id := rfl

/-- The config is gone with the links and invites to it, or it is there after an error with all links. -/
def AllOrNothing (id : String) (db : Database) (result : Except String Unit) (s : Database) : Prop :=
  (result = .ok () ∧ s.databaseConfigs = db.databaseConfigs.filter (·.id ≠ id) ∧
    s.databaseConfigUsers = db.databaseConfigUsers.filter (·.databaseConfigId ≠ id) ∧
      s.databaseConfigInvitedUsers = db.databaseConfigInvitedUsers.filter (·.databaseConfigId ≠ id)) ∨
  ((∃ e, result = .error e) ∧ s.databaseConfigs = db.databaseConfigs ∧ s.databaseConfigUsers = db.databaseConfigUsers)
/-- Nothing refers to the config but the link of this user. -/
structure HeldAlone (holders : Holders) (t : Tables) (id userId : String) : Prop where
  links : ∀ l ∈ t.databaseConfigUsers, l.databaseConfigId = id → l.userId = userId
  invites : ∀ i ∈ t.databaseConfigInvitedUsers, i.databaseConfigId ≠ id
  holders : holders.hold id = false
/-- A caller who may delete the config holds it alone. -/
def DeletionWhole (holders : Holders) (t : Tables) (session : Option String) (id : String) : Prop :=
  ∀ user link, session.bind t.user = some user → t.link id user.id = some link → link.permissions.canDelete = true →
    HeldAlone holders t id user.id

section
variable {holders : Holders} {id userId : String} {db s : Database}

theorem dropLinks_valid (keep : DatabaseConfigUser → Bool) :
    ({ db.toTables with databaseConfigUsers := db.databaseConfigUsers.filter keep } : Tables).Unique ∧
      ({ db.toTables with databaseConfigUsers := db.databaseConfigUsers.filter keep } : Tables).References := by
  refine ⟨{ db.unique with link := ?_ }, { db.references with link := ?_ }⟩
  · exact db.unique.link.sublist (List.filter_sublist.map _)
  · intro l inside
    exact db.references.link l (List.mem_of_mem_filter inside)
/-- A config can go to which no link and no invite refers. -/
theorem dropConfig_valid (links : ∀ l ∈ s.databaseConfigUsers, l.databaseConfigId ≠ id)
    (invites : ∀ i ∈ s.databaseConfigInvitedUsers, i.databaseConfigId ≠ id) :
    ({ s.toTables with databaseConfigs := s.databaseConfigs.filter (·.id ≠ id) } : Tables).Unique ∧
      ({ s.toTables with databaseConfigs := s.databaseConfigs.filter (·.id ≠ id) } : Tables).References := by
  have kept {configId : String} (there : ∃ c ∈ s.databaseConfigs, c.id = configId) (other : configId ≠ id) :
      ∃ c ∈ s.databaseConfigs.filter (·.id ≠ id), c.id = configId := by
    obtain ⟨c, stored, rfl⟩ := there
    exact ⟨c, List.mem_filter.mpr ⟨stored, by simpa using other⟩, rfl⟩
  refine ⟨{ s.unique with configId := ?_, configName := ?_ }, { s.references with config := ?_, link := ?_, invite := ?_ }⟩
  · exact s.unique.configId.sublist (List.filter_sublist.map _)
  · exact s.unique.configName.sublist (List.filter_sublist.filterMap _)
  · intro c inside
    exact s.references.config c (List.mem_of_mem_filter inside)
  · intro l inside
    exact ⟨kept (s.references.link l inside).1 (links l inside), (s.references.link l inside).2⟩
  · intro i inside
    exact kept (s.references.invite i inside) (invites i inside)

/-- The database without the link of a user to a config. -/
def Dropped (db : Database) (id userId : String) (s : Database) : Prop :=
  s.toTables = { db.toTables with databaseConfigUsers := db.databaseConfigUsers.filter fun l =>
    ¬(l.databaseConfigId = id ∧ l.userId = userId) }

theorem Dropped.configs (dropped : Dropped db id userId s) : s.databaseConfigs = db.databaseConfigs := by rw [dropped]
theorem Dropped.invites (dropped : Dropped db id userId s) : s.databaseConfigInvitedUsers = db.databaseConfigInvitedUsers := by
  rw [dropped]
theorem Dropped.mem_links (dropped : Dropped db id userId s) (l : DatabaseConfigUser) :
    l ∈ s.databaseConfigUsers ↔ l ∈ db.databaseConfigUsers ∧ ¬(l.databaseConfigId = id ∧ l.userId = userId) := by
  rw [dropped, List.mem_filter, decide_eq_true_iff]
theorem dropLink_drops (linked : (db.link id userId).isSome) :
    (dropLink id userId).Ends (fun result s => result = .ok () ∧ Dropped db id userId s) db := by
  obtain ⟨link, found⟩ := Option.isSome_iff_exists.mp linked
  obtain ⟨unique, references⟩ := @dropLinks_valid db fun l => ¬(l.databaseConfigId = id ∧ l.userId = userId)
  exact ends_accepted (by simp only [found]) unique references fun s tables => ⟨rfl, tables⟩

/-- A config that was held by the dropped link alone goes, and nothing is left that refers to it. -/
theorem dropConfig_removes (dropped : Dropped db id userId s) (stored : (s.config id).isSome)
    (alone : HeldAlone holders db.toTables id userId) : (dropConfig holders id).Ends (AllOrNothing id db) s := by
  obtain ⟨config, found⟩ := Option.isSome_iff_exists.mp stored
  have unlinked : ∀ l ∈ s.databaseConfigUsers, l.databaseConfigId ≠ id := by
    intro l inside isId
    obtain ⟨member, others⟩ := (dropped.mem_links l).mp inside
    exact others ⟨isId, alone.links l member isId⟩
  have uninvited : ∀ i ∈ s.databaseConfigInvitedUsers, i.databaseConfigId ≠ id := dropped.invites ▸ alone.invites
  obtain ⟨unique, references⟩ := dropConfig_valid unlinked uninvited
  refine ends_accepted (by simp [found, alone.holders]) unique references fun s' tables => .inl ⟨rfl, ?_, ?_, ?_⟩
  · rw [tables, dropped.configs]
  · rw [tables, dropped]
    refine List.filter_congr fun l member => ?_
    by_cases isId : l.databaseConfigId = id
    · simp [isId, alone.links l member isId]
    · simp [isId]
  · rw [tables, dropped.invites]
    exact (List.filter_eq_self.mpr fun i inside => by simpa using alone.invites i inside).symm
/-- Where the config has gone, the foreign keys leave nothing that refers to it. -/
theorem heldAlone_of_removed (dropped : Dropped db id userId s) (unheld : holders.hold id = false) {s' : Database}
    (tables : s'.toTables = { s.toTables with databaseConfigs := s.databaseConfigs.filter (·.id ≠ id) }) :
    HeldAlone holders db.toTables id userId := by
  have gone : ¬ ∃ c ∈ s'.databaseConfigs, c.id = id := by
    rintro ⟨c, inside, isId⟩
    rw [tables, List.mem_filter] at inside
    simp [isId] at inside
  refine ⟨?_, ?_, unheld⟩
  · intro l member isId
    by_contra other
    have inside : l ∈ s'.databaseConfigUsers := by
      rw [tables]
      exact (dropped.mem_links l).mpr ⟨member, fun own => other own.2⟩
    exact gone (isId ▸ (s'.references.link l inside).1)
  · intro i member isId
    have inside : i ∈ s'.databaseConfigInvitedUsers := by rwa [tables, dropped.invites]
    exact gone (isId ▸ s'.references.invite i inside)
/-- Once the caller's link is gone, the config goes with all that refers to it, or the caller is left without the link. -/
theorem rest_of_deletion_iff {link : DatabaseConfigUser} (linked : db.link id userId = some link) (dropped : Dropped db id userId s) :
    (dropConfig holders id).Ends (fun result s' => AllOrNothing id db result s' ↔ HeldAlone holders db.toTables id userId) s := by
  have isLink : link.databaseConfigId = id ∧ link.userId = userId := by simpa using List.find?_some linked
  have stored : link ∈ db.databaseConfigUsers := List.mem_of_find?_eq_some linked
  have config : (s.config id).isSome := by
    obtain ⟨c, inside, isId⟩ := (db.references.link link stored).1
    rw [Tables.config, dropped.configs]
    exact List.find?_isSome.mpr ⟨c, inside, by simp [isId, isLink.1]⟩
  by_cases alone : HeldAlone holders db.toTables id userId
  · exact (dropConfig_removes dropped config alone).mono fun _ _ removed => iff_of_true removed alone
  · obtain ⟨c, found⟩ := Option.isSome_iff_exists.mp config
    refine ends_refusable (fun s' changed => ?_) fun e => ?_
    · simp only [found] at changed
      by_cases held : holders.hold id = true
      · rw [if_pos held] at changed
        cases changed
      · rw [if_neg held] at changed
        exact absurd (heldAlone_of_removed dropped (by simpa using held) (Except.ok.inj changed).symm) alone
    · refine iff_of_false ?_ alone
      rintro (⟨⟨⟩, -⟩ | ⟨-, -, links⟩)
      rw [← links, dropped.mem_links] at stored
      exact stored.2 isLink

/-- Only a caller who may delete the config gets to the statements. -/
theorem deleteDBConfig_cases (holders : Holders) (session : Option String) (id : String) (db : Database) :
    ((∃ e, (deleteDBConfig holders session id).run db = (.error e, db)) ∧
      ∀ user link, session.bind db.user = some user → db.link id user.id = some link → link.permissions.canDelete = false) ∨
    ∃ user link, session.bind db.user = some user ∧ db.link id user.id = some link ∧ link.permissions.canDelete = true ∧
      (deleteDBConfig holders session id).run db = (dropLink id user.id >>= fun _ => dropConfig holders id).run db := by
  rw [deleteDBConfig, run_bind, currentUser_run]
  cases known : session.bind db.user with
  | none => exact .inl ⟨⟨_, rfl⟩, by simp⟩
  | some user =>
    simp only [run_bind (checkPermissionForDbAction user.id id .delete), checkPermissionForDbAction_run]
    cases linked : db.link id user.id with
    | none =>
      refine .inl ⟨⟨_, rfl⟩, ?_⟩
      rintro _ link ⟨⟩ linked'
      rw [linked] at linked'
      cases linked'
    | some link =>
      cases allowed : link.permissions.canDelete with
      | false =>
        refine .inl ⟨⟨"User doesn't have permission to delete the database config", by simp [permissionError, allowed]⟩, ?_⟩
        rintro _ _ ⟨⟩ linked'
        cases linked.symm.trans linked'
        exact allowed
      | true => exact .inr ⟨user, link, rfl, linked, allowed, by simp [permissionError, allowed]⟩
/-- A deletion takes the config with all that refers to it, or leaves the config and the links, if and only if a caller
    who may delete the config holds it alone. -/
theorem deletion_all_or_nothing_iff (holders : Holders) (session : Option String) (id : String) (db : Database) :
    (deleteDBConfig holders session id).Ends (AllOrNothing id db) db ↔ DeletionWhole holders db.toTables session id := by
  rw [Ends]
  rcases deleteDBConfig_cases holders session id db with ⟨⟨e, stopped⟩, barred⟩ | ⟨user, link, known, linked, allowed, started⟩
  · rw [stopped]
    refine iff_of_true (.inr ⟨⟨e, rfl⟩, rfl, rfl⟩) ?_
    intro user link known linked allowed
    rw [barred user link known linked] at allowed
    cases allowed
  · rw [started]
    have whole : DeletionWhole holders db.toTables session id ↔ HeldAlone holders db.toTables id user.id := by
      constructor
      · intro whole
        exact whole user link known linked allowed
      · intro alone user' link' known' _ _
        cases known.symm.trans known'
        exact alone
    have decided : (dropLink id user.id >>= fun _ => dropConfig holders id).Ends
        (fun result s => AllOrNothing id db result s ↔ HeldAlone holders db.toTables id user.id) db := by
      refine ends_bind ((dropLink_drops (by simp [linked])).mono ?_)
      rintro _ s ⟨rfl, dropped⟩
      exact rest_of_deletion_iff linked dropped
    exact decided.trans whole.symm

end

/-- A config of which another user has a link, too. -/
def sharedConfig : Database where
  toTables := { users := [{ id := "ann", email := "ann@example.com" }, { id := "bob", email := "bob@example.com" }]
                databaseConfigs := [{ id := "prod", name := "prod", createdByUserId := "ann" }]
                databaseConfigUsers := [
                  { databaseConfigId := "prod", userId := "ann", isCurrent := true, permissions := { canDelete := true } },
                  { databaseConfigId := "prod", userId := "bob" }] }
  unique := by decide
  references := by decide

/-- The deletion of a shared config fails and takes the caller's link to it. -/
theorem shared_config_loses_caller :
    ¬ (deleteDBConfig {} (some "ann") "prod").Ends (AllOrNothing "prod" sharedConfig) sharedConfig := by
  rintro (⟨succeeded, -⟩ | ⟨-, -, links⟩)
  · exact absurd succeeded (by decide)
  · exact absurd links (by decide)

end Openlit.FailedRequests
