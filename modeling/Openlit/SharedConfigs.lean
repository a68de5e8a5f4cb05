import Openlit.Invitations
import Openlit.SharePermissions

/-!
What a user has when the configs of an organisation have been shared with them:
by `shareOrganisationDatabaseConfigs` alone, by an accepted invitation, or at a
sign-up, where the configs shared with the email come first. The loop makes the
first link that it creates current if no link in the organisation is; where
there is no link to create, none becomes current.
-/
namespace Openlit.SharedConfigs
open Openlit.Programs Openlit.Programs.Program Openlit.Text Openlit.Accounts Openlit.Organisations Openlit.DbConfigs
  Openlit.Sharing Openlit.SharePermissions Openlit.Invitations Openlit.CurrentOrganisations

/-! ### What the loop creates -/

def hasLink (links : List DatabaseConfigUser) (userId : String) (config : DatabaseConfig) : Bool :=
  links.any fun l => l.databaseConfigId = config.id ∧ l.userId = userId
/-- The new links, the first of which may become current. -/
def grants (links : List DatabaseConfigUser) (userId : String) : Bool → List DatabaseConfig → List DatabaseConfigUser
  | _, [] => []
  | first, config :: rest =>
    if hasLink links userId config then grants links userId first rest
    else { databaseConfigId := config.id, userId, isCurrent := first } :: grants links userId false rest
/-- The tables with the configs of the organisation shared. -/
def sharedWith (t : Tables) (organisationId userId : String) : Tables :=
  { t with
    databaseConfigUsers := t.databaseConfigUsers ++ grants t.databaseConfigUsers userId
      (currentLink t userId (some organisationId)).isNone (t.databaseConfigs.filter (·.organisationId = some organisationId)) }

section
variable {links : List DatabaseConfigUser} {userId : String} {first : Bool} {configs : List DatabaseConfig}
  {l : DatabaseConfigUser}

theorem link_eq_none_iff {t : Tables} {config : DatabaseConfig} :
    t.link config.id userId = none ↔ hasLink t.databaseConfigUsers userId config = false := by
  simp [Tables.link, hasLink]

theorem mem_grants (granted : l ∈ grants links userId first configs) :
    ∃ config ∈ configs, hasLink links userId config = false ∧ l.databaseConfigId = config.id ∧ l.userId = userId := by
  induction configs generalizing first with
  | nil => cases granted
  | cons config rest ih =>
    rw [grants] at granted
    split at granted
    · obtain ⟨other, inside, isOther⟩ := ih granted
      exact ⟨other, List.mem_cons_of_mem _ inside, isOther⟩
    · rename_i absent
      rcases List.mem_cons.mp granted with rfl | later
      · exact ⟨config, List.mem_cons_self, by simpa using absent, rfl, rfl⟩
      · obtain ⟨other, inside, isOther⟩ := ih later
        exact ⟨other, List.mem_cons_of_mem _ inside, isOther⟩
theorem exists_grant {config : DatabaseConfig} (inside : config ∈ configs) (absent : hasLink links userId config = false) :
    ∃ l ∈ grants links userId first configs, l.databaseConfigId = config.id ∧ l.userId = userId := by
  induction configs generalizing first with
  | nil => cases inside
  | cons head rest ih =>
    rw [grants]
    rcases List.mem_cons.mp inside with rfl | later
    · rw [if_neg (by simp [absent])]
      exact ⟨_, List.mem_cons_self, rfl, rfl⟩
    · split
      · exact ih later
      · obtain ⟨l, granted, isLink⟩ := @ih false later
        exact ⟨l, List.mem_cons_of_mem _ granted, isLink⟩
theorem grants_false (granted : l ∈ grants links userId false configs) : l.isCurrent = false := by
  induction configs with
  | nil => cases granted
  | cons config rest ih =>
    rw [grants] at granted
    split at granted
    · exact ih granted
    · rcases List.mem_cons.mp granted with rfl | later
      · rfl
      · exact ih later
/-- One new link is current, if there is any. -/
theorem grants_true : (∃! l, l ∈ grants links userId true configs ∧ l.isCurrent = true) ↔
    ∃ config ∈ configs, hasLink links userId config = false := by
  induction configs with
  | nil => simp [grants]
  | cons config rest ih =>
    rw [grants, List.exists_mem_cons_iff]
    cases absent : hasLink links userId config with
    | true => simpa using ih
    | false =>
      rw [if_neg (by simp)]
      refine ⟨fun _ => .inl rfl, fun _ => ⟨_, ⟨List.mem_cons_self, rfl⟩, ?_⟩⟩
      rintro l ⟨granted, current⟩
      rcases List.mem_cons.mp granted with same | later
      · exact same
      · rw [grants_false later] at current
        cases current
/-- A link to another config makes no difference. -/
theorem grants_append {link : DatabaseConfigUser} (apart : ∀ config ∈ configs, config.id ≠ link.databaseConfigId) :
    grants (links ++ [link]) userId first configs = grants links userId first configs := by
  induction configs generalizing first with
  | nil => rfl
  | cons config rest ih =>
    rw [List.forall_mem_cons] at apart
    have same : hasLink (links ++ [link]) userId config = hasLink links userId config := by
      simp [hasLink, Ne.symm apart.1]
    rw [grants, grants, same, ih apart.2, ih apart.2]

end

section
variable {s : Database} {userId : String} {existing : Option DatabaseConfigUser}

/-- A round for a config that has a link, and for one that gets it. -/
theorem shareConfig_has {config : DatabaseConfig} {assigned : Bool}
    (linked : hasLink s.databaseConfigUsers userId config = true) :
    (shareConfig userId existing assigned config).Ends (fun result s' => result = .ok assigned ∧ s' = s) s := by
  refine ends_read ?_
  cases found : s.link config.id userId with
  | none =>
    rw [link_eq_none_iff.mp found] at linked
    cases linked
  | some _ => exact ⟨rfl, rfl⟩
theorem shareConfig_grants {config : DatabaseConfig} {assigned : Bool} (stored : ∃ c ∈ s.databaseConfigs, c.id = config.id)
    (user : ∃ u ∈ s.users, u.id = userId) (absent : hasLink s.databaseConfigUsers userId config = false) :
    (shareConfig userId existing assigned config).Ends (fun result s' =>
      result = .ok (assigned || (existing.isNone && !assigned)) ∧ s'.toTables = { s.toTables with
        databaseConfigUsers := s.databaseConfigUsers ++ [⟨config.id, userId, existing.isNone && !assigned, {}⟩] }) s := by
  refine ends_read ?_
  rw [link_eq_none_iff.mpr absent]
  have created := @createLink_succeeds s ⟨config.id, userId, existing.isNone && !assigned, {}⟩ stored user
    (link_eq_none_iff.mpr absent)
  refine ends_bind (created.mono ?_)
  rintro _ s' ⟨rfl, tables⟩
  exact ⟨rfl, tables⟩
theorem foldEach_shareConfig {configs : List DatabaseConfig} {assigned : Bool} (user : ∃ u ∈ s.users, u.id = userId)
    (stored : ∀ config ∈ configs, ∃ c ∈ s.databaseConfigs, c.id = config.id) (distinct : (configs.map (·.id)).Nodup) :
    (foldEach (shareConfig userId existing) configs assigned).Ends (fun result s' => (∃ b, result = .ok b) ∧
      s'.toTables = { s.toTables with
        databaseConfigUsers := s.databaseConfigUsers ++
          grants s.databaseConfigUsers userId (existing.isNone && !assigned) configs }) s := by
  induction configs generalizing assigned s with
  | nil =>
    refine ⟨⟨assigned, rfl⟩, ?_⟩
    rw [grants, List.append_nil]
    rfl
  | cons config rest ih =>
    rw [List.forall_mem_cons] at stored
    obtain ⟨apart, distinct⟩ := List.nodup_cons.mp distinct
    cases linked : hasLink s.databaseConfigUsers userId config with
    | true =>
      refine ends_bind ((shareConfig_has linked).mono ?_)
      rintro _ s' ⟨rfl, rfl⟩
      simpa only [grants, linked, if_true] using ih user stored.2 distinct
    | false =>
      refine ends_bind ((shareConfig_grants stored.1 user linked).mono ?_)
      rintro _ s' ⟨rfl, tables⟩
      refine (ih (by rwa [tables]) (by rw [tables]; exact stored.2) distinct).mono ?_
      rintro result s'' ⟨succeeded, tables'⟩
      refine ⟨succeeded, ?_⟩
      have others : ∀ other ∈ rest, other.id ≠ config.id := fun other inside same =>
        apart (List.mem_map.mpr ⟨other, inside, same⟩)
      have unassigned : (existing.isNone && !(assigned || (existing.isNone && !assigned))) = false := by
        cases existing.isNone <;> cases assigned <;> rfl
      rw [tables', tables, unassigned, grants_append others, grants, if_neg (by simp [linked]), List.append_assoc]
      rfl
theorem shareOrganisationDatabaseConfigs_shares {organisationId : String} (user : ∃ u ∈ s.users, u.id = userId) :
    (shareOrganisationDatabaseConfigs organisationId userId).Ends (fun result s' => result = .ok () ∧
      s'.toTables = sharedWith s.toTables organisationId userId) s := by
  refine ends_read (ends_read (ends_bind ?_))
  refine (foldEach_shareConfig user ?_ ?_).mono ?_
  · intro config listed
    exact ⟨config, List.mem_of_mem_filter listed, rfl⟩
  · exact s.unique.configId.sublist (List.filter_sublist.map _)
  · rintro _ s' ⟨⟨b, rfl⟩, tables⟩
    refine ends_pure ⟨rfl, ?_⟩
    rw [tables, Bool.not_false, Bool.and_true]
    rfl

end

/-! ### What a share is for -/

def HasConfig (t : Tables) (organisationId : String) (config : DatabaseConfig) : Prop :=
  config ∈ t.databaseConfigs ∧ config.organisationId = some organisationId
def CurrentIn (t : Tables) (organisationId userId : String) (l : DatabaseConfigUser) : Prop :=
  l ∈ t.databaseConfigUsers ∧ l.userId = userId ∧ l.isCurrent = true ∧ t.inOrganisation l (some organisationId) = true

/-- The user has a link to each config of the organisation, one of them current. -/
structure Served (t : Tables) (organisationId userId : String) : Prop where
  linked : ∀ config, HasConfig t organisationId config → hasLink t.databaseConfigUsers userId config = true
  current : (∃ config, HasConfig t organisationId config) → ∃! l, CurrentIn t organisationId userId l
/-- The user is served, and no link permits less than before. -/
structure Right (before after : Tables) (organisationId userId : String) : Prop extends Served after organisationId userId where
  kept : ∀ l ∈ before.databaseConfigUsers, l.userId = userId → ∃ l' ∈ after.databaseConfigUsers,
    l'.databaseConfigId = l.databaseConfigId ∧ l'.userId = userId ∧ SharePermissions.Within l.permissions l'.permissions

/-- If the organisation has configs, the user has one current link there, or none and no link to one of them. -/
def Fit (t : Tables) (organisationId userId : String) : Prop :=
  (∃ config, HasConfig t organisationId config) →
    (∃! l, CurrentIn t organisationId userId l) ∨
      (∀ l, ¬CurrentIn t organisationId userId l) ∧
        ∃ config, HasConfig t organisationId config ∧ hasLink t.databaseConfigUsers userId config = false

section
variable {t : Tables} {organisationId userId : String} {l : DatabaseConfigUser}

theorem mem_sharedWith (granted : l ∈ grants t.databaseConfigUsers userId (currentLink t userId (some organisationId)).isNone
    (t.databaseConfigs.filter (·.organisationId = some organisationId))) :
    l.userId = userId ∧ t.inOrganisation l (some organisationId) = true := by
  obtain ⟨config, listed, -, isConfig, isUser⟩ := mem_grants granted
  obtain ⟨stored, ofOrganisation⟩ := List.mem_filter.mp listed
  exact ⟨isUser, (inOrganisation_iff _ _ _).mpr ⟨config, stored, isConfig.symm, by simpa using ofOrganisation⟩⟩
theorem currentIn_sharedWith_iff :
    CurrentIn (sharedWith t organisationId userId) organisationId userId l ↔
      CurrentIn t organisationId userId l ∨
        l ∈ grants t.databaseConfigUsers userId (currentLink t userId (some organisationId)).isNone
          (t.databaseConfigs.filter (·.organisationId = some organisationId)) ∧ l.isCurrent = true := by
  constructor
  · rintro ⟨inside, isUser, current, inOrg⟩
    rcases List.mem_append.mp inside with old | new
    · exact .inl ⟨old, isUser, current, inOrg⟩
    · exact .inr ⟨new, current⟩
  · rintro (⟨old, rest⟩ | ⟨new, current⟩)
    · exact ⟨List.mem_append_left _ old, rest⟩
    · obtain ⟨isUser, inOrg⟩ := mem_sharedWith new
      exact ⟨List.mem_append_right _ new, isUser, current, inOrg⟩
theorem currentLink_isNone_iff :
    (currentLink t userId (some organisationId)).isNone = true ↔ ∀ l, ¬CurrentIn t organisationId userId l := by
  rw [Option.isNone_iff_eq_none, currentLink_eq_none_iff]
  constructor
  · rintro none l ⟨inside, isUser, current, inOrg⟩
    rw [none l inside isUser current] at inOrg
    cases inOrg
  · intro none l inside isUser current
    rw [Bool.eq_false_iff]
    exact fun inOrg => none l ⟨inside, isUser, current, inOrg⟩

/-- The loop itself leaves no config without a link. -/
theorem linked_sharedWith (config : DatabaseConfig) (ofOrganisation : HasConfig t organisationId config) :
    hasLink (sharedWith t organisationId userId).databaseConfigUsers userId config = true := by
  rw [hasLink, List.any_eq_true]
  cases linked : hasLink t.databaseConfigUsers userId config with
  | true =>
    obtain ⟨l, inside, isLink⟩ := List.any_eq_true.mp linked
    exact ⟨l, List.mem_append_left _ inside, isLink⟩
  | false =>
    have listed : config ∈ t.databaseConfigs.filter (·.organisationId = some organisationId) :=
      List.mem_filter.mpr ⟨ofOrganisation.1, decide_eq_true ofOrganisation.2⟩
    obtain ⟨l, granted, isLink⟩ := exists_grant listed linked
    exact ⟨l, List.mem_append_right _ granted, by simpa using isLink⟩
theorem served_sharedWith_iff : Served (sharedWith t organisationId userId) organisationId userId ↔ Fit t organisationId userId := by
  have unlinked : (∃ config ∈ t.databaseConfigs.filter (·.organisationId = some organisationId),
      hasLink t.databaseConfigUsers userId config = false) ↔
      ∃ config, HasConfig t organisationId config ∧ hasLink t.databaseConfigUsers userId config = false := by
    simp [HasConfig]
  have current : (∃! l, CurrentIn (sharedWith t organisationId userId) organisationId userId l) ↔
      (∃! l, CurrentIn t organisationId userId l) ∨ (∀ l, ¬CurrentIn t organisationId userId l) ∧
        ∃ config, HasConfig t organisationId config ∧ hasLink t.databaseConfigUsers userId config = false := by
    simp only [currentIn_sharedWith_iff]
    cases none : (currentLink t userId (some organisationId)).isNone with
    | true =>
      have absent := currentLink_isNone_iff.mp none
      have noOne : ¬∃! _ : DatabaseConfigUser, False := fun ⟨_, impossible, _⟩ => impossible
      simp only [absent, false_or, not_false_eq_true, implies_true, true_and, grants_true, unlinked]
      exact (or_iff_right noOne).symm
    | false =>
      have some : ¬∀ l, ¬CurrentIn t organisationId userId l := by
        rw [← currentLink_isNone_iff, none]
        exact Bool.false_ne_true
      have noNew (l : DatabaseConfigUser) : ¬(l ∈ grants t.databaseConfigUsers userId false
          (t.databaseConfigs.filter (·.organisationId = Option.some organisationId)) ∧ l.isCurrent = true) := by
        rintro ⟨granted, isCurrent⟩
        rw [grants_false granted] at isCurrent
        cases isCurrent
      simp only [noNew, or_false, some, false_and]
  constructor
  · intro served configs
    exact current.mp (served.current configs)
  · intro fit
    exact ⟨@linked_sharedWith t organisationId userId, fun configs => current.mpr (fit configs)⟩

end

/-! ### One organisation beside another -/

/-- The configs are the same, and so are the user's links in the organisation. -/
structure Aside (organisationId userId : String) (t t' : Tables) : Prop where
  configs : t'.databaseConfigs = t.databaseConfigs
  links : ∀ l, l.userId = userId → t.inOrganisation l (some organisationId) = true →
    (l ∈ t'.databaseConfigUsers ↔ l ∈ t.databaseConfigUsers)

section
variable {t t' t'' : Tables} {organisationId other userId : String}

theorem aside_of_same (configs : t'.databaseConfigs = t.databaseConfigs) (links : t'.databaseConfigUsers = t.databaseConfigUsers) :
    Aside organisationId userId t t' := ⟨configs, fun l _ _ => by rw [links]⟩
theorem inOrganisation_of_configs (configs : t'.databaseConfigs = t.databaseConfigs) (l : DatabaseConfigUser) (o : Option String) :
    t'.inOrganisation l o = t.inOrganisation l o := by
  rw [Tables.inOrganisation, configs, Tables.inOrganisation]
theorem Aside.trans (first : Aside organisationId userId t t') (second : Aside organisationId userId t' t'') :
    Aside organisationId userId t t'' := by
  refine ⟨second.configs.trans first.configs, fun l isUser inOrg => ?_⟩
  rw [second.links l isUser (by rwa [inOrganisation_of_configs first.configs]), first.links l isUser inOrg]

theorem Aside.hasConfig (aside : Aside organisationId userId t t') {config : DatabaseConfig} :
    HasConfig t' organisationId config ↔ HasConfig t organisationId config := by
  rw [HasConfig, aside.configs, HasConfig]
theorem Aside.currentIn (aside : Aside organisationId userId t t') {l : DatabaseConfigUser} :
    CurrentIn t' organisationId userId l ↔ CurrentIn t organisationId userId l := by
  rw [CurrentIn, CurrentIn, inOrganisation_of_configs aside.configs]
  constructor
  · rintro ⟨inside, isUser, current, inOrg⟩
    exact ⟨(aside.links l isUser inOrg).mp inside, isUser, current, inOrg⟩
  · rintro ⟨inside, isUser, current, inOrg⟩
    exact ⟨(aside.links l isUser inOrg).mpr inside, isUser, current, inOrg⟩
theorem Aside.hasLink (aside : Aside organisationId userId t t') {config : DatabaseConfig} (ofOrg : HasConfig t organisationId config) :
    hasLink t'.databaseConfigUsers userId config = hasLink t.databaseConfigUsers userId config := by
  have inOrg {l : DatabaseConfigUser} (isConfig : l.databaseConfigId = config.id) : t.inOrganisation l (some organisationId) = true :=
    (inOrganisation_iff _ _ _).mpr ⟨config, ofOrg.1, isConfig.symm, ofOrg.2⟩
  rw [Bool.eq_iff_iff]
  simp only [SharedConfigs.hasLink, List.any_eq_true, decide_eq_true_iff]
  constructor
  · rintro ⟨l, inside, isConfig, isUser⟩
    exact ⟨l, (aside.links l isUser (inOrg isConfig)).mp inside, isConfig, isUser⟩
  · rintro ⟨l, inside, isConfig, isUser⟩
    exact ⟨l, (aside.links l isUser (inOrg isConfig)).mpr inside, isConfig, isUser⟩
theorem Aside.served_iff (aside : Aside organisationId userId t t') :
    Served t' organisationId userId ↔ Served t organisationId userId := by
  constructor
  · rintro ⟨linked, current⟩
    refine ⟨fun config ofOrg => ?_, ?_⟩
    · rw [← aside.hasLink ofOrg]
      exact linked config (aside.hasConfig.mpr ofOrg)
    · simpa only [aside.hasConfig, aside.currentIn] using current
  · rintro ⟨linked, current⟩
    refine ⟨fun config ofOrg => ?_, ?_⟩
    · rw [aside.hasLink (aside.hasConfig.mp ofOrg)]
      exact linked config (aside.hasConfig.mp ofOrg)
    · simpa only [aside.hasConfig, aside.currentIn] using current
theorem Aside.fit_iff (aside : Aside organisationId userId t t') : Fit t' organisationId userId ↔ Fit t organisationId userId := by
  have unlinked : (∃ config, HasConfig t organisationId config ∧ SharedConfigs.hasLink t'.databaseConfigUsers userId config = false) ↔
      ∃ config, HasConfig t organisationId config ∧ SharedConfigs.hasLink t.databaseConfigUsers userId config = false := by
    refine exists_congr fun config => and_congr_right fun ofOrg => ?_
    rw [aside.hasLink ofOrg]
  simp only [Fit, aside.hasConfig, aside.currentIn, unlinked]

/-- A share is aside from every other organisation. -/
theorem aside_sharedWith (ids : (t.databaseConfigs.map (·.id)).Nodup) (apart : organisationId ≠ other) :
    Aside organisationId userId t (sharedWith t other userId) := by
  refine ⟨rfl, fun l _ inOrg => ?_⟩
  rw [sharedWith, List.mem_append, or_iff_left]
  intro granted
  obtain ⟨c, member, isId, isOrg⟩ := (inOrganisation_iff _ _ _).mp inOrg
  obtain ⟨c', member', isId', isOrg'⟩ := (inOrganisation_iff _ _ _).mp (mem_sharedWith granted).2
  rw [List.inj_on_of_nodup_map ids member member' (isId.trans isId'.symm), isOrg'] at isOrg
  exact apart (Option.some.inj isOrg).symm

/-- The tables with the configs of several organisations shared one after the other. -/
def sharedWithAll (t : Tables) (userId : String) (organisationIds : List String) : Tables :=
  organisationIds.foldl (fun t organisationId => sharedWith t organisationId userId) t

theorem aside_sharedWithAll {organisationIds : List String} (ids : (t.databaseConfigs.map (·.id)).Nodup)
    (apart : organisationId ∉ organisationIds) : Aside organisationId userId t (sharedWithAll t userId organisationIds) := by
  induction organisationIds generalizing t with
  | nil => exact aside_of_same rfl rfl
  | cons first rest ih =>
    rw [List.mem_cons, not_or] at apart
    exact (aside_sharedWith ids apart.1).trans (ih ids apart.2)
/-- Each of them is served if it fits before the first of them. -/
theorem served_sharedWithAll_iff {organisationIds : List String} (ids : (t.databaseConfigs.map (·.id)).Nodup)
    (distinct : organisationIds.Nodup) (member : organisationId ∈ organisationIds) :
    Served (sharedWithAll t userId organisationIds) organisationId userId ↔ Fit t organisationId userId := by
  induction organisationIds generalizing t with
  | nil => cases member
  | cons first rest ih =>
    obtain ⟨apart, distinct⟩ := List.nodup_cons.mp distinct
    have later : sharedWithAll t userId (first :: rest) = sharedWithAll (sharedWith t first userId) userId rest := rfl
    rw [later]
    rcases List.mem_cons.mp member with rfl | inside
    · have aside : Aside organisationId userId (sharedWith t organisationId userId)
          (sharedWithAll (sharedWith t organisationId userId) userId rest) := aside_sharedWithAll ids apart
      rw [aside.served_iff, served_sharedWith_iff]
    · have different : organisationId ≠ first := by
        rintro rfl
        exact apart inside
      rw [@ih (sharedWith t first userId) ids distinct inside, (aside_sharedWith ids different).fit_iff]

theorem subset_sharedWithAll (organisationIds : List String) :
    t.databaseConfigUsers ⊆ (sharedWithAll t userId organisationIds).databaseConfigUsers := by
  induction organisationIds generalizing t with
  | nil => exact List.Subset.refl _
  | cons first rest ih => exact List.Subset.trans (List.subset_append_left _ _) (@ih (sharedWith t first userId))

end

/-! ### Invitations and sign-up -/

def inviteLink (userId : String) (invite : DatabaseConfigInvitedUser) : DatabaseConfigUser :=
  { databaseConfigId := invite.databaseConfigId, userId, permissions := invite.permissions }
/-- The links that a new user gets for the configs shared with the email, the first of them current. -/
def pendingLinks (t : Tables) (email userId : String) : List DatabaseConfigUser :=
  match t.databaseConfigInvitedUsers.filter (·.email = email) with
  | [] => []
  | first :: rest => { inviteLink userId first with isCurrent := true } :: rest.map (inviteLink userId)
def withPending (t : Tables) (email userId : String) : Tables :=
  { t with databaseConfigUsers := t.databaseConfigUsers ++ pendingLinks t email userId }

section
variable {s : Database} {email userId : String}

/-- Where pairs are distinct, one side is among those with the same other side. -/
theorem nodup_of_pairs {α : Type} {items : List α} {one other : α → String}
    (pairs : (items.map fun a => (one a, other a)).Nodup) (b : String) : ((items.filter (other · = b)).map one).Nodup := by
  have kept : ((items.filter (other · = b)).map fun a => (one a, other a)).Nodup := pairs.sublist (List.filter_sublist.map _)
  have same : ((items.filter (other · = b)).map fun a => (one a, other a)) = ((items.filter (other · = b)).map one).map (·, b) := by
    rw [List.map_map]
    refine List.map_congr_left fun a listed => ?_
    rw [Function.comp_apply, show other a = b by simpa using (List.mem_filter.mp listed).2]
  exact (same ▸ kept).of_map
theorem createLinks_succeeds (user : ∃ u ∈ s.users, u.id = userId) (unlinked : ∀ l ∈ s.databaseConfigUsers, l.userId ≠ userId) :
    (createLinks ((s.databaseConfigInvitedUsers.filter (·.email = email)).map (inviteLink userId))).Ends
      (fun result s' => result = .ok () ∧ s'.toTables = { s.toTables with
        databaseConfigUsers := s.databaseConfigUsers ++
          (s.databaseConfigInvitedUsers.filter (·.email = email)).map (inviteLink userId) }) s := by
  refine ends_valid { s.unique with link := ?_ } { s.references with link := fun l inside => ?_ } fun s' tables => ⟨rfl, tables⟩
  · have keys : ((s.databaseConfigInvitedUsers.filter (·.email = email)).map fun i => (i.databaseConfigId, userId)).Nodup := by
      have paired := (nodup_of_pairs s.unique.invite email).map fun (a b : String) (same : (a, userId) = (b, userId)) =>
        (Prod.mk.inj same).1
      rwa [List.map_map] at paired
    rw [List.map_append, List.map_map, List.nodup_append]
    refine ⟨s.unique.link, keys, ?_⟩
    rintro _ old _ new rfl
    obtain ⟨l, inside, isKey⟩ := List.mem_map.mp old
    obtain ⟨invite, -, isKey'⟩ := List.mem_map.mp new
    exact unlinked l inside (Prod.mk.inj (isKey.trans isKey'.symm)).2
  · rcases List.mem_append.mp inside with old | new
    · exact s.references.link l old
    · obtain ⟨invite, listed, rfl⟩ := List.mem_map.mp new
      exact ⟨s.references.invite invite (List.mem_of_mem_filter listed), user⟩
/-- A change of the first of the new links alone. -/
theorem map_first_link {links : List DatabaseConfigUser} {first : DatabaseConfigInvitedUser} {rest : List DatabaseConfigInvitedUser}
    (unlinked : ∀ l ∈ links, l.userId ≠ userId) (distinct : ((first :: rest).map (·.databaseConfigId)).Nodup)
    {f : DatabaseConfigUser → DatabaseConfigUser}
    (isOther : ∀ l, ¬(l.databaseConfigId = first.databaseConfigId ∧ l.userId = userId) → f l = l) :
    (links ++ (first :: rest).map (inviteLink userId)).map f =
      links ++ f (inviteLink userId first) :: rest.map (inviteLink userId) := by
  have kept : links.map f = links.map id := List.map_congr_left fun l inside => isOther l fun same => unlinked l inside same.2
  have others : (rest.map (inviteLink userId)).map f = (rest.map (inviteLink userId)).map id := by
    refine List.map_congr_left fun l inside => isOther l fun same => ?_
    obtain ⟨invite, listed, rfl⟩ := List.mem_map.mp inside
    exact (List.nodup_cons.mp distinct).1 (List.mem_map.mpr ⟨invite, listed, same.1⟩)
  rw [List.map_append, List.map_cons, List.map_cons, kept, others, List.map_id, List.map_id]
/-- A user without links gets those of the invites. -/
theorem moveSharedDBConfigToDBUser_moves (user : ∃ u ∈ s.users, u.id = userId)
    (unlinked : ∀ l ∈ s.databaseConfigUsers, l.userId ≠ userId) :
    (moveSharedDBConfigToDBUser email userId).Ends (fun result s' => result = .ok () ∧
      s'.toTables = withPending s.toTables email userId) s := by
  have created := @createLinks_succeeds s email userId user unlinked
  have distinct := nodup_of_pairs s.unique.invite email
  refine ends_read ?_
  rw [withPending, pendingLinks]
  cases pending : s.databaseConfigInvitedUsers.filter (·.email = email) with
  | nil =>
    rw [List.append_nil]
    exact ⟨rfl, rfl⟩
  | cons first rest =>
    rw [pending] at created distinct
    rw [if_neg (List.cons_ne_nil _ _)]
    refine ends_bind (ends_attempt (created.mono ?_))
    rintro _ s₁ ⟨rfl, tables⟩
    have links : s₁.databaseConfigUsers = s.databaseConfigUsers ++ (first :: rest).map (inviteLink userId) := by rw [tables]
    -- none of the new links is current
    have noCurrent : s₁.databaseConfigUsers.filter (fun l => l.userId = userId ∧ l.isCurrent) = [] := by
      rw [links, List.filter_append, List.append_eq_nil_iff, List.filter_eq_nil_iff, List.filter_eq_nil_iff]
      refine ⟨fun l inside => by simp [unlinked l inside], fun l inside => ?_⟩
      obtain ⟨invite, -, rfl⟩ := List.mem_map.mp inside
      simp [inviteLink]
    have found : s₁.databaseConfigUsers.find? (·.userId = userId) = some (inviteLink userId first) := by
      rw [links, List.find?_append, List.find?_eq_none.mpr fun l inside => by simpa using unlinked l inside]
      simp [inviteLink]
    refine ends_read ?_
    rw [noCurrent, if_neg (by simp)]
    refine ends_read ?_
    rw [found]
    have stored : inviteLink userId first ∈ s₁.databaseConfigUsers := List.mem_of_find?_eq_some found
    refine (updateLink_succeeds stored true).mono ?_
    rintro _ s' ⟨rfl, tables'⟩
    refine ⟨rfl, ?_⟩
    have marked := @map_first_link userId s.databaseConfigUsers first rest unlinked distinct
      (fun l => if l.databaseConfigId = (inviteLink userId first).databaseConfigId ∧
        l.userId = (inviteLink userId first).userId then { l with isCurrent := true } else l) fun l other => if_neg other
    rw [if_pos ⟨rfl, rfl⟩] at marked
    rw [tables', links, marked, tables]

end

/-- A user joins by an invitation. -/
structure Joined (organisationIds : List String) (userId : String) (s s' : Database) : Prop where
  users : s'.users = s.users
  configs : s'.databaseConfigs = s.databaseConfigs
  links : s'.databaseConfigUsers = (sharedWithAll s.toTables userId organisationIds).databaseConfigUsers

theorem sharedWithAll_configs (t : Tables) (userId : String) (organisationIds : List String) :
    (sharedWithAll t userId organisationIds).databaseConfigs = t.databaseConfigs := by
  induction organisationIds generalizing t with
  | nil => rfl
  | cons first rest ih => exact ih (sharedWith t first userId)
/-- What is shared depends on the configs and links alone. -/
theorem sharedWithAll_links {t t' : Tables} (configs : t'.databaseConfigs = t.databaseConfigs)
    (links : t'.databaseConfigUsers = t.databaseConfigUsers) (userId : String) (organisationIds : List String) :
    (sharedWithAll t' userId organisationIds).databaseConfigUsers = (sharedWithAll t userId organisationIds).databaseConfigUsers := by
  induction organisationIds generalizing t t' with
  | nil => exact links
  | cons first rest ih =>
    refine @ih (sharedWith t first userId) (sharedWith t' first userId) configs ?_
    have current : currentLink t' userId (some first) = currentLink t userId (some first) := by
      rw [currentLink, currentLink, links]
      simp only [inOrganisation_of_configs configs]
    rw [sharedWith, sharedWith, configs, links, current]

section
variable {s : Database} {userId : String}

theorem joinByInvitation_joins {invitation : OrganisationInvitedUser} (user : ∃ u ∈ s.users, u.id = userId) :
    (joinByInvitation invitation userId).Ends (fun result s' => result = .ok () →
      Joined [invitation.organisationId] userId s s') s := by
  refine ends_bind (ends_write (fun s₁ tables => ?_) (by simp))
  have user₁ : ∃ u ∈ s₁.users, u.id = userId := by rwa [tables]
  refine ends_bind ((shareOrganisationDatabaseConfigs_shares user₁).mono ?_)
  rintro _ s₂ ⟨rfl, shared⟩
  refine ends_refusable (fun s₃ deleted _ => ?_) (by simp)
  split at deleted
  · have tables₃ := (Except.ok.inj deleted).symm
    refine ⟨by rw [tables₃, shared, sharedWith, tables], by rw [tables₃, shared, sharedWith, tables], ?_⟩
    rw [tables₃, shared]
    exact sharedWithAll_links (by rw [tables]) (by rw [tables]) userId [invitation.organisationId]
  · cases deleted
theorem joinAll_joins {invitations : List OrganisationInvitedUser} (user : ∃ u ∈ s.users, u.id = userId) :
    (foldEach (fun _ invitation => joinByInvitation invitation userId) invitations ()).Ends (fun result s' => result = .ok () →
      Joined (invitations.map (·.organisationId)) userId s s') s := by
  induction invitations generalizing s with
  | nil => exact fun _ => ⟨rfl, rfl, rfl⟩
  | cons invitation rest ih =>
    refine ends_bind ((joinByInvitation_joins user).mono fun result s₁ joined => ?_)
    cases result with
    | error e => simp
    | ok _ =>
      have first := joined rfl
      refine (ih (by rwa [first.users])).mono fun result s₂ rejoined succeeded => ?_
      have others := rejoined succeeded
      refine ⟨others.users.trans first.users, others.configs.trans first.configs, ?_⟩
      rw [others.links]
      exact @sharedWithAll_links (sharedWith s.toTables invitation.organisationId userId) s₁.toTables first.configs first.links
        userId _

variable [CaseFolding]

theorem moveToNewUser_shares {email : String} (normal : normalizeEmail email = email) (user : ∃ u ∈ s.users, u.id = userId)
    (absent : ∀ m ∈ s.organisationUsers, m.userId ≠ userId) (unlinked : ∀ l ∈ s.databaseConfigUsers, l.userId ≠ userId) :
    (moveToNewUser email userId).Ends (fun result s' => result = .ok () ∧ s'.databaseConfigs = s.databaseConfigs ∧
      s'.databaseConfigUsers = (sharedWithAll (withPending s.toTables email userId) userId
        ((s.organisationInvitedUsers.filter (·.email = email)).map (·.organisationId))).databaseConfigUsers) s := by
  have shares : (moveToNewUser email userId).Ends (fun result s' => result = .ok () → s'.databaseConfigs = s.databaseConfigs ∧
      s'.databaseConfigUsers = (sharedWithAll (withPending s.toTables email userId) userId
        ((s.organisationInvitedUsers.filter (·.email = email)).map (·.organisationId))).databaseConfigUsers) s := by
    refine ends_bind ((moveSharedDBConfigToDBUser_moves user unlinked).mono ?_)
    rintro _ s₁ ⟨rfl, tables⟩
    refine ends_read ?_
    have user₁ : ∃ u ∈ s₁.users, u.id = userId := by rwa [tables]
    refine (joinAll_joins user₁).mono fun result s' joined succeeded => ?_
    obtain ⟨-, configs, links⟩ := joined succeeded
    rw [configs, links, normal, tables]
    exact ⟨rfl, rfl⟩
  refine ((moveToNewUser_succeeds normal user absent).and shares).mono ?_
  rintro _ s' ⟨⟨rfl, -⟩, shared⟩
  exact ⟨rfl, shared rfl⟩

variable [Ids]

omit [CaseFolding] in
theorem createUser_succeeds {email : String} (unknown : ∀ u ∈ s.users, u.email ≠ email) :
    (createUser email).Ends (fun result s' => result = .ok { id := signUpId s.toTables, email } ∧
      s'.toTables = { s.toTables with users := s.users ++ [{ id := signUpId s.toTables, email }] }) s := by
  have known {id : String} (user : ∃ u ∈ s.users, u.id = id) :
      ∃ u ∈ s.users ++ [{ id := signUpId s.toTables, email }], u.id = id := by
    obtain ⟨u, inside, isUser⟩ := user
    exact ⟨u, List.mem_append_left _ inside, isUser⟩
  refine ends_inserted rfl { s.unique with userId := ?_, userEmail := ?_ } ?_ fun s' tables => ⟨rfl, tables⟩
  · rw [List.map_append, List.nodup_append_comm]
    exact List.nodup_cons.mpr ⟨Ids.newId_new _, s.unique.userId⟩
  · rw [List.map_append, List.nodup_append_comm]
    refine List.nodup_cons.mpr ⟨fun taken => ?_, s.unique.userEmail⟩
    obtain ⟨u, inside, isEmail⟩ := List.mem_map.mp taken
    exact unknown u inside isEmail
  · exact { member := fun m inside => ⟨(s.references.member m inside).1, known (s.references.member m inside).2⟩
            invitation := s.references.invitation
            config := fun c inside => ⟨(s.references.config c inside).1, known (s.references.config c inside).2⟩
            link := fun l inside => ⟨(s.references.link l inside).1, known (s.references.link l inside).2⟩
            invite := s.references.invite }

end

/-! ### Who is served -/

section
variable [CaseFolding] [Ids]

/-- The ways in which the configs of an organisation are shared with a user, with the tables when
    the share begins and when all is done. A sign-up moves the configs shared with the email first. -/
inductive Shared (db : Database) : (organisationId userId : String) → (before after : Tables) → Prop
  | direct {organisationId userId : String} (user : ∃ u ∈ db.users, u.id = userId) :
    Shared db organisationId userId db.toTables ((shareOrganisationDatabaseConfigs organisationId userId).run db).2.toTables
  | accepted {session : Option String} {invitationId : String} {user : User} {invitation : OrganisationInvitedUser}
    (known : session.bind db.user = some user)
    (found : db.organisationInvitedUsers.find? (·.id = invitationId) = some invitation)
    (addressed : normalizeEmail invitation.email = normalizeEmail user.email)
    (absent : db.membership invitation.organisationId user.id = none) :
    Shared db invitation.organisationId user.id db.toTables ((acceptInvitation session invitationId).run db).2.toTables
  | signedUp {email : String} {invitation : OrganisationInvitedUser} (unknown : ∀ u ∈ db.users, u.email ≠ normalizeEmail email)
    (pending : invitation ∈ db.organisationInvitedUsers) (addressed : invitation.email = normalizeEmail email) :
    Shared db invitation.organisationId (signUpId db.toTables)
      (withPending db.toTables (normalizeEmail email) (signUpId db.toTables)) ((createNewUser email).run db).2.toTables
  | signedIn {email : String} {invitation : OrganisationInvitedUser} (unknown : ∀ u ∈ db.users, u.email ≠ normalizeEmail email)
    (pending : invitation ∈ db.organisationInvitedUsers) (addressed : invitation.email = normalizeEmail email)
    (named : email ≠ "" ∧ normalizeEmail email ≠ "") :
    Shared db invitation.organisationId (signUpId db.toTables)
      (withPending db.toTables (normalizeEmail email) (signUpId db.toTables)) ((signInByProvider email).run db).2.toTables

/-- Before and after, what each of the ways has in common. -/
structure Spread (organisationId userId : String) (before after : Tables) (organisationIds : List String) : Prop where
  ids : (before.databaseConfigs.map (·.id)).Nodup
  distinct : organisationIds.Nodup
  member : organisationId ∈ organisationIds
  configs : after.databaseConfigs = before.databaseConfigs
  links : after.databaseConfigUsers = (sharedWithAll before userId organisationIds).databaseConfigUsers

omit [CaseFolding] [Ids] in
theorem Spread.right_iff {organisationId userId : String} {before after : Tables} {organisationIds : List String}
    (spread : Spread organisationId userId before after organisationIds) :
    Right before after organisationId userId ↔ Fit before organisationId userId := by
  have same : Aside organisationId userId (sharedWithAll before userId organisationIds) after :=
    aside_of_same (by rw [spread.configs, sharedWithAll_configs]) spread.links
  rw [← served_sharedWithAll_iff spread.ids spread.distinct spread.member, ← same.served_iff]
  refine ⟨fun right => right.toServed, fun served => ⟨served, fun l inside isUser => ?_⟩⟩
  have later : l ∈ after.databaseConfigUsers := spread.links ▸ subset_sharedWithAll organisationIds inside
  exact ⟨l, later, rfl, isUser, fun bit => bit, fun bit => bit, fun bit => bit⟩

variable {db : Database} {organisationId userId : String} {before after : Tables}

omit [CaseFolding] in
/-- A new user has no links and no memberships. -/
theorem signUpId_new (db : Database) : (∀ l ∈ db.databaseConfigUsers, l.userId ≠ signUpId db.toTables) ∧
    ∀ m ∈ db.organisationUsers, m.userId ≠ signUpId db.toTables := by
  have fresh {id : String} (user : ∃ u ∈ db.users, u.id = id) : id ≠ signUpId db.toTables := by
    obtain ⟨u, inside, isUser⟩ := user
    rintro rfl
    exact Ids.newId_new _ (List.mem_map.mpr ⟨u, inside, isUser⟩)
  exact ⟨fun l inside => fresh (db.references.link l inside).2, fun m inside => fresh (db.references.member m inside).2⟩
/-- The new user has the configs shared with the email and those of every inviting organisation. -/
def SharesInvited (email : String) (db s : Database) : Prop :=
  s.databaseConfigs = db.databaseConfigs ∧
    s.databaseConfigUsers = (sharedWithAll (withPending db.toTables email (signUpId db.toTables)) (signUpId db.toTables)
      ((db.organisationInvitedUsers.filter (·.email = email)).map (·.organisationId))).databaseConfigUsers

/-- What both ways to sign up do after the new user is stored. -/
theorem newUser_shares {email : String} {s : Database} (normal : normalizeEmail email = email)
    (tables : s.toTables = { db.toTables with users := db.users ++ [{ id := signUpId db.toTables, email }] }) :
    (moveToNewUser email (signUpId db.toTables)).Ends (fun result s' => result = .ok () ∧ SharesInvited email db s') s := by
  obtain ⟨unlinked, absent⟩ := signUpId_new db
  have moved := @moveToNewUser_shares s (signUpId db.toTables) _ email normal (by rw [tables]; simp) (by rwa [tables])
    (by rwa [tables])
  refine moved.mono ?_
  rintro _ s' ⟨rfl, configs, links⟩
  refine ⟨rfl, by rw [configs, tables], ?_⟩
  have invitations : s.organisationInvitedUsers = db.organisationInvitedUsers := by rw [tables]
  rw [links, invitations]
  refine @sharedWithAll_links (withPending db.toTables email _) (withPending s.toTables email _) ?_ ?_ _ _
  · rw [withPending, withPending, tables]
  · rw [withPending, withPending, pendingLinks, pendingLinks, tables]
theorem createNewUser_shares {email : String} (unknown : ∀ u ∈ db.users, u.email ≠ normalizeEmail email) :
    (createNewUser email).Ends (fun _ s' => SharesInvited (normalizeEmail email) db s') db := by
  refine ends_read (ends_throwIfError (fun taken => ?_) fun _ => ends_bind ((createUser_succeeds unknown).mono ?_))
  · obtain ⟨u, found⟩ := Option.isSome_iff_exists.mp taken
    have same := List.find?_some found
    rw [decide_eq_true_iff, normalizeEmail_normalizeEmail] at same
    exact absurd same.2 (unknown u (List.mem_of_find?_eq_some found))
  · rintro _ s ⟨rfl, tables⟩
    refine ends_bind ((newUser_shares (normalizeEmail_normalizeEmail email) tables).mono ?_)
    rintro _ s' ⟨rfl, moved⟩
    exact moved
theorem signInByProvider_shares {email : String} (unknown : ∀ u ∈ db.users, u.email ≠ normalizeEmail email)
    (named : email ≠ "" ∧ normalizeEmail email ≠ "") :
    (signInByProvider email).Ends (fun _ s' => SharesInvited (normalizeEmail email) db s') db := by
  refine ends_throwIfError (fun empty => absurd (by simpa using empty) named.1) fun _ => ?_
  refine ends_bind ((createUser_succeeds unknown).mono ?_)
  rintro _ s ⟨rfl, tables⟩
  have goesOn : ¬(normalizeEmail email = "" ∨ signUpId db.toTables = "") := by
    rintro (empty | empty)
    · exact named.2 empty
    · exact Ids.newId_ne_empty _ empty
  refine ends_bind ?_
  rw [createUserEvent, if_neg goesOn, normalizeEmail_normalizeEmail]
  refine ends_bind (ends_attempt ((newUser_shares (normalizeEmail_normalizeEmail email) tables).mono ?_))
  rintro _ s' ⟨rfl, moved⟩
  exact moved
omit [Ids] in
theorem acceptInvitation_joins {session : Option String} {invitationId : String} {user : User} {invitation : OrganisationInvitedUser}
    (known : session.bind db.user = some user) (found : db.organisationInvitedUsers.find? (·.id = invitationId) = some invitation)
    (addressed : normalizeEmail invitation.email = normalizeEmail user.email)
    (absent : db.membership invitation.organisationId user.id = none) :
    (acceptInvitation session invitationId).Ends (fun _ s' => Joined [invitation.organisationId] user.id db s') db := by
  have stored : invitation ∈ db.organisationInvitedUsers := List.mem_of_find?_eq_some found
  have isUser : ∃ u ∈ db.users, u.id = user.id := by
    obtain ⟨id, -, looked⟩ := Option.bind_eq_some_iff.mp known
    exact ⟨user, List.mem_of_find?_eq_some looked, rfl⟩
  have noMember : ∀ m ∈ db.organisationUsers, ¬(m.organisationId = invitation.organisationId ∧ m.userId = user.id) := by
    simpa [Tables.membership] using absent
  refine ends_knownUser known (ends_read ?_)
  rw [found]
  refine ends_throwIfError (fun other => absurd addressed (by simpa using other)) fun _ => ?_
  refine ((joinByInvitation_succeeds stored isUser noMember).and (joinByInvitation_joins isUser)).mono ?_
  rintro _ s' ⟨⟨rfl, -⟩, joined⟩
  exact joined rfl

omit [CaseFolding] in
theorem spread_of_invited {email : String} {invitation : OrganisationInvitedUser} {s : Database}
    (pending : invitation ∈ db.organisationInvitedUsers) (addressed : invitation.email = email) (shares : SharesInvited email db s) :
    ∃ organisationIds, Spread invitation.organisationId (signUpId db.toTables)
      (withPending db.toTables email (signUpId db.toTables)) s.toTables organisationIds :=
  ⟨_, db.unique.configId, nodup_of_pairs db.unique.invitation _,
    List.mem_map.mpr ⟨invitation, List.mem_filter.mpr ⟨pending, decide_eq_true addressed⟩, rfl⟩, shares.1, shares.2⟩
theorem Shared.spread (shared : Shared db organisationId userId before after) :
    ∃ organisationIds, Spread organisationId userId before after organisationIds := by
  cases shared with
  | direct user =>
    have ended := @shareOrganisationDatabaseConfigs_shares db userId organisationId user
    exact ⟨[organisationId], db.unique.configId, List.nodup_singleton _, List.mem_singleton_self _, by rw [ended.2]; rfl,
      by rw [ended.2]; rfl⟩
  | accepted known found addressed absent =>
    have ended := acceptInvitation_joins known found addressed absent
    exact ⟨_, db.unique.configId, List.nodup_singleton _, List.mem_singleton_self _, ended.configs, ended.links⟩
  | signedUp unknown pending addressed => exact spread_of_invited pending addressed (createNewUser_shares unknown)
  | signedIn unknown pending addressed named => exact spread_of_invited pending addressed (signInByProvider_shares unknown named)

/-- The user is served without a loss if one link in the organisation is current when the share
    begins, or if none is and there is one to create. -/
theorem Shared.serves_iff (shared : Shared db organisationId userId before after) :
    Right before after organisationId userId ↔ Fit before organisationId userId := by
  obtain ⟨organisationIds, spread⟩ := shared.spread
  exact spread.right_iff

section
variable {t : Tables} {email : String} (unlinked : ∀ l ∈ t.databaseConfigUsers, l.userId ≠ userId)
include unlinked

omit [CaseFolding] [Ids] in
/-- The current link of a new user is the one to the first config shared with the email. -/
theorem currentIn_withPending_iff (l : DatabaseConfigUser) :
    CurrentIn (withPending t email userId) organisationId userId l ↔
      ∃ first, (t.databaseConfigInvitedUsers.filter (·.email = email)).head? = some first ∧
        l = { inviteLink userId first with isCurrent := true } ∧
        ∃ config, HasConfig t organisationId config ∧ config.id = first.databaseConfigId := by
  simp only [CurrentIn, withPending, pendingLinks, List.mem_append, inOrganisation_iff]
  cases t.databaseConfigInvitedUsers.filter (·.email = email) with
  | nil =>
    simp only [List.not_mem_nil, or_false, List.head?_nil, reduceCtorEq, false_and, exists_false, iff_false]
    rintro ⟨old, isUser, -⟩
    exact unlinked l old isUser
  | cons first rest =>
    simp only [List.head?_cons, Option.some.injEq, exists_eq_left', List.mem_cons, List.mem_map, HasConfig]
    constructor
    · rintro ⟨old | rfl | ⟨invite, -, rfl⟩, isUser, isCurrent, c, known, isId, isOrg⟩
      · exact absurd isUser (unlinked l old)
      · exact ⟨rfl, c, ⟨known, isOrg⟩, isId⟩
      · cases isCurrent
    · rintro ⟨rfl, c, ⟨known, isOrg⟩, isId⟩
      exact ⟨.inr (.inl rfl), rfl, rfl, c, known, isId, isOrg⟩
omit [CaseFolding] [Ids] in
theorem existsUnique_current_withPending_iff : (∃! l, CurrentIn (withPending t email userId) organisationId userId l) ↔
    ∃ first config, (t.databaseConfigInvitedUsers.filter (·.email = email)).head? = some first ∧
      HasConfig t organisationId config ∧ config.id = first.databaseConfigId := by
  constructor
  · rintro ⟨l, isCurrent, -⟩
    obtain ⟨first, isFirst, -, config, ofOrg, isId⟩ := (currentIn_withPending_iff unlinked l).mp isCurrent
    exact ⟨first, config, isFirst, ofOrg, isId⟩
  · rintro ⟨first, config, isFirst, ofOrg, isId⟩
    refine ⟨_, (currentIn_withPending_iff unlinked _).mpr ⟨first, isFirst, rfl, config, ofOrg, isId⟩, fun l isCurrent => ?_⟩
    obtain ⟨other, isOther, rfl, -⟩ := (currentIn_withPending_iff unlinked l).mp isCurrent
    rw [Option.some.inj (isOther.symm.trans isFirst)]
omit [CaseFolding] [Ids] in
theorem hasLink_withPending_iff (config : DatabaseConfig) :
    hasLink (withPending t email userId).databaseConfigUsers userId config = false ↔
      ∀ invite ∈ t.databaseConfigInvitedUsers, invite.email = email → invite.databaseConfigId ≠ config.id := by
  have keys : (pendingLinks t email userId).map (fun l => (l.databaseConfigId, l.userId)) =
      (t.databaseConfigInvitedUsers.filter (·.email = email)).map fun invite => (invite.databaseConfigId, userId) := by
    rw [pendingLinks]
    cases t.databaseConfigInvitedUsers.filter (·.email = email) <;> simp [inviteLink]
  have noOld : (config.id, userId) ∉ t.databaseConfigUsers.map fun l => (l.databaseConfigId, l.userId) := by
    intro member
    obtain ⟨l, inside, isKey⟩ := List.mem_map.mp member
    exact unlinked l inside (Prod.mk.inj isKey).2
  have byKey : hasLink (withPending t email userId).databaseConfigUsers userId config = false ↔
      (config.id, userId) ∉ (withPending t email userId).databaseConfigUsers.map fun l => (l.databaseConfigId, l.userId) := by
    simp [hasLink]
  rw [byKey, withPending, List.map_append, List.mem_append, or_iff_right noOld, keys]
  simp

omit [CaseFolding] [Ids] in
/-- At a sign-up the first of the configs shared with the email has to be one of the organisation,
    or one of the organisation's must not be among them. -/
theorem fit_withPending_iff :
    Fit (withPending t email userId) organisationId userId ↔ ((∃ config, HasConfig t organisationId config) →
      (∃ first config, (t.databaseConfigInvitedUsers.filter (·.email = email)).head? = some first ∧
        HasConfig t organisationId config ∧ config.id = first.databaseConfigId) ∨
      ∃ config, HasConfig t organisationId config ∧
        ∀ invite ∈ t.databaseConfigInvitedUsers, invite.email = email → invite.databaseConfigId ≠ config.id) := by
  have absent : (∀ l, ¬CurrentIn (withPending t email userId) organisationId userId l) ↔
      ¬∃! l, CurrentIn (withPending t email userId) organisationId userId l := by
    constructor
    · rintro none ⟨l, isCurrent, -⟩
      exact none l isCurrent
    · intro none l isCurrent
      obtain ⟨first, isFirst, -, config, ofOrg, isId⟩ := (currentIn_withPending_iff unlinked l).mp isCurrent
      exact none ((existsUnique_current_withPending_iff unlinked).mpr ⟨first, config, isFirst, ofOrg, isId⟩)
  rw [Fit, absent, existsUnique_current_withPending_iff unlinked]
  simp only [hasLink_withPending_iff unlinked]
  refine imp_congr Iff.rfl ?_
  rw [or_and_left, and_iff_right (em _)]
  exact Iff.rfl

end

def sampleUser : User := { id := "ann", email := "ann@example.com" }
/-- Two organisations with one config each; both configs are shared with an email, which is invited to the second. -/
def sampleTables : Tables where
  users := [sampleUser]
  organisations := [⟨"a", "A", "a-1", "ann"⟩, ⟨"b", "B", "b-1", "ann"⟩]
  organisationInvitedUsers := [⟨"i", "b", "bob@example.com", "ann"⟩]
  databaseConfigs := [{ id := "ca", name := "main", createdByUserId := "ann", organisationId := some "a" },
    { id := "cb", name := "main", createdByUserId := "ann", organisationId := some "b" }]
  databaseConfigInvitedUsers := [{ databaseConfigId := "ca", email := "bob@example.com" },
    { databaseConfigId := "cb", email := "bob@example.com" }]
def sampleDatabase : Database := ⟨sampleTables, by decide, by decide⟩

omit [CaseFolding] [Ids] in
theorem serves_sample :
    Right sampleTables ((shareOrganisationDatabaseConfigs "b" "ann").run sampleDatabase).2.toTables "b" "ann" := by
  let _ := asciiFolding
  let _ := plainIds
  have known : ∃ u ∈ sampleDatabase.users, u.id = "ann" := ⟨sampleUser, List.mem_singleton_self _, rfl⟩
  refine (Shared.serves_iff (.direct known)).mpr fun _ => .inr ⟨?_, ?_⟩
  · rintro l ⟨inside, -⟩
    cases inside
  · exact ⟨{ id := "cb", name := "main", createdByUserId := "ann", organisationId := some "b" }, ⟨by decide, rfl⟩, rfl⟩
omit [CaseFolding] [Ids] in
/-- The link to the first config is the current one, in the other organisation, and the second is there already. -/
theorem signUp_without_current :
    let _ := asciiFolding
    let _ := plainIds
    let before := withPending sampleTables (normalizeEmail "bob@example.com") (signUpId sampleTables)
    let after := ((createNewUser "bob@example.com").run sampleDatabase).2.toTables
    Shared sampleDatabase "b" (signUpId sampleTables) before after ∧ ¬Right before after "b" (signUpId sampleTables) := by
  intro _ _ before after
  constructor
  · have unknown : ∀ u ∈ sampleDatabase.users, u.email ≠ normalizeEmail "bob@example.com" := by decide
    have pending : ⟨"i", "b", "bob@example.com", "ann"⟩ ∈ sampleDatabase.organisationInvitedUsers := List.mem_singleton_self _
    exact .signedUp unknown pending (by decide)
  · intro right
    have links : after.databaseConfigUsers =
        [⟨"ca", signUpId sampleTables, true, {}⟩, ⟨"cb", signUpId sampleTables, false, {}⟩] := by decide
    have configs : after.databaseConfigs = sampleTables.databaseConfigs := by decide
    obtain ⟨l, ⟨inside, -, isCurrent, inOrg⟩, -⟩ := right.current
      ⟨{ id := "cb", name := "main", createdByUserId := "ann", organisationId := some "b" }, by
        rw [HasConfig, configs]
        decide⟩
    rw [links] at inside
    rw [inOrganisation_of_configs configs] at inOrg
    simp only [List.mem_cons, List.not_mem_nil, or_false] at inside
    rcases inside with rfl | rfl
    · revert inOrg
      decide
    · cases isCurrent

end

end Openlit.SharedConfigs
