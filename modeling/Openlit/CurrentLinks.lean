import Openlit.Sharing

/-!
What each statement does to the current links of the users: a new link is the
first current one of its user in an organisation or not current, new configs
have no links, and only two kinds of statement can make a second current link,
one that moves configs into an organisation and one that sets a link.
-/
namespace Openlit.CurrentLinks
open Openlit.Programs Openlit.Programs.Program Openlit.Text Openlit.Accounts Openlit.Organisations Openlit.DbConfigs
  Openlit.Sharing

/-! ### Tables -/

/-- Links that are not current can be added, and current ones can be cleared. -/
theorem singleCurrent_of_current {t t' : Tables} (single : SingleCurrent t) (configs : t'.databaseConfigs = t.databaseConfigs)
    (kept : ∀ l ∈ t'.databaseConfigUsers, l.isCurrent = true → l ∈ t.databaseConfigUsers) : SingleCurrent t' := by
  intro l member l' member' sameUser current current' o inOrg inOrg'
  rw [Tables.inOrganisation, configs] at inOrg inOrg'
  exact single l (kept l member current) l' (kept l' member' current') sameUser current current' o inOrg inOrg'
/-- Configs can change where no link comes into an organisation. -/
theorem singleCurrent_of_links {t t' : Tables} (single : SingleCurrent t) (links : t'.databaseConfigUsers = t.databaseConfigUsers)
    (inside : ∀ l ∈ t.databaseConfigUsers, ∀ o, t'.inOrganisation l o = true → t.inOrganisation l o = true) :
    SingleCurrent t' := by
  intro l member l' member' sameUser current current' o inOrg inOrg'
  rw [links] at member member'
  exact single l member l' member' sameUser current current' o (inside l member o inOrg) (inside l' member' o inOrg')
/-- A link of a user can be set where no other current one is in the same organisation. -/
theorem singleCurrent_set {t t' : Tables} {databaseConfigId userId : String} {link : DatabaseConfigUser} (single : SingleCurrent t)
    (unique : t.Unique) (configs : t'.databaseConfigs = t.databaseConfigs)
    (links : t'.databaseConfigUsers = t.databaseConfigUsers.map fun l =>
      if l.databaseConfigId = databaseConfigId ∧ l.userId = userId then { l with isCurrent := true } else l)
    (isLink : link.databaseConfigId = databaseConfigId)
    (alone : ∀ l ∈ t.databaseConfigUsers, l.userId = userId → l.isCurrent = true → l.databaseConfigId ≠ databaseConfigId →
      ∀ o, t.inOrganisation l o = true → t.inOrganisation link o = false) : SingleCurrent t' := by
  -- a link other than the set one, in an organisation with the set one
  have apart (other : DatabaseConfigUser) (member : other ∈ t.databaseConfigUsers) (sameUser : other.userId = userId)
      (unset : ¬(other.databaseConfigId = databaseConfigId ∧ other.userId = userId)) (current : other.isCurrent = true)
      (o : Option String) (inOrg : t.inOrganisation other o = true) (inOrg' : t.inOrganisation link o = true) : False := by
    have different : other.databaseConfigId ≠ databaseConfigId := fun same => unset ⟨same, sameUser⟩
    have outside := alone other member sameUser current different o inOrg
    rw [inOrg'] at outside
    cases outside
  intro l inside l' inside' sameUser current current' o inOrg inOrg'
  rw [Tables.inOrganisation, configs] at inOrg inOrg'
  rw [links] at inside inside'
  obtain ⟨old, member, rfl⟩ := List.mem_map.mp inside
  obtain ⟨old', member', rfl⟩ := List.mem_map.mp inside'
  by_cases chosen : old.databaseConfigId = databaseConfigId ∧ old.userId = userId <;>
    by_cases chosen' : old'.databaseConfigId = databaseConfigId ∧ old'.userId = userId
  · have same : old = old' := List.inj_on_of_nodup_map unique.link member member' (by simp [chosen, chosen'])
    rw [same]
  · rw [if_pos chosen] at sameUser inOrg
    rw [if_neg chosen'] at sameUser current' inOrg'
    rw [chosen.1, ← isLink] at inOrg
    exact (apart old' member' (sameUser.symm.trans chosen.2) chosen' current' o inOrg' inOrg).elim
  · rw [if_neg chosen] at sameUser current inOrg
    rw [if_pos chosen'] at sameUser inOrg'
    rw [chosen'.1, ← isLink] at inOrg'
    exact (apart old member (sameUser.trans chosen'.2) chosen current o inOrg inOrg').elim
  · rw [if_neg chosen] at sameUser current inOrg ⊢
    rw [if_neg chosen'] at sameUser current' inOrg' ⊢
    exact single old member old' member' sameUser current current' o inOrg inOrg'

/-! ### Migration -/

/-- No user has a current link in the organisation and one to a config that would be moved into it. -/
def MigrationSafe (t : Tables) (userId organisationId : String) : Prop :=
  ∀ l ∈ t.databaseConfigUsers, ∀ l' ∈ t.databaseConfigUsers, l.userId = l'.userId → l.isCurrent = true →
    l'.isCurrent = true → t.inOrganisation l (some organisationId) = true → l'.databaseConfigId ∉ orphanedConfigIds t userId

/-- The configs with those of some ids moved into an organisation. -/
def movedTo (configs : List DatabaseConfig) (ids : List String) (organisationId : String) : List DatabaseConfig :=
  configs.map fun c => if c.id ∈ ids then { c with organisationId := some organisationId } else c

/-- The move of a user's configs into an organisation repeats no name there. -/
def NamesFit (t : Tables) (userId organisationId : String) : Prop :=
  ((movedTo t.databaseConfigs (orphanedConfigIds t userId) organisationId).filterMap fun c =>
    c.organisationId.map fun o => (c.name, o)).Nodup

theorem mem_orphanedConfigIds (t : Tables) (userId id : String) :
    id ∈ orphanedConfigIds t userId ↔
      ∃ l ∈ t.databaseConfigUsers, l.userId = userId ∧ t.inOrganisation l none = true ∧ l.databaseConfigId = id := by
  simp [orphanedConfigIds, and_assoc]

section
variable {t t' : Tables} {ids : List String} {organisationId : String} {l : DatabaseConfigUser} {o : Option String}

/-- A link to a moved config is in the organisation, and in no other. -/
theorem inOrganisation_moved (configs : t'.databaseConfigs = movedTo t.databaseConfigs ids organisationId)
    (moved : l.databaseConfigId ∈ ids) (inOrg : t'.inOrganisation l o = true) : o = some organisationId := by
  obtain ⟨c, member, isId, isOrg⟩ := (inOrganisation_iff t' l o).mp inOrg
  rw [configs, movedTo, List.mem_map] at member
  obtain ⟨before, -, rfl⟩ := member
  have inside : before.id ∈ ids := by
    by_cases inside : before.id ∈ ids
    · exact inside
    · rw [if_neg inside] at isId
      rwa [isId]
  rw [if_pos inside] at isOrg
  exact isOrg.symm
theorem inOrganisation_movedTo (configs : t'.databaseConfigs = movedTo t.databaseConfigs ids organisationId)
    (before : t.inOrganisation l none = true) (moved : l.databaseConfigId ∈ ids) :
    t'.inOrganisation l (some organisationId) = true := by
  obtain ⟨c, member, isId, -⟩ := (inOrganisation_iff t l none).mp before
  refine (inOrganisation_iff t' l _).mpr ⟨{ c with organisationId := some organisationId }, ?_, isId, rfl⟩
  rw [configs, movedTo, List.mem_map]
  exact ⟨c, member, by rw [if_pos (isId ▸ moved)]⟩
/-- A link to any other config is where it was. -/
theorem inOrganisation_kept (configs : t'.databaseConfigs = movedTo t.databaseConfigs ids organisationId)
    (kept : l.databaseConfigId ∉ ids) : t'.inOrganisation l o = t.inOrganisation l o := by
  rw [Bool.eq_iff_iff, inOrganisation_iff, inOrganisation_iff, configs]
  constructor
  · rintro ⟨c, member, isId, isOrg⟩
    obtain ⟨before, inside, rfl⟩ := List.mem_map.mp member
    by_cases moved : before.id ∈ ids
    · rw [if_pos moved] at isId
      exact absurd (isId ▸ moved) kept
    · rw [if_neg moved] at isId isOrg
      exact ⟨before, inside, isId, isOrg⟩
  · rintro ⟨c, member, isId, isOrg⟩
    refine ⟨c, List.mem_map.mpr ⟨c, member, ?_⟩, isId, isOrg⟩
    rw [if_neg (isId ▸ kept)]

end

/-- After a move no user has two current links in an organisation if and only if no
    user had one there and one that came. -/
theorem singleCurrent_movedTo_iff {t t' : Tables} {userId organisationId : String} (single : SingleCurrent t)
    (links : t'.databaseConfigUsers = t.databaseConfigUsers)
    (configs : t'.databaseConfigs = movedTo t.databaseConfigs (orphanedConfigIds t userId) organisationId) (unique : t.Unique) :
    SingleCurrent t' ↔ MigrationSafe t userId organisationId := by
  have orphan (l : DatabaseConfigUser) (moved : l.databaseConfigId ∈ orphanedConfigIds t userId) : t.inOrganisation l none = true := by
    obtain ⟨other, -, -, inOrg, same⟩ := (mem_orphanedConfigIds t userId _).mp moved
    rwa [Tables.inOrganisation, ← same]
  constructor
  · intro after l member l' member' sameUser current current' inOrg moved
    have kept : l.databaseConfigId ∉ orphanedConfigIds t userId := fun other => by
      cases inOrganisation_unique unique rfl inOrg (orphan l other)
    have here : t'.inOrganisation l (some organisationId) = true := by rwa [inOrganisation_kept configs kept]
    have there := inOrganisation_movedTo configs (orphan l' moved) moved
    have same := after l (links ▸ member) l' (links ▸ member') sameUser current current' _ here there
    exact kept (same ▸ moved)
  · intro safe l member l' member' sameUser current current' o inOrg inOrg'
    rw [links] at member member'
    by_cases moved : l.databaseConfigId ∈ orphanedConfigIds t userId <;>
      by_cases moved' : l'.databaseConfigId ∈ orphanedConfigIds t userId
    · exact single l member l' member' sameUser current current' none (orphan l moved) (orphan l' moved')
    · obtain rfl := inOrganisation_moved configs moved inOrg
      rw [inOrganisation_kept configs moved'] at inOrg'
      exact absurd moved (safe l' member' l member sameUser.symm current' current inOrg')
    · obtain rfl := inOrganisation_moved configs moved' inOrg'
      rw [inOrganisation_kept configs moved] at inOrg
      exact absurd moved' (safe l member l' member' sameUser current current' inOrg)
    · rw [inOrganisation_kept configs moved] at inOrg
      rw [inOrganisation_kept configs moved'] at inOrg'
      exact single l member l' member' sameUser current current' o inOrg inOrg'

/-! ### Programs -/

/-- A program that no user has two current links after in an organisation, where no user had before. -/
def KeepsSingle {α : Type} (p : Op α) : Prop :=
  ∀ db : Database, SingleCurrent db.toTables → p.Ends (fun _ s => SingleCurrent s.toTables) db

section
variable {α β : Type}

theorem keeps_pure (a : α) : KeepsSingle (pure a) := fun _ single => single
theorem keeps_fail (message : String) : KeepsSingle (fail message : Op α) := fun _ single => single
theorem keeps_read (select : Tables → α) : KeepsSingle (read select) := fun _ single => single
theorem keeps_bind {p : Op α} {next : α → Op β} (first : KeepsSingle p) (rest : ∀ a, KeepsSingle (next a)) :
    KeepsSingle (p >>= next) := by
  refine fun db single => ends_bind ((first db single).mono fun result s kept => ?_)
  cases result with
  | error _ => exact kept
  | ok a => exact rest a s kept
theorem keeps_throwIfError (condition : Bool) (message : String) : KeepsSingle (throwIfError condition message) := by
  cases condition with
  | true => exact keeps_fail message
  | false => exact keeps_pure ()
theorem keeps_attempt {p : Op α} (kept : KeepsSingle p) : KeepsSingle (attempt p) :=
  fun db single => ends_attempt (kept db single)
theorem keeps_foldEach {body : β → α → Op β} (each : ∀ b a, KeepsSingle (body b a)) (items : List α) (b : β) :
    KeepsSingle (foldEach body items b) := by
  refine fun db single => ends_foldEach (fun _ s => SingleCurrent s.toTables) ?_ (fun _ _ kept => kept) single
  intro a _ b' s kept
  refine (each b' a s kept).mono fun result s' kept' => ?_
  cases result with
  | error _ => exact kept'
  | ok _ => exact kept'
theorem keeps_insert {change : Tables → Except String (α × Tables)}
    (kept : ∀ (db db' : Database) (a : α), change db.toTables = .ok (a, db'.toTables) → SingleCurrent db.toTables →
      SingleCurrent db'.toTables) : KeepsSingle (insert change) :=
  fun db single => ends_insert (fun a db' changed => kept db db' a changed single) fun _ => single
theorem keeps_write {change : Tables → Except String Tables}
    (kept : ∀ db db' : Database, change db.toTables = .ok db'.toTables → SingleCurrent db.toTables →
      SingleCurrent db'.toTables) : KeepsSingle (write change) :=
  fun db single => ends_refusable (fun db' changed => kept db db' changed single) fun _ => single
/-- A statement on other tables. -/
theorem keeps_other {change : Tables → Except String Tables}
    (same : ∀ t t', change t = .ok t' → t'.databaseConfigs = t.databaseConfigs ∧ t'.databaseConfigUsers = t.databaseConfigUsers) :
    KeepsSingle (write change) := by
  refine keeps_write fun db db' changed single => ?_
  obtain ⟨configs, links⟩ := same _ _ changed
  exact singleCurrent_of_current single configs fun l inside _ => links ▸ inside
theorem keeps_currentUser (session : Option String) : KeepsSingle (currentUser session) := by
  intro db single
  rw [Ends, currentUser_run]
  exact single

end

theorem createMember_keeps (member : OrganisationUser) : KeepsSingle (createMember member) :=
  keeps_other fun t t' changed => by cases changed; exact ⟨rfl, rfl⟩
theorem setCurrentMembership_keeps (organisationId userId : String) : KeepsSingle (setCurrentMembership organisationId userId) := by
  refine keeps_other fun t t' changed => ?_
  split at changed
  · cases changed
  · cases changed
    exact ⟨rfl, rfl⟩
theorem completeOnboarding_keeps (userId : String) : KeepsSingle (completeOnboarding userId) := by
  refine keeps_other fun t t' changed => ?_
  split at changed
  · cases changed
  · cases changed
    exact ⟨rfl, rfl⟩
theorem updateLink_ends {databaseConfigId userId : String} {isCurrent : Bool} {post : Except String Unit → Database → Prop}
    {db : Database}
    (updated : ∀ link s, db.link databaseConfigId userId = some link → s.databaseConfigs = db.databaseConfigs →
      s.databaseConfigUsers = (db.databaseConfigUsers.map fun l =>
        if l.databaseConfigId = databaseConfigId ∧ l.userId = userId then { l with isCurrent } else l) → post (.ok ()) s)
    (failed : ∀ e, post (.error e) db) : (updateLink databaseConfigId userId isCurrent).Ends post db := by
  refine ends_refusable (fun s changed => ?_) failed
  cases found : db.link databaseConfigId userId with
  | none => simp [found] at changed
  | some link =>
    simp only [found] at changed
    have tables := (Except.ok.inj changed).symm
    exact updated link s found (by rw [tables]) (by rw [tables])
/-- A current link after another one is cleared was there before and is not the cleared one. -/
theorem current_of_cleared {t t' : Tables} {databaseConfigId userId : String}
    (links : t'.databaseConfigUsers = t.databaseConfigUsers.map fun l =>
      if l.databaseConfigId = databaseConfigId ∧ l.userId = userId then { l with isCurrent := false } else l)
    {l : DatabaseConfigUser} (inside : l ∈ t'.databaseConfigUsers) (current : l.isCurrent = true) :
    l ∈ t.databaseConfigUsers ∧ ¬(l.databaseConfigId = databaseConfigId ∧ l.userId = userId) := by
  rw [links] at inside
  obtain ⟨old, member, rfl⟩ := List.mem_map.mp inside
  by_cases chosen : old.databaseConfigId = databaseConfigId ∧ old.userId = userId
  · rw [if_pos chosen] at current
    cases current
  · rw [if_neg chosen]
    exact ⟨member, chosen⟩
theorem key_of_cleared {t t' : Tables} {databaseConfigId userId : String}
    (links : t'.databaseConfigUsers = t.databaseConfigUsers.map fun l =>
      if l.databaseConfigId = databaseConfigId ∧ l.userId = userId then { l with isCurrent := false } else l)
    {l : DatabaseConfigUser} (inside : l ∈ t'.databaseConfigUsers) :
    ∃ before ∈ t.databaseConfigUsers, before.databaseConfigId = l.databaseConfigId ∧ before.userId = l.userId := by
  rw [links] at inside
  obtain ⟨old, member, rfl⟩ := List.mem_map.mp inside
  refine ⟨old, member, ?_⟩
  split
  · exact ⟨rfl, rfl⟩
  · exact ⟨rfl, rfl⟩
/-- A link can be set where its user has no current one but in other organisations. -/
theorem setLink_ends {databaseConfigId userId : String} {db : Database} (single : SingleCurrent db.toTables)
    (alone : ∀ link ∈ db.databaseConfigUsers, link.databaseConfigId = databaseConfigId → link.userId = userId →
      ∀ l ∈ db.databaseConfigUsers, l.userId = userId → l.isCurrent = true → l.databaseConfigId ≠ databaseConfigId →
        ∀ o, db.inOrganisation l o = true → db.inOrganisation link o = false) :
    (updateLink databaseConfigId userId true).Ends (fun _ s => SingleCurrent s.toTables) db := by
  refine updateLink_ends (fun link s found configs links => ?_) fun _ => single
  have isKey : link.databaseConfigId = databaseConfigId ∧ link.userId = userId := by simpa using List.find?_some found
  exact singleCurrent_set single db.unique configs links isKey.1
    (alone link (List.mem_of_find?_eq_some found) isKey.1 isKey.2)

/-- The loop creates a current link only where it has seen none, and then no other. -/
theorem shareOrganisationDatabaseConfigs_keeps (organisationId userId : String) :
    KeepsSingle (shareOrganisationDatabaseConfigs organisationId userId) := by
  intro db single
  refine ends_read (ends_read (ends_bind ?_))
  refine ends_foldEach (fun assigned s => SingleCurrent s.toTables ∧ s.databaseConfigs = db.databaseConfigs ∧
    ((currentLink db.toTables userId (some organisationId)).isNone = true → assigned = false →
      currentLink s.toTables userId (some organisationId) = none)) ?_ (fun _ _ kept => kept.1)
    ⟨single, rfl, fun none _ => Option.isNone_iff_eq_none.mp none⟩
  rintro config member assigned s ⟨kept, configs, unassigned⟩
  refine ends_read ?_
  cases linked : s.link config.id userId with
  | some _ => exact ⟨kept, configs, unassigned⟩
  | none =>
    refine ends_bind (ends_write (fun s' created => ?_) fun _ => kept)
    refine ends_pure ⟨singleCurrent_append kept (by rw [created]) (by rw [created]) ?_, by rw [created, configs], ?_⟩
    · intro current l old sameUser isCurrent o inOrg
      rw [Bool.and_eq_true, Bool.not_eq_true'] at current
      have absent := (currentLink_eq_none_iff _ _ _).mp (unassigned current.1 current.2) l old sameUser isCurrent
      rw [Bool.eq_false_iff]
      intro inside
      have here : s.inOrganisation ⟨config.id, userId, true, {}⟩ (some organisationId) = true := by
        obtain ⟨known, isOrg⟩ := List.mem_filter.mp member
        exact (inOrganisation_iff _ _ _).mpr ⟨config, configs ▸ known, rfl, by simpa using isOrg⟩
      obtain rfl := inOrganisation_unique s.unique rfl inside here
      rw [absent] at inOrg
      cases inOrg
    · intro none assignedNow
      rw [none, Bool.or_eq_false_iff] at assignedNow
      simp [assignedNow.1] at assignedNow

/-! ### Configs -/

/-- A new config has no links. -/
theorem inOrganisation_of_newConfig {db : Database} {t' : Tables} {config : DatabaseConfig}
    (configs : t'.databaseConfigs = db.databaseConfigs ++ [config]) (fresh : config.id ∉ db.databaseConfigs.map (·.id))
    {l : DatabaseConfigUser} (inside : l ∈ db.databaseConfigUsers) {o : Option String} (inOrg : t'.inOrganisation l o = true) :
    db.inOrganisation l o = true := by
  obtain ⟨c, member, isId, isOrg⟩ := (inOrganisation_iff _ _ _).mp inOrg
  rw [configs, List.mem_append, List.mem_singleton] at member
  rcases member with old | rfl
  · exact (inOrganisation_iff _ _ _).mpr ⟨c, old, isId, isOrg⟩
  · obtain ⟨owner, known, isOwner⟩ := (db.references.link l inside).1
    have listed : owner.id ∈ db.databaseConfigs.map (·.id) := List.mem_map_of_mem known
    rw [isOwner, ← isId] at listed
    exact absurd listed fresh
/-- An update of a config keeps its organisation. -/
theorem inOrganisation_of_withConfig {t t' : Tables} {id : String} {input : ConfigInput}
    (configs : t'.databaseConfigs = withConfig t.databaseConfigs id input) {l : DatabaseConfigUser} {o : Option String}
    (inOrg : t'.inOrganisation l o = true) : t.inOrganisation l o = true := by
  obtain ⟨c, member, isId, isOrg⟩ := (inOrganisation_iff _ _ _).mp inOrg
  rw [configs] at member
  obtain ⟨before, inside, rfl⟩ := List.mem_map.mp member
  refine (inOrganisation_iff _ _ _).mpr ⟨before, inside, ?_⟩
  by_cases chosen : before.id = id
  · rw [if_pos chosen] at isId isOrg
    exact ⟨isId, isOrg⟩
  · rw [if_neg chosen] at isId isOrg
    exact ⟨isId, isOrg⟩
theorem singleCurrent_of_newConfig {db : Database} {t' : Tables} {config : DatabaseConfig} (single : SingleCurrent db.toTables)
    (links : t'.databaseConfigUsers = db.databaseConfigUsers) (configs : t'.databaseConfigs = db.databaseConfigs ++ [config])
    (fresh : config.id ∉ db.databaseConfigs.map (·.id)) : SingleCurrent t' :=
  singleCurrent_of_links single links fun _ inside _ inOrg => inOrganisation_of_newConfig configs fresh inside inOrg
theorem singleCurrent_of_withConfig {t t' : Tables} {id : String} {input : ConfigInput} (single : SingleCurrent t)
    (links : t'.databaseConfigUsers = t.databaseConfigUsers) (configs : t'.databaseConfigs = withConfig t.databaseConfigs id input) :
    SingleCurrent t' :=
  singleCurrent_of_links single links fun _ _ _ inOrg => inOrganisation_of_withConfig configs inOrg

theorem addDatabaseConfigUserEntry_keeps (userId id : String) (permissions : Permissions) :
    KeepsSingle (addDatabaseConfigUserEntry userId id permissions) := fun db single =>
  (@addDatabaseConfigUserEntry_shares id (fun _ => True) userId permissions trivial db).run.1.single single
theorem checkPermissionForDbAction_keeps (userId id : String) (actionType : ActionType) :
    KeepsSingle (checkPermissionForDbAction userId id actionType) := by
  refine keeps_bind (keeps_read _) fun found => ?_
  cases found with
  | none => exact keeps_fail _
  | some link =>
    cases allowed : permissionError link.permissions actionType with
    | none =>
      simp only [allowed]
      exact keeps_pure link
    | some message =>
      simp only [allowed]
      exact keeps_fail message
theorem getCurrentOrganisation_keeps (session : Option String) : KeepsSingle (getCurrentOrganisation session) :=
  keeps_bind (keeps_currentUser session) fun _ => keeps_read _
theorem updateConfig_keeps (id : String) (input : ConfigInput) : KeepsSingle (updateConfig id input) := by
  refine keeps_insert fun db db' _ changed single => ?_
  split at changed
  · cases changed
  · have tables := (Prod.mk.inj (Except.ok.inj changed)).2.symm
    exact singleCurrent_of_withConfig single (by rw [tables]) (by rw [tables])

section
variable [Ids]

theorem createConfig_keeps (input : ConfigInput) (userId : String) (organisationId : Option String) :
    KeepsSingle (createConfig input userId organisationId) := by
  refine keeps_insert fun db db' id changed single => ?_
  have tables := (Prod.mk.inj (Except.ok.inj changed)).2.symm
  exact singleCurrent_of_newConfig single (by rw [tables]) (by rw [tables]) (Ids.newId_new _)
theorem upsertConfig_keeps (matching : DatabaseConfig → Bool) (input : ConfigInput) (userId : String)
    (organisationId : Option String) : KeepsSingle (upsertConfig matching input userId organisationId) := by
  refine keeps_insert fun db db' _ changed single => ?_
  split at changed
  · have tables := (Prod.mk.inj (Except.ok.inj changed)).2.symm
    exact singleCurrent_of_withConfig single (by rw [tables]) (by rw [tables])
  · have tables := (Prod.mk.inj (Except.ok.inj changed)).2.symm
    exact singleCurrent_of_newConfig single (by rw [tables]) (by rw [tables]) (Ids.newId_new _)
theorem createByName_keeps (input : ConfigInput) (userId : String) (organisationId : Option String) :
    KeepsSingle (createByName input userId organisationId) := by
  cases organisationId with
  | some _ => exact upsertConfig_keeps _ input userId _
  | none =>
    refine keeps_bind (keeps_read _) fun existing => ?_
    cases existing with
    | some found => exact updateConfig_keeps found.id input
    | none => exact createConfig_keeps input userId none

theorem upsertDBConfig_keeps (session : Option String) (dbConfig : ConfigInput) (id : Option String) :
    KeepsSingle (upsertDBConfig session dbConfig id) := by
  unfold upsertDBConfig
  cases dbConfig.verify with
  | error message => exact keeps_fail message
  | ok _ =>
    refine keeps_bind (keeps_currentUser session) fun user => keeps_bind (getCurrentOrganisation_keeps session) fun currentOrg => ?_
    refine keeps_bind (keeps_read _) fun existingDBName => keeps_bind (keeps_throwIfError _ _) fun _ => ?_
    cases present id with
    | some configId =>
      refine keeps_bind (checkPermissionForDbAction_keeps user.id configId .edit) fun _ => ?_
      exact keeps_bind (upsertConfig_keeps _ dbConfig user.id _) fun _ => keeps_pure _
    | none =>
      refine keeps_bind (createByName_keeps dbConfig user.id _) fun created => ?_
      exact keeps_bind (addDatabaseConfigUserEntry_keeps user.id created _) fun _ => keeps_pure _

end

end Openlit.CurrentLinks
