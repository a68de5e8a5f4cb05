import Mathlib.Data.List.Nodup
import Openlit.DbConfigs

/-!
What the recipients of a share do to the database while they are served at
once: the users and configs stay, links and invites for the shared config are
added, and no user gets a second current link within an organisation.
-/
namespace Openlit.Sharing
open Openlit.Programs Openlit.Programs.Program Openlit.Text Openlit.Accounts Openlit.Organisations Openlit.DbConfigs

/-! ### Current links -/

theorem inOrganisation_iff (t : Tables) (l : DatabaseConfigUser) (organisationId : Option String) :
    t.inOrganisation l organisationId = true ↔
      ∃ c ∈ t.databaseConfigs, c.id = l.databaseConfigId ∧ c.organisationId = organisationId := by
  simp [Tables.inOrganisation]
theorem inOrganisation_unique {t : Tables} (unique : t.Unique) {l l' : DatabaseConfigUser} {o o' : Option String}
    (same : l.databaseConfigId = l'.databaseConfigId) (inside : t.inOrganisation l o = true)
    (inside' : t.inOrganisation l' o' = true) : o = o' := by
  obtain ⟨c, member, isId, rfl⟩ := (inOrganisation_iff t l o).mp inside
  obtain ⟨c', member', isId', rfl⟩ := (inOrganisation_iff t l' o').mp inside'
  have equal : c.id = c'.id := isId.trans (same.trans isId'.symm)
  rw [List.inj_on_of_nodup_map unique.configId member member' equal]

theorem organisation_of_config {t : Tables} (unique : t.Unique) {l : DatabaseConfigUser} {o : Option String}
    (inside : t.inOrganisation l o = true) : (t.config l.databaseConfigId).bind (·.organisationId) = o := by
  obtain ⟨c, member, isId, rfl⟩ := (inOrganisation_iff t l o).mp inside
  cases found : t.config l.databaseConfigId with
  | none => exact absurd isId (by simpa using List.find?_eq_none.mp found c member)
  | some c' =>
    have same : c'.id = l.databaseConfigId := by simpa using List.find?_some found
    have equal : c' = c :=
      List.inj_on_of_nodup_map unique.configId (List.mem_of_find?_eq_some found) member (same.trans isId.symm)
    rw [equal]
    rfl

/-- A user has one current link at most among the configs of an organisation,
    and one among those without an organisation. -/
def SingleCurrent (t : Tables) : Prop :=
  ∀ l ∈ t.databaseConfigUsers, ∀ l' ∈ t.databaseConfigUsers, l.userId = l'.userId → l.isCurrent = true →
    l'.isCurrent = true → ∀ organisationId, t.inOrganisation l organisationId = true →
      t.inOrganisation l' organisationId = true → l = l'

theorem currentLink_eq_none_iff (t : Tables) (userId : String) (organisationId : Option String) :
    currentLink t userId organisationId = none ↔
      ∀ l ∈ t.databaseConfigUsers, l.userId = userId → l.isCurrent = true → t.inOrganisation l organisationId = false := by
  simp [currentLink]
/-- A link can be added that is not current, or is the first current one of its user within the organisation. -/
theorem singleCurrent_append {t t' : Tables} {link : DatabaseConfigUser} (single : SingleCurrent t)
    (configs : t'.databaseConfigs = t.databaseConfigs) (links : t'.databaseConfigUsers = t.databaseConfigUsers ++ [link])
    (first : link.isCurrent = true → ∀ l ∈ t.databaseConfigUsers, l.userId = link.userId → l.isCurrent = true →
      ∀ organisationId, t.inOrganisation l organisationId = true → t.inOrganisation link organisationId = false) :
    SingleCurrent t' := by
  have scope (l : DatabaseConfigUser) (o : Option String) : t'.inOrganisation l o = t.inOrganisation l o := by
    rw [Tables.inOrganisation, configs, Tables.inOrganisation]
  intro l inside l' inside' sameUser current current' o inOrg inOrg'
  rw [links, List.mem_append, List.mem_singleton] at inside inside'
  rw [scope] at inOrg inOrg'
  rcases inside with old | rfl <;> rcases inside' with old' | rfl
  · exact single l old l' old' sameUser current current' o inOrg inOrg'
  · exact absurd inOrg' (by simp [first current' l old sameUser current o inOrg])
  · exact absurd inOrg (by simp [first current l' old' sameUser.symm current' o inOrg'])
  · rfl

/-! ### The steps of a share -/

/-- The tables grow by links and invites for one config, with permissions of a kind. -/
structure Extends (id : String) (granted : Permissions → Prop) (t t' : Tables) : Prop where
  users : t'.users = t.users
  configs : t'.databaseConfigs = t.databaseConfigs
  links : ∀ l ∈ t.databaseConfigUsers, l ∈ t'.databaseConfigUsers
  newLinks : ∀ l ∈ t'.databaseConfigUsers, l ∈ t.databaseConfigUsers ∨ l.databaseConfigId = id ∧ granted l.permissions
  newInvites : ∀ i ∈ t'.databaseConfigInvitedUsers, i ∈ t.databaseConfigInvitedUsers ∨ granted i.permissions
/-- A step of one recipient, which the others rely on. -/
structure Shares (id : String) (granted : Permissions → Prop) (db db' : Database) : Prop where
  grows : Extends id granted db.toTables db'.toTables
  single : SingleCurrent db.toTables → SingleCurrent db'.toTables

instance (id : String) (granted : Permissions → Prop) : IsPreorder Database (Shares id granted) where
  refl db := ⟨⟨rfl, rfl, fun _ old => old, fun _ => .inl, fun _ => .inl⟩, fun single => single⟩
  trans a b c ab bc := by
    obtain ⟨⟨users, configs, links, newLinks, newInvites⟩, single⟩ := ab
    obtain ⟨⟨users', configs', links', newLinks', newInvites'⟩, single'⟩ := bc
    refine ⟨⟨users'.trans users, configs'.trans configs, fun l old => links' l (links l old), ?_, ?_⟩,
      fun start => single' (single start)⟩
    · intro l inside
      rcases newLinks' l inside with middle | new
      · exact newLinks l middle
      · exact .inr new
    · intro i inside
      rcases newInvites' i inside with middle | new
      · exact newInvites i middle
      · exact .inr new

/-! ### One recipient -/

section
variable {id : String} {granted : Permissions → Prop}

theorem inOrganisation_of_shares {db db' : Database} (moved : Shares id granted db db') (l : DatabaseConfigUser)
    (o : Option String) : db'.inOrganisation l o = db.inOrganisation l o := by
  rw [Tables.inOrganisation, moved.grows.configs, Tables.inOrganisation]
theorem user_of_shares {db db' : Database} (moved : Shares id granted db db') (email : String) :
    db'.users.find? (·.email = email) = db.users.find? (·.email = email) := by
  rw [moved.grows.users]

/-- The flag is read before the link is created; what the others add in between
    is for the same config, and a second link of the user to it is rejected. -/
theorem addDatabaseConfigUserEntry_shares {userId : String} {permissions : Permissions} (allowed : granted permissions)
    (db : Database) :
    (addDatabaseConfigUserEntry userId id permissions).Ensures (Shares id granted) (Shares id granted)
      (fun _ _ => True) db := by
  refine ensures_read fun db₁ _ => ensures_read fun db₂ moved₂ => ensures_write (fun db₃ db₄ moved₃ created => ?_)
    fun _ _ _ => trivial
  refine ⟨⟨⟨?_, ?_, ?_, ?_, ?_⟩, fun single => ?_⟩, fun _ _ => trivial⟩
  · rw [created]
  · rw [created]
  · intro l old
    rw [created]
    exact List.mem_append_left _ old
  · intro l inside
    rw [created, List.mem_append, List.mem_singleton] at inside
    rcases inside with old | rfl
    · exact .inl old
    · exact .inr ⟨rfl, allowed⟩
  · intro i inside
    rw [created] at inside
    exact .inl inside
  · refine singleCurrent_append single (by rw [created]) (by rw [created]) fun current l old sameUser isCurrent o inOrg => ?_
    rw [Bool.eq_false_iff]
    intro inside
    have organisation : (db₁.config id).bind (·.organisationId) = o := by
      have later := organisation_of_config db₃.unique inside
      rwa [Tables.config, moved₃.grows.configs, moved₂.grows.configs] at later
    rw [organisation, Option.isNone_iff_eq_none, currentLink_eq_none_iff] at current
    rcases moved₃.grows.newLinks l old with before | ⟨sameConfig, -⟩
    · rw [inOrganisation_of_shares moved₃, current l before sameUser isCurrent] at inOrg
      cases inOrg
    · have distinct := db₄.unique.link
      rw [created, List.map_append, List.nodup_append] at distinct
      exact distinct.2.2 _ (List.mem_map_of_mem old) (id, userId) (by simp) (by rw [sameConfig, sameUser])

theorem link_eq_none_of_shares {db db' : Database} (moved : Shares id granted db db') {configId userId : String}
    (absent : db'.link configId userId = none) : db.link configId userId = none := by
  rw [Tables.link, List.find?_eq_none] at absent ⊢
  exact fun l inside => absent l (moved.grows.links l inside)

variable [CaseFolding]

theorem shareWith_shares {held : Permissions} {entry : ShareEntry} {db : Database}
    (allowed : ∀ recipient ∈ db.users, recipient.email = normalizeEmail entry.email → db.link id recipient.id = none →
      granted entry.requested)
    (masked : granted (Permissions.and held entry.requested)) :
    (shareWith id held entry).Ensures (Shares id granted) (Shares id granted) (fun _ _ => True) db := by
  refine ensures_read fun db₁ moved₁ => ?_
  rw [user_of_shares moved₁]
  cases known : db.users.find? (·.email = normalizeEmail entry.email) with
  | some recipient =>
    have isEmail : recipient.email = normalizeEmail entry.email := by simpa using List.find?_some known
    refine ensures_read fun db₂ moved₂ => ?_
    cases linked : db₂.link id recipient.id with
    | some l => exact ensures_pure fun _ _ => trivial
    | none =>
      have unlinked := link_eq_none_of_shares moved₁ (link_eq_none_of_shares moved₂ linked)
      have grant := allowed recipient (List.mem_of_find?_eq_some known) isEmail unlinked
      refine ensures_bind ((addDatabaseConfigUserEntry_shares grant db₂).consequence (fun _ _ same => same) ?_)
      rintro (_ | _) _ -
      · exact fun _ _ => trivial
      · exact ensures_pure fun _ _ => trivial
  | none =>
    have created : (createInvite { databaseConfigId := id, email := normalizeEmail entry.email
                                   permissions := Permissions.and held entry.requested }).Ensures
        (Shares id granted) (Shares id granted) (fun _ _ => True) db₁ := by
      refine ensures_write (fun db₂ db₃ _ written => ⟨⟨⟨?_, ?_, ?_, ?_, ?_⟩, ?_⟩, fun _ _ => trivial⟩) fun _ _ _ => trivial
      · rw [written]
      · rw [written]
      · rw [written]
        exact fun l old => old
      · rw [written]
        exact fun l old => .inl old
      · intro i inside
        rw [written, List.mem_append, List.mem_singleton] at inside
        rcases inside with old | rfl
        · exact .inl old
        · exact .inr masked
      · rw [written]
        exact fun single => single
    refine ensures_bind (ensures_attempt (created.consequence (fun _ _ same => same) ?_))
    rintro (_ | _) _ -
    · exact ensures_pure fun _ _ => trivial
    · exact ensures_pure fun _ _ => trivial

/-- All recipients together, in any order of their statements. -/
theorem shareAll_shares {held : Permissions} {entries : List ShareEntry} {db : Database} (schedule : List Nat)
    (allowed : ∀ entry ∈ entries, ∀ recipient ∈ db.users, recipient.email = normalizeEmail entry.email →
      db.link id recipient.id = none → granted entry.requested)
    (masked : ∀ entry ∈ entries, granted (Permissions.and held entry.requested)) :
    Shares id granted db ((promiseAll schedule (entries.map (shareWith id held))).run db).2 := by
  have each : ∀ p ∈ entries.map (shareWith id held),
      p.Ensures (Shares id granted) (Shares id granted) (fun _ _ => True) db := by
    intro p member
    obtain ⟨entry, inside, rfl⟩ := List.mem_map.mp member
    exact shareWith_shares (allowed entry inside) (masked entry inside)
  rw [run_promiseAll]
  exact (ensures_interleave schedule each).run.1

end

end Openlit.Sharing
