import Openlit.Accounts

/-!
Organisations and the sharing of their database configs (`lib/organisation.ts`):
what creates memberships and links, and what moves configs without an
organisation into one.
-/
namespace Openlit.Organisations
open Openlit.Programs Openlit.Programs.Program Openlit.Text Openlit.Accounts

structure CurrentOrganisation where
  id : String
  name : String
  slug : String
  isCurrent : Bool := true
  memberCount : Nat
  createdByUserId : String
  deriving DecidableEq, Repr
/-- The organisation of the user's first current membership. -/
def currentOrganisation (t : Tables) (userId : String) : Option CurrentOrganisation := do
  let orgUser ← t.organisationUsers.find? fun m => m.userId = userId ∧ m.isCurrent
  let organisation ← t.organisations.find? (·.id = orgUser.organisationId)
  pure { id := organisation.id, name := organisation.name, slug := organisation.slug
         memberCount := (t.organisationUsers.filter (·.organisationId = organisation.id)).length
         createdByUserId := organisation.createdByUserId }
def getCurrentOrganisation (session : Option String) : Op (Option CurrentOrganisation) := do
  let user ← currentUser session
  read (currentOrganisation · user.id)
def notOrganisationMember : String := "You are not a member of this organisation"
def setCurrentOrganisation (session : Option String) (organisationId : String) : Op Unit := do
  let user ← currentUser session
  let membership ← read (·.membership organisationId user.id)
  throwIfError membership.isNone notOrganisationMember
  -- both updates are one transaction
  write fun t => .ok { t with organisationUsers := t.organisationUsers.map fun m =>
    if m.userId = user.id then { m with isCurrent := m.organisationId = organisationId } else m }
def hasAdminOrOwnerRole (organisationId userId : String) : Op Bool := do
  let membership ← read (·.membership organisationId userId)
  pure (membership.any fun m => m.role = "owner" ∨ m.role = "admin")

/-! ### The configs of an organisation -/

/-- The user's first current link to a config of the organisation. -/
def currentLink (t : Tables) (userId : String) (organisationId : Option String) : Option DatabaseConfigUser :=
  t.databaseConfigUsers.find? fun l => l.userId = userId ∧ l.isCurrent ∧ t.inOrganisation l organisationId
/-- One config of the loop, whose variable is `hasAssignedCurrentToNewShare`. -/
def shareConfig (userId : String) (existingCurrentConfig : Option DatabaseConfigUser)
    (hasAssignedCurrentToNewShare : Bool) (config : DatabaseConfig) : Op Bool := do
  let existingAccess ← read (·.link config.id userId)
  match existingAccess with
  | some _ => pure hasAssignedCurrentToNewShare
  | none => do
    let shouldBeCurrent := existingCurrentConfig.isNone && !hasAssignedCurrentToNewShare
    createLink { databaseConfigId := config.id, userId, isCurrent := shouldBeCurrent }
    pure (hasAssignedCurrentToNewShare || shouldBeCurrent)
def shareOrganisationDatabaseConfigs (organisationId userId : String) : Op Unit := do
  let databaseConfigs ← read fun t => t.databaseConfigs.filter (·.organisationId = some organisationId)
  let existingCurrentConfig ← read (currentLink · userId (some organisationId))
  let _ ← foldEach (shareConfig userId existingCurrentConfig) databaseConfigs false
  pure ()

/-- The ids of the configs without an organisation that the user has a link to. -/
def orphanedConfigIds (t : Tables) (userId : String) : List String :=
  (t.databaseConfigUsers.filter fun l => l.userId = userId ∧ t.inOrganisation l none).map (·.databaseConfigId)
def moveConfigs (configIds : List String) (organisationId : String) : Op Unit :=
  write fun t => .ok { t with databaseConfigs := t.databaseConfigs.map fun c =>
    if c.id ∈ configIds then { c with organisationId := some organisationId } else c }
def setCurrentMembership (organisationId userId : String) : Op Unit :=
  write fun t =>
    match t.membership organisationId userId with
    | none => .error recordNotFound
    | some _ => .ok { t with organisationUsers := t.organisationUsers.map fun m =>
        if m.organisationId = organisationId ∧ m.userId = userId then { m with isCurrent := true } else m }
def completeOnboarding (userId : String) : Op Unit :=
  write fun t =>
    match t.user userId with
    | none => .error recordNotFound
    | some _ => .ok { t with users := t.users.map fun u =>
        if u.id = userId then { u with hasCompletedOnboarding := true } else u }
/-- A user who shares one of the moved configs joins the organisation. -/
def migrateSharedUser (organisationId sharedUserId : String) : Op Unit := do
  let existingMembership ← read (·.membership organisationId sharedUserId)
  let hasCurrentOrg ← read fun t => t.organisationUsers.find? fun m => m.userId = sharedUserId ∧ m.isCurrent
  if existingMembership.isNone then
    createMember { organisationId, userId := sharedUserId, isCurrent := hasCurrentOrg.isNone }
  else if hasCurrentOrg.isNone then
    setCurrentMembership organisationId sharedUserId
  shareOrganisationDatabaseConfigs organisationId sharedUserId
  completeOnboarding sharedUserId
def migrateUserConfigsToOrganisation (organisationId userId : String) : Op Unit := do
  let configIds ← read (orphanedConfigIds · userId)
  if configIds = [] then pure ()
  else
    moveConfigs configIds organisationId
    let sharedUserIds ← read fun t =>
      ((t.databaseConfigUsers.filter fun l => l.databaseConfigId ∈ configIds ∧ l.userId ≠ userId).map (·.userId)).eraseDups
    foldEach (fun _ sharedUserId => migrateSharedUser organisationId sharedUserId) sharedUserIds ()

section
variable [CaseFolding] [Ids]
open Ids

/-! ### New organisations -/

/-- `replace(/[^a-z0-9]+/g, "-")`, after a replaced character or not. -/
def replaceRuns : Bool → List Char → List Char
  | _, [] => []
  | replaced, c :: rest =>
    if ('a' ≤ c ∧ c ≤ 'z') ∨ c.isDigit then c :: replaceRuns false rest
    else if replaced then replaceRuns true rest
    else '-' :: replaceRuns true rest
def generateOrganisationSlug (name randomSuffix : String) : String :=
  stripped (· = '-') (String.ofList (replaceRuns false (CaseFolding.toLower name).toList)) ++ "-" ++ randomSuffix
/-- The attempts, with the random suffix that each draws. -/
def generateUniqueOrganisationSlug (name : String) : List String → Op String
  | [] => fail "Unable to generate a unique organisation slug. Please try again or use a different name."
  | randomSuffix :: rest => do
    let slug := generateOrganisationSlug name randomSuffix
    let existing ← read fun t => t.organisations.find? (·.slug = slug)
    match existing with
    | none => pure slug
    | some _ => generateUniqueOrganisationSlug name rest
omit [Ids] in
theorem generateUniqueOrganisationSlug_ends {db : Database} (name : String) (randomSuffixes : List String) :
    (generateUniqueOrganisationSlug name randomSuffixes).Ends (fun _ s => s = db) db := by
  induction randomSuffixes with
  | nil => rfl
  | cons randomSuffix rest ih =>
    refine ends_read ?_
    split
    · exact ends_pure rfl
    · exact ih
def createOrganisation (session : Option String) (name : String) (randomSuffixes : List String) : Op String := do
  let user ← currentUser session
  let slug ← generateUniqueOrganisationSlug name (randomSuffixes.take 10)
  let id ← insert fun t =>
    let id := newId (t.organisations.map (·.id))
    .ok (id, { t with organisations := t.organisations ++ [{ id, name, slug, createdByUserId := user.id }] })
  createMember { organisationId := id, userId := user.id, role := "owner" }
  migrateUserConfigsToOrganisation id user.id
  pure id

/-! ### Invitations -/

def isEmailChar (c : Char) : Bool := c.isAlphanum || c ∈ ".!#$%&'*+/=?^_\x60\x7b|\x7d~-".toList
/-- A label of a domain: letters, digits and inner hyphens, 63 at most. -/
def isLabel (label : List Char) : Bool :=
  label.length ≤ 63 && label.all (fun c => c.isAlphanum || c = '-') && label.head?.any (·.isAlphanum) &&
    label.getLast?.any (·.isAlphanum)
/-- `EMAIL_REGEX`. -/
def isEmail (email : String) : Bool :=
  match email.toList.splitOn '@' with
  | [name, domain] => !name.isEmpty && name.all isEmailChar && (domain.splitOn '.').all isLabel
  | _ => false

/-- An existing user joins and gets the configs; `invited` is about everyone else. -/
structure InviteResult where
  added : Bool
  invited : Bool
  deriving DecidableEq, Repr
def inviteUserToOrganisation (session : Option String) (organisationId email : String) : Op InviteResult := do
  let user ← currentUser session
  let hasPermission ← hasAdminOrOwnerRole organisationId user.id
  throwIfError (!hasPermission) "Only organisation admins or owner can invite new members"
  let normalizedEmail := normalizeEmail email
  throwIfError (normalizedEmail = "") "Email cannot be empty"
  throwIfError (!isEmail normalizedEmail) "Invalid email format"
  let existingUser ← read fun t => t.users.find? (·.email = normalizedEmail)
  match existingUser with
  | some existing => do
    let existingMembership ← read (·.membership organisationId existing.id)
    throwIfError existingMembership.isSome "User is already a member of this organisation"
    createMember { organisationId, userId := existing.id }
    shareOrganisationDatabaseConfigs organisationId existing.id
    pure { added := true, invited := false }
  | none => do
    let existingInvite ← read fun t => t.organisationInvitedUsers.find? fun i =>
      i.organisationId = organisationId ∧ i.email = normalizedEmail
    throwIfError existingInvite.isSome "User has already been invited to this organisation"
    write fun t => .ok { t with organisationInvitedUsers := t.organisationInvitedUsers ++
      [{ id := newId (t.organisationInvitedUsers.map (·.id)), organisationId, email := normalizedEmail,
         invitedByUserId := user.id }] }
    pure { added := false, invited := true }
/-- The membership, the links and then the end of the invitation. -/
def joinByInvitation (invitation : OrganisationInvitedUser) (userId : String) : Op Unit := do
  createMember { organisationId := invitation.organisationId, userId }
  shareOrganisationDatabaseConfigs invitation.organisationId userId
  write fun t =>
    if t.organisationInvitedUsers.any (·.id = invitation.id) then
      .ok { t with organisationInvitedUsers := t.organisationInvitedUsers.filter (·.id ≠ invitation.id) }
    else .error recordNotFound
def acceptInvitation (session : Option String) (invitationId : String) : Op Unit := do
  let user ← currentUser session
  let invitation ← read fun t => t.organisationInvitedUsers.find? (·.id = invitationId)
  match invitation with
  | none => fail "Invitation not found"
  | some found => do
    throwIfError (normalizeEmail found.email ≠ normalizeEmail user.email) "This invitation is not for you"
    joinByInvitation found user.id
def moveInvitationsToMembership (email userId : String) : Op Unit := do
  let invitations ← read fun t => t.organisationInvitedUsers.filter (·.email = normalizeEmail email)
  foldEach (fun _ invitation => joinByInvitation invitation userId) invitations ()

end

end Openlit.Organisations
