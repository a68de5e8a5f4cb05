import Openlit.DbConfigs

/-!
How memberships end and change (`lib/organisation.ts`): updating and deleting an
organisation, declining and cancelling an invitation, removing a member and
changing a member's role.
-/
namespace Openlit.Memberships
open Openlit.Programs Openlit.Programs.Program Openlit.Text Openlit.Accounts Openlit.Organisations

def getUserRoleInOrganisation (organisationId userId : String) : Op (Option String) := do
  let membership ← read (·.membership organisationId userId)
  pure ((membership.map (·.role)).filter (· ≠ ""))
def organisationNotFound : String := "Organisation not found"
def findOrganisation (t : Tables) (id : String) : Option Organisation := t.organisations.find? (·.id = id)
def memberCount (t : Tables) (organisationId : String) : Nat :=
  (t.organisationUsers.filter (·.organisationId = organisationId)).length

/-! ### The organisation -/

def renameOrganisation (id name : String) : Op Unit :=
  write fun t =>
    match findOrganisation t id with
    | none => .error recordNotFound
    | some _ => .ok { t with organisations := t.organisations.map fun o => if o.id = id then { o with name } else o }
/-- `updateOrganisation`, of which an empty name is nothing to update. -/
def updateOrganisation (session : Option String) (id : String) (name : Option String) : Op Unit := do
  let user ← currentUser session
  let hasPermission ← hasAdminOrOwnerRole id user.id
  throwIfError (!hasPermission) "Only organisation admins or owner can update organisation settings"
  match name.filter (· ≠ "") with
  | none => fail "Nothing to update"
  | some name => renameOrganisation id name
/-- The deletion of an organisation, with its members and invitations. Its database configs are left without one. -/
def removeOrganisation (id : String) : Op Unit :=
  write fun t =>
    match findOrganisation t id with
    | none => .error recordNotFound
    | some _ => .ok { t with
        organisations := t.organisations.filter (·.id ≠ id)
        organisationUsers := t.organisationUsers.filter (·.organisationId ≠ id)
        organisationInvitedUsers := t.organisationInvitedUsers.filter (·.organisationId ≠ id)
        databaseConfigs := t.databaseConfigs.map fun c =>
          if c.organisationId = some id then { c with organisationId := none } else c }
/-- A user whose current membership has ended: the oldest of the others becomes the current one. -/
def setOldestCurrent (userId : String) : Op Unit := do
  let remainingOrgs ← read fun t => t.organisationUsers.find? (·.userId = userId)
  match remainingOrgs with
  | none => pure ()
  | some oldest => setCurrentMembership oldest.organisationId userId
def deleteOrganisation (session : Option String) (id : String) : Op Unit := do
  let user ← currentUser session
  let found ← read fun t => (findOrganisation t id).map fun o => (o, memberCount t id)
  match found with
  | none => fail organisationNotFound
  | some (organisation, members) => do
    throwIfError (organisation.createdByUserId ≠ user.id) "Only the creator can delete the organisation"
    throwIfError (members > 1) "Cannot delete organisation with other members"
    let membership ← read (·.membership id user.id)
    removeOrganisation id
    if membership.any (·.isCurrent) then setOldestCurrent user.id else pure ()

/-! ### Invitations -/

def deleteInvitation (invitationId : String) : Op Unit :=
  write fun t =>
    if t.organisationInvitedUsers.any (·.id = invitationId) then
      .ok { t with organisationInvitedUsers := t.organisationInvitedUsers.filter (·.id ≠ invitationId) }
    else .error recordNotFound
def declineInvitation [CaseFolding] (session : Option String) (invitationId : String) : Op Unit := do
  let user ← currentUser session
  let invitation ← read fun t => t.organisationInvitedUsers.find? (·.id = invitationId)
  match invitation with
  | none => fail "Invitation not found"
  | some found => do
    throwIfError (normalizeEmail found.email ≠ normalizeEmail user.email) "This invitation is not for you"
    deleteInvitation invitationId
def cancelInvitation (session : Option String) (invitationId : String) : Op Unit := do
  let user ← currentUser session
  let invitation ← read fun t => t.organisationInvitedUsers.find? (·.id = invitationId)
  match invitation with
  | none => fail "Invitation not found"
  | some found => do
    let hasPermission ← hasAdminOrOwnerRole found.organisationId user.id
    throwIfError (!hasPermission) "Only organisation admins or owner can cancel invitations"
    deleteInvitation invitationId

/-! ### Members -/

def cannotRemoveAdminOrOwner : String := "Only the owner can remove admins or other owners"
/-- The checks of `removeUserFromOrganisation`, for a member who leaves and for one who is removed. -/
def checkRemoval (organisation : Organisation) (currentUserId userId : String) : Op Unit :=
  if userId = currentUserId then
    if userId = organisation.createdByUserId then do
      let members ← read (memberCount · organisation.id)
      if members > 1 then
        fail "Cannot leave organisation while other members exist. Transfer ownership or remove other members first."
      else fail "Cannot leave organisation as the sole member. Delete the organisation instead."
    else pure ()
  else do
    let currentUserRole ← getUserRoleInOrganisation organisation.id currentUserId
    throwIfError currentUserRole.isNone notOrganisationMember
    let targetUserRole ← getUserRoleInOrganisation organisation.id userId
    let hasPermission := currentUserRole = some "owner" ∨ currentUserRole = some "admin"
    throwIfError (¬ hasPermission) "Only organisation admins or owner can remove members"
    throwIfError ((targetUserRole = some "admin" ∨ targetUserRole = some "owner") ∧ currentUserRole ≠ some "owner")
      cannotRemoveAdminOrOwner
    throwIfError (userId = organisation.createdByUserId) cannotRemoveAdminOrOwner
def deleteMember (organisationId userId : String) : Op Unit :=
  write fun t =>
    match t.membership organisationId userId with
    | none => .error recordNotFound
    | some _ => .ok { t with organisationUsers := t.organisationUsers.filter fun m =>
        ¬(m.organisationId = organisationId ∧ m.userId = userId) }
/-- The end of a membership: the links to the configs of the organisation, then the membership itself. -/
def endMembership (organisationId userId : String) : Op Unit := do
  let membership ← read (·.membership organisationId userId)
  write fun t => .ok { t with databaseConfigUsers := t.databaseConfigUsers.filter fun l =>
    ¬(l.userId = userId ∧ t.inOrganisation l (some organisationId)) }
  deleteMember organisationId userId
  if membership.any (·.isCurrent) then setOldestCurrent userId else pure ()
def removeUserFromOrganisation (session : Option String) (organisationId userId : String) : Op Unit := do
  let user ← currentUser session
  let organisation ← read (findOrganisation · organisationId)
  match organisation with
  | none => fail organisationNotFound
  | some organisation => do
    checkRemoval organisation user.id userId
    endMembership organisationId userId

def setRole (organisationId userId role : String) : Op Unit :=
  write fun t =>
    match t.membership organisationId userId with
    | none => .error recordNotFound
    | some _ => .ok { t with organisationUsers := t.organisationUsers.map fun m =>
        if m.organisationId = organisationId ∧ m.userId = userId then { m with role } else m }
/-- The checks of `updateMemberRole`. -/
def checkRoleChange (organisation : Organisation) (currentUserId userId role : String) : Op Unit := do
  throwIfError (role ∉ ["member", "admin"]) "Invalid role. Must be 'member' or 'admin'"
  throwIfError (userId = organisation.createdByUserId) "Cannot change the owner's role"
  let currentUserRole ← getUserRoleInOrganisation organisation.id currentUserId
  throwIfError currentUserRole.isNone notOrganisationMember
  let targetUserRole ← getUserRoleInOrganisation organisation.id userId
  throwIfError targetUserRole.isNone notOrganisationMember
  let hasPermission := currentUserRole = some "owner" ∨ currentUserRole = some "admin"
  throwIfError (¬ hasPermission) "Only organisation admins or owner can update member roles"
  throwIfError (targetUserRole = some "admin" ∧ currentUserRole ≠ some "owner") "Only the owner can change admin roles"
def updateMemberRole (session : Option String) (organisationId userId role : String) : Op Unit := do
  let user ← currentUser session
  let organisation ← read (findOrganisation · organisationId)
  match organisation with
  | none => fail organisationNotFound
  | some organisation => do
    checkRoleChange organisation user.id userId role
    setRole organisationId userId role

end Openlit.Memberships
