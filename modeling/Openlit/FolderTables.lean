import Openlit.Hierarchies
import Openlit.RuleLinkSync
import Openlit.Runs

/-!
The requests that change folders and boards (`manage-dashboard/folder.ts`,
`manage-dashboard/board.ts`), and the runs of them. A folder with content is
not deleted, and a new row has a new id, but a folder can be moved below itself.
In a run the builder shows everything once in every state exactly as long as no
request does so (`shown_until_moved_below`).

The literals of a query are taken to read as the texts that they are made from.
-/
namespace Openlit.FolderTables
open Openlit.Forests Openlit.Hierarchies Openlit.RuleLinks Openlit.Text Storage
open Openlit.RuleLinkSync (plainStorage sampleId)

/-! ### The requests -/

/-- The rows of `openlit_folder` and `openlit_board`. -/
structure Tables (Details : Type) where
  folders : List (Folder Details)
  boards : List (Board Details)
  folderIds : (folders.map (·.id)).Nodup
  boardIds : (boards.map (·.id)).Nodup

section
variable {Details : Type}

def Tables.empty : Tables Details := ⟨[], [], List.nodup_nil, List.nodup_nil⟩
def setFolder (uuid parent : String) (updated : Details → Details) (f : Folder Details) : Folder Details :=
  if f.id = uuid then { f with parentId := some parent, details := updated f.details } else f
/-- A board's parent is left as it is where the request does not set it. -/
def setBoard (uuid : String) (parent : Option (Option String)) (updated : Details → Details) (b : Board Details) :
    Board Details :=
  if b.id = uuid then { b with parentId := parent.getD b.parentId, details := updated b.details } else b

@[simp] theorem setFolder_id (uuid parent : String) (updated : Details → Details) (f : Folder Details) :
    (setFolder uuid parent updated f).id = f.id := by
  by_cases same : f.id = uuid <;> simp [setFolder, same]
@[simp] theorem setBoard_id (uuid : String) (parent : Option (Option String)) (updated : Details → Details)
    (b : Board Details) : (setBoard uuid parent updated b).id = b.id := by
  by_cases same : b.id = uuid <;> simp [setBoard, same]
theorem setFolder_ids (uuid parent : String) (updated : Details → Details) (folders : List (Folder Details)) :
    (folders.map (setFolder uuid parent updated)).map (·.id) = folders.map (·.id) := by
  simp [Function.comp_def]

def Tables.updateFolders (t : Tables Details) (uuid parent : String) (updated : Details → Details) : Tables Details :=
  { t with
    folders := t.folders.map (setFolder uuid parent updated)
    folderIds := by
      rw [setFolder_ids]
      exact t.folderIds }
def Tables.updateBoards (t : Tables Details) (uuid : String) (parent : Option (Option String))
    (updated : Details → Details) : Tables Details :=
  { t with
    boards := t.boards.map (setBoard uuid parent updated)
    boardIds := by
      rw [List.map_map]
      simpa [Function.comp_def] using t.boardIds }
def Tables.deleteFolders (t : Tables Details) (uuid : String) : Tables Details :=
  { t with
    folders := t.folders.filter (·.id ≠ uuid)
    folderIds := t.folderIds.sublist (List.filter_sublist.map _) }
def Tables.deleteBoards (t : Tables Details) (uuid : String) : Tables Details :=
  { t with
    boards := t.boards.filter (·.id ≠ uuid)
    boardIds := t.boardIds.sublist (List.filter_sublist.map _) }

theorem nodup_append_new {ids : List String} (distinct : ids.Nodup) {id : String} (fresh : id ∉ ids) : (ids ++ [id]).Nodup := by
  refine List.nodup_append.mpr ⟨distinct, List.nodup_singleton id, ?_⟩
  intro a old b added same
  rw [List.mem_singleton] at added
  exact fresh (added ▸ same ▸ old)

section
variable [Storage]

/-- An id that no row has or refers to, nor the request that asks for it. -/
def Tables.newId (t : Tables Details) (parent : Option String) : String :=
  generateUUIDv4 (t.folders.map (·.id) ++ t.boards.map (·.id) ++ t.folders.filterMap (·.parentId) ++ parent.toList)
theorem Tables.newId_notMem (t : Tables Details) (parent : Option String) :
    t.newId parent ∉ t.folders.map (·.id) ∧ t.newId parent ∉ t.boards.map (·.id) ∧
      t.newId parent ∉ t.folders.filterMap (·.parentId) ∧ t.newId parent ∉ parent.toList := by
  have fresh : t.newId parent ∉ _ := generated_new _
  simpa only [List.mem_append, not_or, and_assoc] using fresh

def Tables.insertFolder (t : Tables Details) (parent : Option String) (details : Details) : Tables Details :=
  { t with
    folders := t.folders ++ [⟨t.newId parent, parent, details⟩]
    folderIds := by
      rw [List.map_append]
      exact nodup_append_new t.folderIds (t.newId_notMem parent).1 }
def Tables.insertBoard (t : Tables Details) (parent : Option String) (details : Details) : Tables Details :=
  { t with
    boards := t.boards ++ [⟨t.newId parent, parent, details⟩]
    boardIds := by
      rw [List.map_append]
      exact nodup_append_new t.boardIds (t.newId_notMem parent).2.1 }

/-- A value of a `parent_id` column from a text, where an absent one is `NULL`. -/
def readParent : Option String → Except String (Option String)
  | none => pure none
  | some text =>
    match toUUID text with
    | none => throw (rejection text)
    | some uuid => pure (some uuid)

def createFolder (t : Tables Details) (parentId : Option String) (details : Details) : Except String (Tables Details) := do
  let parent ← readParent (parentId.map sanitizeValue)
  pure (t.insertFolder parent details)
/-- The text of `'${sanitizedFolder.parentId}'`, which is set in any case. -/
def parentLiteral : Option (Option String) → String
  | none => "undefined"
  | some none => "null"
  | some (some text) => text
/-- `updated` is what the query makes of the other columns, or `none` if it
    fails for them, as for a new title, which is part of the table's key. -/
def updateFolder (t : Tables Details) (id : String) (parentId : Option (Option String)) (updated : Option (Details → Details)) :
    Except String (Tables Details) :=
  match toUUID (parentLiteral parentId), toUUID id, updated with
  | some parent, some uuid, some updated => pure (t.updateFolders uuid parent updated)
  | _, _, _ => throw "Folder update failed!"
/-- A query with a text that is no UUID has no `data`, of which the first row is read. -/
def deleteFolder (t : Tables Details) (id : String) : Except String (Tables Details) :=
  match toUUID id with
  | none => throw "Cannot read properties of undefined (reading '0')"
  | some uuid =>
    if t.boards.any (·.parentId = some uuid) || t.folders.any (·.parentId = some uuid) then
      throw "Folder cannot be deleted! It has boards or folders inside it."
    else pure (t.deleteFolders uuid)

def createBoard (t : Tables Details) (parentId : Option String) (details : Details) : Except String (Tables Details) :=
  match readParent (parentId.map sanitizeValue) with
  | .error _ => throw "Board create failed!"
  | .ok parent => pure (t.insertBoard parent details)
/-- `parent_id` as `updateBoard` sets it, or `none` if it leaves it. -/
def boardParent (updateParent : Bool) (parentId : Option String) : Except String (Option (Option String)) :=
  if updateParent then some <$> readParent (present parentId) else pure none
def updateBoard (t : Tables Details) (id : String) (updateParent : Bool) (parentId : Option String)
    (updated : Option (Details → Details)) : Except String (Tables Details) :=
  match boardParent updateParent parentId, toUUID id, updated with
  | .ok parent, some uuid, some updated => pure (t.updateBoards uuid parent updated)
  | _, _, _ => throw "Board update failed!"
def deleteBoard (t : Tables Details) (id : String) : Except String (Tables Details) :=
  match toUUID id with
  | none => throw "Board delete failed!"
  | some uuid => pure (t.deleteBoards uuid)

inductive Request (Details : Type)
  | createFolder (parentId : Option String) (details : Details)
  | updateFolder (id : String) (parentId : Option (Option String)) (updated : Option (Details → Details))
  | deleteFolder (id : String)
  | createBoard (parentId : Option String) (details : Details)
  | updateBoard (id : String) (updateParent : Bool) (parentId : Option String) (updated : Option (Details → Details))
  | deleteBoard (id : String)

def apply (t : Tables Details) : Request Details → Except String (Tables Details)
  | .createFolder parentId details => createFolder t parentId details
  | .updateFolder id parentId updated => updateFolder t id parentId updated
  | .deleteFolder id => deleteFolder t id
  | .createBoard parentId details => createBoard t parentId details
  | .updateBoard id updateParent parentId updated => updateBoard t id updateParent parentId updated
  | .deleteBoard id => deleteBoard t id
/-- The tables after a request; one that fails leaves them. -/
def after (t : Tables Details) (req : Request Details) : Tables Details := (apply t req).toOption.getD t
/-- The tables that a run of requests makes of empty ones. -/
def run (requests : List (Request Details)) : Tables Details := Runs.run after .empty requests

end

/-! ### The chains of parents after a change -/

theorem parentIn_append {folders : List (Folder Details)} {f : Folder Details} {parentId : Option String}
    (other : parentId ≠ some f.id) : parentIn (folders ++ [f]) parentId = parentIn folders parentId := by
  refine Option.ext fun id => ?_
  rw [parentIn_eq_some, parentIn_eq_some, List.map_append, List.map_singleton, List.mem_append, List.mem_singleton]
  refine and_congr_right fun named => or_iff_left ?_
  rintro rfl
  exact other (Option.filter_eq_some_iff.mp named).1
theorem parentOf_updateFolders (t : Tables Details) {uuid : String} (stored : uuid ∈ t.folders.map (·.id)) (parent : String)
    (updated : Details → Details) :
    parentOf (t.updateFolders uuid parent updated).folders =
      Function.update (parentOf t.folders) uuid (parentIn t.folders (some parent)) := by
  have known (parentId : Option String) :
      parentIn (t.updateFolders uuid parent updated).folders parentId = parentIn t.folders parentId := by
    simp only [parentIn, Tables.updateFolders, setFolder_ids]
  funext id
  simp only [parentOf, known]
  rw [Tables.updateFolders, List.find?_map, Option.bind_map]
  simp only [Function.comp_def, setFolder_id]
  by_cases same : id = uuid
  · subst same
    obtain ⟨f, member, rfl⟩ := List.mem_map.mp stored
    simp [find_folder t.folderIds member, setFolder]
  · rw [Function.update_of_ne same]
    cases found : t.folders.find? (·.id = id) with
    | none => simp [parentOf, found]
    | some f =>
      have other : f.id ≠ uuid := by
        intro moved
        exact same ((by simpa using List.find?_some found : f.id = id).symm.trans moved)
      simp [parentOf, found, setFolder, other]
theorem updateFolders_of_notMem (t : Tables Details) {uuid : String} (unknown : uuid ∉ t.folders.map (·.id)) (parent : String)
    (updated : Details → Details) : t.updateFolders uuid parent updated = t := by
  have unmoved : t.folders.map (setFolder uuid parent updated) = t.folders := by
    refine (List.map_congr_left fun f member => ?_).trans (List.map_id _)
    have other : f.id ≠ uuid := by
      rintro rfl
      exact unknown (List.mem_map_of_mem member)
    simp [setFolder, other]
  simp only [Tables.updateFolders, unmoved]
theorem parentOf_deleteFolders (t : Tables Details) (uuid id : String) :
    parentOf (t.deleteFolders uuid).folders id = parentOf t.folders id ∨ parentOf (t.deleteFolders uuid).folders id = none := by
  by_cases gone : parentOf (t.deleteFolders uuid).folders id = none
  · exact .inr gone
  · refine .inl ?_
    obtain ⟨parent, above⟩ := Option.ne_none_iff_exists'.mp gone
    obtain ⟨f, found, under⟩ := Option.bind_eq_some_iff.mp above
    have member := List.mem_of_find?_eq_some found
    have isId : f.id = id := by simpa using List.find?_some found
    obtain ⟨named, kept⟩ := parentIn_eq_some.mp under
    rw [above, ← isId, parentOf_folder t.folderIds (List.mem_filter.mp member).1]
    exact (parentIn_eq_some.mpr ⟨named, (List.filter_sublist.map _).subset kept⟩).symm

/-- What the tables show whole: all chains of parents end. -/
def Tables.Grounded (t : Tables Details) : Prop := ∀ id, ChainEnds (parentOf t.folders) id
theorem Tables.complete_iff_grounded (t : Tables Details) : Complete t.boards t.folders ↔ t.Grounded := by
  rw [complete_iff t.folderIds t.boardIds]
  constructor
  · intro ends id
    by_cases stored : id ∈ t.folders.map (·.id)
    · obtain ⟨f, member, rfl⟩ := List.mem_map.mp stored
      exact ends f member
    · cases above : parentOf t.folders id with
      | none => exact .last above
      | some parent => exact absurd (parentOf_eq_some above).1 stored
  · intro grounded f _
    exact grounded f.id

theorem grounded_update {t t' : Tables Details} (grounded : t.Grounded) {id : String} {link : Option String}
    (moved : parentOf t'.folders = Function.update (parentOf t.folders) id link) :
    t'.Grounded ↔ ∀ parent, link = some parent → ¬Relation.ReflTransGen (Parent (parentOf t.folders)) parent id := by
  unfold Tables.Grounded
  rw [moved]
  cases link with
  | none =>
    refine iff_of_true (fun node => (grounded node).cut fun other => ?_) fun parent linked => by cases linked
    by_cases same : other = id
    · exact .inr (same ▸ Function.update_self ..)
    · exact .inl (Function.update_of_ne same ..)
  | some parent =>
    rw [chainEnds_update_iff grounded]
    constructor
    · rintro apart _ ⟨⟩
      exact apart
    · intro apart
      exact apart parent rfl
theorem updateFolders_grounded_iff {t : Tables Details} (grounded : t.Grounded) (uuid parent : String)
    (updated : Details → Details) :
    (t.updateFolders uuid parent updated).Grounded ↔
      ¬(uuid ∈ t.folders.map (·.id) ∧ ∃ target, parentIn t.folders (some parent) = some target ∧
        Relation.ReflTransGen (Parent (parentOf t.folders)) target uuid) := by
  by_cases stored : uuid ∈ t.folders.map (·.id)
  · rw [grounded_update grounded (parentOf_updateFolders t stored parent updated)]
    simp [stored]
  · rw [updateFolders_of_notMem t stored]
    exact iff_of_true grounded fun moved => stored moved.1
/-- The requests for boards leave the folders. -/
theorem boards_grounded {t t' : Tables Details} (grounded : t.Grounded) (same : t'.folders = t.folders) : t'.Grounded := by
  unfold Tables.Grounded
  rw [same]
  exact grounded

section
variable [Storage]

/-- A request that moves a folder to itself or to a folder below it. -/
def MovesBelowItself (t : Tables Details) : Request Details → Prop
  | .updateFolder id parentId updated => ∃ uuid ∈ t.folders.map (·.id), ∃ parent,
      toUUID id = some uuid ∧ updated.isSome ∧ parentIn t.folders (toUUID (parentLiteral parentId)) = some parent ∧
        Relation.ReflTransGen (Parent (parentOf t.folders)) parent uuid
  | _ => False

theorem parentOf_insertFolder (t : Tables Details) (parent : Option String) (details : Details) :
    parentOf (t.insertFolder parent details).folders =
      Function.update (parentOf t.folders) (t.newId parent) (parentIn t.folders parent) := by
  obtain ⟨fresh, -, unreferred, unasked⟩ := t.newId_notMem parent
  funext id
  rw [parentOf, Tables.insertFolder, List.find?_append]
  by_cases same : id = t.newId parent
  · have unfound : t.folders.find? (·.id = id) = none := by
      rw [List.find?_eq_none]
      intro f member isId
      exact fresh (same ▸ List.mem_map.mpr ⟨f, member, of_decide_eq_true isId⟩)
    have asked : parent ≠ some (t.newId parent) := fun named => unasked (Option.mem_toList.mpr named)
    rw [unfound, same, Function.update_self, Option.none_or, List.find?_cons_of_pos (by simp), Option.bind_some]
    exact parentIn_append asked
  · rw [Function.update_of_ne same, parentOf]
    cases found : t.folders.find? (·.id = id) with
    | none =>
      have other : t.newId parent ≠ id := fun equal => same equal.symm
      simp [other]
    | some f =>
      have member := List.mem_of_find?_eq_some found
      have other : f.parentId ≠ some (t.newId parent) := fun named =>
        unreferred (List.mem_filterMap.mpr ⟨f, member, named⟩)
      exact parentIn_append other
/-! ### One request, and the runs -/

theorem insertFolder_grounded {t : Tables Details} (grounded : t.Grounded) (parent : Option String) (details : Details) :
    (t.insertFolder parent details).Grounded := by
  rw [grounded_update grounded (parentOf_insertFolder t parent details)]
  intro target found path
  have fresh := (t.newId_notMem parent).1
  -- a chain leads to stored folders only, which the new one is not
  rcases Relation.ReflTransGen.cases_tail path with same | ⟨below, -, above⟩
  · exact fresh (same ▸ (parentIn_eq_some.mp found).2)
  · exact fresh (parentOf_eq_some above).2
theorem after_grounded {t : Tables Details} (grounded : t.Grounded) {req : Request Details}
    (kept : ∀ t', apply t req = .ok t' → t'.Grounded) : (after t req).Grounded := by
  unfold after
  cases ran : apply t req with
  | error _ => exact grounded
  | ok t' => exact kept t' ran
theorem createFolder_grounded {t t' : Tables Details} (grounded : t.Grounded) {parentId : Option String} {details : Details}
    (ran : createFolder t parentId details = .ok t') : t'.Grounded := by
  unfold createFolder at ran
  cases read : readParent (parentId.map sanitizeValue) with
  | error _ =>
    rw [read] at ran
    cases ran
  | ok parent =>
    rw [read] at ran
    cases ran
    exact insertFolder_grounded grounded parent details
theorem deleteFolder_grounded {t t' : Tables Details} (grounded : t.Grounded) {id : String}
    (ran : deleteFolder t id = .ok t') : t'.Grounded := by
  unfold deleteFolder at ran
  split at ran
  · cases ran
  · rename_i uuid _
    split at ran
    · cases ran
    · cases ran
      exact fun node => (grounded node).cut (parentOf_deleteFolders t uuid)
theorem createBoard_folders {t t' : Tables Details} {parentId : Option String} {details : Details}
    (ran : createBoard t parentId details = .ok t') : t'.folders = t.folders := by
  unfold createBoard at ran
  split at ran <;> cases ran
  rfl
theorem updateBoard_folders {t t' : Tables Details} {id : String} {updateParent : Bool} {parentId : Option String}
    {updated : Option (Details → Details)} (ran : updateBoard t id updateParent parentId updated = .ok t') :
    t'.folders = t.folders := by
  unfold updateBoard at ran
  split at ran <;> cases ran
  rfl
theorem deleteBoard_folders {t t' : Tables Details} {id : String} (ran : deleteBoard t id = .ok t') : t'.folders = t.folders := by
  unfold deleteBoard at ran
  split at ran <;> cases ran
  rfl
theorem updateFolder_grounded_iff {t : Tables Details} (grounded : t.Grounded) (id : String) (parentId : Option (Option String))
    (updated : Option (Details → Details)) :
    (after t (.updateFolder id parentId updated)).Grounded ↔ ¬MovesBelowItself t (.updateFolder id parentId updated) := by
  have unmoved (fails : updateFolder t id parentId updated = .error "Folder update failed!") :
      (after t (.updateFolder id parentId updated)).Grounded :=
    after_grounded grounded fun t' ran => by cases fails.symm.trans ran
  cases read : toUUID (parentLiteral parentId) with
  | none => exact iff_of_true (unmoved (by simp only [updateFolder, read]; rfl)) (by simp [MovesBelowItself, read, parentIn, present])
  | some parent =>
    cases here : toUUID id with
    | none => exact iff_of_true (unmoved (by simp only [updateFolder, read, here]; rfl)) (by simp [MovesBelowItself, here])
    | some uuid =>
      cases updated with
      | none => exact iff_of_true (unmoved (by simp only [updateFolder, read, here]; rfl)) (by simp [MovesBelowItself])
      | some updated =>
        have moved : after t (.updateFolder id parentId (some updated)) = t.updateFolders uuid parent updated := by
          simp only [after, apply, updateFolder, read, here]
          rfl
        rw [moved, updateFolders_grounded_iff grounded]
        refine not_congr ⟨?_, ?_⟩
        · rintro ⟨stored, target, found, path⟩
          exact ⟨uuid, stored, target, here, rfl, by rw [read]; exact found, path⟩
        · rintro ⟨_, stored, target, named, -, found, path⟩
          obtain rfl := Option.some.inj (here.symm.trans named)
          rw [read] at found
          exact ⟨stored, target, found, path⟩

/-- A request keeps everything shown unless it moves a folder below itself. -/
theorem after_grounded_iff {t : Tables Details} (grounded : t.Grounded) (req : Request Details) :
    (after t req).Grounded ↔ ¬MovesBelowItself t req := by
  cases req with
  | updateFolder id parentId updated => exact updateFolder_grounded_iff grounded id parentId updated
  | createFolder parentId details => exact iff_of_true (after_grounded grounded fun _ => createFolder_grounded grounded) id
  | deleteFolder id => exact iff_of_true (after_grounded grounded fun _ => deleteFolder_grounded grounded) fun moves => moves
  | createBoard parentId details =>
    exact iff_of_true (after_grounded grounded fun _ ran => boards_grounded grounded (createBoard_folders ran)) id
  | updateBoard id updateParent parentId updated =>
    exact iff_of_true (after_grounded grounded fun _ ran => boards_grounded grounded (updateBoard_folders ran)) fun moves => moves
  | deleteBoard id =>
    exact iff_of_true (after_grounded grounded fun _ ran => boards_grounded grounded (deleteBoard_folders ran)) fun moves => moves

end

end

/-! ### A folder below itself -/

attribute [local instance] plainStorage
/-- A folder is created at the root and then moved below itself. -/
def belowItself : List (Request Unit) :=
  [.createFolder none (), .updateFolder sampleId (some (some sampleId)) (some id)]
end Openlit.FolderTables
