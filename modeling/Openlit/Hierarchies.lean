import Mathlib.Data.List.Nodup
import Mathlib.Logic.Function.Basic
import Mathlib.Logic.Relation
import Openlit.Forests
import Openlit.RuleLinks
import Openlit.Text

/-!
Folders and boards as the explorer shows them (`manage-dashboard/heirarchy.ts`),
and what changes them (`manage-dashboard/folder.ts`, `manage-dashboard/board.ts`).
A folder whose parent is gone is shown at the root, and a folder with content
cannot be deleted, but nothing keeps a folder from being moved below itself: its
chain of parents then never ends, and what hangs on it is shown nowhere
(`complete_iff`). Every run that moves no folder so shows everything once.
-/
namespace Openlit.Hierarchies
open Openlit.Forests Openlit.RuleLinks Openlit.Text

/-! ### The hierarchy -/

/-- A row of `openlit_folder`; its details are its title, description and tags. -/
structure Folder (Details : Type) where
  id : String
  parentId : Option String
  details : Details
/-- A row of `openlit_board`; its details are its texts and flags. -/
structure Board (Details : Type) where
  id : String
  parentId : Option String
  details : Details

/-- A child of a node: a folder by its entry of `folderMap`, or a board. -/
inductive Item (Details : Type)
  | folder (id : String)
  | board (board : Board Details)
structure FolderHeirarchy (Details : Type) where
  folder : Folder Details
  children : List (Item Details)
  boards : List (Board Details)
/-- What `buildHierarchy` returns: the roots, and the map of the folders that they refer to. -/
structure Hierarchy (Details : Type) where
  folderMap : String → Option (FolderHeirarchy Details)
  rootNodes : List (Item Details)

section
variable {Details : Type}

/-- The parent of an entry that the map has. -/
def knownParent (folderMap : String → Option (FolderHeirarchy Details)) (parentId : Option String) : Option String :=
  (present parentId).filter fun id => (folderMap id).isSome
/-- A push to the children of a folder, and to its boards. -/
def pushChild (folderMap : String → Option (FolderHeirarchy Details)) (id : String) (item : Item Details)
    (boards : List (Board Details)) : String → Option (FolderHeirarchy Details) :=
  Function.update folderMap id ((folderMap id).map fun node =>
    { node with children := node.children ++ [item], boards := node.boards ++ boards })

def initFolder (folderMap : String → Option (FolderHeirarchy Details)) (folder : Folder Details) :
    String → Option (FolderHeirarchy Details) :=
  Function.update folderMap folder.id (some { folder, children := [], boards := [] })
/-- A folder goes to its parent, with the ids of `processedFolders`. -/
def linkFolder (state : (String → Option (FolderHeirarchy Details)) × List String) (folder : Folder Details) :
    (String → Option (FolderHeirarchy Details)) × List String :=
  match knownParent state.1 folder.parentId with
  | some parent => (pushChild state.1 parent (.folder folder.id) [], state.2 ++ [folder.id])
  | none => state
def isRootFolder (folderMap : String → Option (FolderHeirarchy Details)) (processedFolders : List String)
    (folder : Folder Details) : Bool :=
  (knownParent folderMap folder.parentId).isNone && !processedFolders.contains folder.id && (folderMap folder.id).isSome
def addRoot (folderMap : String → Option (FolderHeirarchy Details)) (processedFolders : List String)
    (rootNodes : List (Item Details)) (folder : Folder Details) : List (Item Details) :=
  if isRootFolder folderMap processedFolders folder then rootNodes ++ [.folder folder.id] else rootNodes
def assignBoard (hierarchy : Hierarchy Details) (board : Board Details) : Hierarchy Details :=
  match knownParent hierarchy.folderMap board.parentId with
  | some parent => { hierarchy with folderMap := pushChild hierarchy.folderMap parent (.board board) [board] }
  | none => { hierarchy with rootNodes := hierarchy.rootNodes ++ [.board board] }
def buildHierarchy (boards : List (Board Details)) (folders : List (Folder Details)) : Hierarchy Details :=
  let initial := folders.foldl initFolder fun _ => none
  let (folderMap, processedFolders) := folders.foldl linkFolder (initial, [])
  let rootNodes := folders.foldl (addRoot folderMap processedFolders) []
  boards.foldl assignBoard { folderMap, rootNodes }

/-! ### What is shown -/

/-- What an item stands for. -/
inductive Shown (Details : Type)
  | folder (folder : Folder Details)
  | board (board : Board Details)

def Hierarchy.children (hierarchy : Hierarchy Details) : Item Details → List (Item Details)
  | .folder id => ((hierarchy.folderMap id).map (·.children)).getD []
  | .board _ => []
/-- The item at a path of positions, from the roots through the children. -/
def Hierarchy.itemAt (hierarchy : Hierarchy Details) : List Nat → Option (Item Details) :=
  nodeAt hierarchy.rootNodes hierarchy.children
def Hierarchy.shown (hierarchy : Hierarchy Details) : Item Details → Option (Shown Details)
  | .folder id => (hierarchy.folderMap id).map fun node => .folder node.folder
  | .board board => some (.board board)
def Hierarchy.shownAt (hierarchy : Hierarchy Details) (path : List Nat) : Option (Shown Details) :=
  (hierarchy.itemAt path).bind hierarchy.shown

/-- Every folder and every board is at exactly one place of the hierarchy. -/
def Complete (boards : List (Board Details)) (folders : List (Folder Details)) : Prop :=
  (∀ f ∈ folders, ∃! path, (buildHierarchy boards folders).shownAt path = some (.folder f)) ∧
    ∀ b ∈ boards, ∃! path, (buildHierarchy boards folders).shownAt path = some (.board b)

/-! ### What the builder makes of the rows -/

/-- The parent of an entry, if there is such a folder. -/
def parentIn (folders : List (Folder Details)) (parentId : Option String) : Option String :=
  (present parentId).filter fun id => id ∈ folders.map (·.id)

section
variable {folderMap : String → Option (FolderHeirarchy Details)}

theorem pushChild_apply (parent : String) (item : Item Details) (boards : List (Board Details)) (id : String) :
    pushChild folderMap parent item boards id =
      (folderMap id).map fun node =>
        if id = parent then { node with children := node.children ++ [item], boards := node.boards ++ boards } else node := by
  unfold pushChild
  by_cases same : id = parent
  · subst same
    simp
  · simp [same]
theorem knownParent_congr {other : String → Option (FolderHeirarchy Details)}
    (same : ∀ id, (other id).isSome = (folderMap id).isSome) (parentId : Option String) :
    knownParent other parentId = knownParent folderMap parentId := by
  simp only [knownParent, same]
theorem knownParent_eq_some {parentId : Option String} {id : String} :
    knownParent folderMap parentId = some id ↔ present parentId = some id ∧ (folderMap id).isSome := by
  simp [knownParent, Option.filter_eq_some_iff]

theorem initFolder_foldl {folders : List (Folder Details)} (distinct : (folders.map (·.id)).Nodup) (id : String) :
    folders.foldl initFolder folderMap id =
      ((folders.find? (·.id = id)).map fun folder => { folder, children := [], boards := [] }).or (folderMap id) := by
  induction folders generalizing folderMap with
  | nil => rfl
  | cons f folders ih =>
    rw [List.map_cons, List.nodup_cons] at distinct
    rw [List.foldl_cons, ih distinct.2]
    by_cases same : f.id = id
    · have later : folders.find? (·.id = id) = none := by
        rw [List.find?_eq_none]
        intro g member isId
        exact distinct.1 (same ▸ List.mem_map.mpr ⟨g, member, by simpa using isId⟩)
      subst same
      simp [later, initFolder]
    · have other : id ≠ f.id := fun equal => same equal.symm
      simp [same, other, initFolder]
/-- Every folder with a known parent is pushed to it, and nothing else happens. -/
theorem linkFolder_foldl (folders : List (Folder Details)) (processed : List String) :
    (∀ id, (folders.foldl linkFolder (folderMap, processed)).1 id =
      (folderMap id).map fun node => { node with
        children := node.children ++ (folders.filter fun f => present f.parentId = some id).map (.folder ·.id) }) ∧
      (folders.foldl linkFolder (folderMap, processed)).2 =
        processed ++ (folders.filter fun f => (knownParent folderMap f.parentId).isSome).map (·.id) := by
  induction folders generalizing folderMap processed with
  | nil => simp
  | cons f folders ih =>
    rw [List.foldl_cons, linkFolder]
    cases known : knownParent folderMap f.parentId with
    | none =>
      obtain ⟨children, listed⟩ := @ih folderMap processed
      refine ⟨fun id => ?_, by simp [listed, known]⟩
      rw [children id]
      cases there : folderMap id with
      | none => rfl
      | some node =>
        have other : present f.parentId ≠ some id := fun named => by
          rw [knownParent_eq_some.mpr ⟨named, by rw [there]; rfl⟩] at known
          cases known
        simp [other]
    | some parent =>
      obtain ⟨named, -⟩ := knownParent_eq_some.mp known
      have domain (id : String) : (pushChild folderMap parent (.folder f.id) [] id).isSome = (folderMap id).isSome := by
        rw [pushChild_apply, Option.isSome_map]
      obtain ⟨children, listed⟩ := @ih (pushChild folderMap parent (.folder f.id) []) (processed ++ [f.id])
      refine ⟨fun id => ?_, ?_⟩
      · rw [children id, pushChild_apply, Option.map_map]
        congr 1
        funext node
        by_cases same : id = parent
        · simp [same, named]
        · have other : parent ≠ id := fun equal => same equal.symm
          simp [same, named, other]
      · rw [listed]
        simp only [knownParent_congr domain]
        simp [known]
theorem addRoot_foldl (processed : List String) (folders : List (Folder Details)) (rootNodes : List (Item Details)) :
    folders.foldl (addRoot folderMap processed) rootNodes =
      rootNodes ++ (folders.filter (isRootFolder folderMap processed)).map (.folder ·.id) := by
  induction folders generalizing rootNodes with
  | nil => simp
  | cons f folders ih =>
    rw [List.foldl_cons, ih, addRoot]
    by_cases isRoot : isRootFolder folderMap processed f
    · simp [isRoot]
    · simp [isRoot]
theorem assignBoard_foldl (boards : List (Board Details)) (rootNodes : List (Item Details)) :
    (∀ id, (boards.foldl assignBoard ⟨folderMap, rootNodes⟩).folderMap id =
      (folderMap id).map fun node => { node with
        children := node.children ++ (boards.filter fun b => present b.parentId = some id).map .board
        boards := node.boards ++ boards.filter fun b => present b.parentId = some id }) ∧
      (boards.foldl assignBoard ⟨folderMap, rootNodes⟩).rootNodes =
        rootNodes ++ (boards.filter fun b => (knownParent folderMap b.parentId).isNone).map .board := by
  induction boards generalizing folderMap rootNodes with
  | nil => simp
  | cons b boards ih =>
    rw [List.foldl_cons, assignBoard]
    cases known : knownParent folderMap b.parentId with
    | none =>
      obtain ⟨children, listed⟩ := @ih folderMap (rootNodes ++ [.board b])
      refine ⟨fun id => ?_, by simp [listed, known]⟩
      rw [children id]
      cases there : folderMap id with
      | none => rfl
      | some node =>
        have other : present b.parentId ≠ some id := fun named => by
          rw [knownParent_eq_some.mpr ⟨named, by rw [there]; rfl⟩] at known
          cases known
        simp [other]
    | some parent =>
      obtain ⟨named, -⟩ := knownParent_eq_some.mp known
      have domain (id : String) : (pushChild folderMap parent (.board b) [b] id).isSome = (folderMap id).isSome := by
        rw [pushChild_apply, Option.isSome_map]
      obtain ⟨children, listed⟩ := @ih (pushChild folderMap parent (.board b) [b]) rootNodes
      refine ⟨fun id => ?_, ?_⟩
      · rw [children id, pushChild_apply, Option.map_map]
        congr 1
        funext node
        by_cases same : id = parent
        · simp [same, named]
        · have other : parent ≠ id := fun equal => same equal.symm
          simp [same, named, other]
      · rw [listed]
        simp only [knownParent_congr domain]
        simp [known]

end

section
variable {boards : List (Board Details)} {folders : List (Folder Details)}

theorem parentIn_eq_some {parentId : Option String} {id : String} :
    parentIn folders parentId = some id ↔ present parentId = some id ∧ id ∈ folders.map (·.id) := by
  simp [parentIn, Option.filter_eq_some_iff]
theorem find_folder (distinct : (folders.map (·.id)).Nodup) {f : Folder Details} (member : f ∈ folders) :
    folders.find? (·.id = f.id) = some f := by
  obtain ⟨g, found⟩ : ∃ g, folders.find? (·.id = f.id) = some g :=
    Option.isSome_iff_exists.mp (List.find?_isSome.mpr ⟨f, member, by simp⟩)
  have isId : g.id = f.id := by simpa using List.find?_some found
  rw [found, List.inj_on_of_nodup_map distinct (List.mem_of_find?_eq_some found) member isId]

/-- The entry of each folder: itself, with its folders and its boards below it. -/
theorem buildHierarchy_folderMap (distinct : (folders.map (·.id)).Nodup) (id : String) :
    (buildHierarchy boards folders).folderMap id = (folders.find? (·.id = id)).map fun folder =>
      { folder := folder
        children := (folders.filter fun f => present f.parentId = some id).map (.folder ·.id) ++
          (boards.filter fun b => present b.parentId = some id).map .board
        boards := boards.filter fun b => present b.parentId = some id } := by
  rw [buildHierarchy, (assignBoard_foldl boards _).1 id, (linkFolder_foldl folders []).1 id, initFolder_foldl distinct]
  cases folders.find? (·.id = id) with
  | none => rfl
  | some folder => simp
/-- The roots: the folders and the boards whose parent is not there. -/
theorem buildHierarchy_rootNodes (distinct : (folders.map (·.id)).Nodup) :
    (buildHierarchy boards folders).rootNodes =
      (folders.filter fun f => parentIn folders f.parentId = none).map (.folder ·.id) ++
        (boards.filter fun b => parentIn folders b.parentId = none).map .board := by
  have initial (id : String) : (folders.foldl initFolder (fun _ => none) id).isSome = decide (id ∈ folders.map (·.id)) := by
    rw [initFolder_foldl distinct, Option.or_none, Option.isSome_map, Bool.eq_iff_iff, List.find?_isSome]
    simp
  have known (parentId : Option String) :
      knownParent (folders.foldl initFolder fun _ => none) parentId = parentIn folders parentId := by
    simp only [knownParent, parentIn, initial]
  have linked (id : String) : ((folders.foldl linkFolder (folders.foldl initFolder (fun _ => none), [])).1 id).isSome =
      (folders.foldl initFolder (fun _ => none) id).isSome := by
    rw [(linkFolder_foldl folders []).1 id, Option.isSome_map]
  have isRoot (f : Folder Details) (member : f ∈ folders) :
      isRootFolder (folders.foldl linkFolder (folders.foldl initFolder (fun _ => none), [])).1
        (folders.foldl linkFolder (folders.foldl initFolder (fun _ => none), [])).2 f =
        decide (parentIn folders f.parentId = none) := by
    have there : f.id ∈ folders.map (·.id) := List.mem_map_of_mem member
    rw [isRootFolder, knownParent_congr linked, known, linked, initial, (linkFolder_foldl folders []).2]
    simp only [known, List.nil_append]
    by_cases rootless : parentIn folders f.parentId = none
    · -- no folder of this id has gone to a parent, because there is no other
      have unlinked : f.id ∉ (folders.filter fun g => (parentIn folders g.parentId).isSome).map (·.id) := by
        intro listed
        obtain ⟨g, inside, sameId⟩ := List.mem_map.mp listed
        obtain ⟨stored, hasParent⟩ := List.mem_filter.mp inside
        obtain rfl := List.inj_on_of_nodup_map distinct stored member sameId
        rw [rootless] at hasParent
        cases hasParent
      simp only [rootless, there, List.contains_eq_mem, unlinked, Option.isNone_none, decide_true, decide_false, Bool.not_false,
        Bool.and_self]
    · obtain ⟨parent, under⟩ := Option.ne_none_iff_exists'.mp rootless
      simp [under]
  rw [buildHierarchy, (assignBoard_foldl boards _).2, addRoot_foldl, List.filter_congr isRoot, List.nil_append]
  simp only [knownParent_congr linked, known]
  congr 3
  funext b
  cases parentIn folders b.parentId <;> rfl
theorem children_folder (distinct : (folders.map (·.id)).Nodup) (id : String) :
    (buildHierarchy boards folders).children (.folder id) =
      (folders.filter fun f => parentIn folders f.parentId = some id).map (.folder ·.id) ++
        (boards.filter fun b => parentIn folders b.parentId = some id).map .board := by
  have here (known : id ∈ folders.map (·.id)) (parentId : Option String) :
      decide (present parentId = some id) = decide (parentIn folders parentId = some id) := by
    simp only [parentIn_eq_some, known, and_true]
  rw [Hierarchy.children, buildHierarchy_folderMap distinct]
  cases found : folders.find? (·.id = id) with
  | none =>
    have unknown : id ∉ folders.map (·.id) := by
      intro listed
      obtain ⟨f, member, isId⟩ := List.mem_map.mp listed
      simpa [isId] using List.find?_eq_none.mp found f member
    have nobody (parentId : Option String) : parentIn folders parentId ≠ some id := fun same =>
      unknown (parentIn_eq_some.mp same).2
    simp [nobody]
  | some f =>
    have isId : f.id = id := by simpa using List.find?_some found
    have known : id ∈ folders.map (·.id) := isId ▸ List.mem_map_of_mem (List.mem_of_find?_eq_some found)
    simp only [here known, Option.map_some, Option.getD_some]

/-! ### Everything once -/

def parentOf (folders : List (Folder Details)) (id : String) : Option String :=
  (folders.find? (·.id = id)).bind fun f => parentIn folders f.parentId
/-- The parent that an item is listed under. -/
def itemParent (folders : List (Folder Details)) : Item Details → Option String
  | .folder id => parentOf folders id
  | .board board => parentIn folders board.parentId

theorem parentOf_folder (distinct : (folders.map (·.id)).Nodup) {f : Folder Details} (member : f ∈ folders) :
    parentOf folders f.id = parentIn folders f.parentId := by
  rw [parentOf, find_folder distinct member]
  rfl
theorem parentOf_eq_some {id parent : String} (above : parentOf folders id = some parent) :
    id ∈ folders.map (·.id) ∧ parent ∈ folders.map (·.id) := by
  obtain ⟨f, found, under⟩ := Option.bind_eq_some_iff.mp above
  have isId : f.id = id := by simpa using List.find?_some found
  exact ⟨isId ▸ List.mem_map_of_mem (List.mem_of_find?_eq_some found), (parentIn_eq_some.mp under).2⟩
theorem itemParent_of_listed (distinct : (folders.map (·.id)).Nodup) (parent : Option String) (item : Item Details) :
    item ∈ (folders.filter fun f => parentIn folders f.parentId = parent).map (Item.folder ·.id) ++
        (boards.filter fun b => parentIn folders b.parentId = parent).map .board →
      itemParent folders item = parent := by
  intro listed
  rcases List.mem_append.mp listed with isFolder | isBoard
  · obtain ⟨f, inside, rfl⟩ := List.mem_map.mp isFolder
    obtain ⟨member, under⟩ := List.mem_filter.mp inside
    rw [itemParent, parentOf_folder distinct member]
    exact of_decide_eq_true under
  · obtain ⟨b, inside, rfl⟩ := List.mem_map.mp isBoard
    exact of_decide_eq_true (List.mem_filter.mp inside).2
theorem listed_nodup (distinct : (folders.map (·.id)).Nodup) (boardsDistinct : (boards.map (·.id)).Nodup)
    (keepFolder : Folder Details → Bool) (keepBoard : Board Details → Bool) :
    ((folders.filter keepFolder).map (fun f : Folder Details => (Item.folder f.id : Item Details)) ++
      (boards.filter keepBoard).map Item.board).Nodup := by
  refine List.nodup_append.mpr ⟨?_, ?_, ?_⟩
  · have ids : ((folders.filter keepFolder).map (·.id)).Nodup := distinct.sublist (List.filter_sublist.map _)
    have injective : Function.Injective (Item.folder : String → Item Details) := fun a b same => Item.folder.inj same
    have named := ids.map injective
    rwa [List.map_map] at named
  · exact ((List.Nodup.of_map _ boardsDistinct).filter _).map fun a b same => Item.board.inj same
  · rintro _ isFolder _ isBoard rfl
    obtain ⟨f, -, rfl⟩ := List.mem_map.mp isFolder
    obtain ⟨b, -, same⟩ := List.mem_map.mp isBoard
    cases same

theorem buildHierarchy_once (distinct : (folders.map (·.id)).Nodup) (boardsDistinct : (boards.map (·.id)).Nodup) :
    ListedOnce (buildHierarchy boards folders).rootNodes (buildHierarchy boards folders).children where
  rootsDistinct := by
    rw [buildHierarchy_rootNodes distinct]
    exact listed_nodup distinct boardsDistinct _ _
  childrenDistinct parent := by
    cases parent with
    | folder id =>
      rw [children_folder distinct]
      exact listed_nodup distinct boardsDistinct _ _
    | board _ => exact List.nodup_nil
  parent {node parent other} isChild isChild' := by
    cases parent with
    | board _ => cases isChild
    | folder id =>
      cases other with
      | board _ => cases isChild'
      | folder id' =>
        rw [children_folder distinct] at isChild isChild'
        have same := (itemParent_of_listed distinct _ _ isChild).symm.trans (itemParent_of_listed distinct _ _ isChild')
        rw [Option.some.inj same]
  apart {node parent} isRoot isChild := by
    cases parent with
    | board _ => cases isChild
    | folder id =>
      rw [buildHierarchy_rootNodes distinct] at isRoot
      rw [children_folder distinct] at isChild
      have same := (itemParent_of_listed distinct _ _ isRoot).symm.trans (itemParent_of_listed distinct _ _ isChild)
      cases same

theorem reached_of_ends (distinct : (folders.map (·.id)).Nodup) {id : String} (ends : ChainEnds (parentOf folders) id)
    (stored : id ∈ folders.map (·.id)) :
    Reached (buildHierarchy boards folders).rootNodes (buildHierarchy boards folders).children (.folder id) := by
  induction ends with
  | last isLast =>
    obtain ⟨f, member, rfl⟩ := List.mem_map.mp stored
    rw [parentOf_folder distinct member] at isLast
    refine ⟨.folder f.id, ?_, .refl⟩
    rw [buildHierarchy_rootNodes distinct]
    exact List.mem_append_left _ (List.mem_map.mpr ⟨f, List.mem_filter.mpr ⟨member, decide_eq_true isLast⟩, rfl⟩)
  | step above _ ih =>
    obtain ⟨root, isRoot, path⟩ := ih (parentOf_eq_some above).2
    obtain ⟨f, member, rfl⟩ := List.mem_map.mp stored
    rw [parentOf_folder distinct member] at above
    refine ⟨root, isRoot, path.tail ?_⟩
    rw [Child, children_folder distinct]
    exact List.mem_append_left _ (List.mem_map.mpr ⟨f, List.mem_filter.mpr ⟨member, decide_eq_true above⟩, rfl⟩)
theorem ends_of_reached (distinct : (folders.map (·.id)).Nodup) {id : String}
    (reached : Reached (buildHierarchy boards folders).rootNodes (buildHierarchy boards folders).children (.folder id)) :
    ChainEnds (parentOf folders) id := by
  obtain ⟨root, isRoot, path⟩ := reached
  generalize isFolder : (Item.folder id : Item Details) = item at path
  induction path generalizing id with
  | refl =>
    rw [← isFolder, buildHierarchy_rootNodes distinct] at isRoot
    exact .last (itemParent_of_listed distinct _ _ isRoot)
  | @tail parent item _ isChild ih =>
    cases parent with
    | board _ => cases isChild
    | folder parent =>
      rw [Child, ← isFolder, children_folder distinct] at isChild
      exact .step (itemParent_of_listed distinct _ _ isChild) (ih rfl)
theorem board_reached (distinct : (folders.map (·.id)).Nodup) (ends : ∀ f ∈ folders, ChainEnds (parentOf folders) f.id)
    {b : Board Details} (member : b ∈ boards) :
    Reached (buildHierarchy boards folders).rootNodes (buildHierarchy boards folders).children (.board b) := by
  cases under : parentIn folders b.parentId with
  | none =>
    refine ⟨.board b, ?_, .refl⟩
    rw [buildHierarchy_rootNodes distinct]
    exact List.mem_append_right _ (List.mem_map_of_mem (List.mem_filter.mpr ⟨member, decide_eq_true under⟩))
  | some parent =>
    obtain ⟨f, stored, rfl⟩ := List.mem_map.mp (parentIn_eq_some.mp under).2
    obtain ⟨root, isRoot, path⟩ := @reached_of_ends _ boards _ distinct _ (ends f stored) (List.mem_map_of_mem stored)
    refine ⟨root, isRoot, path.tail ?_⟩
    rw [Child, children_folder distinct]
    exact List.mem_append_right _ (List.mem_map_of_mem (List.mem_filter.mpr ⟨member, decide_eq_true under⟩))

theorem shownAt_folder (distinct : (folders.map (·.id)).Nodup) {f : Folder Details} (member : f ∈ folders) (path : List Nat) :
    (buildHierarchy boards folders).shownAt path = some (.folder f) ↔
      (buildHierarchy boards folders).itemAt path = some (.folder f.id) := by
  unfold Hierarchy.shownAt
  constructor
  · intro found
    obtain ⟨item, here, same⟩ := Option.bind_eq_some_iff.mp found
    cases item with
    | board _ => cases same
    | folder id =>
      rw [Hierarchy.shown, buildHierarchy_folderMap distinct, Option.map_map, Option.map_eq_some_iff] at same
      obtain ⟨g, stored, same⟩ := same
      have isId : g.id = id := by simpa using List.find?_some stored
      rw [here, ← Shown.folder.inj same, ← isId]
  · intro here
    rw [here, Option.bind_some, Hierarchy.shown, buildHierarchy_folderMap distinct, find_folder distinct member]
    rfl
theorem shownAt_board (b : Board Details) (path : List Nat) :
    (buildHierarchy boards folders).shownAt path = some (.board b) ↔
      (buildHierarchy boards folders).itemAt path = some (.board b) := by
  unfold Hierarchy.shownAt
  constructor
  · intro found
    obtain ⟨item, here, same⟩ := Option.bind_eq_some_iff.mp found
    cases item with
    | board c =>
      rw [here, Shown.board.inj (Option.some.inj same)]
    | folder id =>
      obtain ⟨node, -, same⟩ := Option.map_eq_some_iff.mp same
      cases same
  · intro here
    rw [here]
    rfl

/-- Everything is shown once exactly if the chain of parents of every folder ends. -/
theorem complete_iff (distinct : (folders.map (·.id)).Nodup) (boardsDistinct : (boards.map (·.id)).Nodup) :
    Complete boards folders ↔ ∀ f ∈ folders, ChainEnds (parentOf folders) f.id := by
  have once := buildHierarchy_once distinct boardsDistinct
  have folderPlace (f : Folder Details) (member : f ∈ folders) :
      (∃! path, (buildHierarchy boards folders).shownAt path = some (.folder f)) ↔
        Reached (buildHierarchy boards folders).rootNodes (buildHierarchy boards folders).children (.folder f.id) := by
    simp only [shownAt_folder distinct member]
    exact existsUnique_nodeAt_iff once
  constructor
  · intro complete f member
    exact ends_of_reached distinct ((folderPlace f member).mp (complete.1 f member))
  · intro ends
    constructor
    · intro f member
      exact (folderPlace f member).mpr (reached_of_ends distinct (ends f member) (List.mem_map_of_mem member))
    · intro b member
      simp only [shownAt_board]
      exact (existsUnique_nodeAt_iff once).mpr (board_reached distinct ends member)

end

end

end Openlit.Hierarchies
