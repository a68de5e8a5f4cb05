import Mathlib.Data.List.Induction
import Mathlib.Data.List.Nodup
import Mathlib.Logic.Function.Basic
import Mathlib.Logic.Relation

/-!
Nodes that are listed below each other: some roots, and for each node its
children. A place is a path of positions, first among the roots and then among
the children of the node before. Where no node is listed twice, a node has one
place if it is below a root, and none otherwise.
-/
namespace Openlit.Forests

section
variable {Node : Type} {roots : List Node} {children : Node → List Node}

/-- The node at a path of positions. -/
def nodeAt (roots : List Node) (children : Node → List Node) : List Nat → Option Node
  | [] => none
  | position :: path =>
    path.foldl (fun node position => node.bind fun node => (children node)[position]?) roots[position]?

/-- One step down. -/
def Child (children : Node → List Node) (parent node : Node) : Prop := node ∈ children parent
def Reached (roots : List Node) (children : Node → List Node) (node : Node) : Prop :=
  ∃ root ∈ roots, Relation.ReflTransGen (Child children) root node

/-- No node is listed twice, among the roots or as a child. -/
structure ListedOnce (roots : List Node) (children : Node → List Node) : Prop where
  rootsDistinct : roots.Nodup
  childrenDistinct : ∀ parent, (children parent).Nodup
  parent : ∀ {node parent other}, node ∈ children parent → node ∈ children other → parent = other
  apart : ∀ {node parent}, node ∈ roots → node ∉ children parent

@[simp] theorem nodeAt_singleton (position : Nat) : nodeAt roots children [position] = roots[position]? := rfl
theorem nodeAt_append {path : List Nat} (below : path ≠ []) (position : Nat) :
    nodeAt roots children (path ++ [position]) =
      (nodeAt roots children path).bind fun node => (children node)[position]? := by
  cases path with
  | nil => exact absurd rfl below
  | cons first path => simp [nodeAt, List.foldl_append]

/-- The last step of a path leads to a root or to a child of what the path before it leads to. -/
theorem nodeAt_append_eq {path : List Nat} {position : Nat} {node : Node}
    (found : nodeAt roots children (path ++ [position]) = some node) :
    (path = [] ∧ roots[position]? = some node) ∨
      ∃ parent, nodeAt roots children path = some parent ∧ (children parent)[position]? = some node := by
  by_cases below : path = []
  · rw [below] at found
    exact .inl ⟨below, found⟩
  · rw [nodeAt_append below] at found
    exact .inr (Option.bind_eq_some_iff.mp found)
theorem position_unique {nodes : List Node} (distinct : nodes.Nodup) {i j : Nat} {node : Node} (first : nodes[i]? = some node)
    (second : nodes[j]? = some node) : i = j := by
  obtain ⟨inside, here⟩ := List.getElem?_eq_some_iff.mp first
  obtain ⟨inside', here'⟩ := List.getElem?_eq_some_iff.mp second
  exact (List.Nodup.getElem_inj_iff distinct).mp (here.trans here'.symm)

theorem nodeAt_unique (once : ListedOnce roots children) {path other : List Nat} {node : Node}
    (first : nodeAt roots children path = some node) (second : nodeAt roots children other = some node) : path = other := by
  induction path using List.reverseRecOn generalizing other node with
  | nil => cases first
  | append_singleton path i ih =>
    cases other using List.reverseRecOn with
    | nil => cases second
    | append_singleton other j =>
      rcases nodeAt_append_eq first with ⟨rfl, isRoot⟩ | ⟨parent, above, isChild⟩
      · rcases nodeAt_append_eq second with ⟨rfl, isRoot'⟩ | ⟨parent', -, isChild'⟩
        · rw [position_unique once.rootsDistinct isRoot isRoot']
        · exact absurd (List.mem_of_getElem? isChild') (once.apart (List.mem_of_getElem? isRoot))
      · rcases nodeAt_append_eq second with ⟨rfl, isRoot'⟩ | ⟨parent', above', isChild'⟩
        · exact absurd (List.mem_of_getElem? isChild) (once.apart (List.mem_of_getElem? isRoot'))
        · have same := once.parent (List.mem_of_getElem? isChild) (List.mem_of_getElem? isChild')
          subst same
          rw [ih above above', position_unique (once.childrenDistinct parent) isChild isChild']
theorem nodeAt_reached {path : List Nat} {node : Node} (found : nodeAt roots children path = some node) :
    Reached roots children node := by
  induction path using List.reverseRecOn generalizing node with
  | nil => cases found
  | append_singleton path i ih =>
    rcases nodeAt_append_eq found with ⟨-, isRoot⟩ | ⟨parent, above, isChild⟩
    · exact ⟨node, List.mem_of_getElem? isRoot, .refl⟩
    · obtain ⟨root, isRoot, path⟩ := ih above
      exact ⟨root, isRoot, path.tail (List.mem_of_getElem? isChild)⟩
theorem nodeAt_of_reached {node : Node} (reached : Reached roots children node) : ∃ path, nodeAt roots children path = some node := by
  obtain ⟨root, isRoot, below⟩ := reached
  induction below with
  | refl =>
    obtain ⟨i, here⟩ := List.mem_iff_getElem?.mp isRoot
    exact ⟨[i], here⟩
  | @tail parent node _ isChild ih =>
    obtain ⟨path, above⟩ := ih
    obtain ⟨i, here⟩ := List.mem_iff_getElem?.mp isChild
    have nonempty : path ≠ [] := by
      rintro rfl
      cases above
    exact ⟨path ++ [i], by rw [nodeAt_append nonempty, above]; exact here⟩

/-- A node has exactly one place if it is below a root. -/
theorem existsUnique_nodeAt_iff (once : ListedOnce roots children) {node : Node} :
    (∃! path, nodeAt roots children path = some node) ↔ Reached roots children node := by
  constructor
  · rintro ⟨path, found, -⟩
    exact nodeAt_reached found
  · intro reached
    obtain ⟨path, found⟩ := nodeAt_of_reached reached
    exact ⟨path, found, fun other found' => nodeAt_unique once found' found⟩

end

/-! ### Upwards -/

section
variable {Node : Type} {up other : Node → Option Node}

/-- One step up. -/
def Parent (up : Node → Option Node) (node parent : Node) : Prop := up node = some parent
/-- The chain of parents of a node comes to an end. -/
inductive ChainEnds (up : Node → Option Node) : Node → Prop
  | last {node : Node} (isLast : up node = none) : ChainEnds up node
  | step {node parent : Node} (above : up node = some parent) (ends : ChainEnds up parent) : ChainEnds up node

/-- A node whose chain ends is not above itself. -/
theorem ChainEnds.not_cyclic {node : Node} (ends : ChainEnds up node) : ¬Relation.TransGen (Parent up) node node := by
  induction ends with
  | last isLast =>
    intro cycle
    obtain ⟨parent, above, -⟩ := Relation.TransGen.head'_iff.mp cycle
    rw [Parent, isLast] at above
    cases above
  | @step node parent above _ ih =>
    intro cycle
    obtain ⟨next, first, back⟩ := Relation.TransGen.head'_iff.mp cycle
    rw [Parent, above, Option.some.injEq] at first
    subst first
    exact ih (Relation.TransGen.tail' back above)
/-- Links that are cut end no later. -/
theorem ChainEnds.cut (fewer : ∀ node, other node = up node ∨ other node = none) {node : Node} (ends : ChainEnds up node) :
    ChainEnds other node := by
  induction ends with
  | @last node isLast => exact .last ((fewer node).elim (·.trans isLast) id)
  | @step node parent above _ ih =>
    rcases fewer node with same | isLast
    · exact .step (same.trans above) ih
    · exact .last isLast

section
variable [DecidableEq Node] {moved target : Node}

theorem ChainEnds.update_of_apart {node : Node} (ends : ChainEnds up node) (apart : ¬Relation.ReflTransGen (Parent up) node moved) :
    ChainEnds (Function.update up moved (some target)) node := by
  have other {node : Node} (apart : ¬Relation.ReflTransGen (Parent up) node moved) : node ≠ moved := by
    rintro rfl
    exact apart .refl
  induction ends with
  | last isLast => exact .last (by rw [Function.update_of_ne (other apart), isLast])
  | step above _ ih =>
    exact .step (by rw [Function.update_of_ne (other apart), above]) (ih fun later => apart (later.head above))
/-- A path to a node does not need the node's own link. -/
theorem path_update {link : Option Node} {node : Node} (path : Relation.ReflTransGen (Parent up) node moved) :
    Relation.ReflTransGen (Parent (Function.update up moved link)) node moved := by
  induction path using Relation.ReflTransGen.head_induction_on with
  | refl => exact .refl
  | @head node parent above _ ih =>
    by_cases same : node = moved
    · rw [same]
    · exact ih.head ((Function.update_of_ne same ..).trans above)
/-- Where all chains end, a node that is moved below another keeps them so, except below itself. -/
theorem chainEnds_update_iff (ends : ∀ node, ChainEnds up node) :
    (∀ node, ChainEnds (Function.update up moved (some target)) node) ↔ ¬Relation.ReflTransGen (Parent up) target moved := by
  constructor
  · intro ends' path
    exact (ends' moved).not_cyclic (Relation.TransGen.head' (Function.update_self ..) (path_update path))
  · intro apart node
    have there : ChainEnds (Function.update up moved (some target)) target := (ends target).update_of_apart apart
    induction ends node with
    | @last node isLast =>
      by_cases same : node = moved
      · exact .step (same ▸ Function.update_self ..) there
      · exact .last (by rw [Function.update_of_ne same, isLast])
    | @step node parent above _ ih =>
      by_cases same : node = moved
      · exact .step (same ▸ Function.update_self ..) there
      · exact .step (by rw [Function.update_of_ne same, above]) ih

end

end

end Openlit.Forests
