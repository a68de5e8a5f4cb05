import Mathlib.Data.List.Induction
import Mathlib.Data.Nat.Basic
import Mathlib.Order.OrderDual
import Openlit.ClickHouse
import Openlit.Forests
import Openlit.RecursiveQueries
import Openlit.Sorting

/-!
The hierarchy of the trace of a span (`lib/platform/request/index.ts`,
`helpers/server/trace.ts`). One query climbs to the topmost span that is stored,
a second one goes down from there, and the rows are put together by their ids.
The root is looked for by its empty `ParentSpanId`, not by its place in the
rows, so that there is none where the parent of the topmost span is not stored.
-/
namespace Openlit.TraceHierarchies
open Openlit.Forests Openlit.Literals Openlit.RecursiveQueries Openlit.Sorting

/-! ### Spans -/

def isHexDigit (c : Char) : Bool := c.isDigit || ('a' ≤ c && c ≤ 'f')
/-- The id of a span in hexadecimal digits, or the empty text. -/
@[ext] structure Id where
  text : String
  digits : text.toList.all isHexDigit = true
deriving DecidableEq

def Id.empty : Id := ⟨"", rfl⟩

structure Span (Details : Type) where
  SpanId : Id
  ParentSpanId : Id
  details : Details

variable {Details : Type}

/-- The stored span that a span names as its parent. -/
def parentOf (spans : List (Span Details)) (span : Span Details) : Option (Span Details) :=
  spans.find? fun other => other.SpanId = span.ParentSpanId

/-- The stored spans, a forest by `ParentSpanId`, and how the database evaluates a recursive query:
    so many levels, and rows of one level in any order. -/
structure Database (Details : Type) where
  spans : List (Span Details)
  distinct : (spans.map (·.SpanId)).Nodup
  ends : ∀ span ∈ spans, ChainEnds (parentOf spans) span
  limit : Nat
  byLevel : KeySort fun row : Span Details × Nat => OrderDual.toDual row.2

/-! ### The queries -/

inductive Dir
  | upward
  | downward

/-- The rows that are joined to one of the hierarchy. -/
def joined (spans : List (Span Details)) : Dir → Span Details → List (Span Details)
  | .upward, th => spans.filter fun ot => ot.SpanId = th.ParentSpanId
  | .downward, th => spans.filter fun ot => ot.ParentSpanId = th.SpanId

section
variable [Escapes]

/-- The rows with the id in a literal. -/
def started (spans : List (Span Details)) (id : Id) : List (Span Details) :=
  spans.filter fun span => decoded id.text.toList = some span.SpanId.text.toList
/-- The rows with their levels, the last level first; `none` where the database gives up. -/
def commonQuery (db : Database Details) (dir : Dir) (id : Id) : Option (List (Span Details × Nat)) :=
  (recursive (joined db.spans dir) db.limit (started db.spans id) 0).map db.byLevel.sort

/-! ### The hierarchy -/

/-- The nodes by their ids, each with the ids of its children, and the root. -/
structure Hierarchy (Details : Type) where
  root : Id
  nodeMap : Id → Option (Span Details × Nat)
  children : Id → List Id

def nodeMap (data : List (Span Details × Nat)) : Id → Option (Span Details × Nat) :=
  data.foldl (fun nodes item => Function.update nodes item.1.SpanId (some item)) fun _ => none

/-- The root found so far, and the children. -/
structure Built where
  root : Option Id
  children : Id → List Id

def link (nodes : Id → Option (Span Details × Nat)) (built : Built) (item : Span Details × Nat) : Built :=
  if item.1.ParentSpanId = Id.empty then { built with root := some item.1.SpanId }
  else if (nodes item.1.ParentSpanId).isSome then
    { built with
      children := Function.update built.children item.1.ParentSpanId
        (built.children item.1.ParentSpanId ++ [item.1.SpanId]) }
  else built

def linked (nodes : Id → Option (Span Details × Nat)) (data : List (Span Details × Nat)) : Built :=
  data.foldl (link nodes) ⟨none, fun _ => []⟩
def buildHierarchy (data : List (Span Details × Nat)) : Option (Hierarchy Details) :=
  let built := linked (nodeMap data) data
  built.root.map fun root => ⟨root, nodeMap data, built.children⟩

/-- What comes back: a tree, `null`, or an empty object. -/
inductive Record (Details : Type)
  | tree (hierarchy : Hierarchy Details)
  | null
  | empty

structure Response (Details : Type) where
  err : Option String
  record : Record Details

/-- `none` for the exception where the downward query has no rows to go through. -/
def getHeirarchyViaSpanId (db : Database Details) (spanId : Id) : Option (Response Details) :=
  match commonQuery db .upward spanId with
  | some (top :: _) =>
    if top.1.SpanId = Id.empty then some ⟨some "Error in fetching heirarchy", .empty⟩
    else
      (commonQuery db .downward top.1.SpanId).map fun data =>
        match buildHierarchy data with
        | some heirarchy => ⟨none, .tree heirarchy⟩
        | none => ⟨some "Error in fetching heirarchy", .null⟩
  | _ => some ⟨some "Error in fetching heirarchy", .empty⟩

end

/-! ### What it is for -/

/-- The span at a place of the tree. -/
def Hierarchy.spanAt (hierarchy : Hierarchy Details) (path : List Nat) : Option (Span Details) :=
  (nodeAt [hierarchy.root] hierarchy.children path).bind fun id => (hierarchy.nodeMap id).map Prod.fst

/-- A stored span and its stored parent. -/
def Link (spans : List (Span Details)) (span parent : Span Details) : Prop :=
  span ∈ spans ∧ parent ∈ spans ∧ parent.SpanId = span.ParentSpanId
def Connected (spans : List (Span Details)) : Span Details → Span Details → Prop := Relation.EqvGen (Link spans)

/-- The spans connected to a span are in the tree at one place each, below their own parents. -/
structure Shows (spans : List (Span Details)) (span : Span Details) (hierarchy : Hierarchy Details) : Prop where
  once : ∀ other, Connected spans span other → ∃! path, hierarchy.spanAt path = some other
  below : ∀ {path position other}, path ≠ [] → hierarchy.spanAt (path ++ [position]) = some other →
    ∃ parent, hierarchy.spanAt path = some parent ∧ parent.SpanId = other.ParentSpanId

/-- The response is the tree with all spans connected to a span. -/
def Complete (spans : List (Span Details)) (span : Span Details) (response : Option (Response Details)) : Prop :=
  ∃ hierarchy, response = some ⟨none, .tree hierarchy⟩ ∧ Shows spans span hierarchy

/-! ### The topmost span -/

theorem connected_of_above {spans : List (Span Details)} {span top : Span Details}
    (above : Relation.ReflTransGen (Link spans) span top) : Connected spans span top :=
  Relation.EqvGen.reflTransGen_le_eqvGen _ _ _ above

/-- The last stored span on the way up. -/
structure Topmost (spans : List (Span Details)) (span top : Span Details) : Prop where
  above : Relation.ReflTransGen (Link spans) span top
  last : ∀ parent, ¬Link spans top parent

theorem Topmost.stored {spans : List (Span Details)} {span top : Span Details} (isTop : Topmost spans span top)
    (stored : span ∈ spans) : top ∈ spans := by
  rcases isTop.above.cases_tail with rfl | ⟨last, -, linked⟩
  · exact stored
  · exact linked.2.1

section
variable (db : Database Details) {span other parent top : Span Details}

theorem Database.eq_of_id (stored : span ∈ db.spans) (stored' : other ∈ db.spans) (same : span.SpanId = other.SpanId) :
    span = other := List.inj_on_of_nodup_map db.distinct stored stored' same
theorem Database.link_unique (first : Link db.spans span parent) (second : Link db.spans span other) : parent = other :=
  db.eq_of_id first.2.1 second.2.1 (first.2.2.trans second.2.2.symm)

theorem Database.exists_topmost (stored : span ∈ db.spans) : ∃ top, Topmost db.spans span top := by
  induction db.ends span stored with
  | @last span isLast =>
    refine ⟨span, .refl, fun parent linked => ?_⟩
    exact absurd linked.2.2 (by simpa using List.find?_eq_none.mp isLast parent linked.2.1)
  | @step span parent above _ ih =>
    have isParent : parent.SpanId = span.ParentSpanId := by simpa using List.find?_some above
    have inside : parent ∈ db.spans := List.mem_of_find?_eq_some above
    obtain ⟨top, isTop⟩ := ih inside
    exact ⟨top, isTop.above.head ⟨stored, inside, isParent⟩, isTop.last⟩
/-- The way up is the same from a span and from its parent. -/
theorem Database.above_iff (last : ∀ parent, ¬Link db.spans top parent) (linked : Link db.spans span parent) :
    Relation.ReflTransGen (Link db.spans) span top ↔ Relation.ReflTransGen (Link db.spans) parent top := by
  constructor
  · intro above
    rcases above.cases_head with rfl | ⟨next, first, rest⟩
    · exact absurd linked (last parent)
    · exact db.link_unique linked first ▸ rest
  · exact .head linked
/-- The spans connected to a span are those below its topmost one. -/
theorem Database.connected_iff (isTop : Topmost db.spans span top) :
    Connected db.spans span other ↔ Relation.ReflTransGen (Link db.spans) other top := by
  have same {a b : Span Details} (connected : Connected db.spans a b) :
      Relation.ReflTransGen (Link db.spans) a top ↔ Relation.ReflTransGen (Link db.spans) b top := by
    induction connected with
    | rel a b linked => exact db.above_iff isTop.last linked
    | refl a => exact Iff.rfl
    | symm a b _ ih => exact ih.symm
    | trans a b c _ _ first second => exact first.trans second
  constructor
  · intro connected
    exact (same connected).mp isTop.above
  · intro above
    exact .trans _ _ _ (connected_of_above isTop.above) (.symm _ _ (connected_of_above above))
theorem below_stored {spans : List (Span Details)} (stored : top ∈ spans) (above : Relation.ReflTransGen (Link spans) other top) :
    other ∈ spans := by
  rcases above.cases_head with rfl | ⟨next, linked, -⟩
  · exact stored
  · exact linked.1
theorem Database.topmost_unique (isTop : Topmost db.spans span top) (isTop' : Topmost db.spans span other) : other = top := by
  have above : Relation.ReflTransGen (Link db.spans) other top :=
    (db.connected_iff isTop).mp (connected_of_above isTop'.above)
  rcases above.cases_head with same | ⟨next, linked, -⟩
  · exact same
  · exact absurd linked (isTop'.last next)

end

/-! ### What the queries return -/

section
variable [Escapes]

/-- A literal of an id is the id. -/
theorem Id.read (id : Id) : decoded id.text.toList = some id.text.toList := by
  apply decoded_eq_self
  intro c inside
  have digit : isHexDigit c = true := List.all_eq_true.mp id.digits c inside
  constructor
  · rintro rfl
    revert digit
    decide
  · rintro rfl
    revert digit
    decide

variable (db : Database Details) {span other top : Span Details} {dir : Dir}

theorem Database.mem_started (stored : span ∈ db.spans) : other ∈ started db.spans span.SpanId ↔ other = span := by
  rw [started, List.mem_filter, Id.read, decide_eq_true_iff, Option.some.injEq, String.toList_inj]
  constructor
  · rintro ⟨stored', same⟩
    exact db.eq_of_id stored' stored (Id.ext same.symm)
  · rintro rfl
    exact ⟨stored, rfl⟩

/-- The links that a query follows. -/
def Along (spans : List (Span Details)) : Dir → Span Details → Span Details → Prop
  | .upward => Link spans
  | .downward => Function.swap (Link spans)

omit [Escapes] in
theorem step_joined_iff {spans : List (Span Details)} (stored : span ∈ spans) :
    Step (joined spans dir) span other ↔ other ∈ spans ∧ Along spans dir span other := by
  cases dir with
  | upward => simp [Step, joined, Along, Link, stored]
  | downward =>
    simp only [Step, joined, Along, Link, Function.swap, List.mem_filter, decide_eq_true_iff]
    constructor
    · rintro ⟨stored', same⟩
      exact ⟨stored', stored', stored, same.symm⟩
    · rintro ⟨stored', -, -, same⟩
      exact ⟨stored', same.symm⟩
theorem Database.mem_level_iff (stored : span ∈ db.spans) {k : Nat} :
    other ∈ level (joined db.spans dir) (started db.spans span.SpanId) k ↔ Steps (Along db.spans dir) span k other := by
  have first : other ∈ level (joined db.spans dir) (started db.spans span.SpanId) k ↔
      Steps (Step (joined db.spans dir)) span k other := by
    rw [RecursiveQueries.mem_level_iff]
    simp only [db.mem_started stored, exists_eq_left]
  rw [first]
  constructor
  · intro steps
    exact (steps.imp (· ∈ db.spans) (fun here step => (step_joined_iff here).mp step) stored).2
  · intro steps
    refine (steps.imp (· ∈ db.spans) (@fun row next here along => ?_) stored).2
    have stored' : next ∈ db.spans := by
      cases dir with
      | upward => exact along.2.1
      | downward => exact along.1
    exact ⟨stored', (step_joined_iff here).mpr ⟨stored', along⟩⟩

/-- The query is answered if each chain of links is shorter than the database evaluates levels. -/
theorem Database.answered_iff (dir : Dir) (stored : span ∈ db.spans) :
    (∃ data, commonQuery db dir span.SpanId = some data) ↔
      ∀ other depth, Steps (Along db.spans dir) span depth other → depth < db.limit := by
  have ended : (∃ data, commonQuery db dir span.SpanId = some data) ↔
      level (joined db.spans dir) (started db.spans span.SpanId) db.limit = [] := by
    rw [← recursive_isSome_iff]
    simp [commonQuery]
  rw [ended]
  constructor
  · intro empty other depth steps
    by_contra late
    have member := (db.mem_level_iff stored).mpr steps
    rw [level_eq_nil (Nat.le_of_not_lt late) empty] at member
    cases member
  · intro short
    rw [List.eq_nil_iff_forall_not_mem]
    intro other member
    exact Nat.lt_irrefl _ (short other _ ((db.mem_level_iff stored).mp member))
theorem Database.mem_commonQuery (stored : span ∈ db.spans) {data : List (Span Details × Nat)}
    (answered : commonQuery db dir span.SpanId = some data) {k : Nat} :
    (other, k) ∈ data ↔ Steps (Along db.spans dir) span k other := by
  obtain ⟨rows, ran, rfl⟩ := Option.map_eq_some_iff.mp answered
  rw [(db.byLevel.perm rows).mem_iff, mem_recursive ran, db.mem_level_iff stored]

/-- The first row of the climb is the topmost span. -/
theorem Database.upward_head (stored : span ∈ db.spans) {row : Span Details × Nat} {rest : List (Span Details × Nat)}
    (answered : commonQuery db .upward span.SpanId = some (row :: rest)) : Topmost db.spans span row.1 := by
  have steps : Steps (Along db.spans .upward) span row.2 row.1 :=
    (db.mem_commonQuery stored answered).mp List.mem_cons_self
  refine ⟨exists_steps_iff.mp ⟨_, steps⟩, fun parent linked => ?_⟩
  have further : (parent, row.2 + 1) ∈ row :: rest := (db.mem_commonQuery stored answered).mpr (.more steps linked)
  obtain ⟨rows, ran, sorted⟩ := Option.map_eq_some_iff.mp answered
  have least : Least (fun row : Span Details × Nat => OrderDual.toDual row.2) rows row :=
    sort_head_least db.byLevel (by rw [sorted, List.head?_cons])
  have deepest : row.2 + 1 ≤ row.2 :=
    OrderDual.toDual_le_toDual.mp (least.2 (parent, row.2 + 1) ((db.byLevel.perm rows).subset (sorted ▸ further)))
  omega

theorem Database.parting (isTop : ∀ parent, ¬Link db.spans top parent) (stored : top ∈ db.spans) :
    Parting (joined db.spans .downward) (started db.spans top.SpanId) db.spans where
  startDistinct := (List.Nodup.of_map _ db.distinct).filter _
  distinct _ := (List.Nodup.of_map _ db.distinct).filter _
  before isRow isOther here there := by
    simp only [joined, List.mem_filter, decide_eq_true_iff] at here there
    exact db.eq_of_id isRow isOther (here.2.symm.trans there.2)
  apart isRow isStart here := by
    rw [db.mem_started stored] at isStart
    subst isStart
    simp only [joined, List.mem_filter, decide_eq_true_iff] at here
    exact isTop _ ⟨stored, isRow, here.2.symm⟩
  startStored := List.filter_sublist.subset
  stored _ := List.filter_sublist.subset

/-- A database that evaluates as many levels as there are spans evaluates enough. -/
theorem Database.depth_lt (last : ∀ parent, ¬Link db.spans top parent) (stored : top ∈ db.spans) {depth : Nat}
    (steps : Steps (Link db.spans) other depth top) : depth < db.spans.length := by
  by_contra deep
  have member : other ∈ level (joined db.spans .downward) (started db.spans top.SpanId) depth :=
    (db.mem_level_iff stored).mpr steps.swap
  rw [level_eq_nil (Nat.le_of_not_lt deep) (db.parting last stored).level_length] at member
  cases member

/-- The rows of the way down from a topmost span: each span below it, once. -/
structure Downward (spans : List (Span Details)) (top : Span Details) (data : List (Span Details × Nat)) : Prop where
  mem : ∀ {other}, other ∈ data.map Prod.fst ↔ Relation.ReflTransGen (Link spans) other top
  distinct : (data.map (·.1.SpanId)).Nodup

theorem Database.downward (isTop : ∀ parent, ¬Link db.spans top parent) (stored : top ∈ db.spans)
    {data : List (Span Details × Nat)} (answered : commonQuery db .downward top.SpanId = some data) :
    Downward db.spans top data := by
  have mem {other : Span Details} : other ∈ data.map Prod.fst ↔ Relation.ReflTransGen (Link db.spans) other top := by
    rw [← Relation.reflTransGen_swap, ← exists_steps_iff, List.mem_map]
    constructor
    · rintro ⟨row, member, rfl⟩
      exact ⟨row.2, (db.mem_commonQuery stored answered).mp member⟩
    · rintro ⟨k, steps⟩
      exact ⟨(other, k), (db.mem_commonQuery stored answered).mpr steps, rfl⟩
  refine ⟨mem, ?_⟩
  obtain ⟨rows, ran, rfl⟩ := Option.map_eq_some_iff.mp answered
  have once : ((db.byLevel.sort rows).map Prod.fst).Nodup :=
    ((db.byLevel.perm rows).map _).nodup_iff.mpr ((db.parting isTop stored).nodup_recursive ran)
  have apart : ((db.byLevel.sort rows).map Prod.fst).Pairwise fun a b => a.SpanId ≠ b.SpanId := by
    refine once.imp_of_mem fun isRow isOther different same => different (db.eq_of_id ?_ ?_ same)
    · exact below_stored stored (mem.mp isRow)
    · exact below_stored stored (mem.mp isOther)
  simpa [List.Nodup, List.pairwise_map] using apart

end

/-! ### The tree that is built -/

section
variable {data : List (Span Details × Nat)} {nodes : Id → Option (Span Details × Nat)} {id : Id} {item : Span Details × Nat}

theorem nodeMap_append (item : Span Details × Nat) :
    nodeMap (data ++ [item]) = Function.update (nodeMap data) item.1.SpanId (some item) := by
  rw [nodeMap, List.foldl_append]
  rfl
theorem nodeMap_eq_some_iff (distinct : (data.map (·.1.SpanId)).Nodup) :
    nodeMap data id = some item ↔ item ∈ data ∧ item.1.SpanId = id := by
  induction data using List.reverseRecOn with
  | nil => simp [nodeMap]
  | append_singleton data last ih =>
    rw [List.map_append, List.nodup_append_comm] at distinct
    have apart := List.nodup_cons.mp distinct
    rw [nodeMap_append]
    by_cases here : id = last.1.SpanId
    · subst here
      have absent : item ∈ data → item.1.SpanId ≠ last.1.SpanId := by
        intro inside same
        exact apart.1 (List.mem_map.mpr ⟨item, inside, same⟩)
      rw [Function.update_self]
      constructor
      · rintro ⟨⟩
        simp
      · rintro ⟨inside, same⟩
        rcases List.mem_append.mp inside with before | isLast
        · exact absurd same (absent before)
        · simp only [List.mem_singleton] at isLast
          rw [isLast]
    · rw [Function.update_of_ne here, ih apart.2]
      constructor
      · rintro ⟨inside, same⟩
        exact ⟨List.mem_append_left _ inside, same⟩
      · rintro ⟨inside, same⟩
        rcases List.mem_append.mp inside with before | isLast
        · exact ⟨before, same⟩
        · simp only [List.mem_singleton] at isLast
          exact absurd (isLast ▸ same).symm here

/-- An item is a child of the item with its `ParentSpanId`, unless that is empty. -/
def isChild (nodes : Id → Option (Span Details × Nat)) (id : Id) (item : Span Details × Nat) : Bool :=
  item.1.ParentSpanId ≠ Id.empty && (item.1.ParentSpanId = id && (nodes id).isSome)

theorem linked_append (item : Span Details × Nat) : linked nodes (data ++ [item]) = link nodes (linked nodes data) item := by
  rw [linked, List.foldl_append]
  rfl
theorem children_linked : (linked nodes data).children id = (data.filter (isChild nodes id)).map (·.1.SpanId) := by
  induction data using List.reverseRecOn with
  | nil => rfl
  | append_singleton data item ih =>
    rw [linked_append, List.filter_append, List.map_append, ← ih, link]
    by_cases isRoot : item.1.ParentSpanId = Id.empty
    · simp [isRoot, isChild]
    · by_cases known : (nodes item.1.ParentSpanId).isSome = true
      · by_cases here : item.1.ParentSpanId = id
        · subst here
          simp [isRoot, known, isChild]
        · simp [isRoot, known, here, isChild, Function.update_of_ne (Ne.symm here)]
      · by_cases here : item.1.ParentSpanId = id
        · subst here
          simp [isRoot, known, isChild]
        · simp [isRoot, known, here, isChild]
theorem root_linked :
    (linked nodes data).root = ((data.filter fun item => item.1.ParentSpanId = Id.empty).getLast?).map (·.1.SpanId) := by
  induction data using List.reverseRecOn with
  | nil => rfl
  | append_singleton data item ih =>
    rw [linked_append, List.filter_append, link]
    by_cases isRoot : item.1.ParentSpanId = Id.empty
    · simp [isRoot]
    · by_cases known : (nodes item.1.ParentSpanId).isSome = true <;> simp [isRoot, known, ih]

section
variable {hierarchy : Hierarchy Details}

/-- The root is a row without a parent, and the children of a node are the rows that name it. -/
structure BuiltFrom (data : List (Span Details × Nat)) (hierarchy : Hierarchy Details) : Prop where
  distinct : (data.map (·.1.SpanId)).Nodup
  nodes : hierarchy.nodeMap = nodeMap data
  root : ∃ item ∈ data, item.1.ParentSpanId = Id.empty ∧ item.1.SpanId = hierarchy.root
  mem_children : ∀ {id child}, child ∈ hierarchy.children id ↔
    ∃ item ∈ data, item.1.ParentSpanId ≠ Id.empty ∧ item.1.ParentSpanId = id ∧ (∃ parent ∈ data, parent.1.SpanId = id) ∧
      item.1.SpanId = child
  childrenDistinct : ∀ id, (hierarchy.children id).Nodup

theorem builtFrom (distinct : (data.map (·.1.SpanId)).Nodup) (built : buildHierarchy data = some hierarchy) :
    BuiltFrom data hierarchy := by
  obtain ⟨root, isRoot, rfl⟩ := Option.map_eq_some_iff.mp built
  rw [root_linked] at isRoot
  obtain ⟨item, isLast, rfl⟩ := Option.map_eq_some_iff.mp isRoot
  have known {id : Id} : (nodeMap data id).isSome = true ↔ ∃ parent ∈ data, parent.1.SpanId = id := by
    simp only [Option.isSome_iff_exists, nodeMap_eq_some_iff distinct]
  refine ⟨distinct, rfl, ⟨item, ?_, ?_, rfl⟩, ?_, ?_⟩
  · exact (List.mem_filter.mp (List.mem_of_getLast? isLast)).1
  · simpa using (List.mem_filter.mp (List.mem_of_getLast? isLast)).2
  · intro id child
    simp only [children_linked, List.mem_map, List.mem_filter, isChild, Bool.and_eq_true, decide_eq_true_iff, known, and_assoc]
  · intro id
    have names : ((data.filter (isChild (nodeMap data) id)).map (·.1.SpanId)).Nodup :=
      distinct.sublist (List.filter_sublist.map _)
    simpa only [children_linked] using names
theorem buildHierarchy_isSome {item : Span Details × Nat} (inside : item ∈ data) (isRoot : item.1.ParentSpanId = Id.empty) :
    ∃ hierarchy, buildHierarchy data = some hierarchy := by
  have found : item ∈ data.filter fun item => item.1.ParentSpanId = Id.empty := by simpa [isRoot] using inside
  have isLast := List.getLast?_eq_some_getLast (List.ne_nil_of_mem found)
  have isSome : (buildHierarchy data).isSome = true := by
    simp only [buildHierarchy, root_linked, isLast]
    rfl
  exact Option.isSome_iff_exists.mp isSome

/-- Rows with one id are one row. -/
theorem BuiltFrom.eq_of_id (built : BuiltFrom data hierarchy) {row other : Span Details × Nat} (inside : row ∈ data)
    (inside' : other ∈ data) (same : row.1.SpanId = other.1.SpanId) : row = other :=
  List.inj_on_of_nodup_map built.distinct inside inside' same
theorem BuiltFrom.listedOnce (built : BuiltFrom data hierarchy) : ListedOnce [hierarchy.root] hierarchy.children where
  rootsDistinct := List.nodup_singleton _
  childrenDistinct := built.childrenDistinct
  parent here there := by
    obtain ⟨item, inside, -, rfl, -, same⟩ := built.mem_children.mp here
    obtain ⟨item', inside', -, rfl, -, same'⟩ := built.mem_children.mp there
    rw [built.eq_of_id inside inside' (same.trans same'.symm)]
  apart isRoot here := by
    rw [List.mem_singleton] at isRoot
    obtain ⟨item, inside, isRootItem, rootId⟩ := built.root
    obtain ⟨item', inside', isNot, -, -, same⟩ := built.mem_children.mp here
    rw [built.eq_of_id inside' inside (same.trans (isRoot.trans rootId.symm))] at isNot
    exact isNot isRootItem

/-- A span is at the places of its id. -/
theorem BuiltFrom.spanAt_iff (built : BuiltFrom data hierarchy) {path : List Nat} {span : Span Details} :
    hierarchy.spanAt path = some span ↔
      span ∈ data.map Prod.fst ∧ nodeAt [hierarchy.root] hierarchy.children path = some span.SpanId := by
  simp only [Hierarchy.spanAt, Option.bind_eq_some_iff, Option.map_eq_some_iff, built.nodes, nodeMap_eq_some_iff built.distinct,
    List.mem_map]
  constructor
  · rintro ⟨id, found, item, ⟨inside, rfl⟩, rfl⟩
    exact ⟨⟨item, inside, rfl⟩, found⟩
  · rintro ⟨⟨item, inside, rfl⟩, found⟩
    exact ⟨_, found, item, ⟨inside, rfl⟩, rfl⟩
theorem BuiltFrom.below (built : BuiltFrom data hierarchy) {path : List Nat} {position : Nat} {span : Span Details}
    (nonempty : path ≠ []) (found : hierarchy.spanAt (path ++ [position]) = some span) :
    ∃ parent, hierarchy.spanAt path = some parent ∧ parent.SpanId = span.ParentSpanId := by
  obtain ⟨inside, here⟩ := built.spanAt_iff.mp found
  obtain ⟨row, isRow, rfl⟩ := List.mem_map.mp inside
  rcases nodeAt_append_eq here with ⟨none, -⟩ | ⟨id, above, isChild⟩
  · exact absurd none nonempty
  · obtain ⟨item, isItem, -, rfl, ⟨parent, isParent, same⟩, sameRow⟩ := built.mem_children.mp (List.mem_of_getElem? isChild)
    obtain rfl := built.eq_of_id isItem isRow sameRow
    refine ⟨parent.1, built.spanAt_iff.mpr ⟨List.mem_map_of_mem isParent, ?_⟩, same⟩
    rw [above, same]

end

end

/-! ### Which traces are shown -/

section
variable {spans : List (Span Details)} {top : Span Details} {data : List (Span Details × Nat)} {hierarchy : Hierarchy Details}

/-- A topmost span that is in the tree is its root. -/
theorem Downward.topmost_root (down : Downward spans top data) (stored : top ∈ spans) (last : ∀ parent, ¬Link spans top parent)
    (built : BuiltFrom data hierarchy) {path : List Nat} (found : hierarchy.spanAt path = some top) :
    top.ParentSpanId = Id.empty := by
  obtain ⟨inside, here⟩ := built.spanAt_iff.mp found
  obtain ⟨row, isRow, rfl⟩ := List.mem_map.mp inside
  obtain ⟨root, isRoot, path⟩ := nodeAt_reached here
  rw [List.mem_singleton] at isRoot
  subst isRoot
  rcases path.cases_tail with same | ⟨id, -, isChild⟩
  · obtain ⟨item, isItem, noParent, rootId⟩ := built.root
    rw [← built.eq_of_id isItem isRow (rootId.trans same.symm), noParent]
  · obtain ⟨item, isItem, -, rfl, ⟨parent, isParent, sameId⟩, same⟩ := built.mem_children.mp isChild
    obtain rfl := built.eq_of_id isItem isRow same
    have parentStored : parent.1 ∈ spans := below_stored stored (down.mem.mp (List.mem_map_of_mem isParent))
    exact absurd ⟨stored, parentStored, sameId⟩ (last parent.1)

/-- Below a topmost span without a parent all spans are reached. -/
theorem Downward.reached (down : Downward spans top data) (stored : top ∈ spans) (last : ∀ parent, ¬Link spans top parent)
    (built : BuiltFrom data hierarchy) (noParent : top.ParentSpanId = Id.empty) {other : Span Details}
    (below : Relation.ReflTransGen (Link spans) other top) : Reached [hierarchy.root] hierarchy.children other.SpanId := by
  -- A stored span that names the empty id would be linked to what the topmost span names too.
  have named {span parent : Span Details} (linked : Link spans span parent) : span.ParentSpanId ≠ Id.empty := by
    intro none
    exact last parent ⟨stored, linked.2.1, by rw [linked.2.2, none, noParent]⟩
  have isRoot : hierarchy.root = top.SpanId := by
    obtain ⟨item, isItem, none, rootId⟩ := built.root
    rcases (down.mem.mp (List.mem_map_of_mem isItem)).cases_head with same | ⟨parent, linked, -⟩
    · rw [← rootId, same]
    · exact absurd none (named linked)
  induction below using Relation.ReflTransGen.head_induction_on with
  | refl => exact ⟨hierarchy.root, List.mem_singleton_self _, by rw [isRoot]⟩
  | @head span parent linked above ih =>
    obtain ⟨root, isIn, path⟩ := ih
    obtain ⟨item, isItem, rfl⟩ := List.mem_map.mp (down.mem.mpr (above.head linked))
    obtain ⟨parentItem, isParent, rfl⟩ := List.mem_map.mp (down.mem.mpr above)
    refine ⟨root, isIn, path.tail (built.mem_children.mpr ?_)⟩
    exact ⟨item, isItem, named linked, linked.2.2.symm, ⟨parentItem, isParent, rfl⟩, rfl⟩

end

section
variable [Escapes] (db : Database Details) {span : Span Details}

/-- A tree comes back when both queries are answered and a root is found. -/
theorem getHeirarchyViaSpanId_eq_tree {id : Id} {hierarchy : Hierarchy Details} :
    getHeirarchyViaSpanId db id = some ⟨none, .tree hierarchy⟩ ↔
      ∃ row rest data, commonQuery db .upward id = some (row :: rest) ∧ row.1.SpanId ≠ Id.empty ∧
        commonQuery db .downward row.1.SpanId = some data ∧ buildHierarchy data = some hierarchy := by
  rw [getHeirarchyViaSpanId]
  cases up : commonQuery db .upward id with
  | none => simp
  | some rows =>
    cases rows with
    | nil => simp
    | cons row rest =>
      by_cases noId : row.1.SpanId = Id.empty
      · simp [noId]
      · cases down : commonQuery db .downward row.1.SpanId with
        | none => simp [noId, down]
        | some data => cases built : buildHierarchy data <;> simp [noId, down, built]

/-- The whole trace is shown if the topmost stored span has no parent at all, stored or not,
    and fewer links lead up to it than the database evaluates levels. -/
theorem Database.trace_shown_iff (stored : span ∈ db.spans) :
    Complete db.spans span (getHeirarchyViaSpanId db span.SpanId) ↔
      ∃ top, Topmost db.spans span top ∧ top.ParentSpanId = Id.empty ∧
        ∀ other depth, Steps (Link db.spans) other depth top → depth < db.limit := by
  obtain ⟨top, isTop⟩ := db.exists_topmost stored
  have topStored : top ∈ db.spans := isTop.stored stored
  constructor
  · rintro ⟨hierarchy, response, shows⟩
    obtain ⟨row, rest, data, up, -, down, built⟩ := (getHeirarchyViaSpanId_eq_tree db).mp response
    obtain rfl : row.1 = top := db.topmost_unique isTop (db.upward_head stored up)
    have rows : Downward db.spans row.1 data := db.downward isTop.last topStored down
    obtain ⟨path, found, -⟩ := shows.once row.1 (connected_of_above isTop.above)
    refine ⟨row.1, isTop, rows.topmost_root topStored isTop.last (builtFrom rows.distinct built) found, ?_⟩
    intro other depth steps
    exact (db.answered_iff .downward topStored).mp ⟨data, down⟩ other depth steps.swap
  · rintro ⟨top', isTop', noParent, short⟩
    obtain rfl := db.topmost_unique isTop isTop'
    have climbs : ∀ other depth, Steps (Link db.spans) span depth other → depth < db.limit := by
      intro other depth steps
      have above := (db.connected_iff isTop).mp (connected_of_above (exists_steps_iff.mp ⟨depth, steps⟩))
      obtain ⟨rest, more⟩ := exists_steps_iff.mpr above
      have := short _ _ (steps.append more)
      omega
    obtain ⟨climb, up⟩ := (db.answered_iff .upward stored).mpr climbs
    have start : (span, 0) ∈ climb := (db.mem_commonQuery stored up).mpr .none
    obtain ⟨row, rest, rfl⟩ := List.exists_cons_of_ne_nil (List.ne_nil_of_mem start)
    obtain rfl : row.1 = top' := db.topmost_unique isTop (db.upward_head stored up)
    have hasId : row.1.SpanId ≠ Id.empty := fun none => isTop.last row.1 ⟨topStored, topStored, none.trans noParent.symm⟩
    obtain ⟨data, down⟩ := (db.answered_iff .downward topStored).mpr fun other depth steps => short other depth steps.swap
    have rows : Downward db.spans row.1 data := db.downward isTop.last topStored down
    obtain ⟨item, isItem, isRow⟩ := List.mem_map.mp (rows.mem.mpr .refl)
    obtain ⟨hierarchy, found⟩ := buildHierarchy_isSome isItem (by rw [isRow, noParent])
    have built : BuiltFrom data hierarchy := builtFrom rows.distinct found
    refine ⟨hierarchy, (getHeirarchyViaSpanId_eq_tree db).mpr ⟨row, rest, data, up, hasId, down, found⟩, ?_, built.below⟩
    intro other connected
    have below := (db.connected_iff isTop).mp connected
    have place := (existsUnique_nodeAt_iff built.listedOnce).mpr (rows.reached topStored isTop.last built noParent below)
    simpa only [built.spanAt_iff, and_iff_right (rows.mem.mpr below)] using place

end

def sampleId : Id := ⟨"a1", rfl⟩
def sampleChild : Span Unit := ⟨⟨"b2", rfl⟩, sampleId, ()⟩
/-- A span and its child. -/
def sampleDatabase (ParentSpanId : Id) (apart : ParentSpanId.text ∉ ["a1", "b2"]) : Database Unit where
  spans := [⟨sampleId, ParentSpanId, ()⟩, sampleChild]
  distinct := show [sampleId, sampleChild.SpanId].Nodup by decide
  ends := by
    have top : ChainEnds (parentOf [⟨sampleId, ParentSpanId, ()⟩, sampleChild]) ⟨sampleId, ParentSpanId, ()⟩ := by
      refine .last (List.find?_eq_none.mpr ?_)
      intro other member
      simp only [List.mem_cons, List.not_mem_nil, or_false] at member
      rcases member with rfl | rfl
      · simpa using fun same : sampleId = ParentSpanId => apart (by simp [← same, sampleId])
      · simpa using fun same : sampleChild.SpanId = ParentSpanId => apart (by simp [← same, sampleChild])
    intro span member
    simp only [List.mem_cons, List.not_mem_nil, or_false] at member
    rcases member with rfl | rfl
    · exact top
    · exact .step rfl top
  limit := 1000
  byLevel := stableSort _

theorem complete_sample :
    let _ := ClickHouse.sqlstringEscapes
    let db := sampleDatabase Id.empty (by decide)
    Complete db.spans sampleChild (getHeirarchyViaSpanId db sampleChild.SpanId) := by
  intro _ db
  have stored : sampleChild ∈ db.spans := by simp [db, sampleDatabase]
  have isLast : ∀ parent, ¬Link db.spans ⟨sampleId, Id.empty, ()⟩ parent := by
    rintro parent ⟨-, member, same⟩
    simp only [db, sampleDatabase, List.mem_cons, List.not_mem_nil, or_false] at member
    rcases member with rfl | rfl
    · exact absurd same (by decide)
    · exact absurd same (by decide)
  have topStored : ⟨sampleId, Id.empty, ()⟩ ∈ db.spans := by simp [db, sampleDatabase]
  refine (db.trace_shown_iff stored).mpr ⟨_, ⟨.single ⟨stored, topStored, rfl⟩, isLast⟩, rfl, ?_⟩
  intro other depth steps
  exact (db.depth_lt isLast topStored steps).trans (by decide)
/-- The parent of the upper span is not stored: no tree comes back. -/
theorem orphaned_trace_not_shown :
    let _ := ClickHouse.sqlstringEscapes
    let db := sampleDatabase ⟨"c3", rfl⟩ (by decide)
    sampleChild ∈ db.spans ∧ ¬Complete db.spans sampleChild (getHeirarchyViaSpanId db sampleChild.SpanId) := by
  intro _ db
  have null : getHeirarchyViaSpanId db sampleChild.SpanId = some ⟨some "Error in fetching heirarchy", .null⟩ := by rfl
  refine ⟨by simp [db, sampleDatabase], ?_⟩
  rintro ⟨hierarchy, response, -⟩
  rw [null] at response
  cases response

end Openlit.TraceHierarchies
