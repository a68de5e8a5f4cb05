import Mathlib.Data.List.Basic

/-!
The search for a span in the hierarchy of a trace (`helpers/client/trace.ts`).
`find` of lodash returns the element that its callback accepts. The callback
accepts a child whose subtree has the span, so what comes back is that child and
not the span, as soon as the span lies below a child of the root.
-/
namespace Openlit.HierarchySearch

/-- A span of the hierarchy; its details are its name, duration, time, status and cost,
    and a span without `children` has none. -/
inductive TraceHeirarchySpan (Details : Type)
  | span (SpanId : String) (details : Details) (children : List (TraceHeirarchySpan Details))

namespace TraceHeirarchySpan
variable {Details : Type}

def SpanId : TraceHeirarchySpan Details → String
  | span SpanId _ _ => SpanId
def children : TraceHeirarchySpan Details → List (TraceHeirarchySpan Details)
  | span _ _ children => children

@[simp] theorem SpanId_span (SpanId : String) (details : Details) (children : List (TraceHeirarchySpan Details)) :
    (span SpanId details children).SpanId = SpanId := rfl
@[simp] theorem children_span (SpanId : String) (details : Details) (children : List (TraceHeirarchySpan Details)) :
    (span SpanId details children).children = children := rfl

/-- The spans of a hierarchy, at any depth. -/
inductive Within (found : TraceHeirarchySpan Details) : TraceHeirarchySpan Details → Prop
  | here : Within found found
  | deeper {hierarchy child : TraceHeirarchySpan Details} (isChild : child ∈ hierarchy.children) (within : Within found child) :
    Within found hierarchy

/-- The hierarchy has a span with the id. -/
def Has (hierarchy : TraceHeirarchySpan Details) (targetSpanId : String) : Prop :=
  ∃ found, Within found hierarchy ∧ found.SpanId = targetSpanId

theorem has_iff {hierarchy : TraceHeirarchySpan Details} {targetSpanId : String} :
    hierarchy.Has targetSpanId ↔ hierarchy.SpanId = targetSpanId ∨ ∃ child ∈ hierarchy.children, child.Has targetSpanId := by
  constructor
  · rintro ⟨found, within, isTarget⟩
    cases within with
    | here => exact .inl isTarget
    | deeper isChild within => exact .inr ⟨_, isChild, found, within, isTarget⟩
  · rintro (isTarget | ⟨child, isChild, found, within, isTarget⟩)
    · exact ⟨hierarchy, .here, isTarget⟩
    · exact ⟨found, .deeper isChild within, isTarget⟩

end TraceHeirarchySpan

open TraceHeirarchySpan

variable {Details : Type}

mutual
/-- The root if it has the id, or what `find` returns for its children. -/
def findSpanInHierarchyLodash (targetSpanId : String) : TraceHeirarchySpan Details → Option (TraceHeirarchySpan Details)
  | .span SpanId details children =>
    if SpanId = targetSpanId then some (.span SpanId details children) else findChild targetSpanId children
/-- `find`: the first child for which the callback returns a span. -/
def findChild (targetSpanId : String) : List (TraceHeirarchySpan Details) → Option (TraceHeirarchySpan Details)
  | [] => none
  | child :: rest => if (findSpanInHierarchyLodash targetSpanId child).isSome then some child else findChild targetSpanId rest
end

variable {targetSpanId : String}

theorem findChild_eq (children : List (TraceHeirarchySpan Details)) :
    findChild targetSpanId children = children.find? fun child => (findSpanInHierarchyLodash targetSpanId child).isSome := by
  induction children with
  | nil => rfl
  | cons child rest ih =>
    rw [findChild, List.find?_cons, ih]
    cases (findSpanInHierarchyLodash targetSpanId child).isSome <;> rfl

mutual
/-- Whether something is found is right: that is all that the trace view asks for. -/
theorem found_iff : ∀ hierarchy : TraceHeirarchySpan Details,
    (findSpanInHierarchyLodash targetSpanId hierarchy).isSome ↔ hierarchy.Has targetSpanId
  | .span SpanId details children => by
    rw [findSpanInHierarchyLodash, has_iff, SpanId_span, children_span]
    by_cases isTarget : SpanId = targetSpanId
    · simp [isTarget]
    · simpa [isTarget] using foundChild_iff children
theorem foundChild_iff : ∀ children : List (TraceHeirarchySpan Details),
    (findChild targetSpanId children).isSome ↔ ∃ child ∈ children, child.Has targetSpanId
  | [] => by simp [findChild]
  | child :: rest => by
    rw [findChild, List.exists_mem_cons_iff, ← found_iff child, ← foundChild_iff rest]
    by_cases found : (findSpanInHierarchyLodash targetSpanId child).isSome
    · simp [found]
    · simp [found]
end

/-- The children that are found are the first ones whose subtree has the span. -/
theorem findChild_eq_some_iff {children : List (TraceHeirarchySpan Details)} {child : TraceHeirarchySpan Details} :
    findChild targetSpanId children = some child ↔
      child.Has targetSpanId ∧ ∃ before after, children = before ++ child :: after ∧ ∀ other ∈ before, ¬other.Has targetSpanId := by
  rw [findChild_eq, List.find?_eq_some_iff_append, found_iff]
  simp only [Bool.not_eq_true', ← Bool.not_eq_true, found_iff]

/-- What the search is for: a span of the hierarchy with the id, if there is one. -/
def Finds (targetSpanId : String) (hierarchy : TraceHeirarchySpan Details) : Option (TraceHeirarchySpan Details) → Prop
  | some found => Within found hierarchy ∧ found.SpanId = targetSpanId
  | none => ¬hierarchy.Has targetSpanId

/-- The first child of the root whose subtree has the span is the span itself. -/
def FirstIsTarget (targetSpanId : String) (hierarchy : TraceHeirarchySpan Details) : Prop :=
  ∀ before child after, hierarchy.children = before ++ child :: after → (∀ other ∈ before, ¬other.Has targetSpanId) →
    child.Has targetSpanId → child.SpanId = targetSpanId

/-- A span is found, and not a span above it, if it is the root or the child that holds it. -/
theorem finds_iff (hierarchy : TraceHeirarchySpan Details) :
    Finds targetSpanId hierarchy (findSpanInHierarchyLodash targetSpanId hierarchy) ↔
      hierarchy.SpanId = targetSpanId ∨ FirstIsTarget targetSpanId hierarchy := by
  obtain ⟨SpanId, details, children⟩ := hierarchy
  by_cases isTarget : SpanId = targetSpanId
  · simp [findSpanInHierarchyLodash, isTarget, Finds, Within.here]
  · rw [findSpanInHierarchyLodash, if_neg isTarget, SpanId_span, or_iff_right isTarget]
    cases result : findChild targetSpanId children with
    | none =>
      have nowhere : ∀ child ∈ children, ¬child.Has targetSpanId := by
        simpa [result] using (@foundChild_iff _ targetSpanId children).not
      constructor
      · intro _ before child after split _ has
        exact absurd has (nowhere child (by simp [show children = _ from split]))
      · intro _
        simpa [Finds, @has_iff _ (.span SpanId details children), isTarget] using nowhere
    | some child =>
      obtain ⟨has, before, after, split, none⟩ := findChild_eq_some_iff.mp result
      constructor
      · rintro ⟨-, found⟩ before' child' after' split' none' has'
        have same : findChild targetSpanId children = some child' :=
          findChild_eq_some_iff.mpr ⟨has', before', after', split', none'⟩
        rw [result, Option.some.injEq] at same
        exact same ▸ found
      · intro first
        refine ⟨.deeper ?_ .here, first before child after split none has⟩
        simp [split]

/-- A span below a child of the root: the child comes back. -/
def sampleHierarchy : TraceHeirarchySpan Unit :=
  .span "root" () [.span "child" () [.span "grandchild" () []]]
theorem grandchild_not_found :
    ¬Finds "grandchild" sampleHierarchy (findSpanInHierarchyLodash "grandchild" sampleHierarchy) := by
  rintro ⟨-, wrong⟩
  revert wrong
  decide

end Openlit.HierarchySearch
