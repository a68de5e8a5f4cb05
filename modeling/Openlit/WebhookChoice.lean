import Openlit.WebhookSelection

/-!
Which of several resources the webhook chooses, over whatever objects the API
server lists and in whatever order. The parser has no error to return, so one
object of another shape stops the whole search; a failed listing passes for an
empty one; and resources that were created in the same second are left to the
sort. Apart from these the oldest resource of the right namespace is chosen
(`chooses_oldest_iff`).
-/
namespace Openlit.WebhookChoice
open Openlit.Values Openlit.Pods Openlit.Manifests Openlit.Sorting Openlit.Webhook Openlit.WebhookSelection

/-- An object of the API server, which writes the namespace itself. The rest has any shape. -/
structure Item where
  nameSpace : String
  object : Fields
  placed : (asMap (get object "metadata")).bind (fun metadata => asString (get metadata "namespace")) = some nameSpace
structure ApiServer where
  items : List Item
  unavailable : String → Bool := fun _ => false

/-- The items of one namespace, all of them for the empty name, and none where the listing fails. -/
def listed (server : ApiServer) (nameSpace : String) : List Item :=
  if server.unavailable nameSpace then []
  else server.items.filter fun item => nameSpace = "" ∨ item.nameSpace = nameSpace

section
variable [TimeParsing]

/-- `findMatchingAutoInstrumentation`, over any objects. -/
def searchListed (sort : CreationSort) (server : ApiServer) (pod : Pod) :
    List String → Except Crash (Option AutoInstrumentation)
  | [] => pure none
  | nameSpace :: rest => do
    let configs ← matchingConfigs pod ((listed server nameSpace).map (·.object))
    match selectConfig sort configs with
    | some cfg => pure (some cfg)
    | none => searchListed sort server pod rest
def findListed (sort : CreationSort) (server : ApiServer) (pod : Pod) : Except Crash (Option AutoInstrumentation) :=
  searchListed sort server pod [pod.metadata.nameSpace, "openlit"]

/-- The stored resources as the API server lists them. -/
def served (cluster : Cluster) : ApiServer :=
  { items := cluster.resources.map fun r => ⟨r.nameSpace, toUnstructured r, rfl⟩
    unavailable := cluster.unavailable }

omit [TimeParsing] in
theorem listed_served (cluster : Cluster) (nameSpace : String) :
    (listed (served cluster) nameSpace).map (·.object) = ((listing cluster nameSpace).getD []).map toUnstructured := by
  unfold listed listing
  by_cases fails : cluster.unavailable nameSpace
  · simp [served, fails]
  · simp [served, fails, List.filter_map, Function.comp_def]
/-- For stored resources the two searches are the same. -/
theorem findListed_served (sort : CreationSort) (cluster : Cluster) (pod : Pod) :
    findListed sort (served cluster) pod = findMatchingAutoInstrumentation sort cluster pod := by
  have same (nameSpaces : List String) :
      searchListed sort (served cluster) pod nameSpaces = searchNamespaces sort cluster pod nameSpaces := by
    induction nameSpaces with
    | nil => rfl
    | cons nameSpace rest ih =>
      rw [searchListed, searchNamespaces, listed_served]
      refine bind_congr fun configs => ?_
      cases selectConfig sort configs with
      | none => exact ih
      | some cfg => rfl
  exact same _

/-! ### What is wanted -/

/-- The resource of an item, if it can be parsed and its labels match the pod. -/
def matchOf (pod : Pod) (item : Item) : Option AutoInstrumentation :=
  match parseAutoInstrumentation item.object with
  | .ok cfg => if matchesSelector pod cfg then some cfg else none
  | .error _ => none
/-- The resources of a namespace that are eligible for a pod. -/
def eligible (server : ApiServer) (pod : Pod) (nameSpace : String) : List AutoInstrumentation :=
  (server.items.filter (·.nameSpace = nameSpace)).filterMap (matchOf pod)
/-- The namespace to choose from: the pod's own, if something there is eligible. -/
def home (server : ApiServer) (req : Request) : String :=
  if eligible server req.pod req.nameSpace = [] then "openlit" else req.nameSpace

/-- One of the oldest resources of a list, or nothing for an empty one. -/
def Oldest (configs : List AutoInstrumentation) : Option AutoInstrumentation → Prop
  | none => configs = []
  | some cfg => Least AutoInstrumentation.creationTimestamp configs cfg
/-- The webhook finds one and the same oldest eligible resource of the right
    namespace in whatever order the items are listed and sorted. -/
def ChoosesOldest (server : ApiServer) (req : Request) : Prop :=
  ∃ choice, Oldest (eligible server req.pod (home server req)) choice ∧
    ∀ (sort : CreationSort) (items : List Item), items.Perm server.items →
      findListed sort { server with items := items } req.pod = .ok choice

/-! ### What is consulted -/

/-- The matches in the listing for a namespace. -/
def listedMatches (server : ApiServer) (pod : Pod) (nameSpace : String) : List AutoInstrumentation :=
  (listed server nameSpace).filterMap (matchOf pod)
/-- The namespace whose listing the choice is made from: that of the pod's object, if it gives a match. -/
def source (server : ApiServer) (pod : Pod) : String :=
  if listedMatches server pod pod.metadata.nameSpace = [] then "openlit" else pod.metadata.nameSpace
/-- An item that the loop gets past: it can be parsed, and has a Python block if it matches. -/
def Readable (pod : Pod) (item : Item) : Prop :=
  ∃ cfg, parseAutoInstrumentation item.object = .ok cfg ∧ (matchesSelector pod cfg = true → cfg.spec.python.isSome)

/-- Nothing stands in the way of the choice: every listed item is readable, no
    two of the oldest matches were created at the same time, and they are in the
    namespace that the choice is to be made from. -/
structure Settled (server : ApiServer) (req : Request) : Prop where
  own : ∀ item ∈ listed server req.pod.metadata.nameSpace, Readable req.pod item
  operator : listedMatches server req.pod req.pod.metadata.nameSpace = [] →
    ∀ item ∈ listed server "openlit", Readable req.pod item
  single : ∀ a b, Least AutoInstrumentation.creationTimestamp (listedMatches server req.pod (source server req.pod)) a →
    Least AutoInstrumentation.creationTimestamp (listedMatches server req.pod (source server req.pod)) b → a = b
  placed : ∀ a, Least AutoInstrumentation.creationTimestamp (listedMatches server req.pod (source server req.pod)) a →
    a.nameSpace = home server req
  found : listedMatches server req.pod (source server req.pod) = [] → eligible server req.pod (home server req) = []

/-! ### One listing -/

/-- What the parser gives: the namespace of the metadata, no ignore block, and settings in every Python block. -/
theorem parse_shape {obj : Fields} {cfg : AutoInstrumentation} (read : parseAutoInstrumentation obj = .ok cfg) :
    (asMap (get obj "metadata")).bind (fun metadata => asString (get metadata "namespace")) = some cfg.nameSpace ∧
      cfg.spec.ignore = none ∧ ∀ python ∈ cfg.spec.python, python.instrumentation.isSome := by
  unfold parseAutoInstrumentation at read
  cases metadata : asMap (get obj "metadata") with
  | none => simp [metadata, asserted, Bind.bind, Except.bind] at read
  | some fields =>
    cases name : asString (get fields "name") with
    | none => simp [metadata, name, asserted, Bind.bind, Except.bind] at read
    | some name' =>
      cases space : asString (get fields "namespace") with
      | none => simp [metadata, name, space, asserted, Bind.bind, Except.bind] at read
      | some nameSpace =>
        cases spec : asMap (get obj "spec") with
        | none => simp [metadata, name, space, spec, asserted, Bind.bind, Except.bind] at read
        | some block =>
          cases labels : parseMatchLabels block with
          | error crash => simp [metadata, name, space, spec, labels, asserted, Bind.bind, Except.bind] at read
          | ok matchLabels =>
            simp only [metadata, name, space, spec, labels, asserted, Bind.bind, Except.bind, Pure.pure, Except.pure,
              Except.ok.injEq] at read
            subst read
            refine ⟨by simp [space], rfl, ?_⟩
            intro python member
            obtain ⟨data, _, rfl⟩ := Option.map_eq_some_iff.mp member
            rfl

theorem matchOf_nameSpace {pod : Pod} {item : Item} {cfg : AutoInstrumentation} (found : matchOf pod item = some cfg) :
    cfg.nameSpace = item.nameSpace := by
  unfold matchOf at found
  cases read : parseAutoInstrumentation item.object with
  | error crash => simp [read] at found
  | ok parsed =>
    rw [read] at found
    have same := Option.some.inj (Option.ite_none_right_eq_some.mp found).2
    rw [← same]
    exact Option.some.inj ((parse_shape read).1.symm.trans item.placed)

/-- The settings of a parsed resource can be read exactly if it has a Python block. -/
theorem settings_read {obj : Fields} {cfg : AutoInstrumentation} (read : parseAutoInstrumentation obj = .ok cfg) :
    (cfg.spec.python.isSome = true ∧ ∃ s, settings cfg = .ok s) ∨
      (cfg.spec.python.isSome = false ∧ settings cfg = .error .nilDereference) := by
  obtain ⟨_, _, blocks⟩ := parse_shape read
  cases python : cfg.spec.python with
  | none => exact .inr ⟨rfl, by rw [settings, python]; rfl⟩
  | some p =>
    obtain ⟨s, block⟩ := Option.isSome_iff_exists.mp (blocks p python)
    exact .inl ⟨rfl, s, by rw [settings, python]; simp [dereferenced, block, Bind.bind, Except.bind]⟩

/-- The loop over readable items collects the matches. -/
theorem matchingConfigs_readable {pod : Pod} {items : List Item} (readable : ∀ item ∈ items, Readable pod item) :
    matchingConfigs pod (items.map (·.object)) = .ok (items.filterMap (matchOf pod)) := by
  induction items with
  | nil => rfl
  | cons item rest ih =>
    obtain ⟨cfg, read, python⟩ := readable item List.mem_cons_self
    have others := ih fun other member => readable other (List.mem_cons_of_mem item member)
    have open_ : ¬ explicitlyIgnored pod cfg := by simp [explicitlyIgnored, (parse_shape read).2.1]
    rw [List.map_cons, matchingConfigs, read, others]
    by_cases found : matchesSelector pod cfg = true
    · rcases settings_read read with ⟨_, s, there⟩ | ⟨absent, _⟩
      · simp [matchOf, read, found, open_, there, Bind.bind, Except.bind, Pure.pure, Except.pure]
      · rw [python found] at absent
        cases absent
    · simp [matchOf, read, found, Bind.bind, Except.bind]
/-- An item that is not readable stops the loop. -/
theorem matchingConfigs_unreadable {pod : Pod} {items : List Item} {item : Item} (member : item ∈ items)
    (unreadable : ¬ Readable pod item) : ∃ crash, matchingConfigs pod (items.map (·.object)) = .error crash := by
  induction items with
  | nil => cases member
  | cons first rest ih =>
    rw [List.map_cons, matchingConfigs]
    cases read : parseAutoInstrumentation first.object with
    | error crash => exact ⟨crash, rfl⟩
    | ok cfg =>
      have open_ : ¬ explicitlyIgnored pod cfg := by simp [explicitlyIgnored, (parse_shape read).2.1]
      rcases List.mem_cons.mp member with rfl | later
      · by_cases found : matchesSelector pod cfg = true
        · rcases settings_read read with ⟨python, _⟩ | ⟨_, missing⟩
          · exact absurd ⟨cfg, read, fun _ => python⟩ unreadable
          · exact ⟨.nilDereference, by simp [found, open_, missing, Bind.bind, Except.bind]⟩
        · exact absurd ⟨cfg, read, fun selected => absurd selected found⟩ unreadable
      · obtain ⟨crash, stopped⟩ := ih later
        by_cases found : matchesSelector pod cfg = true
        · rcases settings_read read with ⟨_, s, there⟩ | ⟨_, missing⟩
          · exact ⟨crash, by simp [found, open_, there, stopped, Bind.bind, Except.bind]⟩
          · exact ⟨.nilDereference, by simp [found, open_, missing, Bind.bind, Except.bind]⟩
        · exact ⟨crash, by simp [found, stopped, Bind.bind, Except.bind]⟩

/-! ### The search -/

theorem find_settled {server : ApiServer} {pod : Pod}
    (own : ∀ item ∈ listed server pod.metadata.nameSpace, Readable pod item)
    (operator : listedMatches server pod pod.metadata.nameSpace = [] → ∀ item ∈ listed server "openlit", Readable pod item)
    (sort : CreationSort) :
    findListed sort server pod = .ok (selectConfig sort (listedMatches server pod (source server pod))) := by
  rw [findListed, searchListed, matchingConfigs_readable own, ← listedMatches]
  by_cases nothing : listedMatches server pod pod.metadata.nameSpace = []
  · have unselected : selectConfig sort [] = none := (selectConfig_eq_none sort []).mpr rfl
    rw [source, if_pos nothing, nothing, searchListed, matchingConfigs_readable (operator nothing), ← listedMatches]
    cases chosen : selectConfig sort (listedMatches server pod "openlit") <;>
      simp [unselected, chosen, searchListed, Bind.bind, Except.bind, Pure.pure, Except.pure]
  · rw [source, if_neg nothing]
    cases chosen : selectConfig sort (listedMatches server pod pod.metadata.nameSpace) with
    | none => exact absurd ((selectConfig_eq_none sort _).mp chosen) nothing
    | some cfg => simp [chosen, Bind.bind, Except.bind, Pure.pure, Except.pure]
/-- A search that is completed has read every listed item. -/
theorem find_ok {server : ApiServer} {pod : Pod} {sort : CreationSort} {choice : Option AutoInstrumentation}
    (found : findListed sort server pod = .ok choice) :
    (∀ item ∈ listed server pod.metadata.nameSpace, Readable pod item) ∧
      (listedMatches server pod pod.metadata.nameSpace = [] → ∀ item ∈ listed server "openlit", Readable pod item) := by
  have own : ∀ item ∈ listed server pod.metadata.nameSpace, Readable pod item := by
    intro item member
    by_contra unreadable
    obtain ⟨crash, stopped⟩ := matchingConfigs_unreadable member unreadable
    rw [findListed, searchListed, stopped] at found
    cases found
  refine ⟨own, fun nothing item member => ?_⟩
  by_contra unreadable
  obtain ⟨crash, stopped⟩ := matchingConfigs_unreadable member unreadable
  have unselected : selectConfig sort [] = none := (selectConfig_eq_none sort []).mpr rfl
  rw [findListed, searchListed, matchingConfigs_readable own, ← listedMatches, nothing, searchListed, stopped] at found
  simp [unselected, Bind.bind, Except.bind] at found

/-! ### Another order of the items -/

omit [TimeParsing] in
theorem listed_perm {server : ApiServer} {items : List Item} (perm : items.Perm server.items) (nameSpace : String) :
    (listed { server with items := items } nameSpace).Perm (listed server nameSpace) := by
  unfold listed
  split
  · exact List.Perm.refl _
  · exact perm.filter _
theorem listedMatches_perm {server : ApiServer} {items : List Item} (perm : items.Perm server.items) (pod : Pod)
    (nameSpace : String) :
    (listedMatches { server with items := items } pod nameSpace).Perm (listedMatches server pod nameSpace) :=
  (listed_perm perm nameSpace).filterMap _
theorem source_perm {server : ApiServer} {items : List Item} (perm : items.Perm server.items) (pod : Pod) :
    source { server with items := items } pod = source server pod := by
  have same := listedMatches_perm perm pod pod.metadata.nameSpace
  have empty : listedMatches { server with items := items } pod pod.metadata.nameSpace = [] ↔
      listedMatches server pod pod.metadata.nameSpace = [] := by
    constructor
    · intro none_
      rw [none_] at same
      exact same.symm.eq_nil
    · intro none_
      rw [none_] at same
      exact same.eq_nil
  simp only [source, empty]

/-- What is found in another order of the items is one of the oldest matches all the same. -/
theorem find_perm {server : ApiServer} {req : Request} (settled : Settled server req) (sort : CreationSort)
    {items : List Item} (perm : items.Perm server.items) :
    ∃ choice, findListed sort { server with items := items } req.pod = .ok choice ∧
      Oldest (listedMatches server req.pod (source server req.pod)) choice := by
  have own : ∀ item ∈ listed { server with items := items } req.pod.metadata.nameSpace, Readable req.pod item :=
    fun item member => settled.own item ((listed_perm perm _).subset member)
  have operator : listedMatches { server with items := items } req.pod req.pod.metadata.nameSpace = [] →
      ∀ item ∈ listed { server with items := items } "openlit", Readable req.pod item := by
    intro nothing item member
    have same := listedMatches_perm perm req.pod req.pod.metadata.nameSpace
    rw [nothing] at same
    exact settled.operator same.symm.eq_nil item ((listed_perm perm _).subset member)
  have matches_ := listedMatches_perm perm req.pod (source server req.pod)
  refine ⟨_, find_settled own operator sort, ?_⟩
  rw [source_perm perm]
  cases chosen : selectConfig sort (listedMatches { server with items := items } req.pod (source server req.pod)) with
  | none =>
    rw [(selectConfig_eq_none sort _).mp chosen] at matches_
    exact matches_.symm.eq_nil
  | some cfg =>
    obtain ⟨member, least⟩ := selectConfig_least chosen
    exact ⟨matches_.subset member, fun other there => least other (matches_.symm.subset there)⟩

/-! ### When the oldest eligible resource is chosen -/

theorem mem_eligible {server : ApiServer} {pod : Pod} {nameSpace : String} {cfg : AutoInstrumentation} :
    cfg ∈ eligible server pod nameSpace ↔
      ∃ item ∈ server.items, item.nameSpace = nameSpace ∧ matchOf pod item = some cfg := by
  simp [eligible, List.mem_filterMap, and_assoc]
theorem mem_listedMatches {server : ApiServer} {pod : Pod} {nameSpace : String} {cfg : AutoInstrumentation} :
    cfg ∈ listedMatches server pod nameSpace ↔ server.unavailable nameSpace = false ∧
      ∃ item ∈ server.items, (nameSpace = "" ∨ item.nameSpace = nameSpace) ∧ matchOf pod item = some cfg := by
  unfold listedMatches listed
  by_cases fails : server.unavailable nameSpace <;> simp [fails, List.mem_filterMap, and_assoc]

/-- The oldest of the matches that are consulted is the oldest eligible resource where it is in the right namespace. -/
theorem least_eligible {server : ApiServer} {req : Request} {a : AutoInstrumentation}
    (least : Least AutoInstrumentation.creationTimestamp (listedMatches server req.pod (source server req.pod)) a)
    (placed : a.nameSpace = home server req) :
    Least AutoInstrumentation.creationTimestamp (eligible server req.pod (home server req)) a := by
  obtain ⟨available, item, stored, inside, found⟩ := mem_listedMatches.mp least.1
  have here : item.nameSpace = home server req := (matchOf_nameSpace found).symm.trans placed
  refine ⟨mem_eligible.mpr ⟨item, stored, here, found⟩, fun b member => ?_⟩
  obtain ⟨other, stored', there, found'⟩ := mem_eligible.mp member
  apply least.2
  refine mem_listedMatches.mpr ⟨available, other, stored', ?_, found'⟩
  rcases inside with everywhere | same
  · exact .inl everywhere
  · exact .inr (by rw [there, ← here, same])

omit [TimeParsing] in
theorem oldest_unique {configs : List AutoInstrumentation} {choice other : Option AutoInstrumentation}
    (single : ∀ a b, Least AutoInstrumentation.creationTimestamp configs a →
      Least AutoInstrumentation.creationTimestamp configs b → a = b)
    (oldest : Oldest configs choice) (also : Oldest configs other) : choice = other := by
  cases choice with
  | none =>
    cases other with
    | none => rfl
    | some b =>
      have member : b ∈ configs := also.1
      rw [show configs = [] from oldest] at member
      cases member
  | some a =>
    cases other with
    | none =>
      have member : a ∈ configs := oldest.1
      rw [show configs = [] from also] at member
      cases member
    | some b => rw [single a b oldest also]

/-- Whatever the order of the items and the sort, the webhook chooses the oldest
    eligible resource of the right namespace, exactly if nothing that it lists
    stands in the way. -/
theorem chooses_oldest_iff (server : ApiServer) (req : Request) : ChoosesOldest server req ↔ Settled server req := by
  constructor
  · rintro ⟨choice, oldest, always⟩
    have found (sort : CreationSort) : findListed sort server req.pod = .ok choice := always sort server.items (.refl _)
    obtain ⟨own, operator⟩ := find_ok (found (stableSort _))
    have selected (sort : CreationSort) :
        selectConfig sort (listedMatches server req.pod (source server req.pod)) = choice :=
      Except.ok.inj ((find_settled own operator sort).symm.trans (found sort))
    have chosen {a : AutoInstrumentation}
        (least : Least AutoInstrumentation.creationTimestamp (listedMatches server req.pod (source server req.pod)) a) :
        choice = some a := by
      obtain ⟨sort, first⟩ := exists_selectConfig least
      exact (selected sort).symm.trans first
    refine ⟨own, operator, ?_, ?_, ?_⟩
    · intro a b first second
      exact Option.some.inj ((chosen first).symm.trans (chosen second))
    · intro a least
      rw [chosen least] at oldest
      obtain ⟨item, _, here, matched⟩ := mem_eligible.mp oldest.1
      exact (matchOf_nameSpace matched).trans here
    · intro nothing
      have none_ := (selectConfig_eq_none (stableSort _) _).mpr nothing
      rw [selected] at none_
      rwa [none_] at oldest
  · intro settled
    obtain ⟨choice, _, oldest⟩ := find_perm settled (stableSort _) (List.Perm.refl server.items)
    refine ⟨choice, ?_, ?_⟩
    · cases choice with
      | none => exact settled.found oldest
      | some cfg => exact least_eligible oldest (settled.placed cfg oldest)
    · intro sort items perm
      obtain ⟨other, found, also⟩ := find_perm settled sort perm
      rw [found, oldest_unique settled.single also oldest]

/-- For a pod that names its namespace, and with both listings at hand, only
    the items themselves can stand in the way. -/
theorem settled_of_listed {server : ApiServer} {req : Request} (named : req.pod.metadata.nameSpace ≠ "")
    (available : ∀ nameSpace, server.unavailable nameSpace = false)
    (own : ∀ item ∈ listed server req.pod.metadata.nameSpace, Readable req.pod item)
    (operator : listedMatches server req.pod req.pod.metadata.nameSpace = [] →
      ∀ item ∈ listed server "openlit", Readable req.pod item)
    (single : ∀ a b, Least AutoInstrumentation.creationTimestamp (eligible server req.pod (home server req)) a →
      Least AutoInstrumentation.creationTimestamp (eligible server req.pod (home server req)) b → a = b) :
    Settled server req := by
  have same : req.pod.metadata.nameSpace = req.nameSpace := by
    rcases req.agrees with empty | same
    · exact absurd empty named
    · exact same
  have listing {nameSpace : String} (nonempty : nameSpace ≠ "") :
      listedMatches server req.pod nameSpace = eligible server req.pod nameSpace := by
    simp [listedMatches, listed, eligible, available, nonempty]
  have here : listedMatches server req.pod (source server req.pod) = eligible server req.pod (home server req) := by
    rw [source, home, listing named, same]
    split
    · exact listing (by decide)
    · exact listing req.namespaced
  refine ⟨own, operator, ?_, ?_, ?_⟩
  · rw [here]
    exact single
  · rw [here]
    intro a least
    obtain ⟨item, _, there, matched⟩ := mem_eligible.mp least.1
    exact (matchOf_nameSpace matched).trans there
  · rw [here]
    exact id

end

/-! ### Two resources of the same second -/

/-- A resource for the pods of one application; the time of its creation is the same for every name. -/
def sameSecond (name : String) (named : name ≠ "") : Stored :=
  { sampleResource { python := some {} } with name := name, named := named }
def itemOf (r : Stored) : Item := ⟨r.nameSpace, toUnstructured r, rfl⟩
def early : Item := itemOf (sameSecond "chat-a" (by decide))
def late : Item := itemOf (sameSecond "chat-b" (by decide))

/-- A clock that reads the one time that occurs here. -/
@[reducible] def firstOfMay : TimeParsing :=
  ⟨fun text => if text = "2024-05-01T10:00:00Z" then some 1714557600000000000 else none⟩
/-- The name of the resource that is chosen from some items. -/
def chosenName (items : List Item) : Option String :=
  match @findListed firstOfMay (stableSort _) { items := items } sampleRequest.pod with
  | .ok choice => choice.map (·.name)
  | .error _ => none

/-- Of two resources that were created in the same second, the one that is listed first is chosen. -/
theorem listing_order_decides :
    chosenName [early, late] = some "chat-a" ∧ chosenName [late, early] = some "chat-b" ∧
      ¬ ∀ [TimeParsing] (server : ApiServer) (req : Request), ChoosesOldest server req := by
  have first : chosenName [early, late] = some "chat-a" := by decide +kernel
  have other : chosenName [late, early] = some "chat-b" := by decide +kernel
  refine ⟨first, other, fun all => ?_⟩
  obtain ⟨choice, _, always⟩ := @all firstOfMay { items := [early, late] } sampleRequest
  have one : chosenName [early, late] = choice.map (·.name) := by
    rw [chosenName, always (stableSort _) _ (List.Perm.refl _)]
  have two : chosenName [late, early] = choice.map (·.name) := by
    rw [chosenName, always (stableSort _) _ (List.Perm.swap early late [])]
  rw [← one, first] at two
  rw [two] at other
  revert other
  decide

end Openlit.WebhookChoice
