import Openlit.InjectorFrame

/-!
The variable `PYTHONPATH` of an instrumented container. The injector appends an
entry with the path of its packages before what the first entry of that name
says, while a container sees the last one. The path of the user is kept where
these two entries say the same (`python_path_kept_iff`).
-/
namespace Openlit.PythonPath
open Openlit.Text Openlit.Pods Openlit.Injector Openlit.InjectorFrame

/-! ### What a container sees -/

/-- The value of an entry: its literal or, where that is empty, what its source holds. -/
def shown (resolve : EnvVarSource → String) (entry : EnvVar) : String :=
  if entry.value ≠ "" then entry.value else (entry.valueFrom.map resolve).getD ""
/-- The entry that counts, which is the last one of the name. -/
def lastEntry (env : List EnvVar) (name : String) : Option EnvVar := env.reverse.find? (·.name = name)
def effective (resolve : EnvVarSource → String) (env : List EnvVar) (name : String) : Option String :=
  (lastEntry env name).map (shown resolve)

/-- The path of the packages before what was seen so far; an empty value is none. -/
def extended (packages : String) (seen : Option String) : String :=
  match present seen with
  | some path => packages ++ ":" ++ path
  | none => packages
/-- Whatever the sources hold, the path that was seen is seen behind that of the packages. -/
def KeepsPath (cfg : InjectorConfig) (before after : Container) : Prop :=
  ∀ resolve, effective resolve after.env "PYTHONPATH" =
    some (extended (getSharedVolumePath cfg) (effective resolve before.env "PYTHONPATH"))

/-- The literal of the first entry, which the injector reads. -/
def firstLiteral (env : List EnvVar) (name : String) : String := ((env.find? (·.name = name)).map (·.value)).getD ""
/-- The last entry has the literal of the first one, and takes nothing from a source. -/
def FirstCounts (env : List EnvVar) : Prop :=
  ∀ last ∈ lastEntry env "PYTHONPATH",
    firstLiteral env "PYTHONPATH" = last.value ∧ (last.value = "" → last.valueFrom = none)

/-! ### One container -/

theorem lastEntry_append (env added : List EnvVar) (name : String) :
    lastEntry (env ++ added) name = (lastEntry added name).or (lastEntry env name) := by
  simp [lastEntry]
theorem lastEntry_cons_only {entry : EnvVar} {rest : List EnvVar} {name : String} (named : entry.name = name)
    (only : ∀ other ∈ rest, other.name ≠ name) : lastEntry (entry :: rest) name = some entry := by
  have absent : rest.reverse.find? (·.name = name) = none := by simpa using only
  simp [lastEntry, absent, named]
theorem shown_literal (resolve : EnvVarSource → String) (name value : String) :
    shown resolve { name, value } = value := by
  by_cases empty : value = "" <;> simp [shown, empty]

theorem extended_some (packages path : String) :
    extended packages (some path) = if path ≠ "" then packages ++ ":" ++ path else packages := by
  by_cases empty : path = "" <;> simp [extended, present, Option.filter, empty]
theorem longer_ne (packages path : String) : packages ++ ":" ++ path ≠ packages := by
  intro same
  have long := congrArg String.length same
  have colon : ":".length = 1 := rfl
  rw [String.length_append, String.length_append] at long
  omega
/-- The paths that are put behind the packages differ where what is seen differs. -/
theorem extended_inj (packages a b : String) : extended packages (some a) = extended packages (some b) ↔ a = b := by
  rw [extended_some, extended_some]
  by_cases left : a = ""
  · by_cases right : b = ""
    · simp [left, right]
    · simp [left, right, Ne.symm (longer_ne packages b), Ne.symm right]
  · by_cases right : b = ""
    · simp [left, right, longer_ne packages a]
    · simp [left, right]
theorem extended_getD (packages : String) (seen : Option String) :
    extended packages (some (seen.getD "")) = extended packages seen := by
  cases seen <;> simp [extended, present, Option.filter]

/-- What an instrumented container sees is made of the first literal. -/
theorem effective_instrument (resolve : EnvVarSource → String) (cfg : InjectorConfig) (pod : Pod) (container : Container) :
    effective resolve (instrument cfg pod container).env "PYTHONPATH" =
      some (extended (getSharedVolumePath cfg) (some (firstLiteral container.env "PYTHONPATH"))) := by
  obtain ⟨rest, built, only⟩ : ∃ rest, buildEnvironmentVariables cfg (withSharedMount cfg container) pod =
      { name := "PYTHONPATH"
        value := extended (getSharedVolumePath cfg) (some (firstLiteral container.env "PYTHONPATH")) } :: rest ∧
      ∀ other ∈ rest, other.name ≠ "PYTHONPATH" := by
    rw [extended_some]
    refine ⟨(buildEnvironmentVariables cfg (withSharedMount cfg container) pod).tail, rfl, ?_⟩
    simp only [buildEnvironmentVariables, List.cons_append, List.tail_cons, List.forall_mem_append, List.forall_mem_cons]
    split_ifs <;> simp
  have added : lastEntry (buildEnvironmentVariables cfg (withSharedMount cfg container) pod) "PYTHONPATH" =
      some { name := "PYTHONPATH"
             value := extended (getSharedVolumePath cfg) (some (firstLiteral container.env "PYTHONPATH")) } := by
    rw [built]
    exact lastEntry_cons_only rfl only
  rw [effective, instrument, lastEntry_append, added, Option.some_or, Option.map_some, shown_literal]

theorem firstLiteral_of_none {env : List EnvVar} {name : String} (none_ : lastEntry env name = none) :
    firstLiteral env name = "" := by
  have absent : env.find? (·.name = name) = none := by
    rw [List.find?_eq_none]
    intro entry member
    exact List.find?_eq_none.mp none_ entry (List.mem_reverse.mpr member)
  rw [firstLiteral, absent]
  rfl
/-- A literal is what an entry shows whatever the sources hold exactly if it is the entry's own and is not shadowed by a source. -/
theorem shown_always_iff (entry : EnvVar) (text : String) :
    (∀ resolve, text = shown resolve entry) ↔ text = entry.value ∧ (entry.value = "" → entry.valueFrom = none) := by
  constructor
  · intro same
    by_cases empty : entry.value = ""
    · cases source : entry.valueFrom with
      | none =>
        have literal := same fun _ => ""
        simp [shown, empty, source] at literal
        exact ⟨by rw [literal, empty], fun _ => rfl⟩
      | some source =>
        -- A source can hold more than any text.
        have longer := congrArg String.length (same fun _ => text ++ ":")
        have colon : ":".length = 1 := rfl
        simp only [shown, empty, source, ne_eq, not_true, if_false, Option.map_some, Option.getD_some, String.length_append] at longer
        omega
    · have literal := same fun _ => ""
      rw [shown, if_pos empty] at literal
      exact ⟨literal, fun absurd_ => absurd absurd_ empty⟩
  · rintro ⟨rfl, unsourced⟩ resolve
    by_cases empty : entry.value = "" <;> simp [shown, empty, unsourced]

theorem keepsPath_instrument_iff (cfg : InjectorConfig) (pod : Pod) (container : Container) :
    KeepsPath cfg container (instrument cfg pod container) ↔ FirstCounts container.env := by
  have each (resolve : EnvVarSource → String) :
      effective resolve (instrument cfg pod container).env "PYTHONPATH" =
          some (extended (getSharedVolumePath cfg) (effective resolve container.env "PYTHONPATH")) ↔
        firstLiteral container.env "PYTHONPATH" = (effective resolve container.env "PYTHONPATH").getD "" := by
    rw [effective_instrument, Option.some.injEq, ← extended_getD _ (effective resolve container.env "PYTHONPATH"), extended_inj]
  rw [KeepsPath, forall_congr' each]
  unfold FirstCounts effective
  cases last : lastEntry container.env "PYTHONPATH" with
  | none => simp [firstLiteral_of_none last]
  | some entry => simpa using shown_always_iff entry (firstLiteral container.env "PYTHONPATH")

/-! ### The containers of a pod -/

section
variable [CaseFolding]

theorem mem_zip_injected {cfg : InjectorConfig} {pod : Pod} (ok : (injectOpenLIT cfg pod).1 = none) {before after : Container} :
    (before, after) ∈ pod.spec.containers.zip (injectOpenLIT cfg pod).2.spec.containers ↔
      before ∈ pod.spec.containers ∧ after = injected cfg pod before := by
  have left : (injectOpenLIT cfg pod).2.spec.containers = pod.spec.containers.map (injected cfg pod) := by
    rw [(injectOpenLIT_success ok).1, injectedPod]
  rw [left, ← List.map_prod_left_eq_zip]
  constructor
  · intro paired
    obtain ⟨container, member, pair⟩ := List.mem_map.mp paired
    obtain ⟨rfl, rfl⟩ := Prod.mk.inj pair
    exact ⟨member, rfl⟩
  · rintro ⟨member, rfl⟩
    exact List.mem_map.mpr ⟨before, member, rfl⟩

/-- After a successful injection an instrumented container sees the packages' path
    before the one it has seen so far exactly if the first entry is the one that counts. -/
theorem python_path_kept_iff (cfg : InjectorConfig) (pod : Pod) (ok : (injectOpenLIT cfg pod).1 = none)
    (before after : Container) (paired : (before, after) ∈ pod.spec.containers.zip (injectOpenLIT cfg pod).2.spec.containers)
    (instrumented : instrumentable cfg pod before = true) : KeepsPath cfg before after ↔ FirstCounts before.env := by
  obtain ⟨-, rfl⟩ := (mem_zip_injected ok).mp paired
  rw [injected, if_pos instrumented, keepsPath_instrument_iff]

end

/-- A Python application whose path is one entry of its environment. -/
def application (path : EnvVar) : Container := { name := "app", image := "python:3.12", env := [path] }
def applicationPod (path : EnvVar) : Pod := { metadata := { name := "chat" }, spec := { containers := [application path] } }

def literalPath : EnvVar := { name := "PYTHONPATH", value := "/srv/lib" }
def mappedPath : EnvVar :=
  { name := "PYTHONPATH"
    valueFrom := some { configMapKeyRef := some { name := "paths", key := "python", optional := none } } }

theorem python_path_kept_literal :
    (@injectOpenLIT asciiFolding sampleConfig (applicationPod literalPath)).1 = none ∧
      KeepsPath sampleConfig (application literalPath)
        (@injected asciiFolding sampleConfig (applicationPod literalPath) (application literalPath)) := by
  have ok : (@injectOpenLIT asciiFolding sampleConfig (applicationPod literalPath)).1 = none := by decide
  have paired := (@mem_zip_injected asciiFolding _ _ ok _ _).mpr ⟨List.mem_singleton.mpr rfl, rfl⟩
  refine ⟨ok, (@python_path_kept_iff asciiFolding _ _ ok _ _ paired (by decide)).mpr ?_⟩
  rintro last ⟨⟩
  decide

/-- A path that is a key of a config map is not seen any more. -/
theorem mapped_python_path_lost :
    ∃ after, (application mappedPath, after) ∈ (applicationPod mappedPath).spec.containers.zip
        (@injectOpenLIT asciiFolding sampleConfig (applicationPod mappedPath)).2.spec.containers ∧
      @instrumentable asciiFolding sampleConfig (applicationPod mappedPath) (application mappedPath) = true ∧
      ¬ KeepsPath sampleConfig (application mappedPath) after := by
  have ok : (@injectOpenLIT asciiFolding sampleConfig (applicationPod mappedPath)).1 = none := by decide
  have selected : @instrumentable asciiFolding sampleConfig (applicationPod mappedPath) (application mappedPath) = true := by decide
  refine ⟨_, (@mem_zip_injected asciiFolding _ _ ok _ _).mpr ⟨List.mem_singleton.mpr rfl, rfl⟩, selected, ?_⟩
  intro keeps
  rw [@injected.eq_1 asciiFolding, if_pos selected] at keeps
  have counts := (keepsPath_instrument_iff _ _ _).mp keeps
  cases (counts mappedPath rfl).2 rfl

end Openlit.PythonPath
