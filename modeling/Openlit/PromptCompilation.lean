import Openlit.Prompts
import Openlit.Substitutions
import Mathlib.Data.List.Sublists

/-!
The compiled prompt as a substitution (`compiled.ts`). The variables are replaced one after the other with `replaceAll`. In any
order that is the simultaneous substitution, unless a value that is used has a pattern of `replaceAll` or makes a placeholder of
another variable.
-/
namespace Openlit.PromptCompilation
open Openlit.Prompts Openlit.Substitutions

/-- The variables of a request: an object, which has each key once. -/
structure Variables where
  entries : List (String × String)
  distinct : (entries.map (·.1)).Nodup

/-! ### What should hold -/

/-- What stands for a placeholder, where some variables are put in place. -/
def valueOf (entries : List (String × String)) (name : List Char) : List Char :=
  match entries.find? fun entry => entry.1.toList = name with
  | some entry => entry.2.toList
  | none => placeholder name
def keysOf (entries : List (String × String)) : List (List Char) := entries.map (·.1.toList)
/-- The simultaneous substitution of all placeholders of the prompt. -/
def simultaneous (prompt : String) (entries : List (String × String)) : String :=
  String.ofList (substitute placeholder (keysOf entries) (valueOf entries) prompt.toList)

/-- The value has no replacement pattern. -/
def Literal (value : List Char) : Prop := ∀ mark ∈ ['$', '&', '\x60', '\''], ¬ ['$', mark] <:+: value
instance (value : List Char) : Decidable (Literal value) :=
  List.decidableBAll (fun mark => ¬ ['$', mark] <:+: value) ['$', '&', '\x60', '\'']
instance (name : List Char) : Decidable (Plain name) :=
  inferInstanceAs (Decidable ('\x7b' ∉ name ∧ '\x7d' ∉ name))
/-- The prompt with the values of some of its variables in place. -/
def partly (prompt : String) (entries some : List (String × String)) : List Char :=
  substitute placeholder (keysOf entries) (valueOf some) prompt.toList
/-- The values of some variables make no placeholder of another, or one whose value is that placeholder. -/
def Fresh (prompt : String) (entries some : List (String × String)) (entry : String × String) : Prop :=
  occurrences (placeholder entry.1.toList) 0 (partly prompt entries some) = occurrences (placeholder entry.1.toList) 0 prompt.toList ∨
    Literal entry.2.toList ∧ entry.2.toList = placeholder entry.1.toList
instance (prompt : String) (entries some : List (String × String)) (entry : String × String) :
    Decidable (Fresh prompt entries some entry) :=
  inferInstanceAs (Decidable (_ ∨ _ ∧ _))
/-- A key whose placeholder is in the prompt has no braces and a value without patterns, and placeholders come from the prompt only. -/
structure Undisturbed (prompt : String) (entries : List (String × String)) : Prop where
  plain : ∀ entry ∈ entries, placeholder entry.1.toList <:+: prompt.toList → Plain entry.1.toList
  literal : ∀ entry ∈ entries, placeholder entry.1.toList <:+: prompt.toList → Literal entry.2.toList
  fresh : ∀ some ∈ entries.sublists, ∀ entry ∈ entries, entry ∉ some → Fresh prompt entries some entry

/-! ### Literal replacement -/

theorem expansion_literal {pattern front back value : List Char} (literal : Literal value) :
    expansion pattern front back value = value := by
  fun_induction expansion pattern front back value with
  | case1 => rfl
  | case2 rest ih => exact absurd (List.prefix_append ['$', '$'] rest).isInfix (literal '$' (by simp))
  | case3 rest ih => exact absurd (List.prefix_append ['$', '&'] rest).isInfix (literal '&' (by simp))
  | case4 rest ih => exact absurd (List.prefix_append ['$', '\x60'] rest).isInfix (literal '\x60' (by simp))
  | case5 rest ih => exact absurd (List.prefix_append ['$', '\''] rest).isInfix (literal '\'' (by simp))
  | case6 c rest _ _ _ _ ih =>
    refine congrArg (List.cons c) (ih fun mark listed inside => ?_)
    exact literal mark listed (inside.trans (List.suffix_cons c rest).isInfix)
theorem replaced_literal {pattern value : List Char} (literal : Literal value) (front : List Char) (skip : Nat) (text : List Char) :
    replaced pattern value front skip text = replace pattern value skip text := by
  induction text generalizing front skip with
  | nil => rw [replaced.eq_def, replace.eq_def]
  | cons c rest ih =>
    cases skip with
    | succ skip => exact ih _ skip
    | zero => rw [replaced, replace, expansion_literal literal, ih, ih]
theorem replaced_absent {pattern value : List Char} (front : List Char) {text : List Char} (absent : ¬ pattern <:+: text) :
    replaced pattern value front 0 text = text := by
  induction text generalizing front with
  | nil => rfl
  | cons c rest ih =>
    rw [replaced, if_neg fun found => absent found.isInfix, ih _ fun inside => absent (inside.trans (List.suffix_cons c rest).isInfix)]

/-! ### One variable after the other -/

section
variable (vars : Variables)

theorem Variables.same_key {entry entry' : String × String} (listed : entry ∈ vars.entries) (listed' : entry' ∈ vars.entries)
    (key : entry.1 = entry'.1) : entry = entry' := List.inj_on_of_nodup_map vars.distinct listed listed' key

variable {vars} {some : List (String × String)} (part : some ⊆ vars.entries)

theorem valueOf_absent {name : List Char} (absent : ∀ entry ∈ some, entry.1.toList ≠ name) : valueOf some name = placeholder name := by
  have none : (some.find? fun entry => decide (entry.1.toList = name)) = none :=
    List.find?_eq_none.mpr fun entry listed => by simpa using absent entry listed
  rw [valueOf, none]
include part
theorem valueOf_listed {entry : String × String} (listed : entry ∈ some) : valueOf some entry.1.toList = entry.2.toList := by
  cases found : some.find? fun other => decide (other.1.toList = entry.1.toList) with
  | none => exact absurd (List.find?_eq_none.mp found entry listed) (by simp)
  | some other =>
    have key : other.1.toList = entry.1.toList := by simpa using List.find?_some found
    have same := vars.same_key (part (List.mem_of_find?_eq_some found)) (part listed) (String.toList_inj.mp key)
    rw [valueOf, found, same]
/-- The values depend on which variables are in place only. -/
theorem valueOf_congr {others : List (String × String)} (same : ∀ entry, entry ∈ others ↔ entry ∈ some) :
    valueOf others = valueOf some := by
  have part' : others ⊆ vars.entries := fun entry listed => part ((same entry).mp listed)
  funext name
  by_cases there : ∃ entry ∈ some, entry.1.toList = name
  · obtain ⟨entry, listed, rfl⟩ := there
    rw [valueOf_listed part listed, valueOf_listed part' ((same entry).mpr listed)]
  · rw [valueOf_absent fun entry listed key => there ⟨entry, listed, key⟩,
      valueOf_absent fun entry listed key => there ⟨entry, (same entry).mp listed, key⟩]
/-- One more variable is put in place. -/
theorem valueOf_append {entry : String × String} (listed : entry ∈ vars.entries) :
    valueOf (some ++ [entry]) = Function.update (valueOf some) entry.1.toList entry.2.toList := by
  have part' : some ++ [entry] ⊆ vars.entries := List.append_subset.mpr ⟨part, List.cons_subset.mpr ⟨listed, List.nil_subset _⟩⟩
  funext name
  by_cases key : name = entry.1.toList
  · rw [key, Function.update_self, valueOf_listed part' (List.mem_append_right _ (.head _))]
  · rw [Function.update_of_ne key]
    by_cases there : ∃ other ∈ some, other.1.toList = name
    · obtain ⟨other, listed', rfl⟩ := there
      rw [valueOf_listed part listed', valueOf_listed part' (List.mem_append_left _ listed')]
    · rw [valueOf_absent fun other listed' same => there ⟨other, listed', same⟩, valueOf_absent fun other listed' same => ?_]
      rcases List.mem_append.mp listed' with old | new
      · exact there ⟨other, old, same⟩
      · rw [List.mem_singleton.mp new] at same
        exact key same.symm
end

section
variable {prompt : String} {vars : Variables} (undisturbed : Undisturbed prompt vars.entries)

theorem placeholders_ne_nil {keys : List (List Char)} : ∀ key ∈ keys, placeholder key ≠ [] := fun key _ => placeholder_ne_nil key
/-- The keys without braces. -/
def names (vars : Variables) : List (List Char) := (keysOf vars.entries).filter fun key => Plain key
theorem separate_names (vars : Variables) : Separate placeholder (names vars) :=
  separate_placeholder fun key listed => by simpa using (List.mem_filter.mp listed).2
theorem read_names (plain : ∀ entry ∈ vars.entries, placeholder entry.1.toList <:+: prompt.toList → Plain entry.1.toList) :
    read placeholder (keysOf vars.entries) 0 prompt.toList = read placeholder (names vars) 0 prompt.toList := by
  refine read_filter (fun key => decide (Plain key)) fun key inKeys braces there => ?_
  obtain ⟨entry, listed, rfl⟩ := List.mem_map.mp inKeys
  exact of_decide_eq_false braces (plain entry listed there)
/-- Where no hole has its key, a variable changes nothing. -/
theorem partly_append_absent {some : List (String × String)} (part : some ⊆ vars.entries) {entry : String × String}
    (listed : entry ∈ vars.entries) (absent : ¬ placeholder entry.1.toList <:+: prompt.toList) :
    partly prompt vars.entries (some ++ [entry]) = partly prompt vars.entries some := by
  rw [partly, partly, valueOf_append part listed, substitute, substitute]
  refine fill_update_absent fun hole => absent ?_
  have inside := @infix_of_hole _ _ placeholder _ _ hole
  rwa [fill_read placeholders_ne_nil] at inside
theorem valueOf_unset {some : List (String × String)} (part : some ⊆ vars.entries) {entry : String × String}
    (listed : entry ∈ vars.entries) (other : entry ∉ some) : valueOf some entry.1.toList = placeholder entry.1.toList :=
  valueOf_absent fun _ there key => other (vars.same_key (part there) listed (String.toList_inj.mp key) ▸ there)
/-- A literal value is put in place of a placeholder exactly if the placeholders come from the prompt, or it stays as it is. -/
theorem replace_partly_iff (plain : ∀ entry ∈ vars.entries, placeholder entry.1.toList <:+: prompt.toList → Plain entry.1.toList)
    {some : List (String × String)} (part : some ⊆ vars.entries) {entry : String × String} (listed : entry ∈ vars.entries)
    (other : entry ∉ some) (isPlain : Plain entry.1.toList) :
    replace (placeholder entry.1.toList) entry.2.toList 0 (partly prompt vars.entries some) = partly prompt vars.entries (some ++ [entry]) ↔
      occurrences (placeholder entry.1.toList) 0 (partly prompt vars.entries some) =
          occurrences (placeholder entry.1.toList) 0 prompt.toList ∨ entry.2.toList = placeholder entry.1.toList := by
  have known : entry.1.toList ∈ names vars := List.mem_filter.mpr ⟨List.mem_map_of_mem listed, decide_eq_true isPlain⟩
  rw [occurrences_read (separate_names vars) known prompt.toList]
  simp only [partly, substitute, read_names plain]
  rw [valueOf_append part listed]
  exact replace_fill_iff ((separate_names vars).apart _ known _ known) (placeholder_ne_nil _) (valueOf_unset part listed other) _ _
include undisturbed
theorem fresh_of_subset {some : List (String × String)} (part : some ⊆ vars.entries) {entry : String × String}
    (listed : entry ∈ vars.entries) (other : entry ∉ some) : Fresh prompt vars.entries some entry := by
  have filtered (e : String × String) : e ∈ vars.entries.filter (· ∈ some) ↔ e ∈ some := by
    simpa using fun there => part there
  have fresh := undisturbed.fresh (vars.entries.filter (· ∈ some)) (List.mem_sublists.mpr List.filter_sublist) entry listed
    fun there => other ((filtered entry).mp there)
  rwa [Fresh, partly, valueOf_congr part filtered] at fresh
/-- A variable is replaced in the text with some others in place. -/
theorem replaced_partly {some : List (String × String)} (part : some ⊆ vars.entries) {entry : String × String}
    (listed : entry ∈ vars.entries) (other : entry ∉ some) :
    replaced (placeholder entry.1.toList) entry.2.toList [] 0 (partly prompt vars.entries some) =
      partly prompt vars.entries (some ++ [entry]) := by
  have fresh := fresh_of_subset undisturbed part listed other
  have nonempty := placeholder_ne_nil entry.1.toList
  by_cases there : placeholder entry.1.toList <:+: prompt.toList
  · rw [replaced_literal (undisturbed.literal entry listed there)]
    exact (replace_partly_iff undisturbed.plain part listed other (undisturbed.plain entry listed there)).mpr (fresh.imp_right And.right)
  · rw [partly_append_absent part listed there]
    rcases fresh with counted | ⟨literal, own⟩
    · rw [(occurrences_eq_zero nonempty).mpr there] at counted
      exact replaced_absent [] ((occurrences_eq_zero nonempty).mp counted)
    · rw [replaced_literal literal, own, replace_self nonempty]
/-- What the loop has made of the prompt when some variables are done is the prompt with these in place. -/
theorem replaced_run {done rest : List (String × String)} (part : done ++ rest ⊆ vars.entries) (distinct : (done ++ rest).Nodup) :
    rest.foldl (fun acc entry => replaced (placeholder entry.1.toList) entry.2.toList [] 0 acc) (partly prompt vars.entries done) =
      partly prompt vars.entries (done ++ rest) := by
  induction rest generalizing done with
  | nil => rw [List.append_nil, List.foldl_nil]
  | cons entry rest ih =>
    have other : entry ∉ done := fun there => (List.nodup_append.mp distinct).2.2 entry there entry (.head _) rfl
    rw [List.foldl_cons, replaced_partly undisturbed (fun e there => part (List.mem_append_left _ there))
      (part (List.mem_append_right _ (.head _))) other]
    rw [List.append_cons done entry rest] at part distinct ⊢
    exact ih part distinct
omit undisturbed in
theorem compilePrompt_eq (prompt : String) (entries : List (String × String)) : (compilePrompt prompt entries).toList =
    entries.foldl (fun acc entry => replaced (placeholder entry.1.toList) entry.2.toList [] 0 acc) prompt.toList := by
  induction entries generalizing prompt with
  | nil => rfl
  | cons entry entries ih =>
    obtain ⟨key, value⟩ := entry
    have next := ih (replaceAll prompt ("\x7b\x7b" ++ key ++ "\x7d\x7d") value)
    have pattern : ("\x7b\x7b" ++ key ++ "\x7d\x7d").toList = placeholder key.toList := by simp [placeholder]
    rw [compilePrompt] at next ⊢
    rw [List.foldl_cons, next, List.foldl_cons, replaceAll, pattern, String.toList_ofList]
/-- Some of the variables, in any order. -/
theorem compiled_part {order : List (String × String)} (part : order ⊆ vars.entries) (distinct : order.Nodup) :
    (compilePrompt prompt order).toList = partly prompt vars.entries order := by
  have start : partly prompt vars.entries [] = prompt.toList := fill_read placeholders_ne_nil prompt.toList
  have run := @replaced_run prompt vars undisturbed [] order part distinct
  rwa [start, List.nil_append, ← compilePrompt_eq] at run
end

/-- Of literal values for plain keys, every part is compiled as it should in every order exactly if all placeholders come from the
prompt. -/
theorem parts_compiled_iff {prompt : String} {vars : Variables}
    (usual : ∀ entry ∈ vars.entries, Plain entry.1.toList ∧ Literal entry.2.toList) :
    (∀ order ⊆ vars.entries, order.Nodup → (compilePrompt prompt order).toList = partly prompt vars.entries order) ↔
      ∀ some ∈ vars.entries.sublists, ∀ entry ∈ vars.entries, entry ∉ some → Fresh prompt vars.entries some entry := by
  constructor
  · intro compiled some part entry listed other
    have part := List.mem_sublists.mp part
    have distinct := (List.Nodup.of_map _ vars.distinct).sublist part
    obtain ⟨plain, literal⟩ := usual entry listed
    have before := compiled some part.subset distinct
    have after := compiled (some ++ [entry])
      (List.append_subset.mpr ⟨part.subset, List.cons_subset.mpr ⟨listed, List.nil_subset _⟩⟩)
      (distinct.append (List.nodup_singleton entry) (by simpa using other))
    rw [compilePrompt_eq, List.foldl_append, ← compilePrompt_eq, before, List.foldl_cons, List.foldl_nil, replaced_literal literal] at after
    have fresh := (replace_partly_iff (fun entry listed _ => (usual entry listed).1) part.subset listed other plain).mp after
    exact fresh.imp_right fun own => ⟨literal, own⟩
  · intro fresh order part distinct
    exact compiled_part ⟨fun entry listed _ => (usual entry listed).1, fun entry listed _ => (usual entry listed).2, fresh⟩ part distinct

/-- An undisturbed prompt is compiled to the simultaneous substitution, in whichever order the variables come. -/
theorem compiled_simultaneously (prompt : String) (vars : Variables) (undisturbed : Undisturbed prompt vars.entries)
    (order : List (String × String)) (reordered : order.Perm vars.entries) :
    compilePrompt prompt order = simultaneous prompt vars.entries := by
  have distinct := reordered.nodup_iff.mpr (List.Nodup.of_map _ vars.distinct)
  rw [← String.toList_inj, compiled_part undisturbed reordered.subset distinct, simultaneous, String.toList_ofList, partly,
    valueOf_congr (List.Subset.refl vars.entries) fun entry => reordered.mem_iff]

def letterPrompt : String := "Dear \x7b\x7bname\x7d\x7d, \x7b\x7btext\x7d\x7d"
def letter : Variables := { entries := [("name", "Ada"), ("text", "cost: $5")], distinct := by decide }
theorem letter_undisturbed : Undisturbed letterPrompt letter.entries where
  plain := by decide +kernel
  literal := by decide +kernel
  fresh := by decide +kernel
theorem letter_compiled :
    compilePrompt letterPrompt [("text", "cost: $5"), ("name", "Ada")] = simultaneous letterPrompt letter.entries :=
  compiled_simultaneously letterPrompt letter letter_undisturbed [("text", "cost: $5"), ("name", "Ada")] (List.Perm.swap ..)
/-- A value that is the placeholder of a later variable is replaced, and of two dollar signs one is left. -/
theorem values_are_read :
    compilePrompt "\x7b\x7ba\x7d\x7d" [("a", "\x7b\x7bb\x7d\x7d"), ("b", "x")] = "x" ∧
      compilePrompt "\x7b\x7ba\x7d\x7d" [("b", "x"), ("a", "\x7b\x7bb\x7d\x7d")] = "\x7b\x7bb\x7d\x7d" ∧
      simultaneous "\x7b\x7ba\x7d\x7d" [("a", "\x7b\x7bb\x7d\x7d"), ("b", "x")] = "\x7b\x7bb\x7d\x7d" ∧
      compilePrompt "\x7b\x7ba\x7d\x7d" [("a", "$$")] = "$" ∧ simultaneous "\x7b\x7ba\x7d\x7d" [("a", "$$")] = "$$" := by
  decide +kernel

end Openlit.PromptCompilation
