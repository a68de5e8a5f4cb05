import Mathlib.Data.List.Basic
import Mathlib.Order.Defs.Unbundled

/-!
Programs that are made of atomic statements on a shared state and may throw, as
the code of one request between two awaits. One program runs alone; several run
at once, statement by statement, in the order that a schedule gives. `Ensures`
is what a program does among others: each of its statements makes a step that
the others rely on, and its result is right whatever they do.
-/
namespace Openlit.Programs

/-- What a statement returns, and so how the program goes on, depends on the state before it. -/
inductive Program (σ ε α : Type) where
  | done (result : Except ε α)
  | step (update : σ → σ) (next : σ → Program σ ε α)

namespace Program
variable {σ ε α β : Type}

def bind : Program σ ε α → (α → Program σ ε β) → Program σ ε β
  | done (.ok a), f => f a
  | done (.error e), _ => done (.error e)
  | step update next, f => step update fun s => (next s).bind f
instance : Monad (Program σ ε) where
  pure a := done (.ok a)
  bind := bind
def fail (e : ε) : Program σ ε α := done (.error e)
def statement (f : σ → Except ε (α × σ)) : Program σ ε α :=
  step (fun s => match f s with | .ok result => result.2 | .error _ => s) fun s => done ((f s).map (·.1))
/-- The program with its outcome as a value. -/
def attempt : Program σ ε α → Program σ ε (Except ε α)
  | done result => done (.ok result)
  | step update next => step update fun s => (next s).attempt
/-- A loop over a list with a variable. -/
def foldEach (body : β → α → Program σ ε β) : List α → β → Program σ ε β
  | [], b => pure b
  | a :: rest, b => body b a >>= foldEach body rest

def run : Program σ ε α → σ → Except ε α × σ
  | done result, s => (result, s)
  | step update next, s => (next s).run (update s)

@[simp] theorem run_done (result : Except ε α) (s : σ) : (done result).run s = (result, s) := rfl
@[simp] theorem run_pure (a : α) (s : σ) : (pure a : Program σ ε α).run s = (.ok a, s) := rfl
@[simp] theorem run_fail (e : ε) (s : σ) : (fail e : Program σ ε α).run s = (.error e, s) := rfl
theorem run_statement (f : σ → Except ε (α × σ)) (s : σ) :
    (statement f).run s =
      match f s with
      | .ok (a, s') => (.ok a, s')
      | .error e => (.error e, s) := by
  unfold statement
  cases returned : f s <;> simp [run, returned, Except.map]
theorem run_bind (p : Program σ ε α) (f : α → Program σ ε β) (s : σ) :
    (p >>= f).run s =
      match p.run s with
      | (.ok a, s') => (f a).run s'
      | (.error e, s') => (.error e, s') := by
  show (p.bind f).run s = _
  induction p generalizing s with
  | done result => cases result <;> rfl
  | step update next ih => exact ih s (update s)
theorem run_attempt (p : Program σ ε α) (s : σ) : p.attempt.run s = (.ok (p.run s).1, (p.run s).2) := by
  induction p generalizing s with
  | done result => rfl
  | step update next ih => exact ih s (update s)

/-! ### One program alone -/

/-- A program that runs alone ends with a result and a state that are right. -/
def Ends (post : Except ε α → σ → Prop) (p : Program σ ε α) (s : σ) : Prop := post (p.run s).1 (p.run s).2

theorem ends_pure {post : Except ε α → σ → Prop} {a : α} {s : σ} (right : post (.ok a) s) :
    (pure a : Program σ ε α).Ends post s := right
theorem ends_bind {post : Except ε β → σ → Prop} {p : Program σ ε α} {f : α → Program σ ε β} {s : σ}
    (first : p.Ends (fun result s' => match result with
      | .ok a => (f a).Ends post s'
      | .error e => post (.error e) s') s) : (p >>= f).Ends post s := by
  unfold Ends at first ⊢
  rw [run_bind]
  rcases ran : p.run s with ⟨_ | _, s'⟩
  · simpa [ran] using first
  · simpa [ran] using first
theorem Ends.mono {post weaker : Except ε α → σ → Prop} {p : Program σ ε α} {s : σ} (ended : p.Ends post s)
    (implies : ∀ result s, post result s → weaker result s) : p.Ends weaker s := implies _ _ ended
theorem Ends.and {post other : Except ε α → σ → Prop} {p : Program σ ε α} {s : σ} (ended : p.Ends post s)
    (also : p.Ends other s) : p.Ends (fun result s' => post result s' ∧ other result s') s := ⟨ended, also⟩
theorem ends_attempt {post : Except ε (Except ε α) → σ → Prop} {p : Program σ ε α} {s : σ}
    (ended : p.Ends (fun result => post (.ok result)) s) : p.attempt.Ends post s := by
  rw [Ends, run_attempt]
  exact ended
/-- A loop keeps an invariant that each round keeps. -/
theorem ends_foldEach {body : β → α → Program σ ε β} {post : Except ε β → σ → Prop} {items : List α}
    (invariant : β → σ → Prop)
    (each : ∀ a ∈ items, ∀ b s, invariant b s → (body b a).Ends (fun result s' => match result with
      | .ok b' => invariant b' s'
      | .error e => post (.error e) s') s)
    (finish : ∀ b s, invariant b s → post (.ok b) s) {b : β} {s : σ} (start : invariant b s) :
    (foldEach body items b).Ends post s := by
  induction items generalizing b s with
  | nil => exact finish b s start
  | cons a rest ih =>
    rw [List.forall_mem_cons] at each
    refine ends_bind ((each.1 b s start).mono fun result s' kept => ?_)
    cases result with
    | ok b' => exact ih each.2 kept
    | error e => exact kept

/-! ### What a program alone may do to the state -/

/-- From every state the program leads to a related one, whatever its result. -/
def Within (r : σ → σ → Prop) (p : Program σ ε α) : Prop := ∀ s, p.Ends (fun _ s' => r s s') s

section
variable {r : σ → σ → Prop}

theorem Within.mono {larger : σ → σ → Prop} {p : Program σ ε α} (within : p.Within r) (implies : ∀ s s', r s s' → larger s s') :
    p.Within larger := fun s => implies _ _ (within s)
theorem within_pure [Std.Refl r] (a : α) : (pure a : Program σ ε α).Within r := fun s => Std.Refl.refl s
theorem within_fail [Std.Refl r] (e : ε) : (fail e : Program σ ε α).Within r := fun s => Std.Refl.refl s
/-- What a program does from one state goes on in what follows it. -/
theorem ends_bind_within [IsTrans σ r] {p : Program σ ε α} {f : α → Program σ ε β} {s : σ} (first : p.Ends (fun _ s' => r s s') s)
    (rest : ∀ a, (f a).Within r) : (p >>= f).Ends (fun _ s' => r s s') s := by
  refine ends_bind (first.mono fun result s' moved => ?_)
  cases result with
  | error _ => exact moved
  | ok a => exact IsTrans.trans _ _ _ moved (rest a s')
theorem within_bind [IsTrans σ r] {p : Program σ ε α} {f : α → Program σ ε β} (first : p.Within r)
    (rest : ∀ a, (f a).Within r) : (p >>= f).Within r := fun s => ends_bind_within (first s) rest
theorem within_attempt {p : Program σ ε α} (within : p.Within r) : p.attempt.Within r := fun s => ends_attempt (within s)
theorem within_foldEach [Std.Refl r] [IsTrans σ r] {body : β → α → Program σ ε β} (each : ∀ b a, (body b a).Within r)
    (items : List α) (b : β) : (foldEach body items b).Within r := by
  induction items generalizing b with
  | nil => exact within_pure b
  | cons a rest ih => exact within_bind (each b a) ih

/-- Every error of the program is of a kind. -/
def ThrowsOnly (kind : ε → Prop) (p : Program σ ε α) : Prop := ∀ s, p.Ends (fun result _ => ∀ e, result = .error e → kind e) s
/-- Every error of the program that is not of the kind is thrown before the state has changed. -/
def ChecksFirst (kind : ε → Prop) (p : Program σ ε α) : Prop :=
  ∀ s, p.Ends (fun result s' => ∀ e, result = .error e → kind e ∨ s' = s) s

variable {kind : ε → Prop}

theorem throwsOnly_pure (a : α) : (pure a : Program σ ε α).ThrowsOnly kind := by
  intro s e thrown
  cases thrown
theorem throwsOnly_bind {p : Program σ ε α} {f : α → Program σ ε β} (first : p.ThrowsOnly kind)
    (rest : ∀ a, (f a).ThrowsOnly kind) : (p >>= f).ThrowsOnly kind := by
  refine fun s => ends_bind ((first s).mono fun result s' thrown => ?_)
  cases result with
  | error e =>
    intro e' same
    cases same
    exact thrown e rfl
  | ok a => exact rest a s'
theorem throwsOnly_attempt (p : Program σ ε α) : p.attempt.ThrowsOnly kind := by
  intro s e thrown
  rw [run_attempt] at thrown
  cases thrown
theorem throwsOnly_foldEach {body : β → α → Program σ ε β} (each : ∀ b a, (body b a).ThrowsOnly kind) (items : List α)
    (b : β) : (foldEach body items b).ThrowsOnly kind := by
  induction items generalizing b with
  | nil => exact throwsOnly_pure b
  | cons a rest ih => exact throwsOnly_bind (each b a) ih

theorem checksFirst_fail (e : ε) : (fail e : Program σ ε α).ChecksFirst kind := fun _ _ _ => .inr rfl
theorem ThrowsOnly.checksFirst {p : Program σ ε α} (throws : p.ThrowsOnly kind) : p.ChecksFirst kind :=
  fun s e thrown => .inl (throws s e thrown)
/-- What changes nothing can be put before. -/
theorem checksFirst_bind {p : Program σ ε α} {f : α → Program σ ε β} (reads : p.Within Eq)
    (rest : ∀ a, (f a).ChecksFirst kind) : (p >>= f).ChecksFirst kind := by
  refine fun s => ends_bind ((reads s).mono fun result s' same => ?_)
  cases same
  cases result with
  | error e => exact fun _ _ => .inr rfl
  | ok a => exact rest a s

end

/-! ### Programs at once -/

/-- The programs one after the other, none of which stops the others. -/
def inOrder : List (Program σ ε α) → Program σ ε (List (Except ε α))
  | [] => pure []
  | p :: rest => do
    let result ← p.attempt
    let results ← inOrder rest
    pure (result :: results)
/-- Each number of the schedule is the program whose statement is next; where it
    ends, what is left runs in order. -/
def interleave : List Nat → List (Program σ ε α) → Program σ ε (List (Except ε α))
  | [], ps => inOrder ps
  | i :: rest, ps =>
    match ps[i]? with
    | some (step update next) => step update fun s => interleave rest (ps.set i (next s))
    | _ => interleave rest ps
/-- `Promise.all`, where every program still comes to its end: the results, or an error of one. -/
def promiseAll (schedule : List Nat) (ps : List (Program σ ε α)) : Program σ ε (List α) := do
  let results ← interleave schedule ps
  done (results.mapM id)

theorem run_promiseAll (schedule : List Nat) (ps : List (Program σ ε α)) (s : σ) :
    ((promiseAll schedule ps).run s).2 = ((interleave schedule ps).run s).2 := by
  rw [promiseAll, run_bind]
  split
  · rename_i results s' ran
    rw [ran]
    rfl
  · rename_i e s' ran
    rw [ran]

theorem ends_inOrder {ps : List (Program σ ε α)} {right : Except ε α → Prop} (invariant : σ → Prop)
    (each : ∀ p ∈ ps, ∀ s, invariant s → p.Ends (fun result s' => right result ∧ invariant s') s) {s : σ}
    (start : invariant s) :
    (inOrder ps).Ends (fun result s' => (∃ results, result = .ok results ∧ ∀ r ∈ results, right r) ∧ invariant s') s := by
  induction ps generalizing s with
  | nil => exact ⟨⟨[], rfl, nofun⟩, start⟩
  | cons p rest ih =>
    rw [List.forall_mem_cons] at each
    refine ends_bind (ends_attempt ((each.1 s start).mono ?_))
    rintro result s' ⟨first, kept⟩
    refine ends_bind ((ih each.2 kept).mono ?_)
    rintro _ s'' ⟨⟨results, rfl, others⟩, kept'⟩
    exact ⟨⟨result :: results, rfl, List.forall_mem_cons.mpr ⟨first, others⟩⟩, kept'⟩
theorem mapM_id_succeeds {results : List (Except ε α)} (succeeded : ∀ r ∈ results, ∃ a, r = .ok a) :
    ∃ values, results.mapM id = .ok values := by
  induction results with
  | nil => exact ⟨[], rfl⟩
  | cons r rest ih =>
    rw [List.forall_mem_cons] at succeeded
    obtain ⟨⟨a, rfl⟩, others⟩ := succeeded
    obtain ⟨values, same⟩ := ih others
    refine ⟨a :: values, ?_⟩
    rw [List.mapM_cons, same]
    rfl
/-- Programs that never throw where an invariant holds, which they keep, all succeed one after the other. -/
theorem promiseAll_succeeds {ps : List (Program σ ε α)} (invariant : σ → Prop)
    (each : ∀ p ∈ ps, ∀ s, invariant s → p.Ends (fun result s' => (∃ a, result = .ok a) ∧ invariant s') s) {s : σ}
    (start : invariant s) : ∃ results, ((promiseAll [] ps).run s).1 = .ok results := by
  obtain ⟨⟨results, same, succeeded⟩, -⟩ := ends_inOrder invariant each start
  obtain ⟨values, mapped⟩ := mapM_id_succeeds succeeded
  refine ⟨values, ?_⟩
  rw [promiseAll, run_bind, interleave]
  rcases ran : (inOrder ps).run s with ⟨outcome, s'⟩
  rw [ran] at same
  cases same
  exact mapped

/-- A schedule can let one program run to its end before the others start. -/
theorem run_interleave_first (p : Program σ ε α) {ps : List (Program σ ε α)} {i : Nat} (found : ps[i]? = some p) (s : σ) :
    ∃ schedule, (interleave schedule ps).run s = (inOrder (ps.set i (done (p.run s).1))).run (p.run s).2 := by
  induction p generalizing ps s with
  | done result =>
    obtain ⟨inside, here⟩ := List.getElem?_eq_some_iff.mp found
    refine ⟨[], ?_⟩
    rw [run_done, ← here, List.set_getElem_self]
    rfl
  | step update next ih =>
    have inside : i < ps.length := (List.getElem?_eq_some_iff.mp found).1
    have replaced : (ps.set i (next s))[i]? = some (next s) := by simp [inside]
    obtain ⟨schedule, same⟩ := ih s replaced (update s)
    refine ⟨i :: schedule, ?_⟩
    rw [List.set_set] at same
    rw [interleave, found]
    exact same

/-- A schedule can bring programs from one state to where others are left in another. -/
def Reaches (ps : List (Program σ ε α)) (s : σ) (ps' : List (Program σ ε α)) (s' : σ) : Prop :=
  ∃ first, ∀ rest, (interleave (first ++ rest) ps).run s = (interleave rest ps').run s'

theorem Reaches.trans {ps ps' ps'' : List (Program σ ε α)} {s s' s'' : σ} (start : Reaches ps s ps' s')
    (further : Reaches ps' s' ps'' s'') : Reaches ps s ps'' s'' := by
  obtain ⟨first, same⟩ := start
  obtain ⟨second, same'⟩ := further
  refine ⟨first ++ second, fun rest => ?_⟩
  rw [List.append_assoc, same, same']
/-- The first part of one program can run before all else. -/
theorem reaches_bind {p : Program σ ε β} {f : β → Program σ ε α} {ps : List (Program σ ε α)} {i : Nat} (inside : i < ps.length)
    {s s' : σ} {b : β} (ran : p.run s = (.ok b, s')) : Reaches (ps.set i (p >>= f)) s (ps.set i (f b)) s' := by
  induction p generalizing s with
  | done result =>
    obtain ⟨rfl, rfl⟩ := Prod.mk.inj ran
    exact ⟨[], fun rest => rfl⟩
  | step update next ih =>
    obtain ⟨first, same⟩ := ih s ran
    refine ⟨i :: first, fun rest => ?_⟩
    have found : (ps.set i (step update next >>= f))[i]? = some (step update fun s => next s >>= f) := by
      rw [List.getElem?_set_self inside]
      rfl
    have turn : (interleave (i :: first ++ rest) (ps.set i (step update next >>= f))).run s =
        (interleave (first ++ rest) (ps.set i (next s >>= f))).run (update s) := by
      rw [List.cons_append, interleave, found]
      simp only [run, List.set_set]
    rw [turn, same]

/-! ### Rely and guarantee -/

/-- From a state on, whatever the others do between its statements (`rely`),
    each statement makes a step of `guarantee`, and the program ends with `post`. -/
def Ensures (rely guarantee : σ → σ → Prop) (post : Except ε α → σ → Prop) : Program σ ε α → σ → Prop
  | done result, s => ∀ s', rely s s' → post result s'
  | step update next, s => ∀ s', rely s s' →
      guarantee s' (update s') ∧ Ensures rely guarantee post (next s') (update s')

section
variable {rely guarantee : σ → σ → Prop} {post : Except ε α → σ → Prop}

theorem Ensures.consequence {others : σ → σ → Prop} {weaker : Except ε α → σ → Prop} {p : Program σ ε α} {s : σ}
    (ensured : p.Ensures rely guarantee post s) (less : ∀ s s', others s s' → rely s s')
    (implies : ∀ result s, post result s → weaker result s) : p.Ensures others guarantee weaker s := by
  induction p generalizing s with
  | done result => exact fun s' moved => implies result s' (ensured s' (less s s' moved))
  | step update next ih =>
    intro s' moved
    obtain ⟨made, rest⟩ := ensured s' (less s s' moved)
    exact ⟨made, ih s' rest⟩
/-- What is ensured from a state is ensured from every state that the others lead to. -/
theorem Ensures.moved [IsTrans σ rely] {p : Program σ ε α} {s s' : σ} (ensured : p.Ensures rely guarantee post s)
    (moved : rely s s') : p.Ensures rely guarantee post s' := by
  cases p with
  | done result => exact fun later next => ensured later (IsTrans.trans _ _ _ moved next)
  | step update next => exact fun later further => ensured later (IsTrans.trans _ _ _ moved further)

theorem ensures_pure {a : α} {s : σ} (right : ∀ s', rely s s' → post (.ok a) s') :
    (pure a : Program σ ε α).Ensures rely guarantee post s := right
theorem ensures_bind [Std.Refl rely] {p : Program σ ε α} {f : α → Program σ ε β} {final : Except ε β → σ → Prop} {s : σ}
    (first : p.Ensures rely guarantee (fun result s' => match result with
      | .ok a => (f a).Ensures rely guarantee final s'
      | .error e => ∀ later, rely s' later → final (.error e) later) s) :
    (p >>= f).Ensures rely guarantee final s := by
  show (p.bind f).Ensures rely guarantee final s
  induction p generalizing s with
  | done result =>
    have here := first s (Std.Refl.refl s)
    cases result with
    | ok a => exact here
    | error e => exact here
  | step update next ih =>
    intro s' moved
    obtain ⟨made, rest⟩ := first s' moved
    exact ⟨made, ih s' rest⟩
theorem ensures_attempt {post : Except ε (Except ε α) → σ → Prop} {p : Program σ ε α} {s : σ}
    (ensured : p.Ensures rely guarantee (fun result => post (.ok result)) s) :
    p.attempt.Ensures rely guarantee post s := by
  induction p generalizing s with
  | done result => exact ensured
  | step update next ih =>
    intro s' moved
    obtain ⟨made, rest⟩ := ensured s' moved
    exact ⟨made, ih s' rest⟩
theorem ensures_statement [Std.Refl guarantee] {f : σ → Except ε (α × σ)} {s : σ}
    (succeeds : ∀ s' a after, rely s s' → f s' = .ok (a, after) →
      guarantee s' after ∧ ∀ later, rely after later → post (.ok a) later)
    (fails : ∀ s' e, rely s s' → f s' = .error e → ∀ later, rely s' later → post (.error e) later) :
    (statement f).Ensures rely guarantee post s := by
  intro s' moved
  show guarantee s' (match f s' with | .ok result => result.2 | .error _ => s') ∧
    ∀ later, rely (match f s' with | .ok result => result.2 | .error _ => s') later → post ((f s').map (·.1)) later
  cases returned : f s' with
  | ok result => exact succeeds s' result.1 result.2 moved returned
  | error e => exact ⟨Std.Refl.refl s', fails s' e moved returned⟩
/-- A program alone makes steps of its guarantee and ends as ensured. -/
theorem Ensures.run [Std.Refl rely] [IsPreorder σ guarantee] {p : Program σ ε α} {s : σ}
    (ensured : p.Ensures rely guarantee post s) : guarantee s (p.run s).2 ∧ post (p.run s).1 (p.run s).2 := by
  induction p generalizing s with
  | done result => exact ⟨Std.Refl.refl s, ensured s (Std.Refl.refl s)⟩
  | step update next ih =>
    obtain ⟨made, rest⟩ := ensured s (Std.Refl.refl s)
    obtain ⟨others, ended⟩ := ih s rest
    exact ⟨IsTrans.trans _ _ _ made others, ended⟩
theorem Ensures.reached_from [IsPreorder σ guarantee] {p : Program σ ε α} {origin s : σ} (arrived : guarantee origin s)
    (ensured : p.Ensures guarantee guarantee post s) :
    p.Ensures guarantee guarantee (fun result s' => post result s' ∧ guarantee origin s') s := by
  induction p generalizing s with
  | done result => exact fun s' moved => ⟨ensured s' moved, IsTrans.trans _ _ _ arrived moved⟩
  | step update next ih =>
    intro s' moved
    obtain ⟨made, rest⟩ := ensured s' moved
    exact ⟨made, ih s' (IsTrans.trans _ _ _ (IsTrans.trans _ _ _ arrived moved) made) rest⟩
/-- A program ends in a state that its own steps and those of the others lead to. -/
theorem Ensures.reached [IsPreorder σ guarantee] {p : Program σ ε α} {s : σ}
    (ensured : p.Ensures guarantee guarantee post s) :
    p.Ensures guarantee guarantee (fun result s' => post result s' ∧ guarantee s s') s :=
  ensured.reached_from (Std.Refl.refl s)

end

section
variable {moves : σ → σ → Prop} [IsPreorder σ moves] {post : Except ε α → σ → Prop}

theorem Ensures.stable {p : Program σ ε α} {s : σ} (ensured : p.Ensures moves moves post s) :
    p.Ensures moves moves (fun result s' => ∀ later, moves s' later → post result later) s := by
  induction p generalizing s with
  | done result => exact fun s' moved later further => ensured later (IsTrans.trans _ _ _ moved further)
  | step update next ih =>
    intro s' moved
    obtain ⟨made, rest⟩ := ensured s' moved
    exact ⟨made, ih s' rest⟩
theorem ensures_inOrder {ps : List (Program σ ε α)} {s : σ} (ensured : ∀ p ∈ ps, p.Ensures moves moves post s) :
    (inOrder ps).Ensures moves moves
      (fun result s' => ∃ results, result = .ok results ∧ ∀ r ∈ results, post r s') s := by
  induction ps generalizing s with
  | nil => exact fun _ _ => ⟨[], rfl, nofun⟩
  | cons p rest ih =>
    rw [List.forall_mem_cons] at ensured
    refine ensures_bind (ensures_attempt (ensured.1.stable.reached.consequence (fun _ _ same => same) ?_))
    rintro result s' ⟨right, moved⟩
    refine ensures_bind ((ih fun q inside => (ensured.2 q inside).moved moved).stable.reached.consequence
      (fun _ _ same => same) ?_)
    rintro outcome s'' ⟨others, further⟩
    obtain ⟨results, rfl, -⟩ := others s'' (Std.Refl.refl s'')
    intro later last
    obtain ⟨_, same, rights⟩ := others later last
    cases same
    exact ⟨_, rfl, List.forall_mem_cons.mpr ⟨right later (IsTrans.trans _ _ _ further last), rights⟩⟩
/-- Programs that rely on no more than each of them guarantees can run in any order of their statements. -/
theorem ensures_interleave {ps : List (Program σ ε α)} {s : σ} (schedule : List Nat)
    (ensured : ∀ p ∈ ps, p.Ensures moves moves post s) :
    (interleave schedule ps).Ensures Eq moves
      (fun result s' => ∃ results, result = .ok results ∧ ∀ r ∈ results, post r s') s := by
  induction schedule generalizing ps s with
  | nil => exact (ensures_inOrder ensured).consequence (fun s _ same => same ▸ Std.Refl.refl s) fun _ _ ended => ended
  | cons i rest ih =>
    rw [interleave]
    split
    · rename_i update next found
      rintro _ rfl
      have member := List.mem_of_getElem? found
      obtain ⟨made, continued⟩ := ensured _ member s (Std.Refl.refl s)
      refine ⟨made, ih fun q inside => ?_⟩
      rcases List.mem_or_eq_of_mem_set inside with old | rfl
      · exact (ensured q old).moved made
      · exact continued
    · exact ih ensured

end

/-! ### Guarantees of each program -/

section
variable {r : σ → σ → Prop} [IsPreorder σ r]

/-- A program alone leads where each of its steps does. -/
theorem Ensures.leads {rely guarantee : σ → σ → Prop} [Std.Refl rely] {post : Except ε α → σ → Prop} {p : Program σ ε α} {s : σ}
    (ensured : p.Ensures rely guarantee post s) (within : ∀ s s', guarantee s s' → r s s') : r s (p.run s).2 := by
  induction p generalizing s with
  | done result => exact Std.Refl.refl s
  | step update next ih =>
    obtain ⟨made, rest⟩ := ensured s (Std.Refl.refl s)
    exact IsTrans.trans _ _ _ (within _ _ made) (ih s rest)
theorem run_inOrder_cons (p : Program σ ε α) (rest : List (Program σ ε α)) (s : σ) :
    ((inOrder (p :: rest)).run s).2 = ((inOrder rest).run (p.run s).2).2 := by
  rw [inOrder, run_bind, run_attempt]
  simp only
  rw [run_bind]
  rcases (inOrder rest).run (p.run s).2 with ⟨_ | _, s'⟩
  · rfl
  · rfl
theorem inOrder_leads {rely guarantee : Nat → σ → σ → Prop} [∀ i, IsPreorder σ (rely i)] {post : Except ε α → σ → Prop}
    {ps : List (Program σ ε α)} {s : σ}
    (ensured : ∀ (i : Nat) (p : Program σ ε α), ps[i]? = some p → p.Ensures (rely i) (guarantee i) post s)
    (others : ∀ i j : Nat, i ≠ j → i < ps.length → j < ps.length → ∀ s s', guarantee i s s' → rely j s s')
    (within : ∀ i : Nat, i < ps.length → ∀ s s', guarantee i s s' → r s s') : r s ((inOrder ps).run s).2 := by
  induction ps generalizing rely guarantee s with
  | nil => exact Std.Refl.refl s
  | cons p rest ih =>
    rw [run_inOrder_cons]
    have first := ensured 0 p rfl
    have inside {i : Nat} (index : i < rest.length) : i + 1 < (p :: rest).length := Nat.succ_lt_succ index
    refine IsTrans.trans _ _ _ (first.leads (within 0 (Nat.zero_lt_succ _))) ?_
    refine @ih (fun i => rely (i + 1)) (fun i => guarantee (i + 1)) _ _ (fun i q found => ?_) (fun i j apart i_in j_in => ?_)
      fun i index => within (i + 1) (inside index)
    · have index : i < rest.length := (List.getElem?_eq_some_iff.mp found).1
      have moved := first.leads (others 0 (i + 1) (by simp) (Nat.zero_lt_succ _) (inside index))
      exact (ensured (i + 1) q found).moved moved
    · exact others (i + 1) (j + 1) (by simpa using apart) (inside i_in) (inside j_in)
/-- Programs that each rely on what the others guarantee lead, in any order of
    their statements, where every one of their steps does. -/
theorem interleave_leads {rely guarantee : Nat → σ → σ → Prop} [∀ i, IsPreorder σ (rely i)] {post : Except ε α → σ → Prop}
    {ps : List (Program σ ε α)} {s : σ} (schedule : List Nat)
    (ensured : ∀ (i : Nat) (p : Program σ ε α), ps[i]? = some p → p.Ensures (rely i) (guarantee i) post s)
    (others : ∀ i j : Nat, i ≠ j → i < ps.length → j < ps.length → ∀ s s', guarantee i s s' → rely j s s')
    (within : ∀ i : Nat, i < ps.length → ∀ s s', guarantee i s s' → r s s') : r s ((interleave schedule ps).run s).2 := by
  induction schedule generalizing ps s with
  | nil => exact inOrder_leads ensured others within
  | cons i rest ih =>
    rw [interleave]
    split
    · rename_i update next found
      have index : i < ps.length := (List.getElem?_eq_some_iff.mp found).1
      obtain ⟨made, continued⟩ := ensured i _ found s (Std.Refl.refl s)
      have length : (ps.set i (next s)).length = ps.length := List.length_set
      refine IsTrans.trans _ _ _ (within i index _ _ made) (ih (fun j q looked => ?_) ?_ ?_)
      · rw [List.getElem?_set] at looked
        by_cases same : i = j
        · rw [if_pos same, if_pos index] at looked
          cases looked
          exact same ▸ continued
        · rw [if_neg same] at looked
          have index' : j < ps.length := (List.getElem?_eq_some_iff.mp looked).1
          exact (ensured j q looked).moved (others i j same index index' _ _ made)
      · rw [length]
        exact others
      · rw [length]
        exact within
    · exact ih ensured others within

end

end Program

end Openlit.Programs
