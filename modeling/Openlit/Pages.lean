import Mathlib.Data.Multiset.Basic
import Openlit.Sorting

/-!
Pages of the rows of a table. Each page is cut out of an arrangement of the rows by
a key, and rows with equal keys may change places between one page and the next.
The pages show every row once, whatever the arrangements are, exactly if no cut
divides rows of one key (`shown_exactly_iff`). While the table grows, a row whose
key is its own is shown at least once (`shown_while_growing`).
-/
namespace Openlit.Pages
open Openlit.Sorting

variable {Row κ : Type} [LinearOrder κ]

/-- The rows in the order of their keys. -/
structure Arranged (key : Row → κ) (rows arranged : List Row) : Prop where
  perm : arranged.Perm rows
  ordered : arranged.Pairwise fun a b => key a ≤ key b

def page (limit offset : Nat) (rows : List Row) : List Row := (rows.drop offset).take limit
/-- What the first `n` pages show, each of its own arrangement. -/
def shown (limit : Nat) (arrangement : Nat → List Row) (n : Nat) : List Row :=
  (List.range n).flatMap fun i => page limit (i * limit) (arrangement i)

section
variable (key : Row → κ) (rows : List Row)

/-- How many rows have smaller keys, and how many have no greater ones. -/
def before (k : κ) : Nat := rows.countP fun row => key row < k
def through (k : κ) : Nat := rows.countP fun row => key row ≤ k
/-- Behind some of the rows of a key and before others comes a cut, and these rows are not all the same. -/
def Divides (cut : Nat) : Prop :=
  ∃ a ∈ rows, ∃ b ∈ rows, a ≠ b ∧ key a = key b ∧ before key rows (key a) < cut ∧ cut < through key rows (key a)

end

variable {key : Row → κ} {rows arranged other : List Row}

/-! ### The rows of one key -/

def less (key : Row → κ) (k : κ) (rows : List Row) : List Row := rows.filter fun row => key row < k
def equal (key : Row → κ) (k : κ) (rows : List Row) : List Row := rows.filter fun row => key row = k
def greater (key : Row → κ) (k : κ) (rows : List Row) : List Row := rows.filter fun row => k < key row

/-- An arrangement is the rows before a key, those of the key and those behind it. -/
theorem parts (ordered : rows.Pairwise fun a b => key a ≤ key b) (k : κ) :
    rows = less key k rows ++ (equal key k rows ++ greater key k rows) := by
  induction rows with
  | nil => rfl
  | cons row rest ih =>
    obtain ⟨first, others⟩ := List.pairwise_cons.mp ordered
    have tail := ih others
    have noneLess (from_ : k ≤ key row) : less key k rest = [] :=
      List.filter_eq_nil_iff.mpr fun r mem => by simpa using from_.trans (first r mem)
    have noneEqual (behind : k < key row) : equal key k rest = [] :=
      List.filter_eq_nil_iff.mpr fun r mem => by simpa using (behind.trans_le (first r mem)).ne'
    unfold less equal greater at *
    rcases lt_trichotomy (key row) k with below | same | above
    · rw [List.filter_cons_of_pos (by simpa using below), List.filter_cons_of_neg (by simpa using below.ne),
        List.filter_cons_of_neg (by simpa using below.le), List.cons_append]
      exact congrArg _ tail
    · rw [noneLess same.ge, List.nil_append] at tail
      rw [List.filter_cons_of_neg (by simpa using same.ge), List.filter_cons_of_pos (by simpa using same),
        List.filter_cons_of_neg (by simpa using same.le), noneLess same.ge, List.nil_append, List.cons_append]
      exact congrArg _ tail
    · rw [noneLess above.le, noneEqual above] at tail
      rw [List.filter_cons_of_neg (by simpa using above.le), List.filter_cons_of_neg (by simpa using above.ne'),
        List.filter_cons_of_pos (by simpa using above), noneLess above.le, noneEqual above]
      exact congrArg _ tail

theorem length_less (k : κ) (rows : List Row) : (less key k rows).length = before key rows k := (List.countP_eq_length_filter ..).symm
theorem through_eq (k : κ) (rows : List Row) : through key rows k = before key rows k + (equal key k rows).length := by
  rw [equal, ← List.countP_eq_length_filter]
  unfold through before
  induction rows with
  | nil => rfl
  | cons row rest ih =>
    simp only [List.countP_cons, ih]
    rcases lt_trichotomy (key row) k with below | same | above
    · simp [below, below.le, below.ne]
      omega
    · simp [same]
      omega
    · simp [above.not_ge, above.not_gt, above.ne']
theorem through_le (k : κ) (rows : List Row) : through key rows k ≤ rows.length := List.countP_le_length
theorem before_lt_through {row : Row} (mem : row ∈ rows) : before key rows (key row) < through key rows (key row) := by
  have listed : row ∈ equal key (key row) rows := List.mem_filter.mpr ⟨mem, by simp⟩
  have := List.length_pos_of_mem listed
  rw [through_eq]
  omega

theorem Arranged.before_eq (is : Arranged key rows arranged) (k : κ) : before key arranged k = before key rows k :=
  is.perm.countP_eq _
theorem Arranged.through_eq (is : Arranged key rows arranged) (k : κ) : through key arranged k = through key rows k :=
  is.perm.countP_eq _

/-- Where a row of an arrangement stands. -/
theorem Arranged.position (is : Arranged key rows arranged) {cut : Nat} (inside : cut < arranged.length) :
    before key rows (key arranged[cut]) ≤ cut ∧ cut < through key rows (key arranged[cut]) := by
  rw [← is.before_eq, ← is.through_eq]
  constructor
  · have behind : (arranged.drop cut).countP (fun row => key row < key arranged[cut]) = 0 := by
      rw [List.countP_eq_zero, List.drop_eq_getElem_cons inside]
      have ordered := is.ordered.sublist (List.drop_sublist cut arranged)
      rw [List.drop_eq_getElem_cons inside, List.pairwise_cons] at ordered
      intro row mem
      rcases List.mem_cons.mp mem with rfl | later
      · simp
      · simpa using ordered.1 row later
    have halves (p : Row → Bool) : arranged.countP p = (arranged.take cut).countP p + (arranged.drop cut).countP p := by
      rw [← List.countP_append, List.take_append_drop]
    rw [before, halves, behind, Nat.add_zero]
    exact List.countP_le_length.trans (List.length_take_le cut arranged)
  · have upTo : (arranged.take (cut + 1)).countP (fun row => key row ≤ key arranged[cut]) = cut + 1 := by
      have length : (arranged.take (cut + 1)).length = cut + 1 := List.length_take_of_le inside
      rw [List.countP_eq_length.mpr, length]
      have ordered := is.ordered.sublist (List.take_sublist (cut + 1) arranged)
      rw [List.take_succ_eq_append_getElem inside, List.pairwise_append] at ordered
      intro row mem
      rw [List.take_succ_eq_append_getElem inside, List.mem_append, List.mem_singleton] at mem
      rcases mem with earlier | rfl
      · simpa using ordered.2.2 row earlier _ (List.mem_singleton_self _)
      · simp
    rw [← Nat.succ_le_iff, Nat.succ_eq_add_one, ← upTo]
    exact (List.take_sublist (cut + 1) arranged).countP_le

/-- A row whose key is its own stands behind the rows with smaller keys. -/
theorem Arranged.found (is : Arranged key rows arranged) {row : Row} (there : row ∈ rows)
    (own : ∀ other ∈ rows, key other = key row → other = row) : arranged[before key rows (key row)]? = some row := by
  have size : (less key (key row) arranged).length = before key rows (key row) := (length_less _ _).trans (is.before_eq _)
  have listed : row ∈ equal key (key row) arranged := List.mem_filter.mpr ⟨is.perm.symm.subset there, by simp⟩
  rw [parts is.ordered (key row), List.getElem?_append_right size.le, size, Nat.sub_self]
  cases group : equal key (key row) arranged with
  | nil =>
    rw [group] at listed
    cases listed
  | cons first others =>
    have isFirst : first ∈ equal key (key row) arranged := group ▸ List.mem_cons_self
    obtain ⟨mem, same⟩ := List.mem_filter.mp isFirst
    rw [own first (is.perm.subset mem) (by simpa using same)]
    rfl

/-- Rows that are all the same are the same list in any order. -/
theorem eq_of_perm {rows other : List Row} (perm : rows.Perm other) (same : ∀ a ∈ rows, ∀ b ∈ rows, a = b) : rows = other := by
  cases rows with
  | nil => exact perm.nil_eq
  | cons a rest =>
    have all : a :: rest = List.replicate (rest.length + 1) a :=
      List.eq_replicate_iff.mpr ⟨rfl, fun b mem => same b mem a List.mem_cons_self⟩
    rw [all] at perm ⊢
    exact (List.perm_replicate.mp perm.symm).symm

/-- A cut that divides no rows has the same rows before it in all arrangements. -/
theorem take_perm (first : Arranged key rows arranged) (second : Arranged key rows other) {cut : Nat}
    (whole : ¬ Divides key rows cut) : (arranged.take cut).Perm (other.take cut) := by
  have perm := first.perm.trans second.perm.symm
  by_cases inside : cut < arranged.length
  · obtain ⟨from_, upTo⟩ := first.position inside
    generalize key arranged[cut] = k at from_ upTo
    have taken {list : List Row} (is : Arranged key rows list) :
        list.take cut = less key k list ++ (equal key k list).take (cut - before key rows k) := by
      have size : (less key k list).length = before key rows k := (length_less k list).trans (is.before_eq k)
      have enough : cut - before key rows k ≤ (equal key k list).length := by
        have : through key list k = before key list k + (equal key k list).length := Pages.through_eq k list
        rw [is.before_eq, is.through_eq] at this
        omega
      have split := congrArg (List.take cut) (parts is.ordered k)
      rw [split, List.take_append, List.take_of_length_le (by omega), size, List.take_append_of_le_length enough]
    rw [taken first, taken second]
    refine (perm.filter _).append ?_
    rcases Nat.eq_or_lt_of_le from_ with same | strictly
    · rw [same, Nat.sub_self, List.take_zero, List.take_zero]
    · have alike : ∀ a ∈ equal key k arranged, ∀ b ∈ equal key k arranged, a = b := by
        intro a isA b isB
        obtain ⟨memA, keyA⟩ := List.mem_filter.mp isA
        obtain ⟨memB, keyB⟩ := List.mem_filter.mp isB
        rw [decide_eq_true_eq] at keyA keyB
        by_contra differ
        refine whole ⟨a, first.perm.subset memA, b, first.perm.subset memB, differ, keyA.trans keyB.symm, ?_⟩
        rw [keyA]
        exact ⟨strictly, upTo⟩
      have sameRows : equal key k arranged = equal key k other := eq_of_perm (perm.filter _) alike
      rw [sameRows]
  · rw [List.take_of_length_le (not_lt.mp inside), List.take_of_length_le (perm.length_eq ▸ not_lt.mp inside)]
    exact perm

/-- The rows of a key may stand in any order. -/
theorem Arranged.reorder (is : Arranged key rows arranged) {k : κ} {middle : List Row} (perm : middle.Perm (equal key k arranged)) :
    Arranged key rows (less key k arranged ++ (middle ++ greater key k arranged)) := by
  have mem {r : Row} (inside : r ∈ middle) : key r = k := by
    simpa using (List.mem_filter.mp (perm.subset inside)).2
  refine ⟨?_, ?_⟩
  · refine ((perm.append_right _).append_left _).trans ?_
    rw [← parts is.ordered k]
    exact is.perm
  · rw [List.pairwise_append, List.pairwise_append]
    refine ⟨is.ordered.filter _, ⟨?_, is.ordered.filter _, ?_⟩, ?_⟩
    · exact List.pairwise_of_forall_mem_list fun a isA b isB => (mem isA).trans_le (mem isB).ge
    · intro a isA b isB
      have above : k < key b := by simpa using (List.mem_filter.mp isB).2
      exact (mem isA).trans_le above.le
    · intro a isA b isB
      have below : key a < k := by simpa using (List.mem_filter.mp isA).2
      rcases List.mem_append.mp isB with isMiddle | isGreater
      · exact below.le.trans (mem isMiddle).ge
      · have above : k < key b := by simpa using (List.mem_filter.mp isGreater).2
        exact (below.trans above).le
/-- A cut that divides rows has one of them before it in one arrangement and another in the next. -/
theorem exists_swapped {cut : Nat} (divides : Divides key rows cut) : ∃ front a b back, front.length + 1 = cut ∧ a ≠ b ∧
    Arranged key rows (front ++ a :: b :: back) ∧ Arranged key rows (front ++ b :: a :: back) := by
  classical
  obtain ⟨a, isA, b, isB, differ, same, from_, upTo⟩ := divides
  have is : Arranged key rows ((stableSort key).sort rows) := ⟨(stableSort key).perm rows, (stableSort key).ordered rows⟩
  generalize (stableSort key).sort rows = list at is
  have listedA : a ∈ equal key (key a) list := List.mem_filter.mpr ⟨is.perm.symm.subset isA, by simp⟩
  have listedB : b ∈ equal key (key a) list := List.mem_filter.mpr ⟨is.perm.symm.subset isB, by simp [same]⟩
  have perm : (a :: b :: ((equal key (key a) list).erase a).erase b).Perm (equal key (key a) list) :=
    (((List.perm_cons_erase ((List.mem_erase_of_ne (Ne.symm differ)).mpr listedB)).symm).cons a).trans (List.perm_cons_erase listedA).symm
  generalize ((equal key (key a) list).erase a).erase b = rest at perm
  have count : through key list (key a) = before key list (key a) + (equal key (key a) list).length := Pages.through_eq (key a) list
  rw [is.before_eq, is.through_eq, ← perm.length_eq, List.length_cons, List.length_cons] at count
  have size : (less key (key a) list).length = before key rows (key a) := (length_less (key a) list).trans (is.before_eq _)
  let place := cut - before key rows (key a) - 1
  have fits : place ≤ rest.length := by omega
  refine ⟨less key (key a) list ++ rest.take place, a, b, rest.drop place ++ greater key (key a) list, ?_, differ, ?_, ?_⟩
  · rw [List.length_append, size, List.length_take_of_le fits]
    omega
  · have moved : (rest.take place ++ a :: b :: rest.drop place).Perm (equal key (key a) list) := by
      refine List.Perm.trans ?_ perm
      refine List.perm_middle.trans (List.perm_middle.cons a |>.trans ?_)
      rw [List.take_append_drop]
    simpa using is.reorder moved
  · have moved : (rest.take place ++ b :: a :: rest.drop place).Perm (equal key (key a) list) := by
      refine List.Perm.trans ?_ perm
      refine List.perm_middle.trans ((List.perm_middle.cons b).trans ?_)
      rw [List.take_append_drop]
      exact List.Perm.swap a b rest
    simpa using is.reorder moved

/-! ### All pages -/

theorem shown_succ (limit : Nat) (arrangement : Nat → List Row) (n : Nat) :
    shown limit arrangement (n + 1) = shown limit arrangement n ++ page limit (n * limit) (arrangement n) := by
  simp [shown, List.range_succ]

theorem shown_perm {limit : Nat} {arrangement : Nat → List Row} (arranged : ∀ i, Arranged key rows (arrangement i)) {n : Nat}
    (whole : ∀ i < n, ¬ Divides key rows (i * limit)) {last : List Row} (isLast : Arranged key rows last)
    (wholeLast : ¬ Divides key rows (n * limit)) : (shown limit arrangement n).Perm (last.take (n * limit)) := by
  induction n generalizing last with
  | zero => simp [shown]
  | succ n ih =>
    have earlier := ih (fun i less => whole i (Nat.lt_succ_of_lt less)) (arranged n) (whole n (Nat.lt_succ_self n))
    rw [shown_succ]
    refine (earlier.append_right _).trans ?_
    have joined : (arrangement n).take (n * limit) ++ page limit (n * limit) (arrangement n) =
        (arrangement n).take ((n + 1) * limit) := by
      rw [page, Nat.succ_mul, List.take_add]
    rw [joined]
    exact take_perm (arranged n) isLast wholeLast

theorem shown_first {limit : Nat} {arrangement : Nat → List Row} {first : List Row} {n : Nat} (all : ∀ i < n, arrangement i = first) :
    shown limit arrangement n = first.take (n * limit) := by
  induction n with
  | zero => simp [shown]
  | succ n ih =>
    rw [shown_succ, ih fun i less => all i (Nat.lt_succ_of_lt less), all n (Nat.lt_succ_self n), page, Nat.succ_mul, List.take_add]

/-- The pages of two arrangements, the second of which comes with the page `i`. -/
theorem shown_two (limit i : Nat) (first second : List Row) (n : Nat) :
    shown limit (fun j => if j < i then first else second) (i + n) =
      first.take (i * limit) ++ (second.drop (i * limit)).take (n * limit) := by
  induction n with
  | zero =>
    rw [Nat.zero_mul, List.take_zero, List.append_nil]
    exact shown_first fun j less => if_pos less
  | succ n ih =>
    have later : ¬ i + n < i := by omega
    rw [← Nat.add_assoc, shown_succ, ih, if_neg later, page, Nat.succ_mul, List.take_add, List.append_assoc, List.drop_drop,
      Nat.add_mul]

/-- If two rows change places at a cut, the one before it is shown again behind it. -/
theorem shown_swapped {limit i n : Nat} {front back : List Row} {a b : Row} (cut : front.length + 1 = i * limit) (early : i ≤ n)
    (enough : front.length + (back.length + 2) ≤ n * limit) :
    shown limit (fun j => if j < i then front ++ a :: b :: back else front ++ b :: a :: back) n = front ++ a :: a :: back := by
  have pages : n * limit = i * limit + (n - i) * limit := by rw [← Nat.add_mul, Nat.add_sub_cancel' early]
  have taken : (front ++ a :: b :: back).take (i * limit) = front ++ [a] := by
    rw [← cut, List.take_append, List.take_of_length_le (Nat.le_succ _), Nat.add_sub_cancel_left]
    rfl
  have left : (front ++ b :: a :: back).drop (i * limit) = a :: back := by
    rw [← cut, List.drop_append, List.drop_of_length_le (Nat.le_succ _), Nat.add_sub_cancel_left]
    rfl
  have shownTwo := shown_two limit i (front ++ a :: b :: back) (front ++ b :: a :: back) (n - i)
  rw [Nat.add_sub_cancel' early, taken, left, List.take_of_length_le (by rw [List.length_cons]; omega)] at shownTwo
  rw [shownTwo, List.append_assoc, List.singleton_append]

/-- The pages show every row as often as it is there, whatever the arrangements are, exactly if no cut divides rows. -/
theorem shown_exactly_iff {limit n : Nat} (enough : rows.length ≤ n * limit) :
    (∀ arrangement : Nat → List Row, (∀ i, Arranged key rows (arrangement i)) → (shown limit arrangement n).Perm rows) ↔
      ∀ i < n, ¬ Divides key rows (i * limit) := by
  constructor
  · intro all i less divides
    obtain ⟨front, a, b, back, cut, differ, first, second⟩ := exists_swapped divides
    have each := all (fun j => if j < i then front ++ a :: b :: back else front ++ b :: a :: back) fun j => by
      by_cases early : j < i
      · rw [if_pos early]
        exact first
      · rw [if_neg early]
        exact second
    have length := first.perm.length_eq
    simp only [List.length_append, List.length_cons] at length
    rw [shown_swapped cut less.le (by omega)] at each
    have twice := each.trans first.perm.symm
    rw [List.perm_append_left_iff, List.perm_cons] at twice
    have equals : a ::ₘ (back : Multiset Row) = b ::ₘ (back : Multiset Row) := Multiset.coe_eq_coe.mpr twice
    exact differ (Multiset.cons_inj_left _ |>.mp equals)
  · intro whole arrangement arranged
    have wholeLast : ¬ Divides key rows (n * limit) := by
      rintro ⟨a, -, -, -, -, -, -, upTo⟩
      have : through key rows (key a) ≤ rows.length := through_le (key a) rows
      omega
    refine (shown_perm arranged whole (arranged 0) wholeLast).trans ?_
    rw [List.take_of_length_le ((arranged 0).perm.length_eq ▸ enough)]
    exact (arranged 0).perm

/-! ### While the table grows -/

/-- A row whose key is its own is on one of the pages, if the last page reaches to the end of its rows. -/
theorem shown_while_growing {limit n : Nat} {tables arrangement : Nat → List Row}
    (arranged : ∀ i, Arranged key (tables i) (arrangement i)) (grows : ∀ i, (tables i).Subperm (tables (i + 1)))
    (reaches : (tables n).length ≤ (n + 1) * limit) {row : Row} (there : row ∈ tables 0)
    (own : ∀ i, ∀ other ∈ tables i, key other = key row → other = row) : row ∈ shown limit arrangement (n + 1) := by
  have stays (i : Nat) : row ∈ tables i := by
    induction i with
    | zero => exact there
    | succ i ih => exact (grows i).subset ih
  have reached : ∃ i, before key (tables i) (key row) < (i + 1) * limit :=
    ⟨n, (before_lt_through (stays n)).trans_le ((through_le _ _).trans reaches)⟩
  classical
  have upTo := Nat.find_spec reached
  have from_ : Nat.find reached * limit ≤ before key (tables (Nat.find reached)) (key row) := by
    cases first : Nat.find reached with
    | zero => simp
    | succ i =>
      have notYet := Nat.find_min reached (first ▸ Nat.lt_succ_self i : i < Nat.find reached)
      exact (not_lt.mp notYet).trans ((grows i).countP_le _)
  have early : Nat.find reached < n + 1 :=
    Nat.lt_succ_of_le (Nat.find_min' reached ((before_lt_through (stays n)).trans_le ((through_le _ _).trans reaches)))
  generalize Nat.find reached = i at upTo from_ early
  refine List.mem_flatMap.mpr ⟨i, List.mem_range.mpr early, ?_⟩
  have found := (arranged i).found (stays i) (own i)
  refine List.mem_of_getElem? (i := before key (tables i) (key row) - i * limit) ?_
  rw [page, List.getElem?_take_of_lt (by rw [Nat.succ_mul] at upTo; omega), List.getElem?_drop, Nat.add_sub_cancel' from_]
  exact found

end Openlit.Pages
