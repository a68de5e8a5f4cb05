import Openlit.JsonParse

/-!
JSON texts in which the characters of names and strings are written in another
way than `JSON.stringify` writes them. What holds of every character and of the
marks around them holds of the whole text (`written_related`), and no text of a
value is shorter than the one that `JSON.stringify` writes (`length_le_of_jsonParse`).
-/
namespace Openlit.JsonRewrites
open Openlit.JsonText Openlit.JsonParse

/-! ### Other writings -/

/-- A name or a string, with what is written for its characters. -/
def quotedWith (f : Char → List Char) (text : String) : List Char := '"' :: text.toList.flatMap f ++ ['"']
mutual
def writtenWith (f : Char → List Char) : Json → List Char
  | .null => "null".toList
  | .bool b => (if b then "true" else "false").toList
  | .number text => text.toList
  | .string text => quotedWith f text
  | .array items => '[' :: joined (itemsWith f items) ++ [']']
  | .object fields => '{' :: joined (fieldsWith f fields) ++ ['}']
def itemsWith (f : Char → List Char) : List Json → List (List Char)
  | [] => []
  | item :: items => writtenWith f item :: itemsWith f items
def fieldsWith (f : Char → List Char) : List (String × Json) → List (List Char)
  | [] => []
  | (key, value) :: fields => (quotedWith f key ++ ':' :: writtenWith f value) :: fieldsWith f fields
end

mutual
/-- The characters of the names and the strings of a value. -/
def characters : Json → List Char
  | .null | .bool _ | .number _ => []
  | .string text => text.toList
  | .array items => charactersOfItems items
  | .object fields => charactersOfFields fields
def charactersOfItems : List Json → List Char
  | [] => []
  | item :: items => characters item ++ charactersOfItems items
def charactersOfFields : List (String × Json) → List Char
  | [] => []
  | (key, value) :: fields => key.toList ++ (characters value ++ charactersOfFields fields)
end

mutual
theorem writtenWith_quotedChar : ∀ value : Json, writtenWith quotedChar value = written value
  | .null | .bool _ | .number _ | .string _ => rfl
  | .array items => by rw [writtenWith, itemsWith_quotedChar, written]
  | .object fields => by rw [writtenWith, fieldsWith_quotedChar, written]
theorem itemsWith_quotedChar : ∀ items : List Json, itemsWith quotedChar items = writtenItems items
  | [] => rfl
  | item :: items => by rw [itemsWith, writtenWith_quotedChar, itemsWith_quotedChar, writtenItems]
theorem fieldsWith_quotedChar : ∀ fields : List (String × Json), fieldsWith quotedChar fields = writtenFields fields
  | [] => rfl
  | (key, value) :: fields => by
    rw [fieldsWith, writtenWith_quotedChar, fieldsWith_quotedChar, writtenFields]
    rfl
end

/-- A character outside the names and the strings of a value, or around them. -/
def isOuter (c : Char) : Bool := isWordChar c || c ∈ ['"', '[', ']', '{', '}', ',', ':']

/-- What two writings have in common: it holds of the characters and of the marks, and of texts one after another. -/
structure Related (f g : Char → List Char) (R : List Char → List Char → List Char → Prop) : Prop where
  nil : R [] [] []
  append : ∀ {cs cs' xs xs' ys ys'}, R cs xs ys → R cs' xs' ys' → R (cs ++ cs') (xs ++ xs') (ys ++ ys')
  outer : ∀ c, isOuter c = true → R [] [c] [c]
  character : ∀ c, R [c] (f c) (g c)

section
variable {f g : Char → List Char} {R : List Char → List Char → List Char → Prop} (related : Related f g R)
include related

theorem Related.cons {c : Char} (outer : isOuter c = true) {cs xs ys : List Char} (holds : R cs xs ys) : R cs (c :: xs) (c :: ys) :=
  related.append (related.outer c outer) holds
theorem Related.snoc {c : Char} (outer : isOuter c = true) {cs xs ys : List Char} (holds : R cs xs ys) :
    R cs (xs ++ [c]) (ys ++ [c]) := by
  simpa using related.append holds (related.outer c outer)
theorem Related.word : ∀ {word : List Char}, word.all isOuter = true → R [] word word
  | [], _ => related.nil
  | c :: word, outer => by
    rw [List.all_cons, Bool.and_eq_true] at outer
    exact related.cons outer.1 (Related.word outer.2)
theorem Related.flatMap : ∀ text : List Char, R text (text.flatMap f) (text.flatMap g)
  | [] => related.nil
  | c :: text => related.append (related.character c) (Related.flatMap text)
theorem Related.quoted (text : String) : R text.toList (quotedWith f text) (quotedWith g text) :=
  related.snoc (by decide) (related.cons (by decide) (related.flatMap text.toList))
theorem Related.joined_cons {cs cs' x y : List Char} {xs ys : List (List Char)} (first : R cs x y)
    (others : R cs' (joined xs) (joined ys)) (same : xs = [] ↔ ys = []) : R (cs ++ cs') (joined (x :: xs)) (joined (y :: ys)) := by
  cases xs with
  | nil =>
    obtain rfl := same.mp rfl
    simpa [joined] using related.append first others
  | cons next xs =>
    obtain ⟨next', ys, rfl⟩ := List.exists_cons_of_ne_nil fun none => List.cons_ne_nil _ _ (same.mpr none)
    exact related.append first (related.cons (by decide) others)

mutual
/-- What holds of every character holds of the texts of a value. -/
theorem written_related : ∀ {value : Json}, Valid value → R (characters value) (writtenWith f value) (writtenWith g value)
  | .null, _ => show R [] "null".toList "null".toList from related.word (by decide)
  | .bool true, _ => show R [] "true".toList "true".toList from related.word (by decide)
  | .bool false, _ => show R [] "false".toList "false".toList from related.word (by decide)
  | .number text, valid => by
    refine related.word (List.all_eq_true.mpr fun c inside => ?_)
    rw [isOuter, List.all_eq_true.mp (number_word valid).2 c inside, Bool.true_or]
  | .string text, _ => related.quoted text
  | .array _, valid => related.snoc (by decide) (related.cons (by decide) (joined_items_related valid))
  | .object _, valid => related.snoc (by decide) (related.cons (by decide) (joined_fields_related valid))
theorem joined_items_related : ∀ {items : List Json}, ValidItems items →
    R (charactersOfItems items) (joined (itemsWith f items)) (joined (itemsWith g items))
  | [], _ => related.nil
  | item :: items, valid => by
    refine related.joined_cons (written_related valid.1) (joined_items_related valid.2) ?_
    cases items <;> simp [itemsWith]
theorem joined_fields_related : ∀ {fields : List (String × Json)}, ValidFields fields →
    R (charactersOfFields fields) (joined (fieldsWith f fields)) (joined (fieldsWith g fields))
  | [], _ => related.nil
  | (key, value) :: fields, valid => by
    have named : R (key.toList ++ characters value) (quotedWith f key ++ ':' :: writtenWith f value)
        (quotedWith g key ++ ':' :: writtenWith g value) :=
      related.append (related.quoted key) (related.cons (by decide) (written_related valid.1))
    rw [charactersOfFields, ← List.append_assoc]
    refine related.joined_cons named (joined_fields_related valid.2) ?_
    cases fields <;> simp [fieldsWith]
end

end

/-! ### The shortest text -/

theorem length_quotedChar_le (c : Char) : (quotedChar c).length ≤ 6 := by
  unfold quotedChar
  split_ifs <;> simp
theorem length_skip_le (input : List Char) : (skip input).length ≤ input.length := (List.dropWhile_sublist _).length_le
/-- What is behind a character after the blanks. -/
theorem length_of_skip {c : Char} {input rest : List Char} (isNext : skip input = c :: rest) : rest.length + 1 ≤ input.length := by
  have shorter := length_skip_le input
  rwa [isNext, List.length_cons] at shorter

theorem length_readUnit {input rest : List Char} {n : Nat} (read : readUnit input = some (n, rest)) : rest.length + 4 = input.length := by
  unfold readUnit at read
  split at read
  · simp only [bind, Option.bind_eq_some_iff, pure, Option.some.injEq, Prod.mk.injEq] at read
    obtain ⟨_, -, _, -, _, -, _, -, -, rfl⟩ := read
    simp
  · cases read
theorem length_readCharacter {input rest : List Char} {c : Char} (read : readCharacter input = some (c, rest)) :
    rest.length + 4 ≤ input.length := by
  obtain ⟨⟨high, after⟩, first, read⟩ := Option.bind_eq_some_iff.mp read
  have consumed := length_readUnit first
  dsimp only at read
  split at read
  · cases read
    exact Nat.le_of_eq consumed
  · split at read
    · obtain ⟨⟨low, after'⟩, second, read⟩ := Option.bind_eq_some_iff.mp read
      have more := length_readUnit second
      dsimp only at read
      split at read
      · simp only [pure, Option.some.injEq, Prod.mk.injEq] at read
        obtain ⟨-, rfl⟩ := read
        simp only [List.length_cons] at consumed
        omega
      · cases read
    · cases read
theorem length_readEscape {input rest : List Char} {c : Char} (read : readEscape input = some (c, rest)) :
    (quotedChar c).length + rest.length ≤ input.length + 1 := by
  unfold readEscape at read
  split at read
  case h_1 =>
    have consumed := length_readCharacter read
    have bound := length_quotedChar_le c
    rw [List.length_cons]
    omega
  case h_10 => cases read
  all_goals
    cases read
    simp [quotedChar]
    omega
theorem length_readString {fuel : Nat} {input text rest : List Char} (read : readString fuel input = some (text, rest)) :
    (text.flatMap quotedChar).length + rest.length + 1 ≤ input.length := by
  induction fuel generalizing input text with
  | zero => cases read
  | succ fuel ih =>
    cases input with
    | nil => cases read
    | cons c input =>
      rw [readString] at read
      split_ifs at read with isQuote isBackslash control
      · cases read
        simp
      · obtain ⟨⟨d, left⟩, escaped, read⟩ := Option.bind_eq_some_iff.mp read
        obtain ⟨⟨more, left'⟩, others, same⟩ := Option.bind_eq_some_iff.mp read
        cases same
        have first := length_readEscape escaped
        have later := ih others
        simp only [List.flatMap_cons, List.length_append, List.length_cons]
        omega
      · obtain ⟨⟨more, left⟩, others, same⟩ := Option.bind_eq_some_iff.mp read
        cases same
        have later := ih others
        have single : (quotedChar c).length ≤ 1 := by
          unfold quotedChar
          split_ifs <;> simp_all
        simp only [List.flatMap_cons, List.length_append, List.length_cons]
        omega
theorem length_quoted (text : List Char) : (quoted (String.ofList text)).length = (text.flatMap quotedChar).length + 2 := by
  simp [quoted]

theorem length_readWord {input rest : List Char} {value : Json} (read : readWord input = some (value, rest)) :
    (written value).length + rest.length = input.length := by
  have parts := congrArg List.length (List.takeWhile_append_dropWhile (p := isWordChar) (l := input))
  rw [List.length_append] at parts
  simp only [readWord] at read
  split_ifs at read with isNull isTrue isFalse number <;> cases read
  · rw [← parts, isNull]
    rfl
  · rw [← parts, isTrue]
    rfl
  · rw [← parts, isFalse]
    rfl
  · rw [written, String.toList_ofList, parts]

mutual
theorem length_readValue : ∀ (fuel : Nat) {input rest : List Char} {value : Json},
    readValue fuel input = some (value, rest) → (written value).length + rest.length ≤ input.length
  | 0, _, _, _, read => nomatch read
  | fuel + 1, input, rest, value, read => by
    rw [readValue] at read
    split at read
    · next isNext =>
      have shorter := length_of_skip isNext
      obtain ⟨⟨text, left⟩, inside, same⟩ := Option.map_eq_some_iff.mp read
      cases same
      have consumed := length_readString inside
      rw [written, length_quoted]
      omega
    · next isNext =>
      have shorter := length_of_skip isNext
      split at read
      · next isEnd =>
        cases read
        have ended := length_of_skip isEnd
        simp only [written, writtenItems, joined, List.length_append, List.length_cons, List.length_nil]
        omega
      · obtain ⟨⟨items, left⟩, inside, same⟩ := Option.map_eq_some_iff.mp read
        cases same
        have consumed := length_readItems fuel inside
        simp only [written, List.length_append, List.length_cons, List.length_nil]
        omega
    · next isNext =>
      have shorter := length_of_skip isNext
      split at read
      · next isEnd =>
        cases read
        have ended := length_of_skip isEnd
        simp only [written, writtenFields, joined, List.length_append, List.length_cons, List.length_nil]
        omega
      · obtain ⟨⟨fields, left⟩, inside, same⟩ := Option.map_eq_some_iff.mp read
        cases same
        have consumed := length_readFields fuel inside
        simp only [written, List.length_append, List.length_cons, List.length_nil]
        omega
    · have consumed := length_readWord read
      have shorter := length_skip_le input
      omega
/-- With the closing bracket. -/
theorem length_readItems : ∀ (fuel : Nat) {input rest : List Char} {items : List Json},
    readItems fuel input = some (items, rest) → (joined (writtenItems items)).length + rest.length + 1 ≤ input.length
  | 0, _, _, _, read => nomatch read
  | fuel + 1, input, rest, items, read => by
    rw [readItems] at read
    obtain ⟨⟨item, left⟩, first, read⟩ := Option.bind_eq_some_iff.mp read
    have consumed := length_readValue fuel first
    dsimp only at read
    split at read
    · next isNext =>
      have shorter := length_of_skip isNext
      obtain ⟨⟨more, _⟩, others, same⟩ := Option.map_eq_some_iff.mp read
      cases same
      have later := length_readItems fuel others
      rw [writtenItems, length_joined]
      cases more with
      | nil =>
        simp only [writtenItems, joined, List.length_nil] at later ⊢
        omega
      | cons next more =>
        simp only [writtenItems] at later ⊢
        omega
    · next isNext =>
      have shorter := length_of_skip isNext
      cases read
      simp only [writtenItems, joined]
      omega
    · cases read
theorem length_readFields : ∀ (fuel : Nat) {input rest : List Char} {fields : List (String × Json)},
    readFields fuel input = some (fields, rest) → (joined (writtenFields fields)).length + rest.length + 1 ≤ input.length
  | 0, _, _, _, read => nomatch read
  | fuel + 1, input, rest, fields, read => by
    rw [readFields] at read
    split at read
    · next isQuote =>
      have opened := length_of_skip isQuote
      obtain ⟨⟨key, left⟩, named, read⟩ := Option.bind_eq_some_iff.mp read
      have name := length_readString named
      dsimp only at read
      split at read
      · next isColon =>
        have colon := length_of_skip isColon
        obtain ⟨⟨value, left⟩, first, read⟩ := Option.bind_eq_some_iff.mp read
        have consumed := length_readValue fuel first
        dsimp only at read
        split at read
        · next isNext =>
          have shorter := length_of_skip isNext
          obtain ⟨⟨more, _⟩, others, same⟩ := Option.map_eq_some_iff.mp read
          cases same
          have later := length_readFields fuel others
          rw [writtenFields, length_joined, List.length_append, List.length_cons, length_quoted]
          cases more with
          | nil =>
            simp only [writtenFields, joined, List.length_nil] at later ⊢
            omega
          | cons next more =>
            simp only [writtenFields] at later ⊢
            omega
        · next isNext =>
          have shorter := length_of_skip isNext
          cases read
          simp only [writtenFields, joined, List.length_append, List.length_cons, length_quoted]
          omega
        · cases read
      · cases read
    · cases read
end
/-- A text is at least as long as the one that is written of what is read. -/
theorem length_le_of_jsonParse {text : String} {value : Json} (read : jsonParse text = some value) :
    (written value).length ≤ text.toList.length := by
  rw [jsonParse] at read
  split at read
  · next found =>
    have consumed := length_readValue _ found
    split at read
    · cases read
      omega
    · cases read
  · cases read

end Openlit.JsonRewrites
