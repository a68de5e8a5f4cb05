import Openlit.KeyedFolds
import Openlit.Lookups
import Openlit.PythonRepr
import Openlit.Relations
import Openlit.TextOrder

/-!
The formatting of chat messages by their roles in the Python SDK (`__helpers.py`): `extract_and_format_input`, which knows five
roles and writes a list of parts with `str`, and `format_and_concatenate`, which takes any role and the texts and images of the
parts. Messages are as `response_as_dict` gives them. An exception is no result.
-/
namespace Openlit.FormattedMessages
open Openlit.KeyedFolds Openlit.Lookups Openlit.PythonJson Openlit.PythonRepr Openlit.Relations Openlit.TextOrder

/-! ### Messages -/

inductive Content where
  | null
  | text (text : Text)
  | list (items : List PyValue)
/-- A message. A field may be left out, and the role be `None`. -/
structure Message where
  role : Option (Option Text) := none
  content : Option Content := none
/-- An entry of the list of messages. -/
inductive Item where
  | text (text : Text)
  | message (message : Message)
inductive Input where
  | text (text : Text)
  | list (items : List Item)

/-! ### The content of a role -/

/-- What becomes of the content of a role. A blank and `None` cannot be put together. -/
def concatenate (content contentStr : Option Text) : Option (Option Text) :=
  match content with
  | some (c :: cs) => contentStr.map fun contentStr => some (c :: cs ++ (codes " " ++ contentStr))
  | _ => some contentStr

/-! ### `extract_and_format_input` -/

structure Formatted where
  role : Text := []
  content : Option Text := some []
def fixedRoles : List Text := ["user", "assistant", "system", "tool", "developer"].map codes
def noMessages : List (Text × Formatted) := fixedRoles.map fun role => (role, {})

section
variable [Display]

def extractedContent : Option Content → Option Text
  | none => some []
  | some .null => none
  | some (.text text) => some text
  | some (.list items) => some (join ", " (items.map str))
def extractMessage (formatted : List (Text × Formatted)) (message : Message) : Option (List (Text × Formatted)) :=
  match message.role with
  | some (some role) =>
    if role ∈ fixedRoles then do
      let entry ← formatted.lookup role
      let content ← concatenate entry.content (extractedContent message.content)
      pure (setItem formatted role { role := if entry.role = [] then role else entry.role, content })
    else some formatted
  | _ => some formatted
def extractItem (formatted : List (Text × Formatted)) : Item → Option (List (Text × Formatted))
  | .text _ => none
  | .message message => extractMessage formatted message
def extractAndFormatInput : Input → Option (List (Text × Formatted))
  | .text text => some (setItem noMessages (codes "user") { role := codes "user", content := some text })
  | .list items => items.foldlM extractItem noMessages
def concatenateAllContents (formatted : List (Text × Formatted)) : Text :=
  join " " ((formatted.map fun entry => entry.2.content.getD []).filter (· ≠ []))

/-! ### `format_and_concatenate` -/

/-- What is taken of a part, if it is a dict. -/
def partTexts : PyValue → List PyValue
  | .dict entries => [(entries.lookup (codes "text")).getD (.str []), (entries.lookup (codes "image_url")).getD (.str [])]
  | _ => []
def asText : PyValue → Option Text
  | .str text => some text
  | _ => none
/-- A content as a text. Only strings can be joined. -/
def formattedContent : Option Content → Option (Option Text)
  | none => some (some [])
  | some .null => some none
  | some (.text text) => some (some text)
  | some (.list items) => (((items.flatMap partTexts).filter truthy).mapM asText).map fun texts => some (join ", " texts)
def Message.roleOrUnknown (message : Message) : Option Text := message.role.getD (some (codes "unknown"))
def withRole (formatted : List (Option Text × Option Text)) (role : Option Text) : List (Option Text × Option Text) :=
  if role ∈ formatted.map (·.1) then formatted else formatted ++ [(role, some [])]
def formatMessage (formatted : List (Option Text × Option Text)) (message : Message) : Option (List (Option Text × Option Text)) := do
  let role := message.roleOrUnknown
  let formatted := withRole formatted role
  let contentStr ← formattedContent message.content
  let content ← concatenate (← formatted.lookup role) contentStr
  pure (setItem formatted role content)
def formatItem (formatted : List (Option Text × Option Text)) : Item → Option (List (Option Text × Option Text))
  | .text _ => none
  | .message message => formatMessage formatted message

/-- The roles that have a content, with it. -/
def sections (formatted : List (Option Text × Option Text)) : List (Option Text × Text) :=
  formatted.filterMap fun entry => (entry.2.filter (· ≠ [])).map fun content => (entry.1, content)
def writeSection (part : Option Text × Text) : Text := part.1.getD (codes "None") ++ codes ": " ++ part.2
def writeAll (formatted : List (Option Text × Option Text)) : Text := join " " ((sections formatted).map writeSection)
def itemText : Item → Option Text
  | .text text => some text
  | .message _ => none
def formatAndConcatenate : Input → Option Text
  | .text text => some (writeAll [(some (codes "user"), some text)])
  | .list items =>
    match items.mapM itemText with
    | some texts => some (writeAll [(some (codes "user"), some (join " " texts))])
    | none => (items.foldlM formatItem []).map writeAll
end

/-! ### What should hold -/

/-- The text of a part. -/
def partText : PyValue → Option Text
  | .dict entries => (entries.lookup (codes "text")).bind asText
  | _ => none
def Message.texts (message : Message) : List Text :=
  match message.content with
  | none | some .null => []
  | some (.text text) => [text]
  | some (.list items) => items.filterMap partText
/-- The texts of a role, in the order of the messages. -/
def spoken (role : Option Text) (messages : List Message) : List Text :=
  (messages.filter (·.roleOrUnknown = role)).flatMap (·.texts)

section
variable [Display]

/-- The texts as they are written where parts are: in a list, with quotes. -/
def Message.written (message : Message) : List Text :=
  match message.content with
  | some (.list items) => (items.filterMap partText).map reprText
  | _ => message.texts
/-- What `extract_and_format_input` has under a role. -/
def extracted (role : Text) (messages : List Message) : List Text :=
  (messages.filter (·.role = some (some role))).flatMap (·.written)

end

/-- Nothing, or an empty text. -/
def Silent (content : Option Text) : Prop := content.getD [] = []

/-! ### The content of one role -/

theorem concatenate_silent {content : Option Text} (silent : Silent content) (added : Option Text) :
    concatenate content added = some added := by
  unfold concatenate
  cases content with
  | none => rfl
  | some text =>
    obtain rfl : text = [] := silent
    rfl
theorem concatenate_spoken {content : Option Text} (spoken : ¬ Silent content) (added : Option Text) :
    concatenate content added = added.map fun added => some (content.getD [] ++ (codes " " ++ added)) := by
  unfold concatenate
  cases content with
  | none => exact absurd rfl spoken
  | some text =>
    cases text with
    | nil => exact absurd rfl spoken
    | cons c cs => rfl
/-- What has been said is kept, and what is added comes after it. -/
theorem inOrder_concatenate {content added out : Option Text} (done : concatenate content added = some out) {texts more : List Text}
    (before : InOrder texts (content.getD [])) (after : InOrder more (added.getD [])) : InOrder (texts ++ more) (out.getD []) := by
  by_cases silent : Silent content
  · rw [concatenate_silent silent] at done
    obtain rfl := Option.some.inj done
    exact (inOrder_of_nil (before.eq_nil silent) []).append after
  · rw [concatenate_spoken silent] at done
    obtain ⟨text, rfl, rfl⟩ := Option.map_eq_some_iff.mp done
    exact before.append (after.front (codes " "))

section
variable {M : Type} (write : M → Option (Option Text))

/-- An entry's content is put together with what there is. -/
def addContent (content : Option Text) (m : M) : Option (Option Text) := write m >>= concatenate content
/-- `None` comes only where nothing was said before. -/
def NullFirst (earlier later : M) : Prop := write later = some none → ∀ content, write earlier = some content → Silent content

variable {write}

theorem inOrder_fold (texts : M → List Text) {entries : List M}
    (own : ∀ m ∈ entries, ∀ content, write m = some content → InOrder (texts m) (content.getD [])) {content out : Option Text}
    (done : entries.foldlM (addContent write) content = some out) {said : List Text} (before : InOrder said (content.getD [])) :
    InOrder (said ++ entries.flatMap texts) (out.getD []) := by
  induction entries generalizing content said with
  | nil =>
    obtain rfl := Option.some.inj done
    simpa using before
  | cons m entries ih =>
    obtain ⟨first, others⟩ := List.forall_mem_cons.mp own
    obtain ⟨next, added, rest⟩ := Option.bind_eq_some_iff.mp done
    obtain ⟨written, isWritten, put⟩ := Option.bind_eq_some_iff.mp added
    have after := ih others rest (inOrder_concatenate put before (first written isWritten))
    rwa [List.flatMap_cons, ← List.append_assoc]
/-- The contents can be put together exactly if each can be written, and `None` comes first. -/
theorem fold_isSome_iff {entries : List M} {content : Option Text} :
    (entries.foldlM (addContent write) content).isSome ↔ (∀ m ∈ entries, (write m).isSome) ∧
      (∀ m ∈ entries, write m = some none → Silent content) ∧ entries.Pairwise (NullFirst write) := by
  induction entries generalizing content with
  | nil => simp
  | cons m entries ih =>
    rw [List.foldlM_cons, List.forall_mem_cons, List.forall_mem_cons, List.pairwise_cons, addContent]
    cases isWritten : write m with
    | none => simp
    | some added =>
      have own : (∀ m' ∈ entries, NullFirst write m m') ↔ ∀ m' ∈ entries, write m' = some none → Silent added := by
        simp [NullFirst, isWritten]
      rw [own]
      change ((concatenate content added).bind fun next => entries.foldlM (addContent write) next).isSome ↔ _
      by_cases silent : Silent content
      · rw [concatenate_silent silent, Option.bind_some, ih]
        simp [silent]
      · rw [concatenate_spoken silent]
        cases added with
        | none => simp [silent]
        | some text =>
          rw [Option.map_some, Option.bind_some, ih]
          have said : ¬ Silent (some (content.getD [] ++ (codes " " ++ text))) := by
            simp [Silent, codes]
          simp only [said, silent]
          constructor
          · rintro ⟨all, never, rest⟩
            exact ⟨⟨rfl, all⟩, ⟨fun null => (by cases null), never⟩, fun m' mem null => (never m' mem null).elim, rest⟩
          · rintro ⟨⟨-, all⟩, ⟨-, never⟩, -, rest⟩
            exact ⟨all, never, rest⟩

theorem nullFirst_of_never {entries : List M} (never : ∀ m ∈ entries, write m ≠ some none) :
    entries.Pairwise (NullFirst write) :=
  List.pairwise_of_forall_mem_list fun _ _ later mem null => absurd null (never later mem)

end

/-! ### `extract_and_format_input` by roles -/

/-- The role of a message that is extracted. -/
def fixedRole (message : Message) : Option Text := message.role.join.filter (· ∈ fixedRoles)
def extractedView (formatted : List (Text × Formatted)) (role : Text) : Option Text :=
  ((formatted.lookup role).map (·.content)).getD (some [])

theorem extracted_there {message : Message} {role : Text} (isRole : fixedRole message = some role) {formatted : List (Text × Formatted)}
    (isValid : formatted.map (·.1) = fixedRoles) :
    ∃ entry, formatted.lookup role = some entry ∧ extractedView formatted role = entry.content := by
  have listed : role ∈ fixedRoles := by simpa using (Option.filter_eq_some_iff.mp isRole).2
  obtain ⟨entry, there⟩ := Option.isSome_iff_exists.mp (lookup_isSome_iff.mpr (isValid ▸ listed))
  exact ⟨entry, there, by rw [extractedView, there]; rfl⟩
theorem noMessages_keys : noMessages.map (·.1) = fixedRoles := by
  rw [noMessages, List.map_map]
  exact List.map_id _
theorem noMessages_view (role : Text) : extractedView noMessages role = some [] := by
  unfold extractedView
  cases found : noMessages.lookup role with
  | none => rfl
  | some entry =>
    obtain ⟨role', -, isEntry⟩ := List.mem_map.mp (mem_of_lookup found)
    cases isEntry
    rfl
/-- The contents of all roles, joined, have their texts in the order of the roles. -/
theorem inOrder_concatenateAll {formatted : List (Text × Formatted)} {texts : Text → List Text}
    (each : ∀ entry ∈ formatted, InOrder (texts entry.1) (entry.2.content.getD [])) :
    InOrder ((formatted.map (·.1)).flatMap texts) (concatenateAllContents formatted) := by
  have joined := inOrder_intercalate_nonempty (codes " ") formatted (fun entry => texts entry.1) (fun entry => entry.2.content.getD []) each
  have nonempty : (fun text : Text => decide (text ≠ [])) = (!·.isEmpty) := by
    funext text
    cases text <;> rfl
  rwa [concatenateAllContents, join, nonempty, List.flatMap_map]

section
variable [Display]

def extractedWrite (message : Message) : Option (Option Text) := some (extractedContent message.content)

theorem extractMessage_ignored {message : Message} (noRole : fixedRole message = none) (formatted : List (Text × Formatted)) :
    extractMessage formatted message = some formatted := by
  unfold extractMessage
  split
  next role isRole =>
    rw [fixedRole, isRole] at noRole
    rw [if_neg]
    simpa [Option.filter] using noRole
  · rfl
theorem extractMessage_adds {message : Message} {role : Text} (isRole : fixedRole message = some role)
    {formatted : List (Text × Formatted)} {entry : Formatted} (there : formatted.lookup role = some entry) :
    extractMessage formatted message = (concatenate entry.content (extractedContent message.content)).map fun content =>
      setItem formatted role { role := if entry.role = [] then role else entry.role, content } := by
  obtain ⟨joined, fixed⟩ := Option.filter_eq_some_iff.mp isRole
  have own : message.role = some (some role) := Option.join_eq_some_iff.mp joined
  unfold extractMessage
  rw [own]
  dsimp only
  rw [if_pos (by simpa using fixed), there, Option.bind_eq_bind, Option.bind_some]
  cases concatenate entry.content (extractedContent message.content) <;> rfl
theorem extracted_adds : Adds (fun formatted : List (Text × Formatted) => formatted.map (·.1) = fixedRoles) extractedView fixedRole
    (addContent extractedWrite) extractMessage where
  ignored _ noRole := extractMessage_ignored noRole _
  added := by
    intro formatted message role content isValid isRole done
    obtain ⟨entry, there, view⟩ := extracted_there isRole isValid
    rw [view] at done
    have joined : concatenate entry.content (extractedContent message.content) = some content := done
    refine ⟨_, by rw [extractMessage_adds isRole there, joined]; rfl, by rw [setItem_keys, isValid], ?_⟩
    funext other
    rw [extractedView, lookup_setItem]
    by_cases same : other = role
    · subst same
      simp [there]
    · simp [same, extractedView]
  failed := by
    intro formatted message role isValid isRole failed
    obtain ⟨entry, there, view⟩ := extracted_there isRole isValid
    rw [view] at failed
    have joined : concatenate entry.content (extractedContent message.content) = none := failed
    rw [extractMessage_adds isRole there, joined]
    rfl
theorem extracted_run (messages : List Message) :
    extractAndFormatInput (.list (messages.map .message)) = messages.foldlM extractMessage noMessages := List.foldlM_map

end

/-! ### `format_and_concatenate` by roles -/

def formattedView (formatted : List (Option Text × Option Text)) (role : Option Text) : Option Text :=
  (formatted.lookup role).getD (some [])

theorem withRole_view (formatted : List (Option Text × Option Text)) (role : Option Text) :
    formattedView (withRole formatted role) = formattedView formatted := by
  unfold withRole
  split
  · rfl
  · funext other
    rw [formattedView, List.lookup_append, formattedView]
    cases formatted.lookup other with
    | none =>
      by_cases same : other = role
      · simp [same]
      · have other' : (other == role) = false := by simpa using same
        simp [List.lookup_cons, other']
    | some content => rfl
theorem mem_withRole (formatted : List (Option Text × Option Text)) (role : Option Text) :
    role ∈ (withRole formatted role).map (·.1) := by
  unfold withRole
  split
  · assumption
  · simp
theorem withRole_nodup {formatted : List (Option Text × Option Text)} (once : (formatted.map (·.1)).Nodup) (role : Option Text) :
    ((withRole formatted role).map (·.1)).Nodup := by
  unfold withRole
  split
  · exact once
  next missing =>
    rw [List.map_append, List.nodup_append']
    exact ⟨once, List.nodup_singleton _, by simpa using missing⟩
theorem mem_sections {formatted : List (Option Text × Option Text)} {role : Option Text} {content : Option Text}
    (found : formatted.lookup role = some content) (spoken : content.getD [] ≠ []) : (role, content.getD []) ∈ sections formatted := by
  refine List.mem_filterMap.mpr ⟨_, mem_of_lookup found, ?_⟩
  cases content with
  | none => exact absurd rfl spoken
  | some text =>
    have nonempty : text ≠ [] := spoken
    simp [Option.filter, nonempty]
theorem sections_once {formatted : List (Option Text × Option Text)} (once : (formatted.map (·.1)).Nodup) :
    ((sections formatted).map (·.1)).Nodup := by
  refine once.sublist ?_
  unfold sections
  induction formatted with
  | nil => exact List.nil_sublist _
  | cons entry formatted ih =>
    have rest := ih (List.nodup_cons.mp once).2
    rw [List.filterMap_cons]
    split
    · exact rest.cons _
    next section' isSection =>
      obtain ⟨_, -, rfl⟩ := Option.map_eq_some_iff.mp isSection
      exact rest.cons_cons _

section
variable [Display]

theorem formatMessage_adds (formatted : List (Option Text × Option Text)) (message : Message) :
    formatMessage formatted message = (addContent (formattedContent ·.content) (formattedView formatted message.roleOrUnknown) message).map
      fun content => setItem (withRole formatted message.roleOrUnknown) message.roleOrUnknown content := by
  obtain ⟨old, there⟩ := Option.isSome_iff_exists.mp (lookup_isSome_iff.mpr (mem_withRole formatted message.roleOrUnknown))
  have view : formattedView formatted message.roleOrUnknown = old := by
    rw [← withRole_view formatted message.roleOrUnknown, formattedView, there, Option.getD_some]
  rw [formatMessage, view, addContent, there]
  cases formattedContent message.content with
  | none => rfl
  | some added =>
    simp only [Option.bind_eq_bind, Option.bind_some]
    cases concatenate old added <;> rfl
theorem formatted_adds : Adds (fun formatted : List (Option Text × Option Text) => (formatted.map (·.1)).Nodup) formattedView
    (fun message : Message => some message.roleOrUnknown) (addContent (formattedContent ·.content)) formatMessage where
  ignored _ noRole := nomatch noRole
  added := by
    intro formatted message role content once isRole done
    obtain rfl := Option.some.inj isRole
    refine ⟨_, by rw [formatMessage_adds, done]; rfl, by rw [setItem_keys]; exact withRole_nodup once _, ?_⟩
    funext other
    rw [formattedView, lookup_setItem, ← withRole_view formatted message.roleOrUnknown]
    by_cases same : other = message.roleOrUnknown
    · subst same
      obtain ⟨old, there⟩ := Option.isSome_iff_exists.mp (lookup_isSome_iff.mpr (mem_withRole formatted message.roleOrUnknown))
      simp [there]
    · simp [same, formattedView]
  failed := by
    intro formatted message role once isRole failed
    obtain rfl := Option.some.inj isRole
    rw [formatMessage_adds, failed]
    rfl
theorem formatItem_run (messages : List Message) :
    (messages.map Item.message).foldlM formatItem [] = messages.foldlM formatMessage [] := List.foldlM_map

end

/-! ### The texts of a message -/

section
variable [Display]

theorem inOrder_str (item : PyValue) : InOrder ((partText item).map reprText).toList (str item) := by
  cases isText : partText item with
  | none => exact .nil _
  | some text =>
    unfold partText at isText
    split at isText
    next entries =>
      obtain ⟨value, found, isStr⟩ := Option.bind_eq_some_iff.mp isText
      cases value <;> cases isStr
      exact inOrder_of_infix (infix_repr_dict (mem_of_lookup found))
    · cases isText
theorem inOrder_written (message : Message) : InOrder message.written ((extractedContent message.content).getD []) := by
  obtain ⟨role, content⟩ := message
  cases content with
  | none => exact .nil _
  | some content =>
    cases content with
    | null => exact .nil _
    | text text => exact inOrder_self text
    | list items =>
      have joined := inOrder_intercalate (codes ", ") items (fun item => ((partText item).map reprText).toList) str
        fun item _ => inOrder_str item
      rw [← List.filterMap_eq_flatMap_toList] at joined
      rwa [← List.map_filterMap] at joined
theorem sublist_partTexts (item : PyValue) :
    ((partText item).toList.filter (!·.isEmpty)).Sublist (((partTexts item).filter truthy).filterMap asText) := by
  cases isText : partText item with
  | none => exact List.nil_sublist _
  | some text =>
    unfold partText at isText
    split at isText
    next entries =>
      obtain ⟨value, found, isStr⟩ := Option.bind_eq_some_iff.mp isText
      cases value <;> cases isStr
      cases text with
      | nil => exact List.nil_sublist _
      | cons c cs =>
        rw [partTexts, found, Option.getD_some, List.filter_cons_of_pos (by simp [truthy])]
        exact (List.nil_sublist _).cons_cons _
    · cases isText
theorem sublist_texts (items : List PyValue) :
    ((items.filterMap partText).filter (!·.isEmpty)).Sublist (((items.flatMap partTexts).filter truthy).filterMap asText) := by
  rw [List.filterMap_eq_flatMap_toList]
  induction items with
  | nil => exact List.nil_sublist _
  | cons item items ih =>
    rw [List.flatMap_cons, List.flatMap_cons, List.filter_append, List.filter_append, List.filterMap_append]
    exact (sublist_partTexts item).append ih
theorem inOrder_formatted (message : Message) {content : Option Text} (isContent : formattedContent message.content = some content) :
    InOrder message.texts (content.getD []) := by
  obtain ⟨role, given⟩ := message
  cases given with
  | none => exact .nil _
  | some given =>
    cases given with
    | null => exact .nil _
    | text text =>
      cases isContent
      exact inOrder_self text
    | list items =>
      obtain ⟨texts, ran, rfl⟩ := Option.map_eq_some_iff.mp isContent
      have joined := inOrder_intercalate (codes ", ") texts ([·]) id fun text _ => inOrder_self text
      rw [List.map_id, List.flatMap_singleton'] at joined
      refine InOrder.of_nonempty (joined.sublist ?_)
      rw [← filterMap_of_mapM ran]
      exact sublist_texts items
/-- Where no text of its parts needs an escape, a message's texts are written as they are. -/
theorem within_written {message : Message} (plain : ∀ text ∈ message.texts, Plain text) :
    List.Forall₂ (· <:+: ·) message.texts message.written := by
  unfold Message.written
  split
  next items isList =>
    rw [show message.texts = items.filterMap partText by rw [Message.texts, isList]] at plain ⊢
    rw [List.forall₂_map_right_iff, List.forall₂_same]
    exact fun text mem => infix_reprText (plain text mem)
  · rw [List.forall₂_same]
    exact fun text _ => List.infix_refl text

end

/-! ### When a result is returned -/

/-- All that is joined are strings. -/
def Message.Joinable [Display] (message : Message) : Prop :=
  ∀ items, message.content = some (.list items) → ∀ value ∈ items.flatMap partTexts, truthy value → ∃ text, value = .str text

theorem asText_ne_none {value : PyValue} : asText value ≠ none ↔ ∃ text, value = .str text := by
  cases value <;> simp [asText]
theorem ofKey_fixedRole {role : Text} (fixed : role ∈ fixedRoles) (messages : List Message) :
    ofKey fixedRole role messages = messages.filter (·.role = some (some role)) := by
  refine List.filter_congr fun message _ => ?_
  simp [fixedRole, fixed, Option.join_eq_some_iff]
theorem ofKey_otherRole {role : Text} (other : role ∉ fixedRoles) (messages : List Message) : ofKey fixedRole role messages = [] := by
  rw [ofKey, List.filter_eq_nil_iff]
  simp [fixedRole, other]
theorem ofKey_roleOrUnknown (role : Option Text) (messages : List Message) :
    ofKey (fun message : Message => some message.roleOrUnknown) role messages = messages.filter (·.roleOrUnknown = role) :=
  List.filter_congr fun message _ => by simp
theorem spoken_fixed {role : Text} (fixed : role ∈ fixedRoles) (messages : List Message) :
    spoken (some role) messages = (messages.filter (·.role = some (some role))).flatMap (·.texts) := by
  have known : codes "unknown" ≠ role := by
    rintro rfl
    exact absurd fixed (by decide)
  have same : ∀ message : Message, message.roleOrUnknown = some role ↔ message.role = some (some role) := by
    rintro ⟨given, content⟩
    cases given with
    | none => simp [Message.roleOrUnknown, known]
    | some given => simp [Message.roleOrUnknown]
  simp only [spoken, same]

section
variable [Display]

/-- `None` comes only where nothing was said before under the role. -/
def Extractable (messages : List Message) : Prop :=
  ∀ role ∈ fixedRoles, (messages.filter (·.role = some (some role))).Pairwise (NullFirst extractedWrite)
/-- The same, for any roles. -/
def Formattable (messages : List Message) : Prop :=
  ∀ role, (messages.filter (·.roleOrUnknown = role)).Pairwise (NullFirst (formattedContent ·.content))

theorem extracts_iff (messages : List Message) : (extractAndFormatInput (.list (messages.map .message))).isSome ↔ Extractable messages := by
  rw [extracted_run, extracted_adds.isSome_iff noMessages_keys]
  refine forall_congr' fun role => ?_
  rw [noMessages_view, fold_isSome_iff]
  by_cases fixed : role ∈ fixedRoles
  · rw [ofKey_fixedRole fixed]
    simp [extractedWrite, Silent, fixed]
  · rw [ofKey_otherRole fixed]
    simp [fixed]
theorem formattedContent_isSome_iff (message : Message) : (formattedContent message.content).isSome ↔ message.Joinable := by
  obtain ⟨role, content⟩ := message
  cases content with
  | none => simp [formattedContent, Message.Joinable]
  | some content =>
    cases content with
    | null => simp [formattedContent, Message.Joinable]
    | text text => simp [formattedContent, Message.Joinable]
    | list items =>
      rw [formattedContent, Option.isSome_map, Option.isSome_iff_exists, mapM_isSome_iff]
      simp only [asText_ne_none, List.mem_filter, Message.Joinable]
      constructor
      · rintro all _ same value mem isTrue
        cases same
        exact all value ⟨mem, isTrue⟩
      · rintro all value ⟨mem, isTrue⟩
        exact all items rfl value mem isTrue
theorem formats_iff (messages : List Message) :
    (messages.foldlM formatMessage []).isSome ↔ (∀ message ∈ messages, message.Joinable) ∧ Formattable messages := by
  have start : (([] : List (Option Text × Option Text)).map (·.1)).Nodup := List.nodup_nil
  rw [formatted_adds.isSome_iff start]
  have each : ∀ role, ((ofKey (fun message : Message => some message.roleOrUnknown) role messages).foldlM
      (addContent (formattedContent ·.content)) (formattedView [] role)).isSome ↔
      (∀ message ∈ messages, message.roleOrUnknown = role → message.Joinable) ∧
        (messages.filter (·.roleOrUnknown = role)).Pairwise (NullFirst (formattedContent ·.content)) := by
    intro role
    rw [ofKey_roleOrUnknown, fold_isSome_iff]
    simp [formattedContent_isSome_iff, formattedView, Silent]
  rw [forall_congr' each, forall_and]
  exact and_congr_left fun _ => ⟨fun all message mem => all _ message mem rfl, fun all _ message mem _ => all message mem⟩

/-! ### The texts under their roles -/

theorem plain_within {role : Text} (fixed : role ∈ fixedRoles) {messages : List Message}
    (plain : ∀ text ∈ spoken (some role) messages, Plain text) :
    List.Forall₂ (· <:+: ·) (spoken (some role) messages) (extracted role messages) := by
  rw [spoken_fixed fixed] at plain ⊢
  unfold extracted
  generalize messages.filter (·.role = some (some role)) = own at plain ⊢
  induction own with
  | nil => exact .nil
  | cons message rest ih =>
    rw [List.flatMap_cons, List.forall_mem_append] at plain
    exact List.rel_append (within_written plain.1) (ih plain.2)
theorem extracted_texts {messages : List Message} (extractable : Extractable messages) :
    ∃ formatted, extractAndFormatInput (.list (messages.map .message)) = some formatted ∧ formatted.map (·.1) = fixedRoles ∧
      ∀ role ∈ fixedRoles, ∃ entry, formatted.lookup role = some entry ∧ InOrder (extracted role messages) (entry.content.getD []) := by
  obtain ⟨formatted, done⟩ := Option.isSome_iff_exists.mp ((extracts_iff messages).mpr extractable)
  obtain ⟨keys, views⟩ := extracted_adds.run_some noMessages_keys ((extracted_run messages).symm.trans done)
  refine ⟨formatted, done, keys, fun role fixed => ?_⟩
  obtain ⟨entry, there⟩ := Option.isSome_iff_exists.mp (lookup_isSome_iff.mpr (keys ▸ fixed))
  refine ⟨entry, there, ?_⟩
  have run := views role
  have view : extractedView formatted role = entry.content := by rw [extractedView, there]; rfl
  rw [ofKey_fixedRole fixed, noMessages_view, view] at run
  have own : ∀ message ∈ messages.filter (·.role = some (some role)), ∀ content, extractedWrite message = some content →
      InOrder message.written (content.getD []) := by
    intro message _ content isContent
    cases isContent
    exact inOrder_written message
  exact inOrder_fold Message.written own run (.nil [])
theorem formatted_texts {messages : List Message} (joinable : ∀ message ∈ messages, message.Joinable) (formattable : Formattable messages) :
    ∃ parts : List (Option Text × Text), formatAndConcatenate (.list (messages.map .message)) = some (join " " (parts.map writeSection)) ∧
      (parts.map (·.1)).Nodup ∧ ∀ role, (∃ text ∈ spoken role messages, text ≠ []) →
        ∃ content, (role, content) ∈ parts ∧ InOrder (spoken role messages) content := by
  obtain ⟨formatted, done⟩ := Option.isSome_iff_exists.mp ((formats_iff messages).mpr ⟨joinable, formattable⟩)
  have start : (([] : List (Option Text × Option Text)).map (·.1)).Nodup := List.nodup_nil
  obtain ⟨once, views⟩ := formatted_adds.run_some start done
  refine ⟨sections formatted, ?_, sections_once once, ?_⟩
  · cases messages with
    | nil =>
      cases done
      rfl
    | cons message messages =>
      have noTexts : ((message :: messages).map Item.message).mapM itemText = none := by
        rw [List.map_cons, List.mapM_cons]
        rfl
      rw [formatAndConcatenate, noTexts]
      dsimp only
      rw [formatItem_run, done]
      rfl
  · rintro role ⟨text, mem, nonempty⟩
    have run := views role
    rw [ofKey_roleOrUnknown] at run
    have inOrder : InOrder (spoken role messages) ((formattedView formatted role).getD []) :=
      inOrder_fold Message.texts (fun message _ content isContent => inOrder_formatted message isContent) run (.nil [])
    have hasContent : (formattedView formatted role).getD [] ≠ [] := fun empty => nonempty (inOrder.eq_nil empty text mem)
    cases found : formatted.lookup role with
    | none =>
      rw [formattedView, found] at hasContent
      exact absurd rfl hasContent
    | some content =>
      rw [formattedView, found] at inOrder hasContent
      exact ⟨_, mem_sections found hasContent, inOrder⟩
/-- Where each content is a text or a list, both conditions are met. -/
theorem together_of_never {messages : List Message} (never : ∀ message ∈ messages, message.content ≠ some .null) :
    Extractable messages ∧ Formattable messages := by
  have extracted' : ∀ message ∈ messages, extractedWrite message ≠ some none := by
    rintro ⟨role, content⟩ mem
    have notNull := never _ mem
    match content with
    | none | some (.text _) | some (.list _) => simp [extractedWrite, extractedContent]
    | some .null => exact absurd rfl notNull
  have formatted' : ∀ message ∈ messages, formattedContent message.content ≠ some none := by
    rintro ⟨role, content⟩ mem
    have notNull := never _ mem
    match content with
    | none | some (.text _) | some (.list _) => simp [formattedContent]
    | some .null => exact absurd rfl notNull
  exact ⟨fun role _ => nullFirst_of_never fun message mem => extracted' message (List.mem_of_mem_filter mem),
    fun role => nullFirst_of_never fun message mem => formatted' message (List.mem_of_mem_filter mem)⟩

theorem concatenated_texts {messages : List Message} (extractable : Extractable messages) :
    ∃ formatted, extractAndFormatInput (.list (messages.map .message)) = some formatted ∧
      InOrder (fixedRoles.flatMap (extracted · messages)) (concatenateAllContents formatted) := by
  obtain ⟨formatted, done, keys, texts⟩ := extracted_texts extractable
  refine ⟨formatted, done, keys ▸ inOrder_concatenateAll fun entry mem => ?_⟩
  have once : (formatted.map (·.1)).Nodup := by
    rw [keys]
    decide
  obtain ⟨own, there, inOrder⟩ := texts entry.1 (keys ▸ List.mem_map_of_mem mem)
  rw [lookup_of_mem once mem] at there
  cases there
  exact inOrder
/-- Under its role, each text comes in the order of the messages: of the fixed roles in what is extracted, where a list's texts are as
`repr` writes them, and of all roles, as they are, in what is formatted. -/
theorem texts_under_roles (messages : List Message) :
    (Extractable messages → ∃ formatted, extractAndFormatInput (.list (messages.map .message)) = some formatted ∧
      formatted.map (·.1) = fixedRoles ∧ ∀ role ∈ fixedRoles, ∃ entry, formatted.lookup role = some entry ∧
        InOrder (extracted role messages) (entry.content.getD []) ∧
        ((∀ text ∈ spoken (some role) messages, Plain text) → InOrder (spoken (some role) messages) (entry.content.getD []))) ∧
    ((∀ message ∈ messages, message.Joinable) → Formattable messages → ∃ parts : List (Option Text × Text),
      formatAndConcatenate (.list (messages.map .message)) = some (join " " (parts.map writeSection)) ∧ (parts.map (·.1)).Nodup ∧
        ∀ role, (∃ text ∈ spoken role messages, text ≠ []) →
          ∃ content, (role, content) ∈ parts ∧ InOrder (spoken role messages) content) := by
  refine ⟨fun extractable => ?_, formatted_texts⟩
  obtain ⟨formatted, done, keys, texts⟩ := extracted_texts extractable
  refine ⟨formatted, done, keys, fun role fixed => ?_⟩
  obtain ⟨entry, there, inOrder⟩ := texts role fixed
  exact ⟨entry, there, inOrder, fun plain => inOrder.parts (plain_within fixed plain)⟩

end

/-! ### Some messages -/

/-- What the samples have none of is written anyhow. -/
@[reducible] def ascii : Display where
  printable _ := true
  float := id
  other _ := []
  trueFloat _ := true
  trueOther _ := true
def userMessage (content : Content) : Message := { role := some (some (codes "user")), content := some content }
def textPart (text : Text) : PyValue := .dict [(codes "text", .str text)]
def imagePart (url : Text) : PyValue := .dict [(codes "image_url", .dict [(codes "url", .str url)])]
def twoMessages : List Message := [userMessage (.text (codes "Look.")), userMessage (.list [textPart (codes "Here")])]

theorem texts_under_roles_two :
    (∃ formatted, @extractAndFormatInput ascii (.list (twoMessages.map .message)) = some formatted ∧
      ∃ entry, formatted.lookup (codes "user") = some entry ∧ InOrder [codes "Look.", codes "'Here'"] (entry.content.getD [])) ∧
    ∃ parts : List (Option Text × Text),
      @formatAndConcatenate ascii (.list (twoMessages.map .message)) = some (join " " (parts.map writeSection)) := by
  obtain ⟨extractable, formattable⟩ := @together_of_never ascii twoMessages (by simp [twoMessages, userMessage])
  have each : ∀ message ∈ twoMessages, (@formattedContent ascii message.content).isSome := by decide
  have joinable : ∀ message ∈ twoMessages, @Message.Joinable ascii message := fun message mem =>
    (@formattedContent_isSome_iff ascii message).mp (each message mem)
  obtain ⟨extracts, formats⟩ := @texts_under_roles ascii twoMessages
  obtain ⟨formatted, done, -, texts⟩ := extracts extractable
  obtain ⟨entry, there, inOrder, -⟩ := texts (codes "user") (by decide)
  obtain ⟨parts, written, -⟩ := formats joinable formattable
  exact ⟨⟨formatted, done, entry, there, inOrder⟩, parts, written⟩
/-- A role that is not fixed is left out, a text may be written with escapes, and some contents make the functions fail. -/
theorem texts_lost :
    @extractAndFormatInput ascii (.list [.message { role := some (some (codes "function")), content := some (.text (codes "42")) }]) =
      some noMessages ∧
    (@extractAndFormatInput ascii (.list [.message (userMessage (.list [textPart (codes "a\nb")]))])).bind (·.lookup (codes "user")) =
      some { role := codes "user", content := some (codes "\x7b'text': 'a\\nb'\x7d") } ∧
    @extractAndFormatInput ascii (.list [.message (userMessage (.text (codes "Look."))), .message (userMessage .null)]) = none ∧
    @formatAndConcatenate ascii (.list [.message (userMessage (.text (codes "Look."))), .message (userMessage .null)]) = none ∧
    @formatAndConcatenate ascii (.list [.message (userMessage (.list [imagePart (codes "a.png")]))]) = none :=
  ⟨rfl, rfl, rfl, rfl, rfl⟩

end Openlit.FormattedMessages
