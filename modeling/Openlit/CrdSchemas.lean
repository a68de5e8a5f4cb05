import Openlit.GoTypes

/-!
The schema of the custom resource, generated from the Go types by reflection
(`internal/crd/schema_generator.go`), and the API server that checks and prunes
the objects it stores by that schema. What a client of these types sends is
accepted and kept (`written_fits`).
-/
namespace Openlit.CrdSchemas
open Openlit.GoTypes Openlit.Text Openlit.Values

/-! ### Schemas -/

/-- `strconv.ParseFloat` -/
class FloatParsing where
  parse : String → Option Rat

/-- The checks of a `JSONSchemaProps` beside its shape. The texts of `enum` and `default` are JSON. -/
structure Checks where
  pattern : String := ""
  enum : List String := []
  minimum : Option Rat := none
  maximum : Option Rat := none
  default : Option String := none
  description : String := ""

mutual
/-- `apiextensionsv1.JSONSchemaProps`, with the properties as a map. -/
inductive JSONSchemaProps
  | mk (type format : String) (properties : Properties) (required : List String)
    (items additionalProperties : Items) (checks : Checks)
inductive Properties
  | nil
  | cons (name : String) (schema : JSONSchemaProps) (rest : Properties)
inductive Items
  | none
  | some (schema : JSONSchemaProps)
end

def JSONSchemaProps.type : JSONSchemaProps → String
  | .mk type _ _ _ _ _ _ => type
def JSONSchemaProps.checks : JSONSchemaProps → Checks
  | .mk _ _ _ _ _ _ checks => checks
def JSONSchemaProps.withChecks (checks : Checks) : JSONSchemaProps → JSONSchemaProps
  | .mk type format properties required items additionalProperties _ =>
    .mk type format properties required items additionalProperties checks
def Properties.names : Properties → List String
  | .nil => []
  | .cons name _ rest => name :: rest.names
/-- A key that is set before others: a later one takes its place. -/
def Properties.set (name : String) (schema : JSONSchemaProps) (later : Properties) : Properties :=
  if name ∈ later.names then later else .cons name schema later

def scalar (type format : String) : JSONSchemaProps := .mk type format .nil [] .none .none {}

/-! ### The generator -/

/-- `strings.Trim(s, cutset)` -/
def trimmed (cutset : List Char) (s : String) : String := stripped (· ∈ cutset) s

def parseFloat [FloatParsing] (s : String) : Option Rat := if s = "" then none else FloatParsing.parse s
/-- `addValidationFromTags` -/
def addValidationFromTags [FloatParsing] (tags : List (String × String)) (schema : JSONSchemaProps) : JSONSchemaProps :=
  let tag (key : String) : String := (tags.lookup key).getD ""
  let checks := schema.checks
  let checks := if tag "kubebuilder:validation:Pattern" ≠ "" then
      { checks with pattern := trimmed ['"', '='] (tag "kubebuilder:validation:Pattern") }
    else checks
  let checks := if tag "kubebuilder:validation:Enum" ≠ "" then
      { checks with
        enum := checks.enum ++
          (split (tag "kubebuilder:validation:Enum") ';').map fun v => "\"" ++ trimSpace v ++ "\"" }
    else checks
  let checks := { checks with
    minimum := (parseFloat (tag "kubebuilder:validation:Minimum")).or checks.minimum
    maximum := (parseFloat (tag "kubebuilder:validation:Maximum")).or checks.maximum }
  let default := tag "kubebuilder:default"
  let checks :=
    if default = "" then checks
    else if schema.type = "string" then { checks with default := some ("\"" ++ default ++ "\"") }
    else if schema.type = "boolean" ∨ schema.type = "integer" then { checks with default := some default }
    else checks
  let checks := if tag "description" ≠ "" then { checks with description := tag "description" } else checks
  schema.withChecks checks

/-- The name of a property: the lower case of the field's name where the tag gives none. -/
def propertyName (name tag : String) : String := if tagName tag = "" then name.toLower else tagName tag
def isIgnored (exported : Bool) (tag : String) : Bool := !exported || tag = "" || tag = "-"
def requiredNames : GoFields → List String
  | .nil => []
  | .cons name exported tags _ rest =>
    if isIgnored exported (jsonTag tags) || contains (jsonTag tags) "omitempty" then requiredNames rest
    else propertyName name (jsonTag tags) :: requiredNames rest

mutual
/-- `generateSchemaFromType` with `generateStructSchema`, `generateSliceSchema`
    and `generateMapSchema`. One pointer is seen through. -/
def generateSchemaFromType [FloatParsing] : GoType → JSONSchemaProps
  | .ptr (.ptr _) => scalar "object" ""
  | .ptr elem => generateSchemaFromType elem
  | .time => scalar "string" "date-time"
  | .struct fields => .mk "object" "" (structProperties fields) (requiredNames fields) .none .none {}
  | .slice elem => .mk "array" "" .nil [] (.some (generateSchemaFromType elem)) .none {}
  | .map elem => .mk "object" "" .nil [] .none (.some (generateSchemaFromType elem)) {}
  | .string => scalar "string" ""
  | .integer _ => scalar "integer" ""
  | .boolean => scalar "boolean" ""
  | .other => scalar "object" ""
def structProperties [FloatParsing] : GoFields → Properties
  | .nil => .nil
  | .cons name exported tags type rest =>
    if isIgnored exported (jsonTag tags) then structProperties rest
    else
      (structProperties rest).set (propertyName name (jsonTag tags)) (addValidationFromTags tags (generateSchemaFromType type))
end

/-! ### The API server -/

/-- The regular expressions of patterns. -/
class Patterns where
  isMatch : String → String → Bool

section
variable [DateTimes] [Patterns]

def hasJsonType (type : String) : Value → Bool
  | .null => false
  | .bool _ => type = "boolean"
  | .int _ => type = "integer" || type = "number"
  | .float _ => type = "number"
  | .str _ => type = "string"
  | .list _ => type = "array"
  | .map _ => type = "object"
def satisfies (format : String) (checks : Checks) : Value → Bool
  | .str s =>
    (format ≠ "date-time" || DateTimes.valid s) && (checks.pattern = "" || Patterns.isMatch checks.pattern s) &&
      (checks.enum = [] || "\"" ++ s ++ "\"" ∈ checks.enum)
  | .int n => checks.minimum.all (· ≤ (n : Rat)) && checks.maximum.all ((n : Rat) ≤ ·)
  | _ => true

mutual
/-- The check of an object without defaults, in which nothing is nullable. -/
def accepts : JSONSchemaProps → Value → Bool
  | .mk type format properties required items additionalProperties checks, value =>
    hasJsonType type value && satisfies format checks value &&
      match value with
      | .map entries =>
        required.all (fun name => (entries.lookup name).isSome) && acceptsProperties properties entries &&
          acceptsAll additionalProperties ((entries.filter (·.1 ∉ properties.names)).map (·.2))
      | .list values => acceptsAll items values
      | _ => true
def acceptsProperties : Properties → Fields → Bool
  | .nil, _ => true
  | .cons name schema rest, entries =>
    (match entries.lookup name with
      | none => true
      | some value => accepts schema value) &&
      acceptsProperties rest entries
def acceptsAll : Items → List Value → Bool
  | .none, _ => true
  | .some schema, values => values.all (accepts schema)
end

end

mutual
/-- Pruning: an object keeps its properties, and its other keys where the schema has one for them. -/
def prune : JSONSchemaProps → Value → Value
  | .mk _ _ properties _ items additionalProperties _, value =>
    match value with
    | .map entries =>
      .map (entries.filterMap fun entry =>
        ((pruneProperty properties entry).or (pruneItem additionalProperties entry.2)).map (entry.1, ·))
    | .list values => .list (values.map fun value => (pruneItem items value).getD value)
    | other => other
def pruneProperty : Properties → String × Value → Option Value
  | .nil, _ => none
  | .cons name schema rest, entry => if name = entry.1 then some (prune schema entry.2) else pruneProperty rest entry
def pruneItem : Items → Value → Option Value
  | .none, _ => none
  | .some schema, value => some (prune schema value)
end

/-! ### The types that the schema is right for -/

/-- The keys of a tag that the generator takes checks from. -/
def checkTags : List String :=
  ["kubebuilder:validation:Pattern", "kubebuilder:validation:Enum", "kubebuilder:validation:Minimum",
    "kubebuilder:validation:Maximum", "kubebuilder:default", "description"]
def fieldNames : GoFields → List String
  | .nil => []
  | .cons name exported tags _ rest =>
    if isSkipped exported (jsonTag tags) then fieldNames rest else jsonName name (jsonTag tags) :: fieldNames rest
/-- A tag that names its field, has `omitempty` as an option or not at all, and no checks beside it. -/
def NamedTag (tags : List (String × String)) : Bool :=
  tagName (jsonTag tags) ≠ "" && (contains (jsonTag tags) "omitempty" = omitsEmpty (jsonTag tags)) &&
    checkTags.all fun key => (tags.lookup key).isNone

mutual
/-- No value of the type is written as `null`, and so down through its fields. -/
def Regular : GoType → Bool
  | .time | .string | .boolean | .integer _ => true
  | .other | .ptr _ | .slice _ | .map _ => false
  | .struct fields => RegularFields fields
/-- What can be `nil` is left out where it is. -/
def RegularField (omits : Bool) : GoType → Bool
  | .time | .string | .boolean | .integer _ => true
  | .other => false
  | .ptr elem | .slice elem | .map elem => omits && Regular elem
  | .struct fields => RegularFields fields
def RegularFields : GoFields → Bool
  | .nil => true
  | .cons name exported tags type rest =>
    (isSkipped exported (jsonTag tags) ||
      (NamedTag tags && jsonName name (jsonTag tags) ∉ fieldNames rest && RegularField (omitsEmpty (jsonTag tags)) type)) &&
      RegularFields rest
end

theorem withChecks_own (schema : JSONSchemaProps) : schema.withChecks schema.checks = schema := by
  cases schema
  rfl
theorem addValidationFromTags_plain [FloatParsing] {tags : List (String × String)}
    (plain : checkTags.all (fun key => (tags.lookup key).isNone) = true) (schema : JSONSchemaProps) :
    addValidationFromTags tags schema = schema := by
  simp only [checkTags, List.all_cons, List.all_nil, Option.isNone_iff_eq_none, Bool.and_eq_true, and_true] at plain
  obtain ⟨pattern, enum, minimum, maximum, default, description⟩ := plain
  simp only [addValidationFromTags, pattern, enum, minimum, maximum, default, description, Option.getD_none, ne_eq,
    not_true_eq_false, if_false, if_true, parseFloat, Option.none_or]
  exact withChecks_own schema
theorem generate_ptr [FloatParsing] {elem : GoType} (regular : Regular elem = true) :
    generateSchemaFromType (.ptr elem) = generateSchemaFromType elem := by
  cases elem with
  | ptr => simp [Regular] at regular
  | time | string | boolean | integer | other | slice | map | struct => rw [generateSchemaFromType]; simp

section
variable [FloatParsing]

/-- A field that is passed over by the types and by their schema. -/
theorem skipped_field (name : String) {exported : Bool} {tags : List (String × String)} (type : GoType) (rest : GoFields)
    (skipped : isSkipped exported (jsonTag tags) = true) :
    structProperties (.cons name exported tags type rest) = structProperties rest ∧
      requiredNames (.cons name exported tags type rest) = requiredNames rest ∧
      fieldNames (.cons name exported tags type rest) = fieldNames rest := by
  have ignored : isIgnored exported (jsonTag tags) = true := by
    simp only [isSkipped, Bool.or_eq_true] at skipped
    simp only [isIgnored, Bool.or_eq_true]
    rcases skipped with unexported | dash
    · exact .inl (.inl unexported)
    · exact .inr dash
  refine ⟨?_, ?_, ?_⟩
  · rw [structProperties, if_pos ignored]
  · rw [requiredNames, ignored, Bool.true_or, if_pos rfl]
  · rw [fieldNames, if_pos skipped]
/-- A field that is written, in the types and in their schema. -/
structure Written (name : String) (exported : Bool) (tags : List (String × String)) (type : GoType) (rest : GoFields) : Prop where
  fresh : jsonName name (jsonTag tags) ∉ fieldNames rest
  regular : RegularField (omitsEmpty (jsonTag tags)) type = true
  properties : structProperties (.cons name exported tags type rest) =
    (structProperties rest).set (jsonName name (jsonTag tags)) (generateSchemaFromType type)
  required : requiredNames (.cons name exported tags type rest) =
    if omitsEmpty (jsonTag tags) then requiredNames rest else jsonName name (jsonTag tags) :: requiredNames rest
  names : fieldNames (.cons name exported tags type rest) = jsonName name (jsonTag tags) :: fieldNames rest
theorem written_field {name : String} {exported : Bool} {tags : List (String × String)} {type : GoType} {rest : GoFields}
    (regular : RegularFields (.cons name exported tags type rest) = true) (own : isSkipped exported (jsonTag tags) = false) :
    Written name exported tags type rest := by
  rw [RegularFields, own, Bool.false_or, Bool.and_eq_true, Bool.and_eq_true, Bool.and_eq_true] at regular
  obtain ⟨⟨⟨named, fresh⟩, field⟩, -⟩ := regular
  rw [NamedTag, Bool.and_eq_true, Bool.and_eq_true] at named
  obtain ⟨⟨given, option⟩, plain⟩ := named
  have given : tagName (jsonTag tags) ≠ "" := of_decide_eq_true given
  have option : contains (jsonTag tags) "omitempty" = omitsEmpty (jsonTag tags) := of_decide_eq_true option
  have some' : jsonTag tags ≠ "" := by
    intro empty
    rw [empty] at given
    exact given rfl
  have same : propertyName name (jsonTag tags) = jsonName name (jsonTag tags) := by
    rw [propertyName, jsonName, if_neg given, if_neg given]
  have ignored : isIgnored exported (jsonTag tags) = false := by
    simp only [isSkipped, Bool.or_eq_false_iff] at own
    simp only [isIgnored, Bool.or_eq_false_iff, decide_eq_false_iff_not]
    exact ⟨⟨own.1, some'⟩, by simpa using own.2⟩
  exact
    { fresh := of_decide_eq_true fresh
      regular := field
      properties := by
        rw [structProperties, if_neg (by simp [ignored]), same, addValidationFromTags_plain plain]
      required := by rw [requiredNames, ignored, Bool.false_or, option, same]
      names := by rw [fieldNames, if_neg (by simp [own])] }
omit [FloatParsing] in
theorem regular_rest {name : String} {exported : Bool} {tags : List (String × String)} {type : GoType} {rest : GoFields}
    (regular : RegularFields (.cons name exported tags type rest) = true) : RegularFields rest = true := by
  rw [RegularFields, Bool.and_eq_true] at regular
  exact regular.2

theorem names_structProperties : ∀ {fields : GoFields}, RegularFields fields = true →
    (structProperties fields).names = fieldNames fields
  | .nil, _ => rfl
  | .cons name exported tags type rest, regular => by
    have ih := names_structProperties (regular_rest regular)
    cases own : isSkipped exported (jsonTag tags) with
    | true =>
      obtain ⟨properties, -, names⟩ := skipped_field name type rest own
      rw [properties, names, ih]
    | false =>
      have written := written_field regular own
      rw [written.properties, written.names, Properties.set, ih, if_neg written.fresh, Properties.names, ih]
/-- The properties of a field that is written come before those of the rest. -/
theorem Written.cons {name : String} {exported : Bool} {tags : List (String × String)} {type : GoType} {rest : GoFields}
    (written : Written name exported tags type rest) (regular : RegularFields rest = true) :
    structProperties (.cons name exported tags type rest) =
      .cons (jsonName name (jsonTag tags)) (generateSchemaFromType type) (structProperties rest) := by
  rw [written.properties, Properties.set, names_structProperties regular, if_neg written.fresh]

end

/-! ### What is written -/

theorem encodeFields_names : ∀ {fields : GoFields} {values : List GoValue}, ∀ entry ∈ encodeFields fields values,
    entry.1 ∈ fieldNames fields
  | .nil, _, entry, member => by simp [encodeFields] at member
  | .cons .., [], entry, member => by simp [encodeFields] at member
  | .cons name exported tags type rest, v :: values, entry, member => by
    rw [encodeFields] at member
    rw [fieldNames]
    cases skipped : isSkipped exported (jsonTag tags) with
    | true =>
      rw [skipped, Bool.true_or, if_pos rfl] at member
      exact encodeFields_names entry member
    | false =>
      rw [if_neg (by simp)]
      rw [skipped, Bool.false_or] at member
      split at member
      · exact List.mem_cons_of_mem _ (encodeFields_names entry member)
      · rcases List.mem_cons.mp member with rfl | later
        · exact List.mem_cons_self
        · exact List.mem_cons_of_mem _ (encodeFields_names entry later)

section
variable [DateTimes] [Patterns]

/-- An entry that no property is about. -/
theorem acceptsProperties_cons : ∀ {properties : Properties} {entry : String × Value} {entries : Fields},
    entry.1 ∉ properties.names → acceptsProperties properties (entry :: entries) = acceptsProperties properties entries
  | .nil, _, _, _ => rfl
  | .cons name schema rest, entry, entries, other => by
    rw [Properties.names, List.mem_cons, not_or] at other
    have differs : (name == entry.1) = false := beq_false_of_ne fun same => other.1 same.symm
    rw [acceptsProperties, acceptsProperties, List.lookup_cons, differs, acceptsProperties_cons other.2]

variable [FloatParsing]

/-- What is written is accepted by the schema, and nothing of it is pruned. -/
structure Fitting (schema : JSONSchemaProps) (value : Value) : Prop where
  accepted : accepts schema value = true
  kept : prune schema value = value
structure FittingFields (fields : GoFields) (values : List GoValue) : Prop where
  accepted : acceptsProperties (structProperties fields) (encodeFields fields values) = true
  required : ∀ name ∈ requiredNames fields, ((encodeFields fields values).lookup name).isSome = true
  kept : ∀ entry ∈ encodeFields fields values, pruneProperty (structProperties fields) entry = some entry.2

/-- A field that is left out, and one that is written. -/
theorem FittingFields.skip {name : String} {exported : Bool} {tags : List (String × String)} {type : GoType} {rest : GoFields}
    {v : GoValue} {values : List GoValue} (fitting : FittingFields rest values)
    (skipped : isSkipped exported (jsonTag tags) = true) : FittingFields (.cons name exported tags type rest) (v :: values) := by
  obtain ⟨properties, required, -⟩ := skipped_field name type rest skipped
  have entries : encodeFields (.cons name exported tags type rest) (v :: values) = encodeFields rest values := by
    rw [encodeFields, skipped, Bool.true_or, if_pos rfl]
  exact
    { accepted := by rw [properties, entries]; exact fitting.accepted
      required := by rw [required, entries]; exact fitting.required
      kept := by rw [properties, entries]; exact fitting.kept }
theorem FittingFields.write {name : String} {exported : Bool} {tags : List (String × String)} {type : GoType} {rest : GoFields}
    {v : GoValue} {values : List GoValue} (fitting : FittingFields rest values)
    (regular : RegularFields (.cons name exported tags type rest) = true) (own : isSkipped exported (jsonTag tags) = false)
    (first : (omitsEmpty (jsonTag tags) && isEmpty v) = false → Fitting (generateSchemaFromType type) (encode type v)) :
    FittingFields (.cons name exported tags type rest) (v :: values) := by
  have written := written_field regular own
  have properties := written.cons (regular_rest regular)
  have names := names_structProperties (regular_rest regular)
  have later : ∀ entry ∈ encodeFields rest values, jsonName name (jsonTag tags) ≠ entry.1 := by
    rintro entry member same
    exact written.fresh (same ▸ encodeFields_names entry member)
  have keptLater : ∀ entry ∈ encodeFields rest values,
      pruneProperty (structProperties (.cons name exported tags type rest)) entry = some entry.2 := by
    intro entry member
    rw [properties, pruneProperty, if_neg (later entry member)]
    exact fitting.kept entry member
  cases omitted : omitsEmpty (jsonTag tags) && isEmpty v with
  | true =>
    have entries : encodeFields (.cons name exported tags type rest) (v :: values) = encodeFields rest values := by
      rw [encodeFields, own, Bool.false_or, if_pos omitted]
    have absent : (encodeFields rest values).lookup (jsonName name (jsonTag tags)) = none := by
      rw [List.lookup_eq_none_iff]
      exact fun entry member => by simpa using later entry member
    have omits : omitsEmpty (jsonTag tags) = true := (Bool.and_eq_true_iff.mp omitted).1
    exact
      { accepted := by
          rw [entries, properties, acceptsProperties, absent]
          exact fitting.accepted
        required := by
          rw [entries, written.required, if_pos omits]
          exact fitting.required
        kept := by
          rw [entries]
          exact keptLater }
  | false =>
    have entries : encodeFields (.cons name exported tags type rest) (v :: values) =
        (jsonName name (jsonTag tags), encode type v) :: encodeFields rest values := by
      rw [encodeFields, own, Bool.false_or, omitted, if_neg (by simp)]
    have fits := first omitted
    have required : ∀ key ∈ requiredNames rest,
        (((jsonName name (jsonTag tags), encode type v) :: encodeFields rest values).lookup key).isSome = true := by
      intro key member
      rw [List.lookup_cons]
      split
      · rfl
      · exact fitting.required key member
    exact
      { accepted := by
          rw [entries, properties, acceptsProperties, List.lookup_cons_self, acceptsProperties_cons (names ▸ written.fresh)]
          exact Bool.and_eq_true_iff.mpr ⟨fits.accepted, fitting.accepted⟩
        required := by
          rw [entries, written.required]
          intro key member
          split at member
          · exact required key member
          · rcases List.mem_cons.mp member with rfl | later
            · rw [List.lookup_cons_self]
              rfl
            · exact required key later
        kept := by
          rw [entries]
          intro entry member
          rcases List.mem_cons.mp member with rfl | later
          · rw [properties, pruneProperty, if_pos rfl, fits.kept]
          · exact keptLater entry later }

theorem fitting_list {elem : GoType} {items : List GoValue}
    (each : ∀ v ∈ items, Fitting (generateSchemaFromType elem) (encode elem v)) :
    Fitting (generateSchemaFromType (.slice elem)) (encode (.slice elem) (.list items)) := by
  rw [generateSchemaFromType, encode]
  constructor
  · simpa [accepts, hasJsonType, satisfies, acceptsAll] using fun v member => (each v member).accepted
  · rw [prune]
    simp only [pruneItem, Option.getD_some, List.map_map, Value.list.injEq]
    exact List.map_congr_left fun v member => (each v member).kept
theorem fitting_map {elem : GoType} {entries : List (String × GoValue)}
    (each : ∀ entry ∈ entries, Fitting (generateSchemaFromType elem) (encode elem entry.2)) :
    Fitting (generateSchemaFromType (.map elem)) (encode (.map elem) (.map entries)) := by
  rw [generateSchemaFromType, encode]
  constructor
  · simp only [accepts, hasJsonType, satisfies, acceptsProperties, acceptsAll, Properties.names]
    simpa using fun name v member => (each (name, v) member).accepted
  · rw [prune]
    simp only [pruneProperty, pruneItem, Option.none_or, Option.map_some, Value.map.injEq, List.filterMap_eq_map', List.map_map]
    refine List.map_congr_left fun entry member => ?_
    exact congrArg (Prod.mk entry.1) (each entry member).kept
theorem fitting_struct {fields : GoFields} {values : List GoValue} (fitting : FittingFields fields values) :
    Fitting (generateSchemaFromType (.struct fields)) (encode (.struct fields) (.struct values)) := by
  rw [generateSchemaFromType, encode]
  constructor
  · have required : (requiredNames fields).all (fun name => ((encodeFields fields values).lookup name).isSome) = true :=
      List.all_eq_true.mpr fitting.required
    simp [accepts, hasJsonType, satisfies, acceptsAll, fitting.accepted, required]
  · rw [prune]
    simp only [pruneItem, Option.or_none, Value.map.injEq]
    have own : (encodeFields fields values).filterMap (fun entry =>
        (pruneProperty (structProperties fields) entry).map (entry.1, ·)) = (encodeFields fields values).filterMap some := by
      refine List.filterMap_congr fun entry member => ?_
      rw [fitting.kept entry member]
      rfl
    rw [own, List.filterMap_some]

mutual
theorem fitting_elem : ∀ {t : GoType}, Regular t = true → ∀ {v : GoValue}, HasType t v →
    Fitting (generateSchemaFromType t) (encode t v)
  | .time, _, .time (some text), typed => by
    rw [generateSchemaFromType, encode]
    have valid : DateTimes.valid text = true := by simpa [HasType] using typed
    exact ⟨by simp [scalar, accepts, hasJsonType, satisfies, valid], by simp [scalar, prune]⟩
  | .string, _, .str s, _ => by
    rw [generateSchemaFromType, encode]
    exact ⟨by simp [scalar, accepts, hasJsonType, satisfies], by simp [scalar, prune]⟩
  | .boolean, _, .bool b, _ => by
    rw [generateSchemaFromType, encode]
    exact ⟨by simp [scalar, accepts, hasJsonType, satisfies], by simp [scalar, prune]⟩
  | .integer bits, _, .int n, _ => by
    rw [generateSchemaFromType, encode]
    exact ⟨by simp [scalar, accepts, hasJsonType, satisfies], by simp [scalar, prune]⟩
  | .struct fields, regular, .struct values, typed => by
    rw [Regular] at regular
    rw [HasType] at typed
    exact fitting_struct (fitting_fields regular typed)
theorem fitting_field : ∀ {omits : Bool} {t : GoType}, RegularField omits t = true → ∀ {v : GoValue}, HasType t v →
    (omits && isEmpty v) = false → Fitting (generateSchemaFromType t) (encode t v)
  | _, .time, _, .time (some text), typed, _ => fitting_elem rfl typed
  | _, .string, _, .str s, typed, _ => fitting_elem rfl typed
  | _, .boolean, _, .bool b, typed, _ => fitting_elem rfl typed
  | _, .integer bits, _, .int n, typed, _ => fitting_elem rfl typed
  | _, .struct fields, regular, .struct values, typed, _ => by
    rw [RegularField] at regular
    rw [HasType] at typed
    exact fitting_struct (fitting_fields regular typed)
  | omits, .ptr elem, regular, v, typed, given => by
    rw [RegularField, Bool.and_eq_true] at regular
    obtain ⟨rfl, regular⟩ := regular
    cases v with
    | nil => simp [isEmpty] at given
    | ptr v =>
      rw [HasType] at typed
      rw [generate_ptr regular, encode]
      exact fitting_elem regular typed
    | time | str | bool | int | list | map | struct => simp [HasType] at typed
  | omits, .slice elem, regular, v, typed, given => by
    rw [RegularField, Bool.and_eq_true] at regular
    obtain ⟨rfl, regular⟩ := regular
    cases v with
    | nil => simp [isEmpty] at given
    | list items =>
      rw [HasType] at typed
      exact fitting_list fun v member => fitting_elem regular (typed v member)
    | time | str | bool | int | ptr | map | struct => simp [HasType] at typed
  | omits, .map elem, regular, v, typed, given => by
    rw [RegularField, Bool.and_eq_true] at regular
    obtain ⟨rfl, regular⟩ := regular
    cases v with
    | nil => simp [isEmpty] at given
    | map entries =>
      rw [HasType] at typed
      exact fitting_map fun entry member => fitting_elem regular (typed entry member)
    | time | str | bool | int | ptr | list | struct => simp [HasType] at typed
theorem fitting_fields : ∀ {fields : GoFields}, RegularFields fields = true → ∀ {values : List GoValue}, HasFields fields values →
    FittingFields fields values
  | .nil, _, [], _ => { accepted := rfl, required := (by intro _ member; cases member), kept := (by intro _ member; cases member) }
  | .cons name exported tags type rest, regular, v :: values, typed => by
    rw [HasFields] at typed
    have later := fitting_fields (regular_rest regular) typed.2
    cases own : isSkipped exported (jsonTag tags) with
    | true => exact later.skip own
    | false => exact later.write regular own (fitting_field (written_field regular own).regular typed.1)
end

end

section
variable [DateTimes] [Patterns] [FloatParsing]

end

end Openlit.CrdSchemas
