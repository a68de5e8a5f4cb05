import Openlit.CrdSchemas
import Openlit.Relations

/-!
Reading what the generated schema admits back into the Go types. The schema does
not say how many bits an integer has, so an object can be stored that no client
of the types reads: exactly one with a number that does not fit
(`spec_readable_iff` for the custom resource of the operator).
-/
namespace Openlit.ResourceSchemas
open Openlit.CrdSchemas Openlit.GoTypes Openlit.Relations Openlit.Values

/-! ### What can be read back -/

mutual
/-- Every number at the place of an integer fits it. -/
def InRange : GoType → Value → Prop
  | .integer bits, .int n => fits bits n = true
  | .ptr elem, value => InRange elem value
  | .slice elem, .list items => ∀ item ∈ items, InRange elem item
  | .map elem, .map entries => ∀ entry ∈ entries, InRange elem entry.2
  | .struct fields, .map entries => InRangeFields fields entries
  | _, _ => True
def InRangeFields : GoFields → Fields → Prop
  | .nil, _ => True
  | .cons name exported tags type rest, entries =>
    (isSkipped exported (jsonTag tags) = false → ∀ value, entries.lookup (jsonName name (jsonTag tags)) = some value →
      InRange type value) ∧ InRangeFields rest entries
end

section
variable [DateTimes] [Patterns] [FloatParsing]

/-- What the schema of a type admits can be read exactly if its numbers fit. -/
def Readable (t : GoType) : Prop :=
  ∀ value, accepts (generateSchemaFromType t) value = true → ((decode t value).isSome = true ↔ InRange t value)

theorem readable_scalar : Readable .time ∧ Readable .string ∧ Readable .boolean ∧ ∀ bits, Readable (.integer bits) := by
  refine ⟨?_, ?_, ?_, ?_⟩
  · intro value accepted
    rw [generateSchemaFromType] at accepted
    cases value with
    | str s =>
      have valid : DateTimes.valid s = true := by simpa [scalar, accepts, hasJsonType, satisfies] using accepted
      simp [decode, valid, InRange]
    | null | bool | int | float | list | map => simp [scalar, accepts, hasJsonType] at accepted
  · intro value accepted
    rw [generateSchemaFromType] at accepted
    cases value with
    | str s => simp [decode, InRange]
    | null | bool | int | float | list | map => simp [scalar, accepts, hasJsonType] at accepted
  · intro value accepted
    rw [generateSchemaFromType] at accepted
    cases value with
    | bool b => simp [decode, InRange]
    | null | str | int | float | list | map => simp [scalar, accepts, hasJsonType] at accepted
  · intro bits value accepted
    rw [generateSchemaFromType] at accepted
    cases value with
    | int n =>
      cases fit : fits bits n <;> simp [decode, InRange, fit]
    | null | str | bool | float | list | map => simp [scalar, accepts, hasJsonType] at accepted
theorem readable_ptr {elem : GoType} (regular : Regular elem = true) (readable : Readable elem) : Readable (.ptr elem) := by
  intro value accepted
  rw [generate_ptr regular] at accepted
  have own := readable value accepted
  cases value with
  | null =>
    cases elem with
    | other | ptr | slice | map => simp [Regular] at regular
    | time | string | boolean | integer | struct =>
      rw [generateSchemaFromType] at accepted
      simp [scalar, accepts, hasJsonType] at accepted
  | bool | int | float | str | list | map =>
    rw [decode, Option.isSome_map, own, InRange]
    all_goals simp
theorem readable_slice {elem : GoType} (readable : Readable elem) : Readable (.slice elem) := by
  intro value accepted
  rw [generateSchemaFromType] at accepted
  cases value with
  | list items =>
    have each : ∀ item ∈ items, accepts (generateSchemaFromType elem) item = true := by
      simpa [accepts, hasJsonType, satisfies, acceptsAll] using accepted
    rw [decode, Option.isSome_map, Option.isSome_iff_exists, mapM_isSome_iff, InRange]
    refine forall₂_congr fun item member => ?_
    rw [Option.ne_none_iff_isSome]
    exact readable item (each item member)
  | null | bool | int | float | str | map => simp [accepts, hasJsonType] at accepted
theorem readable_map {elem : GoType} (readable : Readable elem) : Readable (.map elem) := by
  intro value accepted
  rw [generateSchemaFromType] at accepted
  cases value with
  | map entries =>
    have each : ∀ entry ∈ entries, accepts (generateSchemaFromType elem) entry.2 = true := by
      intro entry member
      simp only [accepts, hasJsonType, satisfies, acceptsProperties, acceptsAll, Properties.names] at accepted
      have all : ∀ (name : String) (value : Value), (name, value) ∈ entries → accepts (generateSchemaFromType elem) value = true := by
        simpa using accepted
      exact all entry.1 entry.2 member
    rw [decode, Option.isSome_map, Option.isSome_iff_exists, mapM_isSome_iff, InRange]
    refine forall₂_congr fun entry member => ?_
    rw [Option.ne_none_iff_isSome, Option.isSome_map]
    exact readable entry.2 (each entry member)
  | null | bool | int | float | str | list => simp [accepts, hasJsonType] at accepted

theorem readable_struct {fields : GoFields}
    (readable : ∀ entries, acceptsProperties (structProperties fields) entries = true →
      ((decodeFields fields entries).isSome = true ↔ InRangeFields fields entries)) : Readable (.struct fields) := by
  intro value accepted
  rw [generateSchemaFromType] at accepted
  cases value with
  | map entries =>
    have own : acceptsProperties (structProperties fields) entries = true := by
      simp only [accepts, Bool.and_eq_true] at accepted
      exact accepted.2.1.2
    rw [decode, Option.isSome_map, InRange]
    exact readable entries own
  | null | bool | int | float | str | list => simp [accepts, hasJsonType] at accepted

mutual
theorem readable_elem : ∀ {t : GoType}, Regular t = true → Readable t
  | .time, _ => readable_scalar.1
  | .string, _ => readable_scalar.2.1
  | .boolean, _ => readable_scalar.2.2.1
  | .integer bits, _ => readable_scalar.2.2.2 bits
  | .struct fields, regular => by
    rw [Regular] at regular
    exact readable_struct fun entries own => readable_fields regular own
theorem readable_field : ∀ {omits : Bool} {t : GoType}, RegularField omits t = true → Readable t
  | _, .time, _ => readable_scalar.1
  | _, .string, _ => readable_scalar.2.1
  | _, .boolean, _ => readable_scalar.2.2.1
  | _, .integer bits, _ => readable_scalar.2.2.2 bits
  | _, .struct fields, regular => by
    rw [RegularField] at regular
    exact readable_struct fun entries own => readable_fields regular own
  | _, .ptr elem, regular => by
    rw [RegularField, Bool.and_eq_true] at regular
    exact readable_ptr regular.2 (readable_elem regular.2)
  | _, .slice elem, regular => by
    rw [RegularField, Bool.and_eq_true] at regular
    exact readable_slice (readable_elem regular.2)
  | _, .map elem, regular => by
    rw [RegularField, Bool.and_eq_true] at regular
    exact readable_map (readable_elem regular.2)
theorem readable_fields : ∀ {fields : GoFields}, RegularFields fields = true → ∀ {entries : Fields},
    acceptsProperties (structProperties fields) entries = true →
      ((decodeFields fields entries).isSome = true ↔ InRangeFields fields entries)
  | .nil, _, entries, _ => by simp [decodeFields, InRangeFields]
  | .cons name exported tags type rest, regular, entries, accepted => by
    cases own : isSkipped exported (jsonTag tags) with
    | true =>
      rw [(skipped_field name type rest own).1] at accepted
      have later := readable_fields (regular_rest regular) accepted
      rw [decodeFields, InRangeFields, own]
      cases values : decodeFields rest entries with
      | none => simpa [values] using later
      | some values' => simpa [values] using later
    | false =>
      have written := written_field regular own
      rw [written.cons (regular_rest regular), acceptsProperties, Bool.and_eq_true] at accepted
      have later := readable_fields (regular_rest regular) accepted.2
      have first := readable_field written.regular
      rw [decodeFields, InRangeFields, own]
      cases found : entries.lookup (jsonName name (jsonTag tags)) with
      | none =>
        cases values : decodeFields rest entries with
        | none => simpa [values] using later
        | some values' => simpa [values] using later
      | some value =>
        have admitted : accepts (generateSchemaFromType type) value = true := by
          simpa [found] using accepted.1
        have here := first value admitted
        cases values : decodeFields rest entries <;> cases v : decode type value <;> simp_all
end

end

/-! ### The custom resource -/

/-- Exported fields with the `json` tags of their names. -/
def tagged : List (String × String × GoType) → GoFields
  | [] => .nil
  | (name, tag, type) :: rest => .cons name true [("json", tag)] type (tagged rest)

def labelSelectorRequirement : GoType :=
  .struct (tagged [("Key", "key", .string), ("Operator", "operator", .string), ("Values", "values,omitempty", .slice .string)])
def podSelector : GoType :=
  .struct (tagged
    [("MatchLabels", "matchLabels,omitempty", .map .string),
      ("MatchExpressions", "matchExpressions,omitempty", .slice labelSelectorRequirement)])
def keySelector : GoType :=
  .struct (tagged [("Name", "name", .string), ("Key", "key", .string), ("Optional", "optional,omitempty", .ptr .boolean)])
def objectFieldSelector : GoType :=
  .struct (tagged [("FieldPath", "fieldPath", .string), ("APIVersion", "apiVersion,omitempty", .string)])
def envVarSource : GoType :=
  .struct (tagged
    [("SecretKeyRef", "secretKeyRef,omitempty", .ptr keySelector), ("ConfigMapKeyRef", "configMapKeyRef,omitempty", .ptr keySelector),
      ("FieldRef", "fieldRef,omitempty", .ptr objectFieldSelector)])
def envVar : GoType :=
  .struct (tagged
    [("Name", "name", .string), ("Value", "value,omitempty", .string), ("ValueFrom", "valueFrom,omitempty", .ptr envVarSource)])
def instrumentationSettings : GoType :=
  .struct (tagged
    [("Enabled", "enabled,omitempty", .ptr .boolean), ("Version", "version,omitempty", .string),
      ("Provider", "provider,omitempty", .string), ("ImagePullPolicy", "imagePullPolicy,omitempty", .string),
      ("CustomPackages", "customPackages,omitempty", .string), ("CustomInitImage", "customInitImage,omitempty", .string),
      ("Env", "env,omitempty", .slice envVar)])
def pythonInstrumentation : GoType :=
  .struct (tagged [("Instrumentation", "instrumentation,omitempty", .ptr instrumentationSettings)])
def goInstrumentation : GoType :=
  .struct (tagged [("Image", "image,omitempty", .string), ("Env", "env,omitempty", .slice envVar)])
def otlpConfig : GoType :=
  .struct (tagged
    [("Endpoint", "endpoint", .string), ("Headers", "headers,omitempty", .string), ("Timeout", "timeout,omitempty", .ptr (.integer 32))])
def resourceConfig : GoType := .struct (tagged [("Environment", "environment,omitempty", .string)])
def autoInstrumentationSpec : GoType :=
  .struct (tagged
    [("Selector", "selector", podSelector), ("Ignore", "ignore,omitempty", .ptr podSelector),
      ("Python", "python,omitempty", .ptr pythonInstrumentation), ("Go", "go,omitempty", .ptr goInstrumentation),
      ("OTLP", "otlp", otlpConfig), ("Resource", "resource,omitempty", .ptr resourceConfig)])
def condition : GoType :=
  .struct (tagged
    [("Type", "type", .string), ("Status", "status", .string), ("ObservedGeneration", "observedGeneration,omitempty", .integer 64),
      ("LastTransitionTime", "lastTransitionTime", .time), ("Reason", "reason", .string), ("Message", "message", .string)])
def instrumentedPod : GoType :=
  .struct (tagged
    [("Name", "name", .string), ("Namespace", "namespace", .string), ("InstrumentedAt", "instrumentedAt", .time),
      ("Provider", "provider", .string)])
def autoInstrumentationStatus : GoType :=
  .struct (tagged
    [("Conditions", "conditions,omitempty", .slice condition), ("InstrumentedPods", "instrumentedPods,omitempty", .slice instrumentedPod),
      ("ValidationErrors", "validationErrors,omitempty", .slice .string), ("LastProcessed", "lastProcessed,omitempty", .ptr .time)])

def generateAutoInstrumentationSchema [FloatParsing] : JSONSchemaProps :=
  .mk "object" ""
    (.cons "spec" (generateSchemaFromType autoInstrumentationSpec)
      (.cons "status" (generateSchemaFromType autoInstrumentationStatus) .nil))
    ["spec"] .none .none
    { description := "AutoInstrumentation defines the configuration for automatic instrumentation of applications" }

theorem spec_regular : Regular autoInstrumentationSpec = true := by decide
theorem status_regular : Regular autoInstrumentationStatus = true := by decide

mutual
def integerFree : GoType → Bool
  | .integer _ => false
  | .ptr elem | .slice elem | .map elem => integerFree elem
  | .struct fields => integerFreeFields fields
  | _ => true
def integerFreeFields : GoFields → Bool
  | .nil => true
  | .cons _ _ _ type rest => integerFree type && integerFreeFields rest
end
mutual
theorem inRange_integerFree : ∀ {t : GoType}, integerFree t = true → ∀ value, InRange t value
  | .time, _, value | .string, _, value | .boolean, _, value | .other, _, value => by cases value <;> simp [InRange]
  | .ptr elem, free, value => by
    rw [InRange]
    exact inRange_integerFree (by rwa [integerFree] at free) value
  | .slice elem, free, value => by
    rw [integerFree] at free
    cases value with
    | list items =>
      rw [InRange]
      exact fun item _ => inRange_integerFree free item
    | null | bool | int | float | str | map => simp [InRange]
  | .map elem, free, value => by
    rw [integerFree] at free
    cases value with
    | map entries =>
      rw [InRange]
      exact fun entry _ => inRange_integerFree free entry.2
    | null | bool | int | float | str | list => simp [InRange]
  | .struct fields, free, value => by
    rw [integerFree] at free
    cases value with
    | map entries =>
      rw [InRange]
      exact inRange_integerFreeFields free entries
    | null | bool | int | float | str | list => simp [InRange]
theorem inRange_integerFreeFields : ∀ {fields : GoFields}, integerFreeFields fields = true → ∀ entries, InRangeFields fields entries
  | .nil, _, _ => by simp [InRangeFields]
  | .cons name exported tags type rest, free, entries => by
    rw [integerFreeFields, Bool.and_eq_true] at free
    rw [InRangeFields]
    exact ⟨fun _ value _ => inRange_integerFree free.1 value, inRange_integerFreeFields free.2 entries⟩
end

theorem inRangeFields_tagged (fields : List (String × String × GoType)) (entries : Fields) :
    InRangeFields (tagged fields) entries ↔
      ∀ field ∈ fields, field.2.1 ≠ "-" → ∀ value, entries.lookup (jsonName field.1 field.2.1) = some value →
        InRange field.2.2 value := by
  induction fields with
  | nil => simp [tagged, InRangeFields]
  | cons field rest ih =>
    have tag : jsonTag [("json", field.2.1)] = field.2.1 := by simp [jsonTag]
    rw [tagged, InRangeFields, ih, List.forall_mem_cons, tag]
    simp [isSkipped]
/-- Only one field of a struct has integers. -/
theorem inRange_tagged {before after : List (String × String × GoType)} {name tag key : String} {type : GoType}
    (free : (before ++ after).all (fun field => integerFree field.2.2) = true) (named : tag ≠ "-") (keyed : jsonName name tag = key)
    (value : Value) :
    InRange (.struct (tagged (before ++ (name, tag, type) :: after))) value ↔
      ∀ inner, (asMap value).bind (·.lookup key) = some inner → InRange type inner := by
  subst keyed
  rw [List.all_eq_true] at free
  cases value with
  | map entries =>
    rw [InRange, inRangeFields_tagged]
    constructor
    · intro each
      exact each (name, tag, type) (by simp) named
    · intro own field member _ inner found
      simp only [List.mem_append, List.mem_cons] at member
      rcases member with first | rfl | last
      · exact inRange_integerFree (free field (List.mem_append_left after first)) inner
      · exact own inner found
      · exact inRange_integerFree (free field (List.mem_append_right before last)) inner
  | null | bool | int | float | str | list => simp [InRange, asMap]

/-- The value at `otlp.timeout` of a specification. -/
def timeout (spec : Value) : Option Value :=
  ((asMap spec).bind (·.lookup "otlp")).bind fun otlp => (asMap otlp).bind (·.lookup "timeout")

/-- The client can read a specification that the API server has accepted exactly
    if its timeout, which the schema does not bound, is a number of 32 bits. -/
theorem spec_readable_iff [DateTimes] [Patterns] [FloatParsing] {spec : Value}
    (accepted : accepts (generateSchemaFromType autoInstrumentationSpec) spec = true) :
    (decode autoInstrumentationSpec spec).isSome = true ↔ ∀ n, timeout spec = some (.int n) → -2 ^ 31 ≤ n ∧ n < 2 ^ 31 := by
  have inSpec (value : Value) : InRange autoInstrumentationSpec value ↔
      ∀ inner, (asMap value).bind (·.lookup "otlp") = some inner → InRange otlpConfig inner :=
    @inRange_tagged [_, _, _, _] [_] "OTLP" "otlp" "otlp" otlpConfig (by decide) (by decide) (by decide) value
  have inOtlp (value : Value) : InRange otlpConfig value ↔
      ∀ inner, (asMap value).bind (·.lookup "timeout") = some inner → InRange (.ptr (.integer 32)) inner :=
    @inRange_tagged [_, _] [] "Timeout" "timeout,omitempty" "timeout" (.ptr (.integer 32)) (by decide) (by decide) (by decide) value
  have inTimeout (value : Value) : InRange (.ptr (.integer 32)) value ↔ ∀ n, value = .int n → -2 ^ 31 ≤ n ∧ n < 2 ^ 31 := by
    cases value <;> simp [InRange, fits]
  rw [readable_elem spec_regular spec accepted, inSpec]
  simp only [inOtlp, inTimeout, timeout, Option.bind_eq_some_iff]
  constructor
  · rintro each n ⟨otlp, found, inner⟩
    exact each otlp found (.int n) inner n rfl
  · rintro each otlp found inner own n rfl
    exact each n ⟨otlp, found, own⟩

/-- A specification with the longest timeout that can be read, and the next one. -/
theorem longest_readable_timeout :
    let _ : DateTimes := ⟨fun _ => true⟩
    let spec (timeout : Int) : Value :=
      .map [("selector", .map []), ("otlp", .map [("endpoint", .str "http://openlit:4318"), ("timeout", .int timeout)])]
    (decode autoInstrumentationSpec (spec 2147483647)).isSome = true ∧
      (decode autoInstrumentationSpec (spec 2147483648)).isSome = false := by
  intro times spec
  let _ : Patterns := ⟨fun _ _ => true⟩
  let _ : FloatParsing := ⟨fun _ => none⟩
  have longest := spec_readable_iff (show accepts (generateSchemaFromType autoInstrumentationSpec) (spec 2147483647) = true by decide)
  have next := spec_readable_iff (show accepts (generateSchemaFromType autoInstrumentationSpec) (spec 2147483648) = true by decide)
  constructor
  · rw [longest]
    rintro n found
    cases found
    decide
  · rw [← Bool.not_eq_true, next]
    intro every
    exact absurd (every 2147483648 rfl) (by decide)

end Openlit.ResourceSchemas
