import Mathlib.Logic.Function.Basic
import Openlit.Lookups
import Openlit.PythonRepr
import Openlit.Text

/-!
The way of a setting from the command line of `openlit-instrument` to
`openlit.init`. The command writes its options into environment variables that are
not set yet (`cli/main.py`), the interpreter that it starts reads them back
(`cli/config.py`) and passes what it has read to `init`
(`cli/bootstrap/sitecustomize.py`), and `init` reads the variables once more for
what it is not given (`__init__.py`). What `argparse` returns is taken as it is.
-/
namespace Openlit.InstrumentCli
open Openlit.PythonJson Openlit.PythonRepr Openlit.Text

/-! ### Parameters -/

inductive CliType where
  | str
  | bool
  | int
  deriving DecidableEq, Repr
inductive Parser where
  | json
  | csv
  deriving DecidableEq, Repr
structure Parameter where
  default : PyValue
  envVar : Option String := none
  cliType : CliType := .str
  parser : Option Parser := none
  internal : Bool := false

def text (s : String) : PyValue := .str (codes s)

def parameterConfig : List (String × Parameter) :=
  [("environment", { default := text "default", envVar := "OTEL_DEPLOYMENT_ENVIRONMENT" }),
    ("application_name", { default := text "default", envVar := "OTEL_SERVICE_NAME" }),
    -- The same variable as that of `application_name`.
    ("service_name", { default := text "default", envVar := "OTEL_SERVICE_NAME" }),
    ("otlp_endpoint", { default := .none, envVar := "OTEL_EXPORTER_OTLP_ENDPOINT" }),
    ("otlp_headers", { default := .none, envVar := "OTEL_EXPORTER_OTLP_HEADERS", parser := some .json }),
    ("disable_batch", { default := .bool false, envVar := "OPENLIT_DISABLE_BATCH", cliType := .bool }),
    ("capture_message_content",
      { default := .bool true, envVar := "OTEL_INSTRUMENTATION_GENAI_CAPTURE_MESSAGE_CONTENT", cliType := .bool }),
    ("disabled_instrumentors", { default := .none, envVar := "OPENLIT_DISABLED_INSTRUMENTORS", parser := some .csv }),
    ("disable_metrics", { default := .bool false, envVar := "OPENLIT_DISABLE_METRICS", cliType := .bool }),
    ("pricing_json", { default := .none, envVar := "OPENLIT_PRICING_JSON" }),
    ("collect_gpu_stats", { default := .bool false, envVar := "OPENLIT_COLLECT_GPU_STATS", cliType := .bool }),
    ("detailed_tracing", { default := .bool true, envVar := "OPENLIT_DETAILED_TRACING", cliType := .bool }),
    ("collect_system_metrics", { default := .bool false, envVar := "OPENLIT_COLLECT_SYSTEM_METRICS", cliType := .bool }),
    ("capture_parameters", { default := .bool false, envVar := "OPENLIT_CAPTURE_PARAMETERS", cliType := .bool }),
    ("enable_sqlcommenter", { default := .bool false, envVar := "OPENLIT_ENABLE_SQLCOMMENTER", cliType := .bool }),
    ("evals_logs_export", { default := .bool true, envVar := "OPENLIT_EVALS_LOGS_EXPORT", cliType := .bool }),
    ("max_content_length", { default := .none, envVar := "OPENLIT_MAX_CONTENT_LENGTH", cliType := .int }),
    ("tracer", { default := .none, internal := true }),
    ("event_logger", { default := .none, internal := true }),
    ("meter", { default := .none, internal := true })]
def getCliParameters : List (String × Parameter) := parameterConfig.filter fun p => !p.2.internal

/-! ### The command -/

abbrev Environ := String → Option String

/-- What `parse_args` returns: a flag for each parameter of type `bool`, and a text or `None` for each other. -/
structure Args where
  flag : String → Bool := fun _ => false
  value : String → Option String := fun _ => none

def isTrue : PyValue → Bool
  | .bool true => true
  | _ => false
/-- The text that a variable is set to. A flag that is not given is left out where the default is `True`. -/
def given (args : Args) (p : String × Parameter) : Option String :=
  match p.2.cliType with
  | .bool => if !args.flag p.1 && isTrue p.2.default then none else some (if args.flag p.1 then "true" else "false")
  | .str | .int => args.value p.1
def setFromArg (args : Args) (environ : Environ) (p : String × Parameter) : Environ :=
  match p.2.envVar with
  | none => environ
  | some envVar =>
    if (environ envVar).isSome then environ
    else
      match given args p with
      | none => environ
      | some value => Function.update environ envVar (some value)
def setEnvironmentFromCliArgs (args : Args) (environ : Environ) : Environ := getCliParameters.foldl (setFromArg args) environ

/-! ### The environment -/

/-- `str.lower`, by the tables of Unicode. ASCII is lowered letter by letter. -/
class Lowering where
  lower : String → String
  lower_ascii : ∀ s, (∀ c ∈ s.toList, c.toNat < 128) → lower s = String.ofList (s.toList.map Char.toLower)
/-- The white space of `str.strip`. -/
def isPyBlank (c : Char) : Bool := isSpace c || (0x1c ≤ c.toNat && c.toNat ≤ 0x1f)
def strip (s : String) : String := stripped isPyBlank s

section
variable [Lowering] [Interpreter]
open Lowering

/-- A text that is no JSON is none; other errors of the reading are not caught. -/
def parseValue (p : Parameter) (value : String) : Except JsonRaised PyValue :=
  match p.cliType, p.parser with
  | .bool, _ => .ok (.bool (lower value ∈ ["true", "1", "yes"]))
  | _, some .json =>
    match loads (codes value) with
    | .ok read => .ok read
    | .error .jsonDecodeError => .ok .none
    | .error raised => .error raised
  | _, some .csv => .ok (.list (((split value ',').map strip).filter (· ≠ "") |>.map text))
  | _, none => .ok (text value)
def parseEnvValue (paramName envValue : String) : Except JsonRaised PyValue :=
  parseValue ((parameterConfig.lookup paramName).getD { default := .none }) envValue

def isNone : PyValue → Bool
  | .none => true
  | _ => false
/-- The entry of a parameter, if its variable is set to something that can be read. -/
def entryFromEnvironment (environ : Environ) (p : String × Parameter) : Except JsonRaised (Option (String × PyValue)) :=
  if p.2.internal then .ok none
  else
    match present (p.2.envVar.bind environ) with
    | none => .ok none
    | some envValue => (parseEnvValue p.1 envValue).map fun parsed => if isNone parsed then none else some (p.1, parsed)
def buildConfigFromEnvironment (environ : Environ) : Except JsonRaised (List (String × PyValue)) :=
  (parameterConfig.mapM (entryFromEnvironment environ)).map List.reduceOption

/-! ### The initialisation -/

/-- The values that `init` sets everything up with. -/
structure Settings where
  environment : PyValue
  serviceName : PyValue
  otlpEndpoint : PyValue
  otlpHeaders : PyValue
  disableBatch : PyValue
  captureMessageContent : PyValue
  disabledInstrumentors : PyValue
  disableMetrics : PyValue
  pricingJson : PyValue
  collectGpuStats : PyValue
  detailedTracing : PyValue
  collectSystemMetrics : PyValue
  captureParameters : PyValue
  enableSqlcommenter : PyValue
  evalsLogsExport : PyValue
  maxContentLength : PyValue

/-- The defaults of the parameters of `init`. -/
def initDefaults : List (String × PyValue) :=
  [("environment", text "default"), ("application_name", text "default"), ("service_name", text "default"), ("tracer", .none),
    ("event_logger", .none), ("otlp_endpoint", .none), ("otlp_headers", .none), ("disable_batch", .bool false),
    ("capture_message_content", .bool true), ("disabled_instrumentors", .none), ("meter", .none), ("disable_metrics", .bool false),
    ("pricing_json", .none), ("collect_gpu_stats", .bool false), ("detailed_tracing", .bool true),
    ("collect_system_metrics", .bool false), ("capture_parameters", .bool false), ("enable_sqlcommenter", .bool false),
    ("evals_logs_export", .bool true), ("max_content_length", .none)]
def argument (arguments : List (String × PyValue)) (name : String) : PyValue :=
  (arguments.lookup name).getD ((initDefaults.lookup name).getD .none)

def isFalse : PyValue → Bool
  | .bool false => true
  | _ => false
/-- `== "default"`. -/
def isDefault : PyValue → Bool
  | .str t => t = codes "default"
  | _ => false
/-- An argument that has its default is replaced by what the environment has. -/
def orFromEnvironment (unset : PyValue → Bool) (envConfig : List (String × PyValue)) (name : String) (value : PyValue) : PyValue :=
  if unset value then (envConfig.lookup name).getD value else value

variable [Display]

/-- The service name: that of the arguments, where `service_name` comes first, or that of the environment. -/
def finalServiceName (arguments envConfig : List (String × PyValue)) : PyValue :=
  let explicit :=
    if !isDefault (argument arguments "service_name") then argument arguments "service_name"
    else if !isDefault (argument arguments "application_name") then argument arguments "application_name"
    else text "default"
  if isDefault explicit then (envConfig.lookup "service_name").getD ((envConfig.lookup "application_name").getD (text "default"))
  else explicit
/-- `init` as far as `OpenlitConfig` and the setup of tracing, events and metrics. -/
def init (arguments : List (String × PyValue)) (environ : Environ) : Except JsonRaised Settings :=
  (buildConfigFromEnvironment environ).map fun envConfig =>
    let setting (unset : PyValue → Bool) (name : String) := orFromEnvironment unset envConfig name (argument arguments name)
    let disabledInstrumentors :=
      if truthy (argument arguments "disabled_instrumentors") then argument arguments "disabled_instrumentors" else .list []
    { environment := setting isDefault "environment"
      serviceName := finalServiceName arguments envConfig
      -- What the environment says of these two is left to the exporters.
      otlpEndpoint := argument arguments "otlp_endpoint"
      otlpHeaders := argument arguments "otlp_headers"
      disableBatch := setting isFalse "disable_batch"
      captureMessageContent :=
        if lower ((environ "OTEL_INSTRUMENTATION_GENAI_CAPTURE_MESSAGE_CONTENT").getD "") = "false" then .bool false
        else setting isTrue "capture_message_content"
      disabledInstrumentors := orFromEnvironment (!truthy ·) envConfig "disabled_instrumentors" disabledInstrumentors
      disableMetrics := setting isFalse "disable_metrics"
      pricingJson := setting isNone "pricing_json"
      collectGpuStats := setting isFalse "collect_gpu_stats"
      detailedTracing := setting isTrue "detailed_tracing"
      collectSystemMetrics := setting isFalse "collect_system_metrics"
      captureParameters := setting isFalse "capture_parameters"
      enableSqlcommenter := setting isFalse "enable_sqlcommenter"
      evalsLogsExport := setting isTrue "evals_logs_export"
      maxContentLength := setting isNone "max_content_length" }
/-- `initialize` of the bootstrap: what it initialises with, or nothing if an exception is swallowed. -/
def sitecustomize (environ : Environ) : Option Settings :=
  ((buildConfigFromEnvironment environ).bind fun config => init config environ).toOption

end

/-! ### Variables that are set once -/

/-- The first parameter of a variable for which something is given. -/
def firstGiven (args : Args) (params : List (String × Parameter)) (envVar : String) : Option String :=
  params.findSome? fun p => if p.2.envVar = some envVar then given args p else none
/-- The environment, and behind it what is given. -/
def merged (args : Args) (environ : Environ) : Environ := fun envVar => (environ envVar).or (firstGiven args getCliParameters envVar)

theorem setFromArg_apply (args : Args) (environ : Environ) (p : String × Parameter) (envVar : String) :
    setFromArg args environ p envVar = (environ envVar).or (if p.2.envVar = some envVar then given args p else none) := by
  unfold setFromArg
  cases own : p.2.envVar with
  | none => simp
  | some other =>
    simp only
    by_cases set : (environ other).isSome
    · rw [if_pos set]
      by_cases same : other = envVar
      · subst same
        obtain ⟨value, set⟩ := Option.isSome_iff_exists.mp set
        simp [set]
      · simp [same]
    · rw [if_neg set]
      cases gives : given args p with
      | none => simp
      | some value =>
        simp only [Function.update_apply, Option.some.injEq]
        by_cases same : other = envVar
        · subst same
          simp [Option.not_isSome_iff_eq_none.mp set]
        · simp [same, Ne.symm same]
theorem firstGiven_nil (args : Args) (envVar : String) : firstGiven args [] envVar = none := rfl
theorem firstGiven_cons (args : Args) (p : String × Parameter) (params : List (String × Parameter)) (envVar : String) :
    firstGiven args (p :: params) envVar =
      (if p.2.envVar = some envVar then given args p else none).or (firstGiven args params envVar) := by
  rw [firstGiven, List.findSome?_cons]
  cases (if p.2.envVar = some envVar then given args p else none) with
  | none => rfl
  | some value => rfl
theorem foldl_setFromArg (args : Args) (params : List (String × Parameter)) (environ : Environ) (envVar : String) :
    params.foldl (setFromArg args) environ envVar = (environ envVar).or (firstGiven args params envVar) := by
  induction params generalizing environ with
  | nil => simp [firstGiven]
  | cons p params ih => rw [List.foldl_cons, ih, setFromArg_apply, Option.or_assoc, ← firstGiven_cons]
theorem setEnvironmentFromCliArgs_eq (args : Args) (environ : Environ) :
    setEnvironmentFromCliArgs args environ = merged args environ := by
  funext envVar
  exact foldl_setFromArg args getCliParameters environ envVar

/-! ### What is read back -/

theorem parameters_once : (parameterConfig.map (·.1)).Nodup := by
  simp [parameterConfig]
theorem listed_of_cli {p : String × Parameter} (listed : p ∈ getCliParameters) : p ∈ parameterConfig ∧ p.2.internal = false := by
  simpa [getCliParameters] using listed

section
variable [Lowering] [Interpreter]

/-- What the environment says of a parameter. -/
def received (environ : Environ) (p : String × Parameter) : Option PyValue :=
  (present (p.2.envVar.bind environ)).bind fun envValue =>
    (parseValue p.2 envValue).toOption.bind fun parsed => if isNone parsed then none else some parsed

theorem entry_key {environ : Environ} {p : String × Parameter} {entry : String × PyValue}
    (reads : entryFromEnvironment environ p = .ok (some entry)) : entry.1 = p.1 := by
  unfold entryFromEnvironment at reads
  split at reads
  · cases reads
  · split at reads
    · cases reads
    · rename_i envValue _
      cases parsed : parseEnvValue p.1 envValue with
      | error e => simp [parsed, Except.map] at reads
      | ok value =>
        cases missing : isNone value with
        | true => simp [parsed, Except.map, missing] at reads
        | false =>
          simp only [parsed, Except.map, missing, Bool.false_eq_true, if_false, Except.ok.injEq, Option.some.injEq] at reads
          rw [← reads]
theorem entry_received {environ : Environ} {p : String × Parameter} (listed : p ∈ getCliParameters)
    {found : Option (String × PyValue)} (reads : entryFromEnvironment environ p = .ok found) :
    found.map (·.2) = received environ p := by
  obtain ⟨known, shown⟩ := listed_of_cli listed
  have own : parameterConfig.lookup p.1 = some p.2 := Lookups.lookup_of_mem parameters_once known
  cases set : present (p.2.envVar.bind environ) with
  | none =>
    simp only [entryFromEnvironment, shown, set, Bool.false_eq_true, if_false, Except.ok.injEq] at reads
    simp [← reads, received, set]
  | some envValue =>
    simp only [entryFromEnvironment, shown, set, parseEnvValue, own, Option.getD_some, Bool.false_eq_true, if_false] at reads
    cases parsed : parseValue p.2 envValue with
    | error e => simp [parsed, Except.map] at reads
    | ok value =>
      simp only [parsed, Except.map, Except.ok.injEq] at reads
      subst reads
      cases missing : isNone value <;> simp [received, set, parsed, missing, Except.toOption]
/-- The config that is built has for every parameter of the command what the environment says of it. -/
theorem lookup_config {environ : Environ} {config : List (String × PyValue)} (built : buildConfigFromEnvironment environ = .ok config)
    {p : String × Parameter} (listed : p ∈ getCliParameters) : config.lookup p.1 = received environ p := by
  cases done : parameterConfig.mapM (entryFromEnvironment environ) with
  | error e => simp [buildConfigFromEnvironment, done, Except.map] at built
  | ok entries =>
    obtain ⟨known, -⟩ := listed_of_cli listed
    obtain ⟨found, reads⟩ := Lookups.read_of_mapM done known
    simp only [buildConfigFromEnvironment, done, Except.map, Except.ok.injEq] at built
    rw [← built, Lookups.lookup_read (fun _ _ => entry_key) parameters_once done known reads]
    exact entry_received listed reads

/-! ### The initialisation from the environment -/

omit [Lowering] [Interpreter] in
theorem argument_eq (config : List (String × PyValue)) (name : String) :
    argument config name = (config.lookup name).getD (argument [] name) := rfl
omit [Lowering] [Interpreter] in
/-- What has been taken from the environment stays when the environment is read again. -/
theorem setting_again (config : List (String × PyValue)) {unset : PyValue → Bool} {name : String}
    (isUnset : unset (argument [] name) = true) :
    orFromEnvironment unset config name (argument config name) = orFromEnvironment unset config name (argument [] name) := by
  rw [argument_eq config]
  cases found : config.lookup name with
  | none => rfl
  | some value => simp [orFromEnvironment, found, isUnset]

section
variable [Display]

omit [Lowering] [Interpreter] in
theorem disabled_again (config : List (String × PyValue)) :
    orFromEnvironment (!truthy ·) config "disabled_instrumentors"
        (if truthy (argument config "disabled_instrumentors") then argument config "disabled_instrumentors" else .list []) =
      orFromEnvironment (!truthy ·) config "disabled_instrumentors"
        (if truthy (argument [] "disabled_instrumentors") then argument [] "disabled_instrumentors" else .list []) := by
  have missing : truthy (argument [] "disabled_instrumentors") = false := rfl
  rw [argument_eq config]
  cases found : config.lookup "disabled_instrumentors" with
  | none => rfl
  | some value =>
    have empty : truthy (.list []) = false := rfl
    rw [missing]
    cases some : truthy value <;> simp [orFromEnvironment, found, some, empty]
omit [Lowering] [Interpreter] [Display] in
theorem serviceName_again {config : List (String × PyValue)} (shared : config.lookup "service_name" = config.lookup "application_name") :
    finalServiceName config config = finalServiceName [] config := by
  have unset : isDefault (text "default") = true := rfl
  have service : argument [] "service_name" = text "default" := rfl
  have application : argument [] "application_name" = text "default" := rfl
  simp only [finalServiceName, argument_eq config, service, application, shared, unset]
  cases found : config.lookup "application_name" with
  | none => simp [unset]
  | some value => cases same : isDefault value <;> simp [same, unset]

/-- Passing on what the environment says changes nothing but the two arguments of the exporters. -/
theorem init_config {environ : Environ} {config : List (String × PyValue)} (built : buildConfigFromEnvironment environ = .ok config) :
    init config environ = (init [] environ).map fun settings =>
      { settings with otlpEndpoint := argument config "otlp_endpoint", otlpHeaders := argument config "otlp_headers" } := by
  have shared : config.lookup "service_name" = config.lookup "application_name" := by
    have service := @lookup_config _ _ environ config built ("service_name", { default := text "default", envVar := "OTEL_SERVICE_NAME" })
      (by simp [getCliParameters, parameterConfig])
    have application := @lookup_config _ _ environ config built
      ("application_name", { default := text "default", envVar := "OTEL_SERVICE_NAME" }) (by simp [getCliParameters, parameterConfig])
    rw [service, application]
    rfl
  simp only [init, built, Except.map, serviceName_again shared, disabled_again config,
    @setting_again config isDefault "environment" rfl, @setting_again config isFalse "disable_batch" rfl,
    @setting_again config isTrue "capture_message_content" rfl, @setting_again config isFalse "disable_metrics" rfl,
    @setting_again config isNone "pricing_json" rfl, @setting_again config isFalse "collect_gpu_stats" rfl,
    @setting_again config isTrue "detailed_tracing" rfl, @setting_again config isFalse "collect_system_metrics" rfl,
    @setting_again config isFalse "capture_parameters" rfl, @setting_again config isFalse "enable_sqlcommenter" rfl,
    @setting_again config isTrue "evals_logs_export" rfl, @setting_again config isNone "max_content_length" rfl]

def otlpEndpoint : String × Parameter := ("otlp_endpoint", { default := .none, envVar := "OTEL_EXPORTER_OTLP_ENDPOINT" })
def otlpHeaders : String × Parameter :=
  ("otlp_headers", { default := .none, envVar := "OTEL_EXPORTER_OTLP_HEADERS", parser := some .json })

/-- A program that is started with the command has the settings of one that calls `init` itself without
    arguments, in the environment behind which the options of the command stand; but it also passes on
    the endpoint and the headers. -/
theorem instrument_settings (args : Args) (environ : Environ) :
    sitecustomize (setEnvironmentFromCliArgs args environ) =
      (init [] (merged args environ)).toOption.map fun settings =>
        { settings with
          otlpEndpoint := (received (merged args environ) otlpEndpoint).getD .none
          otlpHeaders := (received (merged args environ) otlpHeaders).getD .none } := by
  rw [setEnvironmentFromCliArgs_eq]
  cases built : buildConfigFromEnvironment (merged args environ) with
  | error e => simp [sitecustomize, init, built, Except.bind, Except.map, Except.toOption]
  | ok config =>
    have endpoint := lookup_config built (show otlpEndpoint ∈ getCliParameters by simp [getCliParameters, parameterConfig, otlpEndpoint])
    have headers := lookup_config built (show otlpHeaders ∈ getCliParameters by simp [getCliParameters, parameterConfig, otlpHeaders])
    have passed : sitecustomize (merged args environ) = (init config (merged args environ)).toOption := by
      rw [sitecustomize, built]
      rfl
    rw [passed, init_config built, ← endpoint, ← headers]
    cases init [] (merged args environ) <;> rfl

/-! ### The options of the command -/

omit [Lowering] [Interpreter] [Display] in
/-- `init` has the defaults of the parameters. -/
theorem defaults_agree {p : String × Parameter} (listed : p ∈ parameterConfig) : argument [] p.1 = p.2.default := by
  simp only [parameterConfig, List.mem_cons, List.not_mem_nil, or_false] at listed
  rcases listed with rfl | rfl | rfl | rfl | rfl | rfl | rfl | rfl | rfl | rfl | rfl | rfl | rfl | rfl | rfl | rfl | rfl |
    rfl | rfl | rfl <;> rfl

omit [Lowering] [Interpreter] [Display] in
theorem getCliParameters_eq : getCliParameters = parameterConfig.take 17 := rfl
omit [Lowering] [Interpreter] [Display] in
theorem flag_default {p : String × Parameter} (listed : p ∈ getCliParameters) (flag : p.2.cliType = .bool) :
    p.2.default = .bool (isTrue p.2.default) := by
  rw [getCliParameters_eq] at listed
  simp only [parameterConfig, List.take_succ_cons, List.take_zero, List.mem_cons, List.not_mem_nil, or_false] at listed
  rcases listed with rfl | rfl | rfl | rfl | rfl | rfl | rfl | rfl | rfl | rfl | rfl | rfl | rfl | rfl | rfl | rfl | rfl <;>
    first | rfl | cases flag

/-- The text of an option. The two names of the service have one variable, where `application_name` comes first. -/
def optionText (args : Args) (p : String × Parameter) : Option String :=
  if p.2.envVar = some "OTEL_SERVICE_NAME" then (args.value "application_name").or (args.value "service_name") else args.value p.1
/-- What the options say. A flag cannot take back a default that is `True`. -/
def typed (args : Args) (p : String × Parameter) : PyValue :=
  match p.2.cliType with
  | .bool => .bool (isTrue p.2.default || args.flag p.1)
  | .str | .int =>
    ((present (optionText args p)).bind fun value =>
      (parseValue p.2 value).toOption.bind fun parsed => if isNone parsed then none else some parsed).getD p.2.default

omit [Lowering] [Interpreter] [Display] in
/-- A variable is set by its own parameter; that of the service name by two. -/
theorem firstGiven_own (args : Args) {p : String × Parameter} (listed : p ∈ getCliParameters) :
    p.2.envVar.bind (firstGiven args getCliParameters) =
      match p.2.cliType with
      | .bool => given args p
      | .str | .int => optionText args p := by
  have parameters := listed
  rw [getCliParameters_eq] at parameters
  simp only [parameterConfig, List.take_succ_cons, List.take_zero, List.mem_cons, List.not_mem_nil, or_false] at parameters
  rcases parameters with rfl | rfl | rfl | rfl | rfl | rfl | rfl | rfl | rfl | rfl | rfl | rfl | rfl | rfl | rfl | rfl | rfl <;>
    simp [getCliParameters, parameterConfig, firstGiven_cons, firstGiven_nil, given, optionText]

omit [Lowering] [Interpreter] [Display] in
theorem ascii_of_all {s : String} (all : (s.toList.all fun c => c.toNat < 128) = true) : ∀ c ∈ s.toList, c.toNat < 128 := by
  simpa using all
omit [Display] in
theorem parse_flag {p : Parameter} (flag : p.cliType = .bool) :
    parseValue p "true" = .ok (.bool true) ∧ parseValue p "false" = .ok (.bool false) := by
  have yes : Lowering.lower "true" = "true" := by
    rw [Lowering.lower_ascii _ (ascii_of_all rfl)]
    rfl
  have no : Lowering.lower "false" = "false" := by
    rw [Lowering.lower_ascii _ (ascii_of_all rfl)]
    rfl
  simp [parseValue, flag, yes, no]

omit [Display] in
/-- Where none of the variables is set, `init` is passed what the options say, or has it as its default. -/
theorem options_arrive {args : Args} {environ : Environ} (unset : ∀ p ∈ getCliParameters, p.2.envVar.bind environ = none)
    {config : List (String × PyValue)} (built : buildConfigFromEnvironment (setEnvironmentFromCliArgs args environ) = .ok config)
    {p : String × Parameter} (listed : p ∈ getCliParameters) : argument config p.1 = typed args p := by
  have known := (listed_of_cli listed).1
  have environment : p.2.envVar.bind (merged args environ) = p.2.envVar.bind (firstGiven args getCliParameters) := by
    have missing := unset p listed
    cases own : p.2.envVar with
    | none => rfl
    | some envVar =>
      rw [own] at missing
      simp only [Option.bind_some] at missing ⊢
      rw [merged, missing, Option.none_or]
  rw [setEnvironmentFromCliArgs_eq] at built
  rw [argument_eq config, lookup_config built listed, defaults_agree known, received, environment, firstGiven_own args listed, typed]
  cases type : p.2.cliType with
  | bool =>
    obtain ⟨yes, no⟩ := parse_flag type
    have boolean := flag_default listed type
    rw [given, type]
    cases on : args.flag p.1 with
    | true => simp [present, Option.filter, yes, Except.toOption, isNone]
    | false =>
      cases byDefault : isTrue p.2.default with
      | true => simpa [present, byDefault] using boolean
      | false => simp [present, Option.filter, no, Except.toOption, isNone]
  | str => rfl
  | int => rfl

end

end

/-! A service that is named on the command line, with ASCII letters only. -/

@[reducible] def asciiLowering : Lowering where
  lower s := String.ofList (s.toList.map Char.toLower)
  lower_ascii _ _ := rfl
@[reducible] def defaultLimits : Interpreter := { nesting := 900, maxDigits := some 4300 }
attribute [local instance] asciiLowering defaultLimits
def chatArgs : Args where
  flag name := name = "disable_batch"
  value name := if name = "service_name" then some "chat" else none

theorem service_name_arrives :
    ∃ config, buildConfigFromEnvironment (setEnvironmentFromCliArgs chatArgs fun _ => none) = .ok config ∧
      argument config "service_name" = text "chat" := by
  refine ⟨_, rfl, ?_⟩
  exact @options_arrive _ _ chatArgs (fun _ => none) (fun p _ => by cases p.2.envVar <;> rfl) _ rfl
    ("service_name", { default := text "default", envVar := "OTEL_SERVICE_NAME" }) (by simp [getCliParameters, parameterConfig])

end Openlit.InstrumentCli
