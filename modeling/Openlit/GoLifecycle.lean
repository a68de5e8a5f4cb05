import Openlit.Pricing
import Openlit.Runs

/-!
The life of the Go SDK (`openlit.go`, `config.go`): what `Init` and `Shutdown` make
of the variables of the package over any run. An `Init` that fails keeps what it
has set before, and only the next one replaces it, and a `Shutdown` that fails
keeps everything. When the variables agree is `variables_agree_iff`, and which
providers are left running is `released_iff`.
-/
namespace Openlit.GoLifecycle
open Openlit.Pricing (PricingCache PricingInfo newPricingCache)
open Openlit.Runs Openlit.Text

/-! ### The configuration -/

/-- Durations are in nanoseconds. A map may be nil. -/
structure Config where
  otlpEndpoint : String := ""
  otlpHeaders : Option (List (String × String)) := none
  environment : String := ""
  applicationName : String := ""
  tracerName : String := ""
  serviceVersion : String := ""
  disableTracing : Bool := false
  disableMetrics : Bool := false
  disableBatch : Bool := false
  traceExporterTimeout : Int := 0
  metricExporterTimeout : Int := 0
  metricExportInterval : Int := 0
  pricingInfo : Option (List (String × PricingInfo)) := none
  pricingEndpoint : String := ""
  disablePricingFetch : Bool := false
  disableCaptureMessageContent : Bool := false
  detailedTracing : Bool := false
  deriving DecidableEq, Repr

def second : Int := 1000000000
/-- A setting, where the zero value of its type stands for the default. -/
def given {α : Type} [DecidableEq α] (zero default value : α) : α := if value = zero then default else value
def Config.setDefaults (c : Config) : Config :=
  { c with
    otlpEndpoint := given "" "http://127.0.0.1:4318" c.otlpEndpoint
    environment := given "" "default" c.environment
    applicationName := given "" "default" c.applicationName
    tracerName := given "" "openlit" c.tracerName
    traceExporterTimeout := given 0 (10 * second) c.traceExporterTimeout
    metricExporterTimeout := given 0 (10 * second) c.metricExporterTimeout
    metricExportInterval := given 0 (30 * second) c.metricExportInterval
    pricingEndpoint := given "" "https://github.com/openlit/openlit/raw/main/assets/pricing.json" c.pricingEndpoint
    pricingInfo := some (c.pricingInfo.getD [])
    otlpHeaders := some (c.otlpHeaders.getD []) }

theorem given_given {α : Type} [DecidableEq α] {zero default : α} (differs : default ≠ zero) (value : α) :
    given zero default (given zero default value) = given zero default value := by
  unfold given
  by_cases missing : value = zero
  · rw [if_pos missing, if_neg differs]
  · rw [if_neg missing, if_neg missing]
/-- A configuration that `GetConfig` has returned is taken as it is. -/
theorem setDefaults_setDefaults (c : Config) : c.setDefaults.setDefaults = c.setDefaults := by
  have kept {default : String} (differs : default ≠ "") (value : String) := given_given differs value
  have lasting {default : Int} (differs : default ≠ 0) (value : Int) := given_given differs value
  simp [Config.setDefaults, kept, lasting, second]

/-! ### The providers -/

/-- The attributes of `newResource`, those of the OpenTelemetry SDK apart. -/
def newResource (cfg : Config) : List (String × String) :=
  [("service.name", cfg.applicationName), ("deployment.environment", cfg.environment), ("openlit.sdk.version", "0.2.0")] ++
    if cfg.serviceVersion ≠ "" then [("service.version", cfg.serviceVersion)] else []

structure Exporter where
  endpointURL : String
  timeout : Int
  headers : Option (List (String × String))
  deriving DecidableEq, Repr
def newExporter (cfg : Config) (timeout : Int) : Exporter where
  endpointURL := cfg.otlpEndpoint
  timeout
  headers := cfg.otlpHeaders.filter (!·.isEmpty)

structure TracerSettings where
  resource : List (String × String)
  exporter : Exporter
  batches : Bool
  deriving DecidableEq, Repr
structure MeterSettings where
  resource : List (String × String)
  exporter : Exporter
  interval : Int
  deriving DecidableEq, Repr
/-- A provider. They are numbered as they are made. -/
structure Provider (Settings : Type) where
  id : Nat
  settings : Settings
  deriving DecidableEq, Repr

def tracerSettings (res : List (String × String)) (cfg : Config) : TracerSettings :=
  ⟨res, newExporter cfg cfg.traceExporterTimeout, !cfg.disableBatch⟩
def meterSettings (res : List (String × String)) (cfg : Config) : MeterSettings :=
  ⟨res, newExporter cfg cfg.metricExporterTimeout, cfg.metricExportInterval⟩
def newTracerProvider (id : Nat) (res : List (String × String)) (cfg : Config) (failure : Option String) :
    Except String (Provider TracerSettings) :=
  match failure with
  | some text => .error ("failed to create trace exporter: " ++ text)
  | none => .ok ⟨id, tracerSettings res cfg⟩
def newMeterProvider (id : Nat) (res : List (String × String)) (cfg : Config) (failure : Option String) :
    Except String (Provider MeterSettings) :=
  match failure with
  | some text => .error ("failed to create metric exporter: " ++ text)
  | none => .ok ⟨id, meterSettings res cfg⟩

/-! ### `Init` and `Shutdown` -/

/-- The variables of the package, of its helpers and of OpenTelemetry; and, as a record of what has happened, how many
    providers have been made and which have been shut down without an error. -/
structure State where
  globalConfig : Option Config := none
  globalShutdown : Bool := false
  isInitialized : Bool := false
  tracerProvider : Option (Provider TracerSettings) := none
  meterProvider : Option (Provider MeterSettings) := none
  globalPricingCache : Option PricingCache := none
  captureMessageContent : Bool := true
  otelTracerProvider : Option (Provider TracerSettings) := none
  otelMeterProvider : Option (Provider MeterSettings) := none
  made : Nat := 0
  closed : List Nat := []

/-- The texts with which the resource and the exporters cannot be made. -/
structure InitFailures where
  resource : Option String := none
  tracer : Option String := none
  meter : Option String := none
  deriving DecidableEq, Repr
structure ShutdownFailures where
  tracer : Option String := none
  meter : Option String := none
  deriving DecidableEq, Repr
/-- The mutex lets one call through at a time. -/
inductive Event where
  | init (cfg : Config) (failures : InitFailures)
  | shutdown (failures : ShutdownFailures)
  deriving DecidableEq, Repr

def State.setTracerProvider (s : State) (tp : Provider TracerSettings) : State :=
  { s with tracerProvider := some tp, otelTracerProvider := some tp, made := s.made + 1 }
def State.setMeterProvider (s : State) (mp : Provider MeterSettings) : State :=
  { s with meterProvider := some mp, otelMeterProvider := some mp, made := s.made + 1 }
def State.startTracer (s : State) (cfg : Config) (failure : Option String) : Except String State :=
  if !cfg.disableTracing then
    match newTracerProvider s.made (newResource cfg) cfg failure with
    | .error text => .error ("failed to create tracer provider: " ++ text)
    | .ok tp => .ok (s.setTracerProvider tp)
  else .ok s
def State.startMeter (s : State) (cfg : Config) (failure : Option String) : Except String State :=
  if !cfg.disableMetrics then
    match newMeterProvider s.made (newResource cfg) cfg failure with
    | .error text => .error ("failed to create meter provider: " ++ text)
    | .ok mp => .ok (s.setMeterProvider mp)
  else .ok s

def State.held (s : State) : List Nat := (s.tracerProvider.map (·.id)).toList ++ (s.meterProvider.map (·.id)).toList
def GetConfig (s : State) : Option Config := s.globalConfig
def IsInitialized (s : State) : Bool := s.isInitialized

section
variable [CaseFolding]

def State.configure (s : State) (cfg : Config) : State :=
  { s with
    globalConfig := some cfg
    globalPricingCache := some (newPricingCache (cfg.pricingInfo.getD []))
    captureMessageContent := !cfg.disableCaptureMessageContent }

/-- The state that is left, and the error that is returned. -/
def Init (s : State) (cfg : Config) (failures : InitFailures) : State × Option String :=
  if s.isInitialized then (s, some "OpenLIT is already initialized")
  else
    let cfg := cfg.setDefaults
    let configured := s.configure cfg
    match failures.resource with
    | some text => (configured, some ("failed to create resource: " ++ text))
    | none =>
      match configured.startTracer cfg failures.tracer with
      | .error text => (configured, some text)
      | .ok traced =>
        match traced.startMeter cfg failures.meter with
        | .error text => (traced, some text)
        | .ok metered => ({ metered with globalShutdown := true, isInitialized := true }, none)

/-- The error of the closure in `globalShutdown`, which reads the variables as they are when it is called. -/
def State.shutdownErr (s : State) (failures : ShutdownFailures) : Option String :=
  match s.tracerProvider.bind fun _ => failures.tracer, s.meterProvider.bind fun _ => failures.meter with
  | none, none => none
  | some text, none => some text
  | none, some text => some text
  | some err, some text => some (err ++ "; " ++ text)
def State.stopped (s : State) (failures : ShutdownFailures) : List Nat :=
  (if failures.tracer = none then (s.tracerProvider.map (·.id)).toList else []) ++
    if failures.meter = none then (s.meterProvider.map (·.id)).toList else []
def State.close (s : State) (failures : ShutdownFailures) : State := { s with closed := s.closed ++ s.stopped failures }
def State.reset (s : State) : State :=
  { s with isInitialized := false, globalConfig := none, tracerProvider := none, meterProvider := none, globalShutdown := false }

def Shutdown (s : State) (failures : ShutdownFailures) : State × Option String :=
  if !s.isInitialized then (s, none)
  else if s.globalShutdown then
    match s.shutdownErr failures with
    | some text => (s.close failures, some ("failed to shutdown OpenLIT: " ++ text))
    | none => ((s.close failures).reset, none)
  else (s.reset, none)

def step (s : State) : Event → State
  | .init cfg failures => (Init s cfg failures).1
  | .shutdown failures => (Shutdown s failures).1
def state (events : List Event) : State := run step {} events

/-! ### What a call does -/

/-- The tracer provider is made, or tracing is disabled and the one that was there stays. -/
inductive Traced (cfg : Config) (s : State) : State → Prop
  | made (enabled : cfg.disableTracing = false) : Traced cfg s (s.setTracerProvider ⟨s.made, tracerSettings (newResource cfg) cfg⟩)
  | kept (disabled : cfg.disableTracing = true) : Traced cfg s s
inductive Metered (cfg : Config) (s : State) : State → Prop
  | made (enabled : cfg.disableMetrics = false) : Metered cfg s (s.setMeterProvider ⟨s.made, meterSettings (newResource cfg) cfg⟩)
  | kept (disabled : cfg.disableMetrics = true) : Metered cfg s s

/-- The resource and the tracer provider are made. -/
def Starts (cfg : Config) (failures : InitFailures) : Prop :=
  failures.resource = none ∧ (cfg.disableTracing = false → failures.tracer = none)
def Succeeds (cfg : Config) (failures : InitFailures) : Prop :=
  Starts cfg failures ∧ (cfg.disableMetrics = false → failures.meter = none)

omit [CaseFolding] in
theorem startTracer_cases (s : State) (cfg : Config) (failure : Option String) :
    (∃ traced, s.startTracer cfg failure = .ok traced ∧ Traced cfg s traced ∧ (cfg.disableTracing = false → failure = none)) ∨
      (∃ text, s.startTracer cfg failure = .error text) ∧ cfg.disableTracing = false ∧ failure ≠ none := by
  cases off : cfg.disableTracing with
  | true => exact .inl ⟨s, by simp [State.startTracer, off], .kept off, by simp⟩
  | false =>
    cases failure with
    | none => exact .inl ⟨_, by simp [State.startTracer, newTracerProvider, off], .made off, fun _ => rfl⟩
    | some text => exact .inr ⟨⟨_, by simp [State.startTracer, newTracerProvider, off]; rfl⟩, rfl, by simp⟩
omit [CaseFolding] in
theorem startMeter_cases (s : State) (cfg : Config) (failure : Option String) :
    (∃ metered, s.startMeter cfg failure = .ok metered ∧ Metered cfg s metered ∧ (cfg.disableMetrics = false → failure = none)) ∨
      (∃ text, s.startMeter cfg failure = .error text) ∧ cfg.disableMetrics = false ∧ failure ≠ none := by
  cases off : cfg.disableMetrics with
  | true => exact .inl ⟨s, by simp [State.startMeter, off], .kept off, by simp⟩
  | false =>
    cases failure with
    | none => exact .inl ⟨_, by simp [State.startMeter, newMeterProvider, off], .made off, fun _ => rfl⟩
    | some text => exact .inr ⟨⟨_, by simp [State.startMeter, newMeterProvider, off]; rfl⟩, rfl, by simp⟩

/-- What an `Init` can leave: nothing new, the configuration, also the tracer provider, or all of it. -/
inductive Inited (s : State) (cfg : Config) (failures : InitFailures) : State → Prop
  | refused (on : s.isInitialized = true) : Inited s cfg failures s
  | configured (off : s.isInitialized = false) (fails : ¬ Starts cfg failures) : Inited s cfg failures (s.configure cfg.setDefaults)
  | traced {next : State} (off : s.isInitialized = false) (starts : Starts cfg failures) (fails : ¬ Succeeds cfg failures)
      (traced : Traced cfg.setDefaults (s.configure cfg.setDefaults) next) : Inited s cfg failures next
  | done {next last : State} (off : s.isInitialized = false) (succeeds : Succeeds cfg failures)
      (traced : Traced cfg.setDefaults (s.configure cfg.setDefaults) next) (metered : Metered cfg.setDefaults next last) :
      Inited s cfg failures { last with globalShutdown := true, isInitialized := true }

theorem init_cases (s : State) (cfg : Config) (failures : InitFailures) : Inited s cfg failures (Init s cfg failures).1 := by
  unfold Init
  cases on : s.isInitialized with
  | true => exact .refused on
  | false =>
    rw [if_neg (by simp)]
    cases resource : failures.resource with
    | some text => exact .configured on fun starts => by simpa [resource] using starts.1
    | none =>
      rcases startTracer_cases (s.configure cfg.setDefaults) cfg.setDefaults failures.tracer with
        ⟨next, isNext, traced, made⟩ | ⟨⟨text, isText⟩, enabled, failed⟩
      · simp only [isNext]
        rcases startMeter_cases next cfg.setDefaults failures.meter with
          ⟨last, isLast, metered, works⟩ | ⟨⟨text, isText⟩, enabled, failed⟩
        · simp only [isLast]
          exact .done on ⟨⟨resource, made⟩, works⟩ traced metered
        · simp only [isText]
          exact .traced on ⟨resource, made⟩ (fun succeeds => failed (succeeds.2 enabled)) traced
      · simp only [isText]
        exact .configured on fun starts => failed (starts.2 enabled)

omit [CaseFolding] in
theorem stopped_eq_held {s : State} {failures : ShutdownFailures} (shut : s.shutdownErr failures = none) :
    s.stopped failures = s.held := by
  revert shut
  unfold State.shutdownErr State.stopped State.held
  cases s.tracerProvider <;> cases s.meterProvider <;> cases failures.tracer <;> cases failures.meter <;> simp
omit [CaseFolding] in
theorem stopped_subset_held (s : State) (failures : ShutdownFailures) : s.stopped failures ⊆ s.held := by
  intro id stopped
  rcases List.mem_append.mp stopped with first | second
  · by_cases works : failures.tracer = none
    · rw [if_pos works] at first
      exact List.mem_append_left _ first
    · simp [works] at first
  · by_cases works : failures.meter = none
    · rw [if_pos works] at second
      exact List.mem_append_right _ second
    · simp [works] at second

/-- What a `Shutdown` can leave. -/
inductive Shut (s : State) (failures : ShutdownFailures) : State → Prop
  | unready (off : s.isInitialized = false) : Shut s failures s
  | failed {text : String} (on : s.isInitialized = true) (err : s.shutdownErr failures = some text) :
      Shut s failures (s.close failures)
  | done (on : s.isInitialized = true) (shut : s.shutdownErr failures = none) : Shut s failures (s.close failures).reset

omit [CaseFolding] in
theorem shutdown_cases {s : State} (ready : s.globalShutdown = s.isInitialized) (failures : ShutdownFailures) :
    Shut s failures (Shutdown s failures).1 := by
  unfold Shutdown
  cases on : s.isInitialized with
  | false => exact .unready on
  | true =>
    rw [if_neg (by simp), if_pos (ready.trans on)]
    cases err : s.shutdownErr failures with
    | some text => exact .failed on err
    | none => exact .done on err

/-! ### The providers that are left running -/

/-- Between two lives of the SDK at most a tracer provider is held, of an `Init` that failed. -/
structure Waiting (s : State) : Prop where
  meter : s.meterProvider = none
  held : ∀ id ∈ s.held, id < s.made ∧ id ∉ s.closed
  closed : ∀ id ∈ s.closed, id < s.made
structure Counted (s : State) : Prop where
  ready : s.globalShutdown = s.isInitialized
  held : ∀ id ∈ s.held, id < s.made
  closed : ∀ id ∈ s.closed, id < s.made
  waiting : s.isInitialized = false → Waiting s

omit [CaseFolding] in
theorem held_setTracerProvider {s : State} (waiting : s.meterProvider = none) (tp : Provider TracerSettings) :
    (s.setTracerProvider tp).held = [tp.id] := by
  simp [State.held, State.setTracerProvider, waiting]
omit [CaseFolding] in
theorem held_setMeterProvider {s : State} (waiting : s.meterProvider = none) (mp : Provider MeterSettings) :
    (s.setMeterProvider mp).held = s.held ++ [mp.id] := by
  simp [State.held, State.setMeterProvider, waiting]

theorem Waiting.configure {s : State} (waiting : Waiting s) (cfg : Config) : Waiting (s.configure cfg) :=
  ⟨waiting.meter, waiting.held, waiting.closed⟩
omit [CaseFolding] in
theorem Waiting.traced {cfg : Config} {s next : State} (waiting : Waiting s) (traced : Traced cfg s next) : Waiting next := by
  cases traced with
  | kept => exact waiting
  | made =>
    refine ⟨waiting.meter, fun id held => ?_, fun id closed => Nat.lt_succ_of_lt (waiting.closed id closed)⟩
    rw [held_setTracerProvider waiting.meter] at held
    obtain rfl := List.mem_singleton.mp held
    exact ⟨Nat.lt_succ_self _, fun closed => Nat.lt_irrefl _ (waiting.closed _ closed)⟩
omit [CaseFolding] in
theorem Waiting.metered {cfg : Config} {s last : State} (waiting : Waiting s) (metered : Metered cfg s last) :
    (∀ id ∈ last.held, id < last.made ∧ id ∉ last.closed) ∧ ∀ id ∈ last.closed, id < last.made := by
  cases metered with
  | kept => exact ⟨waiting.held, waiting.closed⟩
  | made =>
    refine ⟨fun id held => ?_, fun id closed => Nat.lt_succ_of_lt (waiting.closed id closed)⟩
    rw [held_setMeterProvider waiting.meter] at held
    rcases List.mem_append.mp held with before | new
    · exact ⟨Nat.lt_succ_of_lt (waiting.held id before).1, (waiting.held id before).2⟩
    · obtain rfl := List.mem_singleton.mp new
      exact ⟨Nat.lt_succ_self _, fun closed => Nat.lt_irrefl _ (waiting.closed _ closed)⟩

/-- What of the variables is for neither provider. -/
def State.common (s : State) : Option Config × Bool × Bool × Option PricingCache × Bool :=
  (s.globalConfig, s.globalShutdown, s.isInitialized, s.globalPricingCache, s.captureMessageContent)
omit [CaseFolding] in
theorem Traced.common {cfg : Config} {s next : State} (traced : Traced cfg s next) :
    next.common = s.common ∧ next.meterProvider = s.meterProvider := by
  cases traced <;> exact ⟨rfl, rfl⟩
omit [CaseFolding] in
theorem Metered.common {cfg : Config} {s last : State} (metered : Metered cfg s last) :
    last.common = s.common ∧ last.tracerProvider = s.tracerProvider ∧ last.otelTracerProvider = s.otelTracerProvider := by
  cases metered <;> exact ⟨rfl, rfl, rfl⟩
omit [CaseFolding] in
theorem common_eq {s t : State} (same : s.common = t.common) : s.globalConfig = t.globalConfig ∧
    s.globalShutdown = t.globalShutdown ∧ s.isInitialized = t.isInitialized ∧ s.globalPricingCache = t.globalPricingCache ∧
    s.captureMessageContent = t.captureMessageContent := by
  simpa [State.common] using same

theorem counted_step (s : State) (e : Event) (counted : Counted s) : Counted (step s e) := by
  cases e with
  | init cfg failures =>
    have left := init_cases s cfg failures
    show Counted (Init s cfg failures).1
    generalize (Init s cfg failures).1 = next at left ⊢
    cases left with
    | refused => exact counted
    | configured off =>
      exact ⟨counted.ready, counted.held, counted.closed, fun _ => (counted.waiting off).configure _⟩
    | traced off starts fails traced =>
      have waiting := ((counted.waiting off).configure cfg.setDefaults).traced traced
      obtain ⟨-, shutdown, initialised, -⟩ := common_eq traced.common.1
      exact ⟨shutdown.trans (counted.ready.trans initialised.symm), fun id held => (waiting.held id held).1, waiting.closed,
        fun _ => waiting⟩
    | done off succeeds traced metered =>
      obtain ⟨held, closed⟩ := (((counted.waiting off).configure cfg.setDefaults).traced traced).metered metered
      exact ⟨rfl, fun id isHeld => (held id isHeld).1, closed, by simp⟩
  | shutdown failures =>
    have growing : ∀ id ∈ s.closed ++ s.stopped failures, id < s.made := by
      intro id closed
      rcases List.mem_append.mp closed with before | now
      · exact counted.closed id before
      · exact counted.held id (stopped_subset_held s failures now)
    have left := shutdown_cases counted.ready failures
    show Counted (Shutdown s failures).1
    generalize (Shutdown s failures).1 = next at left ⊢
    cases left with
    | unready => exact counted
    | failed on => exact ⟨counted.ready, counted.held, growing, fun off => by simp [State.close, on] at off⟩
    | done on shut =>
      have none_held : (s.close failures).reset.held = [] := rfl
      exact ⟨rfl, by simp [none_held], growing, fun _ => ⟨rfl, by simp [none_held], growing⟩⟩
theorem counted_state (events : List Event) : Counted (state events) :=
  run_keeps ⟨rfl, by simp [State.held], by simp, fun _ => ⟨rfl, by simp [State.held], by simp⟩⟩ counted_step events

/-- Every provider is shut down or still held. -/
def Whole (s : State) : Prop := ∀ id < s.made, id ∈ s.closed ∨ id ∈ s.held
/-- An `Init` makes a tracer provider where an earlier one is held. -/
def Replaces (s : State) (cfg : Config) (failures : InitFailures) : Prop :=
  s.isInitialized = false ∧ s.tracerProvider ≠ none ∧ cfg.disableTracing = false ∧ Starts cfg failures
def Keeps (s : State) : Event → Prop
  | .init cfg failures => ¬ Replaces s cfg failures
  | .shutdown _ => True

omit [CaseFolding] in
theorem whole_traced {cfg : Config} {s next : State} (waiting : Waiting s) (traced : Traced cfg s next) :
    Whole next ↔ Whole s ∧ (s.tracerProvider = none ∨ cfg.disableTracing = true) := by
  cases traced with
  | kept disabled => simp [disabled]
  | made enabled =>
    have other : s.held = (s.tracerProvider.map (·.id)).toList := by simp [State.held, waiting.meter]
    constructor
    · intro whole
      have closed : ∀ id < s.made, id ∈ s.closed := by
        intro id made
        rcases whole id (Nat.lt_succ_of_lt made) with closed | held
        · exact closed
        · rw [held_setTracerProvider waiting.meter] at held
          exact absurd (List.mem_singleton.mp held) (Nat.ne_of_lt made)
      refine ⟨fun id made => .inl (closed id made), .inl ?_⟩
      -- What was held has not been shut down.
      cases now : s.tracerProvider with
      | none => rfl
      | some tp =>
        have held : tp.id ∈ s.held := by simp [other, now]
        have before := waiting.held _ held
        exact absurd (closed _ before.1) before.2
    · rintro ⟨whole, none | disabled⟩
      · intro id made
        rw [held_setTracerProvider waiting.meter]
        rcases Nat.lt_succ_iff_lt_or_eq.mp made with before | rfl
        · rcases whole id before with closed | held
          · exact .inl closed
          · simp [other, none] at held
        · exact .inr (List.mem_singleton_self _)
      · simp [enabled] at disabled
omit [CaseFolding] in
theorem whole_metered {cfg : Config} {s last : State} (waiting : s.meterProvider = none) (metered : Metered cfg s last) :
    Whole last ↔ Whole s := by
  cases metered with
  | kept => exact Iff.rfl
  | made =>
    constructor
    · intro whole id made
      rcases whole id (Nat.lt_succ_of_lt made) with closed | held
      · exact .inl closed
      · rw [held_setMeterProvider waiting] at held
        rcases List.mem_append.mp held with before | new
        · exact .inr before
        · exact absurd (List.mem_singleton.mp new) (Nat.ne_of_lt made)
    · intro whole id made
      rw [held_setMeterProvider waiting]
      rcases Nat.lt_succ_iff_lt_or_eq.mp made with before | rfl
      · exact (whole id before).imp_right (List.mem_append_left _)
      · exact .inr (List.mem_append_right _ (List.mem_singleton_self _))

omit [CaseFolding] in
theorem whole_close (s : State) (failures : ShutdownFailures) : Whole (s.close failures) ↔ Whole s := by
  have same : (s.close failures).held = s.held := rfl
  refine forall₂_congr fun id made => ?_
  rw [same, State.close, List.mem_append]
  constructor
  · rintro ((closed | stopped) | held)
    · exact .inl closed
    · exact .inr (stopped_subset_held s failures stopped)
    · exact .inr held
  · exact Or.imp_left .inl
omit [CaseFolding] in
/-- A `Shutdown` without an error shuts down what is held. -/
theorem closed_reset {s : State} {failures : ShutdownFailures} (shut : s.shutdownErr failures = none) :
    (∀ id < (s.close failures).reset.made, id ∈ (s.close failures).reset.closed) ↔ Whole s := by
  refine forall₂_congr fun id made => ?_
  show id ∈ s.closed ++ s.stopped failures ↔ _
  rw [stopped_eq_held shut, List.mem_append]

theorem whole_step (s : State) (e : Event) (counted : Counted s) : Whole (step s e) ↔ Whole s ∧ Keeps s e := by
  cases e with
  | init cfg failures =>
    have left := init_cases s cfg failures
    show Whole (Init s cfg failures).1 ↔ Whole s ∧ ¬ Replaces s cfg failures
    have traces {next : State} (off : s.isInitialized = false) (starts : Starts cfg failures)
        (traced : Traced cfg.setDefaults (s.configure cfg.setDefaults) next) : Whole next ↔ Whole s ∧ ¬ Replaces s cfg failures := by
      refine (whole_traced ((counted.waiting off).configure cfg.setDefaults) traced).trans ?_
      show Whole s ∧ (s.tracerProvider = none ∨ cfg.disableTracing = true) ↔ _
      cases enabled : cfg.disableTracing <;> simp [Replaces, off, starts, enabled]
    generalize (Init s cfg failures).1 = next at left ⊢
    cases left with
    | refused on => simp [Replaces, on]
    | configured off fails => simp only [Replaces, fails, and_false, not_false_eq_true, and_true]; exact Iff.rfl
    | traced off starts fails traced => exact traces off starts traced
    | done off succeeds traced metered =>
      have waiting := (counted.waiting off).configure cfg.setDefaults
      exact (whole_metered (waiting.traced traced).meter metered).trans (traces off succeeds.1 traced)
  | shutdown failures =>
    have left := shutdown_cases counted.ready failures
    show Whole (Shutdown s failures).1 ↔ Whole s ∧ True
    rw [and_true]
    generalize (Shutdown s failures).1 = next at left ⊢
    cases left with
    | unready => exact Iff.rfl
    | failed => exact whole_close s failures
    | done on shut =>
      rw [← closed_reset shut]
      exact forall₂_congr fun id made => or_iff_left (by simp [State.reset, State.held])

/-- Where a run has come to a `Shutdown` without an error, every provider that was ever made has been shut down
    exactly if no `Init` has replaced the tracer provider of one that had failed. -/
theorem released_iff (events : List Event) (failures : ShutdownFailures) (on : IsInitialized (state events) = true)
    (shut : (Shutdown (state events) failures).2 = none) :
    (∀ id < (Shutdown (state events) failures).1.made, id ∈ (Shutdown (state events) failures).1.closed) ↔
      ∀ before e, before ++ [e] <+: events → Keeps (state before) e := by
  have counted := counted_state events
  have ends : (state events).shutdownErr failures = none ∧
      (Shutdown (state events) failures).1 = ((state events).close failures).reset := by
    have isOn : (state events).isInitialized = true := on
    have ready := counted.ready.trans isOn
    cases err : (state events).shutdownErr failures with
    | none => simp [Shutdown, isOn, ready, err]
    | some text => simp [Shutdown, isOn, ready, err] at shut
  rw [ends.2, closed_reset ends.1]
  exact last_iff counted_state (by simp [Whole]) whole_step events

/-! ### When the variables agree -/

/-- What a configuration, with its defaults, asks for. -/
def Config.tracing (cfg : Config) : Option TracerSettings :=
  if cfg.disableTracing then none else some (tracerSettings (newResource cfg) cfg)
def Config.metering (cfg : Config) : Option MeterSettings :=
  if cfg.disableMetrics then none else some (meterSettings (newResource cfg) cfg)

/-- There is a configuration exactly while the SDK is initialised, and its providers, and no others, are held and run. -/
structure Settled (s : State) : Prop where
  config : (GetConfig s).isSome = IsInitialized s
  tracer : s.tracerProvider.map (·.settings) = s.globalConfig.bind Config.tracing
  meter : s.meterProvider.map (·.settings) = s.globalConfig.bind Config.metering
  otelTracer : ∀ tp, s.tracerProvider = some tp → s.otelTracerProvider = some tp
  otelMeter : ∀ mp, s.meterProvider = some mp → s.otelMeterProvider = some mp
  helpers : ∀ cfg, s.globalConfig = some cfg → s.captureMessageContent = (!cfg.disableCaptureMessageContent) ∧
    s.globalPricingCache = some (newPricingCache (cfg.pricingInfo.getD []))
  running : ∀ id ∈ s.held, id ∉ s.closed
/-- An `Init` that begins does not fail, and a `Shutdown` fails for both providers if for one. -/
def Steady (s : State) : Event → Prop
  | .init cfg failures => s.isInitialized = true ∨ Succeeds cfg failures
  | .shutdown failures => s.isInitialized = true → ∀ tp mp, s.tracerProvider = some tp → s.meterProvider = some mp →
      failures.tracer.isNone = failures.meter.isNone

theorem Settled.off {s : State} (settled : Settled s) (off : s.isInitialized = false) :
    s.globalConfig = none ∧ s.tracerProvider = none ∧ s.meterProvider = none := by
  have config : s.globalConfig = none := Option.isNone_iff_eq_none.mp (by simpa [GetConfig, IsInitialized, off] using settled.config)
  have tracer := settled.tracer
  have meter := settled.meter
  rw [config] at tracer meter
  exact ⟨config, Option.map_eq_none_iff.mp tracer, Option.map_eq_none_iff.mp meter⟩
/-- After a failed `Init` there is a configuration, and the SDK is not initialised. -/
theorem not_settled {s : State} {cfg : Config} (configured : s.globalConfig = some cfg) (off : s.isInitialized = false) :
    ¬ Settled s := by
  intro settled
  rw [(settled.off off).1] at configured
  cases configured

omit [CaseFolding] in
theorem Traced.provider {cfg : Config} {s next : State} (traced : Traced cfg s next) (free : s.tracerProvider = none) :
    next.tracerProvider.map (·.settings) = cfg.tracing ∧ ∀ tp, next.tracerProvider = some tp → next.otelTracerProvider = some tp := by
  cases traced with
  | made enabled => exact ⟨by simp [State.setTracerProvider, Config.tracing, enabled], fun _ held => held⟩
  | kept disabled => exact ⟨by simp [free, Config.tracing, disabled], by simp [free]⟩
omit [CaseFolding] in
theorem Metered.provider {cfg : Config} {s last : State} (metered : Metered cfg s last) (free : s.meterProvider = none) :
    last.meterProvider.map (·.settings) = cfg.metering ∧ ∀ mp, last.meterProvider = some mp → last.otelMeterProvider = some mp := by
  cases metered with
  | made enabled => exact ⟨by simp [State.setMeterProvider, Config.metering, enabled], fun _ held => held⟩
  | kept disabled => exact ⟨by simp [free, Config.metering, disabled], by simp [free]⟩

/-- An `Init` that has found no provider and does not fail. -/
theorem settled_done {s next last : State} {cfg : Config} (waiting : Waiting s) (free : s.tracerProvider = none)
    (traced : Traced cfg (s.configure cfg) next) (metered : Metered cfg next last) :
    Settled { last with globalShutdown := true, isInitialized := true } := by
  obtain ⟨tracer, otelTracer⟩ := traced.provider free
  obtain ⟨meter, otelMeter⟩ := metered.provider (traced.common.2.trans waiting.meter)
  obtain ⟨config, -, -, pricing, content⟩ := common_eq (metered.common.1.trans traced.common.1)
  have held := (((waiting.configure cfg).traced traced).metered metered).1
  obtain ⟨-, sameTracer, sameOtel⟩ := metered.common
  have isConfig : last.globalConfig = some cfg := config
  constructor
  case config => simp [GetConfig, IsInitialized, isConfig]
  case tracer => simpa [sameTracer, isConfig] using tracer
  case meter => simpa [isConfig] using meter
  case otelTracer => simpa [sameTracer, sameOtel] using otelTracer
  case otelMeter => exact otelMeter
  case helpers =>
    intro given same
    obtain rfl := Option.some.inj (isConfig.symm.trans same)
    exact ⟨content, pricing⟩
  case running => exact fun id isHeld => (held id isHeld).2

omit [CaseFolding] in
theorem stopped_eq_nil {s : State} {failures : ShutdownFailures} {text : String} (err : s.shutdownErr failures = some text) :
    s.stopped failures = [] ↔ ∀ tp mp, s.tracerProvider = some tp → s.meterProvider = some mp →
      failures.tracer.isNone = failures.meter.isNone := by
  revert err
  unfold State.shutdownErr State.stopped
  cases s.tracerProvider <;> cases s.meterProvider <;> cases failures.tracer <;> cases failures.meter <;> simp
omit [CaseFolding] in
theorem steady_of_done {s : State} {failures : ShutdownFailures} (shut : s.shutdownErr failures = none) {tp : Provider TracerSettings}
    {mp : Provider MeterSettings} (tracer : s.tracerProvider = some tp) (meter : s.meterProvider = some mp) :
    failures.tracer.isNone = failures.meter.isNone := by
  revert shut
  unfold State.shutdownErr
  rw [tracer, meter]
  cases failures.tracer <;> cases failures.meter <;> simp

/-- What is held runs on behind a `Shutdown` that fails for all of it. -/
theorem settled_close {s : State} (settled : Settled s) (failures : ShutdownFailures) :
    Settled (s.close failures) ↔ s.stopped failures = [] := by
  constructor
  · intro after
    by_contra some_stopped
    obtain ⟨id, stopped⟩ := List.exists_mem_of_ne_nil _ some_stopped
    exact after.running id (stopped_subset_held s failures stopped) (List.mem_append_right _ stopped)
  · intro nothing
    have same : s.close failures = s := by simp [State.close, nothing]
    rwa [same]

theorem settled_step (s : State) (e : Event) (counted : Counted s) (settled : Settled s) : Settled (step s e) ↔ Steady s e := by
  cases e with
  | init cfg failures =>
    have left := init_cases s cfg failures
    show Settled (Init s cfg failures).1 ↔ s.isInitialized = true ∨ Succeeds cfg failures
    generalize (Init s cfg failures).1 = next at left ⊢
    cases left with
    | refused on => exact iff_of_true settled (.inl on)
    | configured off fails =>
      refine iff_of_false (not_settled rfl off) ?_
      rintro (on | succeeds)
      · simp [off] at on
      · exact fails succeeds.1
    | traced off starts fails traced =>
      obtain ⟨config, -, initialised, -⟩ := common_eq traced.common.1
      refine iff_of_false (not_settled config (initialised.trans off)) ?_
      rintro (on | succeeds)
      · simp [off] at on
      · exact fails succeeds
    | done off succeeds traced metered =>
      exact iff_of_true (settled_done (counted.waiting off) (settled.off off).2.1 traced metered) (.inr succeeds)
  | shutdown failures =>
    have left := shutdown_cases counted.ready failures
    show Settled (Shutdown s failures).1 ↔ Steady s (.shutdown failures)
    generalize (Shutdown s failures).1 = next at left ⊢
    cases left with
    | unready off => exact iff_of_true settled fun on => by simp [off] at on
    | failed on err =>
      rw [settled_close settled, stopped_eq_nil err]
      exact ⟨fun steady _ => steady, fun steady => steady on⟩
    | done on shut =>
      have reset : Settled (s.close failures).reset :=
        ⟨rfl, rfl, rfl, by simp [State.reset], by simp [State.reset], by simp [State.reset], by simp [State.reset, State.held]⟩
      exact iff_of_true reset fun _ tp mp tracer meter => steady_of_done shut tracer meter

end

/-! The first `Init` fails behind its tracer provider, which the second one replaces. -/

def retried : List Event := [.init {} { meter := some "invalid URL" }, .init {} {}]
theorem retried_leaves_running : 0 ∉ (@Shutdown (@state asciiFolding retried) {}).1.closed ∧
    ¬ ∀ before e, before ++ [e] <+: retried → Keeps (@state asciiFolding before) e := by
  have exactly := @released_iff asciiFolding retried {} rfl rfl
  have left : 0 ∉ (@Shutdown (@state asciiFolding retried) {}).1.closed := by decide
  refine ⟨left, fun keeps => ?_⟩
  exact left (exactly.mpr keeps 0 (by decide))

end Openlit.GoLifecycle
