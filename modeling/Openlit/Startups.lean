import Mathlib.Data.List.Pairwise
import Openlit.Certificates
import Openlit.Revisions

/-!
The starts of the operator (`cmd/operator/main.go`), as far as the API server
trusts its webhook. A start ensures the certificate, copies what is then in the
secret to its files, which it serves from to its end, and after a while writes the
CA that `EnsureCertificate` has returned into the webhook configuration
(`internal/webhook/config.go`). The rotation of the certificate is not started.
The pods of a Deployment start in any order, and their requests to the API server
come one by one. Which of them are trusted is `trusted_iff`.
-/
namespace Openlit.Startups
open Openlit.Certificates (Operator Secret Generated GenerationError X509 Stage Work newSecret)
open Openlit.Revisions Openlit.Runs

/-! ### The webhook configuration -/

/-- The settings of a Deployment. Its pods differ in their names only. -/
structure Deployment where
  nameSpace : String
  serviceName : String
  secretName : String
  configName : String
  webhookPath : String
  failurePolicy : String
  reinvocationPolicy : String
  refreshThreshold : Int

structure ServiceReference where
  name : String
  nameSpace : String
  path : String
  port : Nat
  deriving DecidableEq, Repr
structure LabelSelectorRequirement where
  key : String
  operator : String
  values : List String
  deriving DecidableEq, Repr
structure MutatingWebhook (Bytes : Type) where
  name : String
  service : ServiceReference
  caBundle : Option Bytes
  operations : List String
  apiGroups : List String
  apiVersions : List String
  resources : List String
  objectSelector : List LabelSelectorRequirement
  admissionReviewVersions : List String
  sideEffects : String
  failurePolicy : String
  reinvocationPolicy : String
  deriving DecidableEq, Repr
structure WebhookConfiguration (Bytes : Type) where
  name : String
  labels : List (String × String)
  webhooks : List (MutatingWebhook Bytes)
  deriving DecidableEq, Repr

def getFailurePolicy (d : Deployment) : String :=
  match d.failurePolicy with
  | "Fail" => "Fail"
  | "Ignore" => "Ignore"
  | _ => "Ignore"
def getReinvocationPolicy (d : Deployment) : String :=
  match d.reinvocationPolicy with
  | "Never" => "Never"
  | "IfNeeded" => "IfNeeded"
  | _ => "Never"

variable {Bytes : Type}

def webhookConfig (d : Deployment) (caCert : Option Bytes) : WebhookConfiguration Bytes where
  name := d.configName
  labels := [("app", "openlit-operator"), ("component", "webhook-config")]
  webhooks :=
    [{ name := "pod-instrumentation.openlit.io"
       service := { name := d.serviceName, nameSpace := d.nameSpace, path := d.webhookPath, port := 443 }
       caBundle := caCert
       operations := ["CREATE"]
       apiGroups := [""]
       apiVersions := ["v1"]
       resources := ["pods"]
       -- The operator's own pods start without the webhook.
       objectSelector := [{ key := "app", operator := "NotIn", values := ["openlit-operator"] }]
       admissionReviewVersions := ["v1", "v1beta1"]
       sideEffects := "None"
       failurePolicy := getFailurePolicy d
       reinvocationPolicy := getReinvocationPolicy d }]

/-- What the API server says of the webhook configuration. -/
def refusal (d : Deployment) (text : String) : String :=
  "mutatingwebhookconfigurations.admissionregistration.k8s.io \"" ++ d.configName ++ "\"" ++ text
/-- The second request of `EnsureWebhookConfiguration`: a `Create` if no configuration
    was found, and otherwise an `Update` of the revision that was found. -/
def storeConfiguration [DecidableEq Bytes] (d : Deployment) (caCert : Option Bytes) (existing : Option Nat) (failure : Option String)
    (store : Store (WebhookConfiguration Bytes)) : Except String (Store (WebhookConfiguration Bytes)) :=
  match existing, failure with
  | none, some text => .error ("failed to create webhook configuration: " ++ text)
  | some _, some text => .error ("failed to update webhook configuration: " ++ text)
  | none, none =>
    match store.current with
    | some _ => .error ("failed to create webhook configuration: " ++ refusal d " already exists")
    | none => .ok (store.put (webhookConfig d caCert))
  | some resourceVersion, none =>
    match store.write resourceVersion (fun _ => webhookConfig d caCert) with
    | some stored => .ok stored
    | none =>
      match store.current with
      | none => .error ("failed to update webhook configuration: " ++ refusal d " not found")
      | some _ => .error ("failed to update webhook configuration: Operation cannot be fulfilled on " ++
          refusal d ": the object has been modified; please apply your changes to the latest version and try again")

/-! ### The starts, request by request -/

/-- `tls.crt` and `tls.key` in the directory that the webhook server reads. -/
structure Files (Bytes : Type) where
  tlsCrt : Option Bytes
  tlsKey : Option Bytes
/-- How far a start has come behind `EnsureCertificate`. An error of the webhook configuration is only logged. -/
inductive Phase (Bytes : Type) where
  | ensuring
  | exited
  | serving (files : Files Bytes)
  | configuring (files : Files Bytes) (existing : Option Nat)
  | configured (files : Files Bytes) (result : Except String Unit)
def Phase.files : Phase Bytes → Option (Files Bytes)
  | .ensuring | .exited => none
  | .serving files | .configuring files _ | .configured files _ => some files

/-- What a start does next: the steps of `EnsureCertificate`, the copy of the secret, the
    two requests of `EnsureWebhookConfiguration`. A configuration may also be removed. -/
inductive Action (Bytes : Type) where
  | check (now : Int)
  | generate (generated : Except GenerationError (Generated Bytes))
  | look
  | store
  | copy
  | find
  | configure
  | cleanup
/-- A step of a start. Its request, or the writing of its files, may fail with a text. -/
structure Event (Start Bytes : Type) where
  start : Start
  action : Action Bytes
  failure : Option String := none

structure World (Start Bytes : Type) where
  certificates : Certificates.World Start Bytes
  configuration : Store (WebhookConfiguration Bytes)
  phase : Start → Phase Bytes

section
variable {Start : Type}

def clean : World Start Bytes := ⟨⟨fun _ => none, fun _ => .ready⟩, .empty, fun _ => .ensuring⟩

def Deployment.operator (d : Deployment) (hostname : String) : Operator where
  hostname
  nameSpace := d.nameSpace
  serviceName := d.serviceName
  secretName := d.secretName
  refreshThreshold := d.refreshThreshold
def Deployment.key (d : Deployment) : String × String := (d.nameSpace, d.secretName)

def copiedFiles (secret : Secret Bytes) : Files Bytes := ⟨secret.data.lookup "tls.crt", secret.data.lookup "tls.key"⟩
def copyCertificatesToFileSystem (answer : Option (Secret Bytes)) : Phase Bytes :=
  match answer with
  | none => .exited
  | some secret => .serving (copiedFiles secret)

variable [DecidableEq Start]

def World.at (w : World Start Bytes) (s : Start) (phase : Phase Bytes) : World Start Bytes :=
  { w with phase := Function.update w.phase s phase }

variable [DecidableEq Bytes] [X509 Bytes] (d : Deployment) (hostname : Start → String)

def World.request (w : World Start Bytes) (e : Event Start Bytes) (action : Certificates.Action Bytes) : World Start Bytes :=
  { w with certificates := Certificates.step (fun s => d.operator (hostname s)) w.certificates ⟨e.start, action, e.failure⟩ }

def step (w : World Start Bytes) (e : Event Start Bytes) : World Start Bytes :=
  match e.action, w.phase e.start, w.certificates.stage e.start with
  | .check now, _, _ => w.request d hostname e (.ensure now)
  | .generate generated, _, _ => w.request d hostname e (.generate generated)
  | .look, _, _ => w.request d hostname e .look
  | .store, _, _ => w.request d hostname e .store
  | .copy, .ensuring, .ended (.ok _) =>
    w.at e.start (copyCertificatesToFileSystem (w.certificates.get (d.operator (hostname e.start)) e.failure))
  | .copy, .ensuring, .ended (.error _) => w.at e.start .exited
  | .find, .serving files, _ =>
    w.at e.start (.configuring files (if e.failure.isSome then none else w.configuration.current.map (·.revision)))
  | .configure, .configuring files existing, .ended (.ok caCert) =>
    match storeConfiguration d caCert existing e.failure w.configuration with
    | .error text => w.at e.start (.configured files (.error text))
    | .ok configuration => { w with configuration }.at e.start (.configured files (.ok ()))
  | .cleanup, _, _ => if e.failure.isSome then w else { w with configuration := w.configuration.remove }
  | _, _, _ => w

/-! ### Trust -/

/-- The verification of a server's certificate with a CA, of `crypto/x509`. -/
class Verification (Bytes : Type) where
  verifies : Bytes → Bytes → Prop
export Verification (verifies)

/-- The API server trusts what a start serves: the CA of the webhook configuration verifies its certificate. -/
def Trusted [Verification Bytes] (w : World Start Bytes) (s : Start) : Prop :=
  ∃ config, w.configuration.current = some config ∧ ∃ webhook ∈ config.value.webhooks, ∃ caCert ∈ webhook.caBundle,
    ∃ files ∈ (w.phase s).files, ∃ cert ∈ files.tlsCrt, verifies caCert cert

/-- The certificates that have been generated in a run, and by whom. -/
def generatedBy (events : List (Event Start Bytes)) : List (Start × Generated Bytes) :=
  events.filterMap fun e =>
    match e.action with
    | .generate (.ok data) => some (e.start, data)
    | _ => none
/-- Neither CA verifies the other's certificate. -/
def Apart [Verification Bytes] (made other : Start × Generated Bytes) : Prop :=
  ¬ verifies made.2.caCert other.2.serverCert ∧ ¬ verifies other.2.caCert made.2.serverCert
/-- Every generation makes new keys: a CA verifies the certificate that was signed with it, and no other. -/
structure Genuine [Verification Bytes] (events : List (Event Start Bytes)) : Prop where
  own : ∀ made ∈ generatedBy events, verifies made.2.caCert made.2.serverCert
  apart : (generatedBy events).Pairwise Apart

def state (events : List (Event Start Bytes)) : World Start Bytes := run (step d hostname) clean events
/-- The secret after a run. -/
def secretAt (events : List (Event Start Bytes)) : Option (Secret Bytes) := (state d hostname events).certificates.secrets d.key

/-- What `EnsureCertificate` has returned. -/
def caCertOf : Stage Bytes → Option (Option Bytes)
  | .ended (.ok caCert) => some caCert
  | _ => none
/-- With the last event of `before` the `EnsureCertificate` of a start has ended. -/
def Ensured (events : List (Event Start Bytes)) (s : Start) (before : List (Event Start Bytes)) : Prop :=
  before <+: events ∧ ∃ earlier e, before = earlier ++ [e] ∧ caCertOf ((state d hostname earlier).certificates.stage s) = none ∧
    (caCertOf ((state d hostname before).certificates.stage s)).isSome
/-- A start has copied the secret behind `before`. -/
def Copied (events : List (Event Start Bytes)) (s : Start) (before : List (Event Start Bytes)) : Prop :=
  ∃ e, before ++ [e] <+: events ∧ ((state d hostname before).phase s).files = none ∧
    ((state d hostname (before ++ [e])).phase s).files.isSome
/-- A start has written the webhook configuration as it stands. -/
def Configured (events : List (Event Start Bytes)) (configuration : Store (WebhookConfiguration Bytes)) (s : Start) : Prop :=
  ∃ before, before ++ [⟨s, .configure, none⟩] <+: events ∧
    (state d hostname (before ++ [⟨s, .configure, none⟩])).configuration = configuration ∧
    ∃ files, (state d hostname (before ++ [⟨s, .configure, none⟩])).phase s = .configured files (.ok ())

/-! ### What a step does -/

omit [DecidableEq Start] [X509 Bytes] in
theorem storeConfiguration_ok {d : Deployment} {caCert : Option Bytes} {existing : Option Nat} {failure : Option String}
    {store stored : Store (WebhookConfiguration Bytes)} (written : storeConfiguration d caCert existing failure store = .ok stored) :
    failure = none ∧ ∃ config, stored.current = some config ∧ config.value = webhookConfig d caCert := by
  cases failure with
  | some text => cases existing <;> simp [storeConfiguration] at written
  | none =>
    refine ⟨rfl, ?_⟩
    cases existing with
    | none =>
      cases now : store.current with
      | some config => simp [storeConfiguration, now] at written
      | none =>
        simp only [storeConfiguration, now, Except.ok.injEq] at written
        subst written
        exact ⟨_, Store.current_put _ _, rfl⟩
    | some resourceVersion =>
      cases now : store.current with
      | none => simp [storeConfiguration, Store.write, now] at written
      | some config =>
        by_cases same : config.revision = resourceVersion
        · simp only [storeConfiguration, Store.write, now, same, if_true, Except.ok.injEq] at written
          subst written
          exact Store.current_replace now _
        · simp [storeConfiguration, Store.write, now, same] at written

/-- The certificate that a step of `EnsureCertificate` brings. -/
def generatedIn : Certificates.Action Bytes → Option (Generated Bytes)
  | .generate (.ok data) => some data
  | _ => none
/-- A stage of `EnsureCertificate`, whose certificates have been made. -/
def Follows (made : Generated Bytes → Prop) : Stage Bytes → Prop
  | .ready | .ended _ => True
  | .generating work _ => work = .ensure
  | .looking work _ data | .storing work _ data _ => work = .ensure ∧ made data

omit [DecidableEq Bytes] [X509 Bytes] in
theorem Follows.mono {made more : Generated Bytes → Prop} (sub : ∀ data, made data → more data) {stage : Stage Bytes}
    (follows : Follows made stage) : Follows more stage := by
  cases stage with
  | ready | ended => trivial
  | generating => exact follows
  | looking | storing => exact ⟨follows.1, sub _ follows.2⟩

omit [DecidableEq Bytes] in
theorem ensureCertificate_cases (cm : Operator) (answer : Option (Secret Bytes)) (now : Int) :
    (∃ seen, Certificates.ensureCertificate cm answer now = .generating .ensure seen) ∨
      ∃ secret, answer = some secret ∧ Certificates.ensureCertificate cm answer now = .ended (.ok (secret.data.lookup "ca.crt")) := by
  cases answer with
  | none => exact .inl ⟨none, rfl⟩
  | some secret =>
    by_cases valid : Certificates.isCertificateValid cm secret now
    · exact .inr ⟨secret, rfl, by simp [Certificates.ensureCertificate, valid]⟩
    · exact .inl ⟨some secret, by simp [Certificates.ensureCertificate, valid]⟩

omit [DecidableEq Bytes] in
/-- A step of `EnsureCertificate` moves on, and where it ends it returns the CA of the secret; or it stores a new secret. -/
theorem request_cases (operator : Start → Operator) {w : Certificates.World Start Bytes} {e : Certificates.Event Start Bytes}
    {made : Generated Bytes → Prop} (follows : Follows made (w.stage e.call)) (ensure : ∀ now, e.action ≠ .rotate now) :
    (∃ stage, Certificates.step operator w e = w.at e.call stage ∧
      Follows (fun data => made data ∨ generatedIn e.action = some data) stage ∧
        (caCertOf stage = caCertOf (w.stage e.call) ∨ caCertOf (w.stage e.call) = none ∧
          ∃ secret, w.secrets (operator e.call).key = some secret ∧ caCertOf stage = some (secret.data.lookup "ca.crt"))) ∨
      ∃ data, made data ∧ caCertOf (w.stage e.call) = none ∧ Certificates.step operator w e =
        { w with secrets := Function.update w.secrets (operator e.call).key (some (newSecret (operator e.call) data)) }.at e.call
          (.ended (.ok (some data.caCert))) := by
  unfold Certificates.step
  split
  · rename_i now ready _
    left
    refine ⟨_, rfl, ?_⟩
    rcases ensureCertificate_cases (operator e.call) (w.get (operator e.call) e.failure) now with ⟨seen, same⟩ | ⟨secret, read, same⟩
    · rw [same, ready]
      exact ⟨rfl, .inl rfl⟩
    · rw [same, ready]
      refine ⟨trivial, .inr ⟨rfl, secret, ?_, rfl⟩⟩
      cases failed : e.failure with
      | none => simpa [Certificates.World.get, failed] using read
      | some text => simp [Certificates.World.get, failed] at read
  · rename_i now _ act
    exact absurd act (ensure now)
  · rename_i work seen data generating act
    rw [generating] at follows
    exact .inl ⟨_, rfl, ⟨follows, .inr (by rw [act]; rfl)⟩, .inl (by rw [generating]; rfl)⟩
  · rename_i generating _
    exact .inl ⟨_, rfl, trivial, .inl (by rw [generating]; rfl)⟩
  · rename_i looking _
    rw [looking] at follows
    exact .inl ⟨_, rfl, ⟨follows.1, .inl follows.2⟩, .inl (by rw [looking]; rfl)⟩
  · rename_i work seen data found storing _
    rw [storing] at follows
    obtain ⟨rfl, isMade⟩ := follows
    have running : caCertOf (w.stage e.call) = none := by rw [storing]; rfl
    cases stored : w.put (operator e.call) found data e.failure with
    | error text =>
      simp only [stored]
      exact .inl ⟨_, rfl, trivial, .inl running.symm⟩
    | ok secrets =>
      simp only [stored]
      obtain ⟨-, -, rfl⟩ := Certificates.put_eq_ok stored
      exact .inr ⟨data, isMade, running, rfl⟩
  · left
    refine ⟨w.stage e.call, ?_, follows.mono fun _ => .inl, .inl rfl⟩
    simp [Certificates.World.at]

/-- What an event can do to the world. -/
inductive Moves (w : World Start Bytes) (e : Event Start Bytes) : World Start Bytes → Prop
  | requested (action : Certificates.Action Bytes) (ensure : ∀ now, action ≠ .rotate now)
      (made : ∀ data, generatedIn action = some data → (e.start, data) ∈ generatedBy [e]) : Moves w e (w.request d hostname e action)
  | moved (phase : Phase Bytes) (same : phase.files = (w.phase e.start).files) : Moves w e (w.at e.start phase)
  | copied (secret : Secret Bytes) (stored : w.certificates.secrets d.key = some secret)
      (before : (w.phase e.start).files = none) : Moves w e (w.at e.start (.serving (copiedFiles secret)))
  | configured (files : Files Bytes) (caCert : Option Bytes) (configuration : Store (WebhookConfiguration Bytes))
      (config : Versioned (WebhookConfiguration Bytes)) (event : e = ⟨e.start, .configure, none⟩)
      (before : (w.phase e.start).files = some files) (ended : caCertOf (w.certificates.stage e.start) = some caCert)
      (now : configuration.current = some config) (written : config.value = webhookConfig d caCert) :
      Moves w e ({ w with configuration }.at e.start (.configured files (.ok ())))
  | removed : Moves w e { w with configuration := w.configuration.remove }

omit [DecidableEq Bytes] [X509 Bytes] in
theorem at_same (w : World Start Bytes) (s : Start) : w.at s (w.phase s) = w := by
  simp [World.at]

omit [DecidableEq Bytes] in
theorem moves_same (w : World Start Bytes) (e : Event Start Bytes) : Moves d hostname w e w := by
  have moved : Moves d hostname w e (w.at e.start (w.phase e.start)) := .moved _ rfl
  rwa [at_same] at moved
omit [DecidableEq Bytes] in
theorem copy_moves {w : World Start Bytes} {s : Start} (ensuring : w.phase s = .ensuring) (failure : Option String) :
    Moves d hostname w ⟨s, .copy, failure⟩
      (w.at s (copyCertificatesToFileSystem (w.certificates.get (d.operator (hostname s)) failure))) := by
  have none : (w.phase s).files = none := by rw [ensuring]; rfl
  cases read : w.certificates.get (d.operator (hostname s)) failure with
  | none => exact .moved .exited none.symm
  | some secret =>
    cases failure with
    | some text => cases read
    | none => exact .copied secret read none
theorem step_moves (w : World Start Bytes) (e : Event Start Bytes) : Moves d hostname w e (step d hostname w e) := by
  obtain ⟨s, action, failure⟩ := e
  cases action with
  | check now => exact .requested (.ensure now) (by simp) (by simp [generatedIn])
  | generate generated =>
    refine .requested (.generate generated) (by simp) fun data made => ?_
    cases generated with
    | error failed => cases made
    | ok other =>
      cases made
      exact List.mem_singleton_self _
  | look => exact .requested .look (by simp) (by simp [generatedIn])
  | store => exact .requested .store (by simp) (by simp [generatedIn])
  | copy =>
    cases ensuring : w.phase s with
    | ensuring =>
      have none : (w.phase s).files = none := by rw [ensuring]; rfl
      cases ended : w.certificates.stage s with
      | ended result =>
        cases result with
        | error text =>
          simp only [step, ensuring, ended]
          exact .moved .exited none.symm
        | ok caCert =>
          simp only [step, ensuring, ended]
          exact copy_moves d hostname ensuring failure
      | ready | generating | looking | storing =>
        simp only [step, ensuring, ended]
        exact moves_same d hostname w _
    | exited | serving | configuring | configured =>
      simp only [step, ensuring]
      exact moves_same d hostname w _
  | find =>
    cases serving : w.phase s with
    | serving files =>
      simp only [step, serving]
      exact .moved _ (by simp [serving, Phase.files])
    | ensuring | exited | configuring | configured =>
      simp only [step, serving]
      exact moves_same d hostname w _
  | configure =>
    cases configuring : w.phase s with
    | configuring files existing =>
      have some : (w.phase s).files = some files := by rw [configuring]; rfl
      cases ended : w.certificates.stage s with
      | ended result =>
        cases result with
        | error text =>
          simp only [step, configuring, ended]
          exact moves_same d hostname w _
        | ok caCert =>
          simp only [step, configuring, ended]
          cases written : storeConfiguration d caCert existing failure w.configuration with
          | error text => exact .moved _ some.symm
          | ok configuration =>
            obtain ⟨rfl, config, now, same⟩ := storeConfiguration_ok written
            exact .configured files caCert configuration config rfl some (by rw [ended]; rfl) now same
      | ready | generating | looking | storing =>
        simp only [step, configuring, ended]
        exact moves_same d hostname w _
    | ensuring | exited | serving | configured =>
      simp only [step, configuring]
      exact moves_same d hostname w _
  | cleanup =>
    cases failure with
    | some text => exact moves_same d hostname w _
    | none => exact .removed

/-! ### Runs -/

section
variable {d hostname} {events later : List (Event Start Bytes)} {e : Event Start Bytes}

theorem state_concat (events : List (Event Start Bytes)) (e : Event Start Bytes) :
    state d hostname (events ++ [e]) = step d hostname (state d hostname events) e := run_concat ..
omit [DecidableEq Start] [DecidableEq Bytes] [X509 Bytes] in
theorem generatedBy_concat (events : List (Event Start Bytes)) (e : Event Start Bytes) :
    generatedBy (events ++ [e]) = generatedBy events ++ generatedBy [e] := List.filterMap_append ..
omit [DecidableEq Start] [DecidableEq Bytes] [X509 Bytes] in
theorem generatedBy_sub (early : events <+: later) {made : Start × Generated Bytes} (inside : made ∈ generatedBy events) :
    made ∈ generatedBy later := by
  obtain ⟨rest, rfl⟩ := early
  rw [generatedBy, List.filterMap_append]
  exact List.mem_append_left _ inside
theorem Ensured.mono {s : Start} {before : List (Event Start Bytes)} (ensured : Ensured d hostname events s before)
    (early : events <+: later) : Ensured d hostname later s before := ⟨ensured.1.trans early, ensured.2⟩
theorem Copied.mono {s : Start} {before : List (Event Start Bytes)} (copied : Copied d hostname events s before)
    (early : events <+: later) : Copied d hostname later s before := by
  obtain ⟨e, inside, change⟩ := copied
  exact ⟨e, inside.trans early, change⟩
theorem Configured.mono {configuration : Store (WebhookConfiguration Bytes)} {s : Start}
    (configured : Configured d hostname events configuration s) (early : events <+: later) :
    Configured d hostname later configuration s := by
  obtain ⟨before, inside, written⟩ := configured
  exact ⟨before, inside.trans early, written⟩

/-- Where the certificates of a state have come from. -/
structure Traced (d : Deployment) (hostname : Start → String) (events : List (Event Start Bytes)) (w : World Start Bytes) : Prop where
  follows : ∀ s, Follows (fun data => (s, data) ∈ generatedBy events) (w.certificates.stage s)
  secret : ∀ secret, w.certificates.secrets d.key = some secret →
    ∃ made ∈ generatedBy events, secret = newSecret (d.operator (hostname made.1)) made.2
  ensured : ∀ s caCert, caCertOf (w.certificates.stage s) = some caCert →
    ∃ before secret, Ensured d hostname events s before ∧ secretAt d hostname before = some secret ∧
      caCert = secret.data.lookup "ca.crt"
  copied : ∀ s files, (w.phase s).files = some files →
    ∃ before secret, Copied d hostname events s before ∧ secretAt d hostname before = some secret ∧ files = copiedFiles secret
  configured : ∀ config, w.configuration.current = some config →
    ∃ s caCert, Configured d hostname events w.configuration s ∧ caCertOf (w.certificates.stage s) = some caCert ∧
      config.value = webhookConfig d caCert

theorem traced_clean : Traced d hostname [] (clean : World Start Bytes) where
  follows _ := trivial
  secret _ stored := by cases stored
  ensured _ _ ended := by cases ended
  copied _ _ served := by cases served
  configured _ stands := by cases stands

omit [DecidableEq Bytes] [X509 Bytes] in
theorem at_phase (w : World Start Bytes) (s other : Start) (phase : Phase Bytes) :
    (w.at s phase).phase other = if other = s then phase else w.phase other := by
  simp [World.at, Function.update_apply]
omit [DecidableEq Bytes] [X509 Bytes] in
theorem at_stage (w : Certificates.World Start Bytes) (s other : Start) (stage : Stage Bytes) :
    (w.at s stage).stage other = if other = s then stage else w.stage other := by
  simp [Certificates.World.at, Function.update_apply]

theorem Traced.mono {w : World Start Bytes} (traced : Traced d hostname events w) (early : events <+: later) :
    Traced d hostname later w where
  follows s := (traced.follows s).mono fun _ => generatedBy_sub early
  secret secret stored := by
    obtain ⟨made, inside, same⟩ := traced.secret secret stored
    exact ⟨made, generatedBy_sub early inside, same⟩
  ensured s caCert ended := by
    obtain ⟨before, secret, moment, found, same⟩ := traced.ensured s caCert ended
    exact ⟨before, secret, moment.mono early, found, same⟩
  copied s files served := by
    obtain ⟨before, secret, moment, found, same⟩ := traced.copied s files served
    exact ⟨before, secret, moment.mono early, found, same⟩
  configured config stands := by
    obtain ⟨s, caCert, moment, ended, same⟩ := traced.configured config stands
    exact ⟨s, caCert, moment.mono early, ended, same⟩

/-- A start goes on, with files that it has copied. -/
theorem Traced.at {w : World Start Bytes} (traced : Traced d hostname events w) (s : Start) (phase : Phase Bytes)
    (copied : ∀ files, phase.files = some files →
      ∃ before secret, Copied d hostname events s before ∧ secretAt d hostname before = some secret ∧ files = copiedFiles secret) :
    Traced d hostname events (w.at s phase) where
  follows := traced.follows
  secret := traced.secret
  ensured := traced.ensured
  copied other files served := by
    rw [at_phase] at served
    by_cases same : other = s
    · subst same
      exact copied files (by simpa using served)
    · exact traced.copied other files (by simpa [same] using served)
  configured := traced.configured

/-- A step of `EnsureCertificate`. Where it has returned something it stays, and what it returns is the CA of the secret. -/
theorem Traced.request {w : World Start Bytes} (traced : Traced d hostname events w) {s : Start} {stage : Stage Bytes}
    {secrets : Certificates.Secrets Bytes} (follows : Follows (fun data => (s, data) ∈ generatedBy events) stage)
    (secret : ∀ secret, secrets d.key = some secret →
      ∃ made ∈ generatedBy events, secret = newSecret (d.operator (hostname made.1)) made.2)
    (kept : ∀ caCert, caCertOf (w.certificates.stage s) = some caCert → caCertOf stage = some caCert)
    (ended : ∀ caCert, caCertOf stage = some caCert → caCertOf (w.certificates.stage s) = some caCert ∨
      ∃ before secret, Ensured d hostname events s before ∧ secretAt d hostname before = some secret ∧
        caCert = secret.data.lookup "ca.crt") :
    Traced d hostname events { w with certificates := { w.certificates with secrets }.at s stage } where
  follows other := by
    rw [at_stage]
    split
    · rename_i same
      exact same ▸ follows
    · exact traced.follows other
  secret := secret
  ensured other caCert returned := by
    rw [at_stage] at returned
    by_cases same : other = s
    · subst same
      rcases ended caCert (by simpa using returned) with before | now
      · exact traced.ensured other caCert before
      · exact now
    · exact traced.ensured other caCert (by simpa [same] using returned)
  copied := traced.copied
  configured config stands := by
    obtain ⟨other, caCert, moment, returned, written⟩ := traced.configured config stands
    refine ⟨other, caCert, moment, ?_, written⟩
    rw [at_stage]
    split
    · rename_i same
      exact kept caCert (same ▸ returned)
    · exact returned

theorem traced_request (traced : Traced d hostname events (state d hostname events)) {e : Event Start Bytes}
    {action : Certificates.Action Bytes} (ensure : ∀ now, action ≠ .rotate now)
    (made : ∀ data, generatedIn action = some data → (e.start, data) ∈ generatedBy [e])
    (reached : state d hostname (events ++ [e]) = (state d hostname events).request d hostname e action) :
    Traced d hostname (events ++ [e]) ((state d hostname events).request d hostname e action) := by
  have before := traced.mono (List.prefix_append events [e])
  have steps := @request_cases _ _ _ _ (fun s => d.operator (hostname s)) (state d hostname events).certificates
    ⟨e.start, action, e.failure⟩ _ (traced.follows e.start) ensure
  rcases steps with ⟨stage, same, follows, returned⟩ | ⟨data, isMade, running, same⟩
  · have world : (state d hostname events).request d hostname e action =
        { state d hostname events with certificates := (state d hostname events).certificates.at e.start stage } := by
      rw [World.request, same]
    rw [world] at reached ⊢
    refine before.request (follows.mono ?_) before.secret (fun caCert ended => ?_) fun caCert ended => ?_
    · rintro data (earlier | now)
      · exact generatedBy_sub (List.prefix_append events [e]) earlier
      · rw [generatedBy_concat]
        exact List.mem_append_right _ (made data now)
    · rcases returned with kept | ⟨running, -⟩
      · exact kept.trans ended
      · rw [running] at ended
        cases ended
    · rcases returned with kept | ⟨running, secret, stored, now⟩
      · exact .inl (kept.symm.trans ended)
      · right
        refine ⟨events ++ [e], secret, ⟨List.prefix_rfl, events, e, rfl, running, ?_⟩, ?_, ?_⟩
        · rw [reached, at_stage, if_pos rfl, now]
          rfl
        · rw [secretAt, reached]
          exact stored
        · exact Option.some.inj (ended.symm.trans now)
  · have world : (state d hostname events).request d hostname e action =
        { state d hostname events with
          certificates := { (state d hostname events).certificates with
            secrets := Function.update (state d hostname events).certificates.secrets d.key
              (some (newSecret (d.operator (hostname e.start)) data)) }.at e.start (.ended (.ok (some data.caCert))) } := by
      rw [World.request, same]
      rfl
    rw [world] at reached ⊢
    refine before.request trivial (fun secret stored => ?_) (fun caCert ended => ?_) fun caCert ended => .inr ?_
    · rw [Function.update_self, Option.some.injEq] at stored
      exact ⟨(e.start, data), generatedBy_sub (List.prefix_append events [e]) isMade, stored.symm⟩
    · rw [running] at ended
      cases ended
    · refine ⟨events ++ [e], newSecret (d.operator (hostname e.start)) data, ⟨List.prefix_rfl, events, e, rfl, running, ?_⟩, ?_, ?_⟩
      · rw [reached, at_stage, if_pos rfl]
        rfl
      · rw [secretAt, reached]
        exact Function.update_self ..
      · exact (Option.some.inj ended).symm
theorem traced_concat (traced : Traced d hostname events (state d hostname events)) (e : Event Start Bytes) :
    Traced d hostname (events ++ [e]) (state d hostname (events ++ [e])) := by
  have moves := step_moves d hostname (state d hostname events) e
  rw [← state_concat] at moves
  have before := traced.mono (List.prefix_append events [e])
  generalize reached : state d hostname (events ++ [e]) = w' at moves ⊢
  cases moves with
  | requested action ensure made => exact traced_request traced ensure made reached
  | moved phase same =>
    refine before.at e.start phase fun files served => ?_
    exact before.copied e.start files (same ▸ served)
  | copied secret stored none =>
    refine before.at e.start _ fun files served => ?_
    cases served
    refine ⟨events, secret, ⟨e, List.prefix_rfl, none, ?_⟩, stored, rfl⟩
    rw [reached, at_phase, if_pos rfl]
    rfl
  | configured files caCert configuration config event served ended now written =>
    have there := before.at e.start (.configured files (.ok ())) fun other same => by
      cases same
      exact before.copied e.start files served
    refine { there with configured := fun config' stands => ⟨e.start, caCert, ⟨events, ?_⟩, ended, ?_⟩ }
    · rw [← event, reached]
      refine ⟨List.prefix_rfl, rfl, files, ?_⟩
      rw [at_phase, if_pos rfl]
    · rw [← written]
      exact congrArg _ (Option.some.inj (stands.symm.trans now))
  | removed =>
    exact { before with configured := fun config stands => by cases stands }

/-- Every state of a run is traced. -/
theorem run_traced (d : Deployment) (hostname : Start → String) (events : List (Event Start Bytes)) :
    Traced d hostname events (state d hostname events) := by
  induction events using List.reverseRecOn with
  | nil => exact traced_clean
  | append_singleton events e ih => exact traced_concat ih e

omit [DecidableEq Start] [DecidableEq Bytes] [X509 Bytes] in
theorem Genuine.verifies_iff [Verification Bytes] (genuine : Genuine events) {made other : Start × Generated Bytes}
    (inside : made ∈ generatedBy events) (there : other ∈ generatedBy events) :
    verifies made.2.caCert other.2.serverCert ↔ made = other := by
  constructor
  · intro verified
    by_contra different
    have : Std.Symm (@Apart Bytes Start _) := ⟨fun _ _ both => ⟨both.2, both.1⟩⟩
    exact (genuine.apart.forall inside there different).1 verified
  · rintro rfl
    exact genuine.own made inside
omit [DecidableEq Start] [DecidableEq Bytes] [X509 Bytes] in
/-- Secrets are the same exactly if they hold the same certificates. -/
theorem Genuine.secret_iff [Verification Bytes] (genuine : Genuine events) {made other : Start × Generated Bytes}
    (inside : made ∈ generatedBy events) (there : other ∈ generatedBy events) :
    newSecret (d.operator (hostname made.1)) made.2 = newSecret (d.operator (hostname other.1)) other.2 ↔ made = other := by
  constructor
  · intro same
    have caCert : made.2.caCert = other.2.caCert := by
      have entries := congrArg (fun secret : Secret Bytes => secret.data.lookup "ca.crt") same
      exact Option.some.inj entries
    exact (genuine.verifies_iff inside there).mp (caCert ▸ genuine.own other there)
  · rintro rfl
    rfl

omit [DecidableEq Start] [DecidableEq Bytes] [X509 Bytes] in
theorem trusted_by_iff [Verification Bytes] {w : World Start Bytes} {s : Start} {config : Versioned (WebhookConfiguration Bytes)}
    {caCert : Option Bytes} {files : Files Bytes} (stands : w.configuration.current = some config)
    (written : config.value = webhookConfig d caCert) (served : (w.phase s).files = some files) :
    Trusted w s ↔ ∃ ca ∈ caCert, ∃ cert ∈ files.tlsCrt, verifies ca cert := by
  simp [Trusted, stands, written, served, webhookConfig]

/-- The API server trusts a start that serves exactly if the secret that this start has copied
    is the one with which the `EnsureCertificate` of the last writer of the configuration ended. -/
theorem trusted_iff [Verification Bytes] (genuine : Genuine events) {s : Start}
    (served : ((state d hostname events).phase s).files.isSome)
    (stands : (state d hostname events).configuration.current.isSome) :
    ∃ writer ended copied, Configured d hostname events (state d hostname events).configuration writer ∧
      Ensured d hostname events writer ended ∧ Copied d hostname events s copied ∧
        (Trusted (state d hostname events) s ↔ secretAt d hostname ended = secretAt d hostname copied) := by
  obtain ⟨files, served⟩ := Option.isSome_iff_exists.mp served
  obtain ⟨config, stands⟩ := Option.isSome_iff_exists.mp stands
  have traced := run_traced d hostname events
  obtain ⟨writer, caCert, configured, returned, written⟩ := traced.configured config stands
  obtain ⟨ended, secret, ensured, found, rfl⟩ := traced.ensured writer caCert returned
  obtain ⟨copied, secret', moment, found', rfl⟩ := traced.copied s files served
  refine ⟨writer, ended, copied, configured, ensured, moment, ?_⟩
  obtain ⟨made, inside, rfl⟩ := (run_traced d hostname ended).secret secret found
  obtain ⟨other, there, rfl⟩ := (run_traced d hostname copied).secret secret' found'
  obtain ⟨e, early, -⟩ := moment
  have first := generatedBy_sub ensured.1 inside
  have second := generatedBy_sub ((List.prefix_append copied [e]).trans early) there
  rw [trusted_by_iff stands written served, found, found', Option.some.injEq, genuine.secret_iff first second,
    ← genuine.verifies_iff first second]
  simp [newSecret, copiedFiles, List.lookup_cons]

end

end

/-! A certificate is read as its key and the time until which it is valid. -/

@[reducible] def keyed : X509 (Nat × Int) where
  decode := some
  parseCertificate cert := some { notAfter := cert.2 }
@[reducible] def sameKey : Verification (Nat × Int) := ⟨fun ca cert => ca.1 = cert.1⟩
attribute [local instance] keyed sameKey

def deployment : Deployment where
  nameSpace := "openlit"
  serviceName := "openlit-webhook"
  secretName := "openlit-webhook-tls"
  configName := "openlit-webhook"
  webhookPath := "/mutate"
  failurePolicy := "Ignore"
  reinvocationPolicy := "Never"
  refreshThreshold := 30
def hostnames (second : Bool) : String := if second then "openlit-operator-7d4b9-x2x2x" else "openlit-operator-7d4b9-q9q9q"
def yearLong (key : Nat) (now : Int) : Generated (Nat × Int) :=
  ⟨(key, now + 365 * Certificates.day), (key, now + 365 * Certificates.day), (key, 0)⟩
/-- A whole start, in which nothing fails. -/
def wholeStart (second : Bool) (key : Nat) (now : Int) : List (Event Bool (Nat × Int)) :=
  [⟨second, .check now, none⟩, ⟨second, .generate (.ok (yearLong key now)), none⟩, ⟨second, .look, none⟩, ⟨second, .store, none⟩,
    ⟨second, .copy, none⟩, ⟨second, .find, none⟩, ⟨second, .configure, none⟩]
def renewal : List (Event Bool (Nat × Int)) := wholeStart false 0 0 ++ wholeStart true 1 (340 * Certificates.day)

/-- A pod that starts when the certificate is about to expire renews it, and the pods that serve already lose their trust. -/
theorem renewal_distrusts :
    (∃ writer ended copied, Configured deployment hostnames renewal (state deployment hostnames renewal).configuration writer ∧
      Ensured deployment hostnames renewal writer ended ∧ Copied deployment hostnames renewal false copied ∧
        (Trusted (state deployment hostnames renewal) false ↔
          secretAt deployment hostnames ended = secretAt deployment hostnames copied)) ∧
      ¬ Trusted (state deployment hostnames renewal) false := by
  have genuine : Genuine renewal := by
    constructor <;> simp [renewal, generatedBy, wholeStart, Apart, verifies, yearLong]
  refine ⟨trusted_iff genuine rfl rfl, ?_⟩
  have stands : (state deployment hostnames renewal).configuration.current =
      some ⟨1, webhookConfig deployment (some (1, 705 * Certificates.day))⟩ := rfl
  have served : ((state deployment hostnames renewal).phase false).files = some ⟨some (0, 365 * Certificates.day), some (0, 0)⟩ := rfl
  rw [trusted_by_iff stands rfl served]
  simp [verifies]

end Openlit.Startups
