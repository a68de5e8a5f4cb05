import Mathlib.Algebra.Group.Nat.Defs
import Mathlib.Data.Int.Notation
import Mathlib.Logic.Function.Basic
import Openlit.Runs
import Openlit.Text

/-!
The TLS certificate of the operator's webhook (`internal/webhook/certs.go`): a
secret that carries the identity of the deployment that wrote it. Several
operators can share a namespace, and a call to renew the certificate makes its
requests to the API server one by one, so the requests of others can come between
them. What the calls do to the secrets of other deployments is
`certificates_respected`.
-/
namespace Openlit.Certificates
open Openlit.Runs Openlit.Text

/-! ### Identities -/

/-- The fields of a `CertificateManager` that the calls read, and the variable `HOSTNAME` of its pod. -/
structure Operator where
  hostname : String := ""
  nameSpace : String
  serviceName : String
  secretName : String
  refreshThreshold : Int
  deriving DecidableEq, Repr

def looksLikeHash (s : String) : Bool :=
  if s.utf8ByteSize < 5 ∨ 10 < s.utf8ByteSize then false
  else s.toList.all fun c => ('a' ≤ c && c ≤ 'z') || ('0' ≤ c && c ≤ '9')
def extractDeploymentName (hostname : String) : String :=
  match (split hostname '-').reverse with
  | lastPart :: secondLastPart :: first :: front =>
    if looksLikeHash lastPart && looksLikeHash secondLastPart then
      String.ofList (['-'].intercalate ((first :: front).reverse.map String.toList))
    else hostname
  | _ => hostname
def getOperatorIdentity (cm : Operator) : String :=
  let hostname := if cm.hostname = "" then "openlit-operator" else cm.hostname
  extractDeploymentName hostname ++ "." ++ cm.nameSpace
/-- Identities are compared as far as their first dot. -/
def isSameDeployment (identity1 identity2 : String) : Bool := (split identity1 '.').head? == (split identity2 '.').head?

/-! ### Secrets -/

structure Secret (Bytes : Type) where
  labels : Option (List (String × String)) := none
  type : String := ""
  data : List (String × Bytes) := []
  deriving DecidableEq, Repr
structure Certificate where
  notAfter : Int
  dnsNames : List String := []

/-- `encoding/pem` and `crypto/x509`, as far as a certificate is read with them. Times are in nanoseconds. -/
class X509 (Bytes : Type) where
  decode : Bytes → Option Bytes
  parseCertificate : Bytes → Option Certificate

variable {Bytes : Type}

def managedBy (secret : Secret Bytes) : Option String := secret.labels.bind (·.lookup "managed-by")

def shouldManageSecret (cm : Operator) (secret : Secret Bytes) : Bool :=
  match secret.labels with
  | none => true
  | some labels =>
    match labels.lookup "managed-by" with
    | none => true
    | some managedBy =>
      let currentOperator := getOperatorIdentity cm
      managedBy == currentOperator || isSameDeployment managedBy currentOperator

def hour : Int := 3600000000000
/-- The refresh threshold as a `time.Duration`, which has 64 bits. -/
def threshold (cm : Operator) : Int := (cm.refreshThreshold * 24 * hour).bmod (2 ^ 64)

section
variable [X509 Bytes]

def isCertificateValid (cm : Operator) (secret : Secret Bytes) (now : Int) : Bool :=
  match secret.data.lookup "tls.crt" with
  | none => false
  | some certPEM =>
    match X509.decode certPEM with
    | none => false
    | some certBlock =>
      match X509.parseCertificate certBlock with
      | none => false
      | some cert => now + threshold cm < cert.notAfter

/-- With the reason that is logged. -/
def needsCertificateRotation (cm : Operator) (secret : Secret Bytes) (now : Int) : Bool × String :=
  match secret.data.lookup "tls.crt" with
  | none => (true, "certificate_missing")
  | some certPEM =>
    match X509.decode certPEM with
    | none => (true, "certificate_invalid_format")
    | some certBlock =>
      match X509.parseCertificate certBlock with
      | none => (true, "certificate_parse_error")
      | some cert =>
        if cert.notAfter < now then (true, "certificate_expired")
        else if cert.notAfter < now + threshold cm then
          let daysUntilExpiry := (cert.notAfter - now) / (24 * hour)
          (true, "certificate_expiring_in_" ++ toString daysUntilExpiry ++ "_days")
        else
          let expectedDNS := cm.serviceName ++ "." ++ cm.nameSpace ++ ".svc"
          if cert.dnsNames.any fun dnsName => dnsName == expectedDNS || dnsName == expectedDNS ++ ".cluster.local" then
            (false, "certificate_valid")
          else (true, "certificate_invalid_dns_names")

end

/-! ### The calls, request by request -/

/-- `EnsureCertificate` or `rotateCertificate`. -/
inductive Work where
  | ensure
  | rotation
  deriving DecidableEq, Repr
/-- The PEM texts of a new CA and a new server certificate. -/
structure Generated (Bytes : Type) where
  caCert : Bytes
  serverCert : Bytes
  serverKey : Bytes
/-- Which of the two could not be generated, and why. -/
structure GenerationError where
  certificate : String
  text : String

/-- How far a call has come. Its variable `secret` is what its check has seen. -/
inductive Stage (Bytes : Type) where
  | ready
  | generating (work : Work) (seen : Option (Secret Bytes))
  | looking (work : Work) (seen : Option (Secret Bytes)) (data : Generated Bytes)
  | storing (work : Work) (seen : Option (Secret Bytes)) (data : Generated Bytes) (found : Bool)
  | ended (result : Except String (Option Bytes))

/-- What a call does next. The time is read at its check, and the generation may fail. -/
inductive Action (Bytes : Type) where
  | ensure (now : Int)
  | rotate (now : Int)
  | generate (generated : Except GenerationError (Generated Bytes))
  | look
  | store
/-- A step of a call. The request that it makes may fail with a text. -/
structure Event (Call Bytes : Type) where
  call : Call
  action : Action Bytes
  failure : Option String := none

/-- Secrets by their namespaces and names. -/
abbrev Secrets (Bytes : Type) := String × String → Option (Secret Bytes)
structure World (Call Bytes : Type) where
  secrets : Secrets Bytes
  stage : Call → Stage Bytes

def Operator.key (cm : Operator) : String × String := (cm.nameSpace, cm.secretName)

/-- The beginning of `EnsureCertificate`, with the answer to its `Get`. -/
def ensureCertificate [X509 Bytes] (cm : Operator) (answer : Option (Secret Bytes)) (now : Int) : Stage Bytes :=
  match answer with
  | none => .generating .ensure none
  | some secret =>
    if shouldManageSecret cm secret then
      if isCertificateValid cm secret now then .ended (.ok (secret.data.lookup "ca.crt"))
      else .generating .ensure (some secret)
    else
      -- The certificate of another operator is used if it is valid.
      if isCertificateValid cm secret now then .ended (.ok (secret.data.lookup "ca.crt"))
      else .generating .ensure (some secret)
/-- `checkAndRotateCertificate` as far as `rotateCertificate`. -/
def checkAndRotateCertificate [X509 Bytes] (cm : Operator) (answer : Option (Secret Bytes)) (now : Int) : Stage Bytes :=
  match answer with
  | none => .ended (.ok none)
  | some secret =>
    if !shouldManageSecret cm secret then .ended (.ok none)
    else if (needsCertificateRotation cm secret now).1 then .generating .rotation (some secret)
    else .ended (.ok none)

def Work.generationError (e : GenerationError) : Work → String
  | .ensure => "failed to generate " ++ e.certificate ++ " certificate: " ++ e.text
  | .rotation => "failed to generate new " ++ e.certificate ++ " certificate: " ++ e.text
def Work.storeError (text : String) : Work → String
  | .ensure => "failed to create/update secret: " ++ text
  | .rotation => "failed to update secret with new certificate: " ++ text
/-- What `EnsureCertificate` returns; a rotation returns nothing. -/
def Work.result (data : Generated Bytes) : Work → Option Bytes
  | .ensure => some data.caCert
  | .rotation => none

/-- The secret that `createOrUpdateSecret` stores. -/
def newSecret (cm : Operator) (data : Generated Bytes) : Secret Bytes where
  labels := some [("app", "openlit-operator"), ("component", "webhook-certs"), ("managed-by", getOperatorIdentity cm)]
  type := "kubernetes.io/tls"
  data := [("ca.crt", data.caCert), ("tls.crt", data.serverCert), ("tls.key", data.serverKey)]
/-- `Create`, or `Update` where the call has found a secret. -/
def put (secrets : Secrets Bytes) (cm : Operator) (found : Bool) (secret : Secret Bytes) : Except String (Secrets Bytes) :=
  match found, secrets cm.key with
  | false, some _ => .error ("secrets \"" ++ cm.secretName ++ "\" already exists")
  | true, none => .error ("secrets \"" ++ cm.secretName ++ "\" not found")
  | _, _ => .ok (Function.update secrets cm.key (some secret))

section
variable {Call : Type}

def World.get (w : World Call Bytes) (cm : Operator) (failure : Option String) : Option (Secret Bytes) :=
  match failure with
  | some _ => none
  | none => w.secrets cm.key
/-- The API server's answer to a request to store, and the secrets after it. -/
def World.put (w : World Call Bytes) (cm : Operator) (found : Bool) (data : Generated Bytes) (failure : Option String) :
    Except String (Secrets Bytes) :=
  match failure with
  | some text => .error text
  | none => Certificates.put w.secrets cm found (newSecret cm data)

variable [DecidableEq Call]

def World.at (w : World Call Bytes) (call : Call) (stage : Stage Bytes) : World Call Bytes :=
  { w with stage := Function.update w.stage call stage }

variable [X509 Bytes] (operator : Call → Operator)

def step (w : World Call Bytes) (e : Event Call Bytes) : World Call Bytes :=
  let cm := operator e.call
  match w.stage e.call, e.action with
  | .ready, .ensure now => w.at e.call (ensureCertificate cm (w.get cm e.failure) now)
  | .ready, .rotate now => w.at e.call (checkAndRotateCertificate cm (w.get cm e.failure) now)
  | .generating work seen, .generate (.ok data) => w.at e.call (.looking work seen data)
  | .generating work _, .generate (.error failed) => w.at e.call (.ended (.error (work.generationError failed)))
  | .looking work seen data, .look => w.at e.call (.storing work seen data (w.get cm e.failure).isSome)
  | .storing work _ data found, .store =>
    match w.put cm found data e.failure with
    | .error text => w.at e.call (.ended (.error (work.storeError text)))
    | .ok secrets => { w with secrets }.at e.call (.ended (.ok (work.result data)))
  | _, _ => w

/-! ### The secrets of other deployments -/

/-- The secret carries the identity of another deployment. -/
def Foreign (cm : Operator) (secret : Secret Bytes) : Prop :=
  ∃ identity, managedBy secret = some identity ∧ identity ≠ getOperatorIdentity cm
/-- A step leaves the secrets of other deployments alone, and what it stores carries its own identity. -/
structure Respects (w : World Call Bytes) (e : Event Call Bytes) : Prop where
  foreign : ∀ key secret, w.secrets key = some secret → Foreign (operator e.call) secret →
    (step operator w e).secrets key = some secret
  own : ∀ key, (step operator w e).secrets key ≠ w.secrets key →
    ∃ secret, (step operator w e).secrets key = some secret ∧ managedBy secret = some (getOperatorIdentity (operator e.call))

/-- A check that reads a secret of another deployment does not lead on: the
    certificate is valid, or in a rotation the identities differ before their
    first dot or no rotation is due. An update replaces a secret that carries
    the own identity, or still the one that the check has read. -/
def Careful (w : World Call Bytes) (e : Event Call Bytes) : Prop :=
  let cm := operator e.call
  match w.stage e.call, e.action with
  | .ready, .ensure now => ∀ secret ∈ w.get cm e.failure, Foreign cm secret → isCertificateValid cm secret now = true
  | .ready, .rotate now => ∀ secret ∈ w.get cm e.failure, Foreign cm secret →
      (∀ identity ∈ managedBy secret, isSameDeployment identity (getOperatorIdentity cm) = false) ∨
        (needsCertificateRotation cm secret now).1 = false
  | .storing _ seen _ true, .store => ∀ secret ∈ w.get cm e.failure, ∀ identity ∈ managedBy secret,
      identity = getOperatorIdentity cm ∨ identity ∈ seen.bind managedBy
  | _, _ => True

end

/-! ### One step -/

/-- What the check of a call has read, until the call has ended. -/
def Stage.seen : Stage Bytes → Option (Secret Bytes)
  | .generating _ seen | .looking _ seen _ | .storing _ seen _ _ => seen
  | .ready | .ended _ => none

theorem ensureCertificate_seen [X509 Bytes] {cm : Operator} {answer : Option (Secret Bytes)} {now : Int} {secret : Secret Bytes}
    (seen : secret ∈ (ensureCertificate cm answer now).seen) : secret ∈ answer ∧ isCertificateValid cm secret now = false := by
  cases answer with
  | none => simp [ensureCertificate, Stage.seen] at seen
  | some read =>
    by_cases valid : isCertificateValid cm read now
    · simp [ensureCertificate, valid, Stage.seen] at seen
    · simp only [ensureCertificate, valid, Bool.false_eq_true, if_false, ite_self, Stage.seen, Option.mem_some_iff] at seen
      subst seen
      simpa using valid
theorem checkAndRotateCertificate_seen [X509 Bytes] {cm : Operator} {answer : Option (Secret Bytes)} {now : Int} {secret : Secret Bytes}
    (seen : secret ∈ (checkAndRotateCertificate cm answer now).seen) :
    secret ∈ answer ∧ shouldManageSecret cm secret = true ∧ (needsCertificateRotation cm secret now).1 = true := by
  cases answer with
  | none => simp [checkAndRotateCertificate, Stage.seen] at seen
  | some read =>
    by_cases managed : shouldManageSecret cm read
    · by_cases due : (needsCertificateRotation cm read now).1
      · simp only [checkAndRotateCertificate, managed, due, Bool.not_true, Bool.false_eq_true, if_false, if_true, Stage.seen,
          Option.mem_some_iff] at seen
        subst seen
        exact ⟨rfl, managed, due⟩
      · simp [checkAndRotateCertificate, managed, due, Stage.seen] at seen
    · simp [checkAndRotateCertificate, managed, Stage.seen] at seen

/-- A secret of another deployment is managed as that of the own one if the identities agree before their first dot. -/
theorem shouldManageSecret_foreign {cm : Operator} {secret : Secret Bytes} (foreign : Foreign cm secret)
    (managed : shouldManageSecret cm secret = true) :
    ∃ identity ∈ managedBy secret, isSameDeployment identity (getOperatorIdentity cm) = true := by
  obtain ⟨identity, carried, other⟩ := foreign
  refine ⟨identity, carried, ?_⟩
  obtain ⟨labels, labelled, found⟩ := Option.bind_eq_some_iff.mp carried
  simpa [shouldManageSecret, labelled, found, other] using managed

theorem managedBy_newSecret (cm : Operator) (data : Generated Bytes) :
    managedBy (newSecret cm data) = some (getOperatorIdentity cm) := rfl

section
variable {Call : Type}

@[simp] theorem at_secrets [DecidableEq Call] (w : World Call Bytes) (call : Call) (stage : Stage Bytes) : (w.at call stage).secrets = w.secrets := rfl
theorem put_eq_ok {w : World Call Bytes} {cm : Operator} {found : Bool} {data : Generated Bytes} {failure : Option String}
    {secrets : Secrets Bytes} (stored : w.put cm found data failure = .ok secrets) :
    failure = none ∧ (w.secrets cm.key).isSome = found ∧ secrets = Function.update w.secrets cm.key (some (newSecret cm data)) := by
  cases failure with
  | some text => simp [World.put] at stored
  | none =>
    cases found with
    | false =>
      cases there : w.secrets cm.key with
      | some _ => simp [World.put, put, there] at stored
      | none =>
        simp only [World.put, put, there, Except.ok.injEq] at stored
        exact ⟨rfl, rfl, stored.symm⟩
    | true =>
      cases there : w.secrets cm.key with
      | none => simp [World.put, put, there] at stored
      | some _ =>
        simp only [World.put, put, there, Except.ok.injEq] at stored
        exact ⟨rfl, rfl, stored.symm⟩

variable [DecidableEq Call] [X509 Bytes] {operator : Call → Operator} {w : World Call Bytes} {e : Event Call Bytes}

/-- What a step can do: move on its call, where what is seen was seen before or is read at a check; or store a new secret. -/
theorem step_cases (operator : Call → Operator) (w : World Call Bytes) (e : Event Call Bytes) :
    (∃ stage, step operator w e = w.at e.call stage ∧
      ∀ secret ∈ stage.seen, secret ∈ (w.stage e.call).seen ∨
        secret ∈ w.get (operator e.call) e.failure ∧ w.stage e.call = .ready ∧
          ((∃ now, e.action = .ensure now ∧ isCertificateValid (operator e.call) secret now = false) ∨
            ∃ now, e.action = .rotate now ∧ shouldManageSecret (operator e.call) secret = true ∧
              (needsCertificateRotation (operator e.call) secret now).1 = true)) ∨
      ∃ work seen data found, w.stage e.call = .storing work seen data found ∧ e.action = .store ∧ e.failure = none ∧
        (w.secrets (operator e.call).key).isSome = found ∧
        step operator w e =
          { w with secrets := Function.update w.secrets (operator e.call).key (some (newSecret (operator e.call) data)) }.at e.call
            (.ended (.ok (work.result data))) := by
  unfold step
  split
  · rename_i now ready act
    refine .inl ⟨_, rfl, fun secret seen => .inr ?_⟩
    obtain ⟨read, invalid⟩ := ensureCertificate_seen seen
    exact ⟨read, ready, .inl ⟨now, act, invalid⟩⟩
  · rename_i now ready act
    refine .inl ⟨_, rfl, fun secret seen => .inr ?_⟩
    obtain ⟨read, managed, due⟩ := checkAndRotateCertificate_seen seen
    exact ⟨read, ready, .inr ⟨now, act, managed, due⟩⟩
  · rename_i generating _
    exact .inl ⟨_, rfl, fun secret seen => .inl (generating ▸ seen)⟩
  · exact .inl ⟨_, rfl, by simp [Stage.seen]⟩
  · rename_i looking _
    exact .inl ⟨_, rfl, fun secret seen => .inl (looking ▸ seen)⟩
  · rename_i work seen data found storing act
    cases stored : w.put (operator e.call) found data e.failure with
    | error text =>
      simp only [stored]
      exact .inl ⟨_, rfl, by simp [Stage.seen]⟩
    | ok secrets =>
      simp only [stored]
      obtain ⟨answered, there, rfl⟩ := put_eq_ok stored
      exact .inr ⟨work, seen, data, found, storing, act, answered, there, rfl⟩
  · refine .inl ⟨w.stage e.call, ?_, fun _ seen => .inl seen⟩
    simp [World.at]

/-- No call has read a secret of another deployment and goes on to replace it. -/
def SeesOwn (operator : Call → Operator) (w : World Call Bytes) : Prop :=
  ∀ call, ∀ secret ∈ (w.stage call).seen, ¬ Foreign (operator call) secret

omit [X509 Bytes] in
theorem seesOwn_at {w : World Call Bytes} (own : SeesOwn operator w) (call : Call) {stage : Stage Bytes}
    (seen : ∀ secret ∈ stage.seen, ¬ Foreign (operator call) secret) (secrets : Secrets Bytes) :
    SeesOwn operator ({ w with secrets }.at call stage) := by
  intro other secret
  by_cases same : other = call
  · subst same
    simpa [World.at] using seen secret
  · simpa [World.at, same] using own other secret
theorem step_seesOwn (own : SeesOwn operator w) (careful : Careful operator w e) : SeesOwn operator (step operator w e) := by
  rcases step_cases operator w e with ⟨stage, same, seen⟩ | ⟨_, _, data, _, -, -, -, -, same⟩
  · rw [same]
    refine seesOwn_at own e.call (fun secret inside foreign => ?_) w.secrets
    rcases seen secret inside with before | ⟨read, ready, ⟨now, act, invalid⟩ | ⟨now, act, managed, due⟩⟩
    · exact own e.call secret before foreign
    · simp only [Careful, ready, act] at careful
      simp [careful secret read foreign] at invalid
    · simp only [Careful, ready, act] at careful
      obtain ⟨identity, carried, alike⟩ := shouldManageSecret_foreign foreign managed
      rcases careful secret read foreign with apart | idle
      · simp [apart identity carried] at alike
      · simp [idle] at due
  · rw [same]
    exact seesOwn_at own e.call (by simp [Stage.seen]) _
omit [DecidableEq Call] in
/-- What is stored replaces a secret of another deployment only if the call has read such a secret, or is careless. -/
theorem not_foreign_of_careful (own : SeesOwn operator w) {work : Work} {seen : Option (Secret Bytes)} {data : Generated Bytes}
    {found : Bool} (storing : w.stage e.call = .storing work seen data found) (act : e.action = .store) (answered : e.failure = none)
    (there : (w.secrets (operator e.call).key).isSome = found) (careful : Careful operator w e) {secret : Secret Bytes}
    (stored : w.secrets (operator e.call).key = some secret) : ¬ Foreign (operator e.call) secret := by
  rintro ⟨identity, carried, other⟩
  obtain rfl : found = true := by simpa [stored] using there.symm
  simp only [Careful, storing, act, World.get, answered] at careful
  rcases careful secret stored identity carried with same | before
  · exact other same
  · obtain ⟨earlier, read, carries⟩ := Option.bind_eq_some_iff.mp before
    exact own e.call earlier (by rw [storing]; exact read) ⟨identity, carries, other⟩
/-- A careful step leaves the secrets of other deployments alone. -/
theorem step_respects (own : SeesOwn operator w) (careful : Careful operator w e) : Respects operator w e := by
  rcases step_cases operator w e with ⟨stage, same, -⟩ | ⟨work, seen, data, found, storing, act, answered, there, same⟩
  · have unchanged : (step operator w e).secrets = w.secrets := by rw [same, at_secrets]
    exact ⟨fun key secret stored _ => by rw [unchanged, stored], fun key changed => absurd (congrFun unchanged key) changed⟩
  · have changed : (step operator w e).secrets =
        Function.update w.secrets (operator e.call).key (some (newSecret (operator e.call) data)) := by rw [same, at_secrets]
    constructor
    · intro key secret stored foreign
      by_cases here : key = (operator e.call).key
      · subst here
        exact absurd foreign (not_foreign_of_careful own storing act answered there careful stored)
      · simpa [changed, here] using stored
    · intro key differs
      by_cases here : key = (operator e.call).key
      · subst here
        exact ⟨_, by simp [changed], managedBy_newSecret _ data⟩
      · simp [changed, here] at differs

/-! ### Runs -/

/-- In a run of careful steps no step touches a secret of another deployment. -/
theorem certificates_respected {start : World Call Bytes} (fresh : ∀ call, start.stage call = .ready)
    {events : List (Event Call Bytes)}
    (careful : ∀ before e, before ++ [e] <+: events → Careful operator (run (step operator) start before) e) :
    ∀ before e, before ++ [e] <+: events → Respects operator (run (step operator) start before) e := by
  have starts : SeesOwn operator start := by
    intro call
    simp [fresh, Stage.seen]
  have own := run_good starts (fun w e own careful => step_seesOwn own careful) careful
  intro before e early
  exact step_respects (own before ((List.prefix_append before [e]).trans early)) (careful before e early)

/-- The requests of a call that no other call comes between and none of which fails. -/
def alone (call : Call) (check : Action Bytes) (data : Generated Bytes) : List (Event Call Bytes) :=
  [⟨call, check, none⟩, ⟨call, .generate (.ok data), none⟩, ⟨call, .look, none⟩, ⟨call, .store, none⟩]

theorem alone_overwrites {call : Call} {check : Action Bytes} {work : Work} {secret : Secret Bytes}
    (leads : step operator w ⟨call, check, none⟩ = w.at call (.generating work (some secret)))
    (stored : w.secrets (operator call).key = some secret) (data : Generated Bytes) :
    (run (step operator) w (alone call check data)).secrets (operator call).key = some (newSecret (operator call) data) := by
  rw [run, alone, List.foldl_cons, leads]
  simp [step, World.at, World.get, World.put, put, stored]
/-- A careless check makes the call, if nothing comes between, replace the secret of another deployment. -/
theorem careless_check_overwrites {call : Call} (ready : w.stage call = .ready) {check : Action Bytes}
    (careless : ¬ Careful operator w ⟨call, check, none⟩) (data : Generated Bytes) :
    ∃ secret, w.secrets (operator call).key = some secret ∧ Foreign (operator call) secret ∧
      (run (step operator) w (alone call check data)).secrets (operator call).key = some (newSecret (operator call) data) := by
  cases check with
  | ensure now =>
    simp only [Careful, ready, World.get, not_forall] at careless
    obtain ⟨secret, stored, foreign, invalid⟩ := careless
    have leads : step operator w ⟨call, .ensure now, none⟩ = w.at call (.generating .ensure (some secret)) := by
      simp only [Option.mem_def] at stored
      simp [step, ready, World.get, stored, ensureCertificate, invalid]
    exact ⟨secret, stored, foreign, alone_overwrites leads stored data⟩
  | rotate now =>
    simp only [Careful, ready, World.get, not_forall, not_or] at careless
    obtain ⟨secret, stored, foreign, ⟨identity, carried, alike⟩, due⟩ := careless
    rw [Bool.not_eq_false] at alike due
    have managed : shouldManageSecret (operator call) secret = true := by
      obtain ⟨labels, labelled, found⟩ := Option.bind_eq_some_iff.mp carried
      simp [shouldManageSecret, labelled, found, alike]
    have leads : step operator w ⟨call, .rotate now, none⟩ = w.at call (.generating .rotation (some secret)) := by
      simp only [Option.mem_def] at stored
      simp [step, ready, World.get, stored, checkAndRotateCertificate, managed, due]
    exact ⟨secret, stored, foreign, alone_overwrites leads stored data⟩
  | generate generated => simp [Careful, ready] at careless
  | look => simp [Careful, ready] at careless
  | store => simp [Careful, ready] at careless
/-- A careless update replaces the secret of another deployment. -/
theorem careless_store_overwrites {call : Call} {work : Work} {seen : Option (Secret Bytes)} {data : Generated Bytes}
    {found : Bool} (storing : w.stage call = .storing work seen data found) {failure : Option String}
    (careless : ¬ Careful operator w ⟨call, .store, failure⟩) :
    ∃ secret, w.secrets (operator call).key = some secret ∧ Foreign (operator call) secret ∧
      (step operator w ⟨call, .store, failure⟩).secrets (operator call).key = some (newSecret (operator call) data) := by
  cases found with
  | false => simp [Careful, storing] at careless
  | true =>
    simp only [Careful, storing, not_forall, not_or] at careless
    obtain ⟨secret, stored, identity, carried, other, -⟩ := careless
    cases failure with
    | some text => simp [World.get] at stored
    | none =>
      simp only [World.get, Option.mem_def] at stored
      refine ⟨secret, stored, ⟨identity, carried, other⟩, ?_⟩
      simp [step, storing, World.put, put, stored]

end

/-! Two deployments in one namespace, with certificates that are read as the time until which they are valid. -/

def day : Int := 24 * hour
@[reducible] def times : X509 Int where
  decode := some
  parseCertificate notAfter := some { notAfter }
attribute [local instance] times
def deployments (beta : Bool) : Operator where
  hostname := if beta then "beta" else "alpha"
  nameSpace := "openlit"
  serviceName := "openlit-webhook"
  secretName := "openlit-webhook-tls"
  refreshThreshold := 30
def empty : World Bool Int := ⟨fun _ => none, fun _ => .ready⟩
def yearLong (now : Int) : Generated Int := ⟨now, now + 365 * day, now⟩

/-- The second deployment uses the certificate of the first. -/
theorem certificates_respected_shared :
    Respects deployments (run (step deployments) empty (alone false (.ensure 0) (yearLong 0))) ⟨true, .ensure day, none⟩ := by
  refine certificates_respected (fun _ => rfl) ?_ _ _ List.prefix_rfl
  refine forall_steps_cons (by rintro _ ⟨⟩) (forall_steps_cons trivial (forall_steps_cons trivial (forall_steps_cons trivial
    (forall_steps_cons ?_ forall_steps_nil))))
  rintro _ ⟨⟩ -
  decide

/-- The second deployment starts when the certificate of the first is about to expire, and replaces it. -/
theorem expiring_certificate_taken_over :
    ∃ before e, before ++ [e] <+: alone false (.ensure 0) (yearLong 0) ++ alone true (.ensure (340 * day)) (yearLong (340 * day)) ∧
      ¬ Respects deployments (run (step deployments) empty before) e := by
  refine ⟨alone false (.ensure 0) (yearLong 0) ++ (alone true (.ensure (340 * day)) (yearLong (340 * day))).take 3, _, ⟨[], rfl⟩, ?_⟩
  intro respects
  have kept := respects.foreign (deployments true).key _ rfl ⟨"alpha.openlit", rfl, by decide⟩
  cases kept

end Openlit.Certificates
