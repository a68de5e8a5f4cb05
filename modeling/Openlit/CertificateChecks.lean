import Openlit.Certificates

/-!
The two checks of a certificate: that of the start-up, which asks whether it is
valid for long enough, and that of the rotation, which asks whether a reason to
replace it is there. Only the second looks at the names, and they differ at the
last instant that is long enough (`checks_agree_iff`).
-/
namespace Openlit.CertificateChecks
open Openlit.Certificates

variable {Bytes : Type} [X509 Bytes]

/-- The certificate that a secret holds, where it can be read. -/
def certificateOf (secret : Secret Bytes) : Option Certificate :=
  ((secret.data.lookup "tls.crt").bind X509.decode).bind X509.parseCertificate
/-- A name of the certificate is that of the webhook's service. -/
def named (cm : Operator) (cert : Certificate) : Bool :=
  let expectedDNS := cm.serviceName ++ "." ++ cm.nameSpace ++ ".svc"
  cert.dnsNames.any fun dnsName => dnsName == expectedDNS || dnsName == expectedDNS ++ ".cluster.local"

theorem isCertificateValid_eq (cm : Operator) (secret : Secret Bytes) (now : Int) :
    isCertificateValid cm secret now = (certificateOf secret).any fun cert => now + threshold cm < cert.notAfter := by
  unfold isCertificateValid certificateOf
  cases secret.data.lookup "tls.crt" with
  | none => rfl
  | some certPEM =>
    cases decoded : X509.decode certPEM with
    | none => simp [decoded]
    | some certBlock => cases parsed : X509.parseCertificate certBlock <;> simp [decoded, parsed]
theorem needsCertificateRotation_eq (cm : Operator) (secret : Secret Bytes) (now : Int) :
    (needsCertificateRotation cm secret now).1 = (certificateOf secret).all fun cert =>
      cert.notAfter < now || cert.notAfter < now + threshold cm || !named cm cert := by
  unfold needsCertificateRotation certificateOf
  cases secret.data.lookup "tls.crt" with
  | none => rfl
  | some certPEM =>
    cases decoded : X509.decode certPEM with
    | none => simp [decoded]
    | some certBlock =>
      cases parsed : X509.parseCertificate certBlock with
      | none => simp [decoded, parsed]
      | some cert =>
        simp only [decoded, parsed, Option.bind_some, Option.all_some, named]
        split_ifs <;> simp_all

/-- The checks say the same of a secret; its own calls replace it both or neither, and both do where the names are wrong. -/
structure ChecksAgree (cm : Operator) (secret : Secret Bytes) (now : Int) : Prop where
  agree : isCertificateValid cm secret now = true ↔ (needsCertificateRotation cm secret now).1 = false
  replaced : shouldManageSecret cm secret = true →
    (ensureCertificate cm (some secret) now = .generating .ensure (some secret) ↔
      checkAndRotateCertificate cm (some secret) now = .generating .rotation (some secret))
  unusable : ∀ cert ∈ certificateOf secret, named cm cert = false →
    isCertificateValid cm secret now = false ∧ (needsCertificateRotation cm secret now).1 = true
/-- A certificate that is valid for longer than the threshold has not expired and has the right name;
    one that is valid for just as long has expired or has a wrong name. -/
def SameVerdict (cm : Operator) (cert : Certificate) (now : Int) : Prop :=
  (now + threshold cm < cert.notAfter → now ≤ cert.notAfter ∧ named cm cert = true) ∧
    (now + threshold cm = cert.notAfter → cert.notAfter < now ∨ named cm cert = false)

theorem agree_iff (cm : Operator) (secret : Secret Bytes) (now : Int) :
    (isCertificateValid cm secret now = true ↔ (needsCertificateRotation cm secret now).1 = false) ↔
      ∀ cert ∈ certificateOf secret, SameVerdict cm cert now := by
  rw [isCertificateValid_eq, needsCertificateRotation_eq]
  cases certificateOf secret with
  | none => simp
  | some cert =>
    simp only [Option.any_some, Option.all_some, SameVerdict, Option.mem_some_iff, forall_eq', decide_eq_true_eq,
      Bool.or_eq_false_iff, decide_eq_false_iff_not, Bool.not_eq_false']
    by_cases right : named cm cert = true
    · simp only [right, and_true, Bool.true_eq_false, or_false]
      omega
    · simp only [Bool.not_eq_true] at right
      simp only [right, Bool.false_eq_true, and_false, iff_false, or_true, implies_true, and_true]

/-- A call of the start-up or of the rotation goes on to replace the secret exactly if its check says so. -/
theorem ensureCertificate_replaces (cm : Operator) (secret : Secret Bytes) (now : Int) :
    ensureCertificate cm (some secret) now = .generating .ensure (some secret) ↔ isCertificateValid cm secret now = false := by
  by_cases valid : isCertificateValid cm secret now = true
  · simp [ensureCertificate, valid]
  · simp [ensureCertificate, valid]
theorem checkAndRotateCertificate_replaces {cm : Operator} {secret : Secret Bytes} (managed : shouldManageSecret cm secret = true)
    (now : Int) : checkAndRotateCertificate cm (some secret) now = .generating .rotation (some secret) ↔
      (needsCertificateRotation cm secret now).1 = true := by
  by_cases due : (needsCertificateRotation cm secret now).1 = true
  · simp [checkAndRotateCertificate, managed, due]
  · simp [checkAndRotateCertificate, managed, due]

/-- For every secret and instant the checks agree exactly if the certificate, if there is one, gives them no reason to differ. -/
theorem checks_agree_iff (cm : Operator) (secret : Secret Bytes) (now : Int) :
    ChecksAgree cm secret now ↔ ∀ cert ∈ certificateOf secret, SameVerdict cm cert now := by
  rw [← agree_iff]
  constructor
  · intro agreed
    exact agreed.agree
  · intro agree
    refine ⟨agree, ?_, ?_⟩
    · intro managed
      rw [ensureCertificate_replaces, checkAndRotateCertificate_replaces managed, ← Bool.not_eq_true, agree, Bool.not_eq_false]
    · intro cert held wrong
      have due : (needsCertificateRotation cm secret now).1 = true := by
        rw [needsCertificateRotation_eq, Option.mem_def.mp held]
        simp [wrong]
      refine ⟨?_, due⟩
      rw [← Bool.not_eq_true, agree, due]
      simp

/-- Certificates that are stored as they are read. -/
@[reducible] def asRead : X509 Certificate where
  decode := some
  parseCertificate := some
attribute [local instance] asRead
def webhookOperator : Operator :=
  { nameSpace := "openlit", serviceName := "openlit-webhook", secretName := "openlit-webhook-tls", refreshThreshold := 30 }
/-- A year-long certificate of another service. -/
def misnamed : Secret Certificate where
  data := [("tls.crt", { notAfter := 365 * day, dnsNames := ["other.openlit.svc"] })]

/-- The start-up keeps a certificate that the webhook cannot use, and the rotation replaces it. -/
theorem misnamed_certificate_kept :
    isCertificateValid webhookOperator misnamed 0 = true ∧
      needsCertificateRotation webhookOperator misnamed 0 = (true, "certificate_invalid_dns_names") ∧
      ¬ ChecksAgree webhookOperator misnamed 0 := by
  have kept : isCertificateValid webhookOperator misnamed 0 = true := by decide
  have due : needsCertificateRotation webhookOperator misnamed 0 = (true, "certificate_invalid_dns_names") := by decide
  refine ⟨kept, due, ?_⟩
  intro agreed
  have idle := agreed.agree.mp kept
  simp [due] at idle

end Openlit.CertificateChecks
