import Openlit.AgentPointers

/-!
Certificate requests of an agent to the OpAMP server (`data/agent.go`,
`certman.go`): a report is processed under the lock of the agent, and where it
asks for a certificate, the request is decoded, checked and signed before the
lock is released. A request whose signature does not verify makes the server
panic while it holds the lock. The certificate authority is loaded, and
notifications are left out.
-/
namespace Openlit.CertificateRequests
open Openlit.AgentStatus Openlit.AgentPointers

variable {Description Packages Csr Name Key : Type}

/-! ### Requests and responses -/

structure CertificateRequest where
  csr : Bytes
structure OpAMPConnectionSettingsRequest where
  certificateRequest : Option CertificateRequest := none
structure ConnectionSettingsRequest where
  opamp : Option OpAMPConnectionSettingsRequest := none
/-- A report, with what it asks for. -/
structure Report (Description Packages : Type) where
  status : AgentToServer Description Packages
  connectionSettingsRequest : Option ConnectionSettingsRequest := none

/-- A report that asks for a certificate. -/
def requesting (status : AgentToServer Description Packages) (bytes : Bytes) : Report Description Packages where
  status := status
  connectionSettingsRequest := some { opamp := some { certificateRequest := some { csr := bytes } } }

structure TLSCertificate where
  cert : Bytes
  privateKey : Bytes := []
  caCert : Bytes
structure OpAMPConnectionSettings where
  destinationEndpoint : String := ""
  certificate : Option TLSCertificate
/-- `protobufs.ConnectionSettingsOffers`. Of the metrics the endpoint is kept. -/
structure Offers where
  hash : Bytes := []
  opamp : Option OpAMPConnectionSettings := none
  ownMetrics : Option String := none
inductive ServerErrorResponseType
  | unknown | badRequest | unavailable
  deriving DecidableEq
structure ServerErrorResponse where
  type : ServerErrorResponseType
  errorMessage : String
/-- `protobufs.ServerToAgent`, with what a request can add to it. -/
structure Response where
  flags : BitVec 64 := 0
  remoteConfig : Option AgentRemoteConfig := none
  connectionSettings : Option Offers := none
  errorResponse : Option ServerErrorResponse := none

/-- The response to a report before its request is processed. -/
def Response.of (response : ServerToAgent) : Response where
  flags := response.flags
  remoteConfig := response.remoteConfig
  connectionSettings := response.connectionSettings.map fun offers => { hash := offers.hash, ownMetrics := some offers.ownMetrics }

/-- `hashEndpoint`: the bytes of an endpoint without headers and other settings. -/
def endpointBytes (destinationEndpoint : String) (certificate : Option TLSCertificate) : Bytes :=
  destinationEndpoint.toUTF8.toList ++
    (certificate.map fun certificate => certificate.cert ++ certificate.privateKey ++ certificate.caCert).getD []
def toHash [Hashing] (offers : Offers) : Bytes :=
  Hashing.sha256 ((offers.opamp.map fun opamp => endpointBytes opamp.destinationEndpoint opamp.certificate).getD [] ++
    (offers.ownMetrics.map fun endpoint => endpointBytes endpoint none).getD [])

/-- Another type of error is not overwritten. -/
def addErrorResponse (errMsg : String) (response : Response) : Response :=
  match response.errorResponse with
  | none => { response with errorResponse := some { type := .badRequest, errorMessage := errMsg } }
  | some error =>
    if error.type = .badRequest then
      { response with errorResponse := some { error with errorMessage := error.errorMessage ++ errMsg } }
    else response

@[simp] theorem addErrorResponse_errorResponse (errMsg : String) (response : Response) :
    (addErrorResponse errMsg response).errorResponse ≠ none := by
  cases known : response.errorResponse with
  | none => simp [addErrorResponse, known]
  | some error => by_cases bad : error.type = .badRequest <;> simp [addErrorResponse, known, bad]
@[simp] theorem addErrorResponse_connectionSettings (errMsg : String) (response : Response) :
    (addErrorResponse errMsg response).connectionSettings = response.connectionSettings := by
  cases known : response.errorResponse with
  | none => simp [addErrorResponse, known]
  | some error => by_cases bad : error.type = .badRequest <;> simp [addErrorResponse, known, bad]

/-! ### Certificates -/

/-- What a client's certificate is made of. Times are in nanoseconds. -/
structure Template (Name : Type) where
  serialNumber : Nat := 1
  ipAddresses : List String := ["127.0.0.1"]
  notBefore : Int
  notAfter : Int
  extKeyUsage : List String := ["clientAuth", "serverAuth"]
  keyUsage : String := "digitalSignature"
  subject : Name

/-- `encoding/pem` and `crypto/x509` with the certificate and the key of the
    authority. An error is its text, and a check without an error is `none`. -/
class X509 (Csr Name Key : outParam Type) where
  decode : Bytes → Option Bytes
  encode : Bytes → Bytes
  parseCertificateRequest : Bytes → Except String Csr
  checkSignature : Csr → Option String
  subject : Csr → Name
  commonName : Name → String
  publicKey : Csr → Key
  createCertificate : Template Name → Key → Except String Bytes
  caCertBytes : Bytes

section
variable [X509 Csr Name Key]

def createClientTLSCertTemplate (now : Int) (subject : Name) : Template Name where
  notBefore := now
  notAfter := now + 1000 * 60 * 60 * 1000000000
  subject := subject
def createClientTLSCertFromCSR (now : Int) (csr : Csr) : Except String TLSCertificate :=
  match X509.createCertificate (createClientTLSCertTemplate now (X509.subject csr)) (X509.publicKey csr) with
  | .error err => .error ("cannot create certificate: " ++ err)
  | .ok certBytes => .ok { cert := X509.encode certBytes, caCert := X509.caCertBytes }

/-! ### Processing -/

/-- Why a call does not return: it follows a nil pointer, or asks a nil error for its text. -/
inductive Panic
  | nilPointer (pointer : NilPointer)
  | nilError
  deriving DecidableEq

/-- `err.Error()`. -/
def errorText : Option String → Except Panic String
  | some text => .ok text
  | none => .error .nilError

def processConnectionSettingsRequest [Hashing] (now : Int) (request : Option OpAMPConnectionSettingsRequest)
    (response : Response) : Except Panic Response :=
  match request.bind (·.certificateRequest) with
  | none => .ok response
  | some certificateRequest =>
    match X509.decode certificateRequest.csr with
    | none => .ok (addErrorResponse "Failed to decode PEM certificate request" response)
    | some csrDer =>
      match X509.parseCertificateRequest csrDer with
      | .error err => .ok (addErrorResponse ("Failed to parse received certificate request: " ++ err) response)
      | .ok csr =>
        -- The error of the parser, which the result of the check is compared with.
        let err : Option String := none
        if X509.checkSignature csr ≠ err then
          (errorText err).map fun text => addErrorResponse ("Certificate request signature check failed: " ++ text) response
        else if X509.commonName (X509.subject csr) ≠ "OpAMP Example Client" then
          .ok (addErrorResponse "Invalid CommonName in certificate request" response)
        else
          match createClientTLSCertFromCSR now csr with
          | .error err => .ok (addErrorResponse ("Failed to create client certificate from CSR: " ++ err) response)
          | .ok certificate =>
            let offers := { response.connectionSettings.getD {} with opamp := some { certificate := some certificate } }
            .ok { response with connectionSettings := some { offers with hash := toHash offers } }

/-- Where a call to `UpdateStatus` has got to, returned or not. -/
structure Call (Description Packages : Type) where
  agent : Agent Description Packages
  response : Response
  locked : Bool
  panic : Option Panic := none

/-- `UpdateStatus` once it has the lock, which no panic releases. -/
def updateStatus [DecidableEq Description] [Hashing] (now : Int) (agent : Agent Description Packages)
    (statusMsg : Report Description Packages) : Call Description Packages :=
  match AgentPointers.processStatusUpdate agent statusMsg.status {} with
  | .error pointer => { agent := agent, response := {}, locked := true, panic := some (.nilPointer pointer) }
  | .ok (after, response) =>
    match statusMsg.connectionSettingsRequest with
    | none => { agent := after, response := .of response, locked := false }
    | some request =>
      match processConnectionSettingsRequest now request.opamp (.of response) with
      | .error panic => { agent := after, response := .of response, locked := true, panic := some panic }
      | .ok response => { agent := after, response := response, locked := false }

/-! ### What a request gets -/

/-- The certificate that a response offers. -/
def offered (response : Response) : Option TLSCertificate :=
  response.connectionSettings.bind fun offers => offers.opamp.bind (·.certificate)
/-- The request that some bytes encode. -/
def Encodes (bytes : Bytes) (csr : Csr) : Prop :=
  ∃ csrDer, X509.decode bytes = some csrDer ∧ X509.parseCertificateRequest csrDer = .ok csr
/-- A certificate that the authority signed for the subject and the key of a request. -/
def SignedFor (now : Int) (csr : Csr) (certificate : TLSCertificate) : Prop :=
  ∃ certBytes, X509.createCertificate (createClientTLSCertTemplate now (X509.subject csr)) (X509.publicKey csr) = .ok certBytes ∧
    certificate = { cert := X509.encode certBytes, caCert := X509.caCertBytes }

/-- A response offers a certificate for a request or reports an error, and it offers one only if the request verifies. -/
structure Settled (now : Int) (bytes : Bytes) (response : Response) : Prop where
  answered : (∃ csr certificate, Encodes bytes csr ∧ offered response = some certificate ∧ SignedFor now csr certificate) ∨
    response.errorResponse ≠ none
  verified : ∀ certificate, offered response = some certificate → ∃ csr, Encodes bytes csr ∧ X509.checkSignature csr = none
/-- A call has returned with the lock released, and its response settles the request. -/
structure Served (now : Int) (bytes : Bytes) (call : Call Description Packages) : Prop where
  returned : call.panic = none
  released : call.locked = false
  settled : Settled now bytes call.response

theorem settled_addErrorResponse (now : Int) (bytes : Bytes) (errMsg : String) {response : Response}
    (unoffered : offered response = none) : Settled now bytes (addErrorResponse errMsg response) := by
  refine ⟨.inr (addErrorResponse_errorResponse errMsg response), ?_⟩
  intro certificate given
  rw [offered, addErrorResponse_connectionSettings, ← offered, unoffered] at given
  cases given

variable [Hashing]

/-- A request is settled, unless it parses and does not verify. -/
theorem process_settled (now : Int) (bytes : Bytes) {response : Response} (unoffered : offered response = none)
    (sound : ∀ csr : Csr, Encodes bytes csr → X509.checkSignature csr = none) :
    ∃ after, processConnectionSettingsRequest now (some { certificateRequest := some { csr := bytes } }) response = .ok after ∧
      Settled now bytes after := by
  simp only [processConnectionSettingsRequest, Option.bind_some]
  cases decoded : X509.decode bytes with
  | none => exact ⟨_, rfl, settled_addErrorResponse now bytes _ unoffered⟩
  | some csrDer =>
    dsimp only
    cases parsed : X509.parseCertificateRequest csrDer with
    | error err => exact ⟨_, rfl, settled_addErrorResponse now bytes _ unoffered⟩
    | ok csr =>
      have encodes : Encodes bytes csr := ⟨csrDer, decoded, parsed⟩
      have checked := sound csr encodes
      simp only [checked, ne_eq, not_true_eq_false, if_false]
      by_cases named : X509.commonName (X509.subject csr) = "OpAMP Example Client"
      · simp only [named, not_true_eq_false, if_false]
        cases created : X509.createCertificate (createClientTLSCertTemplate now (X509.subject csr)) (X509.publicKey csr) with
        | error err =>
          simp only [createClientTLSCertFromCSR, created]
          exact ⟨_, rfl, settled_addErrorResponse now bytes _ unoffered⟩
        | ok certBytes =>
          simp only [createClientTLSCertFromCSR, created]
          refine ⟨_, rfl, .inl ⟨csr, _, encodes, rfl, certBytes, created, rfl⟩, ?_⟩
          exact fun _ _ => ⟨csr, encodes, checked⟩
      · simp only [named, not_false_eq_true, if_true]
        exact ⟨_, rfl, settled_addErrorResponse now bytes _ unoffered⟩
/-- A request that does not verify asks for the text of the error that the parser did not have. -/
theorem process_unverified (now : Int) {bytes : Bytes} (response : Response) {csr : Csr} (encodes : Encodes bytes csr)
    (failed : X509.checkSignature csr ≠ none) :
    processConnectionSettingsRequest now (some { certificateRequest := some { csr := bytes } }) response = .error .nilError := by
  obtain ⟨csrDer, decoded, parsed⟩ := encodes
  simp only [processConnectionSettingsRequest, Option.bind_some, decoded, parsed, failed, ne_eq, not_false_eq_true, if_true]
  rfl

omit [X509 Csr Name Key] [Hashing] in
/-- Without a request, a response offers no certificate. -/
theorem offered_of (response : ServerToAgent) : offered (.of response) = none := by
  cases settings : response.connectionSettings <;> simp [offered, Response.of, settings]

/-- The server panics while it processes a request that does not verify. -/
theorem not_served_of_unverified [DecidableEq Description] {persisted : Option Bytes}
    {events : List (Event Description Packages)} {now : Int} {status : AgentToServer Description Packages} {bytes : Bytes} {csr : Csr}
    (encodes : Encodes bytes csr) (failed : X509.checkSignature csr ≠ none) :
    ¬ Served now bytes (updateStatus now (live persisted events) (requesting status bytes)) := by
  intro served
  have returned := served.returned
  have processed := processStatusUpdate_ok (kept_live persisted events).2 status {}
  simp only [updateStatus, requesting, processed, process_unverified now _ encodes failed] at returned
  cases returned

/-- A request for a certificate is served exactly if it does not parse, or its signature verifies. -/
theorem request_served_iff [DecidableEq Description] (persisted : Option Bytes) (events : List (Event Description Packages)) (now : Int)
    (status : AgentToServer Description Packages) (bytes : Bytes) :
    Served now bytes (updateStatus now (live persisted events) (requesting status bytes)) ↔
      ∀ csr : Csr, Encodes bytes csr → X509.checkSignature csr = none := by
  constructor
  · intro served csr encodes
    by_contra failed
    exact not_served_of_unverified encodes failed served
  · intro sound
    have processed := processStatusUpdate_ok (kept_live persisted events).2 status {}
    simp only [updateStatus, requesting, processed]
    obtain ⟨after, done, settled⟩ := process_settled now bytes
      (offered_of (AgentStatus.processStatusUpdate (live persisted events) status {}).2) sound
    simp only [done]
    exact ⟨rfl, rfl, settled⟩

end

/-! ### A request that does not verify -/

/-- A request for an Ed25519 key, with one bit of its signature changed. -/
def changedRequest : Bytes :=
  String.toUTF8 ("-----BEGIN CERTIFICATE REQUEST-----\n" ++
    "MIGeMFICAQAwHzEdMBsGA1UEAwwUT3BBTVAgRXhhbXBsZSBDbGllbnQwKjAFBgMr\n" ++
    "ZXADIQC0dYj7QQUfgbQGVPF9GHhk62zxCfLhkY7kiWrdxuW4SKAAMAUGAytlcANB\n" ++
    "AHTDWZGo8MQKo4J1C0ROXhrxkQdY08va5RBJ05tl5O4x4W57Liuh1p0nQy9ABTzh\n" ++
    "wMOKydp0hIPRcfPkJV9tNg8=\n-----END CERTIFICATE REQUEST-----\n") |>.toList
/-- The library for that request, with its bytes left out. -/
@[reducible] def checking : X509 Unit String Unit where
  decode bytes := if bytes = changedRequest then some [] else none
  encode := id
  parseCertificateRequest _ := .ok ()
  checkSignature _ := some "x509: Ed25519 verification failure"
  subject _ := "OpAMP Example Client"
  commonName := id
  publicKey := id
  createCertificate _ _ := .ok []
  caCertBytes := []

theorem decode_changed {bytes : Bytes} (same : bytes = changedRequest) : checking.decode bytes = some [] := if_pos same

theorem request_panics : ¬ ∀ [X509 Unit String Unit] [Hashing] (now : Int) (status : AgentToServer Unit Unit) (bytes : Bytes),
    Served now bytes (updateStatus now (live none []) (requesting status bytes)) := by
  intro all
  let _ := checking
  let _ : Hashing := ⟨fun _ => []⟩
  let status : AgentToServer Unit Unit := { sequenceNum := 0, capabilities := 0 }
  have encodes : Encodes changedRequest () := ⟨[], decode_changed rfl, rfl⟩
  exact not_served_of_unverified encodes (by simp) (all 0 status changedRequest)

end Openlit.CertificateRequests
