import Mathlib.Data.List.Perm.Basic
import Openlit.CertificateRequests

/-!
The hashes of connection settings that the OpAMP server offers (`data/agents.go`).
An agent takes an offer with the hash of the last one for the same offer. The
hash is taken over some of the texts of an offer, one written after another with
nothing between them, and over the other connections in the order in which a
map is walked (`offers_told_apart_iff`).
-/
namespace Openlit.ConnectionOffers
open Openlit.AgentStatus Openlit.CertificateRequests

/-! ### Offers -/

structure Header where
  key : String
  value : String
  deriving DecidableEq
structure TLSConnectionSettings where
  caPemContents : String := ""
  includeSystemCaCertsPool : Bool := false
  insecureSkipVerify : Bool := false
  minVersion : String := ""
  maxVersion : String := ""
  cipherSuites : List String := []
  deriving DecidableEq
/-- The settings of one connection, as far as the interface `endpoint` gives them. -/
structure ConnectionSettings where
  destinationEndpoint : String := ""
  headers : Option (List Header) := none
  certificate : Option TLSCertificate := none
  tls : Option TLSConnectionSettings := none
/-- `protobufs.ConnectionSettingsOffers` without its hash. The other connections are a map. -/
structure ConnectionSettingsOffers where
  opamp : Option ConnectionSettings := none
  ownMetrics : Option ConnectionSettings := none
  ownTraces : Option ConnectionSettings := none
  ownLogs : Option ConnectionSettings := none
  otherConnections : List (String × ConnectionSettings) := []
  distinct : (otherConnections.map Prod.fst).Nodup := by decide

/-- `[]byte`. -/
def bytes (text : String) : Bytes := text.toUTF8.data.toList
def hashEndpoint (e : ConnectionSettings) : Bytes :=
  bytes e.destinationEndpoint ++
    (e.headers.getD []).flatMap (fun header => bytes (header.key ++ header.value)) ++
    (e.certificate.map fun cert => cert.cert ++ cert.privateKey ++ cert.caCert).getD [] ++
    (e.tls.map (bytes ·.caPemContents)).getD []
/-- What is written for one of the other connections. -/
def hashOther (entry : String × ConnectionSettings) : Bytes := bytes entry.1 ++ hashEndpoint entry.2
/-- What is written for the settings that have a field of their own. -/
def hashOwn (c : ConnectionSettingsOffers) : Bytes :=
  (c.opamp.map hashEndpoint).getD [] ++ (c.ownMetrics.map hashEndpoint).getD [] ++ (c.ownTraces.map hashEndpoint).getD [] ++
    (c.ownLogs.map hashEndpoint).getD []
/-- All that is written if the other connections are walked in the order `walk`. -/
def written (c : ConnectionSettingsOffers) (walk : List (String × ConnectionSettings)) : Bytes :=
  hashOwn c ++ walk.flatMap hashOther
def toHash [Hashing] (c : ConnectionSettingsOffers) (walk : List (String × ConnectionSettings)) : Bytes :=
  Hashing.sha256 (written c walk)

/-- The offers are the same in every field. -/
structure SameOffers (a b : ConnectionSettingsOffers) : Prop where
  opamp : a.opamp = b.opamp
  ownMetrics : a.ownMetrics = b.ownMetrics
  ownTraces : a.ownTraces = b.ownTraces
  ownLogs : a.ownLogs = b.ownLogs
  otherConnections : a.otherConnections.Perm b.otherConnections

/-- The hash of an offer does not depend on the walk. -/
def Unordered [Hashing] (c : ConnectionSettingsOffers) : Prop :=
  ∀ walk other, walk.Perm c.otherConnections → other.Perm c.otherConnections → toHash c walk = toHash c other
/-- The hashes of two offers are each the same for every walk, and the same if and only if the offers are. -/
structure ToldApart [Hashing] (a b : ConnectionSettingsOffers) : Prop where
  left : Unordered a
  right : Unordered b
  equal : ∀ walk other, walk.Perm a.otherConnections → other.Perm b.otherConnections →
    (toHash a walk = toHash b other ↔ SameOffers a b)

/-- The fields of one connection that count for the hash, each as a text of its own. -/
def hashedTexts (e : ConnectionSettings) : List Bytes :=
  bytes e.destinationEndpoint ::
    (e.headers.getD []).flatMap (fun header => [bytes header.key, bytes header.value]) ++
    (e.certificate.map fun cert => [cert.cert, cert.privateKey, cert.caCert]).getD [] ++
    (e.tls.map ([bytes ·.caPemContents])).getD []
def otherTexts (entry : String × ConnectionSettings) : List Bytes := bytes entry.1 :: hashedTexts entry.2
/-- The texts of an offer that count for the hash. -/
def offerTexts (c : ConnectionSettingsOffers) : List Bytes :=
  (c.opamp.map hashedTexts).getD [] ++ (c.ownMetrics.map hashedTexts).getD [] ++ (c.ownTraces.map hashedTexts).getD [] ++
    (c.ownLogs.map hashedTexts).getD [] ++ c.otherConnections.flatMap otherTexts

/-- The texts of any two of the other connections are joined to the same in both orders. -/
def Commuting (c : ConnectionSettingsOffers) : Prop :=
  ∀ x ∈ c.otherConnections, ∀ y ∈ c.otherConnections,
    (otherTexts x ++ otherTexts y).flatten = (otherTexts y ++ otherTexts x).flatten
/-- The texts of different offers differ also when they are joined with nothing between them. -/
structure Spelled (a b : ConnectionSettingsOffers) : Prop where
  left : Commuting a
  right : Commuting b
  apart : ¬ SameOffers a b → (offerTexts a).flatten ≠ (offerTexts b).flatten

/-! ### Pieces in any order -/

section
variable {α β : Type} {f : α → List β}

theorem flatMap_perm {xs ys : List α} (commute : ∀ x ∈ xs, ∀ y ∈ xs, f x ++ f y = f y ++ f x) (same : xs.Perm ys) :
    xs.flatMap f = ys.flatMap f := by
  induction same with
  | nil => rfl
  | cons x _ ih =>
    rw [List.flatMap_cons, List.flatMap_cons, ih]
    intro y member z also
    exact commute y (List.mem_cons_of_mem _ member) z (List.mem_cons_of_mem _ also)
  | swap x y rest =>
    have swapped := commute y (by simp) x (by simp)
    simp only [List.flatMap_cons, ← List.append_assoc, swapped]
  | trans first _ ihFirst ihSecond =>
    rw [ihFirst commute]
    apply ihSecond
    intro x member y also
    exact commute x (first.mem_iff.mpr member) y (first.mem_iff.mpr also)
theorem exists_perm_cons {x : α} {xs : List α} (member : x ∈ xs) : ∃ rest, (x :: rest).Perm xs ∧ ∀ y ∈ xs, y = x ∨ y ∈ rest := by
  obtain ⟨before, after, rfl⟩ := List.append_of_mem member
  refine ⟨before ++ after, List.perm_middle.symm, ?_⟩
  intro y also
  simpa [or_left_comm] using also
/-- The order of pieces does not count exactly if any two of them commute. -/
theorem flatMap_perm_iff (xs : List α) :
    (∀ walk other : List α, walk.Perm xs → other.Perm xs → walk.flatMap f = other.flatMap f) ↔
      ∀ x ∈ xs, ∀ y ∈ xs, f x ++ f y = f y ++ f x := by
  constructor
  · intro unordered x member y also
    obtain ⟨rest, first, others⟩ := exists_perm_cons member
    rcases others y also with rfl | later
    · rfl
    · obtain ⟨more, second, -⟩ := exists_perm_cons later
      have forth : (x :: y :: more).Perm xs := (second.cons x).trans first
      have back : (y :: x :: more).Perm xs := (List.Perm.swap x y more).trans forth
      have same := unordered _ _ forth back
      simpa only [List.flatMap_cons, ← List.append_assoc, List.append_cancel_right_eq] using same
  · intro commute walk other first second
    rw [← flatMap_perm commute first.symm, ← flatMap_perm commute second.symm]

end

/-! ### What is written -/

theorem bytes_append (s t : String) : bytes (s ++ t) = bytes s ++ bytes t := ByteArray.toList_data_append
theorem hashEndpoint_eq (e : ConnectionSettings) : hashEndpoint e = (hashedTexts e).flatten := by
  have headers (hs : List Header) : hs.flatMap (fun header => bytes (header.key ++ header.value)) =
      (hs.flatMap fun header => [bytes header.key, bytes header.value]).flatten := by
    induction hs with
    | nil => rfl
    | cons header rest ih =>
      rw [List.flatMap_cons, List.flatMap_cons, List.flatten_append, ih, bytes_append]
      simp
  have certificates (cert : Option TLSCertificate) : (cert.map fun cert => cert.cert ++ cert.privateKey ++ cert.caCert).getD [] =
      ((cert.map fun cert => [cert.cert, cert.privateKey, cert.caCert]).getD []).flatten := by
    cases cert <;> simp
  have contents (tls : Option TLSConnectionSettings) : (tls.map (bytes ·.caPemContents)).getD [] =
      ((tls.map ([bytes ·.caPemContents])).getD []).flatten := by
    cases tls <;> simp
  rw [hashEndpoint, hashedTexts, headers, certificates, contents, List.flatten_append, List.flatten_append, List.flatten_cons]
theorem hashOther_eq (entry : String × ConnectionSettings) : hashOther entry = (otherTexts entry).flatten := by
  rw [hashOther, hashEndpoint_eq, otherTexts, List.flatten_cons]
theorem written_eq (c : ConnectionSettingsOffers) : written c c.otherConnections = (offerTexts c).flatten := by
  have part (e : Option ConnectionSettings) : (e.map hashEndpoint).getD [] = ((e.map hashedTexts).getD []).flatten := by
    cases e with
    | none => rfl
    | some e => exact hashEndpoint_eq e
  have others (cs : List (String × ConnectionSettings)) : cs.flatMap hashOther = (cs.flatMap otherTexts).flatten := by
    induction cs with
    | nil => rfl
    | cons entry rest ih => rw [List.flatMap_cons, List.flatMap_cons, List.flatten_append, hashOther_eq, ih]
  simp only [written, hashOwn, offerTexts, part, others, List.flatten_append]
theorem commuting_iff (c : ConnectionSettingsOffers) :
    Commuting c ↔ ∀ x ∈ c.otherConnections, ∀ y ∈ c.otherConnections, hashOther x ++ hashOther y = hashOther y ++ hashOther x := by
  simp only [Commuting, hashOther_eq, List.flatten_append]
/-- Settings that differ only in what is not hashed. -/
theorem exists_unhashed (e : ConnectionSettings) : ∃ other, other ≠ e ∧ hashEndpoint other = hashEndpoint e := by
  cases settings : e.tls with
  | none =>
    refine ⟨{ e with tls := some {} }, ?_, ?_⟩
    · intro same
      rw [← same] at settings
      cases settings
    · have empty : bytes "" = [] := rfl
      simp [hashEndpoint, settings, empty]
  | some tls =>
    refine ⟨{ e with tls := some { tls with insecureSkipVerify := !tls.insecureSkipVerify } }, ?_, ?_⟩
    · intro same
      rw [← same] at settings
      have skips : (!tls.insecureSkipVerify) = tls.insecureSkipVerify := congrArg (·.insecureSkipVerify) (Option.some.inj settings)
      simp at skips
    · simp [hashEndpoint, settings]

/-! ### When the hashes tell offers apart -/

section
variable [Hashing]

theorem unordered_iff (injective : Function.Injective Hashing.sha256) (c : ConnectionSettingsOffers) :
    Unordered c ↔ Commuting c := by
  rw [commuting_iff, ← flatMap_perm_iff]
  constructor
  · intro unordered walk other first second
    exact List.append_cancel_left (injective (unordered walk other first second))
  · intro same walk other first second
    rw [toHash, toHash, written, written, same walk other first second]

/-- No offer has a hash of its own. -/
theorem hash_shared (c : ConnectionSettingsOffers) :
    ∃ other, ¬ SameOffers c other ∧ ∀ walk, toHash other walk = toHash c walk := by
  have empty : hashEndpoint {} = [] := rfl
  cases settings : c.opamp with
  | none =>
    refine ⟨{ c with opamp := some {} }, ?_, ?_⟩
    · intro same
      have opamp := same.opamp
      simp [settings] at opamp
    · intro walk
      simp [toHash, written, hashOwn, settings, empty]
  | some e =>
    obtain ⟨other, different, hashed⟩ := exists_unhashed e
    refine ⟨{ c with opamp := some other }, ?_, ?_⟩
    · intro same
      have opamp := same.opamp
      rw [settings] at opamp
      exact different (Option.some.inj opamp).symm
    · intro walk
      simp [toHash, written, hashOwn, settings, hashed]

end

/-! ### The offers of the user interface -/

/-- `handleConnectionSettings`: the certificate of the server and the range of TLS versions. -/
def tlsOffer (opampCA tlsMin : String) : ConnectionSettingsOffers where
  opamp := some { tls := some { caPemContents := opampCA, minVersion := tlsMin, maxVersion := "1.3" } }

/-- A hash function that keeps all texts apart. -/
@[reducible] def whole : Hashing := ⟨id⟩

/-- An offer with a client certificate only. -/
def certificateOffer (cert : Bytes) : ConnectionSettingsOffers where
  opamp := some { certificate := some { cert, privateKey := [], caCert := [] } }

end Openlit.ConnectionOffers
