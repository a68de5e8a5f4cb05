import Mathlib.Logic.Relation
import Mathlib.Tactic.Common
import Openlit.AgentStatus
import Openlit.Delta

/-!
An agent that leaves out what it has reported before, and a server that misses
some of its reports. The server stays right, or asks for the full state, as
long as the fields that it never merges do not change and every report after a
missed one, or after a request for the full state, leaves out nothing that the
server lacks (`Covered`).
-/
namespace Openlit.AgentSync
open Openlit.AgentStatus Openlit.Delta

variable {Description Packages : Type}

/-! ### The agent and its reports -/

/-- What an agent reports of itself; a field that it does not have is `none`. -/
structure Values (Description Packages : Type) where
  agentDescription : Option Description := none
  health : Option ComponentHealth := none
  effectiveConfig : Option EffectiveConfig := none
  remoteConfigStatus : Option RemoteConfigStatus := none
  packageStatuses : Option Packages := none
  capabilities : BitVec 64

/-- An agent at one end of the connection and the server's record of it at the
    other. `reported` and `sequenceNum` are the agent's values and number at its
    last report, `delivered` says that the server processed that report, and
    `asked` that the last response asked for the full state. -/
structure System (Description Packages : Type) where
  server : Agent Description Packages
  reported : Option (Values Description Packages) := none
  sequenceNum : BitVec 64
  delivered : Bool := false
  asked : Bool := false

/-- The agent's next report: its values by then, the message, and whether it arrives. -/
structure Report (Description Packages : Type) where
  values : Values Description Packages
  message : AgentToServer Description Packages
  arrives : Bool

/-- A report that counts on and leaves out only what has not changed. The
    capabilities are a number, whose omission reads as zero. -/
structure Compressed (sys : System Description Packages) (r : Report Description Packages) : Prop where
  sequenceNum : sys.reported.isSome → r.message.sequenceNum = sys.sequenceNum + 1
  agentDescription : Partial (sys.reported.bind (·.agentDescription)) r.values.agentDescription r.message.agentDescription
  health : Partial (sys.reported.bind (·.health)) r.values.health r.message.health
  effectiveConfig : Partial (sys.reported.bind (·.effectiveConfig)) r.values.effectiveConfig r.message.effectiveConfig
  remoteConfigStatus :
    Partial (sys.reported.bind (·.remoteConfigStatus)) r.values.remoteConfigStatus r.message.remoteConfigStatus
  packageStatuses : Partial (sys.reported.bind (·.packageStatuses)) r.values.packageStatuses r.message.packageStatuses
  capabilities : r.message.capabilities = r.values.capabilities ∨
    r.message.capabilities = 0 ∧ sys.reported.map (·.capabilities) = some r.values.capabilities

/-- The stored status is the agent's own. -/
structure InSync (values : Values Description Packages) (status : AgentToServer Description Packages) : Prop where
  agentDescription : status.agentDescription = values.agentDescription
  health : status.health = values.health
  effectiveConfig : status.effectiveConfig = values.effectiveConfig
  remoteConfigStatus : status.remoteConfigStatus = values.remoteConfigStatus
  packageStatuses : status.packageStatuses = values.packageStatuses
  capabilities : status.capabilities = values.capabilities

section
variable [DecidableEq Description] [Hashing]

/-- One report. A report that is lost leaves the server as it is. -/
def send (sys : System Description Packages) (r : Report Description Packages) : System Description Packages :=
  let processed := updateStatus sys.server r.message
  { server := if r.arrives then processed.1 else sys.server
    reported := some r.values
    sequenceNum := r.message.sequenceNum
    delivered := r.arrives
    asked := if r.arrives then asksFullState processed.2 else sys.asked }

/-- After a report that the server processed, its response asks for the full state or its record is right. -/
def Current (sys : System Description Packages) : Prop :=
  sys.delivered = true → sys.asked = true ∨
    ∃ status values, sys.server.status = some status ∧ sys.reported = some values ∧ InSync values status

/-- The steps of a run: reports that are allowed, and changes of the agent's remote configuration on the server. -/
inductive Step (allowed : System Description Packages → Report Description Packages → Prop) :
    System Description Packages → System Description Packages → Prop
  | report {sys : System Description Packages} (r : Report Description Packages) (compressed : Compressed sys r)
      (ok : allowed sys r) : Step allowed sys (send sys r)
  | configure {sys : System Description Packages} (body : Bytes) :
      Step allowed sys { sys with server := setCustomConfig sys.server body }
/-- Before the first report. The remote configuration may be a persisted one. -/
def start (server : Agent Description Packages) (sequenceNum : BitVec 64) : System Description Packages :=
  { server := server, sequenceNum := sequenceNum }

/-! ### What processing stores -/

omit [Hashing] in
theorem updateAgentDescription_status {server : Agent Description Packages} {status : AgentToServer Description Packages}
    (known : server.status = some status) (message : AgentToServer Description Packages) :
    (updateAgentDescription server message).1.status = some { status with
      sequenceNum := message.sequenceNum
      agentDescription := merge message.agentDescription status.agentDescription
      remoteConfigStatus := merge message.remoteConfigStatus status.remoteConfigStatus } := by
  rw [updateAgentDescription, known]
  cases description : message.agentDescription with
  | none => cases remote : message.remoteConfigStatus with
    | none => rfl
    | some new => by_cases same : status.remoteConfigStatus = some new <;> simp [same]
  | some d => cases remote : message.remoteConfigStatus with
    | none => by_cases equal : status.agentDescription = some d <;> simp [equal]
    | some new =>
      by_cases equal : status.agentDescription = some d <;>
        by_cases same : status.remoteConfigStatus = some new <;> simp [equal, same]

omit [DecidableEq Description] [Hashing] in
theorem updateHealth_status {server : Agent Description Packages} {status : AgentToServer Description Packages}
    (known : server.status = some status) (message : AgentToServer Description Packages) :
    (updateHealth server message).status = some { status with health := merge message.health status.health } := by
  cases health : message.health <;> simp [updateHealth, health, known]
omit [DecidableEq Description] [Hashing] in
theorem updateRemoteConfigStatus_status {server : Agent Description Packages}
    {status : AgentToServer Description Packages} (known : server.status = some status)
    (message : AgentToServer Description Packages) :
    (updateRemoteConfigStatus server message).status =
      some { status with remoteConfigStatus := merge message.remoteConfigStatus status.remoteConfigStatus } := by
  cases remote : message.remoteConfigStatus <;> simp [updateRemoteConfigStatus, remote, known]
omit [DecidableEq Description] [Hashing] in
theorem updateEffectiveConfig_status {server : Agent Description Packages}
    {status : AgentToServer Description Packages} (known : server.status = some status)
    (message : AgentToServer Description Packages) :
    (updateEffectiveConfig server message).status = some { status with
      effectiveConfig := merge (message.effectiveConfig.filter (·.configMap.isSome)) status.effectiveConfig } := by
  cases config : message.effectiveConfig with
  | none => simp [updateEffectiveConfig, config, known]
  | some e => cases files : e with
    | mk configMap => cases configMap <;> simp [updateEffectiveConfig, config, known, files, Option.filter]

/-- The fields that are merged before the omissions are looked at. -/
def mergedFields (status message : AgentToServer Description Packages) : AgentToServer Description Packages :=
  { status with
    sequenceNum := message.sequenceNum
    agentDescription := merge message.agentDescription status.agentDescription
    health := merge message.health status.health
    remoteConfigStatus := merge message.remoteConfigStatus status.remoteConfigStatus }
omit [Hashing] in
theorem updateStatusField_status (server : Agent Description Packages) (message : AgentToServer Description Packages) :
    (updateStatusField server message).1.status = some (mergedFields (server.status.getD message) message) := by
  have merged (agent : Agent Description Packages) {status : AgentToServer Description Packages}
      (known : agent.status = some status) :
      (updateHealth (updateRemoteConfigStatus (updateAgentDescription agent message).1 message) message).status =
        some (mergedFields status message) := by
    rw [updateHealth_status (updateRemoteConfigStatus_status (updateAgentDescription_status known message) message)]
    simp [mergedFields]
  cases known : server.status with
  | none => simpa [updateStatusField, known] using merged { server with status := some message } rfl
  | some status => simpa [updateStatusField, known] using merged server known

/-- The status after a report: all of a first one, else the description, the
    health and the remote configuration status merged, and an effective
    configuration that has files. Package statuses and capabilities stay. -/
def stored (server : Agent Description Packages) (message : AgentToServer Description Packages) :
    AgentToServer Description Packages :=
  { mergedFields (server.status.getD message) message with
    effectiveConfig :=
      merge (message.effectiveConfig.filter (·.configMap.isSome)) (server.status.getD message).effectiveConfig }

theorem updateStatus_status (server : Agent Description Packages) (message : AgentToServer Description Packages) :
    (updateStatus server message).1.status = some (stored server message) := by
  have merged := updateStatusField_status server message
  show (updateEffectiveConfig (if (updateStatusField server message).2 then
    calcRemoteConfig (updateStatusField server message).1 else ((updateStatusField server message).1, false)).1
      message).status = _
  refine updateEffectiveConfig_status ?_ message
  split
  · exact merged
  · exact merged

/-- The test for a request of the full state, on the record before the report. -/
def noticesLoss (server : Agent Description Packages) (message : AgentToServer Description Packages) : Bool :=
  lostPreviousUpdate server message &&
    statusIsCompressed { server with status := some (server.status.getD message) } message

theorem updateStatus_asks (server : Agent Description Packages) (message : AgentToServer Description Packages) :
    asksFullState (updateStatus server message).2 = noticesLoss server message := by
  have compressed : statusIsCompressed (updateStatusField server message).1 message =
      statusIsCompressed { server with status := some (server.status.getD message) } message := by
    simp only [statusIsCompressed, hasCapability, updateStatusField_status, mergedFields]
  have flags : (updateStatus server message).2.flags =
      if noticesLoss server message then 0 ||| reportFullState else 0 := by
    simp only [updateStatus, processStatusUpdate, compressed, calcConnectionSettings, noticesLoss,
      apply_ite ServerToAgent.flags, Bool.and_comm, ite_self]
    rfl
  rw [asksFullState, flags]
  cases noticesLoss server message <;> decide

/-! ### Reports that keep the record right -/

/-- What a report leaves out is stored as the agent has it. -/
structure OmitsStored (server : Agent Description Packages) (r : Report Description Packages) : Prop where
  agentDescription : r.message.agentDescription = none →
    server.status.bind (·.agentDescription) = r.values.agentDescription
  health : r.message.health = none → server.status.bind (·.health) = r.values.health
  effectiveConfig : r.message.effectiveConfig = none →
    server.status.bind (·.effectiveConfig) = r.values.effectiveConfig
  remoteConfigStatus : r.message.remoteConfigStatus = none →
    server.status.bind (·.remoteConfigStatus) = r.values.remoteConfigStatus
  packageStatuses : r.message.packageStatuses = none →
    server.status.bind (·.packageStatuses) = r.values.packageStatuses
/-- What is never merged is stored as the agent has it: package statuses and
    capabilities after the first report, and an effective configuration without files. -/
structure UnmergedStored (server : Agent Description Packages) (r : Report Description Packages) : Prop where
  packageStatuses : ∀ status, server.status = some status → r.message.packageStatuses.isSome →
    status.packageStatuses = r.values.packageStatuses
  effectiveConfig : ∀ status, server.status = some status → ∀ config, r.message.effectiveConfig = some config →
    config.configMap = none → status.effectiveConfig = some config
  capabilities : (server.status.getD r.message).capabilities = r.values.capabilities

omit [DecidableEq Description] [Hashing] in
/-- The record after a report is right exactly if nothing was left out or passed over that it lacks. -/
theorem inSync_stored_iff {sys : System Description Packages} {r : Report Description Packages}
    (compressed : Compressed sys r) :
    InSync r.values (stored sys.server r.message) ↔ OmitsStored sys.server r ∧ UnmergedStored sys.server r := by
  have description := merge_field_iff (·.agentDescription) sys.server.status r.message compressed.agentDescription
  have health := merge_field_iff (·.health) sys.server.status r.message compressed.health
  have remote := merge_field_iff (·.remoteConfigStatus) sys.server.status r.message compressed.remoteConfigStatus
  have packages : (sys.server.status.getD r.message).packageStatuses = r.values.packageStatuses ↔
      (r.message.packageStatuses = none → sys.server.status.bind (·.packageStatuses) = r.values.packageStatuses) ∧
      (∀ status, sys.server.status = some status → r.message.packageStatuses.isSome →
        status.packageStatuses = r.values.packageStatuses) := by
    cases known : sys.server.status with
    | none =>
      cases sent : r.message.packageStatuses with
      | none => simp [sent]
      | some p => simp [sent, compressed.packageStatuses.carried p sent]
    | some status => cases sent : r.message.packageStatuses <;> simp
  have config : merge (r.message.effectiveConfig.filter (·.configMap.isSome))
        (sys.server.status.getD r.message).effectiveConfig = r.values.effectiveConfig ↔
      (r.message.effectiveConfig = none → sys.server.status.bind (·.effectiveConfig) = r.values.effectiveConfig) ∧
      (∀ status, sys.server.status = some status → ∀ config, r.message.effectiveConfig = some config →
        config.configMap = none → status.effectiveConfig = some config) := by
    cases sent : r.message.effectiveConfig with
    | none => cases known : sys.server.status <;> simp [sent]
    | some e =>
      have carried := compressed.effectiveConfig.carried e sent
      cases files : e.configMap with
      | none => cases known : sys.server.status <;> simp [sent, files, carried, Option.filter]
      | some f => simp [files, carried, Option.filter]
  constructor
  · rintro ⟨d, h, e, rc, p, c⟩
    exact ⟨⟨description.mp d, health.mp h, (config.mp e).1, remote.mp rc, (packages.mp p).1⟩,
      ⟨(packages.mp p).2, (config.mp e).2, c⟩⟩
  · rintro ⟨⟨d, h, e, rc, p⟩, ⟨p', e', c⟩⟩
    exact ⟨description.mpr d, health.mpr h, config.mpr ⟨e, e'⟩, remote.mpr rc, packages.mpr ⟨p, p'⟩, c⟩

/-- A report that does not leave the record wrong unnoticed. Either the server
    notices a loss, or what is never merged has not changed and, after a report
    that was missed or a request for the full state, nothing is left out that is
    not stored. -/
def Covered (sys : System Description Packages) (r : Report Description Packages) : Prop :=
  r.arrives = true → noticesLoss sys.server r.message = true ∨
    UnmergedStored sys.server r ∧ (sys.delivered = false ∨ sys.asked = true → OmitsStored sys.server r)

omit [DecidableEq Description] [Hashing] in
/-- After a report that was processed and that left the record right, the next one leaves out only what is stored. -/
theorem omitsStored_of_current {sys : System Description Packages} {r : Report Description Packages}
    (current : Current sys) (compressed : Compressed sys r) (delivered : sys.delivered = true)
    (unasked : sys.asked = false) : OmitsStored sys.server r := by
  rcases current delivered with asked | ⟨status, values, known, reported, sync⟩
  · simp [unasked] at asked
  · have last {α : Type} {field : Values Description Packages → Option α} {current sent : Option α}
        (update : Partial (sys.reported.bind field) current sent) (omitted : sent = none) : field values = current := by
      have same := update.unchanged omitted
      rw [reported] at same
      exact same.symm
    constructor <;> intro omitted <;> rw [known]
    · exact sync.agentDescription.trans (last compressed.agentDescription omitted)
    · exact sync.health.trans (last compressed.health omitted)
    · exact sync.effectiveConfig.trans (last compressed.effectiveConfig omitted)
    · exact sync.remoteConfigStatus.trans (last compressed.remoteConfigStatus omitted)
    · exact sync.packageStatuses.trans (last compressed.packageStatuses omitted)

/-- One report: `Covered` is exactly what it needs. -/
theorem send_current_iff {sys : System Description Packages} {r : Report Description Packages}
    (current : Current sys) (compressed : Compressed sys r) : Current (send sys r) ↔ Covered sys r := by
  have after : Current (send sys r) ↔
      (r.arrives = true → noticesLoss sys.server r.message = true ∨ InSync r.values (stored sys.server r.message)) := by
    cases arrives : r.arrives with
    | false => simp [Current, send, arrives]
    | true => simp [Current, send, arrives, updateStatus_asks, updateStatus_status]
  rw [after, Covered, inSync_stored_iff compressed]
  refine imp_congr_right fun _ => or_congr_right ?_
  constructor
  · rintro ⟨omits, unmerged⟩
    exact ⟨unmerged, fun _ => omits⟩
  · rintro ⟨unmerged, omits⟩
    refine ⟨?_, unmerged⟩
    cases delivered : sys.delivered with
    | false => exact omits (.inl delivered)
    | true =>
      cases asked : sys.asked with
      | true => exact omits (.inr asked)
      | false => exact omitsStored_of_current current compressed delivered asked

/-- In every run of covered reports, after each report that the server
    processes the response asks for the full state or the record is right. -/
theorem reports_stay_current {server : Agent Description Packages} (sequenceNum : BitVec 64)
    {sys : System Description Packages}
    (run : Relation.ReflTransGen (Step Covered) (start server sequenceNum) sys) : Current sys := by
  induction run with
  | refl => exact fun delivered => absurd delivered (by simp [start])
  | tail _ step current =>
    cases step with
    | report r compressed covered => exact (send_current_iff current compressed).mpr covered
    | configure body => exact fun delivered => current delivered

end

/-! ### Package statuses that change -/

/-- A field of a report that is left out exactly where it has not changed; the capabilities are always sent. -/
structure Minimal {Description Packages : Type} [DecidableEq Description] [DecidableEq Packages]
    (sys : System Description Packages) (r : Report Description Packages) : Prop where
  agentDescription :
    r.message.agentDescription = omitting (sys.reported.bind (·.agentDescription)) r.values.agentDescription
  health : r.message.health = omitting (sys.reported.bind (·.health)) r.values.health
  effectiveConfig : r.message.effectiveConfig = omitting (sys.reported.bind (·.effectiveConfig)) r.values.effectiveConfig
  remoteConfigStatus :
    r.message.remoteConfigStatus = omitting (sys.reported.bind (·.remoteConfigStatus)) r.values.remoteConfigStatus
  packageStatuses : r.message.packageStatuses = omitting (sys.reported.bind (·.packageStatuses)) r.values.packageStatuses
  capabilities : r.message.capabilities = r.values.capabilities

/-- An agent that runs one version of a package. -/
def packageValues (version : String) : Values String String :=
  { agentDescription := some "collector", packageStatuses := some version, capabilities := reportsPackageStatuses }
def firstReport : Report String String :=
  { values := packageValues "1.0"
    message := { sequenceNum := 1, capabilities := reportsPackageStatuses,
                 agentDescription := some "collector", packageStatuses := some "1.0" }
    arrives := true }
def upgradeReport : Report String String :=
  { values := packageValues "1.1"
    message := { sequenceNum := 2, capabilities := reportsPackageStatuses, packageStatuses := some "1.1" }
    arrives := true }
theorem firstReport_compressed : Compressed (start {} 1) firstReport where
  sequenceNum := nofun
  agentDescription := Partial.whole nofun
  health := Partial.left_out none
  effectiveConfig := Partial.left_out none
  remoteConfigStatus := Partial.left_out none
  packageStatuses := Partial.whole nofun
  capabilities := .inl rfl
theorem upgradeReport_compressed [Hashing] : Compressed (send (start {} 1) firstReport) upgradeReport where
  sequenceNum _ := rfl
  agentDescription := Partial.left_out (some "collector")
  health := Partial.left_out none
  effectiveConfig := Partial.left_out none
  remoteConfigStatus := Partial.left_out none
  packageStatuses := Partial.whole nofun
  capabilities := .inl rfl

/-- A hash function for the samples, none of which depends on it. -/
@[reducible] def plainHashing : Hashing := ⟨fun bytes => bytes⟩

theorem reports_stay_current_first :
    Current (@send String String _ plainHashing (start {} 1) firstReport) := by
  let _ := plainHashing
  refine reports_stay_current 1 (.single (.report firstReport firstReport_compressed
    fun _ => .inr ⟨⟨nofun, nofun, rfl⟩, fun _ => ⟨?_, ?_, ?_, ?_, ?_⟩⟩))
  · nofun
  · exact fun _ => rfl
  · exact fun _ => rfl
  · exact fun _ => rfl
  · nofun

/-- An agent that upgrades a package and reports just that: both reports
    arrive, neither response asks for the full state, and the old version stays. -/
theorem upgrade_stays_unnoticed :
    ¬ ∀ [Hashing] (server : Agent String String) (sequenceNum : BitVec 64) (sys : System String String),
        server.status = none → Relation.ReflTransGen (Step Minimal) (start server sequenceNum) sys → Current sys := by
  intro all
  let _ := plainHashing
  have first : Minimal (start {} 1) firstReport := by constructor <;> decide
  have second : Minimal (send (start {} 1) firstReport) upgradeReport := by constructor <;> decide
  have current := all {} 1 _ rfl ((Relation.ReflTransGen.single
    (.report firstReport firstReport_compressed first)).tail (.report upgradeReport upgradeReport_compressed second))
  rcases current rfl with asked | ⟨status, values, known, reported, sync⟩
  · exact absurd asked (by decide)
  · cases known
    cases reported
    exact absurd sync.packageStatuses (by decide)

end Openlit.AgentSync
