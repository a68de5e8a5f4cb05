import Mathlib.Data.BitVec

/-!
The OpAMP server's view of an agent (`data/agent.go`): how a status report is
merged into what is stored, and when the server asks for the full state. The
agent description and the package statuses are only carried and compared, so
they are type parameters. Certificate requests and notifications are left out.
-/
namespace Openlit.AgentStatus

abbrev Bytes := List UInt8

/-- SHA-256. -/
class Hashing where
  sha256 : Bytes → Bytes

structure ComponentHealth where
  healthy : Bool
  startTimeUnixNano : BitVec 64
  lastError : String := ""
  deriving DecidableEq
structure AgentConfigFile where
  body : Bytes
  contentType : String := ""
  deriving DecidableEq
abbrev AgentConfigMap := List (String × AgentConfigFile)
structure EffectiveConfig where
  configMap : Option AgentConfigMap
  deriving DecidableEq
structure RemoteConfigStatus where
  lastRemoteConfigHash : Bytes
  status : Nat := 0
  errorMessage : String := ""
  deriving DecidableEq
structure AgentRemoteConfig where
  config : AgentConfigMap
  configHash : Bytes
  deriving DecidableEq

/-- `protobufs.AgentToServer`: a status report. -/
structure AgentToServer (Description Packages : Type) where
  sequenceNum : BitVec 64
  capabilities : BitVec 64
  agentDescription : Option Description := none
  health : Option ComponentHealth := none
  effectiveConfig : Option EffectiveConfig := none
  remoteConfigStatus : Option RemoteConfigStatus := none
  packageStatuses : Option Packages := none
structure ConnectionSettingsOffers where
  hash : Bytes
  ownMetrics : String
/-- `protobufs.ServerToAgent`: the response. -/
structure ServerToAgent where
  flags : BitVec 64 := 0
  remoteConfig : Option AgentRemoteConfig := none
  connectionSettings : Option ConnectionSettingsOffers := none

/-- `data.Agent`. -/
structure Agent (Description Packages : Type) where
  status : Option (AgentToServer Description Packages) := none
  startedAt : Option Int := none
  effectiveConfig : Bytes := []
  customInstanceConfig : Bytes := []
  remoteConfig : Option AgentRemoteConfig := none

def reportsEffectiveConfig : BitVec 64 := 0x4
def reportsPackageStatuses : BitVec 64 := 0x10
def reportsHealth : BitVec 64 := 0x800
def reportsRemoteConfig : BitVec 64 := 0x1000
def reportFullState : BitVec 64 := 0x1

section
variable {Description Packages : Type}

/-! ### Merging a report -/

section
variable [DecidableEq Description]

/-- `updateAgentDescription`: the agent, and whether its description is a different one. -/
def updateAgentDescription (agent : Agent Description Packages) (newStatus : AgentToServer Description Packages) :
    Agent Description Packages × Bool :=
  match agent.status with
  | none => ({ agent with status := some newStatus }, true)
  | some status =>
    let described :=
      match newStatus.agentDescription with
      | some description =>
        if status.agentDescription = some description then (status.agentDescription, false)
        else (some description, true)
      | none => (status.agentDescription, false)
    let remoteConfigStatus :=
      match newStatus.remoteConfigStatus with
      | some new => if status.remoteConfigStatus ≠ some new then some new else status.remoteConfigStatus
      | none => status.remoteConfigStatus
    ({ agent with status := some { status with
        sequenceNum := newStatus.sequenceNum
        agentDescription := described.1
        remoteConfigStatus := remoteConfigStatus } }, described.2)

end

def updateHealth (agent : Agent Description Packages) (newStatus : AgentToServer Description Packages) :
    Agent Description Packages :=
  match newStatus.health with
  | none => agent
  | some health =>
    { agent with
      status := agent.status.map fun status => { status with health := some health }
      startedAt := if health.healthy then some health.startTimeUnixNano.toInt else agent.startedAt }
def updateRemoteConfigStatus (agent : Agent Description Packages) (newStatus : AgentToServer Description Packages) :
    Agent Description Packages :=
  match newStatus.remoteConfigStatus with
  | none => agent
  | some new => { agent with status := agent.status.map fun status => { status with remoteConfigStatus := some new } }
def updateStatusField [DecidableEq Description] (agent : Agent Description Packages)
    (newStatus : AgentToServer Description Packages) : Agent Description Packages × Bool :=
  let remembered := if agent.status.isNone then { agent with status := some newStatus } else agent
  let described := updateAgentDescription remembered newStatus
  (updateHealth (updateRemoteConfigStatus described.1 newStatus) newStatus, described.2 || agent.status.isNone)
/-- `updateEffectiveConfig`. The text for the UI joins the files in the order of the map's iteration. -/
def updateEffectiveConfig (agent : Agent Description Packages) (newStatus : AgentToServer Description Packages) :
    Agent Description Packages :=
  match newStatus.effectiveConfig with
  | some ⟨some files⟩ =>
    { agent with
      status := agent.status.map fun status => { status with effectiveConfig := newStatus.effectiveConfig }
      effectiveConfig := (files.map (·.2.body)).flatten }
  | _ => agent

/-! ### The remote configuration -/

section
variable [Hashing]

/-- `calcRemoteConfig`: the agent, and whether its remote configuration is a different one. -/
def calcRemoteConfig (agent : Agent Description Packages) : Agent Description Packages × Bool :=
  let file : AgentConfigFile := { body := agent.customInstanceConfig }
  let cfg : AgentRemoteConfig :=
    { config := [("", file)], configHash := Hashing.sha256 ("".toUTF8.toList ++ file.body ++ file.contentType.toUTF8.toList) }
  let configChanged := agent.remoteConfig.map (·.config) ≠ some cfg.config
  ({ agent with remoteConfig := some cfg }, configChanged)
def calcConnectionSettings (response : ServerToAgent) : ServerToAgent :=
  let endpoint := "http://localhost:4318/v1/metrics"
  let offers : ConnectionSettingsOffers := { hash := Hashing.sha256 endpoint.toUTF8.toList, ownMetrics := endpoint }
  { response with connectionSettings := some offers }
/-- `SetCustomConfig`, of which only the stored part is kept: the text of the file without a name. -/
def setCustomConfig (agent : Agent Description Packages) (body : Bytes) : Agent Description Packages :=
  (calcRemoteConfig { agent with customInstanceConfig := body }).1
/-- The message that `SetCustomConfig` sends once it has unlocked the agent. -/
def customConfigMessage (agent : Agent Description Packages) (body : Bytes) : Option ServerToAgent :=
  let changed := calcRemoteConfig { agent with customInstanceConfig := body }
  if changed.2 then some { remoteConfig := changed.1.remoteConfig } else none

end

/-! ### Processing a report -/

/-- The report is not the one after the last that was stored. -/
def lostPreviousUpdate (agent : Agent Description Packages) (newStatus : AgentToServer Description Packages) : Bool :=
  match agent.status with
  | none => true
  | some status => status.sequenceNum + 1 ≠ newStatus.sequenceNum
def hasCapability (agent : Agent Description Packages) (capability : BitVec 64) : Bool :=
  match agent.status with
  | none => false
  | some status => status.capabilities &&& capability ≠ 0
/-- Some field that the stored capabilities promise is not in the report. -/
def statusIsCompressed (agent : Agent Description Packages) (newStatus : AgentToServer Description Packages) : Bool :=
  let effectiveConfigOmitted := newStatus.effectiveConfig.isNone && hasCapability agent reportsEffectiveConfig
  let packageStatusesOmitted := newStatus.packageStatuses.isNone && hasCapability agent reportsPackageStatuses
  let remoteConfigStatusOmitted := newStatus.remoteConfigStatus.isNone && hasCapability agent reportsRemoteConfig
  let healthOmitted := newStatus.health.isNone && hasCapability agent reportsHealth
  effectiveConfigOmitted || packageStatusesOmitted || remoteConfigStatusOmitted || healthOmitted

variable [DecidableEq Description] [Hashing]

def processStatusUpdate (agent : Agent Description Packages) (newStatus : AgentToServer Description Packages)
    (response : ServerToAgent) : Agent Description Packages × ServerToAgent :=
  let lost := lostPreviousUpdate agent newStatus
  let updated := updateStatusField agent newStatus
  let agentDescrChanged := updated.2
  let response :=
    if statusIsCompressed updated.1 newStatus && lost then { response with flags := response.flags ||| reportFullState }
    else response
  let configured := if agentDescrChanged then calcRemoteConfig updated.1 else (updated.1, false)
  let response := if agentDescrChanged then calcConnectionSettings response else response
  -- The hash behind the pointer `agent.remoteConfig`, which every first report fills in.
  let hasOther :=
    ((configured.1.status.bind (·.remoteConfigStatus)).map (·.lastRemoteConfigHash)).any fun last =>
      configured.1.remoteConfig.map (·.configHash) ≠ some last
  let response := if configured.2 || hasOther then { response with remoteConfig := configured.1.remoteConfig } else response
  (updateEffectiveConfig configured.1 newStatus, response)
/-- `UpdateStatus`, for a report without a certificate request. -/
def updateStatus (agent : Agent Description Packages) (statusMsg : AgentToServer Description Packages) :
    Agent Description Packages × ServerToAgent :=
  processStatusUpdate agent statusMsg {}

/-- The response asks the agent for its full state. -/
def asksFullState (response : ServerToAgent) : Bool := response.flags &&& reportFullState ≠ 0

end

end Openlit.AgentStatus
