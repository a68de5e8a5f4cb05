import Openlit.RemoteConfigSync

/-!
Whether the OpAMP server follows a nil pointer while it processes a report
(`data/agent.go`). The functions that merge a report are written once more with
every pointer that they follow, and compute what the plain ones do as long as
an agent with a status has a remote configuration. Such an agent has one
whatever has happened to it, and it is that of its own text
(`agents_configured`).
-/
namespace Openlit.AgentPointers
open Openlit.AgentStatus Openlit.AgentRegistry Openlit.RemoteConfigSync

/-- The pointer that was nil when it was followed. -/
inductive NilPointer
  | status | effectiveConfig | remoteConfig
  deriving DecidableEq

def follow {α : Type} (pointer : NilPointer) : Option α → Except NilPointer α
  | none => .error pointer
  | some value => .ok value

@[simp] theorem follow_some {α : Type} (pointer : NilPointer) (value : α) : follow pointer (some value) = .ok value := rfl

variable {Conn Description Packages : Type}

/-! ### The pointers that are followed -/

def updateAgentDescription [DecidableEq Description] (agent : Agent Description Packages)
    (newStatus : AgentToServer Description Packages) : Except NilPointer (Agent Description Packages × Bool) := do
  let prevStatus := agent.status
  if agent.status.isNone then return ({ agent with status := some newStatus }, true)
  else
    let status ← follow .status agent.status
    let described ←
      match newStatus.agentDescription with
      | some description => do
        let previous ← follow .status prevStatus
        pure (if previous.agentDescription = some description then (status.agentDescription, false)
          else (some description, true))
      | none => pure (status.agentDescription, false)
    let remoteConfigStatus :=
      match newStatus.remoteConfigStatus with
      | some new => if status.remoteConfigStatus ≠ some new then some new else status.remoteConfigStatus
      | none => status.remoteConfigStatus
    return ({ agent with status := some { status with
        sequenceNum := newStatus.sequenceNum
        agentDescription := described.1
        remoteConfigStatus := remoteConfigStatus } }, described.2)
/-- `updateHealth`, which writes to the status before it looks whether there is one. -/
def updateHealth (agent : Agent Description Packages) (newStatus : AgentToServer Description Packages) :
    Except NilPointer (Agent Description Packages) :=
  match newStatus.health with
  | none => pure agent
  | some health => do
    let status ← follow .status agent.status
    return { agent with
      status := some { status with health := some health }
      startedAt := if health.healthy then some health.startTimeUnixNano.toInt else agent.startedAt }
def updateRemoteConfigStatus (agent : Agent Description Packages) (newStatus : AgentToServer Description Packages) :
    Except NilPointer (Agent Description Packages) :=
  match newStatus.remoteConfigStatus with
  | none => pure agent
  | some new => do
    let status ← follow .status agent.status
    return { agent with status := some { status with remoteConfigStatus := some new } }
def updateStatusField [DecidableEq Description] (agent : Agent Description Packages)
    (newStatus : AgentToServer Description Packages) : Except NilPointer (Agent Description Packages × Bool) := do
  let remembered := if agent.status.isNone then { agent with status := some newStatus } else agent
  let described ← updateAgentDescription remembered newStatus
  let reported ← updateRemoteConfigStatus described.1 newStatus
  let updated ← updateHealth reported newStatus
  return (updated, described.2 || agent.status.isNone)
def updateEffectiveConfig (agent : Agent Description Packages) (newStatus : AgentToServer Description Packages) :
    Except NilPointer (Agent Description Packages) :=
  if newStatus.effectiveConfig.isNone then pure agent
  else do
    let effectiveConfig ← follow .effectiveConfig newStatus.effectiveConfig
    match effectiveConfig.configMap with
    | none => return agent
    | some files =>
      let status ← follow .status agent.status
      return { agent with
        status := some { status with effectiveConfig := newStatus.effectiveConfig }
        effectiveConfig := (files.map (·.2.body)).flatten }

def lostPreviousUpdate (agent : Agent Description Packages) (newStatus : AgentToServer Description Packages) :
    Except NilPointer Bool :=
  if agent.status.isNone then pure true
  else do
    let status ← follow .status agent.status
    return status.sequenceNum + 1 ≠ newStatus.sequenceNum
def hasCapability (agent : Agent Description Packages) (capability : BitVec 64) : Except NilPointer Bool := do
  let status ← follow .status agent.status
  return status.capabilities &&& capability ≠ 0
/-- A field that the report leaves out although the agent has the capability. -/
def omitted {α : Type} (agent : Agent Description Packages) (field : Option α) (capability : BitVec 64) :
    Except NilPointer Bool :=
  if field.isNone then hasCapability agent capability else pure false
def statusIsCompressed (agent : Agent Description Packages) (newStatus : AgentToServer Description Packages) :
    Except NilPointer Bool := do
  let effectiveConfigOmitted ← omitted agent newStatus.effectiveConfig reportsEffectiveConfig
  let packageStatusesOmitted ← omitted agent newStatus.packageStatuses reportsPackageStatuses
  let remoteConfigStatusOmitted ← omitted agent newStatus.remoteConfigStatus reportsRemoteConfig
  let healthOmitted ← omitted agent newStatus.health reportsHealth
  return effectiveConfigOmitted || packageStatusesOmitted || remoteConfigStatusOmitted || healthOmitted
/-- The hash that the agent reported last is not that of its remote configuration. -/
def hasOtherConfig (agent : Agent Description Packages) : Except NilPointer Bool := do
  let status ← follow .status agent.status
  match status.remoteConfigStatus with
  | none => return false
  | some reported =>
    let remoteConfig ← follow .remoteConfig agent.remoteConfig
    return some remoteConfig.configHash ≠ some reported.lastRemoteConfigHash

def processStatusUpdate [DecidableEq Description] [Hashing] (agent : Agent Description Packages)
    (newStatus : AgentToServer Description Packages) (response : ServerToAgent) :
    Except NilPointer (Agent Description Packages × ServerToAgent) := do
  let lost ← lostPreviousUpdate agent newStatus
  let updated ← updateStatusField agent newStatus
  let agentDescrChanged := updated.2
  let compressed ← statusIsCompressed updated.1 newStatus
  let response :=
    if compressed && lost then { response with flags := response.flags ||| reportFullState } else response
  let configured := if agentDescrChanged then calcRemoteConfig updated.1 else (updated.1, false)
  let response := if agentDescrChanged then calcConnectionSettings response else response
  -- The comparison of the hashes is not reached where the configuration has changed.
  let differs ← if configured.2 then pure true else hasOtherConfig configured.1
  let response := if differs then { response with remoteConfig := configured.1.remoteConfig } else response
  let after ← updateEffectiveConfig configured.1 newStatus
  return (after, response)

/-! ### Where there is a status, no nil pointer is followed -/

section
variable {agent : Agent Description Packages} {status : AgentToServer Description Packages}

theorem updateHealth_ok (present : agent.status = some status) (newStatus : AgentToServer Description Packages) :
    updateHealth agent newStatus = .ok (AgentStatus.updateHealth agent newStatus) := by
  cases health : newStatus.health with
  | none => simp [updateHealth, AgentStatus.updateHealth, health, pure, Except.pure]
  | some new => simp [updateHealth, AgentStatus.updateHealth, health, present, bind, Except.bind, pure, Except.pure]
theorem updateRemoteConfigStatus_ok (present : agent.status = some status)
    (newStatus : AgentToServer Description Packages) :
    updateRemoteConfigStatus agent newStatus = .ok (AgentStatus.updateRemoteConfigStatus agent newStatus) := by
  cases remote : newStatus.remoteConfigStatus with
  | none => simp [updateRemoteConfigStatus, AgentStatus.updateRemoteConfigStatus, remote, pure, Except.pure]
  | some new =>
    simp [updateRemoteConfigStatus, AgentStatus.updateRemoteConfigStatus, remote, present, bind, Except.bind, pure,
      Except.pure]
theorem updateEffectiveConfig_ok (present : agent.status = some status)
    (newStatus : AgentToServer Description Packages) :
    updateEffectiveConfig agent newStatus = .ok (AgentStatus.updateEffectiveConfig agent newStatus) := by
  cases reported : newStatus.effectiveConfig with
  | none => simp [updateEffectiveConfig, AgentStatus.updateEffectiveConfig, reported, pure, Except.pure]
  | some effectiveConfig =>
    obtain ⟨files⟩ := effectiveConfig
    cases files with
    | none =>
      simp [updateEffectiveConfig, AgentStatus.updateEffectiveConfig, reported, bind, Except.bind, pure, Except.pure]
    | some files =>
      simp [updateEffectiveConfig, AgentStatus.updateEffectiveConfig, reported, present, bind, Except.bind, pure,
        Except.pure]

theorem omitted_ok {α : Type} (present : agent.status = some status) (field : Option α) (capability : BitVec 64) :
    omitted agent field capability = .ok (field.isNone && AgentStatus.hasCapability agent capability) := by
  cases field with
  | none => simp [omitted, hasCapability, AgentStatus.hasCapability, present, bind, Except.bind, pure, Except.pure]
  | some value => simp [omitted, pure, Except.pure]
theorem statusIsCompressed_ok (present : agent.status = some status) (newStatus : AgentToServer Description Packages) :
    statusIsCompressed agent newStatus = .ok (AgentStatus.statusIsCompressed agent newStatus) := by
  simp [statusIsCompressed, AgentStatus.statusIsCompressed, omitted_ok present, bind, Except.bind, pure, Except.pure]

theorem lostPreviousUpdate_ok (agent : Agent Description Packages) (newStatus : AgentToServer Description Packages) :
    lostPreviousUpdate agent newStatus = .ok (AgentStatus.lostPreviousUpdate agent newStatus) := by
  cases present : agent.status with
  | none => simp [lostPreviousUpdate, AgentStatus.lostPreviousUpdate, present, pure, Except.pure]
  | some status =>
    simp [lostPreviousUpdate, AgentStatus.lostPreviousUpdate, present, bind, Except.bind, pure, Except.pure]

/-- The hashes are compared only where both are there. -/
theorem hasOtherConfig_ok (present : agent.status = some status) (configured : agent.remoteConfig ≠ none) :
    hasOtherConfig agent = .ok (((agent.status.bind (·.remoteConfigStatus)).map (·.lastRemoteConfigHash)).any fun last =>
      agent.remoteConfig.map (·.configHash) ≠ some last) := by
  obtain ⟨config, found⟩ := Option.ne_none_iff_exists'.mp configured
  cases reported : status.remoteConfigStatus with
  | none => simp [hasOtherConfig, present, reported, bind, Except.bind, pure, Except.pure]
  | some remote => simp [hasOtherConfig, present, reported, found, bind, Except.bind, pure, Except.pure]

theorem updateRemoteConfigStatus_some (present : agent.status = some status)
    (newStatus : AgentToServer Description Packages) :
    ∃ after, (AgentStatus.updateRemoteConfigStatus agent newStatus).status = some after := by
  cases remote : newStatus.remoteConfigStatus <;> simp [AgentStatus.updateRemoteConfigStatus, remote, present]
theorem updateHealth_some (present : agent.status = some status) (newStatus : AgentToServer Description Packages) :
    ∃ after, (AgentStatus.updateHealth agent newStatus).status = some after := by
  cases health : newStatus.health <;> simp [AgentStatus.updateHealth, health, present]

section
variable [DecidableEq Description]

theorem updateAgentDescription_ok (agent : Agent Description Packages)
    (newStatus : AgentToServer Description Packages) :
    updateAgentDescription agent newStatus = .ok (AgentStatus.updateAgentDescription agent newStatus) := by
  cases present : agent.status with
  | none => simp [updateAgentDescription, AgentStatus.updateAgentDescription, present, pure, Except.pure]
  | some status =>
    cases description : newStatus.agentDescription <;> cases remote : newStatus.remoteConfigStatus <;>
      simp [updateAgentDescription, AgentStatus.updateAgentDescription, present, description, remote, bind, Except.bind,
        pure, Except.pure]
/-- Whatever there was before, there is a status once the description is merged. -/
theorem updateAgentDescription_some (agent : Agent Description Packages)
    (newStatus : AgentToServer Description Packages) :
    ∃ status, (AgentStatus.updateAgentDescription agent newStatus).1.status = some status := by
  cases present : agent.status <;> simp [AgentStatus.updateAgentDescription, present]
theorem updateStatusField_ok (agent : Agent Description Packages) (newStatus : AgentToServer Description Packages) :
    updateStatusField agent newStatus = .ok (AgentStatus.updateStatusField agent newStatus) ∧
      ∃ status, (AgentStatus.updateStatusField agent newStatus).1.status = some status := by
  let remembered := if agent.status.isNone then { agent with status := some newStatus } else agent
  obtain ⟨_, described⟩ := updateAgentDescription_some remembered newStatus
  obtain ⟨_, reported⟩ := updateRemoteConfigStatus_some described newStatus
  obtain ⟨status, updated⟩ := updateHealth_some reported newStatus
  refine ⟨?_, status, updated⟩
  have steps := updateAgentDescription_ok remembered newStatus
  rw [updateStatusField]
  simp only [remembered] at steps described reported
  rw [steps]
  simp only [bind, Except.bind, updateRemoteConfigStatus_ok described, updateHealth_ok reported]
  rfl

variable [Hashing]

/-- An agent with a status has a remote configuration. -/
def HasConfig (agent : Agent Description Packages) : Prop := agent.status ≠ none → agent.remoteConfig ≠ none

/-- The report of an agent that has its configuration is processed as if no pointer could be nil. -/
theorem processStatusUpdate_ok {agent : Agent Description Packages} (hasConfig : HasConfig agent)
    (newStatus : AgentToServer Description Packages) (response : ServerToAgent) :
    processStatusUpdate agent newStatus response = .ok (AgentStatus.processStatusUpdate agent newStatus response) := by
  obtain ⟨updated, status, present⟩ := updateStatusField_ok agent newStatus
  have kept := (updateStatusField_config agent newStatus).1
  simp only [processStatusUpdate, AgentStatus.processStatusUpdate, lostPreviousUpdate_ok, updated,
    statusIsCompressed_ok present, bind, Except.bind]
  cases changed : (AgentStatus.updateStatusField agent newStatus).2 with
  | true =>
    have there : (calcRemoteConfig (AgentStatus.updateStatusField agent newStatus).1).1.status = some status := present
    have config : (calcRemoteConfig (AgentStatus.updateStatusField agent newStatus).1).1.remoteConfig ≠ none := by
      simp [calcRemoteConfig_agent]
    simp only [↓reduceIte, hasOtherConfig_ok there config, updateEffectiveConfig_ok there]
    cases (calcRemoteConfig (AgentStatus.updateStatusField agent newStatus).1).2 <;> rfl
  | false =>
    have before : agent.status ≠ none := by
      intro absent
      simp [AgentStatus.updateStatusField, absent] at changed
    have config : (AgentStatus.updateStatusField agent newStatus).1.remoteConfig ≠ none := by
      rw [kept]
      exact hasConfig before
    simp only [Bool.false_eq_true, ↓reduceIte, hasOtherConfig_ok present config, updateEffectiveConfig_ok present]
    rfl

/-! ### The life of an agent -/

/-- What happens to an agent. Its connection only sends and closes, and the agent keeps what it has. -/
inductive Event (Description Packages : Type)
  | setCustomConfig (body : Bytes)
  | updateStatus (report : AgentToServer Description Packages)
  | connection

def step (agent : Agent Description Packages) : Event Description Packages → Agent Description Packages
  | .setCustomConfig body => setCustomConfig agent body
  | .updateStatus report => (AgentStatus.updateStatus agent report).1
  | .connection => agent
/-- The agent that was created with a persisted configuration or none, after some events. -/
def live (persisted : Option Bytes) (events : List (Event Description Packages)) : Agent Description Packages :=
  events.foldl step (loadPersistedConfig {} persisted)

/-- An agent with a status has the remote configuration of its own text, and no
    report makes the server follow a nil pointer. -/
structure Configured (agent : Agent Description Packages) : Prop where
  current : agent.status ≠ none → ∃ config, agent.remoteConfig = some config ∧
    config.config = [("", { body := agent.customInstanceConfig })] ∧
    config.configHash = Hashing.sha256 agent.customInstanceConfig
  followed : ∀ newStatus response,
    processStatusUpdate agent newStatus response = .ok (AgentStatus.processStatusUpdate agent newStatus response)

/-- The remote configuration is that of the agent's text, and it is there once there is a status. -/
def Kept (agent : Agent Description Packages) : Prop := Computed agent ∧ HasConfig agent

omit [DecidableEq Description] in
theorem kept_load (persisted : Option Bytes) : Kept (loadPersistedConfig ({} : Agent Description Packages) persisted) := by
  cases persisted with
  | none => exact ⟨.inl rfl, fun known => absurd rfl known⟩
  | some body => exact ⟨.inr rfl, fun known => absurd rfl known⟩
theorem kept_step {agent : Agent Description Packages} (kept : Kept agent) :
    ∀ event : Event Description Packages, Kept (step agent event)
  | .setCustomConfig body =>
    ⟨setCustomConfig_computed agent body, fun _ => by simp [step, setCustomConfig, calcRemoteConfig_agent]⟩
  | .updateStatus report => ⟨updateStatus_computed kept.1 report, fun _ => updateStatus_configured kept.2 report⟩
  | .connection => kept
theorem live_append (persisted : Option Bytes) (events : List (Event Description Packages))
    (event : Event Description Packages) : live persisted (events ++ [event]) = step (live persisted events) event := by
  rw [live, List.foldl_append]
  rfl
theorem kept_live (persisted : Option Bytes) (events : List (Event Description Packages)) : Kept (live persisted events) := by
  induction events using List.reverseRecOn with
  | nil => exact kept_load persisted
  | append_singleton events event ih =>
    rw [live_append]
    exact kept_step ih event

theorem kept_configured {agent : Agent Description Packages} (kept : Kept agent) : Configured agent := by
  refine ⟨?_, processStatusUpdate_ok kept.2⟩
  intro known
  rcases kept.1 with absent | present
  · exact absurd absent (kept.2 known)
  · exact ⟨remoteConfigOf agent.customInstanceConfig, present, rfl, by simp [remoteConfigOf]⟩

/-! ### The agents of the registry -/

variable [DecidableEq Conn] [Ulids]

/-- Every registered agent has been created and then lived through some events. -/
def AllLive (agents : Agents Conn Description Packages) : Prop :=
  ∀ id registered, agents.agentsById id = some registered → ∃ persisted events, registered.agent = live persisted events

omit [Ulids] in
theorem findOrCreateAgent_live {agents : Agents Conn Description Packages} (alive : AllLive agents)
    (agentId : InstanceId) (conn : Conn) (persisted : Option Bytes) :
    (∃ persisted' events, (findOrCreateAgent agents agentId conn persisted).2.agent = live persisted' events) ∧
      ∀ id, id ≠ agentId →
        (findOrCreateAgent agents agentId conn persisted).1.agentsById id = agents.agentsById id := by
  cases known : agents.agentsById agentId with
  | some registered =>
    rw [findOrCreateAgent, known]
    exact ⟨alive agentId registered known, fun _ _ => rfl⟩
  | none =>
    rw [findOrCreateAgent, known]
    exact ⟨⟨persisted, [], rfl⟩, fun id different => Function.update_of_ne different _ _⟩

theorem allLive_step {server : Server Conn Description Packages} (alive : AllLive server.agents)
    (event : AgentRegistry.Event Conn Description Packages) : AllLive (AgentRegistry.step server event).agents := by
  intro id registered found
  cases event with
  | connect conn => exact alive id registered found
  | disconnect conn =>
    have kept : deleteAll server.agents.agentsById (associated server.agents conn) id = some registered := found
    rw [deleteAll_apply] at kept
    by_cases member : id ∈ associated server.agents conn
    · simp [member] at kept
    · exact alive id registered (by simpa [member] using kept)
  | configure agentId body =>
    cases known : server.agents.agentsById agentId with
    | none => exact alive id registered (by simpa [AgentRegistry.step, setCustomConfigForAgent, known] using found)
    | some before =>
      by_cases same : id = agentId
      · have now : registered = ⟨before.conn, setCustomConfig before.agent body⟩ := by
          simpa [AgentRegistry.step, setCustomConfigForAgent, known, same] using found.symm
        obtain ⟨persisted, events, lived⟩ := alive agentId before known
        refine ⟨persisted, events ++ [.setCustomConfig body], ?_⟩
        rw [now, live_append, ← lived]
        rfl
      · exact alive id registered (by simpa [AgentRegistry.step, setCustomConfigForAgent, known, same] using found)
  | message conn message =>
    cases known : instanceIdOf message.instanceUid with
    | none => exact alive id registered (by simpa [AgentRegistry.step, onMessage, known] using found)
    | some instanceId =>
      obtain ⟨⟨persisted, events, lived⟩, others⟩ :=
        findOrCreateAgent_live alive instanceId conn message.persisted
      by_cases same : id = instanceId
      · have now := found
        simp only [AgentRegistry.step, onMessage, known, same, Function.update_self, Option.some.injEq] at now
        refine ⟨persisted, events ++ [.updateStatus message.report], ?_⟩
        rw [← now, live_append, ← lived]
        rfl
      · refine alive id registered ?_
        rw [← others id same]
        simpa [AgentRegistry.step, onMessage, known, same] using found

theorem allLive_run (events : List (AgentRegistry.Event Conn Description Packages)) :
    AllLive (AgentRegistry.run events).agents := by
  induction events using List.reverseRecOn with
  | nil =>
    intro id registered found
    cases found
  | append_singleton events event ih =>
    rw [run_append]
    exact allLive_step ih event

/-- Whatever has happened to an agent, and in whatever registry it is: its
    remote configuration is that of its text once it has a status, and every
    report is processed without following a nil pointer. -/
theorem agents_configured :
    (∀ (persisted : Option Bytes) (events : List (Event Description Packages)), Configured (live persisted events)) ∧
      ∀ (events : List (AgentRegistry.Event Conn Description Packages)) (id : InstanceId)
        (registered : Registered Conn Description Packages),
        (AgentRegistry.run events).agents.agentsById id = some registered → Configured registered.agent := by
  constructor
  · intro persisted events
    exact kept_configured (kept_live persisted events)
  · intro events id registered found
    obtain ⟨persisted, history, lived⟩ := allLive_run events id registered found
    rw [lived]
    exact kept_configured (kept_live persisted history)

end

end

/-! ### An agent without its configuration -/

section
local instance emptyHash : Hashing := ⟨fun _ => []⟩
local instance onlyUids : Ulids := ⟨fun _ => none⟩

/-- An agent that had a status without a remote configuration would take the
    server down with its next report of a configuration. -/
example : processStatusUpdate
    ({ status := some { sequenceNum := 0, capabilities := 0 } } : Agent String Unit)
    { sequenceNum := 1, capabilities := 0, remoteConfigStatus := some { lastRemoteConfigHash := [1] } } {} =
      .error .remoteConfig := by rfl

theorem heard_agent_configured :
    ∃ registered, (AgentRegistry.run [.connect 0, .message 0 heard] : Server Nat Unit Unit).agents.agentsById
        (List.replicate 16 0) = some registered ∧ Configured registered.agent := by
  obtain ⟨registered, found⟩ := Option.isSome_iff_exists.mp (show ((AgentRegistry.run [.connect 0, .message 0 heard] :
    Server Nat Unit Unit).agents.agentsById (List.replicate 16 0)).isSome = true by decide)
  exact ⟨registered, found, agents_configured.2 [.connect 0, .message 0 heard] _ registered found⟩

end

end Openlit.AgentPointers
